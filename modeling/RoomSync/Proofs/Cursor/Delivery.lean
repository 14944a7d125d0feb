/-
  RoomSync.Proofs.Cursor.Delivery
  ───────────────────────────────
  **WHEN A BATCH IS DELIVERED, AND WHEN ITS CURSOR IS STORED.**

  Between the two a session can stop, and storage or the crypto engine can
  fail.  A session that stores the cursor first can lose the batch, one that
  stores it last can deliver the batch again, and neither can do both:

      FirstStored    — the cursor first: nothing is delivered without it
      LastStored     — the cursor last: it is not stored without the rest
      OnlyClassified — no cursor: nothing is stored

  In a run of such steps the session, storage and the polls agree on the
  cursor at any time (`delivery_modes`).  Which cursor is in storage at some
  place of a run is read off the effects before it (`storedAfter`).
-/
import RoomSync.Proofs.Cursor.Writes

namespace RoomSync.Cursor

/-! ## §1. The cursor in storage, effect by effect. -/

/-- The cursor in storage after some effects, where `cursor` was before. -/
def storedAfter (cursor : Option String) (fx : List Effect) : Option String :=
  (cursorWrites fx).getLast?.getD cursor

theorem storedAfter_append (cursor : Option String) (fx fx' : List Effect) :
    storedAfter cursor (fx ++ fx') = storedAfter (storedAfter cursor fx) fx' := by
  unfold storedAfter
  rw [cursorWrites_append, List.getLast?_append]
  cases (cursorWrites fx').getLast? <;> rfl

theorem storedAfter_quiet {cursor : Option String} {fx : List Effect}
    (h : cursorWrites fx = []) : storedAfter cursor fx = cursor := by
  unfold storedAfter
  rw [h]
  rfl

/-- Once a cursor is stored, what is delivered leaves it there. -/
theorem storedAfter_write (cursor : Option String) (c : String) {fx : List Effect}
    (h : ∀ x ∈ fx, x.Delivers) :
    storedAfter cursor (.write (.cursor (some c)) :: fx) = some c := by
  have hsplit := storedAfter_append cursor [.write (.cursor (some c))] fx
  rw [List.singleton_append] at hsplit
  rw [hsplit, storedAfter_quiet (cursorWrites_delivers h)]
  rfl

/-! ## §2. One batch. -/

variable (s : Services)

/-- A batch that the crypto engine refuses in one world is refused in every
world: no signal, and nothing changed. -/
theorem classify_refused {b : Batch} {w : World} {e : SyncError}
    (hrefused : (classify s b w).answer = .error e) (v : World) :
    Effect.signals (classify s b v).effects = [] ∧ (classify s b v).state = v
      ∧ (classify s b v).answer ≠ .ok () := by
  obtain ⟨fx, hfx, ⟨e', hall⟩ | hdone⟩ := classify_cases s b
  · rw [hall v]
    refine ⟨?_, rfl, fun h => by cases h⟩
    refine List.filterMap_eq_nil_iff.2 fun x hx => ?_
    rw [hfx x hx]
  · -- a batch that was announced was not refused
    rw [hdone w] at hrefused
    cases hrefused

/-- **The cursor first.**  Whatever of the batch reaches anyone does so with
the batch's cursor in storage, and the batch is classified from there on; if
the cursor cannot be stored, nothing is done at all. -/
structure FirstStored (b : Batch) (session : Session Loop) : Prop where
  delivered : ∀ done x rest, (process s b session).effects = done ++ x :: rest → x.Delivers →
    storedAfter session.document.cursor done = some b.nextBatch
  classified : session.fault .setCursor = none →
    (process s b session).state = classified s b (atCursor b.nextBatch session)
  refused : ∀ e, session.fault .setCursor = some e →
    process s b session = ⟨session, [], .error e⟩

/-- **The cursor last.**  It is stored only after all that the batch leads to,
and then stands; on any error it stays where it was, in the session and in
storage. -/
structure LastStored (b : Batch) (session : Session Loop) : Prop where
  stored : ∀ done cursor rest,
    (process s b session).effects = done ++ .write (.cursor cursor) :: rest →
      cursor = some b.nextBatch ∧ rest = [] ∧ done = (classify s b session.world).effects
        ∧ Effect.signals done = Effect.signals (process s b session).effects
        ∧ (classify s b session.world).answer = .ok ()
  moved : (process s b session).answer = .ok () →
    (process s b session).state.document.cursor = some b.nextBatch
  failed : ∀ e, (process s b session).answer = .error e →
    (process s b session).state.loop = session.loop
      ∧ (process s b session).state.document = session.document

/-- **No cursor.**  The batch is classified, and neither cursor moves. -/
structure OnlyClassified (b : Batch) (session : Session Loop) : Prop where
  effects : (process s b session).effects = (classify s b session.world).effects
  answer : (process s b session).answer = (classify s b session.world).answer
  classifier : (process s b session).state.world.classifier =
    (classify s b session.world).state.classifier
  loop : (process s b session).state.loop = session.loop
  document : (process s b session).state.document = session.document

section Orders

variable {b : Batch} {session : Session Loop}

/-- An effect of a batch that comes after the cursor was stored. -/
theorem stored_before_delivered {fx done rest : List Effect} {x : Effect} {c : String}
    (hfx : ∀ y ∈ fx, y.Delivers)
    (hsplit : .write (.cursor (some c)) :: fx = done ++ x :: rest) (hx : x.Delivers)
    (cursor : Option String) : storedAfter cursor done = some c := by
  cases done with
  | nil =>
      -- the write itself is not delivered to anyone
      obtain ⟨rfl, -⟩ := List.cons.inj hsplit
      exact hx.elim
  | cons y done =>
      obtain ⟨rfl, htail⟩ := List.cons.inj hsplit
      refine storedAfter_write cursor c fun y hy => hfx y ?_
      rw [htail]
      exact List.mem_append_left _ hy

theorem firstStored (hnext : b.nextBatch ≠ "")
    (hmode : session.loop.options.persistAfter = false) : FirstStored s b session := by
  refine ⟨?_, fun hworks => ?_, fun e hfault => process_refused hnext hmode hfault⟩
  · intro done x rest hsplit hx
    cases hfault : session.fault .setCursor with
    | some e =>
        rw [process_refused hnext hmode hfault] at hsplit
        exact absurd hsplit (by simp)
    | none =>
        rw [process_early hnext hmode hfault] at hsplit
        exact stored_before_delivered (delivers_classify s b _) hsplit hx _
  · rw [process_early hnext hmode hworks]

theorem lastStored (hnext : b.nextBatch ≠ "")
    (hmode : session.loop.options.persistAfter = true) : LastStored s b session := by
  have hdelivers := delivers_classify s b session.world
  by_cases hdone : (classify s b session.world).answer = .ok ()
      ∧ session.fault .setCursor = none
  · have hprocess := process_late hnext hmode hdone.1 hdone.2
    refine ⟨?_, ?_, ?_⟩
    · intro done cursor rest hsplit
      rw [hprocess] at hsplit ⊢
      -- what is delivered holds no write, so the write is the last effect
      rcases split_append hsplit with ⟨tail, hin, -⟩ | ⟨mid, hmid, hlast⟩
      · have hwrite := hdelivers (.write (.cursor cursor)) (by rw [hin]; simp)
        exact hwrite.elim
      · cases mid with
        | cons y mid => simp at hlast
        | nil =>
            rw [List.append_nil] at hmid
            obtain ⟨hcursor, hrest⟩ := List.cons.inj hlast
            cases hcursor
            refine ⟨rfl, hrest.symm, hmid, ?_, hdone.1⟩
            rw [hmid, Effect.signals_append]
            exact (List.append_nil _).symm
    · intro _
      rw [hprocess]
      rfl
    · intro e he
      rw [hprocess] at he
      cases he
  · obtain ⟨e, hprocess⟩ :=
      process_stopped hnext hmode (Classical.not_and_iff_not_or_not.1 hdone)
    refine ⟨?_, ?_, ?_⟩
    · intro done cursor rest hsplit
      rw [hprocess] at hsplit
      have hwrite := hdelivers (.write (.cursor cursor)) (by rw [hsplit]; simp)
      exact hwrite.elim
    · intro hok
      rw [hprocess] at hok
      cases hok
    · intro e' _
      rw [hprocess]
      exact ⟨rfl, document_classified s b session⟩

theorem onlyClassified (hnext : b.nextBatch = "") : OnlyClassified s b session := by
  have hprocess : process s b session =
      ⟨classified s b session, (classify s b session.world).effects,
        (classify s b session.world).answer⟩ := process_unmarked hnext
  refine ⟨?_, ?_, ?_, ?_, ?_⟩
  · rw [hprocess]
  · rw [hprocess]
  · rw [hprocess]
    rfl
  · rw [hprocess]
    rfl
  · rw [hprocess]
    exact document_classified s b session

/-- A batch that the crypto engine refuses is not announced, in whatever order
it is taken in. -/
theorem process_unannounced {w : World} {e : SyncError}
    (hrefused : (classify s b w).answer = .error e) :
    Effect.signals (process s b session).effects = []
      ∧ (process s b session).state.world.classifier = session.world.classifier := by
  have hnone := classify_refused s hrefused
  by_cases hnext : b.nextBatch = ""
  · rw [process_unmarked hnext]
    exact ⟨(hnone session.world).1, congrArg World.classifier (hnone session.world).2.1⟩
  · cases hmode : session.loop.options.persistAfter with
    | true =>
        obtain ⟨e', hprocess⟩ :=
          process_stopped hnext hmode (.inl (hnone session.world).2.2)
        rw [hprocess]
        exact ⟨(hnone session.world).1, congrArg World.classifier (hnone session.world).2.1⟩
    | false =>
        cases hfault : session.fault .setCursor with
        | some e' =>
            rw [process_refused hnext hmode hfault]
            exact ⟨rfl, rfl⟩
        | none =>
            -- the cursor is stored, and that is all
            have hnone := hnone (atCursor b.nextBatch session).world
            rw [process_early hnext hmode hfault]
            refine ⟨hnone.1, ?_⟩
            show (classify s b (atCursor b.nextBatch session).world).state.classifier = _
            rw [hnone.2.1]
            rfl

end Orders

/-! ## §3. Runs. -/

/-- The runs of a session that could be set up, with all that it did outside
since.  At any time the services, the replies of the homeserver and the faults
of storage may become other ones. -/
inductive Running (start : Session Loop) : List Effect → Session Loop → Prop
  | prepared (hok : (prepare start).answer = .ok ()) : Running start [] (prepare start).state
  | later {history : List Effect} {session : Session Loop} (h : Running start history session)
      (faults : StoreMethod → Option SyncError) (server : Homeserver) :
      Running start history (session.later faults server)
  | polled {history : List Effect} {session : Session Loop} (h : Running start history session)
      (s : Services) :
      Running start (history ++ ((strategy s).poll session).effects)
        ((strategy s).poll session).state
  | processed {history : List Effect} {session : Session Loop}
      (h : Running start history session) (s : Services) (b : Batch) :
      Running start (history ++ (process s b session).effects) (process s b session).state

/-- The cursor with which a session is set up. -/
def firstCursor (start : Session Loop) : Option String := (prepare start).state.document.cursor

/-- What a run keeps: one cursor, in the session, in storage and in every
poll. -/
structure InStep (start : Session Loop) (history : List Effect) (session : Session Loop) :
    Prop where
  cursor : session.loop.cursor = session.document.cursor
  stored : session.document.cursor = storedAfter (firstCursor start) history
  polls : ∀ done request rest, history = done ++ .call (.sync request) :: rest →
    request.since = storedAfter (firstCursor start) done

/-- **A poll** carries the cursor in storage. -/
theorem InStep.polled {start : Session Loop} {history : List Effect} {session : Session Loop}
    (h : InStep start history session) :
    InStep start (history ++ ((strategy s).poll session).effects)
      ((strategy s).poll session).state := by
  obtain ⟨hloop, hdocument, hfx⟩ := poll_outcome s session
  rw [hfx]
  refine ⟨?_, ?_, ?_⟩
  · rw [hloop, hdocument]
    exact h.cursor
  · rw [hdocument, storedAfter_append, storedAfter_quiet rfl]
    exact h.stored
  · intro done request rest hsplit
    rcases split_append hsplit with ⟨tail, hold, -⟩ | ⟨mid, hmid, hnew⟩
    · exact h.polls done request tail hold
    · -- the request is the new one
      cases mid with
      | cons y mid => simp at hnew
      | nil =>
          obtain ⟨hrequest, -⟩ := List.cons.inj hnew
          cases hrequest
          rw [hmid, List.append_nil, ← h.stored]
          exact h.cursor

/-- **A batch** moves both cursors or none, and asks the homeserver nothing. -/
theorem InStep.processed {start : Session Loop} {history : List Effect}
    {session : Session Loop} (h : InStep start history session) (b : Batch) :
    InStep start (history ++ (process s b session).effects) (process s b session).state := by
  obtain ⟨hfx, -, -, hmoved⟩ := process_moved s b session
  refine ⟨?_, ?_, ?_⟩
  · rcases hmoved with ⟨hloop, hdocument, -⟩ | ⟨hloop, hdocument, -⟩
    · rw [hloop, hdocument]
      exact h.cursor
    · rw [hloop, hdocument]
  · rw [storedAfter_append, ← h.stored]
    rcases hmoved with ⟨-, hdocument, hwrites⟩ | ⟨-, hdocument, hwrites⟩
    · rw [hdocument, storedAfter_quiet hwrites]
    · rw [hdocument]
      unfold storedAfter
      rw [hwrites]
      rfl
  · intro done request rest hsplit
    rcases split_append hsplit with ⟨tail, hold, -⟩ | ⟨mid, -, hnew⟩
    · exact h.polls done request tail hold
    · rcases hfx (.call (.sync request)) (by rw [hnew]; simp) with hdelivers | hwrite
      · exact hdelivers.elim
      · cases hwrite

theorem Running.inStep {start : Session Loop} {history : List Effect} {session : Session Loop}
    (h : Running start history session) : InStep start history session := by
  induction h with
  | prepared hok =>
      refine ⟨(prepare_opened start).cursor hok, rfl, ?_⟩
      intro done request rest hsplit
      exact absurd hsplit (by simp)
  | later _ faults server ih => exact ⟨ih.cursor, ih.stored, ih.polls⟩
  | polled _ s ih => exact ih.polled s
  | processed _ s b ih => exact ih.processed s b

/-- **Delivery and the cursor.**  At any time of a run the session's cursor is
the one in storage, every poll carried the one in storage at its time, and a
poll moves neither, whatever the reply.  A batch with a cursor is delivered
after the cursor is stored, or the cursor is stored after the batch is
delivered, as the session is set up.  A batch that cannot be classified leads
to no signal and leaves the classifier as it was.  A batch without a cursor is
classified and moves no cursor. -/
theorem delivery_modes {start : Session Loop} {history : List Effect} {session : Session Loop}
    (h : Running start history session) :
    session.loop.cursor = session.document.cursor
      ∧ session.document.cursor = storedAfter (firstCursor start) history
      ∧ (∀ done request rest, history = done ++ .call (.sync request) :: rest →
          request.since = storedAfter (firstCursor start) done)
      ∧ (∀ s : Services, ((strategy s).poll session).state.loop = session.loop
          ∧ ((strategy s).poll session).state.document = session.document)
      ∧ (∀ (s : Services) (b : Batch), b.nextBatch ≠ "" →
          session.loop.options.persistAfter = false → FirstStored s b session)
      ∧ (∀ (s : Services) (b : Batch), b.nextBatch ≠ "" →
          session.loop.options.persistAfter = true → LastStored s b session)
      ∧ (∀ (s : Services) (b : Batch) (w : World) (e : SyncError),
          (classify s b w).answer = .error e →
            Effect.signals (process s b session).effects = []
              ∧ (process s b session).state.world.classifier = session.world.classifier)
      ∧ ∀ (s : Services) (b : Batch), b.nextBatch = "" → OnlyClassified s b session := by
  obtain ⟨hcursor, hstored, hpolls⟩ := h.inStep
  refine ⟨hcursor, hstored, hpolls, ?_, ?_, ?_, ?_, ?_⟩
  · intro s
    obtain ⟨hloop, hdocument, -⟩ := poll_outcome s session
    exact ⟨hloop, hdocument⟩
  · intro s b hnext hmode
    exact firstStored s hnext hmode
  · intro s b hnext hmode
    exact lastStored s hnext hmode
  · intro s b w e hrefused
    exact process_unannounced s hrefused
  · intro s b hnext
    exact onlyClassified s hnext

/-! ## §4. A batch that is lost. -/

namespace LostBatch

def user : UserId := ⟨"@losing:x", by decide +kernel⟩

/-- A session that has a cursor in storage. -/
def start : Session Loop :=
  ⟨{}, { classifier := { user }, store := { document := { cursor := some "s0" } } }⟩

/-- A crypto engine that refuses everything. -/
def refusing : Services :=
  { crypto := some
      { isEncrypted := fun _ => true
        decrypt := fun _ _ => .error .cryptoNotReady
        update := fun _ => .error .cryptoNotReady } }

def batch : Batch := { nextBatch := "s1", accountData := [.string "tag"] }

/-- The session that polled, took the batch in and failed. -/
def session : Session Loop :=
  (process refusing batch ((strategy {}).poll (prepare start).state).state).state

def history : List Effect :=
  [.call (.sync { since := some "s0", filter := none, timeoutMs := 30000 }),
    .write (.cursor (some "s1")), .call (.updateCrypto batch.cryptoUpdate)]

theorem running : Running start history session := by
  have hprepared : Running start [] (prepare start).state := .prepared rfl
  exact (hprepared.polled {}).processed refusing batch

end LostBatch

open LostBatch in
/-- Its cursor is stored and none of it was announced, so that the next poll
goes on after it. -/
theorem lost_batch_moves_cursor :
    Running start history session
      ∧ session.loop.cursor = some "s1"
      ∧ session.loop.cursor = session.document.cursor
      ∧ session.document.cursor = storedAfter (firstCursor start) history
      ∧ Effect.signals (process refusing batch session).effects = [] := by
  obtain ⟨hcursor, hstored, -, -, -, -, hrefused, -⟩ := delivery_modes running
  exact ⟨running, rfl, hcursor, hstored,
    (hrefused refusing batch session.world .cryptoNotReady rfl).1⟩

end RoomSync.Cursor
