/-
  RoomSync.Proofs.Cursor.FilterRuns
  ─────────────────────────────────
  **A CURSOR STAYS WITH ITS FILTER.**

  A cursor is of use only under the filter it was issued under.  Sessions
  follow one another on one storage, each with a filter of its own; every call
  to storage, to the homeserver and to the crypto engine may fail.  A run keeps
  a log of what was asked, answered and written.  In it, the cursor of every
  poll was issued under the filter of that poll (`poll_filter_of_cursor`).

  Which filter a cursor was issued under is nowhere stored.  It is found in the
  log, and the invariant (`Kept`) says that it is the filter in storage:

      issued  — the cursor in storage, and the filter in storage
      open    — what the open session has is what is in storage
      polls   — all polls of a session are made under its filter
-/
import RoomSync.Proofs.Cursor.Writes

namespace RoomSync.Cursor

/-! ## §1. Runs. -/

inductive Deed where
  /-- A session was set up, or failed to be. -/
  | opened
  | polled (reply : Except SyncError Batch)
  /-- The answer of an earlier poll was taken in. -/
  | processed (poll : Nat)

/-- What was done, and what it did outside. -/
structure Entry where
  deed : Deed
  effects : List Effect

inductive Move where
  | start (user : UserId) (options : Options)
  | poll
  /-- Take in the answer of the poll with this place in the log. -/
  | process (poll : Nat)

/-- What a move meets: any of it may be other at the next move. -/
structure Circumstances where
  services : Services := {}
  faults : StoreMethod → Option SyncError := fun _ => none
  server : Homeserver := {}

/-- The storage that the sessions share, and what has happened. -/
structure Scene where
  document : Document := {}
  /-- The session that could be set up last. -/
  session : Option (Session Loop) := none
  /-- The place in the log where it was set up. -/
  since : Nat := 0
  log : List Entry := []

namespace Scene

/-- A new session in some circumstances, on this storage. -/
def fresh (scene : Scene) (around : Circumstances) (user : UserId) (options : Options) :
    Session Loop where
  loop := { options }
  world :=
    { classifier := { user }
      store := { document := scene.document, faults := around.faults }
      server := around.server }

/-- One move.  A session that cannot be set up is not used; only answers of
the same session are taken in. -/
def step (scene : Scene) (around : Circumstances) : Move → Scene
  | .start user options =>
      let o := prepare (scene.fresh around user options)
      { document := o.state.document
        session := match o.answer with
          | .ok _ => some o.state
          | .error _ => none
        since := scene.log.length
        log := scene.log ++ [⟨.opened, o.effects⟩] }
  | .poll =>
      match scene.session with
      | none => scene
      | some session =>
          let o := (strategy around.services).poll (session.later around.faults around.server)
          { scene with
            session := some o.state
            log := scene.log ++ [⟨.polled o.answer, o.effects⟩] }
  | .process poll =>
      match scene.session, scene.log[poll]? with
      | some session, some ⟨.polled (.ok b), _⟩ =>
          if scene.since ≤ poll then
            let o := process around.services b (session.later around.faults around.server)
            { scene with
              document := o.state.document
              session := some o.state
              log := scene.log ++ [⟨.processed poll, o.effects⟩] }
          else scene
      | _, _ => scene

/-- Moves in order, each in its circumstances, from empty storage on. -/
def run (moves : List (Move × Circumstances)) : Scene :=
  moves.foldl (fun scene m => scene.step m.2 m.1) {}

end Scene

/-! ## §2. Where a cursor comes from. -/

/-- At this place of a log, this request was made and got this reply. -/
def Polled (log : List Entry) (k : Nat) (request : Request) (reply : Except SyncError Batch) :
    Prop :=
  ∃ asked, log[k]? = some ⟨.polled reply, asked⟩ ∧ .call (.sync request) ∈ asked

/-- The cursor that stands before place `n` of a log was issued under this
filter: a poll carried the filter, its answer was taken in and gave the
cursor, and nothing has been written to the cursor since. -/
def Issued (log : List Entry) (n : Nat) (cursor : String) (filter : Option String) : Prop :=
  ∃ (i j : Nat) (b : Batch) (request : Request) (done : List Effect),
    i < j ∧ j < n
      ∧ Polled log i request (.ok b) ∧ request.filter = filter
      ∧ log[j]? = some ⟨.processed i, done⟩ ∧ b.nextBatch = cursor
      ∧ cursorWrites done = [some cursor]
      ∧ ∀ k e, j < k → k < n → log[k]? = some e → cursorWrites e.effects = []

/-- A log that grows by one entry. -/
theorem getElem?_snoc (log : List Entry) (e x : Entry) (k : Nat) :
    (log ++ [e])[k]? = some x ↔ log[k]? = some x ∨ (k = log.length ∧ e = x) := by
  rcases Nat.lt_trichotomy k log.length with h | h | h
  · rw [List.getElem?_append_left h]
    exact ⟨.inl, fun hx => hx.elim id fun hx => by omega⟩
  · subst h
    rw [List.getElem?_append_right (Nat.le_refl _), Nat.sub_self,
      List.getElem?_eq_none (Nat.le_refl _)]
    simp
  · rw [List.getElem?_append_right (by omega), List.getElem?_eq_none (by simp; omega),
      List.getElem?_eq_none (by omega : log.length ≤ k)]
    constructor
    · intro hx
      cases hx
    · rintro (hx | ⟨hk, -⟩)
      · cases hx
      · omega

theorem length_snoc (log : List Entry) (e : Entry) : (log ++ [e]).length = log.length + 1 :=
  List.length_append

theorem Polled.lt {log : List Entry} {k : Nat} {request : Request}
    {reply : Except SyncError Batch} (h : Polled log k request reply) : k < log.length := by
  obtain ⟨asked, hk, -⟩ := h
  exact (List.getElem?_eq_some_iff.1 hk).1

theorem Polled.snoc {log : List Entry} {k : Nat} {request : Request}
    {reply : Except SyncError Batch} (h : Polled log k request reply) (e : Entry) :
    Polled (log ++ [e]) k request reply := by
  obtain ⟨asked, hk, hcall⟩ := h
  exact ⟨asked, (getElem?_snoc log e _ k).2 (.inl hk), hcall⟩

/-- A poll of a log that grew is an old one, or the new entry. -/
theorem polled_snoc {log : List Entry} {e : Entry} {k : Nat} {request : Request}
    {reply : Except SyncError Batch} (h : Polled (log ++ [e]) k request reply) :
    Polled log k request reply
      ∨ (k = log.length ∧ e.deed = .polled reply ∧ .call (.sync request) ∈ e.effects) := by
  obtain ⟨asked, hk, hcall⟩ := h
  rcases (getElem?_snoc log e _ k).1 hk with hold | ⟨hlen, rfl⟩
  · exact .inl ⟨asked, hold, hcall⟩
  · exact .inr ⟨hlen, rfl, hcall⟩

/-- A poll of a log that grew by a poll is an old one, or that one. -/
theorem polled_snoc_poll {log : List Entry} {k : Nat} {request made : Request}
    {reply answer : Except SyncError Batch}
    (h : Polled (log ++ [⟨.polled answer, [.call (.sync made)]⟩]) k request reply) :
    Polled log k request reply ∨ (k = log.length ∧ request = made) := by
  rcases polled_snoc h with hold | ⟨hlen, -, hcall⟩
  · exact .inl hold
  · cases List.mem_singleton.1 hcall
    exact .inr ⟨hlen, rfl⟩

/-- Later entries do not change where a cursor came from. -/
theorem Issued.snoc {log : List Entry} {n : Nat} {c : String} {filter : Option String}
    (h : Issued log n c filter) (hn : n ≤ log.length) (e : Entry) :
    Issued (log ++ [e]) n c filter := by
  obtain ⟨i, j, b, request, done, hij, hjn, hi, hf, hj, hb, hw, hquiet⟩ := h
  refine ⟨i, j, b, request, done, hij, hjn, hi.snoc e, hf,
    (getElem?_snoc log e _ j).2 (.inl hj), hb, hw, ?_⟩
  intro k e' hjk hkn he'
  rcases (getElem?_snoc log e e' k).1 he' with hold | ⟨hk, -⟩
  · exact hquiet k e' hjk hkn hold
  · omega

/-- An entry that does not write to the cursor leaves it standing. -/
theorem Issued.stands {log : List Entry} {c : String} {filter : Option String}
    (h : Issued log log.length c filter) {e : Entry} (he : cursorWrites e.effects = []) :
    Issued (log ++ [e]) (log ++ [e]).length c filter := by
  obtain ⟨i, j, b, request, done, hij, hjn, hi, hf, hj, hb, hw, hquiet⟩ :=
    h.snoc (Nat.le_refl _) e
  refine ⟨i, j, b, request, done, hij, ?_, hi, hf, hj, hb, hw, ?_⟩
  · rw [length_snoc]
    omega
  · intro k e' hjk hkn he'
    rcases (getElem?_snoc log e e' k).1 he' with hold | ⟨-, rfl⟩
    · exact hquiet k e' hjk (List.getElem?_eq_some_iff.1 hold).1 he'
    · exact he

/-- The entry that takes an answer in issues its cursor. -/
theorem issued_here {log : List Entry} {i : Nat} {request : Request} {b : Batch}
    (hi : Polled log i request (.ok b)) {done : List Effect}
    (hw : cursorWrites done = [some b.nextBatch]) :
    Issued (log ++ [Entry.mk (.processed i) done]) (log ++ [Entry.mk (.processed i) done]).length
      b.nextBatch request.filter := by
  refine ⟨i, log.length, b, request, done, hi.lt, ?_, hi.snoc _, rfl,
    (getElem?_snoc log _ _ _).2 (.inr ⟨rfl, rfl⟩), rfl, hw, ?_⟩
  · rw [length_snoc]
    omega
  · intro k e hk hkn _
    rw [length_snoc] at hkn
    omega

/-! ## §3. The invariant. -/

/-- The id of the filter in storage. -/
def Scene.filterId (scene : Scene) : Option String := scene.document.filter.map (·.id)

/-- What an open session has is what is in storage. -/
structure Current (scene : Scene) (session : Session Loop) : Prop where
  document : session.document = scene.document
  filterId : session.loop.filterId = scene.filterId
  cursor : session.loop.cursor = scene.document.cursor
  polls : ∀ k request reply, scene.since ≤ k → Polled scene.log k request reply →
    request.filter = scene.filterId

/-- **The invariant of runs.** -/
structure Kept (scene : Scene) : Prop where
  issued : ∀ c, scene.document.cursor = some c →
    Issued scene.log scene.log.length c scene.filterId
  current : ∀ session, scene.session = some session → Current scene session
  requests : ∀ k reply asked, scene.log[k]? = some (Entry.mk (.polled reply) asked) →
    ∃ request, Polled scene.log k request reply
  history : ∀ k request reply c, Polled scene.log k request reply → request.since = some c →
    Issued scene.log k c request.filter

theorem kept_empty : Kept {} where
  issued := by
    intro c h
    cases h
  current := by
    intro session h
    cases h
  requests := by
    intro k reply asked h
    cases h
  history := by
    rintro k request reply c ⟨asked, h, -⟩
    cases h

/-- A log that grows by an entry that is no poll. -/
theorem Kept.log_snoc {scene : Scene} (h : Kept scene) {e : Entry}
    (he : ∀ reply, e.deed ≠ .polled reply) :
    (∀ k request reply, Polled (scene.log ++ [e]) k request reply →
        Polled scene.log k request reply)
      ∧ (∀ k reply asked, (scene.log ++ [e])[k]? = some (Entry.mk (.polled reply) asked) →
          ∃ request, Polled (scene.log ++ [e]) k request reply)
      ∧ ∀ k request reply c, Polled (scene.log ++ [e]) k request reply →
          request.since = some c → Issued (scene.log ++ [e]) k c request.filter := by
  have hold : ∀ k request reply, Polled (scene.log ++ [e]) k request reply →
      Polled scene.log k request reply := by
    intro k request reply hk
    rcases polled_snoc hk with hk | ⟨-, hdeed, -⟩
    · exact hk
    · exact absurd hdeed (he reply)
  refine ⟨hold, ?_, ?_⟩
  · intro k reply asked hk
    rcases (getElem?_snoc scene.log e _ k).1 hk with hk | ⟨-, rfl⟩
    · obtain ⟨request, hrequest⟩ := h.requests k reply asked hk
      exact ⟨request, hrequest.snoc e⟩
    · exact absurd rfl (he reply)
  · intro k request reply c hk hsince
    have hk := hold k request reply hk
    exact (h.history k request reply c hk hsince).snoc (Nat.le_of_lt hk.lt) e

/-! ## §4. The moves. -/

/-- **A new session**: whatever fails, a cursor is left only with its
filter. -/
theorem Kept.start {scene : Scene} (h : Kept scene) (around : Circumstances) (user : UserId)
    (options : Options) : Kept (scene.step around (.start user options)) := by
  have hopened := prepare_opened (scene.fresh around user options)
  obtain ⟨hpolls, hrequests, hhistory⟩ := h.log_snoc
    (e := ⟨.opened, (prepare (scene.fresh around user options)).effects⟩)
    fun reply heq => by cases heq
  refine ⟨?_, ?_, hrequests, hhistory⟩
  · intro c hc
    -- a cursor that is still there was not touched, nor was the filter
    rcases hopened.kept with hnone | ⟨hsame, hquiet⟩
    · have hc : some c = none := hc.symm.trans hnone
      cases hc
    · have hsame : (prepare (scene.fresh around user options)).state.document =
        scene.document := hsame
      have hfilter : (scene.step around (.start user options)).filterId = scene.filterId := by
        show (prepare (scene.fresh around user options)).state.document.filter.map _ = _
        rw [hsame]
        rfl
      have hc : scene.document.cursor = some c :=
        (congrArg Document.cursor hsame).symm.trans hc
      rw [hfilter]
      exact (h.issued c hc).stands hquiet
  · intro session hsession
    unfold Scene.step at hsession
    dsimp only at hsession
    split at hsession
    next a hok =>
      obtain rfl := Option.some.inj hsession
      refine ⟨rfl, hopened.filterId hok, hopened.cursor hok, ?_⟩
      intro k request reply hk hpolled
      -- no poll was made yet
      have hlt := (hpolls k request reply hpolled).lt
      have hk : scene.log.length ≤ k := hk
      omega
    next => cases hsession

/-- **A poll** carries the cursor and the filter in storage. -/
theorem Kept.poll {scene : Scene} (h : Kept scene) (around : Circumstances) :
    Kept (scene.step around .poll) := by
  unfold Scene.step
  cases hsession : scene.session with
  | none => exact h
  | some session =>
      obtain ⟨hdocument, hid, hcursor, hpolls⟩ := h.current session hsession
      obtain ⟨hloop, hsame, heffects⟩ :=
        poll_outcome around.services (session.later around.faults around.server)
      have hloop : _ = session.loop := hloop
      have heffects : _ = [Effect.call (.sync session.loop.request)] := heffects
      dsimp only
      rw [heffects]
      refine ⟨?_, ?_, ?_, ?_⟩
      · -- a poll writes nothing
        intro c hc
        exact (h.issued c hc).stands rfl
      · intro polling hpolling
        obtain rfl := Option.some.inj hpolling
        refine ⟨hsame.trans hdocument, ?_, ?_, ?_⟩
        · rw [hloop]
          exact hid
        · rw [hloop]
          exact hcursor
        · intro k request reply hk hpolled
          rcases polled_snoc_poll hpolled with hold | ⟨-, rfl⟩
          · exact hpolls k request reply hk hold
          · exact hid
      · intro k reply asked hk
        rcases (getElem?_snoc scene.log _ _ k).1 hk with hold | ⟨hlen, heq⟩
        · obtain ⟨request, hrequest⟩ := h.requests k reply asked hold
          exact ⟨request, hrequest.snoc _⟩
        · cases heq
          exact ⟨session.loop.request, _, hk, List.mem_singleton.2 rfl⟩
      · intro k request reply c hpolled hsince
        rcases polled_snoc_poll hpolled with hold | ⟨rfl, rfl⟩
        · exact (h.history k request reply c hold hsince).snoc (Nat.le_of_lt hold.lt) _
        · -- the cursor of the new poll is the one in storage, and so is its filter
          have hc : scene.document.cursor = some c := hcursor.symm.trans hsince
          rw [show session.loop.request.filter = scene.filterId from hid]
          exact (h.issued c hc).snoc (Nat.le_refl _) _

/-- **An answer taken in** leaves its own cursor, under the filter of its
poll. -/
theorem Kept.process {scene : Scene} (h : Kept scene) (around : Circumstances) (poll : Nat) :
    Kept (scene.step around (.process poll)) := by
  unfold Scene.step
  dsimp only
  split
  next session b asked hsession hpoll =>
    split
    next hsince =>
      obtain ⟨hdocument, hid, hcursor, hpolls⟩ := h.current session hsession
      obtain ⟨request, hrequest⟩ := h.requests poll (.ok b) asked hpoll
      -- the answer is one of this session, whose polls all carry its filter
      have hfilter : request.filter = scene.filterId := hpolls poll request (.ok b) hsince hrequest
      obtain ⟨-, hid', hfilter', hmoved⟩ := process_moved around.services b
        (session.later around.faults around.server)
      generalize Cursor.process around.services b
        (session.later around.faults around.server) = o at hid' hfilter' hmoved ⊢
      obtain ⟨hold, hrequests, hhistory⟩ := h.log_snoc (e := ⟨.processed poll, o.effects⟩)
        fun reply heq => by cases heq
      have hlater : (session.later around.faults around.server).document = scene.document :=
        hdocument
      -- to take an answer in leaves the filter
      have hsame : o.state.document.filter.map (·.id) = scene.filterId := by
        rw [hfilter', hlater]
        rfl
      refine ⟨?_, ?_, hrequests, hhistory⟩
      · intro c hc
        have hc : o.state.document.cursor = some c := hc
        show Issued _ _ c (o.state.document.filter.map (·.id))
        rw [hsame]
        -- the cursor stands as it stood, or this answer has just issued it
        rcases hmoved with ⟨-, hstays, hquiet⟩ | ⟨-, hstored, hw⟩
        · rw [hstays, hlater] at hc
          exact (h.issued c hc).stands hquiet
        · obtain rfl : b.nextBatch = c := Option.some.inj (hstored.symm.trans hc)
          rw [← hfilter]
          exact issued_here hrequest hw
      · intro later hlater'
        obtain rfl := Option.some.inj hlater'
        refine ⟨rfl, ?_, ?_, ?_⟩
        · exact hid'.trans (hid.trans hsame.symm)
        · show o.state.loop.cursor = o.state.document.cursor
          rcases hmoved with ⟨hcursor', hstays, -⟩ | ⟨hcursor', hstored, -⟩
          · rw [hcursor', hstays, hlater]
            exact hcursor
          · rw [hcursor', hstored]
        · intro k request' reply hk hpolled
          exact (hpolls k request' reply hk (hold k request' reply hpolled)).trans hsame.symm
    next => exact h
  next => exact h

/-! ## §5. Every run. -/

theorem Kept.step {scene : Scene} (h : Kept scene) (around : Circumstances) (move : Move) :
    Kept (scene.step around move) := by
  cases move with
  | start user options => exact h.start around user options
  | poll => exact h.poll around
  | process poll => exact h.process around poll

theorem Kept.foldl (moves : List (Move × Circumstances)) :
    ∀ scene, Kept scene → Kept (moves.foldl (fun scene m => scene.step m.2 m.1) scene) := by
  induction moves with
  | nil =>
      intro scene h
      exact h
  | cons m rest ih =>
      intro scene h
      exact ih _ (h.step m.2 m.1)

/-- **A cursor is never used under another filter.**  In every run, whatever
fails, a poll that carries a cursor carries the filter, or its absence, under
which the cursor was issued. -/
theorem poll_filter_of_cursor (moves : List (Move × Circumstances)) {k : Nat} {request : Request}
    {reply : Except SyncError Batch} {cursor : String}
    (hpolled : Polled (Scene.run moves).log k request reply)
    (hsince : request.since = some cursor) :
    Issued (Scene.run moves).log k cursor request.filter :=
  (Kept.foldl moves {} kept_empty).history k request reply cursor hpolled hsince

/-- A session registers a filter, polls, takes the answer in and ends; the next
one, with the same filter, polls from there. -/
def resumedUnderFilter : List (Move × Circumstances) :=
  let user : UserId := ⟨"@polling:x", by decide +kernel⟩
  let options : Options := { filter := some (.string "rooms only") }
  [(.start user options, { server := { filterReplies := [.ok "1"] } }),
    (.poll, { server := { cursorReplies := [.ok { nextBatch := "s1" }] } }),
    (.process 1, {}),
    (.start user options, {}),
    (.poll, {})]

/-- The cursor of its second poll was issued under the filter with id 1. -/
theorem resumed_cursor_issued :
    Issued (Scene.run resumedUnderFilter).log 4 "s1" (some "1") := by
  have hpolled : Polled (Scene.run resumedUnderFilter).log 4
      { since := some "s1", filter := some "1", timeoutMs := 30000 }
      (.error (.transport "no reply")) := ⟨_, rfl, List.mem_singleton.2 rfl⟩
  exact poll_filter_of_cursor resumedUnderFilter hpolled rfl

end RoomSync.Cursor
