/-
  RoomSync.Proofs.Cursor.Writes
  ─────────────────────────────
  **WHAT A SESSION WRITES TO THE CURSOR.**

  Cursor and filter stand apart in storage and are written one after the
  other.  A change of filter clears the cursor first, so that a failure in
  between leaves no cursor rather than one of another filter:

      resolveFilter_resolved  — to resolve a filter
      prepare_opened          — to set a session up
      poll_outcome            — to poll
      process_moved           — to take a batch in

  Each lemma says what the step left in storage, and what it wrote to the
  cursor on the way.  Before the last stand the parts of a batch
  (`classifyRooms_eq`, `classify_cases`), and the orders in which it is
  classified and its cursor stored (`process_unmarked`, `process_refused`,
  `process_early`, `process_stopped`, `process_late`).
-/
import RoomSync.Cursor.Loop
import RoomSync.Proofs.Classifier.Effects
import RoomSync.Proofs.Session.StoreUse

namespace RoomSync.Cursor

/-! ## §1. Writes among effects. -/

/-- What some effects write to the cursor, in order. -/
def cursorWrites (fx : List Effect) : List (Option String) :=
  fx.filterMap fun
    | .write (.cursor c) => some c
    | _ => none

theorem cursorWrites_append (fx fx' : List Effect) :
    cursorWrites (fx ++ fx') = cursorWrites fx ++ cursorWrites fx' := List.filterMap_append

/-! ## §2. The filter. -/

/-- What a session may find after a filter is resolved: the id is that of
the filter in storage, and a cursor is left only where nothing changed. -/
structure Resolved (w : World) (o : Outcome World (Except SyncError (Option String))) :
    Prop where
  current : ∀ id, o.answer = .ok id → id = o.state.document.filter.map (·.id)
  kept : o.state.document.cursor = none
    ∨ (o.state.document = w.document ∧ cursorWrites o.effects = [])

/-- An operation that leaves storage alone and has no answer. -/
theorem Resolved.failed (w : World) (e : SyncError) : Resolved w ⟨w, [], .error e⟩ :=
  ⟨fun _ h => (nomatch h), .inr ⟨rfl, rfl⟩⟩

/-- **A change of filter**, after other effects: the cursor goes first. -/
theorem resolved_change (w w' : World) (filter : Option RegisteredFilter) (fx : List Effect)
    (hdocument : w'.document = w.document) (hfx : cursorWrites fx = []) :
    Resolved w
      (let o := (do
          World.onStore (Store.setCursor none)
          World.onStore (Store.setFilter filter)
          return filter.map (·.id) : Action World (Option String)) w'
       ⟨o.state, fx ++ o.effects, o.answer⟩) := by
  unfold Store.setCursor Store.setFilter
  cases hcursor : w'.fault .setCursor with
  | some e =>
      -- the filter is not touched before the cursor is gone
      rw [Action.bind_error (World.write_failed hcursor)]
      refine ⟨fun _ h => (nomatch h), .inr ⟨hdocument, ?_⟩⟩
      rw [cursorWrites_append, hfx]
      rfl
  | none =>
      rw [Action.bind_ok (World.write_done hcursor)]
      -- the cursor is gone, and with it any claim about a filter
      cases hfilter : w'.fault .setFilter with
      | some e =>
          have hfilter : (w'.written (.cursor none)).fault .setFilter = some e := hfilter
          rw [Action.bind_error (World.write_failed hfilter)]
          exact ⟨fun _ h => (nomatch h), .inl rfl⟩
      | none =>
          have hfilter : (w'.written (.cursor none)).fault .setFilter = none := hfilter
          rw [Action.bind_ok (World.write_done hfilter)]
          exact ⟨fun _ h => (Except.ok.inj h).symm, .inl rfl⟩

/-- To register a filter leaves storage alone. -/
theorem createFilter_outcome (user : UserId) (filter : Json.Value) (w : World) :
    ∃ w' answer, World.onServer (Homeserver.createFilter user filter) w =
        ⟨w', [.call (.createFilter user filter)], answer⟩ ∧ w'.document = w.document := by
  unfold World.onServer Homeserver.createFilter
  dsimp only
  split
  next => exact ⟨_, _, rfl, rfl⟩
  next => exact ⟨_, _, rfl, rfl⟩

/-- **To resolve a filter**, wherever it fails. -/
theorem resolveFilter_resolved (user : UserId) (desired : Option Json.Value) (w : World) :
    Resolved w (resolveFilter user desired w) := by
  unfold resolveFilter Store.getFilter
  cases hget : w.fault .getFilter with
  | some e =>
      rw [Action.bind_error (World.read_failed hget)]
      exact Resolved.failed w e
  | none =>
      rw [Action.bind_ok (World.read_done hget)]
      cases desired with
      | none =>
          dsimp only
          cases hstored : w.document.filter with
          | none =>
              refine ⟨fun id h => (Except.ok.inj h).symm.trans ?_, .inr ⟨rfl, rfl⟩⟩
              show none = w.document.filter.map (·.id)
              rw [hstored]
              rfl
          | some stored =>
              -- the filter is given up: it is changed to none
              exact resolved_change w w none [] rfl rfl
      | some filter =>
          dsimp only
          cases hmatch : w.document.filter.filter (·.filter = filter) with
          | some known =>
              -- the filter is known: nothing is written, and the cursor stays
              refine ⟨fun id h => (Except.ok.inj h).symm.trans ?_, .inr ⟨rfl, rfl⟩⟩
              show some known.id = w.document.filter.map (·.id)
              rw [(Option.filter_eq_some_iff.1 hmatch).1]
              rfl
          | none =>
              obtain ⟨w', answer, hcreate, hdocument⟩ := createFilter_outcome user filter w
              dsimp only
              cases answer with
              | error e =>
                  -- the homeserver refuses: the old filter and cursor stay
                  rw [Action.bind_error hcreate]
                  exact ⟨fun _ h => (nomatch h), .inr ⟨hdocument, rfl⟩⟩
              | ok id =>
                  rw [Action.bind_ok hcreate]
                  exact resolved_change w w' (some ⟨id, filter⟩)
                    [.call (.createFilter user filter)] hdocument rfl

/-! ## §3. Setting up. -/

/-- What a session finds when it is set up: its filter id and its cursor are
those in storage. -/
structure Opened (before : Session Loop) (o : Outcome (Session Loop) (Except SyncError Unit)) :
    Prop where
  filterId : o.answer = .ok () → o.state.loop.filterId = o.state.document.filter.map (·.id)
  cursor : o.answer = .ok () → o.state.loop.cursor = o.state.document.cursor
  kept : o.state.document.cursor = none
    ∨ (o.state.document = before.document ∧ cursorWrites o.effects = [])

/-- To set a session up is to resolve its filter, then to read the cursor. -/
theorem prepare_eq (session : Session Loop) :
    prepare session = (do
      let filterId ← Session.onWorld
        (resolveFilter session.world.classifier.user session.loop.options.filter)
      Session.update ({ · with filterId })
      let cursor ← Session.onWorld (World.onStore Store.getCursor)
      Session.update ({ · with cursor }) : Action (Session Loop) Unit) session := rfl

/-- **To set a session up**, wherever it fails. -/
theorem prepare_opened (session : Session Loop) : Opened session (prepare session) := by
  have hresolved := resolveFilter_resolved session.world.classifier.user
    session.loop.options.filter session.world
  rw [prepare_eq]
  cases hresolve : resolveFilter session.world.classifier.user session.loop.options.filter
      session.world with
  | mk w fx answer =>
      rw [hresolve] at hresolved
      cases answer with
      | error e =>
          rw [Action.bind_error (Session.onWorld_eq hresolve)]
          exact ⟨fun h => (nomatch h), fun h => (nomatch h), hresolved.kept⟩
      | ok id =>
          have hupdate : Session.update (fun l : Loop => { l with filterId := id })
              { session with world := w } =
            ⟨⟨{ session.loop with filterId := id }, w⟩, [], .ok ()⟩ := rfl
          rw [Action.bind_ok (Session.onWorld_eq hresolve), Action.bind_ok hupdate]
          have hid := hresolved.current id rfl
          have hkept : w.document.cursor = none
              ∨ (w.document = session.document ∧ cursorWrites (fx ++ []) = []) := by
            rw [List.append_nil]
            exact hresolved.kept
          unfold Store.getCursor
          cases hget : w.fault .getCursor with
          | some e =>
              have hget : Session.fault ⟨{ session.loop with filterId := id }, w⟩ .getCursor =
                some e := hget
              rw [Action.bind_error (Session.read_failed hget)]
              exact ⟨fun h => (nomatch h), fun h => (nomatch h), hkept⟩
          | none =>
              have hget : Session.fault ⟨{ session.loop with filterId := id }, w⟩ .getCursor =
                none := hget
              rw [Action.bind_ok (Session.read_done hget)]
              exact ⟨fun _ => hid, fun _ => rfl, hkept⟩

/-- **To poll** sends one request, and leaves storage and the session as they
are. -/
theorem poll_outcome (s : Services) (session : Session Loop) :
    ((strategy s).poll session).state.loop = session.loop
      ∧ ((strategy s).poll session).state.document = session.document
      ∧ ((strategy s).poll session).effects = [.call (.sync session.loop.request)] := by
  unfold Strategy.poll Strategy.receive?
  cases (strategy s).reply? session.world.server with
  | none => exact ⟨rfl, rfl, rfl⟩
  | some reply => exact ⟨rfl, rfl, rfl⟩

/-! ## §4. Classifying. -/

variable (s : Services)

/-- What is delivered is not written. -/
theorem cursorWrites_delivers {fx : List Effect} (h : ∀ x ∈ fx, x.Delivers) :
    cursorWrites fx = [] := by
  refine List.filterMap_eq_nil_iff.2 fun x hx => ?_
  match x, h x hx with
  | .signal _, _ => rfl
  | .call _, _ => rfl

/-- Account data are the account's own or those of a room. -/
theorem mem_accountSignals {b : Batch} {x : Signal} (h : x ∈ b.accountSignals) :
    (∃ v, x = .accountData v) ∨ ∃ room v, x = .room room (.accountData v) := by
  have hroom : ∀ t : Table RoomId RoomUpdate, x ∈ t.entries.flatMap (fun e =>
      e.2.accountData.map fun v => Signal.room e.1 (.accountData v)) →
      ∃ room v, x = .room room (.accountData v) := by
    intro t hx
    obtain ⟨e, -, hx⟩ := List.mem_flatMap.1 hx
    obtain ⟨v, -, rfl⟩ := List.mem_map.1 hx
    exact ⟨e.1, v, rfl⟩
  rcases List.mem_append.1 h with h | h
  · rcases List.mem_append.1 h with h | h
    · obtain ⟨v, -, rfl⟩ := List.mem_map.1 h
      exact .inl ⟨v, rfl⟩
    · exact .inr (hroom b.left h)
  · exact .inr (hroom b.joined h)

theorem delivers_signals (signals : List Signal) :
    ∀ x ∈ signals.map Effect.signal, x.Delivers := by
  intro x hx
  obtain ⟨signal, -, rfl⟩ := List.mem_map.1 hx
  exact trivial

theorem delivers_classifyJoined (entry : RoomId × RoomUpdate) (c : Classifier) :
    ∀ x ∈ (classifyJoined s entry c).effects, x.Delivers := by
  intro x hx
  rcases List.mem_append.1 hx with hx | hx
  · exact Classifier.delivers_join entry.1 c x hx
  · exact Classifier.delivers_timeline s entry.1 entry.2.timeline.events _ x hx

/-- Take in rooms that were left. -/
def departures (entries : List (RoomId × RoomUpdate)) : Classifier → Outcome Classifier Unit :=
  Outcome.forEach (fun (e : RoomId × RoomUpdate) (c : Classifier) =>
    discard (Classifier.leave s e.1 e.2.timeline.events c)) entries

/-- Take in rooms that the user is invited to. -/
def invitations (entries : List (RoomId × List RoomEvent)) :
    Classifier → Outcome Classifier Unit :=
  Outcome.forEach (fun (e : RoomId × List RoomEvent) (c : Classifier) =>
    discard (Classifier.invite s e.1 e.2 c)) entries

/-- Take in rooms that the user is in. -/
def presences (entries : List (RoomId × RoomUpdate)) : Classifier → Outcome Classifier Unit :=
  Outcome.forEach (classifyJoined s) entries

theorem classifyRooms_eq (b : Batch) (c : Classifier) :
    classifyRooms s b c =
      (let left := departures s b.left.entries c
       let invited := invitations s b.invited.entries left.state
       let joined := presences s b.joined.entries invited.state
       ⟨joined.state, left.effects ++ invited.effects ++ joined.effects, ()⟩) := rfl

/-- **To announce a batch** is to deliver it. -/
theorem delivers_announce (b : Batch) (c : Classifier) :
    ∀ x ∈ (announce s b c).effects, x.Delivers := by
  have hleft : ∀ c, ∀ x ∈ (departures s b.left.entries c).effects, x.Delivers :=
    Outcome.forEach_effects _
      (fun e c => Classifier.delivers_leave s e.1 e.2.timeline.events c) b.left.entries
  have hinvited : ∀ c, ∀ x ∈ (invitations s b.invited.entries c).effects, x.Delivers :=
    Outcome.forEach_effects _
      (fun e c => Classifier.delivers_invite s e.1 e.2 c) b.invited.entries
  have hjoined : ∀ c, ∀ x ∈ (presences s b.joined.entries c).effects, x.Delivers :=
    Outcome.forEach_effects _ (delivers_classifyJoined s) b.joined.entries
  intro x hx
  rcases List.mem_append.1 hx with hx | hx
  · exact delivers_signals b.accountSignals x hx
  · rw [classifyRooms_eq] at hx
    rcases List.mem_append.1 hx with hx | hx
    · rcases List.mem_append.1 hx with hx | hx
      · exact hleft c x hx
      · exact hinvited _ x hx
    · exact hjoined _ x hx

/-- The crypto engine is told its part of a batch, and its answer does not
hang on anything else. -/
theorem informCrypto_outcome (b : Batch) :
    ∃ fx answer, (∀ w, informCrypto s b w = ⟨w, fx, answer⟩)
      ∧ ∀ x ∈ fx, x = .call (.updateCrypto b.cryptoUpdate) := by
  cases hcrypto : s.crypto with
  | none =>
      refine ⟨[], .ok (), fun w => ?_, fun x hx => by cases hx⟩
      unfold informCrypto
      rw [hcrypto]
  | some engine =>
      refine ⟨[.call (.updateCrypto b.cryptoUpdate)], engine.update b.cryptoUpdate,
        fun w => ?_, fun x hx => List.mem_singleton.1 hx⟩
      unfold informCrypto
      rw [hcrypto]

/-- **To classify a batch**: the crypto engine is told first.  If it refuses,
that is all, in whatever world; else the batch is announced. -/
theorem classify_cases (b : Batch) :
    ∃ fx, (∀ x ∈ fx, x = .call (.updateCrypto b.cryptoUpdate))
      ∧ ((∃ e, ∀ w, classify s b w = ⟨w, fx, .error e⟩)
          ∨ ∀ w, classify s b w =
              ⟨{ w with classifier := (announce s b w.classifier).state },
                fx ++ (announce s b w.classifier).effects, .ok ()⟩) := by
  obtain ⟨fx, answer, hcrypto, hfx⟩ := informCrypto_outcome s b
  refine ⟨fx, hfx, ?_⟩
  cases answer with
  | error e =>
      refine .inl ⟨e, fun w => ?_⟩
      unfold classify
      rw [Action.bind_error (hcrypto w)]
  | ok a =>
      refine .inr fun w => ?_
      unfold classify
      rw [Action.bind_ok (hcrypto w)]
      rfl

theorem delivers_classify (b : Batch) (w : World) :
    ∀ x ∈ (classify s b w).effects, x.Delivers := by
  obtain ⟨fx, hfx, ⟨e, hrefused⟩ | hdone⟩ := classify_cases s b
  · intro x hx
    rw [hrefused] at hx
    rw [hfx x hx]
    exact trivial
  · intro x hx
    rw [hdone] at hx
    rcases List.mem_append.1 hx with hx | hx
    · rw [hfx x hx]
      exact trivial
    · exact delivers_announce s b w.classifier x hx

/-- To classify a batch leaves storage alone. -/
theorem store_classify (b : Batch) (w : World) : (classify s b w).state.store = w.store := by
  obtain ⟨fx, -, ⟨e, hrefused⟩ | hdone⟩ := classify_cases s b
  · rw [hrefused]
  · rw [hdone]

theorem cursorWrites_classify (b : Batch) (w : World) :
    cursorWrites (classify s b w).effects = [] :=
  cursorWrites_delivers (delivers_classify s b w)

/-! ## §5. Taking a batch in. -/

/-- The session after a batch is classified. -/
def classified (b : Batch) (session : Session Loop) : Session Loop :=
  { session with world := (classify s b session.world).state }

/-- The session at a cursor that it has stored. -/
def atCursor (cursor : String) (session : Session Loop) : Session Loop :=
  { loop := { session.loop with cursor := some cursor }
    world := session.world.written (.cursor (some cursor)) }

theorem document_classified (b : Batch) (session : Session Loop) :
    (classified s b session).document = session.document :=
  congrArg Store.document (store_classify s b session.world)

theorem fault_classified (b : Batch) (session : Session Loop) (m : StoreMethod) :
    (classified s b session).fault m = session.fault m :=
  congrArg (·.faults m) (store_classify s b session.world)

theorem classify_eq (b : Batch) (session : Session Loop) :
    Session.onWorld (classify s b) session =
      ⟨classified s b session, (classify s b session.world).effects,
        (classify s b session.world).answer⟩ := rfl

theorem advance_failed {session : Session Loop} {e : SyncError} (cursor : String)
    (hfault : session.fault .setCursor = some e) :
    advance cursor session = ⟨session, [], .error e⟩ := by
  unfold advance Store.setCursor
  exact Action.bind_error (Session.write_failed hfault)

theorem advance_done {session : Session Loop} (cursor : String)
    (hworks : session.fault .setCursor = none) :
    advance cursor session =
      ⟨atCursor cursor session, [.write (.cursor (some cursor))], .ok ()⟩ := by
  unfold advance Store.setCursor
  rw [Action.bind_ok (Session.write_done hworks)]
  rfl

theorem process_eq (b : Batch) (session : Session Loop) :
    process s b session =
      (if b.nextBatch = "" then Session.onWorld (classify s b)
        else if session.loop.options.persistAfter then do
          Session.onWorld (classify s b)
          advance b.nextBatch
        else do
          advance b.nextBatch
          Session.onWorld (classify s b) : Action (Session Loop) Unit) session := rfl

section Orders

variable {s} {b : Batch} {session : Session Loop}

/-- A batch without a cursor is only classified. -/
theorem process_unmarked (hnext : b.nextBatch = "") :
    process s b session =
      ⟨classified s b session, (classify s b session.world).effects,
        (classify s b session.world).answer⟩ := by
  rw [process_eq, if_pos hnext, classify_eq]

/-- **The cursor first.**  If it cannot be stored, nothing is done. -/
theorem process_refused (hnext : b.nextBatch ≠ "")
    (hmode : session.loop.options.persistAfter = false) {e : SyncError}
    (hfault : session.fault .setCursor = some e) :
    process s b session = ⟨session, [], .error e⟩ := by
  rw [process_eq, if_neg hnext, if_neg (Bool.eq_false_iff.1 hmode),
    Action.bind_error (advance_failed _ hfault)]

/-- **The cursor first.**  If it is stored, the batch is classified. -/
theorem process_early (hnext : b.nextBatch ≠ "")
    (hmode : session.loop.options.persistAfter = false)
    (hworks : session.fault .setCursor = none) :
    process s b session =
      ⟨classified s b (atCursor b.nextBatch session),
        .write (.cursor (some b.nextBatch))
          :: (classify s b (atCursor b.nextBatch session).world).effects,
        (classify s b (atCursor b.nextBatch session).world).answer⟩ := by
  rw [process_eq, if_neg hnext, if_neg (Bool.eq_false_iff.1 hmode),
    Action.bind_ok (advance_done _ hworks), classify_eq]
  rfl

/-- **The cursor last.**  It is not stored if the batch cannot be classified,
or if storage fails. -/
theorem process_stopped (hnext : b.nextBatch ≠ "")
    (hmode : session.loop.options.persistAfter = true)
    (hstop : (classify s b session.world).answer ≠ .ok ()
      ∨ session.fault .setCursor ≠ none) :
    ∃ e, process s b session =
      ⟨classified s b session, (classify s b session.world).effects, .error e⟩ := by
  rw [process_eq, if_neg hnext, if_pos hmode]
  cases hanswer : (classify s b session.world).answer with
  | error e =>
      have hclassify := classify_eq s b session
      rw [hanswer] at hclassify
      exact ⟨e, Action.bind_error hclassify⟩
  | ok a =>
      have hclassify := classify_eq s b session
      rw [hanswer] at hclassify hstop
      rw [Action.bind_ok hclassify]
      cases hfault : session.fault .setCursor with
      | none => exact absurd hfault (hstop.resolve_left fun h => h rfl)
      | some e =>
          refine ⟨e, ?_⟩
          rw [advance_failed _ ((fault_classified s b session _).trans hfault)]
          rw [List.append_nil]

/-- **The cursor last.**  Once the batch is classified, it is stored. -/
theorem process_late (hnext : b.nextBatch ≠ "")
    (hmode : session.loop.options.persistAfter = true)
    (hdone : (classify s b session.world).answer = .ok ())
    (hworks : session.fault .setCursor = none) :
    process s b session =
      ⟨atCursor b.nextBatch (classified s b session),
        (classify s b session.world).effects ++ [.write (.cursor (some b.nextBatch))],
        .ok ()⟩ := by
  have hclassify := classify_eq s b session
  rw [hdone] at hclassify
  rw [process_eq, if_neg hnext, if_pos hmode, Action.bind_ok hclassify,
    advance_done _ ((fault_classified s b session _).trans hworks)]

end Orders

/-- What a batch moves: nothing but the cursor, in the session and in storage
alike, and to the batch's own.  Besides, it only delivers. -/
structure Moved (b : Batch) (before after : Session Loop) (fx : List Effect) : Prop where
  effects : ∀ x ∈ fx, x.Delivers ∨ x = .write (.cursor (some b.nextBatch))
  filterId : after.loop.filterId = before.loop.filterId
  filter : after.document.filter = before.document.filter
  cursor : (after.loop.cursor = before.loop.cursor
        ∧ after.document.cursor = before.document.cursor ∧ cursorWrites fx = [])
      ∨ (after.loop.cursor = some b.nextBatch ∧ after.document.cursor = some b.nextBatch
        ∧ cursorWrites fx = [some b.nextBatch])

/-- A batch that is only classified moves nothing. -/
theorem moved_classified (b : Batch) (session : Session Loop) :
    Moved b session (classified s b session) (classify s b session.world).effects := by
  have hdocument := document_classified s b session
  exact ⟨fun x hx => .inl (delivers_classify s b session.world x hx), rfl,
    congrArg Document.filter hdocument, .inl ⟨rfl, congrArg Document.cursor hdocument,
      cursorWrites_classify s b session.world⟩⟩

/-- To store the cursor before or after other effects that only deliver. -/
theorem Moved.stored {b : Batch} {before after : Session Loop} {fx : List Effect}
    (hloop : after.loop = { before.loop with cursor := some b.nextBatch })
    (hdocument : after.document = before.document.apply (.cursor (some b.nextBatch)))
    (early late : List Effect) (hfx : fx = early ++ .write (.cursor (some b.nextBatch)) :: late)
    (hearly : ∀ x ∈ early, x.Delivers) (hlate : ∀ x ∈ late, x.Delivers) :
    Moved b before after fx := by
  have hwrites : cursorWrites fx = [some b.nextBatch] := by
    rw [hfx, cursorWrites_append, cursorWrites_delivers hearly]
    show some b.nextBatch :: cursorWrites late = _
    rw [cursorWrites_delivers hlate]
  refine ⟨?_, ?_, ?_, .inr ⟨?_, ?_, hwrites⟩⟩
  · intro x hx
    rw [hfx] at hx
    rcases List.mem_append.1 hx with hx | hx
    · exact .inl (hearly x hx)
    · rcases List.mem_cons.1 hx with rfl | hx
      · exact .inr rfl
      · exact .inl (hlate x hx)
  · rw [hloop]
  · rw [hdocument]
    rfl
  · rw [hloop]
  · rw [hdocument]
    rfl

/-- **To take a batch in**, wherever it fails, and whichever comes first. -/
theorem process_moved (b : Batch) (session : Session Loop) :
    Moved b session (process s b session).state (process s b session).effects := by
  by_cases hnext : b.nextBatch = ""
  · -- a batch without a cursor is only classified
    rw [process_unmarked hnext]
    exact moved_classified s b session
  · cases hmode : session.loop.options.persistAfter with
    | false =>
        cases hfault : session.fault .setCursor with
        | some e =>
            rw [process_refused hnext hmode hfault]
            exact ⟨fun x hx => (by cases hx), rfl, rfl, .inl ⟨rfl, rfl, rfl⟩⟩
        | none =>
            rw [process_early hnext hmode hfault]
            exact Moved.stored rfl (document_classified s b _) [] _ rfl
              (fun x hx => by cases hx) (delivers_classify s b _)
    | true =>
        by_cases hdone : (classify s b session.world).answer = .ok ()
            ∧ session.fault .setCursor = none
        · rw [process_late hnext hmode hdone.1 hdone.2]
          refine Moved.stored rfl ?_ _ [] rfl (delivers_classify s b _)
            (fun x hx => by cases hx)
          exact congrArg (Document.apply · (.cursor (some b.nextBatch)))
            (document_classified s b session)
        · obtain ⟨e, hprocess⟩ :=
            process_stopped hnext hmode (Classical.not_and_iff_not_or_not.1 hdone)
          rw [hprocess]
          exact moved_classified s b session

end RoomSync.Cursor
