/-
  RoomSync.Proofs.Classifier.Groups
  ─────────────────────────────────
  **WHAT IS ANNOUNCED OF A TIMELINE.**

  Every event of a timeline that is no duplicate is announced by one group of
  signals, and the groups follow each other as the events do.  A group has a
  grammar of its own:

      group ::= [encrypted, (decrypted | undecryptable)] [shape] event

  An event comes to its group in three stages, each of which is a relation here
  that knows nothing of the way it is computed:

      handedOff_iff   — `HandedOff`: what the crypto engine makes of it
      passes_iff      — `Passes`: what the preprocessors make of that
      shaped_iff      — `Shaped`: what the outcome is besides an event
      group_iff       — so every event has one group
      timeline_groups — a timeline is the groups of its events

  A stage that fails passes on what it was given, so no failure takes an event
  away or changes what is known afterwards (`state_timeline_congr`).  The engine and
  the shape go by the kind of an event, the preprocessors by its type: where an engine
  or a preprocessor gives an event another type and leaves the kind, the event is
  announced by its kind.
-/
import RoomSync.Proofs.Classifier.Timelines
import RoomSync.Proofs.Event.Kinds

namespace RoomSync

namespace Classifier

section Groups

variable (s : Services) (room : RoomId)

/-! ## §1. The crypto engine. -/

/-- An event goes to the engine: there is one, the event is encrypted, and the
engine takes its room for encrypted. -/
structure HandsOff (engine : CryptoEngine) (e : RoomEvent) : Prop where
  present : s.crypto = some engine
  encrypted : e.kind = .encrypted
  flagged : engine.isEncrypted room = true

/-- What is done about an event that may go to the engine, and the event that comes
of it.  The engine is asked once, after the raw event was announced. -/
inductive HandedOff (e : RoomEvent) : List Effect → RoomEvent → Prop
  | kept (h : ∀ engine, ¬ HandsOff s room engine e) : HandedOff e [] e
  | decrypted {engine : CryptoEngine} {plain : RoomEvent} (h : HandsOff s room engine e)
      (hanswer : engine.decrypt room e = .ok plain) :
      HandedOff e
        [.signal (.room room (.encrypted e)), .call (.decrypt room e),
          .signal (.room room (.decrypted plain))] plain
  | failed {engine : CryptoEngine} {err : SyncError} (h : HandsOff s room engine e)
      (hanswer : engine.decrypt room e = .error err) :
      HandedOff e
        [.signal (.room room (.encrypted e)), .call (.decrypt room e),
          .signal (.room room (.undecryptable e err.message))] e

theorem engineFor_eq_some {engine : CryptoEngine} {e : RoomEvent} :
    s.engineFor room e = some engine ↔ HandsOff s room engine e := by
  unfold Services.engineFor
  by_cases hkind : e.kind = .encrypted
  · rw [if_pos hkind, Option.filter_eq_some_iff]
    constructor
    · rintro ⟨hpresent, hflagged⟩
      exact ⟨hpresent, hkind, hflagged⟩
    · intro h
      exact ⟨h.present, h.flagged⟩
  · rw [if_neg hkind]
    exact ⟨fun h => (nomatch h), fun h => absurd h.encrypted hkind⟩

theorem handedOff_handOff (e : RoomEvent) :
    HandedOff s room e (s.handOff room e).2 (s.handOff room e).1 := by
  unfold Services.handOff
  cases hengine : s.engineFor room e with
  | none =>
      refine .kept fun engine h => ?_
      rw [(engineFor_eq_some s room).2 h] at hengine
      cases hengine
  | some engine =>
      have h := (engineFor_eq_some s room).1 hengine
      dsimp only
      cases hanswer : engine.decrypt room e with
      | ok plain => exact .decrypted h hanswer
      | error err => exact .failed h hanswer

theorem handedOff_iff {e d : RoomEvent} {fx : List Effect} :
    HandedOff s room e fx d ↔ s.handOff room e = (d, fx) := by
  constructor
  · intro h
    unfold Services.handOff
    cases h with
    | kept h =>
        have hengine : s.engineFor room e = none :=
          Option.eq_none_iff_forall_ne_some.2 fun engine hengine =>
            h engine ((engineFor_eq_some s room).1 hengine)
        rw [hengine]
    | decrypted h hanswer | failed h hanswer =>
        rw [(engineFor_eq_some s room).2 h]
        dsimp only
        rw [hanswer]
        rfl
  · intro h
    have hdone := handedOff_handOff s room e
    rwa [h] at hdone

/-! ## §2. Preprocessors. -/

/-- An event goes through preprocessors in order: one of another type is passed
over, one that fails changes nothing. -/
inductive Passes : List Preprocessor → RoomEvent → RoomEvent → Prop
  | done (e : RoomEvent) : Passes [] e e
  | other {p : Preprocessor} {ps : List Preprocessor} {e e' : RoomEvent}
      (htype : e.type ∉ p.types) (rest : Passes ps e e') : Passes (p :: ps) e e'
  | changed {p : Preprocessor} {ps : List Preprocessor} {e d e' : RoomEvent}
      (htype : e.type ∈ p.types) (hrun : p.run room e = .ok d) (rest : Passes ps d e') :
      Passes (p :: ps) e e'
  | failed {p : Preprocessor} {ps : List Preprocessor} {e e' : RoomEvent} {err : SyncError}
      (htype : e.type ∈ p.types) (hrun : p.run room e = .error err) (rest : Passes ps e e') :
      Passes (p :: ps) e e'

theorem passes_foldl (ps : List Preprocessor) :
    ∀ e, Passes room ps e (ps.foldl (Services.preprocessWith room) e) := by
  induction ps with
  | nil => exact .done
  | cons p ps ih =>
      intro e
      rw [List.foldl_cons]
      by_cases htype : e.type ∈ p.types
      · cases hrun : p.run room e with
        | ok d =>
            have hstep : Services.preprocessWith room e p = d := by
              simp [Services.preprocessWith, htype, hrun]
            rw [hstep]
            exact .changed htype hrun (ih d)
        | error err =>
            have hstep : Services.preprocessWith room e p = e := by
              simp [Services.preprocessWith, htype, hrun]
            rw [hstep]
            exact .failed htype hrun (ih e)
      · have hstep : Services.preprocessWith room e p = e := by
          simp [Services.preprocessWith, htype]
        rw [hstep]
        exact .other htype (ih e)

theorem Passes.eq {ps : List Preprocessor} {e e' : RoomEvent} (h : Passes room ps e e') :
    ps.foldl (Services.preprocessWith room) e = e' := by
  induction h with
  | done e => rfl
  | other htype _ ih => simpa [Services.preprocessWith, htype] using ih
  | changed htype hrun _ ih => simpa [Services.preprocessWith, htype, hrun] using ih
  | failed htype hrun _ ih => simpa [Services.preprocessWith, htype, hrun] using ih

theorem passes_iff {e e' : RoomEvent} :
    Passes room s.preprocessors e e' ↔ s.preprocess room e = e' := by
  constructor
  · exact Passes.eq room
  · rintro rfl
    exact passes_foldl room s.preprocessors e

/-! ## §3. Shapes. -/

/-- What an event is news of besides being an event, if it is. -/
inductive Shaped (e : RoomEvent) : Option RoomNews → Prop
  | message (hkind : e.kind = .message) : Shaped e (some (.message e))
  | archived {replacement : Option String} (hkind : e.kind = .tombstone replacement)
      (hkey : e.stateKey = some "") : Shaped e (some (.archived e))
  | upgraded {predecessor : String} (hkind : e.kind = .create (some predecessor))
      (hkey : e.stateKey = some "") : Shaped e (some (.upgraded e))
  | plain (hmessage : e.kind ≠ .message)
      (htombstone : ∀ replacement, e.kind = .tombstone replacement → e.stateKey ≠ some "")
      (hcreate : ∀ predecessor, e.kind = .create (some predecessor) → e.stateKey ≠ some "") :
      Shaped e none

theorem hasEmptyStateKey_iff {e : RoomEvent} :
    e.hasEmptyStateKey = true ↔ e.stateKey = some "" :=
  decide_eq_true_iff

theorem shaped_shape (e : RoomEvent) : Shaped e e.shape? := by
  unfold RoomEvent.shape?
  split
  next hkind => exact .message hkind
  next replacement hkind =>
    split
    next hkey => exact .archived hkind (hasEmptyStateKey_iff.1 hkey)
    next hkey =>
      refine .plain ?_ (fun _ _ h => hkey (hasEmptyStateKey_iff.2 h)) ?_ <;> simp [hkind]
  next predecessor hkind =>
    split
    next hkey => exact .upgraded hkind (hasEmptyStateKey_iff.1 hkey)
    next hkey =>
      refine .plain ?_ ?_ fun _ _ h => hkey (hasEmptyStateKey_iff.2 h) <;> simp [hkind]
  next hmessage htombstone hcreate =>
    exact .plain hmessage (fun _ h => absurd h (htombstone _)) fun _ h => absurd h (hcreate _)

/-- An event has one shape. -/
theorem Shaped.unique {e : RoomEvent} {shape shape' : Option RoomNews} (h : Shaped e shape)
    (h' : Shaped e shape') : shape = shape' := by
  cases h <;> cases h' <;> simp_all

theorem shaped_iff {e : RoomEvent} {shape : Option RoomNews} :
    Shaped e shape ↔ e.shape? = shape := by
  constructor
  · exact (shaped_shape e).unique
  · rintro rfl
    exact shaped_shape e

/-! ## §4. Groups. -/

/-- **The group of an event**: what is done about the engine, then the news that the
event is besides being one, then the event itself, once.  The latter two carry the
event as the engine and the preprocessors left it. -/
inductive EventGroup (e : RoomEvent) : List Effect → Prop
  | mk {handed : List Effect} {d e' : RoomEvent} {shape : Option RoomNews}
      (hhanded : HandedOff s room e handed d) (hpasses : Passes room s.preprocessors d e')
      (hshape : Shaped e' shape) :
      EventGroup e (handed
        ++ (shape.toList ++ [RoomNews.event e']).map fun news => .signal (.room room news))

/-- **Every event has one group.** -/
theorem group_iff {e : RoomEvent} {fx : List Effect} :
    EventGroup s room e fx ↔ eventEffects s room e = fx := by
  have heffects : eventEffects s room e =
      (s.handOff room e).2 ++ ((s.preprocess room (s.handOff room e).1).shape?.toList
        ++ [RoomNews.event (s.preprocess room (s.handOff room e).1)]).map
          fun news => .signal (.room room news) := by
    unfold eventEffects timelineSignals
    dsimp only
    rw [List.map_map]
    rfl
  constructor
  · rintro ⟨hhanded, hpasses, hshape⟩
    rw [heffects, (handedOff_iff s room).1 hhanded]
    dsimp only
    rw [(passes_iff s room).1 hpasses, shaped_iff.1 hshape]
  · rintro rfl
    rw [heffects]
    exact .mk (handedOff_handOff s room e) ((passes_iff s room).2 rfl) (shaped_shape _)

/-! ## §5. Timelines. -/

/-- An event that comes after others of a timeline is a duplicate: its id is
remembered for the room at its turn. -/
def Duplicate (past : List RoomEvent) (e : RoomEvent) (seen : Memory) : Prop :=
  ∃ id, e.id = some id ∧ (room, id) ∈ (seen.noteAll (pairsOf room past)).keys

theorem duplicate_first {e : RoomEvent} {seen : Memory} :
    Duplicate room [] e seen ↔ (remember room e seen).2 = true := by
  unfold Duplicate remember
  cases e.id with
  | none => simp
  | some id =>
      dsimp only
      rw [Recency.note_snd]
      simp [pairsOf, Recency.noteAll]

theorem duplicate_later {past : List RoomEvent} {e x : RoomEvent} {seen : Memory} :
    Duplicate room (e :: past) x seen ↔ Duplicate room past x (remember room e seen).1 := by
  unfold Duplicate
  rw [pairsOf_cons, ← noteAll_remember]

/-- One event of a timeline: a duplicate is passed over. -/
theorem effects_timelineEvent (e : RoomEvent) (c : Classifier) :
    (Duplicate room [] e c.seen ∧ (timelineEvent s room e c).effects = [])
      ∨ (¬ Duplicate room [] e c.seen
        ∧ EventGroup s room e (timelineEvent s room e c).effects) := by
  rw [duplicate_first]
  cases h : (remember room e c.seen).2 with
  | true =>
      rw [timelineEvent_known s h]
      exact .inl ⟨rfl, rfl⟩
  | false =>
      rw [timelineEvent_new s h]
      exact .inr ⟨Bool.false_ne_true, (group_iff s room).2 rfl⟩

/-- What is known after a timeline does not hang on the engine, nor on the
preprocessors. -/
theorem state_timeline_congr (s' : Services) (events : List RoomEvent) :
    ∀ c : Classifier, (timeline s' room events c).state = (timeline s room events c).state := by
  induction events with
  | nil =>
      intro c
      rfl
  | cons e rest ih =>
      intro c
      have hfirst : (timelineEvent s' room e c).state = (timelineEvent s room e c).state := by
        cases h : (remember room e c.seen).2 with
        | true => rw [timelineEvent_known s h, timelineEvent_known s' h]
        | false => rw [timelineEvent_new s h, timelineEvent_new s' h]
      show (timeline s' room rest (timelineEvent s' room e c).state).state = _
      rw [hfirst, ih]
      rfl

/-- **What is announced of a timeline**: for every event in order its group, or
nothing if it is a duplicate at its turn.  Neither the engine nor a preprocessor,
whether it fails or not, has a say in which events are duplicates, or in what is
known afterwards.  The kinds that a group goes by are those of one type each, as long as
the kind of the event is the one its type and content tell. -/
theorem timeline_groups (events : List RoomEvent) (c : Classifier) :
    (∃ groups : List (List Effect),
        (timeline s room events c).effects = groups.flatten
          ∧ groups.length = events.length
          ∧ ∀ i e, events[i]? = some e → ∃ g, groups[i]? = some g
            ∧ ((Duplicate room (events.take i) e c.seen ∧ g = [])
              ∨ (¬ Duplicate room (events.take i) e c.seen ∧ EventGroup s room e g)))
      ∧ (∀ s', (timeline s' room events c).state = (timeline s room events c).state)
      ∧ ∀ e : RoomEvent, e.Consistent →
          (e.kind = .encrypted ↔ e.type = "m.room.encrypted")
            ∧ (e.kind = .message ↔ e.type = "m.room.message")
            ∧ ((∃ replacement, e.kind = .tombstone replacement) ↔ e.type = "m.room.tombstone")
            ∧ ∀ predecessor, e.kind = .create predecessor ↔
                e.type = "m.room.create" ∧ upgradedRoom e.content = predecessor := by
  refine ⟨?_, fun s' => state_timeline_congr s room s' events c, fun e h => h.kinds⟩
  induction events generalizing c with
  | nil => exact ⟨[], rfl, rfl, fun i e he => nomatch he⟩
  | cons e rest ih =>
      obtain ⟨groups, hfx, hlength, hgroups⟩ := ih (timelineEvent s room e c).state
      refine ⟨(timelineEvent s room e c).effects :: groups, ?_, congrArg (· + 1) hlength, ?_⟩
      · rw [List.flatten_cons, ← hfx]
        rfl
      · intro i x hx
        cases i with
        | zero =>
            obtain rfl := Option.some.inj hx
            exact ⟨_, rfl, effects_timelineEvent s room e c⟩
        | succ i =>
            -- what the first event adds to the memory stands before what the others add
            have hseen : (timelineEvent s room e c).state.seen = (remember room e c.seen).1 :=
              seen_timeline s room [e] c
            obtain ⟨g, hg, hturn⟩ := hgroups i x hx
            rw [hseen, ← duplicate_later] at hturn
            exact ⟨g, hg, hturn⟩

end Groups

/-! ## §6. A timeline with failures. -/

namespace Unopened

def room : RoomId := ⟨"!unopened:x", by decide +kernel⟩

def secret : RoomEvent := { id := some "$secret", type := "m.room.encrypted" }

def tombstone : RoomEvent :=
  { id := some "$tombstone", type := "m.room.tombstone", stateKey := some "" }

/-- An engine that opens nothing, and two preprocessors of tombstones, of which the
first one fails and the second one makes a message of them. -/
def services : Services where
  crypto := some {
    isEncrypted := fun _ => true
    decrypt := fun _ _ => .error (.decryption "unknown session")
    update := fun _ => .ok () }
  preprocessors := [
    { types := ["m.room.tombstone"], run := fun _ _ => .error (.storage "full") },
    { types := ["m.room.tombstone"], run := fun _ e => .ok { e with type := "m.room.message" } }]

/-- The secret stays closed, the tombstone is changed by the second preprocessor but
announced by the kind it came with, and neither is announced when it comes again. -/
example :
    Effect.signals (timeline services room [secret, tombstone, secret, tombstone]
        { user := ⟨"@reading:x", by decide +kernel⟩ }).effects =
      [.encrypted secret, .undecryptable secret "Decryption error: unknown session",
        .event secret, .archived { tombstone with type := "m.room.message" },
        .event { tombstone with type := "m.room.message" }].map (Signal.room room) := by
  decide +kernel

end Unopened

end Classifier

end RoomSync
