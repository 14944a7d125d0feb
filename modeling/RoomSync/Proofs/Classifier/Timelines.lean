/-
  RoomSync.Proofs.Classifier.Timelines
  ────────────────────────────────────
  **WHICH EVENTS OF A TIMELINE COUNT.**

  A timeline event counts once while it is remembered.  The memory is one for
  all rooms; a room's state is its own, and goes when the room does.  So the two
  are followed apart:

      newEvents          — the events that are not remembered at their turn
      remembered_eq      — the memory after a timeline
      stateOf_timeline   — the state of the room: the new events are applied
      effects_timeline   — the new events are announced
      mem_remembered     — whatever is remembered was in a timeline
      mem_newEvents      — an event that was not remembered is new
      cache_timeline     — the states of other rooms
-/
import RoomSync.Proofs.Classifier.Effects
import RoomSync.Proofs.Recency
import RoomSync.Proofs.Room.State

namespace RoomSync

/-! ## §1. Remembering. -/

namespace Classifier

/-- The timeline events that a classifier remembers. -/
abbrev Memory := Recency (RoomId × String) memoryCapacity

/-- Remember an event; the answer is whether it was remembered already. -/
def remember (room : RoomId) (e : RoomEvent) (seen : Memory) : Memory × Bool :=
  match e.id with
  | none => (seen, false)
  | some id => seen.note (room, id)

/-- The memory after a timeline. -/
def remembered (room : RoomId) (events : List RoomEvent) (seen : Memory) : Memory :=
  events.foldl (fun seen e => (remember room e seen).1) seen

/-- The events of a timeline that are not remembered at their turn. -/
def newEvents (room : RoomId) : List RoomEvent → Memory → List RoomEvent
  | [], _ => []
  | e :: rest, seen =>
      let (seen, known) := remember room e seen
      if known then newEvents room rest seen else e :: newEvents room rest seen

theorem note_eq (room : RoomId) (e : RoomEvent) (c : Classifier) :
    c.note room e =
      ({ c with seen := (remember room e c.seen).1 }, (remember room e c.seen).2) := by
  unfold note remember
  cases e.id <;> rfl

/-- To remember an event adds at most that event. -/
theorem mem_remember {room : RoomId} {e : RoomEvent} {seen : Memory} {k : RoomId × String}
    (h : k ∈ (remember room e seen).1.keys) :
    k ∈ seen.keys ∨ (k.1 = room ∧ e.id = some k.2) := by
  unfold remember at h
  split at h
  next => exact .inl h
  next id hid =>
    rcases Recency.mem_note h with rfl | h
    · exact .inr ⟨rfl, hid⟩
    · exact .inl h

/-- **Whatever is remembered** was remembered before, or was in the timeline. -/
theorem mem_remembered {room : RoomId} {events : List RoomEvent} {k : RoomId × String} :
    ∀ {seen : Memory}, k ∈ (remembered room events seen).keys →
      k ∈ seen.keys ∨ (k.1 = room ∧ ∃ e ∈ events, e.id = some k.2) := by
  induction events with
  | nil =>
      intro seen h
      exact .inl h
  | cons e rest ih =>
      intro seen h
      rcases ih h with h | ⟨hroom, e', he', hid⟩
      · rcases mem_remember h with h | ⟨hroom, hid⟩
        · exact .inl h
        · exact .inr ⟨hroom, e, List.mem_cons_self, hid⟩
      · exact .inr ⟨hroom, e', List.mem_cons_of_mem _ he', hid⟩

/-- An event is known if it is remembered. -/
theorem remember_snd {room : RoomId} {e : RoomEvent} {seen : Memory} {id : String}
    (hid : e.id = some id) : (remember room e seen).2 = true ↔ (room, id) ∈ seen.keys := by
  unfold remember
  rw [hid]
  exact Recency.note_snd seen (room, id)

section NewEvents

variable {room : RoomId} {e : RoomEvent} {rest : List RoomEvent} {seen : Memory}

theorem newEvents_known (h : (remember room e seen).2 = true) :
    newEvents room (e :: rest) seen = newEvents room rest (remember room e seen).1 := if_pos h

theorem newEvents_new (h : (remember room e seen).2 = false) :
    newEvents room (e :: rest) seen = e :: newEvents room rest (remember room e seen).1 :=
  if_neg (Bool.eq_false_iff.1 h)

end NewEvents

/-- The pair under which an event is remembered, if it has an id. -/
def pair? (room : RoomId) (e : RoomEvent) : Option (RoomId × String) := e.id.map (room, ·)

/-- The pairs of a timeline. -/
def pairsOf (room : RoomId) (events : List RoomEvent) : List (RoomId × String) :=
  events.filterMap (pair? room)

theorem pairsOf_cons (room : RoomId) (e : RoomEvent) (rest : List RoomEvent) :
    pairsOf room (e :: rest) = (pair? room e).toList ++ pairsOf room rest := by
  unfold pairsOf
  rw [List.filterMap_eq_flatMap_toList, List.filterMap_eq_flatMap_toList, List.flatMap_cons]

/-- To remember an event is to note its pair, if it has one. -/
theorem noteAll_remember (room : RoomId) (e : RoomEvent) (seen : Memory)
    (later : List (RoomId × String)) :
    (remember room e seen).1.noteAll later =
      seen.noteAll ((pair? room e).toList ++ later) := by
  unfold remember pair?
  cases e.id <;> rfl

/-- **The memory after a timeline** has noted its pairs in order. -/
theorem remembered_eq (room : RoomId) (events : List RoomEvent) :
    ∀ seen : Memory, remembered room events seen = seen.noteAll (pairsOf room events) := by
  induction events with
  | nil =>
      intro seen
      rfl
  | cons e rest ih =>
      intro seen
      show remembered room rest (remember room e seen).1 = _
      rw [ih, noteAll_remember, pairsOf_cons]

theorem newEvents_sublist (room : RoomId) (events : List RoomEvent) :
    ∀ seen : Memory, (newEvents room events seen).Sublist events := by
  induction events with
  | nil =>
      intro seen
      exact List.Sublist.slnil
  | cons e rest ih =>
      intro seen
      cases h : (remember room e seen).2 with
      | true =>
          rw [newEvents_known h]
          exact (ih _).cons e
      | false =>
          rw [newEvents_new h]
          exact (ih _).cons_cons e

/-- **An event that was not remembered is new**, unless its id stands twice in
the timeline. -/
theorem mem_newEvents {room : RoomId} {e : RoomEvent} {id : String} (hid : e.id = some id)
    {events : List RoomEvent} :
    ∀ {seen : Memory}, e ∈ events → (events.map (·.id)).Nodup → (room, id) ∉ seen.keys →
      e ∈ newEvents room events seen := by
  induction events with
  | nil =>
      intro seen he
      cases he
  | cons e' rest ih =>
      intro seen he hdistinct hseen
      rw [List.map_cons, List.nodup_cons] at hdistinct
      rcases List.mem_cons.1 he with rfl | he
      · rw [newEvents_new (Bool.eq_false_iff.2 fun h => hseen ((remember_snd hid).1 h))]
        exact List.mem_cons_self
      · -- the event before has another id
        have hlater : (room, id) ∉ (remember room e' seen).1.keys := by
          intro h
          rcases mem_remember h with h | ⟨-, hid'⟩
          · exact hseen h
          · exact hdistinct.1 (List.mem_map.2 ⟨e, he, hid.trans hid'.symm⟩)
        cases hknown : (remember room e' seen).2 with
        | true =>
            rw [newEvents_known hknown]
            exact ih he hdistinct.2 hlater
        | false =>
            rw [newEvents_new hknown]
            exact List.mem_cons_of_mem _ (ih he hdistinct.2 hlater)

/-! ## §2. Timelines. -/

variable (s : Services)

theorem timelineEvent_known {room : RoomId} {e : RoomEvent} {c : Classifier}
    (h : (remember room e c.seen).2 = true) :
    timelineEvent s room e c = ⟨{ c with seen := (remember room e c.seen).1 }, [], ()⟩ := by
  unfold timelineEvent
  rw [note_eq, h]

theorem timelineEvent_new {room : RoomId} {e : RoomEvent} {c : Classifier}
    (h : (remember room e c.seen).2 = false) :
    timelineEvent s room e c =
      ⟨Classifier.applyState room [e] { c with seen := (remember room e c.seen).1 },
        eventEffects s room e, ()⟩ := by
  unfold timelineEvent
  rw [note_eq, h]

theorem seen_timeline (room : RoomId) (events : List RoomEvent) :
    ∀ c : Classifier, (timeline s room events c).state.seen = remembered room events c.seen := by
  induction events with
  | nil =>
      intro c
      rfl
  | cons e rest ih =>
      intro c
      have hfirst : (timelineEvent s room e c).state.seen = (remember room e c.seen).1 := by
        cases h : (remember room e c.seen).2 with
        | true => rw [timelineEvent_known s h]
        | false =>
            rw [timelineEvent_new s h]
            rfl
      show (timeline s room rest (timelineEvent s room e c).state).state.seen = _
      rw [ih, hfirst]
      rfl

/-- **The state of the room** of a timeline: the new events are applied. -/
theorem stateOf_timeline (room : RoomId) (events : List RoomEvent) :
    ∀ c : Classifier, (timeline s room events c).state.cache.stateOf room =
      ((c.cache.stateOf room).applyAll (newEvents room events c.seen)).1 := by
  induction events with
  | nil =>
      intro c
      rfl
  | cons e rest ih =>
      intro c
      show (timeline s room rest (timelineEvent s room e c).state).state.cache.stateOf room = _
      rw [ih]
      cases h : (remember room e c.seen).2 with
      | true => rw [timelineEvent_known s h, newEvents_known h]
      | false =>
          rw [timelineEvent_new s h, newEvents_new h]
          show ((StateCache.stateOf (StateCache.apply c.cache room [e]).1 room).applyAll _).1 = _
          rw [StateCache.stateOf_apply]
          rfl

/-- **What a timeline leads to**: the new events are announced in order. -/
theorem effects_timeline (room : RoomId) (events : List RoomEvent) :
    ∀ c : Classifier, (timeline s room events c).effects =
      (newEvents room events c.seen).flatMap (eventEffects s room) := by
  induction events with
  | nil =>
      intro c
      rfl
  | cons e rest ih =>
      intro c
      show (timelineEvent s room e c).effects
        ++ (timeline s room rest (timelineEvent s room e c).state).effects = _
      rw [ih]
      cases h : (remember room e c.seen).2 with
      | true =>
          rw [timelineEvent_known s h, newEvents_known h]
          rfl
      | false =>
          rw [timelineEvent_new s h, newEvents_new h]
          rfl

/-! ## §3. Calls that take in no timeline. -/

/-- A join touches neither the memory nor any state. -/
theorem join_keeps (room : RoomId) (c : Classifier) :
    (join room c).state.seen = c.seen ∧ (join room c).state.cache = c.cache := by
  cases hin : c.isJoined room with
  | true =>
      rw [join_known hin]
      exact ⟨rfl, rfl⟩
  | false =>
      rw [join_new hin]
      exact ⟨rfl, rfl⟩

theorem seen_leave (room : RoomId) (events : List RoomEvent) (c : Classifier) :
    (leave s room events c).state.seen = c.seen := by
  rcases leave_cases s room events c with ⟨hstate, -⟩ | ⟨e, hstate, -⟩ <;> rw [hstate]
  rfl

theorem seen_invite (room : RoomId) (stripped : List RoomEvent) (c : Classifier) :
    (invite s room stripped c).state.seen = c.seen := by
  rcases invite_cases s room stripped c with ⟨hstate, -⟩ | ⟨e, hstate, -⟩ <;> rw [hstate]
  rfl

/-! ## §4. The states of other rooms. -/

section Others

variable {room r : RoomId} (hr : r ≠ room)

include hr

theorem cache_applyState (events : List RoomEvent) (c : Classifier) :
    (c.applyState room events).cache.get? r = c.cache.get? r :=
  StateCache.get?_apply_other hr c.cache events

theorem cache_forget (c : Classifier) : (c.forget room).cache.get? r = c.cache.get? r := by
  show (c.cache.erase room).get? r = _
  rw [Table.get?_erase, if_neg hr]

theorem cache_timeline (events : List RoomEvent) (c : Classifier) :
    (timeline s room events c).state.cache.get? r = c.cache.get? r := by
  refine Outcome.forEach_keeps (timelineEvent s room) (fun c => c.cache.get? r)
    (fun e c => ?_) events c
  cases h : (remember room e c.seen).2 with
  | true => rw [timelineEvent_known s h]
  | false =>
      rw [timelineEvent_new s h]
      exact cache_applyState hr [e] _

theorem cache_leave (events : List RoomEvent) (c : Classifier) :
    (leave s room events c).state.cache.get? r = c.cache.get? r := by
  rcases leave_cases s room events c with ⟨hstate, -⟩ | ⟨e, hstate, -⟩
  · rw [hstate]
  · rw [hstate]
    exact cache_forget hr c

theorem cache_invite (stripped : List RoomEvent) (c : Classifier) :
    (invite s room stripped c).state.cache.get? r = c.cache.get? r := by
  rcases invite_cases s room stripped c with ⟨hstate, -⟩ | ⟨e, hstate, -⟩
  · rw [hstate]
  · rw [hstate]
    exact cache_applyState hr stripped c

end Others

end Classifier

end RoomSync
