/-
  RoomSync.Proofs.Room.State
  ──────────────────────────
  **WHAT STANDS IN A ROOM'S STATE.**

  A state is read through `get?` alone.  Of events that were never applied, each
  with an id of its own, the last one of a type and state key stands there
  afterwards (`lastAt`), and without one what stood there before:

      get?_put         — one event in its place
      get?_applyAll    — several events
      stateOf_apply    — the same, for the states of all rooms
      get?_apply_other — the states of other rooms
-/
import RoomSync.Proofs.TableLookup
import RoomSync.Room.State

namespace RoomSync

namespace RoomState

/-! ## §1. The last event of a place. -/

/-- The last event of this type under this key. -/
def lastAt (type key : String) (es : List RoomEvent) : Option RoomEvent :=
  (es.filter (isAt type key)).getLast?

theorem lastAt_append (type key : String) (es es' : List RoomEvent) :
    lastAt type key (es ++ es') = (lastAt type key es').or (lastAt type key es) := by
  unfold lastAt
  rw [List.filter_append, List.getLast?_append]

theorem lastAt_cons (type key : String) (e : RoomEvent) (es : List RoomEvent) :
    lastAt type key (e :: es) =
      (lastAt type key es).or (if isAt type key e then some e else none) := by
  rw [← List.singleton_append, lastAt_append]
  congr 1
  unfold lastAt
  by_cases h : isAt type key e = true <;> simp [h]

theorem lastAt_mem {type key : String} {es : List RoomEvent} {e : RoomEvent}
    (h : lastAt type key es = some e) : e ∈ es :=
  (List.mem_filter.1 (List.mem_of_getLast? h)).1

/-- What is last among some events is last among any of them that it is one of. -/
theorem lastAt_sublist {type key : String} {es es' : List RoomEvent} {e : RoomEvent}
    (hnodup : es.Nodup) (h : lastAt type key es = some e) (hsub : es'.Sublist es)
    (he : e ∈ es') : lastAt type key es' = some e := by
  unfold lastAt at h ⊢
  obtain ⟨init, hinit⟩ := List.getLast?_eq_some_iff.1 h
  have hat : isAt type key e = true :=
    (List.mem_filter.1 (List.mem_of_getLast? h)).2
  have hnodup : (es.filter (isAt type key)).Nodup := hnodup.filter (isAt type key)
  have hsub := hsub.filter (isAt type key)
  have he : e ∈ es'.filter (isAt type key) := List.mem_filter.2 ⟨he, hat⟩
  rw [hinit] at hnodup hsub
  obtain ⟨front, back, hsplit, hfront, hback⟩ := List.sublist_append_iff.1 hsub
  rw [hsplit] at he ⊢
  rw [List.nodup_append] at hnodup
  rcases List.sublist_cons_iff.1 hback with hnil | ⟨rest, hlast, hrest⟩
  · -- it would stand twice
    rw [List.sublist_nil.1 hnil, List.append_nil] at he
    exact absurd rfl (hnodup.2.2 e (hfront.subset he) e List.mem_cons_self)
  · rw [hlast, List.sublist_nil.1 hrest, List.getLast?_concat]

/-! ## §2. Applying events. -/

theorem isAt_iff {type key : String} {e : RoomEvent} :
    isAt type key e = true ↔ e.type = type ∧ e.stateKey = some key := by
  unfold isAt
  rw [Bool.and_eq_true, decide_eq_true_eq, decide_eq_true_eq]

/-- An event in its place hides what stood there, and nothing else. -/
theorem get?_put (s : RoomState) {e : RoomEvent} {key : String} (hkey : e.stateKey = some key)
    (type' key' : String) :
    (s.put key e).get? type' key' = if isAt type' key' e then some e else s.get? type' key' := by
  unfold get? put
  rw [List.find?_append, List.find?_filter, List.find?_singleton]
  split
  next hat =>
    -- no older event stands in the same place
    obtain ⟨rfl, hkey'⟩ := isAt_iff.1 hat
    obtain rfl := Option.some.inj (hkey.symm.trans hkey')
    have hnone : s.events.find? (fun x => decide (!isAt e.type key x ∧ isAt e.type key x)) =
        none := by
      rw [List.find?_eq_none]
      intro x _ hx
      simp at hx
    rw [hnone]
    rfl
  next hat =>
    -- an event of another place is not touched
    have hsame : (fun x => decide (!isAt e.type key x ∧ isAt type' key' x)) =
        isAt type' key' := by
      funext x
      cases hx : isAt type' key' x with
      | false => simp
      | true =>
          have hother : isAt e.type key x = false := by
            refine Bool.eq_false_iff.2 fun hsame => hat ?_
            obtain ⟨htype, hxkey⟩ := isAt_iff.1 hsame
            obtain ⟨htype', hxkey'⟩ := isAt_iff.1 hx
            exact isAt_iff.2 ⟨htype.symm.trans htype',
              hkey.trans (hxkey.symm.trans hxkey')⟩
          simp [hother]
    rw [hsame, Option.or_none]

/-- Events that have ids of their own, none of which was applied. -/
structure Unapplied (s : RoomState) (es : List RoomEvent) : Prop where
  ids : ∀ e ∈ es, ∃ id, e.id = some id ∧ s.appliedIds.contains id = false
  distinct : (es.map (·.id)).Nodup

/-- One event that was not applied. -/
theorem get?_apply {s : RoomState} {e : RoomEvent} {id : String} (hid : e.id = some id)
    (hnew : s.appliedIds.contains id = false) (type key : String) :
    (s.apply e).1.get? type key = if isAt type key e then some e else s.get? type key := by
  unfold apply
  rw [hid]
  cases hkey : e.stateKey with
  | none =>
      have hnowhere : isAt type key e = false := by
        refine Bool.eq_false_iff.2 fun hat => ?_
        have hsome := (isAt_iff.1 hat).2
        rw [hkey] at hsome
        cases hsome
      rw [hnowhere]
      rfl
  | some key' =>
      dsimp only
      rw [hnew]
      exact get?_put s hkey type key

/-- Applying an event applies no other id. -/
theorem appliedIds_apply (s : RoomState) (e : RoomEvent) {id : String} (hid : e.id ≠ some id) :
    (s.apply e).1.appliedIds.contains id = s.appliedIds.contains id := by
  unfold apply
  split
  next => rfl
  next key id' _ hid' =>
    split
    · rfl
    · refine Table.contains_insert_other ?_ _ _
      rintro rfl
      exact hid hid'
  next =>
    split
    · rfl
    · rfl

theorem Unapplied.tail {s : RoomState} {e : RoomEvent} {es : List RoomEvent}
    (h : Unapplied s (e :: es)) : Unapplied (s.apply e).1 es := by
  have hdistinct := h.distinct
  rw [List.map_cons, List.nodup_cons] at hdistinct
  refine ⟨fun e' he' => ?_, hdistinct.2⟩
  obtain ⟨id, hid, hnew⟩ := h.ids e' (List.mem_cons_of_mem _ he')
  refine ⟨id, hid, ?_⟩
  rw [appliedIds_apply, hnew]
  intro heq
  exact hdistinct.1 (List.mem_map.2 ⟨e', he', hid.trans heq.symm⟩)

/-- **Several events**: the last one of a place stands there. -/
theorem get?_applyAll (type key : String) {es : List RoomEvent} :
    ∀ {s : RoomState}, Unapplied s es →
      (s.applyAll es).1.get? type key = (lastAt type key es).or (s.get? type key) := by
  induction es with
  | nil =>
      intro s _
      rfl
  | cons e rest ih =>
      intro s h
      obtain ⟨id, hid, hnew⟩ := h.ids e List.mem_cons_self
      show ((s.apply e).1.applyAll rest).1.get? type key = _
      rw [ih h.tail, get?_apply hid hnew, lastAt_cons]
      cases lastAt type key rest with
      | some e' => rfl
      | none =>
          by_cases hat : isAt type key e = true
          · rw [if_pos hat, if_pos hat]
            rfl
          · rw [if_neg hat, if_neg hat]
            rfl

theorem applyAll_append (es es' : List RoomEvent) :
    ∀ s : RoomState, (s.applyAll (es ++ es')).1 = ((s.applyAll es).1.applyAll es').1 := by
  induction es with
  | nil =>
      intro s
      rfl
  | cons e rest ih =>
      intro s
      exact ih (s.apply e).1

/-- Only state events change a state. -/
theorem applyAll_filter (es : List RoomEvent) :
    ∀ s : RoomState, (s.applyAll (es.filter (·.isState))).1 = (s.applyAll es).1 := by
  induction es with
  | nil =>
      intro s
      rfl
  | cons e rest ih =>
      intro s
      cases hstate : e.isState with
      | true =>
          rw [List.filter_cons_of_pos hstate]
          exact ih (s.apply e).1
      | false =>
          have hsame : (s.apply e).1 = s := by
            unfold RoomEvent.isState at hstate
            rw [Option.isSome_eq_false_iff, Option.isNone_iff_eq_none] at hstate
            unfold apply
            rw [hstate]
          rw [List.filter_cons_of_neg (by rw [hstate]; exact Bool.false_ne_true), ih]
          show (s.applyAll rest).1 = ((s.apply e).1.applyAll rest).1
          rw [hsame]

end RoomState

namespace StateCache

/-! ## §3. The states of all rooms. -/

/-- The state of a room; a room without one has nothing in it. -/
def stateOf (cache : StateCache) (room : RoomId) : RoomState := (cache.get? room).getD {}

theorem state?_eq (cache : StateCache) (room : RoomId) (type key : String) :
    cache.state? room type key = (cache.stateOf room).get? type key := by
  unfold state? stateOf
  cases cache.get? room with
  | none => rfl
  | some s => rfl

theorem stateOf_none {cache : StateCache} {room : RoomId} (h : cache.get? room = none) :
    cache.stateOf room = {} := by
  unfold stateOf
  rw [h]
  rfl

/-- **Events for a room** are applied to its state. -/
theorem stateOf_apply (cache : StateCache) (room : RoomId) (es : List RoomEvent) :
    (StateCache.apply cache room es).1.stateOf room = ((cache.stateOf room).applyAll es).1 := by
  rw [← RoomState.applyAll_filter]
  unfold StateCache.apply
  split
  next hnone =>
    rw [hnone]
    rfl
  next =>
    show ((cache.insert room _).get? room).getD {} = _
    rw [Table.get?_insert, if_pos rfl]
    rfl

/-- A room has a state as soon as one of its events is a state event. -/
theorem contains_apply (cache : StateCache) (room : RoomId) (es : List RoomEvent) :
    (StateCache.apply cache room es).1.contains room =
      (cache.contains room || es.any (·.isState)) := by
  unfold StateCache.apply
  split
  next hnone =>
    rw [List.any_eq_false.2 fun e he => List.filter_eq_nil_iff.1 hnone e he, Bool.or_false]
  next hsome =>
    obtain ⟨e, he⟩ := List.exists_mem_of_ne_nil _ hsome
    rw [List.any_eq_true.2 ⟨e, List.mem_filter.1 he⟩, Bool.or_true]
    exact Table.contains_insert_self cache room _

theorem get?_apply_other {room r : RoomId} (hr : r ≠ room) (cache : StateCache)
    (es : List RoomEvent) : (StateCache.apply cache room es).1.get? r = cache.get? r := by
  unfold StateCache.apply
  split
  next => rfl
  next =>
    show (cache.insert room _).get? r = _
    rw [Table.get?_insert, if_neg hr]

/-- What becomes of the state of a room is decided by it and the events. -/
theorem get?_apply_congr {cache cache' : StateCache} {room : RoomId}
    (h : cache.get? room = cache'.get? room) (es : List RoomEvent) :
    (StateCache.apply cache room es).1.get? room =
      (StateCache.apply cache' room es).1.get? room := by
  unfold StateCache.apply
  split
  next => exact h
  next =>
    show (cache.insert room _).get? room = (cache'.insert room _).get? room
    rw [Table.get?_insert, Table.get?_insert, if_pos rfl, if_pos rfl, h]

end StateCache

end RoomSync
