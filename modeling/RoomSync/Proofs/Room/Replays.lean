/-
  RoomSync.Proofs.Room.Replays
  ────────────────────────────
  **THE SAME EVENTS ONCE MORE.**

  An event with an id is known for good once it was applied.  One without an id is
  known only while it stands in its place, and another event may have taken that
  place since.  So when events come a second time, those with an id are passed over,
  and of those without the last one of every place is put there again:

      known_applyAll       — after a first round the ids are known
      get?_applyAll_known  — what a second round leaves
      applyAll_eq_self     — a round that changes nothing at any event
      replayed_iff         — when a second round changes nothing
-/
import RoomSync.Proofs.Room.State

namespace RoomSync

namespace RoomState

/-! ## §1. One event. -/

/-- Whether an event is what stands in its place; one that is no state has no place. -/
def Stands (s : RoomState) (e : RoomEvent) : Prop :=
  ∀ key, e.stateKey = some key → s.get? e.type key = some e

/-- An event that changes nothing is not applied. -/
theorem apply_of_unchanged {s : RoomState} {e : RoomEvent} (h : (s.apply e).2 = false) :
    s.apply e = (s, false) := by
  unfold apply at h ⊢
  split at h
  next => rfl
  next =>
    split at h
    next hknown => rw [if_pos hknown]
    next => cases h
  next =>
    split at h
    next hstands => rw [if_pos hstands]
    next => cases h

/-- An event whose id was applied is passed over. -/
theorem apply_of_known {s : RoomState} {e : RoomEvent} {id : String} (hid : e.id = some id)
    (hknown : s.appliedIds.contains id = true) : (s.apply e).2 = false := by
  unfold apply
  rw [hid]
  cases e.stateKey with
  | none => rfl
  | some key =>
      dsimp only
      rw [if_pos hknown]

/-- An event without an id is passed over while it stands in its place. -/
theorem apply_nameless_iff {s : RoomState} {e : RoomEvent} (hid : e.id = none) :
    (s.apply e).2 = false ↔ s.Stands e := by
  unfold apply Stands
  rw [hid]
  cases hkey : e.stateKey with
  | none => exact ⟨fun _ _ h => (nomatch h), fun _ => rfl⟩
  | some key =>
      dsimp only
      split
      next hstands =>
        refine ⟨fun _ key' h => ?_, fun _ => rfl⟩
        obtain rfl := Option.some.inj h
        exact hstands
      next hother => exact ⟨fun h => (nomatch h), fun h => absurd (h key rfl) hother⟩

/-- Known or not, an event without an id stands in its place afterwards. -/
theorem get?_apply_nameless {s : RoomState} {e : RoomEvent} (hid : e.id = none)
    (type key : String) :
    (s.apply e).1.get? type key = if isAt type key e then some e else s.get? type key := by
  unfold apply
  rw [hid]
  cases hkey : e.stateKey with
  | none =>
      have hnowhere : ¬ isAt type key e = true := fun hat => by
        have hsome := (isAt_iff.1 hat).2
        rw [hkey] at hsome
        cases hsome
      rw [if_neg hnowhere]
  | some key' =>
      dsimp only
      split
      next hstands =>
        split
        next hat =>
          obtain ⟨rfl, hkey'⟩ := isAt_iff.1 hat
          obtain rfl := Option.some.inj (hkey.symm.trans hkey')
          exact hstands
        next => rfl
      next => exact get?_put s hkey type key

/-! ## §2. The ids that are known. -/

/-- Whether the ids of the state events among these were all applied. -/
def Known (s : RoomState) (es : List RoomEvent) : Prop :=
  ∀ e ∈ es, e.isState = true → ∀ id, e.id = some id → s.appliedIds.contains id = true

/-- An id that was applied stays so. -/
theorem contains_apply_of_contains {s : RoomState} {id : String}
    (h : s.appliedIds.contains id = true) (e : RoomEvent) :
    (s.apply e).1.appliedIds.contains id = true := by
  unfold apply
  split
  next => exact h
  next key id' _ _ =>
    split
    next => exact h
    next =>
      show (s.appliedIds.insert id' ()).contains id = true
      rw [Table.contains_insert, h, Bool.or_true]
  next =>
    split
    next => exact h
    next => exact h

/-- A state event's id is applied with it. -/
theorem contains_apply_self (s : RoomState) {e : RoomEvent} {id : String}
    (hstate : e.isState = true) (hid : e.id = some id) :
    (s.apply e).1.appliedIds.contains id = true := by
  obtain ⟨key, hkey⟩ := Option.isSome_iff_exists.1 hstate
  unfold apply
  rw [hkey, hid]
  dsimp only
  split
  next hknown => exact hknown
  next => exact Table.contains_insert_self s.appliedIds id ()

theorem Known.apply {s : RoomState} {es : List RoomEvent} (h : Known s es) (e : RoomEvent) :
    Known (s.apply e).1 es :=
  fun x hx hstate id hid => contains_apply_of_contains (h x hx hstate id hid) e

theorem contains_applyAll_of_contains {id : String} (es : List RoomEvent) :
    ∀ {s : RoomState}, s.appliedIds.contains id = true →
      (s.applyAll es).1.appliedIds.contains id = true := by
  induction es with
  | nil =>
      intro s h
      exact h
  | cons e rest ih =>
      intro s h
      exact ih (contains_apply_of_contains h e)

/-- **After a round, its ids are known.** -/
theorem known_applyAll (es : List RoomEvent) : ∀ s : RoomState, Known (s.applyAll es).1 es := by
  induction es with
  | nil =>
      intro s x hx
      cases hx
  | cons e rest ih =>
      intro s x hx hstate id hid
      rcases List.mem_cons.1 hx with rfl | hx
      · exact contains_applyAll_of_contains rest (contains_apply_self s hstate hid)
      · exact ih (s.apply e).1 x hx hstate id hid

/-! ## §3. A second round. -/

/-- **Events whose ids are known**: the last one without an id stands in its place,
and where there is none, what stood there. -/
theorem get?_applyAll_known (type key : String) {es : List RoomEvent} :
    ∀ {s : RoomState}, Known s es →
      (s.applyAll es).1.get? type key =
        (lastAt type key (es.filter (·.id.isNone))).or (s.get? type key) := by
  induction es with
  | nil =>
      intro s _
      rfl
  | cons e rest ih =>
      intro s h
      have hrest : Known s rest := fun x hx => h x (List.mem_cons_of_mem _ hx)
      show ((s.apply e).1.applyAll rest).1.get? type key = _
      rw [ih (hrest.apply e)]
      cases hid : e.id with
      | none =>
          rw [get?_apply_nameless hid, List.filter_cons_of_pos (by rw [hid]; rfl), lastAt_cons]
          cases lastAt type key (rest.filter (·.id.isNone)) with
          | some e' => rfl
          | none =>
              by_cases hat : isAt type key e = true
              · rw [if_pos hat, if_pos hat]
                rfl
              · rw [if_neg hat, if_neg hat]
                rfl
      | some id =>
          have hunchanged : (s.apply e).2 = false := by
            cases hstate : e.isState with
            | true => exact apply_of_known hid (h e List.mem_cons_self hstate id hid)
            | false =>
                unfold RoomEvent.isState at hstate
                rw [Option.isSome_eq_false_iff, Option.isNone_iff_eq_none] at hstate
                unfold RoomState.apply
                rw [hstate]
          rw [apply_of_unchanged hunchanged,
            List.filter_cons_of_neg (by rw [hid]; exact Bool.false_ne_true)]

/-- **A round that changes nothing** is one in which no event does. -/
theorem applyAll_snd_eq_zero_iff {es : List RoomEvent} :
    ∀ {s : RoomState}, (s.applyAll es).2 = 0 ↔ ∀ e ∈ es, (s.apply e).2 = false := by
  induction es with
  | nil =>
      intro s
      exact iff_of_true rfl fun _ h => (nomatch h)
  | cons e rest ih =>
      intro s
      rw [List.forall_mem_cons]
      cases hchanged : (s.apply e).2 with
      | true =>
          refine iff_of_false ?_ fun h => Bool.false_ne_true h.1.symm
          show (if (s.apply e).2 then ((s.apply e).1.applyAll rest).2 + 1 else _) ≠ 0
          rw [hchanged]
          exact Nat.succ_ne_zero _
      | false =>
          have hcount : (s.applyAll (e :: rest)).2 = (s.applyAll rest).2 := by
            show (if (s.apply e).2 then _ else ((s.apply e).1.applyAll rest).2) = _
            rw [apply_of_unchanged hchanged]
            rfl
          rw [hcount, ih]
          exact (and_iff_right rfl).symm

theorem applyAll_eq_self {es : List RoomEvent} :
    ∀ {s : RoomState}, (∀ e ∈ es, (s.apply e).2 = false) → s.applyAll es = (s, 0) := by
  induction es with
  | nil =>
      intro s _
      rfl
  | cons e rest ih =>
      intro s h
      have hrest := ih fun x hx => h x (List.mem_cons_of_mem _ hx)
      unfold applyAll
      rw [apply_of_unchanged (h e List.mem_cons_self)]
      dsimp only
      rw [hrest]
      rfl

/-- **A second round changes nothing** where every event without an id stands. -/
theorem Known.unchanged_iff {s : RoomState} {es : List RoomEvent} (h : Known s es) :
    (s.applyAll (es.filter (·.isState))).2 = 0 ↔ ∀ e ∈ es, e.id = none → s.Stands e := by
  rw [applyAll_snd_eq_zero_iff]
  constructor
  · intro hall e he hid
    cases hstate : e.isState with
    | true => exact (apply_nameless_iff hid).1 (hall e (List.mem_filter.2 ⟨he, hstate⟩))
    | false =>
        intro key hkey
        rw [RoomEvent.isState, hkey] at hstate
        cases hstate
  · intro hstands e he
    obtain ⟨he, hstate⟩ := List.mem_filter.1 he
    cases hid : e.id with
    | none => exact (apply_nameless_iff hid).2 (hstands e he hid)
    | some id => exact apply_of_known hid (h e he hstate id hid)

end RoomState

namespace StateCache

/-! ## §4. The states of all rooms. -/

/-- Whether an event is what stands in its place in a room. -/
def Stands (cache : StateCache) (room : RoomId) (e : RoomEvent) : Prop :=
  ∀ key, e.stateKey = some key → cache.state? room e.type key = some e

theorem stands_iff {cache : StateCache} {room : RoomId} {e : RoomEvent} :
    cache.Stands room e ↔ (cache.stateOf room).Stands e := by
  unfold Stands RoomState.Stands
  simp only [state?_eq]

theorem events_eq (cache : StateCache) (room : RoomId) :
    cache.events room = (cache.stateOf room).events := by
  unfold events stateOf
  cases cache.get? room with
  | none => rfl
  | some s => rfl

/-- How many of some events change a room is said by its state. -/
theorem snd_apply (cache : StateCache) (room : RoomId) (es : List RoomEvent) :
    (StateCache.apply cache room es).2 =
      ((cache.stateOf room).applyAll (es.filter (·.isState))).2 := by
  unfold StateCache.apply
  split
  next hnone =>
    rw [hnone]
    rfl
  next => rfl

/-- **When events that come a second time change nothing.**  That is so exactly when
each of them that has no id still stands in its place after the first time; else the
last one without an id of every place is put back there, over what came after it. -/
theorem replayed_iff (cache : StateCache) (room : RoomId) (es : List RoomEvent) :
    let once := (StateCache.apply cache room es).1
    let again := StateCache.apply once room es
    ((again.2 = 0
          ∧ (∀ type key, again.1.state? room type key = once.state? room type key)
          ∧ again.1.events room = once.events room)
        ↔ ∀ e ∈ es, e.id = none → once.Stands room e)
      ∧ ∀ type key, again.1.state? room type key =
          (RoomState.lastAt type key (es.filter (·.id.isNone))).or
            (once.state? room type key) := by
  intro once again
  have hknown : (once.stateOf room).Known es := by
    rw [stateOf_apply]
    exact RoomState.known_applyAll es (cache.stateOf room)
  have hstate : again.1.stateOf room = ((once.stateOf room).applyAll es).1 :=
    stateOf_apply once room es
  have hcount : again.2 = 0 ↔ ∀ e ∈ es, e.id = none → once.Stands room e := by
    simp only [stands_iff]
    rw [← hknown.unchanged_iff]
    exact iff_of_eq (congrArg (· = 0) (snd_apply once room es))
  refine ⟨⟨fun h => hcount.1 h.1, fun h => ?_⟩, fun type key => ?_⟩
  · have hzero := hcount.2 h
    -- no event changes anything, so the state is the same as a whole
    have hsame : again.1.stateOf room = once.stateOf room := by
      have hunchanged :=
        RoomState.applyAll_snd_eq_zero_iff.1 ((snd_apply once room es).symm.trans hzero)
      rw [hstate, ← RoomState.applyAll_filter, RoomState.applyAll_eq_self hunchanged]
    refine ⟨hzero, fun type key => ?_, ?_⟩
    · rw [state?_eq, state?_eq, hsame]
    · rw [events_eq, events_eq, hsame]
  · rw [state?_eq, state?_eq, hstate]
    exact RoomState.get?_applyAll_known type key hknown

/-! ## §5. A name with an id, and one without. -/

namespace Replayed

def room : RoomId := ⟨"!named:x", by decide +kernel⟩

/-- The name of a room as an invite tells it. -/
def told (name : String) : RoomEvent where
  type := "m.room.name"
  stateKey := some ""
  content := .object [("name", .string name)]

/-- The same as an event with an id. -/
def sent (id name : String) : RoomEvent := { told name with id := some id }

end Replayed

open Replayed in
/-- A name with an id, and then one that is told without: both are passed over when
they come again. -/
theorem last_told_name_stays :
    let once := (StateCache.apply .empty room [sent "$first" "first", told "second"]).1
    let again := StateCache.apply once room [sent "$first" "first", told "second"]
    (∀ e ∈ [sent "$first" "first", told "second"], e.id = none → once.Stands room e)
      ∧ again.2 = 0
      ∧ again.1.state? room "m.room.name" "" = some (told "second")
      ∧ again.1.events room = [told "second"] := by
  have hstands : ∀ e ∈ [sent "$first" "first", told "second"], e.id = none →
      (StateCache.apply .empty room [sent "$first" "first", told "second"]).1.Stands room e := by
    intro e he hid key hkey
    rcases List.mem_cons.1 he with rfl | he
    · cases hid
    · obtain rfl := List.mem_singleton.1 he
      obtain rfl := Option.some.inj hkey
      decide +kernel
  obtain ⟨hcount, hstate, hevents⟩ :=
    (replayed_iff .empty room [sent "$first" "first", told "second"]).1.2 hstands
  exact ⟨hstands, hcount, (hstate _ _).trans (by decide +kernel),
    hevents.trans (by decide +kernel)⟩

open Replayed in
/-- A name that is told without an id, and then one with: the first comes back when
they come again, and the second is gone. -/
theorem told_name_comes_back :
    let once := (StateCache.apply .empty room [told "first", sent "$second" "second"]).1
    let again := StateCache.apply once room [told "first", sent "$second" "second"]
    once.state? room "m.room.name" "" = some (sent "$second" "second")
      ∧ again.2 = 1
      ∧ again.1.state? room "m.room.name" "" = some (told "first") := by
  decide +kernel

end StateCache

end RoomSync
