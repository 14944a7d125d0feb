/-
  RoomSync.Proofs.Window.WellFormed
  ─────────────────────────────────
  **WELL-FORMED LISTS.**

  A list keeps the same facts twice: slots name rooms, and a table knows the
  rooms that slots name.  `WellFormed` says that the two agree, that pages lie
  where indices can find them, and that no room stands in two places.

  In the middle of an operation the table may know too much, since rooms are
  forgotten last; `Sound` is what holds even then:

      Sound.sweep             — to forget unnamed rooms makes a list well formed
      WellFormed.invalidate   — pages that are dropped
      WellFormed.applyUpdate  — a room that changes in its slot
      WellFormed.applyDelete  — a slot that becomes a placeholder

  The two operations that build pages follow in `Building`.
-/
import RoomSync.Proofs.Window.Slots

namespace RoomSync.Window

/-! ## §1. The invariant. -/

/-- Where a page of this size may stand, and how long it may be. -/
structure PageFits (pageSize start : Nat) (slots : Page) : Prop where
  aligned : start % pageSize = 0
  addressable : start + pageSize ≤ maxIndex
  occupied : 0 < slots.length
  bounded : slots.length ≤ pageSize

/-- A page that changes without growing or shrinking. -/
theorem PageFits.resized {pageSize start : Nat} {slots slots' : Page}
    (h : PageFits pageSize start slots) (hlen : slots'.length = slots.length) :
    PageFits pageSize start slots' where
  aligned := h.aligned
  addressable := h.addressable
  occupied := by
    rw [hlen]
    exact h.occupied
  bounded := by
    rw [hlen]
    exact h.bounded

/-- A page that fits, put among pages that do. -/
theorem fits_insert {pageSize : Nat} {pages : Table Nat Page}
    (h : ∀ start slots, pages.get? start = some slots → PageFits pageSize start slots)
    {at_ : Nat} {page : Page} (hpage : PageFits pageSize at_ page) :
    ∀ start slots, (pages.insert at_ page).get? start = some slots →
      PageFits pageSize start slots := by
  intro start slots hget
  rw [Table.get?_insert] at hget
  by_cases hs : start = at_
  · rw [if_pos hs] at hget
    obtain rfl := Option.some.inj hget
    exact hs ▸ hpage
  · rw [if_neg hs] at hget
    exact h start slots hget

/-- To clear a room resizes no page. -/
theorem fits_clear {pageSize : Nat} {l : RoomList}
    (h : ∀ start slots, l.pages.get? start = some slots → PageFits pageSize start slots)
    (id : RoomId) :
    ∀ start slots, (l.clear id).pages.get? start = some slots →
      PageFits pageSize start slots := by
  intro start slots hpage
  unfold RoomList.clear at hpage
  rw [Table.get?_mapValues, Option.map_eq_some_iff] at hpage
  obtain ⟨before, hbefore, rfl⟩ := hpage
  exact (h start before hbefore).resized (List.length_map _)

namespace RoomList

/-- What holds of a list even while an operation is under way. -/
structure Sound (l : RoomList) : Prop where
  pageSize_pos : 0 < l.pageSize
  fits : ∀ start slots, l.pages.get? start = some slots → PageFits l.pageSize start slots
  noRepeats : NoRepeats l.pages
  known : ∀ id, Held l.pages id → l.rooms.contains id = true
  own : ∀ id room, l.rooms.get? id = some room → room.id = id

/-- **The invariant of lists**: beside all that, the table knows no room
that no slot holds. -/
structure WellFormed (l : RoomList) : Prop extends Sound l where
  referenced : ∀ id, l.rooms.contains id = true → Held l.pages id

theorem wellFormed_create (b : Behaviour) (pageSize : Nat) : (create b pageSize).WellFormed where
  pageSize_pos := by
    show 0 < max pageSize 1
    omega
  fits := by
    intro start slots h
    simp [create] at h
  noRepeats := noRepeats_empty
  known := by
    rintro id ⟨start, offset, h⟩
    simp [create] at h
  own := by
    intro id room h
    simp [create] at h
  referenced := by
    intro id h
    simp [create] at h

/-! ## §2. Forgetting. -/

/-- The rooms that `sweep` keeps. -/
theorem mem_heldIds (pages : Table Nat Page) (id : RoomId) :
    (pages.values.flatMap fun slots => slots.filterMap fun slot => slot).contains id = true
      ↔ Held pages id := by
  rw [List.contains_iff_mem, List.mem_flatMap, held_iff]
  constructor
  · rintro ⟨slots, hvalue, hmem⟩
    obtain ⟨start, hpage⟩ := Table.mem_values.1 hvalue
    obtain ⟨slot, hslot, rfl⟩ := List.mem_filterMap.1 hmem
    exact ⟨start, slots, hpage, hslot⟩
  · rintro ⟨start, slots, hpage, hmem⟩
    exact ⟨slots, Table.mem_values.2 ⟨start, hpage⟩, List.mem_filterMap.2 ⟨some id, hmem, rfl⟩⟩

/-- After a sweep the table knows exactly the held rooms it knew. -/
theorem get?_sweep_rooms (l : RoomList) (id : RoomId) (room : Room) :
    l.sweep.rooms.get? id = some room ↔ l.rooms.get? id = some room ∧ Held l.pages id := by
  unfold sweep
  rw [Table.get?_filter_eq_some]
  exact and_congr_right fun _ => mem_heldIds l.pages id

/-- A room that is held stays as it was. -/
theorem get?_sweep_held {l : RoomList} {id : RoomId} (h : Held l.pages id) :
    l.sweep.rooms.get? id = l.rooms.get? id := by
  refine Option.ext fun room => ?_
  rw [get?_sweep_rooms, and_iff_left h]

/-- Any other is forgotten. -/
theorem get?_sweep_unheld {l : RoomList} {id : RoomId} (h : ¬ Held l.pages id) :
    l.sweep.rooms.get? id = none := by
  refine Option.eq_none_iff_forall_ne_some.2 fun room hroom => ?_
  exact h ((get?_sweep_rooms l id room).1 hroom).2

/-- Of a room that no slot holds nothing is known. -/
theorem WellFormed.get?_eq_none {l : RoomList} (h : l.WellFormed) {id : RoomId}
    (hid : ¬ Held l.pages id) : l.rooms.get? id = none := by
  refine Option.eq_none_iff_forall_ne_some.2 fun room hroom => hid ?_
  exact h.referenced id (Table.contains_iff.2 ⟨room, hroom⟩)

/-- **To forget unnamed rooms makes a list well formed.** -/
theorem Sound.sweep {l : RoomList} (h : l.Sound) : l.sweep.WellFormed where
  pageSize_pos := h.pageSize_pos
  fits := h.fits
  noRepeats := h.noRepeats
  known := by
    intro id hid
    obtain ⟨room, hroom⟩ := Table.contains_iff.1 (h.known id hid)
    exact Table.contains_iff.2 ⟨room, (get?_sweep_rooms l id room).2 ⟨hroom, hid⟩⟩
  own := by
    intro id room hroom
    exact h.own id room ((get?_sweep_rooms l id room).1 hroom).1
  referenced := by
    intro id hid
    obtain ⟨room, hroom⟩ := Table.contains_iff.1 hid
    exact ((get?_sweep_rooms l id room).1 hroom).2

/-- Pages that are dropped leave a list sound. -/
theorem Sound.filterPages {l : RoomList} (h : l.Sound) (p : Nat → Page → Bool) :
    Sound { l with pages := l.pages.filter p } where
  pageSize_pos := h.pageSize_pos
  fits := by
    intro start slots hpage
    exact h.fits start slots (Table.get?_filter_eq_some.1 hpage).1
  noRepeats := h.noRepeats.mono fun start offset id => slotOf_filter l.pages p
  known := by
    rintro id ⟨start, offset, hslot⟩
    exact h.known id ⟨start, offset, slotOf_filter l.pages p hslot⟩
  own := h.own

theorem WellFormed.invalidate {l : RoomList} (h : l.WellFormed) (range : Nat × Nat) :
    (l.invalidate range).WellFormed := by
  unfold RoomList.invalidate
  dsimp only
  split
  next hlen =>
    -- no page is dropped, so the list is the same
    rw [Table.filter_eq_self hlen]
    exact h
  next => exact (h.toSound.filterPages _).sweep

theorem Sound.clear {l : RoomList} (h : l.Sound) (id : RoomId) : (l.clear id).Sound where
  pageSize_pos := h.pageSize_pos
  fits := fits_clear h.fits id
  noRepeats := h.noRepeats.mono fun start offset other => slotOf_of_clear
  known := by
    rintro other ⟨start, offset, hslot⟩
    exact h.known other ⟨start, offset, slotOf_of_clear hslot⟩
  own := h.own

/-! ## §3. Putting rooms into the table. -/

@[simp] theorem materialize_pages (user : UserId) (l : RoomList) (known : Option Room)
    (id : RoomId) (p : Payload) : (l.materialize user known id p).pages = l.pages := rfl

theorem contains_materialize (user : UserId) (l : RoomList) (known : Option Room)
    (id : RoomId) (p : Payload) (other : RoomId) :
    (l.materialize user known id p).rooms.contains other = true ↔
      other = id ∨ l.rooms.contains other = true := by
  unfold materialize
  rw [Table.contains_insert, Bool.or_eq_true, decide_eq_true_iff]

/-- The room that is put into the table keeps its id. -/
theorem own_materialize (user : UserId) {l : RoomList} {known : Option Room} {id : RoomId}
    (p : Payload) (hl : ∀ other room, l.rooms.get? other = some room → room.id = other)
    (hknown : ∀ room, known = some room → room.id = id) :
    ∀ other room, (l.materialize user known id p).rooms.get? other = some room →
      room.id = other := by
  intro other room hroom
  unfold materialize at hroom
  rw [Table.get?_insert] at hroom
  by_cases h : other = id
  · rw [if_pos h] at hroom
    obtain rfl := Option.some.inj hroom
    show (known.getD { id }).id = other
    cases hk : known with
    | none => exact h.symm
    | some r => exact (hknown r hk).trans h.symm
  · rw [if_neg h] at hroom
    exact hl other room hroom

/-! ## §4. UPDATE and DELETE. -/

/-- The room of an index is held. -/
theorem held_of_roomIdAt {l : RoomList} {index : Nat} {id : RoomId}
    (h : l.roomIdAt index = some id) : Held l.pages id := ⟨_, _, h⟩

theorem WellFormed.refuseIndex {l : RoomList} (h : l.WellFormed) (index : Nat) :
    (l.refuseIndex index).1.WellFormed := h.invalidate _

theorem WellFormed.materializeHeld {l : RoomList} (h : l.WellFormed) (user : UserId) {id : RoomId}
    (hid : Held l.pages id) (p : Payload) :
    (l.materialize user (l.rooms.get? id) id p).WellFormed where
  pageSize_pos := h.pageSize_pos
  fits := h.fits
  noRepeats := h.noRepeats
  known := by
    intro other hother
    exact (contains_materialize user l _ id p other).2 (.inr (h.known other hother))
  own := own_materialize user p h.own fun room => h.own id room
  referenced := by
    intro other hother
    rcases (contains_materialize user l _ id p other).1 hother with rfl | hknown
    · exact hid
    · exact h.referenced other hknown

theorem WellFormed.applyUpdate {l : RoomList} (h : l.WellFormed) (user : UserId) (index : Nat)
    (p : Payload) : (l.applyUpdate user index p).1.WellFormed := by
  unfold RoomList.applyUpdate
  split
  next =>
    split
    next => exact h.invalidate _
    next id hid =>
      dsimp only
      split
      next => exact h.materializeHeld user (held_of_roomIdAt hid) p
      next => exact h.invalidate _
  next => exact h.refuseIndex index

/-- A page with one slot turned into a placeholder. -/
theorem Sound.blank {l : RoomList} (h : l.Sound) {start : Nat} {slots : Page} (offset : Nat)
    (hpage : l.pages.get? start = some slots) :
    Sound { l with pages := l.pages.insert start (slots.set offset none) } := by
  -- no slot gains a room, so everything follows from the list before
  have hsub : ∀ s i id, slotOf (l.pages.insert start (slots.set offset none)) s i = some id →
      slotOf l.pages s i = some id := by
    intro s i id hslot
    rw [slotOf_insert] at hslot
    by_cases hs : s = start
    · rw [if_pos hs, Option.join_eq_some_iff, List.getElem?_set] at hslot
      subst hs
      refine slotOf_eq_some.2 ⟨slots, hpage, ?_⟩
      split at hslot
      · split at hslot <;> simp at hslot
      · exact hslot
    · rwa [if_neg hs] at hslot
  have hblank : PageFits l.pageSize start (slots.set offset none) :=
    (h.fits start slots hpage).resized List.length_set
  refine ⟨h.pageSize_pos, fits_insert h.fits hblank, h.noRepeats.mono hsub, ?_, h.own⟩
  rintro id ⟨s, i, hslot⟩
  exact h.known id ⟨s, i, hsub s i id hslot⟩

theorem slot?_eq_some {l : RoomList} {index : Nat} {slot : Option RoomId}
    (h : l.slot? index = some slot) :
    ∃ slots, l.pages.get? (l.locate index).1 = some slots
      ∧ slots[(l.locate index).2]? = some slot := by
  unfold slot? at h
  exact Option.bind_eq_some_iff.1 h

theorem WellFormed.applyDelete {l : RoomList} (h : l.WellFormed) (index : Nat) :
    (l.applyDelete index).1.WellFormed := by
  unfold RoomList.applyDelete
  split
  next =>
    dsimp only
    split
    next => exact h.invalidate _
    next => exact h
    next id hslot =>
      obtain ⟨slots, hpage, -⟩ := slot?_eq_some hslot
      rw [hpage]
      exact (h.toSound.blank _ hpage).sweep
  next => exact h.refuseIndex index

end RoomList

end RoomSync.Window
