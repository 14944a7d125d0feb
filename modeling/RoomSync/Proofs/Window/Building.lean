/-
  RoomSync.Proofs.Window.Building
  ───────────────────────────────
  **OPERATIONS THAT BUILD PAGES.**

  INSERT moves the slots of one page, and SYNC rebuilds one page slot by
  slot.  For both the question is where the room of a new slot stood before:

      join_getElem?_insertSlot — INSERT, as one equation on slots
      Rebuild.Sound.place      — SYNC, one slot
      Rebuild.Sound.finish     — SYNC, the page put in place

  With the simpler operations this gives the step lemma of lists,
  `WellFormed.applyCausal`.  That no operation changes what a list is made of,
  how it is cut, or its total (`frame_apply`) is on the way.
-/
import RoomSync.Proofs.Window.WellFormed

namespace RoomSync.Window

namespace RoomList

/-! ## §1. INSERT. -/

/-- The slots with a room put in at an offset that they reach. -/
theorem join_getElem?_splice (slots : Page) {offset : Nat} (id : RoomId) (i : Nat)
    (h : offset ≤ slots.length) :
    (slots.take offset ++ some id :: slots.drop offset)[i]?.join =
      if i = offset then some id
      else if i < offset then slots[i]?.join
      else slots[i - 1]?.join := by
  have htake : (slots.take offset).length = offset := by
    rw [List.length_take]
    omega
  -- before the room, at it, and behind it, where slots moved up by one
  rcases Nat.lt_trichotomy i offset with hi | hi | hi
  · rw [if_neg (by omega), if_pos hi, List.getElem?_append_left (by omega),
      List.getElem?_take_of_lt hi]
  · rw [if_pos hi, List.getElem?_append_right (by omega), htake, hi, Nat.sub_self]
    rfl
  · rw [if_neg (by omega), if_neg (by omega), List.getElem?_append_right (by omega), htake,
      show i - offset = (i - offset - 1) + 1 from by omega, List.getElem?_cons_succ,
      List.getElem?_drop, show offset + (i - offset - 1) = i - 1 from by omega]

/-- A page that is one slot too long loses its last slot. -/
theorem join_getElem?_cut (slots : Page) {pageSize : Nat} (i : Nat)
    (h : slots.length ≤ pageSize + 1) :
    (if pageSize < slots.length then slots.dropLast else slots)[i]?.join =
      if i < pageSize then slots[i]?.join else none := by
  split
  next hlong =>
    rw [List.getElem?_dropLast, show slots.length - 1 = pageSize from by omega]
    split <;> rfl
  next hfits =>
    split
    next => rfl
    next hi => rw [List.getElem?_eq_none (by omega), Option.join_none]

/-- **The slots after an insertion**: those before the offset stand, the room
is at the offset, and later ones moved up by one unless that takes them past
the end of the page. -/
theorem join_getElem?_insertSlot (slots : Page) {offset pageSize : Nat} (id : RoomId) (i : Nat)
    (ho : offset < pageSize) (hl : slots.length ≤ pageSize) :
    (insertSlot slots offset pageSize id)[i]?.join =
      if i = offset then some id
      else if i < offset then slots[i]?.join
      else if i < pageSize then slots[i - 1]?.join
      else none := by
  have hpad : (slots ++ List.replicate (offset - slots.length) none).length
      = max slots.length offset := by
    rw [List.length_append, List.length_replicate]
    omega
  unfold insertSlot
  dsimp only
  rw [join_getElem?_cut _ i (by simp only [List.length_append, List.length_cons, List.length_take,
      List.length_drop] at hpad ⊢; omega),
    join_getElem?_splice _ id i (by omega), join_getElem?_append_none, join_getElem?_append_none]
  by_cases hi : i < pageSize
  · simp only [if_pos hi]
  · rw [if_neg hi, if_neg (by omega), if_neg (by omega), if_neg hi]

theorem length_insertSlot (slots : Page) {offset pageSize : Nat} (id : RoomId)
    (ho : offset < pageSize) (hl : slots.length ≤ pageSize) :
    (insertSlot slots offset pageSize id).length =
      min (max slots.length offset + 1) pageSize := by
  unfold insertSlot
  dsimp only
  split
  next h =>
    simp only [List.length_append, List.length_take, List.length_replicate, List.length_cons,
      List.length_drop, List.length_dropLast] at h ⊢
    omega
  next h =>
    simp only [List.length_append, List.length_take, List.length_replicate, List.length_cons,
      List.length_drop] at h ⊢
    omega

/-- Where the room of a slot stood before an insertion. -/
theorem insertSlot_origin {slots : Page} {offset pageSize i : Nat} {id other : RoomId}
    (ho : offset < pageSize) (hl : slots.length ≤ pageSize)
    (h : (insertSlot slots offset pageSize id)[i]?.join = some other) :
    (i = offset ∧ other = id)
      ∨ ∃ j, slots[j]?.join = some other ∧ i = if j < offset then j else j + 1 := by
  rw [join_getElem?_insertSlot slots id i ho hl] at h
  split at h
  next hi => exact .inl ⟨hi, (Option.some.inj h).symm⟩
  next hi =>
    split at h
    next hlt => exact .inr ⟨i, h, (if_pos hlt).symm⟩
    next hlt =>
      split at h
      · refine .inr ⟨i - 1, h, ?_⟩
        rw [if_neg (by omega)]
        omega
      · simp at h

/-- The slots of a page, or of none. -/
theorem join_getElem?_getD (pages : Table Nat Page) (start i : Nat) :
    ((pages.get? start).getD [])[i]?.join = slotOf pages start i := by
  unfold slotOf
  cases pages.get? start <;> rfl

/-- The offset of an index lies inside of a page. -/
theorem locate_offset_lt {l : RoomList} (h : 0 < l.pageSize) (index : Nat) :
    (l.locate index).2 < l.pageSize := Nat.mod_lt index h

/-- The start of an index' page is aligned. -/
theorem locate_start_mod (l : RoomList) (index : Nat) :
    (l.locate index).1 % l.pageSize = 0 := by
  show (index - index % l.pageSize) % l.pageSize = 0
  exact Nat.sub_mod_eq_zero_of_mod_eq (Nat.mod_mod index l.pageSize).symm

/-- A page has at most `pageSize` slots, also where there is none. -/
theorem Sound.length_page_le {l : RoomList} (h : l.Sound) (start : Nat) :
    ((l.pages.get? start).getD []).length ≤ l.pageSize := by
  cases hpage : l.pages.get? start with
  | none => exact Nat.zero_le _
  | some slots => exact (h.fits start slots hpage).bounded

/-- **An insertion repeats no room**, since the room was cleared before. -/
theorem noRepeats_insertSlot {l : RoomList} (h : l.Sound) {id : RoomId}
    (hid : ¬ Held l.pages id) (start : Nat) {offset : Nat} (ho : offset < l.pageSize) :
    NoRepeats (l.pages.insert start
      (insertSlot ((l.pages.get? start).getD []) offset l.pageSize id)) := by
  have hlen := h.length_page_le start
  refine h.noRepeats.insert start _ ?_ ?_
  · intro i j other hi hj
    -- the new room against one that stood there before: it had been cleared
    rcases insertSlot_origin ho hlen hi with ⟨hi1, rfl⟩ | ⟨i', hi', hi1⟩ <;>
      rcases insertSlot_origin ho hlen hj with ⟨hj1, hj'⟩ | ⟨j', hj', hj1⟩
    · exact hi1.trans hj1.symm
    · rw [join_getElem?_getD] at hj'
      exact absurd ⟨_, _, hj'⟩ hid
    · subst hj'
      rw [join_getElem?_getD] at hi'
      exact absurd ⟨_, _, hi'⟩ hid
    · -- both stood in the page before, so at one offset
      rw [join_getElem?_getD] at hi' hj'
      obtain ⟨-, rfl⟩ := h.noRepeats _ _ _ _ _ hi' hj'
      exact hi1.trans hj1.symm
  · intro i other start' offset' hi hne hother
    rcases insertSlot_origin ho hlen hi with ⟨-, rfl⟩ | ⟨i', hi', -⟩
    · exact hid ⟨_, _, hother⟩
    · -- it stood in this page before, so in no other
      rw [join_getElem?_getD] at hi'
      exact hne (h.noRepeats _ _ _ _ _ hother hi').1

/-- A list with a room inserted, before unnamed rooms are forgotten. -/
theorem Sound.insert {l : RoomList} (h : l.Sound) (user : UserId) {id : RoomId}
    (hid : ¬ Held l.pages id) {index : Nat} (hindex : l.isAddressable index = true) (p : Payload) :
    Sound (RoomList.materialize user
      { l with
        pages := l.pages.insert (l.locate index).1 (insertSlot
          ((l.pages.get? (l.locate index).1).getD []) (l.locate index).2 l.pageSize id) }
      (l.rooms.get? id) id p) := by
  have ho := locate_offset_lt h.pageSize_pos index
  have hlen := h.length_page_le (l.locate index).1
  have hpage : PageFits l.pageSize (l.locate index).1 (insertSlot
      ((l.pages.get? (l.locate index).1).getD []) (l.locate index).2 l.pageSize id) := by
    refine ⟨locate_start_mod l index, of_decide_eq_true hindex, ?_, ?_⟩
    · rw [length_insertSlot _ id ho hlen]
      have := h.pageSize_pos
      omega
    · rw [length_insertSlot _ id ho hlen]
      exact Nat.min_le_right _ _
  refine ⟨h.pageSize_pos, fits_insert h.fits hpage, noRepeats_insertSlot h hid _ ho, ?_, ?_⟩
  · rintro other ⟨start, offset, hslot⟩
    refine (contains_materialize user _ _ id p other).2 ?_
    rw [materialize_pages, slotOf_insert] at hslot
    -- a slot of the page is the new room's or an old one's
    by_cases hs : start = (l.locate index).1
    · rw [if_pos hs] at hslot
      rcases insertSlot_origin ho hlen hslot with ⟨-, rfl⟩ | ⟨i, hi, -⟩
      · exact .inl rfl
      · rw [join_getElem?_getD] at hi
        exact .inr (h.known other ⟨_, _, hi⟩)
    · rw [if_neg hs] at hslot
      exact .inr (h.known other ⟨_, _, hslot⟩)
  · exact own_materialize user p h.own fun room => h.own id room

theorem WellFormed.applyInsert {l : RoomList} (h : l.WellFormed) (user : UserId) (index : Nat)
    (p : Payload) : (l.applyInsert user index p).1.WellFormed := by
  unfold RoomList.applyInsert
  split
  next hindex =>
    dsimp only
    split
    next => exact h.invalidate _
    next id hid =>
      exact ((h.toSound.clear id).insert user (not_held_clear l id) hindex p).sweep
  next => exact h.refuseIndex index

/-! ## §2. What no operation changes. -/

/-- What a list is made of, and how it is cut. -/
def kind (l : RoomList) : Behaviour × Nat := (l.behaviour, l.pageSize)

/-- What no operation changes: the kind of a list, and its total. -/
def frame (l : RoomList) : Behaviour × Nat × Nat := (l.behaviour, l.pageSize, l.total)

theorem frame_invalidate (l : RoomList) (range : Nat × Nat) :
    (l.invalidate range).frame = l.frame := by
  unfold RoomList.invalidate
  dsimp only
  split <;> rfl

theorem Rebuild.frame_place (b : Rebuild) (user : UserId) (entry : Option Payload) :
    (b.place user entry).list.frame = b.list.frame := by
  unfold Rebuild.place
  split
  next => rfl
  next => split <;> rfl

theorem Rebuild.frame_foldl_place (user : UserId) (entries : List (Option Payload)) :
    ∀ b : Rebuild, (entries.foldl (Rebuild.place user) b).list.frame = b.list.frame := by
  induction entries with
  | nil =>
      intro b
      rfl
  | cons entry rest ih =>
      intro b
      exact (ih (b.place user entry)).trans (b.frame_place user entry)

theorem frame_applySync (user : UserId) (l : RoomList) (range : Nat × Nat)
    (rooms : List (Option Payload)) : (l.applySync user range rooms).1.frame = l.frame := by
  unfold RoomList.applySync
  split
  next => exact Rebuild.frame_foldl_place user _ (l.beginRebuild range.1)
  next => exact frame_invalidate l range

theorem frame_applyInsert (user : UserId) (l : RoomList) (index : Nat) (p : Payload) :
    (l.applyInsert user index p).1.frame = l.frame := by
  unfold RoomList.applyInsert
  split
  next =>
    dsimp only
    split
    next => exact frame_invalidate l _
    next => rfl
  next => exact frame_invalidate l _

theorem frame_applyUpdate (user : UserId) (l : RoomList) (index : Nat) (p : Payload) :
    (l.applyUpdate user index p).1.frame = l.frame := by
  unfold RoomList.applyUpdate
  split
  next =>
    split
    next => exact frame_invalidate l _
    next =>
      dsimp only
      split
      next => rfl
      next => exact frame_invalidate l _
  next => exact frame_invalidate l _

theorem frame_applyDelete (l : RoomList) (index : Nat) :
    (l.applyDelete index).1.frame = l.frame := by
  unfold RoomList.applyDelete
  split
  next =>
    dsimp only
    split
    next => exact frame_invalidate l _
    next => rfl
    next => rfl
  next => exact frame_invalidate l _

/-- The list after an operation, whatever is answered. -/
theorem apply_fst (user : UserId) (l : RoomList) (op : Operation) :
    (l.apply user op).1 = (l.applyCausal user op).1 := by
  unfold RoomList.apply
  split <;> rename_i heq <;> rw [heq]

/-- What an accepted operation answers. -/
theorem apply_snd_eq_ok (user : UserId) {l : RoomList} {op : Operation} {touched : List Touched} :
    (l.apply user op).2 = .ok touched ↔ (l.applyCausal user op).2 = .ok touched := by
  unfold RoomList.apply
  split <;> rename_i heq <;> simp [heq]

/-- **An operation changes neither what a list is made of, nor how it is cut,
nor its total.** -/
theorem frame_apply (user : UserId) (l : RoomList) (op : Operation) :
    (l.apply user op).1.frame = l.frame := by
  rw [apply_fst]
  cases op with
  | sync list range rooms => exact frame_applySync user l range rooms
  | insert list index p => exact frame_applyInsert user l index p
  | update list index p => exact frame_applyUpdate user l index p
  | delete list index => exact frame_applyDelete l index
  | invalidate list range => exact frame_invalidate l range

theorem kind_apply (user : UserId) (l : RoomList) (op : Operation) :
    (l.apply user op).1.kind = l.kind :=
  congrArg (fun f => (f.1, f.2.1)) (frame_apply user l op)

/-! ## §3. SYNC. -/

/-- The first index that holds a room is missing exactly if none does. -/
theorem holds_iff (l : RoomList) (id : RoomId) : l.holds id = true ↔ Held l.pages id := by
  unfold holds positionOf
  rw [List.findSome?_isSome_iff, held_iff]
  constructor
  · rintro ⟨⟨start, slots⟩, hentry, hsome⟩
    rw [Option.isSome_map, List.findIdx?_isSome, List.any_eq_true] at hsome
    obtain ⟨slot, hslot, heq⟩ := hsome
    exact ⟨start, slots, Table.mem_entries.1 hentry, eq_of_beq heq ▸ hslot⟩
  · rintro ⟨start, slots, hpage, hmem⟩
    refine ⟨(start, slots), Table.mem_entries.2 hpage, ?_⟩
    rw [Option.isSome_map, List.findIdx?_isSome, List.any_eq_true]
    exact ⟨some id, hmem, beq_self_eq_true _⟩

/-- **The invariant of a page under construction**: with the slots built so
far in place, the list is sound. -/
structure Rebuild.Sound (b : Rebuild) (start : Nat) : Prop where
  pageSize_pos : 0 < b.list.pageSize
  fits : ∀ s slots, b.list.pages.get? s = some slots → PageFits b.list.pageSize s slots
  noRepeats : NoRepeats (b.list.pages.insert start b.slots)
  known : ∀ id, Held (b.list.pages.insert start b.slots) id → b.list.rooms.contains id = true
  own : ∀ id room, b.list.rooms.get? id = some room → room.id = id
  ownDetached : ∀ id room, b.detached.get? id = some room → room.id = id

/-- **The page is taken out**; only rooms that no other page holds leave the
table with it. -/
theorem Sound.beginRebuild {l : RoomList} (h : l.Sound) (start : Nat) :
    (l.beginRebuild start).Sound start := by
  -- an empty page in place of the old one: nothing stands there
  have hslots : ∀ s i, slotOf (((l.pages.erase start)).insert start []) s i =
      if s = start then none else slotOf l.pages s i := by
    intro s i
    rw [slotOf_insert, slotOf_erase]
    split <;> rfl
  have hsub : ∀ s i id, slotOf ((l.pages.erase start).insert start []) s i = some id →
      slotOf l.pages s i = some id ∧ slotOf (l.pages.erase start) s i = some id := by
    intro s i id hslot
    rw [hslots] at hslot
    rw [slotOf_erase]
    split at hslot
    next => simp at hslot
    next hs =>
      rw [if_neg hs]
      exact ⟨hslot, hslot⟩
  refine ⟨h.pageSize_pos, ?_, h.noRepeats.mono fun s i id hslot => (hsub s i id hslot).1,
    ?_, ?_, ?_⟩
  · intro s slots hpage
    have hpage : (l.pages.erase start).get? s = some slots := hpage
    rw [Table.get?_erase] at hpage
    split at hpage
    · simp at hpage
    · exact h.fits s slots hpage
  · rintro id ⟨s, i, hslot⟩
    obtain ⟨hbefore, helsewhere⟩ := hsub s i id hslot
    obtain ⟨room, hroom⟩ := Table.contains_iff.1 (h.known id ⟨s, i, hbefore⟩)
    -- a room that another page holds is no orphan, so it stays in the table
    have hheld : RoomList.holds { l with pages := l.pages.erase start } id = true :=
      (holds_iff _ id).2 ⟨s, i, helsewhere⟩
    refine Table.contains_iff.2 ⟨room, ?_⟩
    unfold RoomList.beginRebuild
    rw [Table.get?_filter_eq_some]
    exact ⟨hroom, by simp [hheld]⟩
  · intro id room hroom
    exact h.own id room (Table.get?_filter_eq_some.1 hroom).1
  · intro id room hroom
    exact h.own id room (Table.get?_filter_eq_some.1 hroom).1

/-- Placeholders at the end of the new page name nobody. -/
theorem Rebuild.slotOf_pad (b : Rebuild) (start n s i : Nat) :
    slotOf (b.list.pages.insert start (b.slots ++ List.replicate n none)) s i =
      slotOf (b.list.pages.insert start b.slots) s i := by
  rw [slotOf_insert, slotOf_insert, join_getElem?_append_none]

/-- One more placeholder. -/
theorem Rebuild.Sound.skip {b : Rebuild} {start : Nat} (h : b.Sound start) :
    Rebuild.Sound { b with slots := b.slots ++ [none] } start := by
  have hpad := b.slotOf_pad start 1
  refine ⟨h.pageSize_pos, h.fits, h.noRepeats.mono fun s i id hslot => ?_, ?_, h.own,
    h.ownDetached⟩
  · exact (hpad s i).symm.trans hslot
  · rintro id ⟨s, i, hslot⟩
    exact h.known id ⟨s, i, (hpad s i).symm.trans hslot⟩

/-- **One more room**: it stands in the new slot and nowhere else, and every
other room stands where it stood. -/
theorem Rebuild.slotOf_take (b : Rebuild) (start : Nat) (id : RoomId)
    (hnew : some id ∉ b.slots) {s i : Nat} {other : RoomId}
    (h : slotOf ((b.list.clear id).pages.insert start (b.slots ++ [some id])) s i = some other) :
    (s = start ∧ i = b.slots.length ∧ other = id)
      ∨ (slotOf (b.list.pages.insert start b.slots) s i = some other ∧ other ≠ id) := by
  rw [slotOf_insert] at h ⊢
  by_cases hs : s = start
  · rw [if_pos hs, join_getElem?_append_single] at h
    by_cases hi : i = b.slots.length
    · rw [if_pos hi] at h
      exact .inl ⟨hs, hi, (Option.some.inj h).symm⟩
    · rw [if_neg hi] at h
      refine .inr ⟨(if_pos hs).trans h, ?_⟩
      rintro rfl
      exact hnew (List.mem_of_getElem? (Option.join_eq_some_iff.1 h))
  · rw [if_neg hs] at h
    refine .inr ⟨(if_neg hs).trans (slotOf_of_clear h), ?_⟩
    rintro rfl
    exact not_held_clear b.list other ⟨s, i, h⟩

theorem Rebuild.Sound.take {b : Rebuild} {start : Nat} (h : b.Sound start) (user : UserId)
    {id : RoomId} (hnew : some id ∉ b.slots) (p : Payload) (touched : List Touched) :
    Rebuild.Sound
      { list := (b.list.clear id).materialize user
          ((b.detached.get? id).or (b.list.rooms.get? id)) id p
        detached := b.detached.erase id
        slots := b.slots ++ [some id]
        touched } start := by
  refine ⟨h.pageSize_pos, fits_clear h.fits id, ?_, ?_, ?_, ?_⟩
  · intro s i s' i' other h1 h2
    rcases b.slotOf_take start id hnew h1 with ⟨hs, hi, ho⟩ | ⟨h1, ho⟩ <;>
      rcases b.slotOf_take start id hnew h2 with ⟨hs', hi', ho'⟩ | ⟨h2, ho'⟩
    · exact ⟨hs.trans hs'.symm, hi.trans hi'.symm⟩
    · exact absurd ho ho'
    · exact absurd ho' ho
    · exact h.noRepeats _ _ _ _ _ h1 h2
  · rintro other ⟨s, i, hslot⟩
    refine (contains_materialize user _ _ id p other).2 ?_
    rcases b.slotOf_take start id hnew hslot with ⟨-, -, ho⟩ | ⟨hslot, -⟩
    · exact .inl ho
    · exact .inr (h.known other ⟨s, i, hslot⟩)
  · -- the room is one of the old page, or one of the table
    refine own_materialize user p h.own fun room hroom => ?_
    rw [Option.or_eq_some_iff] at hroom
    rcases hroom with hroom | ⟨-, hroom⟩
    · exact h.ownDetached id room hroom
    · exact h.own id room hroom
  · intro other room hroom
    rw [Table.get?_erase] at hroom
    split at hroom
    · simp at hroom
    · exact h.ownDetached other room hroom

/-- **One slot of a page under construction.** -/
theorem Rebuild.Sound.place {b : Rebuild} {start : Nat} (h : b.Sound start) (user : UserId)
    (entry : Option Payload) : (b.place user entry).Sound start := by
  unfold Rebuild.place
  split
  next => exact h.skip
  next id p hentry =>
    split
    next => exact h.skip
    next hnew =>
      have hnew : some id ∉ b.slots := fun hmem => hnew (List.contains_iff_mem.2 hmem)
      exact h.take user hnew p _

theorem Rebuild.length_place (b : Rebuild) (user : UserId) (entry : Option Payload) :
    (b.place user entry).slots.length = b.slots.length + 1 := by
  unfold Rebuild.place
  split
  next => exact List.length_append
  next => split <;> exact List.length_append

/-- All slots of a page, one after the other. -/
theorem Rebuild.Sound.foldl_place {start : Nat} (user : UserId) (entries : List (Option Payload)) :
    ∀ b : Rebuild, b.Sound start →
      (entries.foldl (Rebuild.place user) b).Sound start
        ∧ (entries.foldl (Rebuild.place user) b).slots.length =
            b.slots.length + entries.length := by
  induction entries with
  | nil =>
      intro b h
      exact ⟨h, rfl⟩
  | cons entry rest ih =>
      intro b h
      obtain ⟨hsound, hlen⟩ := ih (b.place user entry) (h.place user entry)
      refine ⟨hsound, ?_⟩
      rw [List.foldl_cons, hlen, b.length_place, List.length_cons]
      omega

/-- **The page is put in place.** -/
theorem Rebuild.Sound.finish {b : Rebuild} {start width : Nat} (h : b.Sound start)
    (haligned : start % b.list.pageSize = 0) (haddress : start + b.list.pageSize ≤ maxIndex)
    (hpos : 0 < width) (hwidth : width ≤ b.list.pageSize) (hlen : b.slots.length ≤ width) :
    (b.finish start width).WellFormed := by
  have hpad := b.slotOf_pad start (width - b.slots.length)
  have hlong : (b.slots ++ List.replicate (width - b.slots.length) none).length = width := by
    rw [List.length_append, List.length_replicate]
    omega
  have hpage : PageFits b.list.pageSize start
      (b.slots ++ List.replicate (width - b.slots.length) none) :=
    ⟨haligned, haddress, hlong.symm ▸ hpos, hlong.symm ▸ hwidth⟩
  refine RoomList.Sound.sweep ⟨h.pageSize_pos, fits_insert h.fits hpage,
    h.noRepeats.mono fun s i id hslot => ?_, ?_, h.own⟩
  · exact (hpad s i).symm.trans hslot
  · rintro id ⟨s, i, hslot⟩
    exact h.known id ⟨s, i, (hpad s i).symm.trans hslot⟩

/-- What it takes for a window to fit. -/
theorem fits_iff (l : RoomList) (range : Nat × Nat) :
    l.fits range = true ↔ range.1 < range.2 ∧ range.1 % l.pageSize = 0
      ∧ range.2 - range.1 ≤ l.pageSize ∧ range.1 + l.pageSize ≤ maxIndex := by
  unfold fits
  simp only [Bool.and_eq_true, decide_eq_true_eq, and_assoc]

/-- Whether a window fits depends on the kind of the list alone. -/
theorem fits_congr {l l' : RoomList} (h : l.kind = l'.kind) (range : Nat × Nat) :
    l.fits range = l'.fits range := by
  have hsize : l.pageSize = l'.pageSize := congrArg Prod.snd h
  unfold fits
  rw [hsize]

theorem WellFormed.applySync {l : RoomList} (h : l.WellFormed) (user : UserId)
    (range : Nat × Nat) (rooms : List (Option Payload)) :
    (l.applySync user range rooms).1.WellFormed := by
  unfold RoomList.applySync
  split
  next hfits =>
    obtain ⟨hlt, haligned, hwidth, haddress⟩ := (l.fits_iff range).1 hfits
    obtain ⟨hsound, hlen⟩ := Rebuild.Sound.foldl_place user
      (rooms.take (range.2 - range.1)) (l.beginRebuild range.1) (h.toSound.beginRebuild range.1)
    -- no slot changes the page size, so the window fits as it did
    have hsize : ((rooms.take (range.2 - range.1)).foldl (Rebuild.place user)
        (l.beginRebuild range.1)).list.pageSize = l.pageSize :=
      congrArg (·.2.1) (Rebuild.frame_foldl_place user _ (l.beginRebuild range.1))
    refine hsound.finish ?_ ?_ (by omega) ?_ ?_
    · rw [hsize]
      exact haligned
    · rw [hsize]
      exact haddress
    · rw [hsize]
      exact hwidth
    · rw [hlen, List.length_take]
      show 0 + _ ≤ _
      omega
  next => exact h.invalidate range

/-! ## §4. Any operation. -/

/-- **The step lemma of lists**: an operation leaves a well-formed list well
formed, whether it is accepted or refused. -/
theorem WellFormed.applyCausal {l : RoomList} (h : l.WellFormed) (user : UserId) (op : Operation) :
    (l.applyCausal user op).1.WellFormed := by
  cases op with
  | sync list range rooms => exact h.applySync user range rooms
  | insert list index p => exact h.applyInsert user index p
  | update list index p => exact h.applyUpdate user index p
  | delete list index => exact h.applyDelete index
  | invalidate list range => exact h.invalidate range

theorem WellFormed.apply {l : RoomList} (h : l.WellFormed) (user : UserId) (op : Operation) :
    (l.apply user op).1.WellFormed := by
  rw [apply_fst]
  exact h.applyCausal user op

theorem WellFormed.setTotal {l : RoomList} (h : l.WellFormed) (n : Nat) :
    WellFormed { l with total := n } :=
  ⟨⟨h.pageSize_pos, h.fits, h.noRepeats, h.known, h.own⟩, h.referenced⟩

end RoomList

end RoomSync.Window
