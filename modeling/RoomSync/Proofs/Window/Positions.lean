/-
  RoomSync.Proofs.Window.Positions
  ────────────────────────────────
  **WHERE A ROOM IS, AND WHAT IS WHERE.**

  A list is asked in two directions: which room an index holds, and at which
  index a room stands.  In a well-formed list the answers are each other's
  inverse, since pages are aligned (an index has one place) and no room
  stands in two places:

      roomIdAt_iff_positionOf — the two directions agree
      isSome_roomAt           — a room that is found by its index is known
-/
import RoomSync.Proofs.Window.Building

namespace RoomSync.Window

namespace RoomList

/-- Of two aligned starts less than a page apart, the second is no smaller. -/
theorem le_of_aligned {pageSize start start' : Nat} (h : start % pageSize = 0)
    (h' : start' % pageSize = 0) (hlt : start < start' + pageSize) : start ≤ start' := by
  obtain ⟨a, rfl⟩ := Nat.dvd_of_mod_eq_zero h
  obtain ⟨b, rfl⟩ := Nat.dvd_of_mod_eq_zero h'
  rw [← Nat.mul_succ] at hlt
  exact Nat.mul_le_mul_left _ (Nat.le_of_lt_succ (Nat.lt_of_mul_lt_mul_left hlt))

/-- A place in a page is the place of one index. -/
theorem locate_add {l : RoomList} {start offset : Nat} (haligned : start % l.pageSize = 0)
    (hoffset : offset < l.pageSize) : l.locate (start + offset) = (start, offset) := by
  have hmod : (start + offset) % l.pageSize = offset := by
    rw [Nat.add_mod, haligned, Nat.zero_add, Nat.mod_mod, Nat.mod_eq_of_lt hoffset]
  unfold locate
  rw [hmod, Nat.add_sub_cancel]

/-- An index is put together from its place. -/
theorem locate_sum (l : RoomList) (index : Nat) :
    (l.locate index).1 + (l.locate index).2 = index := by
  have := Nat.mod_le index l.pageSize
  show index - index % l.pageSize + index % l.pageSize = index
  omega

/-- How a list is cut says where an index is. -/
theorem locate_congr {l l' : RoomList} (h : l'.frame = l.frame) (i : Nat) :
    l'.locate i = l.locate i := by
  have hsize : l'.pageSize = l.pageSize := congrArg (·.2.1) h
  unfold locate
  rw [hsize]

/-- The pages alone say where a room is. -/
theorem positionOf_of_pages {l l' : RoomList} (h : l'.pages = l.pages) (id : RoomId) :
    l'.positionOf id = l.positionOf id := by
  unfold positionOf
  rw [h]

/-- A room without a position has no slot. -/
theorem not_held_of_positionOf {l : RoomList} {id : RoomId} (h : l.positionOf id = none) :
    ¬ Held l.pages id := by
  rw [← holds_iff, holds, h]
  simp

/-- What an answer of `positionOf` stands for. -/
theorem positionOf_place {l : RoomList} {id : RoomId} {index : Nat}
    (h : l.positionOf id = some index) :
    ∃ start slots offset, l.pages.get? start = some slots ∧ slots[offset]? = some (some id)
      ∧ offset < slots.length ∧ index = start + offset := by
  unfold positionOf at h
  obtain ⟨⟨start, slots⟩, hentry, hfound⟩ := List.exists_of_findSome?_eq_some h
  obtain ⟨offset, hoffset, rfl⟩ := Option.map_eq_some_iff.1 hfound
  obtain ⟨hlt, hslot, -⟩ := List.findIdx?_eq_some_iff_getElem.1 hoffset
  refine ⟨start, slots, offset, Table.mem_entries.1 hentry, ?_, hlt, rfl⟩
  rw [List.getElem?_eq_getElem hlt, eq_of_beq hslot]

/-- A room stands where it is said to stand. -/
theorem Sound.roomIdAt_of_positionOf {l : RoomList} (h : l.Sound) {id : RoomId} {index : Nat}
    (hpos : l.positionOf id = some index) : l.roomIdAt index = some id := by
  obtain ⟨start, slots, offset, hpage, hslot, hlt, rfl⟩ := positionOf_place hpos
  have hfit := h.fits start slots hpage
  -- the offset is within a page, so the place is that of the index
  have hoffset : offset < l.pageSize := Nat.lt_of_lt_of_le hlt hfit.bounded
  rw [roomIdAt_eq_slotOf, locate_add hfit.aligned hoffset]
  exact slotOf_eq_some.2 ⟨slots, hpage, hslot⟩

/-- **The two directions agree.** -/
theorem Sound.roomIdAt_iff_positionOf {l : RoomList} (h : l.Sound) (index : Nat) (id : RoomId) :
    l.roomIdAt index = some id ↔ l.positionOf id = some index := by
  constructor
  · intro hat
    -- some index is answered; it need not be the same one yet
    obtain ⟨found, hfound⟩ := Option.isSome_iff_exists.1
      ((holds_iff l id).2 (held_of_roomIdAt hat))
    have hat' := h.roomIdAt_of_positionOf hfound
    rw [roomIdAt_eq_slotOf] at hat hat'
    -- both places hold the room, so they are one place and one index
    obtain ⟨hstart, hoffset⟩ := h.noRepeats _ _ _ _ _ hat hat'
    rw [hfound, ← l.locate_sum index, ← l.locate_sum found, hstart, hoffset]
  · exact h.roomIdAt_of_positionOf

/-- **A room that is found by its index is known.** -/
theorem Sound.isSome_roomAt {l : RoomList} (h : l.Sound) (index : Nat) :
    (l.roomAt index).isSome = (l.roomIdAt index).isSome := by
  unfold roomAt
  cases hat : l.roomIdAt index with
  | none => rfl
  | some id => exact h.known id (held_of_roomIdAt hat)

end RoomList

end RoomSync.Window
