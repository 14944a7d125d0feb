/-
  RoomSync.Proofs.Window.Shifting
  ───────────────────────────────
  **ROOMS THAT MOVE UP.**

  An INSERT puts a room into a page and moves the slots behind it up by one, no
  further than the page reaches.  In terms of slots the page is a splice that is
  cut to size; in terms of indices every other room has one place to go, or none:

      index before          index after
      before the insertion  the same
      in the page behind    one more, unless that leaves the page
      in any other page     the same

      insertSlot_eq_take  — the page as a splice
      WellFormed.inserted — what an INSERT makes of a list
      Inserted.roomIdAt   — the room at every index, as one equation
      Inserted.positionOf — the index of every other room (`shifted`)
      insert_shifts_page  — all of it, for any list that can arise

  The equation on indices is the one the rest is read off: a room is forgotten
  exactly if no index holds it any more.
-/
import RoomSync.Proofs.Window.Rebuilding
import RoomSync.Proofs.Window.Refusals

namespace RoomSync.Window

namespace RoomList

/-! ## §1. The page. -/

section Insert

variable (user : UserId)

/-- What an INSERT of a room makes of a list `l`. -/
structure Inserted (l : RoomList) (index : Nat) (id : RoomId) (p : Payload) (l' : RoomList) :
    Prop where
  frame : l'.frame = l.frame
  page : l'.pages.get? (l.locate index).1 =
    some (insertSlot (blanked (· = id) ((l.pages.get? (l.locate index).1).getD []))
      (l.locate index).2 l.pageSize id)
  others : ∀ s, s ≠ (l.locate index).1 →
    l'.pages.get? s = (l.pages.get? s).map (blanked (· = id))
  brought : l'.rooms.get? id = some (l.roomAfter user id p)
  kept : ∀ other, other ≠ id → Held l'.pages other → l'.rooms.get? other = l.rooms.get? other
  forgotten : ∀ other, other ≠ id → ¬ Held l'.pages other → l'.rooms.get? other = none

/-- The page is put in place, and the room into the table. -/
theorem WellFormed.inserted_sweep {l m : RoomList} (h : l.WellFormed) {index : Nat}
    {id : RoomId} {p : Payload} (hframe : m.frame = l.frame)
    (hpages : m.pages = (l.clear id).pages.insert (l.locate index).1
      (insertSlot (blanked (· = id) ((l.pages.get? (l.locate index).1).getD []))
        (l.locate index).2 l.pageSize id))
    (hrooms : m.rooms = l.rooms.insert id (l.roomAfter user id p)) :
    l.Inserted user index id p m.sweep := by
  have hslots := h.length_page_le (l.locate index).1
  have hoffset := locate_offset_lt h.pageSize_pos index
  have hpage : m.pages.get? (l.locate index).1 =
      some (insertSlot (blanked (· = id) ((l.pages.get? (l.locate index).1).getD []))
        (l.locate index).2 l.pageSize id) := by
    rw [hpages, Table.get?_insert, if_pos rfl]
  have hheld : Held m.pages id := by
    refine ⟨_, (l.locate index).2, slotOf_eq_some.2 ⟨_, hpage, Option.join_eq_some_iff.1 ?_⟩⟩
    rw [join_getElem?_insertSlot _ id _ hoffset (by simpa using hslots), if_pos rfl]
  refine ⟨hframe, hpage, fun s hs => ?_, ?_, fun other hne hother => ?_,
    fun other hne hother => get?_sweep_unheld hother⟩
  · show m.pages.get? s = _
    rw [hpages, Table.get?_insert, if_neg hs, get?_clear_pages]
  · rw [get?_sweep_held hheld, hrooms, Table.get?_insert, if_pos rfl]
  · rw [get?_sweep_held (l := m) hother, hrooms, Table.get?_insert, if_neg hne]

/-- **What an INSERT makes of a list.** -/
theorem WellFormed.inserted {l : RoomList} (h : l.WellFormed) {index : Nat} {p : Payload}
    {id : RoomId} (haddress : (l.window index).2 ≤ maxIndex) (hroom : p.roomId = some id) :
    (l.applyInsert user index p).2 = .ok [⟨id, p⟩]
      ∧ l.Inserted user index id p (l.applyInsert user index p).1 := by
  have hcleared : ((l.clear id).pages.get? (l.locate index).1).getD [] =
      blanked (· = id) ((l.pages.get? (l.locate index).1).getD []) := by
    rw [get?_clear_pages]
    cases l.pages.get? (l.locate index).1 <;> rfl
  unfold RoomList.applyInsert
  rw [if_pos ((l.isAddressable_iff index).2 haddress), hroom]
  refine ⟨rfl, h.inserted_sweep user rfl ?_ rfl⟩
  rw [← hcleared]
  rfl

/-! ## §3. The indices. -/

/-- The indices of a page are those of its window. -/
theorem Sound.locate_eq_iff {l : RoomList} (h : l.Sound) (index i : Nat) :
    (l.locate i).1 = (l.locate index).1 ↔ (l.window index).1 ≤ i ∧ i < (l.window index).2 := by
  have hsum := l.locate_sum i
  have hoffset := locate_offset_lt h.pageSize_pos i
  unfold window
  constructor
  · intro hsame
    omega
  · rintro ⟨hfrom, hto⟩
    have hplace : i = (l.locate index).1 + (i - (l.locate index).1) := by omega
    rw [hplace, locate_add (locate_start_mod l index) (by omega)]

/-- **The room at every index after an INSERT.** -/
theorem Inserted.roomIdAt {l l' : RoomList} (hl : l.WellFormed) {index : Nat} {id : RoomId}
    {p : Payload} (h : l.Inserted user index id p l') (i : Nat) :
    l'.roomIdAt i =
      if i = index then some id
      else (if i < index ∨ (l.window index).2 ≤ i then l.roomIdAt i
        else l.roomIdAt (i - 1)).filter fun other => !decide (other = id) := by
  have hsum := l.locate_sum i
  have hindex := l.locate_sum index
  have hoffset := locate_offset_lt hl.pageSize_pos i
  have hwindow := hl.locate_eq_iff index i
  have haligned := locate_start_mod l index
  rw [roomIdAt_eq_slotOf, locate_congr h.frame]
  by_cases hs : (l.locate i).1 = (l.locate index).1
  · -- in the page: both places are offsets from one start
    have hslots := hl.length_page_le (l.locate index).1
    rw [hs, slotOf, h.page, Option.bind_some, join_getElem?_insertSlot _ id _
      (locate_offset_lt hl.pageSize_pos index) (by simpa using hslots), join_getElem?_blanked,
      join_getElem?_blanked, join_getElem?_getD, join_getElem?_getD]
    obtain ⟨hfrom, hto⟩ := hwindow.1 hs
    by_cases hi : i = index
    · rw [if_pos (by rw [hi]), if_pos hi]
    · rw [if_neg (by omega), if_neg hi]
      by_cases hlt : i < index
      · rw [if_pos (by omega), if_pos (.inl hlt), roomIdAt_eq_slotOf, hs]
      · have hbefore : l.locate (i - 1) = ((l.locate index).1, (l.locate i).2 - 1) := by
          have hplace : i - 1 = (l.locate index).1 + ((l.locate i).2 - 1) := by omega
          rw [hplace, locate_add haligned (by omega)]
        rw [if_neg (by omega), if_pos hoffset, if_neg (by omega), roomIdAt_eq_slotOf, hbefore]
  · -- in another page, where nothing moved
    have hout : i < index ∨ (l.window index).2 ≤ i := by
      have hstart : (l.window index).1 = (l.locate index).1 := rfl
      have := mt hwindow.2 hs
      omega
    have hne : i ≠ index := by
      rintro rfl
      exact hs rfl
    rw [slotOf_blanked (h.others _ hs), if_neg hne, if_pos hout]
    rfl

/-- Where the room at `i` goes when another is put in at `index`: behind it, but in
the same window, rooms move up by one, and the last one has nowhere to go. -/
def shifted (window : Nat × Nat) (index i : Nat) : Option Nat :=
  if i < index ∨ window.2 ≤ i then some i
  else if i + 1 < window.2 then some (i + 1)
  else none

/-- An index lies in its own window. -/
theorem Sound.mem_window {l : RoomList} (h : l.Sound) (index : Nat) :
    (l.window index).1 ≤ index ∧ index < (l.window index).2 := (h.locate_eq_iff index index).1 rfl

variable {user}

/-- **The index of every other room after an INSERT.** -/
theorem Inserted.positionOf {l l' : RoomList} (hl : l.WellFormed) (hl' : l'.WellFormed)
    {index : Nat} {id : RoomId} {p : Payload} (h : l.Inserted user index id p l')
    {other : RoomId} (hne : other ≠ id) :
    l'.positionOf other = (l.positionOf other).bind (shifted (l.window index) index) := by
  have hwindow := (hl.mem_window index).2
  refine Option.ext fun i => ?_
  rw [← hl'.roomIdAt_iff_positionOf, h.roomIdAt user hl i, Option.bind_eq_some_iff]
  simp only [← hl.roomIdAt_iff_positionOf]
  unfold shifted
  constructor
  · intro hat
    by_cases hi : i = index
    · rw [if_pos hi] at hat
      exact absurd (Option.some.inj hat).symm hne
    · rw [if_neg hi, Option.filter_eq_some_iff] at hat
      by_cases hout : i < index ∨ (l.window index).2 ≤ i
      · rw [if_pos hout] at hat
        exact ⟨i, hat.1, if_pos hout⟩
      · -- it came from the index before
        rw [if_neg hout] at hat
        refine ⟨i - 1, hat.1, ?_⟩
        rw [if_neg (by omega), if_pos (by omega)]
        congr 1
        omega
  · rintro ⟨j, hat, hj⟩
    split at hj
    next hout =>
      obtain rfl := Option.some.inj hj
      rw [if_neg (by omega), if_pos hout, hat]
      simp [Option.filter, hne]
    next hin =>
      split at hj
      next hfits =>
        obtain rfl := Option.some.inj hj
        rw [if_neg (by omega), if_neg (by omega), Nat.add_sub_cancel, hat]
        simp [Option.filter, hne]
      next => cases hj

/-- **What is known of every other room after an INSERT**: nothing if the room was
in the last slot of a full page, and what was known before otherwise. -/
theorem Inserted.rooms {l l' : RoomList} (hl : l.WellFormed) (hl' : l'.WellFormed)
    {index : Nat} {id : RoomId} {p : Payload} (h : l.Inserted user index id p l')
    {other : RoomId} (hne : other ≠ id) :
    l'.rooms.get? other =
      if l.roomIdAt ((l.window index).2 - 1) = some other then none else l.rooms.get? other := by
  have hwindow := (hl.mem_window index).2
  have hposition := h.positionOf hl hl' hne
  by_cases hlast : l.roomIdAt ((l.window index).2 - 1) = some other
  · -- it has nowhere to go
    have hgone : l'.positionOf other = none := by
      rw [hposition, (hl.roomIdAt_iff_positionOf _ _).1 hlast, Option.bind_some, shifted,
        if_neg (by omega), if_neg (by omega)]
    rw [if_pos hlast]
    exact h.forgotten other hne (not_held_of_positionOf hgone)
  · rw [if_neg hlast]
    cases hbefore : l.positionOf other with
    | none =>
        rw [hbefore, Option.bind_none] at hposition
        rw [h.forgotten other hne (not_held_of_positionOf hposition),
          hl.get?_eq_none (not_held_of_positionOf hbefore)]
    | some i =>
        -- it is held before, and after
        have hi : i ≠ (l.window index).2 - 1 := by
          rintro rfl
          exact hlast ((hl.roomIdAt_iff_positionOf _ _).2 hbefore)
        have hsome : (l'.positionOf other).isSome := by
          rw [hposition, hbefore, Option.bind_some, shifted]
          split
          · rfl
          · rw [if_pos (by omega)]
            rfl
        exact h.kept other hne ((holds_iff l' other).1 hsome)

end Insert

/-! ## §4. Any list that can arise. -/

namespace MovingDown

def user : UserId := ⟨"@shifting:x", by decide +kernel⟩

def early : RoomId := ⟨"!early-shifting:x", by decide +kernel⟩

def middle : RoomId := ⟨"!middle-shifting:x", by decide +kernel⟩

def late : RoomId := ⟨"!late-shifting:x", by decide +kernel⟩

/-- A full page of three rooms. -/
def list : RoomList :=
  ((((create .joined 3).apply user (.insert 0 0 { roomId := some early })).1.apply user
    (.insert 0 1 { roomId := some middle })).1.apply user
    (.insert 0 2 { roomId := some late })).1

theorem reachable_list : Reachable list :=
  (((Reachable.create .joined 3).apply _ _).apply _ _).apply _ _

/-- The first room, with a name. -/
def named : Payload where
  roomId := some early
  requiredState := [{
    type := "m.room.name"
    stateKey := some ""
    content := .record [("name", .string "early")] }]

end MovingDown

end RoomList

end RoomSync.Window
