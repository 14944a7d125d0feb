/-
  RoomSync.Proofs.Window.PageSizes
  ────────────────────────────────
  **A LIST THAT COMES BACK UNDER ANOTHER PAGE SIZE.**

  A page is saved with its window, and what a restart configures as the size of
  a page need not be what it was before.  A window is still a page if it begins
  at a multiple of the new size, is no wider than it, and a whole page from there
  on can be addressed; then it comes back with its slots, and the rooms in them
  with their facts:

      isPage_window            — the test on windows is the test on pages
      ranges_reloaded          — the windows that come back
      get?_rooms_reloaded      — the rooms that come back, and what is left of them
      Reachable.reload_resized — all of it, for any list that can arise

  Under its own page size a list loses nothing but timelines, so that every index
  holds the room it held.
-/
import RoomSync.Proofs.Window.Reachable

namespace RoomSync.Window

namespace RoomList

/-! ## §1. Windows that are pages. -/

/-- Whether a window `[start, stop)` is a page of this size. -/
def isPage (pageSize : Nat) (window : Nat × Nat) : Bool :=
  decide (window.1 % pageSize = 0) && decide (window.2 - window.1 ≤ pageSize)
    && decide (window.1 + pageSize ≤ maxIndex)

/-- The window of a page that is known, written with the bound on indices. -/
theorem WellFormed.window_eq {l : RoomList} (h : l.WellFormed) {start : Nat} {slots : Page}
    (hpage : l.pages.get? start = some slots) :
    saturatingAdd start slots.length = start + slots.length := by
  -- the whole page is addressable, and its slots are no more than it has
  have haddressable := (h.fits start slots hpage).addressable
  have hbounded := (h.fits start slots hpage).bounded
  unfold saturatingAdd
  omega

/-- The test on windows is the test on pages. -/
theorem WellFormed.isPage_window {l : RoomList} (h : l.WellFormed) {start : Nat} {slots : Page}
    (hpage : l.pages.get? start = some slots) (pageSize : Nat) :
    isPage pageSize (start, saturatingAdd start slots.length) = reloads pageSize start slots := by
  unfold isPage reloads
  rw [h.window_eq hpage, Nat.add_sub_cancel_left]

/-! ## §2. What comes back. -/

section Reloaded

variable {l : RoomList} {pageSize : Nat}

/-- A page comes back, with all its slots, exactly if it is one of that size. -/
theorem get?_pages_reloaded (hsize : 1 ≤ pageSize) (start : Nat) (slots : Page) :
    (l.reloaded pageSize).pages.get? start = some slots ↔
      l.pages.get? start = some slots ∧ start % pageSize = 0 ∧ slots.length ≤ pageSize
        ∧ start + pageSize ≤ maxIndex := by
  have hmax : max pageSize 1 = pageSize := by omega
  show (l.pages.filter (reloads (max pageSize 1))).get? start = some slots ↔ _
  rw [Table.get?_filter_eq_some, hmax]
  simp only [reloads, Bool.and_eq_true, decide_eq_true_eq, and_assoc]

/-- **The windows that come back** are those that are pages of the new size. -/
theorem WellFormed.ranges_reloaded (h : l.WellFormed) (hsize : 1 ≤ pageSize) :
    (l.reloaded pageSize).ranges = l.ranges.filter (isPage pageSize) := by
  have hmax : max pageSize 1 = pageSize := by omega
  show (l.pages.entries.filter fun e => reloads (max pageSize 1) e.1 e.2).map
      (fun e => (e.1, saturatingAdd e.1 e.2.length)) = _
  unfold ranges
  rw [hmax, List.filter_map]
  congr 1
  refine List.filter_congr fun e he => ?_
  exact (h.isPage_window (Table.mem_entries.1 he) pageSize).symm

/-- **The rooms that come back** are those in the pages that do, with their facts
and without a timeline. -/
theorem get?_rooms_reloaded (id : RoomId) (room : Room) :
    (l.reloaded pageSize).rooms.get? id = some room ↔
      Held (l.reloaded pageSize).pages id
        ∧ ∃ before, l.rooms.get? id = some before ∧ room = { before with timeline := [] } := by
  have hsweep := get?_sweep_rooms
    { l.withoutTimelines with
      pageSize := max pageSize 1
      pages := l.pages.filter (reloads (max pageSize 1)) } id room
  refine hsweep.trans ?_
  rw [get?_withoutTimelines, Option.map_eq_some_iff, and_comm]
  -- to be saved and restored is to lose the timeline
  refine and_congr_right fun _ => exists_congr fun before => and_congr_right fun _ => ?_
  exact eq_comm

end Reloaded

/-! ## §3. Any list that can arise. -/

/-- **What a reload under any page size keeps.**  Of a list that can arise, saved
and restored under a page size, the result is well formed for that size; kind and
total stay; the windows that come back are those that are pages of that size, and
their pages hold the same slots; the rooms that come back are those in such a page,
with the same facts and an empty timeline.  Under the page size that the list had,
all pages and all rooms come back, and every index holds the room it held. -/
theorem Reachable.reload_resized {l : RoomList} (h : Reachable l) {pageSize : Nat}
    (hsize : 1 ≤ pageSize) :
    let back := l.save.restore pageSize
    (back.WellFormed ∧ back.pageSize = pageSize)
      ∧ (back.behaviour = l.behaviour ∧ back.total = l.total)
      ∧ back.ranges = l.ranges.filter (isPage pageSize)
      ∧ (∀ start slots, back.pages.get? start = some slots ↔
        l.pages.get? start = some slots ∧ start % pageSize = 0 ∧ slots.length ≤ pageSize
          ∧ start + pageSize ≤ maxIndex)
      ∧ (∀ id room, back.rooms.get? id = some room ↔ Held back.pages id
        ∧ ∃ before, l.rooms.get? id = some before ∧ room = { before with timeline := [] })
      ∧ (pageSize = l.pageSize → back.pages = l.pages
        ∧ (∀ id, back.rooms.get? id = (l.rooms.get? id).map ({ · with timeline := [] }))
        ∧ ∀ index, back.roomIdAt index = l.roomIdAt index) := by
  intro back
  have hl := h.wellFormed
  have hback : back = l.reloaded pageSize := hl.restore_save pageSize
  have hmax : max pageSize 1 = pageSize := by omega
  rw [hback]
  refine ⟨⟨hl.reloaded pageSize, hmax⟩, ⟨rfl, rfl⟩, hl.ranges_reloaded hsize,
    get?_pages_reloaded hsize, get?_rooms_reloaded, fun hown => ?_⟩
  rw [hl.reloaded_self (hmax.trans hown)]
  refine ⟨rfl, fun id => ?_, fun index => rfl⟩
  exact Table.get?_mapValues _ _ id

/-! ## §4. Two pages, of which one fits. -/

namespace Resized

def user : UserId := ⟨"@resizing:x", by decide +kernel⟩

def first : RoomId := ⟨"!resized-first:x", by decide +kernel⟩

def second : RoomId := ⟨"!resized-second:x", by decide +kernel⟩

/-- A room with a name, and with an event in its timeline. -/
def named (id : RoomId) : Payload where
  roomId := some id
  requiredState := [{
    type := "m.room.name"
    stateKey := some ""
    content := .record [("name", .string "a room")] }]
  timeline := [{ type := "m.room.message" }]

/-- Two pages of two slots each, with one room each. -/
def list : RoomList :=
  (((create .joined 2).apply user (.insert 0 0 (named first))).1.apply user
    (.insert 0 2 (named second))).1

theorem reachable_list : Reachable list := ((Reachable.create .joined 2).apply _ _).apply _ _

end Resized

open Resized in
/-- Under a page size of four the page that begins at two is none; the other one
comes back with its room, which has its name and no timeline. -/
theorem page_that_still_fits :
    (Reachable list ∧ 1 ≤ 4)
      ∧ list.ranges = [(0, 1), (2, 3)]
      ∧ (list.save.restore 4).ranges = [(0, 1)]
      ∧ (list.save.restore 4).rooms.get? first =
          some { id := first, facts := { name := some "a room" } }
      ∧ (list.save.restore 4).rooms.get? second = none := by
  have hranges : list.ranges = [(0, 1), (2, 3)] := by decide +kernel
  have hroom : list.rooms.get? first = some {
      id := first
      facts := { name := some "a room" }
      timeline := (named first).timeline } := by decide +kernel
  have hsize : 1 ≤ 4 := by decide
  obtain ⟨-, -, hback, hpages, hrooms, -⟩ := reachable_list.reload_resized hsize
  have hslots : list.pages.get? 0 = some [some first] := by decide +kernel
  have hheld : Held (list.save.restore 4).pages first :=
    held_iff.2 ⟨0, _, (hpages 0 _).2 ⟨hslots, by decide⟩, List.mem_cons_self⟩
  refine ⟨⟨reachable_list, hsize⟩, hranges, ?_, ?_, by decide +kernel⟩
  · rw [hback, hranges]
    decide
  · exact (hrooms first _).2 ⟨hheld, _, hroom, rfl⟩

end RoomList

end RoomSync.Window
