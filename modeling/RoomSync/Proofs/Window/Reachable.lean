/-
  RoomSync.Proofs.Window.Reachable
  ────────────────────────────────
  **EVERY LIST THAT CAN ARISE IS WELL FORMED.**

  A list starts empty.  After that it changes by operations of the
  homeserver, accepted or refused, by windows that are dropped, by totals,
  and by reloads under a page size that may be another one each time.

      Reachable.wellFormed — the run lemma, by induction over the changes
      Reachable.lookups    — what follows for lookups and for index arithmetic

  A page that outgrows what a vector can hold is the one thing that lists are not
  safe from (`insert_finds_no_room`).
-/
import RoomSync.Proofs.Window.MachineWords
import RoomSync.Proofs.Window.Reload

namespace RoomSync.Window

namespace RoomList

/-- The lists that can arise, in any order of changes. -/
inductive Reachable : RoomList → Prop
  | create (b : Behaviour) (pageSize : Nat) : Reachable (create b pageSize)
  | apply {l : RoomList} (h : Reachable l) (user : UserId) (op : Operation) :
      Reachable (l.apply user op).1
  | invalidate {l : RoomList} (h : Reachable l) (range : Nat × Nat) :
      Reachable (l.invalidate range)
  | setTotal {l : RoomList} (h : Reachable l) (n : Nat) : Reachable { l with total := n }
  | reload {l : RoomList} (h : Reachable l) (pageSize : Nat) :
      Reachable (l.save.restore pageSize)

/-- **Every list that can arise is well formed.** -/
theorem Reachable.wellFormed {l : RoomList} (h : Reachable l) : l.WellFormed := by
  induction h with
  | create b pageSize => exact wellFormed_create b pageSize
  | apply _ user op ih => exact ih.apply user op
  | invalidate _ range ih => exact ih.invalidate range
  | setTotal _ n ih => exact ih.setTotal n
  | reload _ pageSize ih =>
      rw [ih.restore_save pageSize]
      exact ih.reloaded pageSize

/-- **Slots, rooms and positions of any list that can arise.**  Its pages are
aligned, addressable, occupied and no longer than a page; no room stands
twice; the table knows exactly the rooms in slots, each under its own id.
So the lookups are each other's inverse, and computed on words they have the
answers that they have on numbers.  So has every operation that has room for
the slots it asks for, whatever the most is that there can be room for and
whatever room the page has, and every reload of pages that had room; and no
operation asks for more than two pages have, so that with pages of up to half
the most slots no operation ends the program. -/
theorem Reachable.lookups {l : RoomList} (h : Reachable l) :
    l.WellFormed
      ∧ (∀ index id, l.roomIdAt index = some id ↔ l.positionOf id = some index)
      ∧ (∀ index, (l.roomAt index).isSome = (l.roomIdAt index).isSome)
      ∧ (∀ index, l.roomIdAt? index = some (l.roomIdAt index))
      ∧ (∀ id, l.positionOf? id = some (l.positionOf id))
      ∧ (∀ user op most capacity, 4 ≤ most → l.slotsAsked op ≤ most →
        l.applyCausal? user most capacity op = some (l.applyCausal user op))
      ∧ (∀ op, l.slotsAsked op ≤ 2 * l.pageSize)
      ∧ (2 * l.pageSize ≤ maxSlots → ∀ user op, l.carryOut? user op = some (l.apply user op))
      ∧ (∀ most pageSize,
        (∀ start slots, l.pages.get? start = some slots → slots.length ≤ most) →
        restore? most l.save pageSize = some (l.save.restore pageSize)) := by
  have hl := h.wellFormed
  refine ⟨hl, hl.roomIdAt_iff_positionOf, hl.isSome_roomAt, hl.roomIdAt?_eq, ?_, ?_,
    hl.slotsAsked_le, ?_, ?_⟩
  · intro id
    exact hl.positionOf?_eq (fun e he => he) id
  · intro user op most capacity hmost hroom
    exact hl.applyCausal?_eq user capacity hmost hroom
  · intro hsize user op
    exact if_pos (Nat.le_trans (hl.slotsAsked_le op) hsize)
  · intro most pageSize hpages
    exact restore?_eq (length_save hpages) pageSize

/-- In pages of half of all indices, a room that is put at the middle of the first one
finds no room for the placeholders before it: on words the operation has no answer, and
it ends the program. -/
theorem insert_finds_no_room :
    let user : UserId := ⟨"@pushing:x", by decide +kernel⟩
    let l := create .joined 0x8000000000000000
    let op : Operation :=
      .insert 0 0x4000000000000000 { roomId := some ⟨"!pushed:x", by decide +kernel⟩ }
    Reachable l ∧ l.pageAt 0x4000000000000000 = []
      ∧ l.applyCausal? user maxSlots 0 op = none ∧ l.carryOut? user op = none
      ∧ ¬ ∀ m, Reachable m → ∀ o, (m.carryOut? user o).isSome = true := by
  intro user l op
  have hreachable : Reachable l := .create .joined _
  have hnone : l.carryOut? user op = none := if_neg (by decide +kernel)
  refine ⟨hreachable, by decide +kernel, by decide +kernel, hnone, fun h => ?_⟩
  have hsome := h l hreachable op
  rw [hnone] at hsome
  cases hsome

/-- A room that is put at index 3 of an empty list with two slots a page, of
which another window is then dropped, and which is reloaded. -/
theorem position_after_reload :
    ((((create .joined 2).apply ⟨"@me:x", by decide +kernel⟩
        (.insert 0 3 { roomId := some ⟨"!a:x", by decide +kernel⟩ })).1.invalidate
          (0, 2)).save.restore 2).positionOf ⟨"!a:x", by decide +kernel⟩ = some 3 := by
  have hreachable := (((Reachable.create .joined 2).apply ⟨"@me:x", by decide +kernel⟩
    (.insert 0 3 { roomId := some ⟨"!a:x", by decide +kernel⟩ })).invalidate (0, 2)).reload 2
  exact (hreachable.lookups.2.1 3 _).1 (by decide +kernel)

end RoomList

end RoomSync.Window
