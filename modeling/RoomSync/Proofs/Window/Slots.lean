/-
  RoomSync.Proofs.Window.Slots
  ────────────────────────────
  **THE SLOTS OF ALL PAGES AS ONE MAP.**

  What a list knows is a partial map from places (start of a page, offset in
  it) to rooms.  Every step of an operation is one equation on that map:

      slotOf_insert  — a new page replaces the places of one start
      slotOf_erase   — a dropped page loses them
      slotOf_filter  — so do the pages that fail a test
      slotOf_clear   — a cleared room loses its place
      slotOf_blanked — so do all rooms of a kind

  That no room stands in two places (`NoRepeats`) is that this map is
  injective.
-/
import RoomSync.Proofs.TableLookup
import RoomSync.Window.Operations

namespace RoomSync.Window

/-! ## §1. Places. -/

/-- The room in a slot of a page. -/
def slotOf (pages : Table Nat Page) (start offset : Nat) : Option RoomId :=
  ((pages.get? start).bind (·[offset]?)).join

/-- Some slot of some page holds the room. -/
def Held (pages : Table Nat Page) (id : RoomId) : Prop :=
  ∃ start offset, slotOf pages start offset = some id

/-- No room stands in two places. -/
def NoRepeats (pages : Table Nat Page) : Prop :=
  ∀ start offset start' offset' id, slotOf pages start offset = some id →
    slotOf pages start' offset' = some id → start = start' ∧ offset = offset'

theorem roomIdAt_eq_slotOf (l : RoomList) (index : Nat) :
    l.roomIdAt index = slotOf l.pages (l.locate index).1 (l.locate index).2 := rfl

theorem slotOf_eq_some {pages : Table Nat Page} {start offset : Nat} {id : RoomId} :
    slotOf pages start offset = some id ↔
      ∃ slots, pages.get? start = some slots ∧ slots[offset]? = some (some id) := by
  cases h : pages.get? start with
  | none => simp [slotOf, h]
  | some slots => simp [slotOf, h, Option.join_eq_some_iff]

theorem held_iff {pages : Table Nat Page} {id : RoomId} :
    Held pages id ↔ ∃ start slots, pages.get? start = some slots ∧ some id ∈ slots := by
  constructor
  · rintro ⟨start, offset, h⟩
    obtain ⟨slots, hpage, hslot⟩ := slotOf_eq_some.1 h
    exact ⟨start, slots, hpage, List.mem_of_getElem? hslot⟩
  · rintro ⟨start, slots, hpage, hmem⟩
    obtain ⟨offset, hslot⟩ := List.getElem?_of_mem hmem
    exact ⟨start, offset, slotOf_eq_some.2 ⟨slots, hpage, hslot⟩⟩

/-! ## §2. The steps of operations. -/

@[simp] theorem slotOf_empty (start offset : Nat) : slotOf .empty start offset = none := rfl

theorem slotOf_insert (pages : Table Nat Page) (at_ : Nat) (slots : Page) (start offset : Nat) :
    slotOf (pages.insert at_ slots) start offset =
      if start = at_ then slots[offset]?.join else slotOf pages start offset := by
  by_cases h : start = at_ <;> simp [slotOf, h]

theorem slotOf_erase (pages : Table Nat Page) (at_ start offset : Nat) :
    slotOf (pages.erase at_) start offset =
      if start = at_ then none else slotOf pages start offset := by
  by_cases h : start = at_ <;> simp [slotOf, h]

theorem slotOf_filter (pages : Table Nat Page) (p : Nat → Page → Bool) {start offset : Nat}
    {id : RoomId} (h : slotOf (pages.filter p) start offset = some id) :
    slotOf pages start offset = some id := by
  obtain ⟨slots, hpage, hslot⟩ := slotOf_eq_some.1 h
  exact slotOf_eq_some.2 ⟨slots, (Table.get?_filter_eq_some.1 hpage).1, hslot⟩

theorem slotOf_clear (l : RoomList) (id : RoomId) (start offset : Nat) :
    slotOf (l.clear id).pages start offset =
      (slotOf l.pages start offset).filter fun other => decide (other ≠ id) := by
  unfold slotOf RoomList.clear
  rw [Table.get?_mapValues]
  cases l.pages.get? start with
  | none => rfl
  | some slots =>
      simp only [Option.map_some, Option.bind_some, List.getElem?_map]
      cases slots[offset]? with
      | none => rfl
      | some slot =>
          cases slot with
          | none => simp [Option.filter]
          | some other => by_cases h : other = id <;> simp [h, Option.filter]

/-- After a room is cleared, no slot holds it. -/
theorem not_held_clear (l : RoomList) (id : RoomId) : ¬ Held (l.clear id).pages id := by
  rintro ⟨start, offset, h⟩
  rw [slotOf_clear, Option.filter_eq_some_iff] at h
  simpa using h.2

/-- To clear a room gives nobody a slot. -/
theorem slotOf_of_clear {l : RoomList} {id other : RoomId} {start offset : Nat}
    (h : slotOf (l.clear id).pages start offset = some other) :
    slotOf l.pages start offset = some other := by
  rw [slotOf_clear, Option.filter_eq_some_iff] at h
  exact h.1

/-! ## §3. Placeholders. -/

/-- Placeholders at the end of a page hold no room. -/
theorem join_getElem?_append_none (slots : Page) (n i : Nat) :
    (slots ++ List.replicate n none)[i]?.join = slots[i]?.join := by
  by_cases h : i < slots.length
  · rw [List.getElem?_append_left h]
  · rw [List.getElem?_append_right (by omega), List.getElem?_replicate,
      List.getElem?_eq_none (by omega : slots.length ≤ i)]
    split <;> rfl

/-- A page that grows by one slot. -/
theorem join_getElem?_append_single (slots : Page) (slot : Option RoomId) (i : Nat) :
    (slots ++ [slot])[i]?.join = if i = slots.length then slot else slots[i]?.join := by
  rcases Nat.lt_trichotomy i slots.length with h | h | h
  · rw [List.getElem?_append_left h, if_neg (by omega)]
  · subst h
    simp
  · rw [List.getElem?_append_right (by omega), if_neg (by omega),
      List.getElem?_eq_none (by omega : slots.length ≤ i),
      List.getElem?_eq_none (by simp; omega)]

/-! ## §4. Pages that lose rooms. -/

/-- The slots of a page, with placeholders for the rooms of a kind. -/
def blanked (p : RoomId → Prop) [DecidablePred p] (slots : Page) : Page :=
  slots.map (·.filter fun id => !decide (p id))

section Blanked

variable {p q : RoomId → Prop} [DecidablePred p] [DecidablePred q]

@[simp] theorem length_blanked (slots : Page) : (blanked p slots).length = slots.length :=
  List.length_map _

theorem join_getElem?_blanked (slots : Page) (i : Nat) :
    (blanked p slots)[i]?.join = slots[i]?.join.filter fun id => !decide (p id) := by
  unfold blanked
  rw [List.getElem?_map]
  cases slots[i]? <;> rfl

theorem blanked_congr (h : ∀ id, p id ↔ q id) (slots : Page) :
    blanked p slots = blanked q slots := by
  have hpq : (fun id => !decide (p id)) = fun id => !decide (q id) := by
    funext id
    simp [h id]
  unfold blanked
  rw [hpq]

/-- A page that holds no room of the kind does not change. -/
theorem blanked_eq_self {slots : Page} (h : ∀ id, some id ∈ slots → ¬ p id) :
    blanked p slots = slots := by
  refine (List.map_congr_left fun slot hslot => ?_).trans (List.map_id slots)
  cases slot with
  | none => rfl
  | some id => simp [h id hslot]

theorem blanked_blanked (slots : Page) :
    blanked q (blanked p slots) = blanked (fun id => p id ∨ q id) slots := by
  simp [blanked, Function.comp_def, Option.filter_filter]

/-- To clear a room makes placeholders of its slots. -/
theorem get?_clear_pages (l : RoomList) (id : RoomId) (start : Nat) :
    (l.clear id).pages.get? start = (l.pages.get? start).map (blanked (· = id)) := by
  have hslot : ∀ slot : Option RoomId, (if slot = some id then none else slot) =
      slot.filter fun other => !decide (other = id) := by
    intro slot
    cases slot with
    | none => rfl
    | some other => by_cases h : other = id <;> simp [h, Option.filter]
  unfold RoomList.clear
  simp only [Table.get?_mapValues, hslot]
  rfl

/-- The places of pages that lost the rooms of a kind. -/
theorem slotOf_blanked {pages pages' : Table Nat Page} {start : Nat}
    (h : pages'.get? start = (pages.get? start).map (blanked p)) (offset : Nat) :
    slotOf pages' start offset =
      (slotOf pages start offset).filter fun id => !decide (p id) := by
  unfold slotOf
  rw [h]
  cases pages.get? start with
  | none => rfl
  | some slots => exact join_getElem?_blanked slots offset

end Blanked

/-! ## §5. No room in two places. -/

theorem noRepeats_empty : NoRepeats .empty := by
  intro start offset start' offset' id h
  simp at h

/-- Places that only lose rooms repeat none. -/
theorem NoRepeats.mono {pages pages' : Table Nat Page} (h : NoRepeats pages)
    (hsub : ∀ start offset id, slotOf pages' start offset = some id →
      slotOf pages start offset = some id) : NoRepeats pages' := by
  intro start offset start' offset' id h1 h2
  exact h start offset start' offset' id (hsub _ _ _ h1) (hsub _ _ _ h2)

/-- **A page put where none was.**  No room is repeated if the new page
repeats none and names no room that another page holds. -/
theorem NoRepeats.insert {pages : Table Nat Page} (h : NoRepeats pages) (at_ : Nat) (slots : Page)
    (hself : ∀ (i j : Nat) id, slots[i]?.join = some id → slots[j]?.join = some id → i = j)
    (hother : ∀ (i : Nat) id start offset, slots[i]?.join = some id → start ≠ at_ →
      slotOf pages start offset ≠ some id) : NoRepeats (pages.insert at_ slots) := by
  intro start offset start' offset' id h1 h2
  rw [slotOf_insert] at h1 h2
  -- two places: both in the new page, one in it, or none
  by_cases hs : start = at_
  · rw [if_pos hs] at h1
    by_cases hs' : start' = at_
    · rw [if_pos hs'] at h2
      exact ⟨hs.trans hs'.symm, hself _ _ _ h1 h2⟩
    · rw [if_neg hs'] at h2
      exact absurd h2 (hother _ _ _ _ h1 hs')
  · rw [if_neg hs] at h1
    by_cases hs' : start' = at_
    · rw [if_pos hs'] at h2
      exact absurd h1 (hother _ _ _ _ h2 hs)
    · rw [if_neg hs'] at h2
      exact h _ _ _ _ _ h1 h2

end RoomSync.Window
