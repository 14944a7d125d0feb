/-
  RoomSync.Proofs.Window.Rebuilding
  ─────────────────────────────────
  **A PAGE THAT IS BUILT ANEW.**

  A SYNC brings a page slot by slot.  The page it leaves depends on its entries
  alone: a slot holds the room that its entry names, if no earlier entry named it
  (`firstAt`), and is a placeholder otherwise.  The rooms it names leave every
  other page, and keep what was known of them wherever they stood before:

      mem_slots_iff     — the slots built so far hold the rooms named so far
      Rebuilding.place  — the step lemma: one entry
      rebuilding_take   — the run lemma: any number of entries
      rebuilt           — what a SYNC makes of a list
      sync_builds_page  — the same, said of an accepted operation

  The order number `n` of an entry is what the induction is on, so that nothing is
  said about prefixes of the entries.
-/
import RoomSync.Proofs.Window.Building

namespace RoomSync.Window

/-! ## §1. What an operation names. -/

/-- The room that an entry of a window names, with what it says of it. -/
def named? (entry : Option Payload) : Option Touched :=
  (entry.bind fun p => p.roomId.map (·, p)).map fun (id, p) => ⟨id, p⟩

/-- The rooms that an operation names, with what it says of them. -/
def Operation.named : Operation → List Touched
  | .sync _ _ rooms => rooms.filterMap named?
  | .insert _ _ p | .update _ _ p => (named? (some p)).toList
  | .delete _ _ | .invalidate _ _ => []

/-- What an entry names is what its payload says. -/
theorem named?_eq_some {entry : Option Payload} {t : Touched} :
    named? entry = some t ↔ entry = some t.payload ∧ t.payload.roomId = some t.room := by
  obtain ⟨id, p⟩ := t
  cases entry with
  | none => simp [named?]
  | some q =>
      simp only [named?, Option.bind_some, Option.map_map, Option.map_eq_some_iff,
        Function.comp_apply, Touched.mk.injEq, Option.some_inj]
      constructor
      · rintro ⟨id', hid, rfl, rfl⟩
        exact ⟨rfl, hid⟩
      · rintro ⟨rfl, hid⟩
        exact ⟨id, hid, rfl, rfl⟩

section Entries

variable (rooms : List (Option Payload))

/-- The room that the entry at `j` names. -/
def nameAt (j : Nat) : Option RoomId := (rooms[j]?.bind named?).map (·.room)

/-- One of the first `n` entries names the room. -/
def NamedBefore (n : Nat) (id : RoomId) : Prop := ∃ i < n, nameAt rooms i = some id

instance (n : Nat) : DecidablePred (NamedBefore rooms n) := fun id =>
  inferInstanceAs (Decidable (∃ i < n, nameAt rooms i = some id))

/-- What the entry at `j` brings: the room that it names, unless an earlier
entry names it. -/
def firstAt (j : Nat) : Option Touched :=
  (rooms[j]?.bind named?).filter fun t => !decide (NamedBefore rooms j t.room)

/-- The slot that the entry at `j` makes. -/
def slotAt (j : Nat) : Option RoomId := (firstAt rooms j).map (·.room)

variable {rooms}

/-- An entry names a room if it is a payload that does. -/
theorem nameAt_eq_some {j : Nat} {id : RoomId} :
    nameAt rooms j = some id ↔ ∃ p, rooms[j]? = some (some p) ∧ p.roomId = some id := by
  unfold nameAt
  simp only [Option.map_eq_some_iff, Option.bind_eq_some_iff]
  constructor
  · rintro ⟨t, ⟨entry, hentry, hnamed⟩, rfl⟩
    obtain ⟨rfl, hroom⟩ := named?_eq_some.1 hnamed
    exact ⟨t.payload, hentry, hroom⟩
  · rintro ⟨p, hentry, hroom⟩
    exact ⟨⟨id, p⟩, ⟨some p, hentry, named?_eq_some.2 ⟨rfl, hroom⟩⟩, rfl⟩

theorem firstAt_eq_some {j : Nat} {t : Touched} :
    firstAt rooms j = some t ↔
      rooms[j]? = some (some t.payload) ∧ t.payload.roomId = some t.room
        ∧ ∀ i < j, nameAt rooms i ≠ some t.room := by
  have hfirst : ¬ NamedBefore rooms j t.room ↔ ∀ i < j, nameAt rooms i ≠ some t.room := by
    simp [NamedBefore]
  unfold firstAt
  rw [Option.filter_eq_some_iff, Option.bind_eq_some_iff, Bool.not_eq_true',
    decide_eq_false_iff_not, hfirst, ← and_assoc]
  refine and_congr_left fun _ => ?_
  constructor
  · rintro ⟨entry, hentry, hnamed⟩
    obtain ⟨rfl, hroom⟩ := named?_eq_some.1 hnamed
    exact ⟨hentry, hroom⟩
  · rintro ⟨hentry, hroom⟩
    exact ⟨some t.payload, hentry, named?_eq_some.2 ⟨rfl, hroom⟩⟩

theorem slotAt_eq_some {j : Nat} {id : RoomId} :
    slotAt rooms j = some id ↔ nameAt rooms j = some id ∧ ∀ i < j, nameAt rooms i ≠ some id := by
  unfold slotAt
  rw [Option.map_eq_some_iff, nameAt_eq_some]
  constructor
  · rintro ⟨t, hfirst, rfl⟩
    obtain ⟨hentry, hroom, hnew⟩ := firstAt_eq_some.1 hfirst
    exact ⟨⟨t.payload, hentry, hroom⟩, hnew⟩
  · rintro ⟨⟨p, hentry, hroom⟩, hnew⟩
    exact ⟨⟨id, p⟩, firstAt_eq_some.2 ⟨hentry, hroom, hnew⟩, rfl⟩

theorem namedBefore_succ {n : Nat} {id : RoomId} :
    NamedBefore rooms (n + 1) id ↔ NamedBefore rooms n id ∨ nameAt rooms n = some id :=
  Nat.exists_lt_succ_right

theorem not_namedBefore_zero (id : RoomId) : ¬ NamedBefore rooms 0 id := by
  simp [NamedBefore]

/-- A room that is named is brought by the first entry that names it. -/
theorem namedBefore_iff_slotAt {n : Nat} {id : RoomId} :
    NamedBefore rooms n id ↔ ∃ j < n, slotAt rooms j = some id := by
  constructor
  · intro h
    induction n with
    | zero => exact absurd h (not_namedBefore_zero id)
    | succ n ih =>
        by_cases hearlier : NamedBefore rooms n id
        · obtain ⟨j, hj, hslot⟩ := ih hearlier
          exact ⟨j, by omega, hslot⟩
        · -- the last of these entries is the first that names the room
          have hname := (namedBefore_succ.1 h).resolve_left hearlier
          exact ⟨n, by omega, slotAt_eq_some.2 ⟨hname, fun i hi hi' => hearlier ⟨i, hi, hi'⟩⟩⟩
  · rintro ⟨j, hj, hslot⟩
    exact ⟨j, hj, (slotAt_eq_some.1 hslot).1⟩

/-- An entry that brings nothing names no room that is new. -/
theorem namedBefore_of_firstAt_none {n : Nat} (h : firstAt rooms n = none) (id : RoomId) :
    NamedBefore rooms (n + 1) id ↔ NamedBefore rooms n id := by
  refine namedBefore_succ.trans (or_iff_left_of_imp fun hname => ?_)
  by_cases hnew : NamedBefore rooms n id
  · exact hnew
  · have hslot : slotAt rooms n = some id :=
      slotAt_eq_some.2 ⟨hname, fun i hi hi' => hnew ⟨i, hi, hi'⟩⟩
    simp [slotAt, h] at hslot

/-- An entry that brings a room names that one. -/
theorem namedBefore_of_firstAt {n : Nat} {t : Touched} (h : firstAt rooms n = some t)
    (id : RoomId) : NamedBefore rooms (n + 1) id ↔ NamedBefore rooms n id ∨ id = t.room := by
  obtain ⟨hentry, hroom, -⟩ := firstAt_eq_some.1 h
  have hname : nameAt rooms n = some t.room := nameAt_eq_some.2 ⟨t.payload, hentry, hroom⟩
  rw [namedBefore_succ, hname, Option.some_inj]
  exact or_congr_right eq_comm

/-- Behind the last entry there is none. -/
theorem firstAt_behind {j : Nat} (h : rooms.length ≤ j) : firstAt rooms j = none := by
  simp [firstAt, List.getElem?_eq_none h]

theorem namedBefore_min {n : Nat} {id : RoomId} :
    NamedBefore rooms (min n rooms.length) id ↔ NamedBefore rooms n id := by
  constructor
  · rintro ⟨i, hi, hname⟩
    exact ⟨i, by omega, hname⟩
  · rintro ⟨i, hi, hname⟩
    obtain ⟨p, hentry, -⟩ := nameAt_eq_some.1 hname
    obtain ⟨hlt, -⟩ := List.getElem?_eq_some_iff.1 hentry
    exact ⟨i, by omega, hname⟩

/-- What the first entries bring. -/
theorem mem_firsts {n : Nat} {t : Touched} :
    t ∈ (List.range n).filterMap (firstAt rooms) ↔ ∃ j < n, firstAt rooms j = some t := by
  simp [List.mem_filterMap]

/-- The slot at `j` is the one that the entry at `j` makes. -/
theorem getElem?_slots {n j : Nat} {id : RoomId} :
    ((List.range n).map (slotAt rooms))[j]? = some (some id) ↔
      j < n ∧ slotAt rooms j = some id := by
  by_cases hj : j < n <;> simp [hj]

/-- **The slots built so far hold the rooms named so far.** -/
theorem mem_slots_iff {n : Nat} {id : RoomId} :
    some id ∈ (List.range n).map (slotAt rooms) ↔ NamedBefore rooms n id := by
  rw [namedBefore_iff_slotAt]
  simp

end Entries

namespace RoomList

section Entry

variable (user : UserId)

/-- A room as a payload leaves it: the one that is known, or a new one, with
the payload taken in once. -/
def roomAfter (l : RoomList) (id : RoomId) (p : Payload) : Room :=
  ((l.rooms.get? id).getD { id }).apply user p

/-! ## §2. One entry. -/

/-- An entry that names no room, or one that has a slot, makes a placeholder. -/
theorem place_skip (b : Rebuild) {entry : Option Payload}
    (h : ∀ t, named? entry = some t → some t.room ∈ b.slots) :
    b.place user entry = { b with slots := b.slots ++ [none] } := by
  unfold Rebuild.place
  cases hentry : entry.bind fun p => p.roomId.map (·, p) with
  | none => rfl
  | some named =>
      obtain ⟨id, p⟩ := named
      have hslot : some id ∈ b.slots := h ⟨id, p⟩ (by simp [named?, hentry])
      exact if_pos (List.contains_iff_mem.2 hslot)

/-- An entry that names a room without a slot gives it one. -/
theorem place_take (b : Rebuild) {entry : Option Payload} {t : Touched}
    (h : named? entry = some t) (hnew : some t.room ∉ b.slots) :
    b.place user entry =
      { list := (b.list.clear t.room).materialize user
          ((b.detached.get? t.room).or (b.list.rooms.get? t.room)) t.room t.payload
        detached := b.detached.erase t.room
        slots := b.slots ++ [some t.room]
        touched := b.touched ++ [t] } := by
  obtain ⟨rfl, hroom⟩ := named?_eq_some.1 h
  have hentry : ((some t.payload).bind fun p => p.roomId.map (·, p)) =
      some (t.room, t.payload) := by simp [hroom]
  unfold Rebuild.place
  rw [hentry]
  exact if_neg fun hmem => hnew (List.contains_iff_mem.1 hmem)

/-- **The invariant of a page that is built anew**: what there is after `n`
entries, by the list `l` from before. -/
structure Rebuilding (l : RoomList) (start : Nat) (rooms : List (Option Payload)) (n : Nat)
    (b : Rebuild) : Prop where
  slots : b.slots = (List.range n).map (slotAt rooms)
  touched : b.touched = (List.range n).filterMap (firstAt rooms)
  pages : ∀ s, b.list.pages.get? s =
    ((l.pages.erase start).get? s).map (blanked (NamedBefore rooms n))
  /-- A room that was not named yet is at hand as it was, set aside or not. -/
  pending : ∀ id, ¬ NamedBefore rooms n id →
    (b.detached.get? id).or (b.list.rooms.get? id) = l.rooms.get? id
  /-- And it was not set aside if another page holds it. -/
  kept : ∀ id, ¬ NamedBefore rooms n id → Held (l.pages.erase start) id →
    b.list.rooms.get? id = l.rooms.get? id
  brought : ∀ j < n, ∀ t, firstAt rooms j = some t →
    b.list.rooms.get? t.room = some (l.roomAfter user t.room t.payload)

/-- **The page is taken out**, and no entry was read. -/
theorem rebuilding_begin (l : RoomList) (start : Nat) (rooms : List (Option Payload)) :
    Rebuilding user l start rooms 0 (l.beginRebuild start) := by
  refine ⟨rfl, rfl, fun s => ?_, fun id _ => ?_, fun id _ hheld => ?_, fun j hj => ?_⟩
  · have hsame : blanked (NamedBefore rooms 0) = id :=
      funext fun _ => blanked_eq_self fun id _ => not_namedBefore_zero id
    rw [hsame, Option.map_id, id]
    rfl
  · -- a room is set aside, or it stays: never both
    unfold beginRebuild
    simp only [Table.get?_filter]
    cases l.rooms.get? id with
    | none => rfl
    | some room => simp only [Option.filter_some]; split <;> simp_all
  · have hholds : holds { l with pages := l.pages.erase start } id = true :=
      (holds_iff _ id).2 hheld
    unfold beginRebuild
    simp only [Table.get?_filter, hholds]
    cases l.rooms.get? id <;> simp
  · omega

/-- One more entry that brings nothing. -/
theorem Rebuilding.skip {l : RoomList} {start n : Nat} {rooms : List (Option Payload)}
    {b : Rebuild} (h : Rebuilding user l start rooms n b) (hfirst : firstAt rooms n = none) :
    Rebuilding user l start rooms (n + 1) { b with slots := b.slots ++ [none] } := by
  have hnamed := namedBefore_of_firstAt_none hfirst
  refine ⟨?_, ?_, fun s => ?_, fun id hid => ?_, fun id hid => ?_, fun j hj t ht => ?_⟩
  · show b.slots ++ [none] = _
    rw [h.slots, List.range_succ]
    simp [slotAt, hfirst]
  · show b.touched = _
    rw [h.touched, List.range_succ]
    simp [hfirst]
  · rw [h.pages s]
    congr 1
    funext slots
    exact blanked_congr (fun id => (hnamed id).symm) slots
  · exact h.pending id (mt (hnamed id).2 hid)
  · exact h.kept id (mt (hnamed id).2 hid)
  · have hne : j ≠ n := by
      rintro rfl
      simp [hfirst] at ht
    exact h.brought j (by omega) t ht

/-- One more entry that brings a room: it leaves its slot, keeps what is known
of it, and takes the payload in. -/
theorem Rebuilding.take {l : RoomList} {start n : Nat} {rooms : List (Option Payload)}
    {b : Rebuild} (h : Rebuilding user l start rooms n b) {t : Touched}
    (hfirst : firstAt rooms n = some t) :
    Rebuilding user l start rooms (n + 1)
      { list := (b.list.clear t.room).materialize user
          ((b.detached.get? t.room).or (b.list.rooms.get? t.room)) t.room t.payload
        detached := b.detached.erase t.room
        slots := b.slots ++ [some t.room]
        touched := b.touched ++ [t] } := by
  have hnamed := namedBefore_of_firstAt hfirst
  have hnew : ¬ NamedBefore rooms n t.room := by
    rintro ⟨i, hi, hname⟩
    exact (firstAt_eq_some.1 hfirst).2.2 i hi hname
  -- only the room that is brought is written to the table
  have hrooms : ∀ id, ((b.list.clear t.room).materialize user
      ((b.detached.get? t.room).or (b.list.rooms.get? t.room)) t.room t.payload).rooms.get? id =
        if id = t.room then some (l.roomAfter user t.room t.payload)
        else b.list.rooms.get? id := by
    intro id
    unfold materialize roomAfter
    rw [Table.get?_insert, h.pending t.room hnew]
    rfl
  have hother : ∀ id, ¬ NamedBefore rooms (n + 1) id →
      ¬ NamedBefore rooms n id ∧ id ≠ t.room := by
    intro id hid
    rw [hnamed, not_or] at hid
    exact hid
  refine ⟨?_, ?_, fun s => ?_, fun id hid => ?_, fun id hid hheld => ?_, fun j hj t' ht' => ?_⟩
  · show b.slots ++ [some t.room] = _
    rw [h.slots, List.range_succ]
    simp [slotAt, hfirst]
  · show b.touched ++ [t] = _
    rw [h.touched, List.range_succ]
    simp [hfirst]
  · rw [materialize_pages, get?_clear_pages, h.pages s, Option.map_map]
    congr 1
    funext slots
    exact (blanked_blanked slots).trans (blanked_congr (fun id => (hnamed id).symm) slots)
  · obtain ⟨hid, hne⟩ := hother id hid
    show ((b.detached.erase t.room).get? id).or _ = _
    rw [hrooms, Table.get?_erase, if_neg hne, if_neg hne]
    exact h.pending id hid
  · obtain ⟨hid, hne⟩ := hother id hid
    rw [hrooms, if_neg hne]
    exact h.kept id hid hheld
  · rw [hrooms]
    by_cases hj' : j = n
    · -- the entry itself
      subst hj'
      obtain rfl := Option.some.inj (hfirst.symm.trans ht')
      exact if_pos rfl
    · -- an earlier one, which brought another room
      have hlt : j < n := by omega
      have hne : t'.room ≠ t.room := by
        intro hsame
        refine hnew ⟨j, hlt, hsame ▸ ?_⟩
        exact nameAt_eq_some.2 ⟨t'.payload, (firstAt_eq_some.1 ht').1, (firstAt_eq_some.1 ht').2.1⟩
      rw [if_neg hne]
      exact h.brought j hlt t' ht'

/-- **The step lemma**: one entry. -/
theorem Rebuilding.place {l : RoomList} {start n : Nat} {rooms : List (Option Payload)}
    {b : Rebuild} (h : Rebuilding user l start rooms n b) {entry : Option Payload}
    (hentry : rooms[n]? = some entry) :
    Rebuilding user l start rooms (n + 1) (b.place user entry) := by
  have hslots : ∀ id, some id ∈ b.slots ↔ NamedBefore rooms n id := by
    intro id
    rw [h.slots]
    exact mem_slots_iff
  cases hfirst : firstAt rooms n with
  | none =>
      rw [place_skip user b]
      · exact h.skip user hfirst
      · -- a room that the entry names has been named before
        intro t ht
        obtain ⟨rfl, hroom⟩ := named?_eq_some.1 ht
        refine (hslots t.room).2 ((namedBefore_of_firstAt_none hfirst t.room).1 ?_)
        exact ⟨n, by omega, nameAt_eq_some.2 ⟨t.payload, hentry, hroom⟩⟩
  | some t =>
      obtain ⟨hsame, hroom, hnew⟩ := firstAt_eq_some.1 hfirst
      obtain rfl := Option.some.inj (hentry.symm.trans hsame)
      rw [place_take user b (named?_eq_some.2 ⟨rfl, hroom⟩)]
      · exact h.take user hfirst
      · intro hmem
        obtain ⟨i, hi, hname⟩ := (hslots t.room).1 hmem
        exact hnew i hi hname

/-- **The run lemma**: any number of entries. -/
theorem rebuilding_take (l : RoomList) (start : Nat) (rooms : List (Option Payload)) {n : Nat}
    (hn : n ≤ rooms.length) :
    Rebuilding user l start rooms n
      ((rooms.take n).foldl (Rebuild.place user) (l.beginRebuild start)) := by
  induction n with
  | zero => exact rebuilding_begin user l start rooms
  | succ n ih =>
      rw [List.take_succ_eq_append_getElem hn, List.foldl_append]
      exact (ih (by omega)).place user (List.getElem?_eq_getElem hn)

end Entry

/-! ## §3. All entries. -/

section Window

variable (user : UserId)

/-- What a SYNC of a window of this width makes of a list `l`: its page, the
other pages, what it answers, and what is known of rooms afterwards. -/
structure Rebuilt (l : RoomList) (start width : Nat) (rooms : List (Option Payload))
    (l' : RoomList) (touched : List Touched) : Prop where
  page : l'.pages.get? start = some ((List.range width).map (slotAt rooms))
  others : ∀ s, s ≠ start →
    l'.pages.get? s = (l.pages.get? s).map (blanked (NamedBefore rooms width))
  answer : touched = (List.range width).filterMap (firstAt rooms)
  brought : ∀ t ∈ touched, l'.rooms.get? t.room = some (l.roomAfter user t.room t.payload)
  /-- A room that is not named stays as it was if another page holds it. -/
  kept : ∀ id, ¬ NamedBefore rooms width id → Held (l.pages.erase start) id →
    l'.rooms.get? id = l.rooms.get? id
  forgotten : ∀ id, ¬ NamedBefore rooms width id → ¬ Held (l.pages.erase start) id →
    l'.rooms.get? id = none

section Width

variable {rooms : List (Option Payload)} (width : Nat)

/-- Behind the last entry the page is filled with placeholders. -/
theorem map_slotAt_range : (List.range width).map (slotAt rooms) =
    (List.range (min width rooms.length)).map (slotAt rooms)
      ++ List.replicate (width - min width rooms.length) none := by
  refine List.ext_getElem? fun j => ?_
  by_cases hj : j < min width rooms.length
  · rw [List.getElem?_append_left (by simpa using hj)]
    simp [List.getElem?_range (show j < width by omega), List.getElem?_range hj]
  · rw [List.getElem?_append_right (by simpa using Nat.not_lt.1 hj), List.getElem?_replicate]
    by_cases hw : j < width
    · -- no entry is there
      have hslot : slotAt rooms j = none := by
        rw [slotAt, firstAt_behind (by omega), Option.map_none]
      simp [List.getElem?_range hw, hslot]
      omega
    · simp [List.getElem?_eq_none (show (List.range width).length ≤ j by simpa using hw)]
      omega

/-- And nothing is brought there. -/
theorem filterMap_firstAt_range : (List.range width).filterMap (firstAt rooms) =
    (List.range (min width rooms.length)).filterMap (firstAt rooms) := by
  obtain ⟨k, hk⟩ : ∃ k, width = min width rooms.length + k :=
    ⟨width - min width rooms.length, by omega⟩
  have hbehind : ∀ i ∈ (List.range k).map (min width rooms.length + ·), firstAt rooms i = none := by
    intro i hi
    obtain ⟨j, hj, rfl⟩ := List.mem_map.1 hi
    have := List.mem_range.1 hj
    exact firstAt_behind (by omega)
  rw [hk, List.range_add, List.filterMap_append, ← hk, List.filterMap_eq_nil_iff.2 hbehind,
    List.append_nil]

end Width

/-- A room that no entry names is held by the new pages if another page held it. -/
theorem Rebuilding.still_held {l : RoomList} {start n : Nat} {rooms : List (Option Payload)}
    {b : Rebuild} (h : Rebuilding user l start rooms n b) {width : Nat} {id : RoomId}
    (hn : ¬ NamedBefore rooms n id) (hwidth : ¬ NamedBefore rooms width id) :
    Held (b.list.pages.insert start ((List.range width).map (slotAt rooms))) id ↔
      Held (l.pages.erase start) id := by
  refine exists_congr fun s => exists_congr fun i => ?_
  rw [slotOf_insert]
  by_cases hs : s = start
  · rw [if_pos hs, slotOf_erase, if_pos hs]
    refine iff_of_false (fun hslot => hwidth ?_) (by simp)
    exact mem_slots_iff.1 (List.mem_of_getElem? (Option.join_eq_some_iff.1 hslot))
  · rw [if_neg hs, slotOf_blanked (h.pages s), Option.filter_eq_some_iff]
    simp [hn]

/-- **The page is put in place.** -/
theorem Rebuilding.finish {l : RoomList} {start width : Nat} {rooms : List (Option Payload)}
    {b : Rebuild} (h : Rebuilding user l start rooms (min width rooms.length) b) :
    Rebuilt user l start width rooms (b.finish start width) b.touched := by
  have hpage : b.slots ++ List.replicate (width - b.slots.length) none =
      (List.range width).map (slotAt rooms) := by
    rw [map_slotAt_range, h.slots]
    simp
  have hpages : (b.finish start width).pages =
      b.list.pages.insert start ((List.range width).map (slotAt rooms)) :=
    congrArg (b.list.pages.insert start) hpage
  have hnamed : ∀ id, NamedBefore rooms (min width rooms.length) id ↔ NamedBefore rooms width id :=
    fun id => namedBefore_min
  have hheld : ∀ id, Held (b.finish start width).pages id →
      (b.finish start width).rooms.get? id = b.list.rooms.get? id := fun _ hid =>
    get?_sweep_held (l := { b.list with pages := (b.finish start width).pages }) hid
  have hhere : (b.finish start width).pages.get? start =
      some ((List.range width).map (slotAt rooms)) := by
    rw [hpages, Table.get?_insert, if_pos rfl]
  refine ⟨hhere, fun s hs => ?_, ?_, fun t ht => ?_, fun id hid helse => ?_,
    fun id hid helse => ?_⟩
  · rw [hpages, Table.get?_insert, if_neg hs, h.pages s, Table.get?_erase, if_neg hs]
    congr 1
    funext slots
    exact blanked_congr hnamed slots
  · exact h.touched.trans (filterMap_firstAt_range width).symm
  · -- a room that was brought is in the new page
    rw [h.touched, mem_firsts] at ht
    obtain ⟨j, hj, hfirst⟩ := ht
    have hslot : some t.room ∈ (List.range width).map (slotAt rooms) :=
      mem_slots_iff.2 (namedBefore_iff_slotAt.2 ⟨j, by omega, by simp [slotAt, hfirst]⟩)
    rw [hheld t.room (held_iff.2 ⟨start, _, hhere, hslot⟩)]
    exact h.brought j hj t hfirst
  · rw [hheld, h.kept id (mt (hnamed id).1 hid) helse]
    exact hpages ▸ (h.still_held user (mt (hnamed id).1 hid) hid).2 helse
  · refine get?_sweep_unheld (l := { b.list with pages := (b.finish start width).pages })
      fun hin => helse ?_
    exact (h.still_held user (mt (hnamed id).1 hid) hid).1 (hpages ▸ hin)

/-- **What a SYNC makes of a list.** -/
theorem rebuilt (l : RoomList) {range : Nat × Nat} (hfits : l.fits range = true)
    (rooms : List (Option Payload)) :
    ∃ touched, (l.applySync user range rooms).2 = .ok touched
      ∧ Rebuilt user l range.1 (range.2 - range.1) rooms (l.applySync user range rooms).1
        touched := by
  have hb := rebuilding_take user l range.1 rooms
    (Nat.min_le_right (range.2 - range.1) rooms.length)
  rw [← List.take_eq_take_min] at hb
  unfold applySync
  rw [if_pos hfits]
  exact ⟨_, rfl, hb.finish user⟩

/-- An accepted SYNC is of a window that fits. -/
theorem fits_of_accepted {l : RoomList} {list : Nat} {range : Nat × Nat}
    {rooms : List (Option Payload)} {touched : List Touched}
    (h : (l.apply user (.sync list range rooms)).2 = .ok touched) : l.fits range = true := by
  have h : (l.applySync user range rooms).2 = .ok touched := (apply_snd_eq_ok user).1 h
  unfold applySync at h
  split at h
  next hfits => exact hfits
  next => cases h

/-- And a SYNC of a window that fits is accepted. -/
theorem apply_sync_snd {l : RoomList} (list : Nat) {range : Nat × Nat}
    (hfits : l.fits range = true) (rooms : List (Option Payload)) :
    (l.apply user (.sync list range rooms)).2 =
      .ok ((List.range (range.2 - range.1)).filterMap (firstAt rooms)) := by
  obtain ⟨touched, hanswer, hrebuilt⟩ := rebuilt user l hfits rooms
  rw [hrebuilt.answer] at hanswer
  exact (apply_snd_eq_ok user).2 hanswer

/-- What an accepted SYNC makes of a list. -/
theorem rebuilt_of_accepted {l : RoomList} {list : Nat} {range : Nat × Nat}
    {rooms : List (Option Payload)} {touched : List Touched}
    (h : (l.apply user (.sync list range rooms)).2 = .ok touched) :
    Rebuilt user l range.1 (range.2 - range.1) rooms
      (l.apply user (.sync list range rooms)).1 touched := by
  obtain ⟨touched', hanswer, hrebuilt⟩ := rebuilt user l (fits_of_accepted user h) rooms
  have h : (l.applySync user range rooms).2 = .ok touched := (apply_snd_eq_ok user).1 h
  obtain rfl := Except.ok.inj (hanswer.symm.trans h)
  rw [apply_fst]
  exact hrebuilt

/-- **A SYNC builds exactly its page.**  After an accepted SYNC of `[start, stop)`
the page at `start` has `stop - start` slots; the slot at `j` holds the room that
the entry at `j` names if no earlier entry names it, and all others are
placeholders.  Other pages keep their slots, but for placeholders where they held
a room that these entries name.  The answer are the entries that gave a slot, in
order; each of their rooms is the one that the list knew, or a new one, with the
payload taken in once.  A room that is not named stays as it was if a slot of
another page holds it, and is forgotten otherwise. -/
theorem sync_builds_page {l : RoomList} {list : Nat} {range : Nat × Nat}
    {rooms : List (Option Payload)} {touched : List Touched}
    (haccepted : (l.apply user (.sync list range rooms)).2 = .ok touched) :
    let after := (l.apply user (.sync list range rooms)).1
    let width := range.2 - range.1
    (∃ slots, after.pages.get? range.1 = some slots ∧ slots.length = width
        ∧ ∀ j id, slots[j]? = some (some id) ↔
          j < width ∧ nameAt rooms j = some id ∧ ∀ i < j, nameAt rooms i ≠ some id)
      ∧ (∀ start, start ≠ range.1 →
        after.pages.get? start =
          (l.pages.get? start).map (blanked fun id => ∃ i < width, nameAt rooms i = some id))
      ∧ touched = (List.range width).filterMap (firstAt rooms)
      ∧ (∀ t ∈ touched, after.rooms.get? t.room = some (l.roomAfter user t.room t.payload))
      ∧ (∀ id, (∀ i < width, nameAt rooms i ≠ some id) →
        ((∃ start offset, start ≠ range.1 ∧ slotOf l.pages start offset = some id) →
            after.rooms.get? id = l.rooms.get? id)
          ∧ ((¬ ∃ start offset, start ≠ range.1 ∧ slotOf l.pages start offset = some id) →
            after.rooms.get? id = none)) := by
  intro after width
  have h := rebuilt_of_accepted user haccepted
  refine ⟨⟨_, h.page, by simp [width], fun j id => ?_⟩, h.others, h.answer, h.brought,
    fun id hid => ?_⟩
  · rw [getElem?_slots, slotAt_eq_some]
  · have hnamed : ¬ NamedBefore rooms width id := by
      rintro ⟨i, hi, hname⟩
      exact hid i hi hname
    have helse : (∃ start offset, start ≠ range.1 ∧ slotOf l.pages start offset = some id) ↔
        Held (l.pages.erase range.1) id := by
      refine exists_congr fun start => exists_congr fun offset => ?_
      rw [slotOf_erase]
      by_cases hs : start = range.1 <;> simp [hs]
    rw [helse]
    exact ⟨h.kept id hnamed, h.forgotten id hnamed⟩

end Window

/-! ## §4. A room that is named twice. -/

namespace MovingIn

def user : UserId := ⟨"@moving:x", by decide +kernel⟩

def porch : RoomId := ⟨"!porch-moving:x", by decide +kernel⟩

def hall : RoomId := ⟨"!hall-moving:x", by decide +kernel⟩

def attic : RoomId := ⟨"!attic-moving:x", by decide +kernel⟩

/-- A payload that says one thing of a room's state. -/
def saying (id : RoomId) (type name text : String) : Payload where
  roomId := some id
  requiredState := [{ type, stateKey := some "", content := .record [(name, .string text)] }]

/-- A page of two slots, full, and a room in the page behind it. -/
def list : RoomList :=
  ((((create .joined 2).apply user (.insert 0 0 { roomId := some hall })).1.apply user
    (.insert 0 1 { roomId := some attic })).1.apply user
    (.insert 0 2 (saying porch "m.room.name" "name" "the porch"))).1

/-- The porch moves to the front; it is named once more behind, and the hall only
past the end of the window. -/
def entries : List (Option Payload) :=
  [some (saying porch "m.room.topic" "topic" "a chair"),
    some (saying porch "m.room.topic" "topic" "a table"), some { roomId := some hall }]

end MovingIn

open MovingIn in
/-- The porch keeps its name and takes its first topic in; the second one makes a
placeholder.  The hall, which stood in the page, is forgotten. -/
theorem room_named_twice_in_a_window :
    let after := (list.apply user (.sync 0 (0, 2) entries)).1
    (list.apply user (.sync 0 (0, 2) entries)).2 =
        .ok [⟨porch, saying porch "m.room.topic" "topic" "a chair"⟩]
      ∧ after.pages.get? 0 = some [some porch, none]
      ∧ after.pages.get? 2 = some [none]
      ∧ after.rooms.get? porch =
          some { id := porch, facts := { name := some "the porch", topic := some "a chair" } }
      ∧ after.rooms.get? hall = none := by
  intro after
  have haccepted : (list.apply user (.sync 0 (0, 2) entries)).2 =
      .ok [⟨porch, saying porch "m.room.topic" "topic" "a chair"⟩] :=
    (apply_sync_snd user 0 (by decide +kernel) entries).trans
      (congrArg Except.ok (by decide +kernel))
  obtain ⟨-, hothers, -, hbrought, hunnamed⟩ := sync_builds_page user haccepted
  refine ⟨haccepted, by decide +kernel, ?_, ?_, ?_⟩
  · rw [hothers 2 (by decide)]
    decide +kernel
  · exact (hbrought _ List.mem_cons_self).trans (by decide +kernel)
  · -- neither of the first two entries names the hall, and the other page holds the porch
    refine (hunnamed hall (by decide +kernel)).2 ?_
    rintro ⟨start, offset, hstart, hslot⟩
    obtain ⟨slots, hpage, hmem⟩ := slotOf_eq_some.1 hslot
    have hentry := Table.mem_entries.2 hpage
    rw [show list.pages.entries = [(0, [some hall, some attic]), (2, [some porch])] by
      decide +kernel] at hentry
    simp only [List.mem_cons, Prod.mk.injEq, List.not_mem_nil, or_false] at hentry
    rcases hentry with ⟨rfl, -⟩ | ⟨-, rfl⟩
    · exact hstart rfl
    · exact absurd (List.mem_of_getElem? hmem) (by decide +kernel)

end RoomList

end RoomSync.Window
