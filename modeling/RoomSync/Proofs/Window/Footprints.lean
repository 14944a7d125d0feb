/-
  RoomSync.Proofs.Window.Footprints
  ─────────────────────────────────
  **WHAT AN OPERATION LEAVES ALONE.**

  To put a room into a page, an operation clears that room in every page; when
  slots are lost, it goes through the whole table for rooms to forget.  Still it
  reaches no further than the page of its index and the rooms that it names.  A
  room beyond that (`Outside` of the page) keeps its index and all that is known
  of it:

      WellFormed.rooms_congr — a room that keeps its index keeps the rest, too
      Rebuilt.footprint      — SYNC
      Inserted.footprint     — INSERT
      Updated.footprint      — UPDATE, which changes one room and no slot
      Deleted.footprint      — DELETE, which changes one slot
      accepted_footprint     — every accepted operation on an index

  For the last two operations there is more to say; it is said in full first.
-/
import RoomSync.Proofs.Window.Shifting

namespace RoomSync.Window

/-- The index that an operation is about; its page is the operation's page. -/
def Operation.index? : Operation → Option Nat
  | .sync _ range _ => some range.1
  | .insert _ index _ | .update _ index _ | .delete _ index => some index
  | .invalidate _ _ => none

namespace RoomList

/-! ## §1. Footprints. -/

/-- The room has no slot in the page at `start`. -/
def Outside (l : RoomList) (start : Nat) (id : RoomId) : Prop :=
  ∀ i, l.positionOf id = some i → (l.locate i).1 ≠ start

/-- Between two lists nothing has changed but the page at `start` and the rooms of
a kind. -/
structure Footprint (l : RoomList) (start : Nat) (p : RoomId → Prop) (l' : RoomList) :
    Prop where
  frame : l'.frame = l.frame
  positions : ∀ id, ¬ p id → l.Outside start id → l'.positionOf id = l.positionOf id
  rooms : ∀ id, ¬ p id → l.Outside start id → l'.rooms.get? id = l.rooms.get? id

/-- **A room that keeps its index keeps what is known of it** if it does so while
it is held: of a room that is not held nothing is known, before and after. -/
theorem WellFormed.rooms_congr {l l' : RoomList} (hl : l.WellFormed) (hl' : l'.WellFormed)
    {id : RoomId} (hposition : l'.positionOf id = l.positionOf id)
    (hheld : Held l'.pages id → l'.rooms.get? id = l.rooms.get? id) :
    l'.rooms.get? id = l.rooms.get? id := by
  by_cases hid : Held l'.pages id
  · exact hheld hid
  · have hbefore : ¬ Held l.pages id := by
      rw [← holds_iff, holds, ← hposition]
      rwa [← holds_iff, holds] at hid
    rw [hl'.get?_eq_none hid, hl.get?_eq_none hbefore]

/-- A room that is at the same indices before and after has the same position. -/
theorem Sound.positionOf_congr {l l' : RoomList} (hl : l.Sound) (hl' : l'.Sound) {id : RoomId}
    (h : ∀ i, l'.roomIdAt i = some id ↔ l.roomIdAt i = some id) :
    l'.positionOf id = l.positionOf id := by
  refine Option.ext fun i => ?_
  rw [← hl'.roomIdAt_iff_positionOf, ← hl.roomIdAt_iff_positionOf]
  exact h i

/-- A room outside of a page is at no index of it. -/
theorem Sound.locate_ne_of_outside {l : RoomList} (h : l.Sound) {start : Nat} {id : RoomId}
    (hout : l.Outside start id) {i : Nat} (hat : l.roomIdAt i = some id) :
    (l.locate i).1 ≠ start :=
  hout i ((h.roomIdAt_iff_positionOf i id).1 hat)

section Operations

variable (user : UserId)

/-! ## §2. Operations that build pages. -/

/-- **The footprint of a SYNC**: its page, and the rooms that its window names. -/
theorem Rebuilt.footprint {l l' : RoomList} (hl : l.WellFormed) (hl' : l'.WellFormed)
    {start width : Nat} {rooms : List (Option Payload)} {touched : List Touched}
    (hframe : l'.frame = l.frame) (h : Rebuilt user l start width rooms l' touched) :
    l.Footprint start (NamedBefore rooms width) l' := by
  have hpositions : ∀ id, ¬ NamedBefore rooms width id → l.Outside start id →
      l'.positionOf id = l.positionOf id := by
    intro id hid hout
    refine hl.positionOf_congr hl'.toSound fun i => ?_
    rw [roomIdAt_eq_slotOf, locate_congr hframe]
    by_cases hs : (l.locate i).1 = start
    · -- in the page: the room was not there before, and only named ones are there now
      refine iff_of_false (fun hslot => hid ?_) fun hat => hl.locate_ne_of_outside hout hat hs
      rw [hs, slotOf, h.page, Option.bind_some, Option.join_eq_some_iff] at hslot
      exact mem_slots_iff.1 (List.mem_of_getElem? hslot)
    · rw [slotOf_blanked (h.others _ hs), Option.filter_eq_some_iff, roomIdAt_eq_slotOf]
      simp [hid]
  refine ⟨hframe, hpositions, fun id hid hout => ?_⟩
  refine hl.rooms_congr hl' (hpositions id hid hout) fun hheld => ?_
  by_cases helse : Held (l.pages.erase start) id
  · exact h.kept id hid helse
  · -- held, and so known, it was not forgotten
    obtain ⟨room, hroom⟩ := Table.contains_iff.1 (hl'.known id hheld)
    rw [h.forgotten id hid helse] at hroom
    cases hroom

/-- **The footprint of an INSERT**: its page, and the room. -/
theorem Inserted.footprint {l l' : RoomList} (hl : l.WellFormed) (hl' : l'.WellFormed)
    {index : Nat} {id : RoomId} {p : Payload} (h : l.Inserted user index id p l') :
    l.Footprint (l.locate index).1 (· = id) l' := by
  have hpositions : ∀ other, other ≠ id → l.Outside (l.locate index).1 other →
      l'.positionOf other = l.positionOf other := by
    intro other hne hout
    rw [h.positionOf hl hl' hne]
    cases hposition : l.positionOf other with
    | none => rfl
    | some i =>
        -- an index that is not in the window does not shift
        have hwindow := mt (hl.locate_eq_iff index i).2 (hout i hposition)
        have hstart : (l.window index).1 ≤ index := (hl.mem_window index).1
        rw [Option.bind_some, shifted, if_pos (by omega)]
  refine ⟨h.frame, hpositions, fun other hne hout => ?_⟩
  exact hl.rooms_congr hl' (hpositions other hne hout) (h.kept other hne)

/-! ## §3. UPDATE. -/

/-- What an UPDATE of the room at an index makes of a list. -/
structure Updated (l : RoomList) (index : Nat) (id : RoomId) (p : Payload) (l' : RoomList) :
    Prop where
  frame : l'.frame = l.frame
  pages : l'.pages = l.pages
  held : l.roomIdAt index = some id
  rooms : ∀ other, l'.rooms.get? other =
    if other = id then some (l.roomAfter user id p) else l.rooms.get? other

/-- **What an UPDATE makes of a list**, if the slot holds a room and the payload
names no other. -/
theorem updated {l : RoomList} {index : Nat} {p : Payload} {id : RoomId}
    (haddress : (l.window index).2 ≤ maxIndex) (hslot : l.roomIdAt index = some id)
    (hroom : p.roomId.getD id = id) :
    (l.applyUpdate user index p).2 = .ok [⟨id, p⟩]
      ∧ l.Updated user index id p (l.applyUpdate user index p).1 := by
  unfold RoomList.applyUpdate
  rw [if_pos ((l.isAddressable_iff index).2 haddress), hslot]
  dsimp only
  rw [if_pos hroom]
  refine ⟨rfl, rfl, rfl, hslot, fun other => ?_⟩
  show (l.rooms.insert id (l.roomAfter user id p)).get? other = _
  rw [Table.get?_insert]

/-- **The footprint of an UPDATE**: its page. -/
theorem Updated.footprint {l l' : RoomList} (hl : l.WellFormed) {index : Nat} {id : RoomId}
    {p : Payload} (h : l.Updated user index id p l') :
    l.Footprint (l.locate index).1 (fun _ => False) l' := by
  refine ⟨h.frame, fun other _ _ => positionOf_of_pages h.pages other, fun other _ hout => ?_⟩
  -- the room that changes is in the page
  have hne : other ≠ id := by
    rintro rfl
    exact hl.locate_ne_of_outside hout h.held rfl
  rw [h.rooms, if_neg hne]

/-! ## §4. DELETE. -/

/-- What a DELETE of the slot of an index makes of a list. -/
structure Deleted (l : RoomList) (index : Nat) (l' : RoomList) : Prop where
  frame : l'.frame = l.frame
  slots : ∀ i, l'.slot? i = if i = index then some none else l.slot? i
  rooms : ∀ id, l'.rooms.get? id =
    if l.roomIdAt index = some id then none else l.rooms.get? id

/-- A slot that becomes a placeholder changes no other. -/
theorem slot?_insert_set {l m : RoomList} {index : Nat} {slots : Page}
    (hpage : l.pages.get? (l.locate index).1 = some slots)
    (hslot : (l.locate index).2 < slots.length) (hframe : m.frame = l.frame)
    (hpages : m.pages =
      l.pages.insert (l.locate index).1 (slots.set (l.locate index).2 none)) (i : Nat) :
    m.slot? i = if i = index then some none else l.slot? i := by
  have hsum := l.locate_sum i
  have hindex := l.locate_sum index
  unfold slot?
  rw [locate_congr hframe, hpages, Table.get?_insert]
  by_cases hs : (l.locate i).1 = (l.locate index).1
  · rw [if_pos hs, hs, hpage, Option.bind_some, Option.bind_some, List.getElem?_set]
    by_cases hi : i = index
    · rw [if_pos (by omega), if_pos hslot, if_pos hi]
    · rw [if_neg (by omega), if_neg hi]
  · have hi : i ≠ index := by
      rintro rfl
      exact hs rfl
    rw [if_neg hs, if_neg hi]

/-- The rooms of all other indices stay where they are. -/
theorem roomIdAt_of_slots {l l' : RoomList} {index : Nat}
    (hslots : ∀ i, l'.slot? i = if i = index then some none else l.slot? i) (i : Nat) :
    l'.roomIdAt i = if i = index then none else l.roomIdAt i := by
  unfold RoomList.roomIdAt
  rw [hslots]
  split <;> rfl

/-- When one slot becomes a placeholder, the room that was there has no position,
and the others keep theirs. -/
theorem positionOf_of_slots {l l' : RoomList} (hl : l.Sound) (hl' : l'.Sound) {index : Nat}
    (hslots : ∀ i, l'.slot? i = if i = index then some none else l.slot? i) (id : RoomId) :
    l'.positionOf id = if l.roomIdAt index = some id then none else l.positionOf id := by
  have hat := roomIdAt_of_slots hslots
  by_cases hid : l.roomIdAt index = some id
  · rw [if_pos hid]
    refine Option.eq_none_iff_forall_ne_some.2 fun i hposition => ?_
    have hfound := (hl'.roomIdAt_iff_positionOf i id).2 hposition
    rw [hat] at hfound
    split at hfound
    next => cases hfound
    next hi =>
      -- it would have been at two indices
      have hi' := (hl.roomIdAt_iff_positionOf i id).1 hfound
      rw [(hl.roomIdAt_iff_positionOf index id).1 hid] at hi'
      exact hi (Option.some.inj hi').symm
  · rw [if_neg hid]
    refine hl.positionOf_congr hl' fun i => ?_
    rw [hat]
    by_cases hi : i = index
    · rw [if_pos hi, hi]
      exact iff_of_false (by simp) hid
    · rw [if_neg hi]

/-- The slot is made a placeholder, and the room of it is forgotten. -/
theorem WellFormed.deleted_sweep {l m : RoomList} (hl : l.WellFormed) (hm : m.sweep.WellFormed)
    {index : Nat} {slots : Page} (hpage : l.pages.get? (l.locate index).1 = some slots)
    (hslot : (l.locate index).2 < slots.length) (hframe : m.frame = l.frame)
    (hpages : m.pages = l.pages.insert (l.locate index).1 (slots.set (l.locate index).2 none))
    (hrooms : m.rooms = l.rooms) : l.Deleted index m.sweep := by
  have hslots : ∀ i, m.sweep.slot? i = if i = index then some none else l.slot? i :=
    slot?_insert_set hpage hslot hframe hpages
  have hpositions := positionOf_of_slots hl.toSound hm.toSound hslots
  refine ⟨hframe, hslots, fun id => ?_⟩
  by_cases hid : l.roomIdAt index = some id
  · rw [if_pos hid]
    exact hm.get?_eq_none (not_held_of_positionOf ((hpositions id).trans (if_pos hid)))
  · rw [if_neg hid]
    refine hl.rooms_congr hm ((hpositions id).trans (if_neg hid)) fun hheld => ?_
    rw [get?_sweep_held (l := m) hheld, hrooms]

/-- **What a DELETE makes of a list**, if the page reaches that far. -/
theorem WellFormed.deleted {l : RoomList} (hl : l.WellFormed) {index : Nat}
    {slot : Option RoomId} (haddress : (l.window index).2 ≤ maxIndex)
    (hslot : l.slot? index = some slot) :
    (l.applyDelete index).2 = .ok [] ∧ l.Deleted index (l.applyDelete index).1 := by
  have hl' := hl.applyDelete index
  unfold RoomList.applyDelete at hl' ⊢
  rw [if_pos ((l.isAddressable_iff index).2 haddress)] at hl' ⊢
  dsimp only at hl' ⊢
  rw [hslot] at hl' ⊢
  cases slot with
  | none =>
      -- a placeholder stays one
      show _ ∧ l.Deleted index l
      have hempty : l.roomIdAt index = none := congrArg Option.join hslot
      refine ⟨rfl, rfl, fun i => ?_, fun id => by rw [hempty, if_neg (by simp)]⟩
      split
      next hi => rw [hi, hslot]
      next => rfl
  | some held =>
      obtain ⟨slots, hpage, hget⟩ := slot?_eq_some hslot
      refine ⟨rfl, hl.deleted_sweep hl' hpage (List.getElem?_eq_some_iff.1 hget).1 rfl ?_ rfl⟩
      rw [hpage]
      rfl

/-- **The footprint of a DELETE**: its page. -/
theorem Deleted.footprint {l l' : RoomList} (hl : l.Sound) (hl' : l'.Sound) {index : Nat}
    (h : l.Deleted index l') : l.Footprint (l.locate index).1 (fun _ => False) l' := by
  have helse : ∀ id, l.Outside (l.locate index).1 id → l.roomIdAt index ≠ some id :=
    fun id hout hat => hl.locate_ne_of_outside hout hat rfl
  refine ⟨h.frame, fun id _ hout => ?_, fun id _ hout => ?_⟩
  · rw [positionOf_of_slots hl hl' h.slots, if_neg (helse id hout)]
  · rw [h.rooms, if_neg (helse id hout)]

/-! ## §5. Any accepted operation. -/

/-- What is accepted was not to be refused. -/
theorem not_refused {l : RoomList} {op : Operation} {touched : List Touched}
    (hok : (l.apply user op).2 = .ok touched) (fault : ListFault) : ¬ l.Refused op fault := by
  intro hrefused
  rw [apply_snd_eq_ok, of_refused user hrefused] at hok
  cases hok

variable {user} {l : RoomList} {list index : Nat} {p : Payload} {touched : List Touched}

theorem WellFormed.inserted_of_accepted (hl : l.WellFormed)
    (hok : (l.apply user (.insert list index p)).2 = .ok touched) :
    ∃ id, p.roomId = some id
      ∧ l.Inserted user index id p (l.apply user (.insert list index p)).1 := by
  have haddress : (l.window index).2 ≤ maxIndex :=
    Nat.le_of_not_lt fun hpast => not_refused user hok _ (.insertUnaddressable hpast)
  cases hroom : p.roomId with
  | none => exact absurd (.insertWithoutRoom haddress hroom) (not_refused user hok _)
  | some id =>
      refine ⟨id, rfl, ?_⟩
      rw [apply_fst]
      exact (hl.inserted user haddress hroom).2

theorem updated_of_accepted (hok : (l.apply user (.update list index p)).2 = .ok touched) :
    ∃ id, l.Updated user index id p (l.apply user (.update list index p)).1 := by
  have haddress : (l.window index).2 ≤ maxIndex :=
    Nat.le_of_not_lt fun hpast => not_refused user hok _ (.updateUnaddressable hpast)
  cases hslot : l.roomIdAt index with
  | none => exact absurd (.updateOfUnknown haddress hslot) (not_refused user hok _)
  | some id =>
      refine ⟨id, ?_⟩
      rw [apply_fst]
      refine (updated user haddress hslot ?_).2
      cases hroom : p.roomId with
      | none => rfl
      | some claimed =>
          by_cases hsame : claimed = id
          · exact hsame
          · exact absurd (.updateOfOther haddress hslot hroom hsame) (not_refused user hok _)

theorem WellFormed.deleted_of_accepted (hl : l.WellFormed)
    (hok : (l.apply user (.delete list index)).2 = .ok touched) :
    l.Deleted index (l.apply user (.delete list index)).1 := by
  have haddress : (l.window index).2 ≤ maxIndex :=
    Nat.le_of_not_lt fun hpast => not_refused user hok _ (.deleteUnaddressable hpast)
  cases hslot : l.slot? index with
  | none => exact absurd (.deleteOfUnknown haddress hslot) (not_refused user hok _)
  | some slot =>
      rw [apply_fst]
      exact (hl.deleted haddress hslot).2

/-- A footprint within a larger one. -/
theorem Footprint.mono {l' : RoomList} {start : Nat} {p q : RoomId → Prop}
    (h : l.Footprint start p l') (hpq : ∀ id, p id → q id) : l.Footprint start q l' where
  frame := h.frame
  positions id hid := h.positions id (mt (hpq id) hid)
  rooms id hid := h.rooms id (mt (hpq id) hid)

/-- **The footprint of an accepted operation**: the page of its index, and the rooms
that it names. -/
theorem WellFormed.footprint (hl : l.WellFormed) {op : Operation} {at_ : Nat}
    (hindex : op.index? = some at_) (hok : (l.apply user op).2 = .ok touched) :
    l.Footprint (l.locate at_).1 (fun id => ∃ t ∈ op.named, t.room = id)
      (l.apply user op).1 := by
  have hl' := hl.apply user op
  cases op with
  | sync list range rooms =>
      obtain rfl := Option.some.inj hindex
      obtain ⟨-, haligned, -⟩ := (l.fits_iff range).1 (fits_of_accepted user hok)
      have hstart : (l.locate range.1).1 = range.1 := by
        unfold locate
        omega
      rw [hstart]
      refine ((rebuilt_of_accepted user hok).footprint user hl hl'
        (frame_apply user l _)).mono fun id => ?_
      rintro ⟨j, -, hname⟩
      obtain ⟨p, hentry, hroom⟩ := nameAt_eq_some.1 hname
      exact ⟨⟨id, p⟩, List.mem_filterMap.2
        ⟨some p, List.mem_of_getElem? hentry, named?_eq_some.2 ⟨rfl, hroom⟩⟩, rfl⟩
  | insert list index p =>
      obtain rfl := Option.some.inj hindex
      obtain ⟨id, hroom, hinserted⟩ := hl.inserted_of_accepted hok
      refine (hinserted.footprint user hl hl').mono ?_
      rintro other rfl
      exact ⟨⟨other, p⟩, by simp [Operation.named, named?_eq_some, hroom], rfl⟩
  | update list index p =>
      obtain rfl := Option.some.inj hindex
      obtain ⟨id, hupdated⟩ := updated_of_accepted hok
      exact (hupdated.footprint user hl).mono fun _ => False.elim
  | delete list index =>
      obtain rfl := Option.some.inj hindex
      exact ((hl.deleted_of_accepted hok).footprint hl.toSound hl'.toSound).mono
        fun _ => False.elim
  | invalidate list range => cases hindex

/-- **An accepted operation disturbs nothing else.**  In any list that can arise, an
accepted SYNC, INSERT, UPDATE or DELETE keeps the total; and a room that it does not
name, and that is not in the page of its index, keeps its index, and all that is
known of it.  What is more, an UPDATE changes no slot, and only the room at its
index, which takes the payload in once; and a DELETE makes a placeholder of the slot
at its index, forgets the room that was there, and leaves every other index and room
as it was. -/
theorem Reachable.accepted_footprint (h : Reachable l) {op : Operation} {at_ : Nat}
    (hindex : op.index? = some at_) (hok : (l.apply user op).2 = .ok touched) :
    let after := (l.apply user op).1
    after.total = l.total
      ∧ (∀ id, (∀ t ∈ op.named, t.room ≠ id) →
        (∀ i, l.positionOf id = some i → (l.locate i).1 ≠ (l.locate at_).1) →
          after.positionOf id = l.positionOf id ∧ after.rooms.get? id = l.rooms.get? id)
      ∧ match op with
        | .update _ index p =>
            after.pages = l.pages
              ∧ ∃ id room, l.roomIdAt index = some id ∧ l.rooms.get? id = some room
                ∧ ∀ other, after.rooms.get? other =
                    if other = id then some (room.apply user p) else l.rooms.get? other
        | .delete _ index =>
            (∀ i, after.slot? i = if i = index then some none else l.slot? i)
              ∧ ∀ id, after.rooms.get? id =
                  if l.roomIdAt index = some id then none else l.rooms.get? id
        | .sync _ _ _ | .insert _ _ _ | .invalidate _ _ => True := by
  intro after
  have hl := h.wellFormed
  have hfootprint := hl.footprint hindex hok
  refine ⟨congrArg (·.2.2) hfootprint.frame, fun id hid hout => ?_, ?_⟩
  · have hnamed : ¬ ∃ t ∈ op.named, t.room = id := by
      rintro ⟨t, ht, hsame⟩
      exact hid t ht hsame
    exact ⟨hfootprint.positions id hnamed hout, hfootprint.rooms id hnamed hout⟩
  · cases op with
    | sync | insert | invalidate => trivial
    | update list index p =>
        obtain ⟨id, hupdated⟩ := updated_of_accepted hok
        obtain ⟨room, hroom⟩ := Table.contains_iff.1 (hl.known id (held_of_roomIdAt hupdated.held))
        have hafter : l.roomAfter user id p = room.apply user p := by
          rw [roomAfter, hroom, Option.getD_some]
        exact ⟨hupdated.pages, id, room, hupdated.held, hroom, hafter ▸ hupdated.rooms⟩
    | delete list index =>
        have hdeleted := hl.deleted_of_accepted hok
        exact ⟨hdeleted.slots, hdeleted.rooms⟩

end Operations

open MovingIn in
/-- The second room of a full page is deleted.  The first one and the one behind the
page stay where they are, and keep what is known of them. -/
theorem room_leaves_a_page :
    let after := (list.apply user (.delete 0 1)).1
    (Reachable list ∧ (Operation.delete 0 1).index? = some 1
        ∧ (list.apply user (.delete 0 1)).2 = .ok [])
      ∧ after.slot? 0 = some (some hall) ∧ after.slot? 1 = some none
      ∧ after.rooms.get? attic = none
      ∧ after.positionOf porch = some 2
      ∧ after.rooms.get? porch = some { id := porch, facts := { name := some "the porch" } } := by
  intro after
  have hreachable : Reachable list :=
    (((Reachable.create .joined 2).apply _ _).apply _ _).apply _ _
  have hok : (list.apply user (.delete 0 1)).2 = .ok [] :=
    (apply_snd_eq_ok user).2 (hreachable.wellFormed.deleted (by decide +kernel)
      (show list.slot? 1 = some (some attic) by decide +kernel)).1
  obtain ⟨-, hothers, hslots, hrooms⟩ :=
    hreachable.accepted_footprint (show (Operation.delete 0 1).index? = some 1 from rfl) hok
  have hporch := hothers porch (fun t ht => absurd ht List.not_mem_nil) fun i hi => by
    rw [show list.positionOf porch = some 2 by decide +kernel] at hi
    obtain rfl := Option.some.inj hi
    decide +kernel
  refine ⟨⟨hreachable, rfl, hok⟩, (hslots 0).trans (by decide +kernel), hslots 1,
    (hrooms attic).trans (by decide +kernel), hporch.1.trans (by decide +kernel),
    hporch.2.trans (by decide +kernel)⟩

end RoomList

end RoomSync.Window
