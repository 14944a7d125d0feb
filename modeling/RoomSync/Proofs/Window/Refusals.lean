/-
  RoomSync.Proofs.Window.Refusals
  ───────────────────────────────
  **OPERATIONS THAT ARE REFUSED.**

  The homeserver and the client may come to disagree on what a list holds.
  The client then gives up the part they disagree on, and nothing else: a
  refused operation is an INVALIDATE of its window.  `Refused` says, without
  reference to how an operation is carried out, which ones are refused and
  why; `Dropped` says what an INVALIDATE does to pages and rooms:

      refused_iff          — exactly those operations fail
      of_refused           — and leave the list with their window dropped
      WellFormed.dropped   — the pages that meet a window go, with the rooms
                             that only they named
      Reachable.refusals   — both, for every list that can arise
-/
import RoomSync.Proofs.Window.Reachable

namespace RoomSync.Window

namespace RoomList

/-! ## §1. Windows that are dropped. -/

/-- The page at `start` and a window have an index in common. -/
def Meets (pageSize start : Nat) (range : Nat × Nat) : Prop :=
  ∃ index, start ≤ index ∧ index < start + pageSize ∧ range.1 ≤ index ∧ index < range.2

/-- What is left of a list after the pages that meet a window were dropped. -/
structure Dropped (l : RoomList) (range : Nat × Nat) (l' : RoomList) : Prop where
  frame : l'.frame = l.frame
  /-- Pages that do not meet the window stay as they are, the others go. -/
  pages : ∀ start slots, l'.pages.get? start = some slots ↔
    l.pages.get? start = some slots ∧ ¬ Meets l.pageSize start range
  /-- No index of the window is known. -/
  unknown : ∀ index, range.1 ≤ index → index < range.2 → l'.slot? index = none
  /-- Rooms that some slot still names stay as they are. -/
  named : ∀ id, Held l'.pages id → l'.rooms.get? id = l.rooms.get? id
  /-- The others are forgotten. -/
  unnamed : ∀ id, ¬ Held l'.pages id → l'.rooms.get? id = none

/-- The test by which pages are dropped. -/
def Overlaps (pageSize start : Nat) (range : Nat × Nat) : Prop :=
  start < range.2 ∧ range.1 < start + pageSize

/-- For a window with an index in it, the test finds the pages that meet it. -/
theorem overlaps_iff_meets {pageSize start : Nat} {range : Nat × Nat} (hpos : 0 < pageSize)
    (hrange : range.1 < range.2) : Overlaps pageSize start range ↔ Meets pageSize start range := by
  constructor
  · rintro ⟨hstop, hstart⟩
    -- the first index that both the page and the window have reached
    exact ⟨max start range.1, by omega, by omega, by omega, by omega⟩
  · rintro ⟨index, hlo, hhi, hfrom, hto⟩
    exact ⟨by omega, by omega⟩

/-- Pages of a sound list end before the greatest index, so their ends are
not cut off in the test. -/
theorem Sound.get?_invalidate {l : RoomList} (h : l.Sound) (range : Nat × Nat) (start : Nat)
    (slots : Page) : (l.invalidate range).pages.get? start = some slots ↔
      l.pages.get? start = some slots ∧ ¬ Overlaps l.pageSize start range := by
  have hpages : (l.invalidate range).pages = l.pages.filter fun p _ =>
      !(decide (p < range.2) && decide (range.1 < saturatingAdd p l.pageSize)) := by
    unfold invalidate
    dsimp only
    split <;> rfl
  rw [hpages, Table.get?_filter_eq_some]
  refine and_congr_right fun hpage => ?_
  have haddress := (h.fits start slots hpage).addressable
  rw [show saturatingAdd start l.pageSize = start + l.pageSize from Nat.min_eq_left haddress,
    Bool.not_eq_true', Bool.and_eq_false_iff, decide_eq_false_iff_not, decide_eq_false_iff_not]
  exact Decidable.not_and_iff_not_or_not.symm

/-- The rooms after a window was dropped are those that are still named. -/
theorem WellFormed.get?_invalidate_rooms {l : RoomList} (h : l.WellFormed) (range : Nat × Nat)
    (id : RoomId) (room : Room) : (l.invalidate range).rooms.get? id = some room ↔
      l.rooms.get? id = some room ∧ Held (l.invalidate range).pages id := by
  unfold RoomList.invalidate
  dsimp only
  split
  next hlen =>
    -- no page went, so every known room is named as before
    refine ⟨fun hroom => ⟨hroom, ?_⟩, And.left⟩
    rw [Table.filter_eq_self hlen]
    exact h.referenced id (Table.contains_iff.2 ⟨room, hroom⟩)
  next => exact get?_sweep_rooms _ id room

/-- **What an INVALIDATE does.** -/
theorem WellFormed.dropped {l : RoomList} (h : l.WellFormed) {range : Nat × Nat}
    (hrange : range.1 < range.2) : l.Dropped range (l.invalidate range) := by
  have hpages : ∀ start slots, (l.invalidate range).pages.get? start = some slots ↔
      l.pages.get? start = some slots ∧ ¬ Meets l.pageSize start range := by
    intro start slots
    rw [h.get?_invalidate, overlaps_iff_meets h.pageSize_pos hrange]
  refine ⟨frame_invalidate l range, hpages, ?_, ?_, ?_⟩
  · intro index hfrom hto
    have hsize : (l.invalidate range).pageSize = l.pageSize :=
      congrArg (·.2.1) (frame_invalidate l range)
    have hplace := l.locate_sum index
    have hoffset := locate_offset_lt h.pageSize_pos index
    unfold slot? locate
    rw [hsize]
    cases hget : (l.invalidate range).pages.get? (l.locate index).1 with
    | none => exact congrArg (Option.bind · _) hget
    | some slots =>
        -- the page of the index meets the window there
        exact absurd ⟨index, by omega, by omega, hfrom, hto⟩ ((hpages _ slots).1 hget).2
  · intro id hid
    refine Option.ext fun room => ?_
    rw [h.get?_invalidate_rooms, and_iff_left hid]
  · intro id hid
    refine Option.eq_none_iff_forall_ne_some.2 fun room hkept => ?_
    exact hid ((h.get?_invalidate_rooms range id room).1 hkept).2

/-- A window that no page overlaps is dropped without a trace. -/
theorem Sound.invalidate_eq_self {l : RoomList} (h : l.Sound) {range : Nat × Nat}
    (hclear : ∀ start slots, l.pages.get? start = some slots →
      ¬ Overlaps l.pageSize start range) : l.invalidate range = l := by
  have hfilter : (l.invalidate range).pages = l.pages := by
    refine Table.ext fun start => Option.ext fun slots => ?_
    rw [h.get?_invalidate]
    exact and_iff_left_of_imp (hclear start slots)
  unfold invalidate at hfilter ⊢
  dsimp only at hfilter ⊢
  split at hfilter
  next hlen => rw [if_pos hlen, Table.filter_eq_self hlen]
  next hlen => exact absurd (congrArg (·.entries.length) hfilter) hlen

/-! ## §2. What is refused. -/

/-- The window of an index' page. -/
def window (l : RoomList) (index : Nat) : Nat × Nat :=
  ((l.locate index).1, (l.locate index).1 + l.pageSize)

/-- The operations that do not fit a list, with the cause. -/
inductive Refused (l : RoomList) : Operation → ListFault → Prop
  /-- The window is empty or inverted, begins inside of a page, is wider than
  a page, or its page would end past the greatest index. -/
  | misfit {list : Nat} {range : Nat × Nat} {rooms : List (Option Payload)}
      (h : range.2 ≤ range.1 ∨ range.1 % l.pageSize ≠ 0 ∨ l.pageSize < range.2 - range.1
        ∨ maxIndex < range.1 + l.pageSize) :
      Refused l (.sync list range rooms) (.misfit range.1 range.2 l.pageSize)
  | insertUnaddressable {list index : Nat} {p : Payload} (h : maxIndex < (l.window index).2) :
      Refused l (.insert list index p) (.unaddressable index)
  | updateUnaddressable {list index : Nat} {p : Payload} (h : maxIndex < (l.window index).2) :
      Refused l (.update list index p) (.unaddressable index)
  | deleteUnaddressable {list index : Nat} (h : maxIndex < (l.window index).2) :
      Refused l (.delete list index) (.unaddressable index)
  | insertWithoutRoom {list index : Nat} {p : Payload} (h : (l.window index).2 ≤ maxIndex)
      (hroom : p.roomId = none) : Refused l (.insert list index p) (.insertWithoutRoom index)
  | updateOfUnknown {list index : Nat} {p : Payload} (h : (l.window index).2 ≤ maxIndex)
      (hslot : l.roomIdAt index = none) :
      Refused l (.update list index p) (.updateOfUnknown index)
  | updateOfOther {list index : Nat} {p : Payload} {claimed held : RoomId}
      (h : (l.window index).2 ≤ maxIndex) (hslot : l.roomIdAt index = some held)
      (hroom : p.roomId = some claimed) (hne : claimed ≠ held) :
      Refused l (.update list index p) (.updateOfOther index claimed held)
  | deleteOfUnknown {list index : Nat} (h : (l.window index).2 ≤ maxIndex)
      (hslot : l.slot? index = none) : Refused l (.delete list index) (.deleteOfUnknown index)

/-- The window that goes with a refused operation. -/
def refusalWindow (l : RoomList) : Operation → Nat × Nat
  | .sync _ range _ | .invalidate _ range => range
  | .insert _ index _ | .update _ index _ | .delete _ index =>
      ((l.window index).1, min (l.window index).2 maxIndex)

theorem isAddressable_iff (l : RoomList) (index : Nat) :
    l.isAddressable index = true ↔ (l.window index).2 ≤ maxIndex := decide_eq_true_iff

/-- A refusal of an index without an addressable page. -/
theorem refuseIndex_eq {l : RoomList} {index : Nat} (h : maxIndex < (l.window index).2) :
    l.refuseIndex index = (l.invalidate ((l.window index).1, min (l.window index).2 maxIndex),
      .error (.unaddressable index)) := by
  rw [Nat.min_eq_right (Nat.le_of_lt h)]
  rfl

/-- **A refused operation drops its window and does nothing else.** -/
theorem of_refused (user : UserId) {l : RoomList} {op : Operation} {fault : ListFault}
    (h : l.Refused op fault) :
    l.applyCausal user op = (l.invalidate (l.refusalWindow op), .error fault) := by
  cases h with
  | misfit h =>
      refine if_neg fun hfits => ?_
      have := (l.fits_iff _).1 hfits
      omega
  | insertUnaddressable h | updateUnaddressable h | deleteUnaddressable h =>
      refine (if_neg fun ha => ?_).trans (refuseIndex_eq h)
      exact absurd ((l.isAddressable_iff _).1 ha) (Nat.not_le_of_lt h)
  | insertWithoutRoom h hroom =>
      refine (if_pos ((l.isAddressable_iff _).2 h)).trans ?_
      rw [hroom]
      rfl
  | updateOfUnknown h hslot =>
      refine (if_pos ((l.isAddressable_iff _).2 h)).trans ?_
      rw [hslot]
      rfl
  | updateOfOther h hslot hroom hne =>
      refine (if_pos ((l.isAddressable_iff _).2 h)).trans ?_
      rw [hslot, hroom]
      exact if_neg hne
  | deleteOfUnknown h hslot =>
      refine (if_pos ((l.isAddressable_iff _).2 h)).trans ?_
      rw [hslot]
      rfl

/-- What fails was to be refused. -/
theorem refused_of_error (user : UserId) {l : RoomList} {op : Operation} {fault : ListFault}
    (h : (l.applyCausal user op).2 = .error fault) : l.Refused op fault := by
  cases op with
  | sync list range rooms =>
      have h : (l.applySync user range rooms).2 = .error fault := h
      unfold applySync at h
      split at h
      next => cases h
      next hfits =>
        rw [fits_iff] at hfits
        cases h
        exact .misfit (by omega)
  | insert list index p =>
      have h : (l.applyInsert user index p).2 = .error fault := h
      unfold applyInsert at h
      split at h
      next ha =>
        dsimp only at h
        split at h
        next hroom =>
          cases h
          exact .insertWithoutRoom ((l.isAddressable_iff index).1 ha) hroom
        next => cases h
      next ha =>
        cases h
        exact .insertUnaddressable (Nat.lt_of_not_le fun h => ha ((l.isAddressable_iff index).2 h))
  | update list index p =>
      have h : (l.applyUpdate user index p).2 = .error fault := h
      unfold applyUpdate at h
      split at h
      next ha =>
        dsimp only at h
        split at h
        next hslot =>
          cases h
          exact .updateOfUnknown ((l.isAddressable_iff index).1 ha) hslot
        next held hslot =>
          cases hroom : p.roomId with
          | none =>
              rw [hroom, Option.getD_none, if_pos rfl] at h
              cases h
          | some claimed =>
              rw [hroom, Option.getD_some] at h
              split at h
              next => cases h
              next hne =>
                cases h
                exact .updateOfOther ((l.isAddressable_iff index).1 ha) hslot hroom hne
      next ha =>
        cases h
        exact .updateUnaddressable (Nat.lt_of_not_le fun h => ha ((l.isAddressable_iff index).2 h))
  | delete list index =>
      have h : (l.applyDelete index).2 = .error fault := h
      unfold applyDelete at h
      split at h
      next ha =>
        dsimp only at h
        split at h
        next hslot =>
          cases h
          exact .deleteOfUnknown ((l.isAddressable_iff index).1 ha) hslot
        next => cases h
        next => cases h
      next ha =>
        cases h
        exact .deleteUnaddressable (Nat.lt_of_not_le fun h => ha ((l.isAddressable_iff index).2 h))
  | invalidate list range => cases h

/-- **Exactly the operations that do not fit are refused**, each as an
inconsistency of its list. -/
theorem refused_iff (user : UserId) (l : RoomList) (op : Operation) (e : SyncError) :
    (l.apply user op).2 = .error e ↔
      ∃ fault, l.Refused op fault ∧ e = .listConsistency l.name fault.message := by
  constructor
  · intro h
    cases hcausal : l.applyCausal user op with
    | mk l' answer =>
        unfold apply at h
        rw [hcausal] at h
        cases answer with
        | ok touched => cases h
        | error fault =>
            exact ⟨fault, refused_of_error user (congrArg Prod.snd hcausal),
              (Except.error.inj h).symm⟩
  · rintro ⟨fault, hfault, rfl⟩
    unfold apply
    rw [of_refused user hfault]

/-! ## §3. Every list that can arise. -/

/-- **An unaddressable index has nothing to drop**: pages are aligned and end
before the greatest index, so none lies at or behind that of the index. -/
theorem Sound.invalidate_unaddressable {l : RoomList} (h : l.Sound) {index : Nat}
    (hindex : maxIndex < (l.window index).2) (stop : Nat) :
    l.invalidate ((l.window index).1, stop) = l := by
  refine h.invalidate_eq_self fun start slots hpage => ?_
  have hfit := h.fits start slots hpage
  rintro ⟨-, hbehind⟩
  have hle : (l.window index).1 ≤ start :=
    le_of_aligned (locate_start_mod l index) hfit.aligned hbehind
  have haddress := hfit.addressable
  have hwindow : (l.window index).2 = (l.window index).1 + l.pageSize := rfl
  omega

/-- **Refusals, for every list that can arise.**  An operation fails exactly
if it does not fit, and always as an inconsistency of the list.  A refused
SYNC then leaves the list as an INVALIDATE of its own window does; a refused
operation on an index leaves it as an INVALIDATE of the window of the index'
page does, or as it was if that page would end past the greatest index.  No
operation changes the total.  And an INVALIDATE of a window with an index in
it drops the pages that meet it, with the rooms that only they named, and
nothing else. -/
theorem Reachable.refusals {l : RoomList} (h : Reachable l) (user : UserId) (op : Operation) :
    (∀ e, (l.apply user op).2 = .error e ↔
        ∃ fault, l.Refused op fault ∧ e = .listConsistency l.name fault.message)
      ∧ (∀ e, (l.apply user op).2 = .error e →
        (l.apply user op).1 = match op with
          | .sync list range _ => (l.apply user (.invalidate list range)).1
          | .insert list index _ | .update list index _ | .delete list index =>
              if (l.window index).2 ≤ maxIndex then
                (l.apply user (.invalidate list (l.window index))).1
              else l
          | .invalidate _ _ => l)
      ∧ (l.apply user op).1.total = l.total
      ∧ (∀ list start stop, start < stop →
        l.Dropped (start, stop) (l.apply user (.invalidate list (start, stop))).1) := by
  have hl := h.wellFormed
  refine ⟨refused_iff user l op, ?_, congrArg (·.2.2) (frame_apply user l op), ?_⟩
  · intro e he
    obtain ⟨fault, hfault, -⟩ := (refused_iff user l op e).1 he
    rw [apply_fst, of_refused user hfault]
    -- the window of an index is cut off at the greatest one only if it is unaddressable
    have hindex : ∀ index, l.invalidate ((l.window index).1, min (l.window index).2 maxIndex) =
        if (l.window index).2 ≤ maxIndex then l.invalidate (l.window index) else l := by
      intro index
      split
      next hfits => rw [Nat.min_eq_left hfits]
      next hpast => exact hl.invalidate_unaddressable (Nat.lt_of_not_le hpast) _
    cases op with
    | sync list range rooms => rfl
    | insert list index p => exact hindex index
    | update list index p => exact hindex index
    | delete list index => exact hindex index
    | invalidate list range => cases hfault
  · intro list start stop hlt
    exact hl.dropped hlt

/-- A list of pages of two slots with a room at index 0.  An UPDATE of index 1
is refused, since no slot is there; so the page is dropped, and the room with
it. -/
theorem update_of_unknown_slot_drops_page :
    let user : UserId := ⟨"@refused:x", by decide +kernel⟩
    let l := ((create .joined 2).apply user
      (.insert 0 0 { roomId := some ⟨"!refused:x", by decide +kernel⟩ })).1
    let after := l.apply user (.update 0 1 {})
    l.positionOf ⟨"!refused:x", by decide +kernel⟩ = some 0
      ∧ after.2 = .error (.listConsistency "joined" "UPDATE at 1 with no known room")
      ∧ after.1 = (l.apply user (.invalidate 0 (0, 2))).1
      ∧ after.1.rooms.get? ⟨"!refused:x", by decide +kernel⟩ = none := by
  intro user l after
  have hreachable := (Reachable.create .joined 2).apply user
    (.insert 0 0 { roomId := some ⟨"!refused:x", by decide +kernel⟩ })
  obtain ⟨hrefused, hstate, -, hdropped⟩ := hreachable.refusals user (.update 0 1 {})
  have herror : after.2 = .error (.listConsistency "joined" "UPDATE at 1 with no known room") :=
    (hrefused _).2 ⟨.updateOfUnknown 1, .updateOfUnknown (by decide +kernel) (by decide +kernel),
      by decide +kernel⟩
  have hwindow : after.1 = (l.apply user (.invalidate 0 (0, 2))).1 :=
    (hstate _ herror).trans (if_pos (by decide +kernel))
  refine ⟨by decide +kernel, herror, hwindow, ?_⟩
  rw [hwindow]
  refine (hdropped 0 0 2 (by decide)).unnamed _ fun hheld => ?_
  exact absurd ((holds_iff _ _).2 hheld) (by decide +kernel)

end RoomList

end RoomSync.Window
