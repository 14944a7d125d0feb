/-
  RoomSync.Proofs.Window.Documents
  ────────────────────────────────
  **SAVED LISTS THAT NOBODY SAVED.**

  A saved list is read from a document, and a document may say anything: a page
  may name more rooms than its window has places, two pages may start at the
  same index, and a room may stand twice.  To restore a list looks at the
  windows alone, so what comes of such a document is said here of every one.
  Each page is put over those before it of the same start, each room over what
  is known of it, and of a page that is replaced the rooms remain:

      get?_restore_pages — the page of a start: the last one that fits
      get?_restore_rooms — what is known of a room: what was saved last
      restore_valid_iff  — which documents give a list that agrees with itself
      coherent_save      — what a well-formed list saves is such a document
      restore_document   — all that is known of a restored list

  The conditions are on the document (`Coherent`), and can be computed.
-/
import Mathlib.Data.List.Dedup
import Mathlib.Data.List.Pairwise
import RoomSync.Proofs.Window.Reload

namespace RoomSync.Window

/-! ## §1. Lists that agree with themselves. -/

/-- Whether pages lie where indices find them and are no longer than a page, no
room stands twice, and the table knows the rooms in slots and no others. -/
structure RoomList.Valid (l : RoomList) : Prop where
  aligned : ∀ start slots, l.pages.get? start = some slots → start % l.pageSize = 0
  addressable : ∀ start slots, l.pages.get? start = some slots → start + l.pageSize ≤ maxIndex
  bounded : ∀ start slots, l.pages.get? start = some slots → slots.length ≤ l.pageSize
  noRepeats : NoRepeats l.pages
  known : ∀ id, l.rooms.contains id = true ↔ Held l.pages id

/-- Beside that a well-formed list has no empty page, and rooms under their ids. -/
theorem RoomList.wellFormed_iff_valid (l : RoomList) :
    l.WellFormed ↔ l.Valid ∧ 0 < l.pageSize
      ∧ (∀ start slots, l.pages.get? start = some slots → slots ≠ [])
      ∧ ∀ id room, l.rooms.get? id = some room → room.id = id := by
  constructor
  · intro h
    refine ⟨⟨?_, ?_, ?_, h.noRepeats, ?_⟩, h.pageSize_pos, ?_, h.own⟩
    · exact fun start slots hpage => (h.fits start slots hpage).aligned
    · exact fun start slots hpage => (h.fits start slots hpage).addressable
    · exact fun start slots hpage => (h.fits start slots hpage).bounded
    · exact fun id => ⟨h.referenced id, h.known id⟩
    · exact fun start slots hpage => List.length_pos_iff.1 (h.fits start slots hpage).occupied
  · rintro ⟨h, hpos, hoccupied, hown⟩
    refine { pageSize_pos := hpos, fits := fun start slots hpage => ?_, noRepeats := h.noRepeats,
             known := fun id => (h.known id).2, own := hown,
             referenced := fun id => (h.known id).1 }
    exact ⟨h.aligned start slots hpage, h.addressable start slots hpage,
      List.length_pos_iff.2 (hoccupied start slots hpage), h.bounded start slots hpage⟩

/-! ## §2. Pages of a document. -/

namespace SavedPage

/-- The slots of a page, once it is restored. -/
def slots (p : SavedPage) : Page := p.rooms.map fun slot => slot.map (·.id)

/-- The rooms of a page, in order. -/
def saved (p : SavedPage) : List SavedRoom := p.rooms.filterMap id

/-- The rooms that a page names, in order. -/
def ids (p : SavedPage) : List RoomId := p.saved.map (·.id)

theorem ids_eq (p : SavedPage) : p.ids = p.slots.filterMap id := by
  simp [ids, saved, slots, List.map_filterMap, List.filterMap_map]

theorem mem_ids {p : SavedPage} {id : RoomId} : id ∈ p.ids ↔ some id ∈ p.slots := by
  simp [ids_eq]

/-- A page names no room twice if its slots tell rooms apart. -/
theorem nodup_ids {p : SavedPage} :
    p.ids.Nodup ↔ ∀ (i j : Nat) id, p.slots[i]? = some (some id) →
      p.slots[j]? = some (some id) → i = j := by
  rw [ids_eq, List.Nodup, List.pairwise_filterMap, List.pairwise_iff_getElem]
  constructor
  · intro h i j id hi hj
    obtain ⟨hilt, hi⟩ := List.getElem?_eq_some_iff.1 hi
    obtain ⟨hjlt, hj⟩ := List.getElem?_eq_some_iff.1 hj
    rcases Nat.lt_trichotomy i j with hij | hij | hij
    · exact absurd rfl (h i j hilt hjlt hij id hi id hj)
    · exact hij
    · exact absurd rfl (h j i hjlt hilt hij id hj id hi)
  · rintro h i j hi hj hij id hid id' hid' rfl
    have hsame : i = j := h i j id (List.getElem?_eq_some_iff.2 ⟨hi, hid⟩)
      (List.getElem?_eq_some_iff.2 ⟨hj, hid'⟩)
    omega

/-- The pages of which no later one has the same start. -/
def standing (ps : List SavedPage) : List SavedPage :=
  ps.pwFilter fun p q => p.range.1 ≠ q.range.1

theorem pairwise_standing (ps : List SavedPage) :
    (standing ps).Pairwise fun p q => p.range.1 ≠ q.range.1 := List.pairwise_pwFilter ps

/-- Two pages that stand at one start are one page. -/
theorem eq_of_standing {ps : List SavedPage} {p q : SavedPage} (hp : p ∈ standing ps)
    (hq : q ∈ standing ps) (h : p.range.1 = q.range.1) : p = q := by
  have : Std.Symm fun p q : SavedPage => p.range.1 ≠ q.range.1 := ⟨fun _ _ hne => hne.symm⟩
  by_contra hne
  exact (pairwise_standing ps).forall hp hq hne h

/-- Of each start they have the last page. -/
theorem find?_standing (ps : List SavedPage) (start : Nat) :
    (standing ps).find? (·.range.1 = start) = (ps.filter (·.range.1 = start)).getLast? := by
  induction ps with
  | nil => rfl
  | cons q rest ih =>
      rw [getLast?_filter_cons (fun p : SavedPage => p.range.1), ← ih]
      by_cases hlast : ∀ p ∈ standing rest, q.range.1 ≠ p.range.1
      · rw [standing, List.pwFilter_cons_of_pos hlast, ← standing]
        by_cases hq : q.range.1 = start
        · have hnone : (standing rest).find? (·.range.1 = start) = none := by
            rw [List.find?_eq_none]
            intro p hp hstart
            exact hlast p hp (hq.trans (of_decide_eq_true hstart).symm)
          rw [List.find?_cons_of_pos (by simpa using hq), hnone, if_pos hq]
          rfl
        · rw [List.find?_cons_of_neg (by simpa using hq), if_neg hq, Option.or_none]
      · rw [standing, List.pwFilter_cons_of_neg hlast, ← standing]
        by_cases hq : q.range.1 = start
        · -- a later page of the start stands, so it is found before this one
          simp only [not_forall, not_not] at hlast
          obtain ⟨p, hp, hstart⟩ := hlast
          have hsome : ((standing rest).find? (·.range.1 = start)).isSome = true := by
            rw [List.find?_isSome]
            exact ⟨p, hp, decide_eq_true (hstart.symm.trans hq)⟩
          obtain ⟨found, hfound⟩ := Option.isSome_iff_exists.1 hsome
          rw [hfound]
          rfl
        · rw [if_neg hq, Option.or_none]

/-- They stand at starts of their own. -/
theorem find?_standing_eq_some {ps : List SavedPage} {start : Nat} {p : SavedPage} :
    (standing ps).find? (·.range.1 = start) = some p ↔ p ∈ standing ps ∧ p.range.1 = start := by
  have hfind : ∀ {q}, (standing ps).find? (·.range.1 = start) = some q →
      q ∈ standing ps ∧ q.range.1 = start := by
    intro q hq
    exact ⟨List.mem_of_find?_eq_some hq, by simpa using List.find?_some hq⟩
  refine ⟨hfind, ?_⟩
  rintro ⟨hp, hstart⟩
  obtain ⟨found, hfound⟩ : ∃ found, (standing ps).find? (·.range.1 = start) = some found :=
    Option.isSome_iff_exists.1 (List.find?_isSome.2 ⟨p, hp, decide_eq_true hstart⟩)
  obtain ⟨hmem, hfoundStart⟩ := hfind hfound
  rw [hfound, eq_of_standing hmem hp (hfoundStart.trans hstart.symm)]

end SavedPage

/-! ## §3. The restored list. -/

open SavedPage

/-- What is taken in, page by page, under a page size that does not change. -/
theorem foldl_restorePage (ps : List SavedPage) :
    ∀ l : RoomList, ps.foldl RoomList.restorePage l =
      { l with
        pages := (ps.filter (·.fits l.pageSize)).foldl
          (fun pages p => pages.insert p.range.1 p.slots) l.pages
        rooms := ((ps.filter (·.fits l.pageSize)).flatMap saved).foldl
          (fun rooms s => rooms.insert s.id s.restore) l.rooms } := by
  induction ps with
  | nil =>
      intro l
      rfl
  | cons p rest ih =>
      intro l
      rw [List.foldl_cons, ih, RoomList.restorePage]
      cases hfits : p.fits l.pageSize with
      | true =>
          rw [if_pos rfl, List.filter_cons_of_pos (by exact hfits), List.flatMap_cons,
            List.foldl_append]
          rfl
      | false => rw [if_neg Bool.false_ne_true, List.filter_cons_of_neg (by simp [hfits])]

namespace SavedList

/-- The pages whose windows are pages of this size. -/
def fitting (s : SavedList) (pageSize : Nat) : List SavedPage :=
  s.pages.filter (·.fits (max pageSize 1))

variable (s : SavedList) (pageSize : Nat)

theorem restore_eq : s.restore pageSize =
    { RoomList.create s.behaviour pageSize with
      total := s.total
      pages := (s.fitting pageSize).foldl (fun pages p => pages.insert p.range.1 p.slots) .empty
      rooms := ((s.fitting pageSize).flatMap saved).foldl
        (fun rooms s => rooms.insert s.id s.restore) .empty } :=
  foldl_restorePage s.pages _

theorem pageSize_restore : (s.restore pageSize).pageSize = max pageSize 1 := by
  rw [restore_eq]
  rfl

/-- **The page of a start** is the last one of that start that fits. -/
theorem get?_restore_pages (start : Nat) : (s.restore pageSize).pages.get? start =
    ((standing (s.fitting pageSize)).find? (·.range.1 = start)).map slots := by
  rw [restore_eq, find?_standing]
  exact (Table.get?_foldl_insert (fun p : SavedPage => p.range.1) slots start _ _).trans
    Option.or_none

/-- **What is known of a room** was saved last in a page that fits. -/
theorem get?_restore_rooms (id : RoomId) : (s.restore pageSize).rooms.get? id =
    ((((s.fitting pageSize).flatMap saved).filter (·.id = id)).getLast?).map
      SavedRoom.restore := by
  rw [restore_eq]
  exact (Table.get?_foldl_insert (fun r : SavedRoom => r.id) SavedRoom.restore id _ _).trans
    Option.or_none

/-- The pages of a restored list are those that stand. -/
theorem page_iff {start : Nat} {slots : Page} :
    (s.restore pageSize).pages.get? start = some slots ↔
      ∃ p ∈ standing (s.fitting pageSize), p.range.1 = start ∧ p.slots = slots := by
  rw [get?_restore_pages, Option.map_eq_some_iff]
  refine exists_congr fun p => ?_
  rw [find?_standing_eq_some, and_assoc]

/-- A page that stands is a page of the size, as far as its window goes. -/
theorem fits_of_standing {p : SavedPage} (hp : p ∈ standing (s.fitting pageSize)) :
    p.range.1 % max pageSize 1 = 0 ∧ p.range.1 + max pageSize 1 ≤ maxIndex := by
  have hfits := (List.mem_filter.1 (List.pwFilter_subset _ hp)).2
  simp only [SavedPage.fits, Bool.and_eq_true, decide_eq_true_eq] at hfits
  exact ⟨hfits.1.1.1, hfits.2⟩

theorem held_restore {id : RoomId} : Held (s.restore pageSize).pages id ↔
    ∃ p ∈ standing (s.fitting pageSize), id ∈ p.ids := by
  rw [held_iff]
  constructor
  · rintro ⟨start, slots, hpage, hslot⟩
    obtain ⟨p, hp, -, rfl⟩ := (s.page_iff pageSize).1 hpage
    exact ⟨p, hp, mem_ids.2 hslot⟩
  · rintro ⟨p, hp, hid⟩
    exact ⟨p.range.1, p.slots, (s.page_iff pageSize).2 ⟨p, hp, rfl, rfl⟩, mem_ids.1 hid⟩

/-- The table knows the rooms of all pages that fit, the replaced ones too. -/
theorem contains_restore {id : RoomId} : (s.restore pageSize).rooms.contains id = true ↔
    ∃ p ∈ s.fitting pageSize, id ∈ p.ids := by
  rw [Table.contains, get?_restore_rooms, Option.isSome_map, List.getLast?_isSome]
  constructor
  · intro h
    obtain ⟨r, hr⟩ := List.exists_mem_of_ne_nil _ h
    obtain ⟨hr, hid⟩ := List.mem_filter.1 hr
    obtain ⟨p, hp, hr⟩ := List.mem_flatMap.1 hr
    exact ⟨p, hp, List.mem_map.2 ⟨r, hr, of_decide_eq_true hid⟩⟩
  · rintro ⟨p, hp, hid⟩
    obtain ⟨r, hr, hid⟩ := List.mem_map.1 hid
    exact List.ne_nil_of_mem
      (List.mem_filter.2 ⟨List.mem_flatMap.2 ⟨p, hp, hr⟩, decide_eq_true hid⟩)

theorem own_restore {id : RoomId} {room : Room}
    (h : (s.restore pageSize).rooms.get? id = some room) : room.id = id := by
  rw [get?_restore_rooms, Option.map_eq_some_iff] at h
  obtain ⟨r, hr, rfl⟩ := h
  exact of_decide_eq_true (List.mem_filter.1 (List.mem_of_getLast? hr)).2

/-! ## §4. Documents that agree with themselves. -/

/-- **A coherent document**, under a page size.  Of the pages that stand none is
longer than a page, and they name no room twice; a page that is replaced names
rooms of pages that stand. -/
structure Coherent : Prop where
  bounded : ∀ p ∈ standing (s.fitting pageSize), p.rooms.length ≤ max pageSize 1
  distinct : ((standing (s.fitting pageSize)).flatMap ids).Nodup
  kept : ∀ p ∈ s.fitting pageSize, ∀ id ∈ p.ids, ∃ q ∈ standing (s.fitting pageSize), id ∈ q.ids

instance : Decidable (s.Coherent pageSize) :=
  decidable_of_iff
    ((∀ p ∈ standing (s.fitting pageSize), p.rooms.length ≤ max pageSize 1)
      ∧ ((standing (s.fitting pageSize)).flatMap ids).Nodup
      ∧ ∀ p ∈ s.fitting pageSize, ∀ id ∈ p.ids,
          ∃ q ∈ standing (s.fitting pageSize), id ∈ q.ids)
    ⟨fun ⟨hbounded, hdistinct, hkept⟩ => ⟨hbounded, hdistinct, hkept⟩,
      fun h => ⟨h.bounded, h.distinct, h.kept⟩⟩

/-- No room stands twice in the list if no two slots of the document name it. -/
theorem noRepeats_restore : NoRepeats (s.restore pageSize).pages ↔
    ((standing (s.fitting pageSize)).flatMap ids).Nodup := by
  have hpage : ∀ {p}, p ∈ standing (s.fitting pageSize) →
      (s.restore pageSize).pages.get? p.range.1 = some p.slots :=
    fun hp => (s.page_iff pageSize).2 ⟨_, hp, rfl, rfl⟩
  rw [List.nodup_flatMap]
  constructor
  · intro h
    refine ⟨fun p hp => nodup_ids.2 fun i j id hi hj => ?_, ?_⟩
    · have hslot : ∀ {i}, p.slots[i]? = some (some id) →
          slotOf (s.restore pageSize).pages p.range.1 i = some id :=
        fun hi => slotOf_eq_some.2 ⟨p.slots, hpage hp, hi⟩
      exact (h _ _ _ _ id (hslot hi) (hslot hj)).2
    · -- a room of two pages would stand at two starts
      refine (pairwise_standing _).imp_of_mem fun {p q} hp hq hne id hpid hqid => hne ?_
      obtain ⟨i, hi⟩ := List.getElem?_of_mem (mem_ids.1 hpid)
      obtain ⟨j, hj⟩ := List.getElem?_of_mem (mem_ids.1 hqid)
      exact (h _ _ _ _ id (slotOf_eq_some.2 ⟨p.slots, hpage hp, hi⟩)
        (slotOf_eq_some.2 ⟨q.slots, hpage hq, hj⟩)).1
  · rintro ⟨hself, hother⟩ start i start' j id hi hj
    obtain ⟨slots, hget, hi⟩ := slotOf_eq_some.1 hi
    obtain ⟨slots', hget', hj⟩ := slotOf_eq_some.1 hj
    obtain ⟨p, hp, rfl, rfl⟩ := (s.page_iff pageSize).1 hget
    obtain ⟨q, hq, rfl, rfl⟩ := (s.page_iff pageSize).1 hget'
    have hsame : p = q := by
      have : Std.Symm (Function.onFun List.Disjoint ids) := ⟨fun _ _ hd => hd.symm⟩
      by_contra hne
      exact hother.forall hp hq hne (mem_ids.2 (List.mem_of_getElem? hi))
        (mem_ids.2 (List.mem_of_getElem? hj))
    subst hsame
    exact ⟨rfl, nodup_ids.1 (hself p hp) i j id hi hj⟩

/-- **Which documents give a list that agrees with itself.**  Pages lie where
they may in any case, since their windows are looked at. -/
theorem restore_valid_iff : (s.restore pageSize).Valid ↔ s.Coherent pageSize := by
  constructor
  · intro h
    refine ⟨fun p hp => ?_, (s.noRepeats_restore pageSize).1 h.noRepeats, fun p hp id hid => ?_⟩
    · have hlen := h.bounded _ _ ((s.page_iff pageSize).2 ⟨p, hp, rfl, rfl⟩)
      rwa [pageSize_restore, slots, List.length_map] at hlen
    · exact (s.held_restore pageSize).1
        ((h.known id).1 ((s.contains_restore pageSize).2 ⟨p, hp, hid⟩))
  · intro h
    refine ⟨?_, ?_, ?_, (s.noRepeats_restore pageSize).2 h.distinct, fun id => ⟨?_, ?_⟩⟩
    · intro start page hpage
      obtain ⟨p, hp, rfl, rfl⟩ := (s.page_iff pageSize).1 hpage
      rw [pageSize_restore]
      exact (s.fits_of_standing pageSize hp).1
    · intro start page hpage
      obtain ⟨p, hp, rfl, rfl⟩ := (s.page_iff pageSize).1 hpage
      rw [pageSize_restore]
      exact (s.fits_of_standing pageSize hp).2
    · intro start page hpage
      obtain ⟨p, hp, rfl, rfl⟩ := (s.page_iff pageSize).1 hpage
      rw [pageSize_restore, slots, List.length_map]
      exact h.bounded p hp
    · intro hknown
      obtain ⟨p, hp, hid⟩ := (s.contains_restore pageSize).1 hknown
      exact (s.held_restore pageSize).2 (h.kept p hp id hid)
    · intro hheld
      obtain ⟨p, hp, hid⟩ := (s.held_restore pageSize).1 hheld
      exact (s.contains_restore pageSize).2 ⟨p, List.pwFilter_subset _ hp, hid⟩

/-- A document that a well-formed list wrote is coherent, under any page size. -/
theorem coherent_save {l : RoomList} (h : l.WellFormed) : l.save.Coherent pageSize := by
  rw [← restore_valid_iff, h.restore_save]
  exact ((RoomList.wellFormed_iff_valid _).1 (h.reloaded pageSize)).1

/-- **All that is known of a restored list**, whatever the document.  Its pages
are those that stand, and the table has the rooms of all that fit, as they were
saved last; so it agrees with itself if the document is coherent, and is well
formed if besides no page that stands is empty. -/
theorem restore_document :
    ((s.restore pageSize).behaviour = s.behaviour
        ∧ (s.restore pageSize).pageSize = max pageSize 1
        ∧ (s.restore pageSize).total = s.total)
      ∧ (∀ start, (s.restore pageSize).pages.get? start =
          ((standing (s.fitting pageSize)).find? (·.range.1 = start)).map slots)
      ∧ (∀ id, (s.restore pageSize).rooms.get? id =
          ((((s.fitting pageSize).flatMap saved).filter (·.id = id)).getLast?).map
            SavedRoom.restore)
      ∧ (∀ start page, (s.restore pageSize).pages.get? start = some page →
          start % max pageSize 1 = 0 ∧ start + max pageSize 1 ≤ maxIndex)
      ∧ ((s.restore pageSize).Valid ↔ s.Coherent pageSize)
      ∧ ((s.restore pageSize).WellFormed ↔
          s.Coherent pageSize ∧ ∀ p ∈ standing (s.fitting pageSize), p.rooms ≠ []) := by
  refine ⟨?_, s.get?_restore_pages pageSize, s.get?_restore_rooms pageSize, ?_,
    s.restore_valid_iff pageSize, ?_⟩
  · rw [restore_eq]
    exact ⟨rfl, rfl, rfl⟩
  · intro start page hpage
    obtain ⟨p, hp, rfl, -⟩ := (s.page_iff pageSize).1 hpage
    exact s.fits_of_standing pageSize hp
  · rw [RoomList.wellFormed_iff_valid, restore_valid_iff, pageSize_restore]
    refine and_congr_right fun _ => ⟨?_, fun h => ⟨by omega, ?_, ?_⟩⟩
    · rintro ⟨-, hoccupied, -⟩ p hp hempty
      refine hoccupied p.range.1 p.slots ((s.page_iff pageSize).2 ⟨p, hp, rfl, rfl⟩) ?_
      rw [slots, hempty, List.map_nil]
    · rintro start page hpage rfl
      obtain ⟨p, hp, -, hnil⟩ := (s.page_iff pageSize).1 hpage
      exact h p hp (List.map_eq_nil_iff.1 hnil)
    · exact fun id room => s.own_restore pageSize

end SavedList

/-! ## §5. Documents that are not coherent. -/

namespace Incoherent

def one : RoomId := ⟨"!one:x", by decide +kernel⟩

def two : RoomId := ⟨"!two:x", by decide +kernel⟩

def three : RoomId := ⟨"!three:x", by decide +kernel⟩

/-- A saved page of rooms of which nothing else is known. -/
def page (range : Nat × Nat) (ids : List RoomId) : SavedPage :=
  ⟨range, ids.map fun id => some ⟨id, {}⟩⟩

/-- Three rooms in a window of one. -/
def overlong : SavedList := ⟨.joined, 3, [page (0, 1) [one, two, three]]⟩

/-- A room in two windows. -/
def doubled : SavedList := ⟨.joined, 3, [page (0, 2) [one, two], page (2, 3) [one]]⟩

/-- Two pages of one start. -/
def replaced : SavedList := ⟨.joined, 3, [page (0, 2) [one, two], page (0, 1) [three]]⟩

end Incoherent

open Incoherent in
/-- **Documents that are read and restored, and are not coherent.**  In pages of two,
the third room of `overlong` has a position at which there is no room. -/
theorem incoherent_documents_are_restored :
    (SavedList.decode overlong.encode = .ok overlong
        ∧ (overlong.restore 2).pages.get? 0 = some [some one, some two, some three]
        ∧ (overlong.restore 2).positionOf three = some 2
        ∧ (overlong.restore 2).roomIdAt 2 = none
        ∧ ¬ (overlong.restore 2).Valid)
      ∧ (SavedList.decode doubled.encode = .ok doubled ∧ ¬ (doubled.restore 2).Valid)
      ∧ (SavedList.decode replaced.encode = .ok replaced ∧ ¬ (replaced.restore 2).Valid) := by
  have hinvalid : ∀ {s : SavedList}, ¬ s.Coherent 2 → ¬ (s.restore 2).Valid :=
    fun h hvalid => h ((SavedList.restore_valid_iff _ 2).1 hvalid)
  refine ⟨⟨rfl, ?_, ?_, ?_, hinvalid ?_⟩, ⟨rfl, hinvalid ?_⟩, ⟨rfl, hinvalid ?_⟩⟩
  all_goals decide +kernel

end RoomSync.Window
