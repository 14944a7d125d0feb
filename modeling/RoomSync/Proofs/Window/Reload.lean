/-
  RoomSync.Proofs.Window.Reload
  ─────────────────────────────
  **A LIST THAT IS SAVED AND RESTORED.**

  What is saved of a well-formed list is read back page by page, under a page
  size that may be another one.  A page comes back if it is still a page of
  that size, and a room if such a page holds it, with its facts and without
  its timeline (`reloaded`):

      restore_save          — saving and restoring is `reloaded`
      WellFormed.reloaded   — the result is well formed
      reloaded_self         — under its own page size a list loses timelines only

  The restored list is built by insertion; it is compared with `reloaded`
  key by key.
-/
import RoomSync.Proofs.Window.WellFormed
import RoomSync.Window.Saved

namespace RoomSync.Window

namespace RoomList

/-! ## §1. What comes back. -/

/-- A list whose rooms come back from storage. -/
def withoutTimelines (l : RoomList) : RoomList :=
  { l with rooms := l.rooms.mapValues fun _ room => room.save.restore }

theorem get?_withoutTimelines (l : RoomList) (id : RoomId) :
    l.withoutTimelines.rooms.get? id = (l.rooms.get? id).map (·.save.restore) :=
  Table.get?_mapValues _ _ id

/-- Whether a page is a page of another size, too. -/
def reloads (pageSize start : Nat) (slots : Page) : Bool :=
  decide (start % pageSize = 0) && decide (slots.length ≤ pageSize)
    && decide (start + pageSize ≤ maxIndex)

/-- The list as it comes back under a page size. -/
def reloaded (l : RoomList) (pageSize : Nat) : RoomList :=
  sweep
    { l.withoutTimelines with
      pageSize := max pageSize 1
      pages := l.pages.filter (reloads (max pageSize 1)) }

theorem eq_of_fields {l m : RoomList} (hb : l.behaviour = m.behaviour)
    (hsize : l.pageSize = m.pageSize) (ht : l.total = m.total) (hp : l.pages = m.pages)
    (hr : l.rooms = m.rooms) : l = m := by
  cases l
  cases m
  cases hb
  cases hsize
  cases ht
  cases hp
  cases hr
  rfl

/-- **What comes back is well formed**, under any page size. -/
theorem WellFormed.reloaded {l : RoomList} (h : l.WellFormed) (pageSize : Nat) :
    (l.reloaded pageSize).WellFormed := by
  -- pages are lost, so no slot gains a room
  have hsub : ∀ s i id, slotOf (l.pages.filter (reloads (max pageSize 1))) s i = some id →
      slotOf l.pages s i = some id := fun s i id => slotOf_filter l.pages _
  refine Sound.sweep ⟨?_, ?_, h.noRepeats.mono hsub, ?_, ?_⟩
  · show 0 < max pageSize 1
    omega
  · intro start slots hpage
    obtain ⟨hpage, hreloads⟩ := Table.get?_filter_eq_some.1 hpage
    simp only [reloads, Bool.and_eq_true, decide_eq_true_eq] at hreloads
    exact ⟨hreloads.1.1, hreloads.2, (h.fits start slots hpage).occupied, hreloads.1.2⟩
  · rintro id ⟨s, i, hslot⟩
    obtain ⟨room, hroom⟩ := Table.contains_iff.1 (h.known id ⟨s, i, hsub s i id hslot⟩)
    refine Table.contains_iff.2 ⟨room.save.restore, ?_⟩
    rw [get?_withoutTimelines, hroom]
    rfl
  · intro id room hroom
    rw [get?_withoutTimelines, Option.map_eq_some_iff] at hroom
    obtain ⟨before, hbefore, rfl⟩ := hroom
    exact h.own id before hbefore

/-! ## §2. One page. -/

/-- The saved form of a page. -/
def savedPage (l : RoomList) (e : Nat × Page) : SavedPage :=
  ⟨(e.1, saturatingAdd e.1 e.2.length), e.2.map l.saveSlot⟩

/-- In a well-formed list a slot's room is in the table under its id. -/
theorem WellFormed.saveSlot_some {l : RoomList} (h : l.WellFormed) {id : RoomId}
    (hid : Held l.pages id) :
    ∃ room, l.rooms.get? id = some room ∧ room.id = id ∧ l.saveSlot (some id) = some room.save := by
  obtain ⟨room, hroom⟩ := Table.contains_iff.1 (h.known id hid)
  refine ⟨room, hroom, h.own id room hroom, ?_⟩
  show (l.rooms.get? id).map Room.save = some room.save
  rw [hroom]
  rfl

/-- The window of a page never needs the saturation. -/
theorem WellFormed.fits_savedPage {l : RoomList} (h : l.WellFormed) {start : Nat} {slots : Page}
    (hpage : l.pages.get? start = some slots) (pageSize : Nat) :
    (l.savedPage (start, slots)).fits pageSize = reloads pageSize start slots := by
  have hfit := h.fits start slots hpage
  -- the whole page is addressable, and its slots are no more than it has
  have hstop : saturatingAdd start slots.length = start + slots.length := by
    have := hfit.addressable
    have := hfit.bounded
    unfold saturatingAdd
    omega
  unfold SavedPage.fits savedPage reloads
  dsimp only
  rw [hstop, Nat.add_sub_cancel_left, decide_eq_true (Nat.le_add_right start slots.length),
    Bool.and_true]

/-- The ids of a saved page are the slots it came from. -/
theorem WellFormed.ids_savedPage {l : RoomList} (h : l.WellFormed) {start : Nat} {slots : Page}
    (hpage : l.pages.get? start = some slots) :
    ((l.savedPage (start, slots)).rooms.map fun slot => slot.map (·.id)) = slots := by
  unfold savedPage
  rw [List.map_map]
  refine (List.map_congr_left fun slot hslot => ?_).trans (List.map_id slots)
  cases slot with
  | none => rfl
  | some id =>
      obtain ⟨room, -, hown, hsave⟩ := h.saveSlot_some (held_iff.2 ⟨start, slots, hpage, hslot⟩)
      show (l.saveSlot (some id)).map (·.id) = some id
      rw [hsave, ← hown]
      rfl

/-- The saved rooms of a page. -/
theorem WellFormed.mem_rooms_savedPage {l : RoomList} (h : l.WellFormed) {start : Nat}
    {slots : Page} (hpage : l.pages.get? start = some slots) {s : SavedRoom} :
    s ∈ (l.savedPage (start, slots)).rooms.filterMap id ↔
      some s.id ∈ slots ∧ ∃ room, l.rooms.get? s.id = some room ∧ s = room.save := by
  rw [List.mem_filterMap]
  constructor
  · rintro ⟨saved, hmem, rfl⟩
    obtain ⟨slot, hslot, hsaved⟩ := List.mem_map.1 hmem
    cases slot with
    | none => cases hsaved
    | some id =>
        obtain ⟨room, hroom, hown, hsave⟩ :=
          h.saveSlot_some (held_iff.2 ⟨start, slots, hpage, hslot⟩)
        obtain rfl := Option.some.inj (hsave.symm.trans hsaved)
        subst hown
        exact ⟨hslot, room, hroom, rfl⟩
  · rintro ⟨hslot, room, hroom, hs⟩
    refine ⟨some s, List.mem_map.2 ⟨some s.id, hslot, ?_⟩, rfl⟩
    show (l.rooms.get? s.id).map Room.save = some s
    rw [hroom, hs]
    rfl

/-- Saved rooms of one table, restored into another. -/
theorem get?_foldl_restore (source : Table RoomId Room) (id : RoomId) (ss : List SavedRoom) :
    ∀ rooms : Table RoomId Room,
      (∀ s ∈ ss, ∃ room, source.get? s.id = some room ∧ s = room.save) →
      (ss.foldl (fun rooms s => rooms.insert s.id s.restore) rooms).get? id =
        if ∃ s ∈ ss, s.id = id then (source.get? id).map (·.save.restore)
        else rooms.get? id := by
  intro rooms hsource
  rw [Table.get?_foldl_insert (fun s : SavedRoom => s.id) SavedRoom.restore]
  -- all rooms of one id are saved from one room of the table
  cases hlast : (ss.filter (·.id = id)).getLast? with
  | none =>
      rw [if_neg]
      · rfl
      · rintro ⟨s, hs, hid⟩
        exact List.filter_eq_nil_iff.1 (List.getLast?_eq_none_iff.1 hlast) s hs (decide_eq_true hid)
  | some s =>
      obtain ⟨hs, hid⟩ := List.mem_filter.1 (List.mem_of_getLast? hlast)
      obtain ⟨room, hroom, hsave⟩ := hsource s hs
      have hid : s.id = id := of_decide_eq_true hid
      rw [if_pos ⟨s, hs, hid⟩, ← hid, hroom, hsave]
      rfl

/-! ## §3. All pages. -/

/-- A page that comes back is put where it stood. -/
theorem WellFormed.restorePage_savedPage {l : RoomList} (h : l.WellFormed) {start : Nat}
    {slots : Page} (hpage : l.pages.get? start = some slots) (m : RoomList)
    (hreloads : reloads m.pageSize start slots = true) :
    m.restorePage (l.savedPage (start, slots)) =
      { m with
        pages := m.pages.insert start slots
        rooms := ((l.savedPage (start, slots)).rooms.filterMap id).foldl
          (fun rooms s => rooms.insert s.id s.restore) m.rooms } := by
  unfold RoomList.restorePage
  rw [h.fits_savedPage hpage, if_pos hreloads, h.ids_savedPage hpage]
  rfl

theorem WellFormed.restorePage_other {l : RoomList} (h : l.WellFormed) {start : Nat}
    {slots : Page} (hpage : l.pages.get? start = some slots) (m : RoomList)
    (hreloads : reloads m.pageSize start slots = false) :
    m.restorePage (l.savedPage (start, slots)) = m := by
  unfold RoomList.restorePage
  rw [h.fits_savedPage hpage, hreloads]
  rfl

/-- The rooms of a page come back over those of a table. -/
theorem WellFormed.get?_restoreRooms {l : RoomList} (h : l.WellFormed) {start : Nat}
    {slots : Page} (hpage : l.pages.get? start = some slots) (rooms : Table RoomId Room)
    (id : RoomId) :
    (((l.savedPage (start, slots)).rooms.filterMap fun slot => slot).foldl
        (fun rooms s => rooms.insert s.id s.restore) rooms).get? id =
      if some id ∈ slots then (l.rooms.get? id).map (·.save.restore) else rooms.get? id := by
  have hmem : ∀ s, s ∈ (l.savedPage (start, slots)).rooms.filterMap (fun slot => slot) ↔
      some s.id ∈ slots ∧ ∃ room, l.rooms.get? s.id = some room ∧ s = room.save :=
    fun s => h.mem_rooms_savedPage hpage
  rw [get?_foldl_restore l.rooms id _ rooms fun s hs => ((hmem s).1 hs).2]
  by_cases hslot : some id ∈ slots
  · rw [if_pos hslot, if_pos]
    obtain ⟨room, hroom, hown, -⟩ :=
      h.saveSlot_some (held_iff.2 ⟨start, slots, hpage, hslot⟩)
    refine ⟨room.save, (hmem room.save).2 ⟨?_, room, ?_, rfl⟩, hown⟩
    · exact (congrArg some hown).symm ▸ hslot
    · exact (congrArg l.rooms.get? hown).trans hroom
  · rw [if_neg hslot, if_neg]
    rintro ⟨s, hs, rfl⟩
    exact hslot ((hmem s).1 hs).1

/-- What the restored pages of `l` make of a list: their slots over its own,
their rooms over its own. -/
structure Restored (l m r : RoomList) (es : List (Nat × Page)) : Prop where
  behaviour : r.behaviour = m.behaviour
  pageSize : r.pageSize = m.pageSize
  total : r.total = m.total
  pages : ∀ start, r.pages.get? start =
    ((Entries.get? start es).filter (reloads m.pageSize start)).or (m.pages.get? start)
  rooms : ∀ id, r.rooms.get? id =
    if ∃ e ∈ es, reloads m.pageSize e.1 e.2 = true ∧ some id ∈ e.2 then
      (l.rooms.get? id).map (·.save.restore)
    else m.rooms.get? id

/-- A page that does not come back changes nothing. -/
theorem Restored.skip {l m r : RoomList} {es : List (Nat × Page)} {start : Nat} {slots : Page}
    (h : Restored l m r es) (hnew : Entries.get? start es = none)
    (hreloads : reloads m.pageSize start slots = false) :
    Restored l m r ((start, slots) :: es) := by
  refine ⟨h.behaviour, h.pageSize, h.total, fun s => ?_, fun id => ?_⟩
  · rw [h.pages s, Entries.get?]
    by_cases hs : s = start
    · rw [if_pos hs, hs, hnew, Option.filter, hreloads]
      rfl
    · rw [if_neg hs]
  · rw [h.rooms id]
    simp only [List.mem_cons, exists_eq_or_imp, hreloads, Bool.false_eq_true, false_and, false_or]

/-- A page that comes back before others, which are of other starts. -/
theorem Restored.put {l m r : RoomList} {es : List (Nat × Page)} {start : Nat} {slots : Page}
    (hl : l.WellFormed) (hpage : l.pages.get? start = some slots)
    (hreloads : reloads m.pageSize start slots = true) (hnew : Entries.get? start es = none)
    (h : Restored l (m.restorePage (l.savedPage (start, slots))) r es) :
    Restored l m r ((start, slots) :: es) := by
  rw [hl.restorePage_savedPage hpage m hreloads] at h
  refine ⟨h.behaviour, h.pageSize, h.total, fun s => ?_, fun id => ?_⟩
  · rw [h.pages s, Table.get?_insert, Entries.get?]
    by_cases hs : s = start
    · rw [if_pos hs, if_pos hs, hs, hnew, Option.filter, Option.filter, hreloads]
      rfl
    · rw [if_neg hs, if_neg hs]
  · rw [h.rooms id]
    dsimp only
    have hrooms := hl.get?_restoreRooms hpage m.rooms id
    -- whether this page or a later one brings a room back, it is the same room
    by_cases hlater : ∃ e ∈ es, reloads m.pageSize e.1 e.2 = true ∧ some id ∈ e.2
    · obtain ⟨e, he, hin⟩ := hlater
      rw [if_pos ⟨e, he, hin⟩, if_pos ⟨e, List.mem_cons_of_mem _ he, hin⟩]
    · rw [if_neg hlater]
      refine hrooms.trans ?_
      by_cases hslot : some id ∈ slots
      · have hback : ∃ e ∈ (start, slots) :: es,
            reloads m.pageSize e.1 e.2 = true ∧ some id ∈ e.2 :=
          ⟨(start, slots), List.mem_cons_self, hreloads, hslot⟩
        rw [if_pos hslot, if_pos hback]
      · rw [if_neg hslot, if_neg]
        rintro ⟨e, he, hin⟩
        rcases List.mem_cons.1 he with rfl | he
        · exact hslot hin.2
        · exact hlater ⟨e, he, hin⟩

/-- **Page by page**, in the order of their starts. -/
theorem WellFormed.restored {l : RoomList} (h : l.WellFormed) (es : List (Nat × Page))
    (hsorted : Entries.Sorted es) (hmem : ∀ e ∈ es, e ∈ l.pages.entries) :
    ∀ m : RoomList, Restored l m ((es.map l.savedPage).foldl restorePage m) es := by
  induction es with
  | nil =>
      intro m
      refine ⟨rfl, rfl, rfl, fun start => rfl, fun id => ?_⟩
      rw [if_neg (by simp)]
      rfl
  | cons e rest ih =>
      intro m
      obtain ⟨start, slots⟩ := e
      have hpage : l.pages.get? start = some slots :=
        Table.mem_entries.1 (hmem _ List.mem_cons_self)
      have ih := ih hsorted.tail fun e he => hmem e (List.mem_cons_of_mem _ he)
      -- keys ascend, so no later page is written over this one
      have hnew : Entries.get? start rest = none :=
        Entries.get?_eq_none_of_forall_ne fun x hx => Entries.ne_of_compare_lt (hsorted.head x hx)
      rw [List.map_cons, List.foldl_cons]
      cases hreloads : reloads m.pageSize start slots with
      | true => exact Restored.put h hpage hreloads hnew (ih _)
      | false =>
          rw [h.restorePage_other hpage m hreloads]
          exact (ih m).skip hnew hreloads

/-- **A list that is saved and restored** is the list that comes back. -/
theorem WellFormed.restore_save {l : RoomList} (h : l.WellFormed) (pageSize : Nat) :
    l.save.restore pageSize = l.reloaded pageSize := by
  obtain ⟨hb, hp, ht, hpages, hrooms⟩ := h.restored l.pages.entries l.pages.sorted
    (fun e he => he) { create l.behaviour pageSize with total := l.total }
  have hp : (l.save.restore pageSize).pageSize = max pageSize 1 := hp
  have hpages : (l.save.restore pageSize).pages = (l.reloaded pageSize).pages := by
    -- before the first page there is none, so only restored ones are left
    refine Table.ext fun start => (hpages start).trans ?_
    show _ = (l.pages.filter (reloads (max pageSize 1))).get? start
    rw [Table.get?_filter]
    exact Option.or_none
  have hrooms : (l.save.restore pageSize).rooms = (l.reloaded pageSize).rooms := by
    refine Table.ext fun id => (hrooms id).trans ?_
    -- what a restored page brings back is what the pages that come back hold
    have hheld : (∃ e ∈ l.pages.entries, reloads (max pageSize 1) e.1 e.2 = true ∧ some id ∈ e.2)
        ↔ Held (l.pages.filter (reloads (max pageSize 1))) id := by
      rw [held_iff]
      constructor
      · rintro ⟨⟨start, slots⟩, he, hreloads, hslot⟩
        have hpage := Table.get?_filter_eq_some.2 ⟨Table.mem_entries.1 he, hreloads⟩
        exact ⟨start, slots, hpage, hslot⟩
      · rintro ⟨start, slots, hpage, hslot⟩
        obtain ⟨hpage, hreloads⟩ := Table.get?_filter_eq_some.1 hpage
        exact ⟨(start, slots), Table.mem_entries.2 hpage, hreloads, hslot⟩
    refine Option.ext fun room => ?_
    unfold RoomList.reloaded
    rw [get?_sweep_rooms, get?_withoutTimelines]
    split
    next hback => exact ⟨fun hr => ⟨hr, hheld.1 hback⟩, fun hr => hr.1⟩
    next hback => exact ⟨fun hr => by simp [create] at hr, fun hr => absurd (hheld.2 hr.2) hback⟩
  exact eq_of_fields hb hp ht hpages hrooms

/-- **Under its own page size a list loses its timelines only.** -/
theorem WellFormed.reloaded_self {l : RoomList} (h : l.WellFormed) {pageSize : Nat}
    (hsize : max pageSize 1 = l.pageSize) : l.reloaded pageSize = l.withoutTimelines := by
  -- every page of a well-formed list is a page of its own size
  have hall : l.pages.filter (reloads (max pageSize 1)) = l.pages := by
    refine Table.ext fun start => ?_
    rw [Table.get?_filter]
    cases hpage : l.pages.get? start with
    | none => rfl
    | some slots =>
        have hfit := h.fits start slots hpage
        refine Option.filter_some_pos ?_
        simp only [reloads, hsize, hfit.aligned, hfit.bounded, hfit.addressable, decide_true,
          Bool.and_self]
  refine eq_of_fields rfl hsize rfl hall (Table.ext fun id => Option.ext fun room => ?_)
  unfold RoomList.reloaded
  rw [get?_sweep_rooms, hall]
  constructor
  · intro hr
    exact hr.1
  · intro hr
    -- every room of its table is held
    refine ⟨hr, h.referenced id ?_⟩
    rw [get?_withoutTimelines, Option.map_eq_some_iff] at hr
    obtain ⟨before, hbefore, -⟩ := hr
    exact Table.contains_iff.2 ⟨before, hbefore⟩

end RoomList

end RoomSync.Window
