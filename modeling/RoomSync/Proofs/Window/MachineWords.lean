/-
  RoomSync.Proofs.Window.MachineWords
  ───────────────────────────────────
  **LISTS ON A MACHINE.**

  Indices are counted here in natural numbers, and pages are as long as they
  need to be.  On a machine an index is a word: a sum may pass the greatest
  index, a difference may pass zero, and a page size may be zero.  A page is a
  vector: a slot may be put in past its end, and there may be no room for its
  slots.  Every computation with indices and slots is repeated in this module
  with operations that answer `none` in such a case; the most slots that there
  can be room for are a parameter:

      positionOf?_eq  — no lookup in a well-formed list runs into one
      applyCausal?_eq — no operation does that has room for the slots it asks for
      slotsAsked_le   — which is so for pages of up to half the most slots
      restore?_eq     — nor does a reload, under any page size

  A page's positions are bounded because its whole window is.
-/
import RoomSync.Proofs.Window.Positions
import RoomSync.Window.Saved

namespace RoomSync.Window

/-! ## §1. Words and vectors. -/

/-- A sum, unless it passes the greatest index. -/
def add? (a b : Nat) : Option Nat := if a + b ≤ maxIndex then some (a + b) else none

/-- A difference, unless it passes zero. -/
def sub? (a b : Nat) : Option Nat := if b ≤ a then some (a - b) else none

/-- A remainder, unless the divisor is zero. -/
def rem? (a b : Nat) : Option Nat := if b = 0 then none else some (a % b)

/-- A slot put into a page, unless the offset is past its end. -/
def insertAt? (slots : Page) (offset : Nat) (slot : Option RoomId) : Option Page :=
  if offset ≤ slots.length then some (slots.take offset ++ slot :: slots.drop offset) else none

/-- Room for so many slots, unless there can be none. -/
def room? (most slots : Nat) : Option Nat := if slots ≤ most then some slots else none

/-- The room of a vector that has to hold so many slots: what it has if that is enough,
else twice as much, and four slots at least. -/
def grow? (most capacity needed : Nat) : Option Nat :=
  if needed ≤ capacity then some capacity else room? most (max (max (2 * capacity) needed) 4)

/-- A vector grows to less than twice what it has to hold. -/
theorem exists_grow? {most : Nat} (capacity : Nat) {needed : Nat} (hmost : 4 ≤ most)
    (hneeded : needed ≤ most) (htwice : 2 * (needed - 1) ≤ most) :
    ∃ grown, grow? most capacity needed = some grown := by
  unfold grow? room?
  split
  next => exact ⟨capacity, rfl⟩
  next hgt => exact ⟨_, if_pos (by omega)⟩

namespace RoomList

/-! ## §2. Looking up. -/

def locate? (l : RoomList) (index : Nat) : Option (Nat × Nat) := do
  let rest ← rem? index l.pageSize
  let start ← sub? index rest
  let offset ← sub? index start
  return (start, offset)

def roomIdAt? (l : RoomList) (index : Nat) : Option (Option RoomId) := do
  let (start, offset) ← l.locate? index
  return ((l.pages.get? start).bind (·[offset]?)).join

/-- The first index that holds a room, among these pages. -/
def positionAmong? (id : RoomId) : List (Nat × Page) → Option (Option Nat)
  | [] => some none
  | (start, slots) :: rest =>
      match slots.findIdx? (· == some id) with
      | none => positionAmong? id rest
      | some offset => (add? start offset).map some

def positionOf? (l : RoomList) (id : RoomId) : Option (Option Nat) :=
  positionAmong? id l.pages.entries

theorem Sound.locate?_eq {l : RoomList} (h : l.Sound) (index : Nat) :
    l.locate? index = some (l.locate index) := by
  have hpos := h.pageSize_pos
  -- the remainder is no greater than the index, nor is what it leaves
  have hmod := Nat.mod_le index l.pageSize
  unfold locate? rem? sub? locate
  simp only [if_neg (by omega : ¬ l.pageSize = 0), Option.bind_eq_bind, Option.bind_some,
    if_pos hmod, if_pos (Nat.sub_le index (index % l.pageSize)), Option.pure_def,
    Nat.sub_sub_self hmod]

theorem Sound.roomIdAt?_eq {l : RoomList} (h : l.Sound) (index : Nat) :
    l.roomIdAt? index = some (l.roomIdAt index) := by
  unfold roomIdAt?
  rw [h.locate?_eq]
  rfl

theorem positionAmong?_eq (id : RoomId) (es : List (Nat × Page))
    (hfits : ∀ e ∈ es, e.1 + e.2.length ≤ maxIndex) :
    positionAmong? id es =
      some (es.findSome? fun (start, slots) =>
        (slots.findIdx? (· == some id)).map (start + ·)) := by
  induction es with
  | nil => rfl
  | cons e rest ih =>
      obtain ⟨start, slots⟩ := e
      rw [positionAmong?, List.findSome?_cons]
      dsimp only
      cases hfound : slots.findIdx? (· == some id) with
      | none => exact ih fun e he => hfits e (List.mem_cons_of_mem _ he)
      | some offset =>
          -- a slot that was found lies before the end of its page
          have hlt := (List.findIdx?_eq_some_iff_getElem.1 hfound).1
          have hstart : start + slots.length ≤ maxIndex := hfits _ List.mem_cons_self
          show (add? start offset).map some = some (some (start + offset))
          unfold add?
          rw [if_pos (by omega)]
          rfl

/-- No position in a sound list passes the greatest index, also not when
some of its pages are gone. -/
theorem Sound.positionOf?_eq {l m : RoomList} (h : l.Sound)
    (hsub : ∀ e ∈ m.pages.entries, e ∈ l.pages.entries) (id : RoomId) :
    m.positionOf? id = some (m.positionOf id) := by
  refine positionAmong?_eq id _ fun e he => ?_
  have hfit := h.fits e.1 e.2 (Table.mem_entries.1 (hsub e he))
  have hbounded := hfit.bounded
  have haddress := hfit.addressable
  omega

/-! ## §3. INSERT, UPDATE and DELETE. -/

variable (user : UserId)

/-- The page grows up to the offset, and then by the slot that is put in. -/
def insertSlot? (most capacity : Nat) (slots : Page) (offset pageSize : Nat) (id : RoomId) :
    Option Page := do
  let capacity ← grow? most capacity (max slots.length offset)
  let padded := slots ++ List.replicate (offset - slots.length) none
  let _ ← grow? most capacity (padded.length + 1)
  let grown ← insertAt? padded offset (some id)
  return if pageSize < grown.length then grown.dropLast else grown

def applyInsert? (most capacity : Nat) (l : RoomList) (index : Nat) (p : Payload) :
    Option (RoomList × Except ListFault (List Touched)) := do
  let (start, offset) ← l.locate? index
  if start + l.pageSize ≤ maxIndex then
    match p.roomId with
    | none => return (l.invalidatePage start, .error (.insertWithoutRoom index))
    | some id =>
        let l := l.clear id
        let slots ← insertSlot? most capacity ((l.pages.get? start).getD []) offset l.pageSize id
        let l := { l with pages := l.pages.insert start slots }
        return (sweep (l.materialize user (l.rooms.get? id) id p), .ok [⟨id, p⟩])
  else return (l.invalidate (start, maxIndex), .error (.unaddressable index))

def applyUpdate? (l : RoomList) (index : Nat) (p : Payload) :
    Option (RoomList × Except ListFault (List Touched)) := do
  let (start, _) ← l.locate? index
  if start + l.pageSize ≤ maxIndex then
    match ← l.roomIdAt? index with
    | none => return (l.invalidatePage start, .error (.updateOfUnknown index))
    | some id =>
        let claimed := p.roomId.getD id
        if claimed = id then
          return (l.materialize user (l.rooms.get? id) id p, .ok [⟨id, p⟩])
        else return (l.invalidatePage start, .error (.updateOfOther index claimed id))
  else return (l.invalidate (start, maxIndex), .error (.unaddressable index))

def applyDelete? (l : RoomList) (index : Nat) :
    Option (RoomList × Except ListFault (List Touched)) := do
  let (start, offset) ← l.locate? index
  if start + l.pageSize ≤ maxIndex then
    match (l.pages.get? start).bind (·[offset]?) with
    | none => return (l.invalidatePage start, .error (.deleteOfUnknown index))
    | some none => return (l, .ok [])
    | some (some _) =>
        let slots := ((l.pages.get? start).getD []).set offset none
        return (sweep { l with pages := l.pages.insert start slots }, .ok [])
  else return (l.invalidate (start, maxIndex), .error (.unaddressable index))

/-- A gap before the offset is filled, so the offset is never past the end; and the page
grows at most to twice what it holds up to there. -/
theorem insertSlot?_eq {most capacity : Nat} {slots : Page} {offset : Nat} (hmost : 4 ≤ most)
    (hroom : 2 * max slots.length offset ≤ most) (pageSize : Nat) (id : RoomId) :
    insertSlot? most capacity slots offset pageSize id =
      some (insertSlot slots offset pageSize id) := by
  have hpad : (slots ++ List.replicate (offset - slots.length) none).length =
      max slots.length offset := by
    rw [List.length_append, List.length_replicate]
    omega
  obtain ⟨capacity', hgap⟩ := exists_grow? capacity hmost
    (show max slots.length offset ≤ most by omega) (by omega)
  obtain ⟨capacity'', hslot⟩ := exists_grow? capacity' hmost
    (show max slots.length offset + 1 ≤ most by omega) (by omega)
  unfold insertSlot? insertAt?
  rw [hgap]
  simp only [Option.bind_eq_bind, Option.bind_some, hpad, hslot]
  rw [if_pos (by omega)]
  rfl

/-- To clear a room leaves the pages as long as they are. -/
theorem length_page_clear (l : RoomList) (id : RoomId) (start : Nat) :
    (((l.clear id).pages.get? start).getD []).length =
      ((l.pages.get? start).getD []).length := by
  rw [get?_clear_pages]
  cases l.pages.get? start with
  | none => rfl
  | some slots => exact List.length_map _

theorem slotsAsked_insert {l : RoomList} {list index : Nat} {p : Payload} {id : RoomId}
    (haddress : (l.locate index).1 + l.pageSize ≤ maxIndex) (hroom : p.roomId = some id) :
    l.slotsAsked (.insert list index p) =
      2 * max (l.pageAt index).length (l.locate index).2 := by
  simp [slotsAsked, isAddressable, haddress, hroom]

theorem Sound.applyInsert?_eq {l : RoomList} (h : l.Sound) {most : Nat} (capacity : Nat)
    (hmost : 4 ≤ most) {list index : Nat} {p : Payload}
    (hroom : l.slotsAsked (.insert list index p) ≤ most) :
    l.applyInsert? user most capacity index p = some (l.applyInsert user index p) := by
  unfold applyInsert? RoomList.applyInsert isAddressable
  simp only [h.locate?_eq, Option.bind_eq_bind, Option.bind_some, decide_eq_true_eq]
  split
  next haddress =>
    cases hid : p.roomId with
    | none => rfl
    | some id =>
        dsimp only
        rw [slotsAsked_insert haddress hid, pageAt, ← length_page_clear l id] at hroom
        rw [insertSlot?_eq hmost hroom]
        rfl
  next => rfl

theorem Sound.applyUpdate?_eq {l : RoomList} (h : l.Sound) (index : Nat) (p : Payload) :
    l.applyUpdate? user index p = some (l.applyUpdate user index p) := by
  unfold applyUpdate? RoomList.applyUpdate isAddressable
  simp only [h.locate?_eq, h.roomIdAt?_eq, Option.bind_eq_bind, Option.bind_some,
    decide_eq_true_eq]
  split
  next =>
    cases l.roomIdAt index with
    | none => rfl
    | some id =>
        dsimp only
        split <;> rfl
  next => rfl

theorem Sound.applyDelete?_eq {l : RoomList} (h : l.Sound) (index : Nat) :
    l.applyDelete? index = some (l.applyDelete index) := by
  unfold applyDelete? RoomList.applyDelete isAddressable slot?
  simp only [h.locate?_eq, Option.bind_eq_bind, Option.bind_some, decide_eq_true_eq]
  split
  next =>
    cases (l.pages.get? (l.locate index).1).bind (·[(l.locate index).2]?) with
    | none => rfl
    | some slot => cases slot <;> rfl
  next => rfl

/-! ## §4. SYNC. -/

def fits? (l : RoomList) (range : Nat × Nat) : Option Bool :=
  if range.2 ≤ range.1 then some false
  else do
    let rest ← rem? range.1 l.pageSize
    if rest = 0 then
      let width ← sub? range.2 range.1
      return decide (width ≤ l.pageSize) && decide (range.1 + l.pageSize ≤ maxIndex)
    else return false

/-- The rooms that no page holds, among these. -/
def orphans? (l : RoomList) : List RoomId → Option (List RoomId)
  | [] => some []
  | id :: rest => do
      let position ← l.positionOf? id
      let others ← l.orphans? rest
      return if position.isSome then others else id :: others

def beginRebuild? (l : RoomList) (start : Nat) : Option Rebuild := do
  let old := ((l.pages.get? start).getD []).filterMap id
  let l := { l with pages := l.pages.erase start }
  let orphans ← l.orphans? old
  return {
    list := { l with rooms := l.rooms.filter fun id _ => !orphans.contains id }
    detached := l.rooms.filter fun id _ => orphans.contains id }

/-- Room for the whole window is asked for before its rooms are gone through. -/
def applySync? (most : Nat) (l : RoomList) (range : Nat × Nat) (rooms : List (Option Payload)) :
    Option (RoomList × Except ListFault (List Touched)) := do
  if ← l.fits? range then
    let width ← sub? range.2 range.1
    let begun ← l.beginRebuild? range.1
    let _ ← room? most width
    let built := (rooms.take width).foldl (Rebuild.place user) begun
    return (built.finish range.1 width, .ok built.touched)
  else return (l.invalidate range, .error (.misfit range.1 range.2 l.pageSize))

theorem Sound.fits?_eq {l : RoomList} (h : l.Sound) (range : Nat × Nat) :
    l.fits? range = some (l.fits range) := by
  have hpos := h.pageSize_pos
  unfold fits? RoomList.fits rem? sub?
  rw [if_neg (by omega : ¬ l.pageSize = 0)]
  -- the width is taken only of a window that is not empty
  by_cases hle : range.2 ≤ range.1
  · rw [if_pos hle, decide_eq_false (by omega : ¬ range.1 < range.2)]
    rfl
  · rw [if_neg hle, if_pos (by omega : range.1 ≤ range.2),
      decide_eq_true (by omega : range.1 < range.2)]
    simp only [Option.bind_eq_bind, Option.bind_some]
    by_cases halign : range.1 % l.pageSize = 0
    · rw [if_pos halign, decide_eq_true halign]
      rfl
    · rw [if_neg halign, decide_eq_false halign]
      rfl

theorem orphans?_eq {l : RoomList} (hpos : ∀ id, l.positionOf? id = some (l.positionOf id))
    (ids : List RoomId) : l.orphans? ids = some (ids.filter fun id => !l.holds id) := by
  induction ids with
  | nil => rfl
  | cons id rest ih =>
      unfold orphans?
      rw [hpos, ih, List.filter_cons]
      show some _ = some _
      unfold holds
      cases l.positionOf id <;> rfl

theorem contains_filter_not_holds (l : RoomList) (ids : List RoomId) (id : RoomId) :
    (ids.filter fun id => !l.holds id).contains id = (ids.contains id && !l.holds id) := by
  rw [Bool.eq_iff_iff, List.contains_iff_mem, List.mem_filter, Bool.and_eq_true,
    List.contains_iff_mem]

/-- The rooms of the old page are looked for where that page is gone. -/
theorem Sound.beginRebuild?_eq {l : RoomList} (h : l.Sound) (start : Nat) :
    l.beginRebuild? start = some (l.beginRebuild start) := by
  -- rooms are looked for in the list without the page
  have hpos := h.positionOf?_eq (m := { l with pages := l.pages.erase start })
    fun e he => (List.mem_filter.1 he).1
  unfold beginRebuild? RoomList.beginRebuild
  dsimp only
  rw [orphans?_eq hpos]
  simp only [Option.bind_eq_bind, Option.bind_some, contains_filter_not_holds, Option.pure_def]

theorem slotsAsked_sync {l : RoomList} {list : Nat} {range : Nat × Nat}
    {rooms : List (Option Payload)} (hfits : l.fits range = true) :
    l.slotsAsked (.sync list range rooms) = range.2 - range.1 := if_pos hfits

theorem Sound.applySync?_eq {l : RoomList} (h : l.Sound) {most list : Nat} {range : Nat × Nat}
    {rooms : List (Option Payload)} (hroom : l.slotsAsked (.sync list range rooms) ≤ most) :
    l.applySync? user most range rooms = some (l.applySync user range rooms) := by
  unfold applySync? RoomList.applySync
  rw [h.fits?_eq]
  simp only [Option.bind_eq_bind, Option.bind_some]
  split
  next hfits =>
    have hlt := ((l.fits_iff range).1 hfits).1
    rw [slotsAsked_sync hfits] at hroom
    unfold sub? room?
    rw [if_pos (by omega : range.1 ≤ range.2), h.beginRebuild?_eq]
    simp only [Option.bind_some, if_pos hroom, Option.pure_def]
  next => rfl

/-! ## §5. Operations and reloads. -/

/-- An operation, where there is room for at most so many slots in a page, and for so many
in the page it is about. -/
def applyCausal? (most capacity : Nat) (l : RoomList) :
    Operation → Option (RoomList × Except ListFault (List Touched))
  | .sync _ range rooms => l.applySync? user most range rooms
  | .insert _ index p => l.applyInsert? user most capacity index p
  | .update _ index p => l.applyUpdate? user index p
  | .delete _ index => l.applyDelete? index
  | .invalidate _ range => some (l.invalidate range, .ok [])

/-- **No operation leaves the words or its page**, whether it is accepted or refused, if
there is room for the slots it asks for. -/
theorem Sound.applyCausal?_eq {l : RoomList} (h : l.Sound) {most : Nat} (capacity : Nat)
    (hmost : 4 ≤ most) {op : Operation} (hroom : l.slotsAsked op ≤ most) :
    l.applyCausal? user most capacity op = some (l.applyCausal user op) := by
  cases op with
  | sync list range rooms => exact h.applySync?_eq user hroom
  | insert list index p => exact h.applyInsert?_eq user capacity hmost hroom
  | update list index p => exact h.applyUpdate?_eq user index p
  | delete list index => exact h.applyDelete?_eq index
  | invalidate list range => rfl

/-- **No operation asks for more slots than two pages have.** -/
theorem Sound.slotsAsked_le {l : RoomList} (h : l.Sound) (op : Operation) :
    l.slotsAsked op ≤ 2 * l.pageSize := by
  cases op with
  | sync list range rooms =>
      show (if l.fits range then range.2 - range.1 else 0) ≤ _
      split
      next hfits =>
        have hwidth := ((l.fits_iff range).1 hfits).2.2.1
        omega
      next => exact Nat.zero_le _
  | insert list index p =>
      have hoffset : (l.locate index).2 < l.pageSize := Nat.mod_lt _ h.pageSize_pos
      have hlength : (l.pageAt index).length ≤ l.pageSize := by
        unfold pageAt
        cases hpage : l.pages.get? (l.locate index).1 with
        | none => exact Nat.zero_le _
        | some slots => exact (h.fits _ slots hpage).bounded
      show (if _ then 2 * max (l.pageAt index).length (l.locate index).2 else 0) ≤ _
      split
      next => exact Nat.mul_le_mul_left 2 (Nat.max_le.2 ⟨hlength, Nat.le_of_lt hoffset⟩)
      next => exact Nat.zero_le _
  | update | delete | invalidate => exact Nat.zero_le _

/-- Whether a saved window is a page of this size. -/
def savedFits? (p : SavedPage) (pageSize : Nat) : Option Bool := do
  let rest ← rem? p.range.1 pageSize
  if rest = 0 then
    if p.range.1 ≤ p.range.2 then
      let width ← sub? p.range.2 p.range.1
      return decide (width ≤ pageSize) && decide (p.range.1 + pageSize ≤ maxIndex)
    else return false
  else return false

def restorePage? (most : Nat) (l : RoomList) (p : SavedPage) : Option RoomList := do
  if ← savedFits? p l.pageSize then
    let _ ← room? most p.rooms.length
    return { l with
      pages := l.pages.insert p.range.1 (p.rooms.map fun slot => slot.map (·.id))
      rooms := (p.rooms.filterMap id).foldl (fun rooms s => rooms.insert s.id s.restore) l.rooms }
  else return l

def restorePages? (most : Nat) : List SavedPage → RoomList → Option RoomList
  | [], l => some l
  | p :: rest, l => do restorePages? most rest (← l.restorePage? most p)

def restore? (most : Nat) (s : SavedList) (pageSize : Nat) : Option RoomList :=
  restorePages? most s.pages { create s.behaviour pageSize with total := s.total }

theorem savedFits?_eq (p : SavedPage) {pageSize : Nat} (hpos : 0 < pageSize) :
    savedFits? p pageSize = some (p.fits pageSize) := by
  unfold savedFits? SavedPage.fits rem? sub?
  rw [if_neg (by omega : ¬ pageSize = 0)]
  simp only [Option.bind_eq_bind, Option.bind_some]
  by_cases halign : p.range.1 % pageSize = 0
  · rw [if_pos halign, decide_eq_true halign]
    by_cases hle : p.range.1 ≤ p.range.2
    · rw [if_pos hle, if_pos hle, decide_eq_true hle]
      rfl
    · rw [if_neg hle, decide_eq_false hle]
      rfl
  · rw [if_neg halign, decide_eq_false halign]
    rfl

theorem restorePage?_eq {most : Nat} {l : RoomList} (hpos : 0 < l.pageSize) {p : SavedPage}
    (hroom : p.rooms.length ≤ most) : l.restorePage? most p = some (l.restorePage p) := by
  unfold restorePage? RoomList.restorePage room?
  rw [savedFits?_eq p hpos, if_pos hroom]
  simp only [Option.bind_eq_bind, Option.bind_some]
  split <;> rfl

theorem pageSize_restorePage (l : RoomList) (p : SavedPage) :
    (l.restorePage p).pageSize = l.pageSize := by
  unfold RoomList.restorePage
  split <;> rfl

theorem restorePages?_eq {most : Nat} {ps : List SavedPage}
    (hroom : ∀ p ∈ ps, p.rooms.length ≤ most) :
    ∀ l : RoomList, 0 < l.pageSize → restorePages? most ps l = some (ps.foldl restorePage l) := by
  induction ps with
  | nil =>
      intro l _
      rfl
  | cons p rest ih =>
      intro l hpos
      rw [List.forall_mem_cons] at hroom
      -- a restored page leaves the page size, so the divisor stays positive
      rw [restorePages?, restorePage?_eq hpos hroom.1, List.foldl_cons]
      exact ih hroom.2 _ (pageSize_restorePage l p ▸ hpos)

/-- **No reload leaves the words**, whatever is saved in pages that a vector can hold. -/
theorem restore?_eq {most : Nat} {s : SavedList} (hroom : ∀ p ∈ s.pages, p.rooms.length ≤ most)
    (pageSize : Nat) : restore? most s pageSize = some (s.restore pageSize) := by
  refine restorePages?_eq hroom _ ?_
  show 0 < max pageSize 1
  omega

/-- The pages of a list are saved slot by slot. -/
theorem length_save {l : RoomList} {most : Nat}
    (hpages : ∀ start slots, l.pages.get? start = some slots → slots.length ≤ most) :
    ∀ p ∈ l.save.pages, p.rooms.length ≤ most := by
  refine List.forall_mem_map.2 fun e he => ?_
  show (e.2.map l.saveSlot).length ≤ most
  rw [List.length_map]
  exact hpages e.1 e.2 (Table.mem_entries.1 he)

end RoomList

end RoomSync.Window
