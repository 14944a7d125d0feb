/-
  RoomSync.Proofs.Window.Requests
  ───────────────────────────────
  **WHAT IS ASKED FOR CAN BE ANSWERED.**

  A list asks for the first pages of its total, page after page from index 0 on,
  and for the first page if it has no total yet.  Two things cut this short: the
  most windows that are asked for at once, and the greatest index, which no window
  passes.  How many windows that leaves is `requestedPages`:

      requestRanges_eq    — the windows, as multiples of the page size
      requestRanges?_eq   — computed on words they are the same
      filter_requestRanges — the one window that an index lies in
      ok_of_not_refused   — what does not misfit is not refused
      Reachable.accepts   — and accepted if there is room for it, also on words
      asked_is_answerable — all of it, with the answers that any list takes

  A window may be wider than any vector is long.  What comes for it is not refused
  then either, but it may find no room (`sync_finds_no_room`).
-/
import RoomSync.Proofs.Window.Refusals
import Mathlib.Data.List.Nodup

namespace RoomSync.Window

namespace RoomList

/-! ## §1. The windows. -/

/-- How many windows are asked for: the pages that the total needs, cut off at the
most that are asked for at once and at the greatest index. -/
def requestedPages (l : RoomList) : Nat :=
  min (min (max ((l.total + l.pageSize - 1) / l.pageSize) 1) maxRequestedPages)
    (maxIndex / l.pageSize)

/-- The first numbers that are below a bound. -/
theorem takeWhile_range_lt (k n : Nat) :
    (List.range k).takeWhile (fun i => decide (i < n)) = List.range (min k n) := by
  induction k generalizing n with
  | zero => exact congrArg List.range (Nat.zero_min n).symm
  | succ k ih =>
      rw [List.range_succ_eq_map, List.takeWhile_cons]
      cases n with
      | zero => exact congrArg List.range (Nat.min_zero (k + 1)).symm
      | succ n =>
          -- behind zero, the numbers below the bound are those below one less
          have hbehind : ((fun i => decide (i < n + 1)) ∘ Nat.succ) = fun i => decide (i < n) :=
            funext fun i => decide_eq_decide.2 Nat.succ_lt_succ_iff
          rw [if_pos (decide_eq_true (Nat.succ_pos n)), List.takeWhile_map, hbehind, ih,
            Nat.add_min_add_right, List.range_succ_eq_map]

variable {l : RoomList}

/-- A page can be addressed if it ends at or before the greatest index. -/
theorem page_le_maxIndex_iff (hsize : 0 < l.pageSize) (i : Nat) :
    i * l.pageSize + l.pageSize ≤ maxIndex ↔ i < maxIndex / l.pageSize := by
  rw [← Nat.succ_mul]
  exact (Nat.le_div_iff_mul_le hsize).symm

/-- **The windows that are asked for** are pages, one after the other. -/
theorem requestRanges_eq (hsize : 0 < l.pageSize) :
    l.requestRanges =
      (List.range l.requestedPages).map fun i => (i * l.pageSize, (i + 1) * l.pageSize) := by
  have hstarts : ((fun s => decide (s + l.pageSize ≤ maxIndex)) ∘ fun i => i * l.pageSize)
      = fun i => decide (i < maxIndex / l.pageSize) := by
    funext i
    exact decide_eq_decide.2 (page_le_maxIndex_iff hsize i)
  unfold requestRanges
  dsimp only
  rw [List.takeWhile_map, hstarts, takeWhile_range_lt, List.map_map]
  refine List.map_congr_left fun i _ => ?_
  show (i * l.pageSize, i * l.pageSize + l.pageSize) = _
  rw [← Nat.succ_mul]

theorem mem_requestRanges (hsize : 0 < l.pageSize) {w : Nat × Nat} :
    w ∈ l.requestRanges ↔
      ∃ i, i < l.requestedPages ∧ w = (i * l.pageSize, (i + 1) * l.pageSize) := by
  rw [requestRanges_eq hsize, List.mem_map]
  exact exists_congr fun i => and_congr List.mem_range eq_comm

/-- There is room for one page, so at least one window is asked for. -/
theorem requestedPages_pos (hsize : 0 < l.pageSize) (hword : l.pageSize ≤ maxIndex) :
    1 ≤ l.requestedPages := by
  have hone : 1 ≤ maxIndex / l.pageSize := (Nat.le_div_iff_mul_le hsize).2 (by omega)
  unfold requestedPages maxRequestedPages
  omega

theorem requestedPages_le (l : RoomList) : l.requestedPages ≤ maxRequestedPages := by
  unfold requestedPages
  omega

/-- Every window that is asked for is a whole page that can be addressed. -/
theorem page_of_mem_requestRanges (hsize : 0 < l.pageSize) {w : Nat × Nat}
    (hw : w ∈ l.requestRanges) :
    w.1 % l.pageSize = 0 ∧ w.2 = w.1 + l.pageSize ∧ w.2 ≤ maxIndex := by
  obtain ⟨i, hi, rfl⟩ := (mem_requestRanges hsize).1 hw
  have hlt : i < maxIndex / l.pageSize := Nat.lt_of_lt_of_le hi (Nat.min_le_right _ _)
  refine ⟨Nat.mul_mod_left _ _, Nat.succ_mul _ _, ?_⟩
  exact (Nat.succ_mul i l.pageSize).symm ▸ (page_le_maxIndex_iff hsize i).2 hlt

/-- Each window ends where the next one begins, or before. -/
theorem pairwise_requestRanges (hsize : 0 < l.pageSize) :
    l.requestRanges.Pairwise fun v w => v.2 ≤ w.1 := by
  rw [requestRanges_eq hsize, List.pairwise_map]
  exact List.pairwise_lt_range.imp fun hlt => Nat.mul_le_mul_right _ hlt

/-! ## §2. On words. -/

/-- A product, unless it passes the greatest index. -/
def mul? (a b : Nat) : Option Nat := if a * b ≤ maxIndex then some (a * b) else none

/-- A quotient rounded up, unless the divisor is zero. -/
def ceilDiv? (a b : Nat) : Option Nat := do
  let rest ← rem? a b
  if rest = 0 then return a / b
  else add? (a / b) 1

/-- The results of a function, up to the first item for which it has none. -/
def collectWhile {α β : Type} (f : α → Option β) : List α → List β
  | [] => []
  | a :: rest =>
      match f a with
      | none => []
      | some b => b :: collectWhile f rest

/-- The window of a page by its number. -/
def windowAt? (pageSize i : Nat) : Option (Nat × Nat) := do
  let start ← mul? i pageSize
  let stop ← add? start pageSize
  return (start, stop)

def requestRanges? (l : RoomList) : Option (List (Nat × Nat)) := do
  let needed ← ceilDiv? l.total l.pageSize
  return collectWhile (windowAt? l.pageSize) (List.range (min (max needed 1) maxRequestedPages))

/-- A quotient is smaller than the number unless the divisor is one, and then there
is nothing to round. -/
theorem ceilDiv?_eq {a b : Nat} (hb : 0 < b) (ha : a ≤ maxIndex) :
    ceilDiv? a b = some ((a + b - 1) / b) := by
  have hsplit := Nat.div_add_mod' a b
  have hrest := Nat.mod_lt a hb
  unfold ceilDiv? rem? add?
  rw [if_neg (Nat.ne_of_gt hb)]
  simp only [Option.bind_eq_bind, Option.bind_some]
  by_cases hzero : a % b = 0
  · rw [if_pos hzero]
    refine congrArg some (Eq.symm ((Nat.div_eq_iff hb).2 ?_))
    omega
  · have hsmall : a / b < a := Nat.div_lt_self (by omega) (by omega)
    rw [if_neg hzero, if_pos (by omega)]
    refine congrArg some (Eq.symm ((Nat.div_eq_iff hb).2 ?_))
    rw [Nat.succ_mul]
    omega

theorem collectWhile_eq {α β : Type} {f : α → Option β} {fits : α → Bool} {g : α → β}
    (hf : ∀ a, f a = if fits a then some (g a) else none) (as : List α) :
    collectWhile f as = (as.takeWhile fits).map g := by
  induction as with
  | nil => rfl
  | cons a rest ih =>
      rw [collectWhile, hf a, List.takeWhile_cons]
      cases fits a with
      | false => rfl
      | true => exact congrArg (g a :: ·) ih

/-- If the end of a page is a word, so is its start. -/
theorem windowAt?_eq (pageSize i : Nat) :
    windowAt? pageSize i =
      if decide (i * pageSize + pageSize ≤ maxIndex) then
        some (i * pageSize, i * pageSize + pageSize)
      else none := by
  unfold windowAt? mul? add?
  by_cases hstop : i * pageSize + pageSize ≤ maxIndex
  · rw [if_pos (by omega), if_pos (decide_eq_true hstop)]
    simp only [Option.bind_eq_bind, Option.bind_some, if_pos hstop, Option.pure_def]
  · rw [decide_eq_false hstop]
    -- the end passes the greatest index, whether or not the start does
    split
    next =>
      simp only [Option.bind_eq_bind, Option.bind_some, if_neg hstop, Option.bind_none]
      rfl
    next => rfl

/-- **On words the same windows are asked for.** -/
theorem requestRanges?_eq (hsize : 0 < l.pageSize) (htotal : l.total ≤ maxIndex) :
    l.requestRanges? = some l.requestRanges := by
  unfold requestRanges? requestRanges
  rw [ceilDiv?_eq hsize htotal]
  simp only [Option.bind_eq_bind, Option.bind_some, Option.pure_def]
  rw [collectWhile_eq (windowAt?_eq l.pageSize), List.takeWhile_map, List.map_map]
  rfl

/-! ## §3. The window of an index. -/

/-- An index lies in the page with the number that its quotient is. -/
theorem page_contains_iff (hsize : 0 < l.pageSize) (index i : Nat) :
    (i * l.pageSize ≤ index ∧ index < (i + 1) * l.pageSize) ↔ i = index / l.pageSize := by
  rw [Nat.succ_mul, eq_comm, Nat.div_eq_iff hsize]
  omega

theorem window_eq (l : RoomList) (index : Nat) :
    l.window index =
      (index / l.pageSize * l.pageSize, (index / l.pageSize + 1) * l.pageSize) := by
  have hstart : index - index % l.pageSize = index / l.pageSize * l.pageSize := by
    have := Nat.div_add_mod' index l.pageSize
    omega
  show (index - index % l.pageSize, index - index % l.pageSize + l.pageSize) = _
  rw [hstart, Nat.succ_mul]

/-- The page of an index is asked for if the index counts, is not past the most
windows, and its page can be addressed. -/
theorem page_lt_requestedPages (hsize : 0 < l.pageSize) {index : Nat} (hindex : index < l.total)
    (hmost : index < maxRequestedPages * l.pageSize) (hend : (l.window index).2 ≤ maxIndex) :
    index / l.pageSize < l.requestedPages := by
  have hle := Nat.div_mul_le_self index l.pageSize
  have hneeded : index / l.pageSize < (l.total + l.pageSize - 1) / l.pageSize := by
    refine (Nat.le_div_iff_mul_le hsize).2 ?_
    rw [Nat.succ_mul]
    omega
  have hpages : index / l.pageSize < maxRequestedPages := (Nat.div_lt_iff_lt_mul hsize).2 hmost
  have haddress : index / l.pageSize < maxIndex / l.pageSize := by
    rw [window_eq] at hend
    exact (Nat.le_div_iff_mul_le hsize).2 hend
  unfold requestedPages
  omega

/-- **Of the windows that are asked for, an index lies in that of its own page and
in no other.** -/
theorem filter_requestRanges (hsize : 0 < l.pageSize) {index : Nat}
    (hpage : index / l.pageSize < l.requestedPages) :
    (l.requestRanges.filter fun w => decide (w.1 ≤ index ∧ index < w.2)) = [l.window index] := by
  have hown : ((fun w : Nat × Nat => decide (w.1 ≤ index ∧ index < w.2))
      ∘ fun i => (i * l.pageSize, (i + 1) * l.pageSize))
      = fun i => decide (i = index / l.pageSize) := by
    funext i
    exact decide_eq_decide.2 (page_contains_iff hsize index i)
  rw [requestRanges_eq hsize, List.filter_map, hown, List.filter_eq,
    List.count_eq_one_of_mem List.nodup_range (List.mem_range.2 hpage), window_eq]
  rfl

/-! ## §4. Answers. -/

/-- An operation is accepted, and carried out on words it has the same result, whatever
room the page has that it is about. -/
def Accepts (l : RoomList) (user : UserId) (op : Operation) : Prop :=
  ∃ l' touched, l.carryOut? user op = some (l', .ok touched)
    ∧ ∀ capacity, l.applyCausal? user maxSlots capacity op = some (l', .ok touched)

/-- What is not to be refused is not refused. -/
theorem ok_of_not_refused (user : UserId) {op : Operation}
    (hfits : ∀ fault, ¬ l.Refused op fault) :
    ∃ l' touched, l.applyCausal user op = (l', .ok touched)
      ∧ l.apply user op = (l', .ok touched) := by
  cases hcausal : l.applyCausal user op with
  | mk l' answer =>
      cases answer with
      | error fault =>
          exact absurd (refused_of_error user (congrArg Prod.snd hcausal)) (hfits fault)
      | ok touched =>
          refine ⟨l', touched, rfl, ?_⟩
          unfold RoomList.apply
          rw [hcausal]

/-- And it is accepted if there is room for the slots it asks for. -/
theorem Reachable.accepts (h : Reachable l) (user : UserId) {op : Operation}
    (hfits : ∀ fault, ¬ l.Refused op fault) (hroom : l.slotsAsked op ≤ maxSlots) :
    l.Accepts user op := by
  obtain ⟨l', touched, hcausal, happly⟩ := ok_of_not_refused user hfits
  refine ⟨l', touched, (if_pos hroom).trans (congrArg some happly), fun capacity => ?_⟩
  rw [h.wellFormed.applyCausal?_eq user capacity (by decide) hroom, hcausal]

/-- A SYNC is not refused if its window is the beginning of an addressable page. -/
theorem not_refused_sync {list start stop : Nat} {rooms : List (Option Payload)}
    (haligned : start % l.pageSize = 0) (hend : start + l.pageSize ≤ maxIndex)
    (hlt : start < stop) (hstop : stop ≤ start + l.pageSize) (fault : ListFault) :
    ¬ l.Refused (.sync list (start, stop) rooms) fault := by
  rintro ⟨hmisfit⟩
  dsimp only at hmisfit
  omega

/-- An INSERT is not refused if it names a room and its page can be addressed. -/
theorem not_refused_insert {list index : Nat} {p : Payload} {id : RoomId}
    (hend : (l.window index).2 ≤ maxIndex) (hroom : p.roomId = some id) (fault : ListFault) :
    ¬ l.Refused (.insert list index p) fault := by
  intro hrefused
  cases hrefused with
  | insertUnaddressable hpast => exact Nat.not_lt_of_le hend hpast
  | insertWithoutRoom _ hnone => exact Option.some_ne_none id (hroom.symm.trans hnone)

/-! ## §5. Asked and answered. -/

/-- An operation can be answered: it is not refused, and it is accepted if there is room
for the slots it asks for. -/
def Answerable (l : RoomList) (user : UserId) (op : Operation) : Prop :=
  (∃ l' touched, l.apply user op = (l', .ok touched))
    ∧ (l.slotsAsked op ≤ maxSlots → l.Accepts user op)

theorem Reachable.answerable (h : Reachable l) (user : UserId) {op : Operation}
    (hfits : ∀ fault, ¬ l.Refused op fault) : l.Answerable user op := by
  obtain ⟨l', touched, -, happly⟩ := ok_of_not_refused user hfits
  exact ⟨⟨l', touched, happly⟩, h.accepts user hfits⟩

/-- **What is asked for can be answered.**  Whatever words the page size and the
total are, if a page is not empty: at least one window is asked for and at most
`maxRequestedPages` are; they are the first pages, each where the one before it
ends, and no number in them passes the greatest index, so that on words the same
windows are asked for.  An index that counts lies in exactly one of them, unless it
is behind the most windows or its page cannot be addressed.  And every list that
can arise with this page size takes what may come for such a window: a SYNC of
any beginning of it, which asks room for as many slots, and an INSERT of a room at any
index of it, which asks for twice what the page holds up to that index.  Neither is
refused, and each is accepted if there is room for what it asks for; in pages of up to
half the most slots there always is. -/
theorem asked_is_answerable (hsize : 1 ≤ l.pageSize) (hword : l.pageSize ≤ maxIndex)
    (htotal : l.total ≤ maxIndex) :
    (1 ≤ l.requestedPages ∧ l.requestedPages ≤ maxRequestedPages)
      ∧ l.requestRanges =
        (List.range l.requestedPages).map (fun i => (i * l.pageSize, (i + 1) * l.pageSize))
      ∧ l.requestRanges.Pairwise (fun v w => v.2 ≤ w.1)
      ∧ (∀ w ∈ l.requestRanges,
        w.1 % l.pageSize = 0 ∧ w.2 = w.1 + l.pageSize ∧ w.2 ≤ maxIndex)
      ∧ l.requestRanges? = some l.requestRanges
      ∧ (∀ index, index < l.total → index < maxRequestedPages * l.pageSize →
        (l.window index).2 ≤ maxIndex →
        (l.requestRanges.filter fun w => decide (w.1 ≤ index ∧ index < w.2)) = [l.window index])
      ∧ (∀ w ∈ l.requestRanges, ∀ m, Reachable m → m.pageSize = l.pageSize →
        ∀ (user : UserId) (list : Nat),
          (∀ stop rooms, w.1 < stop → stop ≤ w.2 →
            m.Answerable user (.sync list (w.1, stop) rooms)
              ∧ m.slotsAsked (.sync list (w.1, stop) rooms) = stop - w.1)
            ∧ (∀ index p id, w.1 ≤ index → index < w.2 → p.roomId = some id →
              m.Answerable user (.insert list index p)
                ∧ m.slotsAsked (.insert list index p) =
                  2 * max (m.pageAt index).length (index - w.1)))
      ∧ (2 * l.pageSize ≤ maxSlots → ∀ m, Reachable m → m.pageSize = l.pageSize →
        ∀ op, m.slotsAsked op ≤ maxSlots) := by
  refine ⟨⟨requestedPages_pos hsize hword, requestedPages_le l⟩, requestRanges_eq hsize,
    pairwise_requestRanges hsize, fun w hw => page_of_mem_requestRanges hsize hw,
    requestRanges?_eq hsize htotal, ?_, ?_, ?_⟩
  · intro index hindex hmost hend
    exact filter_requestRanges hsize (page_lt_requestedPages hsize hindex hmost hend)
  · intro w hw m hm hsame user list
    obtain ⟨haligned, hwidth, hend⟩ := page_of_mem_requestRanges hsize hw
    rw [← hsame] at haligned hwidth
    rw [hwidth] at hend
    constructor
    · intro stop rooms hlt hstop
      rw [hwidth] at hstop
      refine ⟨hm.answerable user (not_refused_sync haligned hend hlt hstop), slotsAsked_sync ?_⟩
      exact (m.fits_iff _).2 ⟨hlt, haligned, by dsimp only; omega, hend⟩
    · intro index p id hfrom hto hroom
      -- the window is the one of the index' page
      have hlocate := locate_add (l := m) haligned (show index - w.1 < m.pageSize by omega)
      rw [Nat.add_sub_cancel' hfrom] at hlocate
      have hwindow : (m.window index).2 = w.1 + m.pageSize := by
        rw [window, hlocate]
      refine ⟨hm.answerable user (not_refused_insert (hwindow ▸ hend) hroom), ?_⟩
      rw [slotsAsked_insert (by rwa [hlocate]) hroom, hlocate]
  · intro hmost m hm hsame op
    exact Nat.le_trans (hm.wellFormed.slotsAsked_le op) (hsame ▸ hmost)

/-- In pages of half of all indices the first page is asked for, and the SYNC that
answers it finds no room. -/
theorem sync_finds_no_room :
    let user : UserId := ⟨"@asking:x", by decide +kernel⟩
    let l := create .joined 0x8000000000000000
    let op : Operation := .sync 0 (0, 0x8000000000000000) []
    (0, 0x8000000000000000) ∈ l.requestRanges ∧ Reachable l
      ∧ l.carryOut? user op = none ∧ ¬ l.Accepts user op := by
  intro user l op
  have hnone : l.carryOut? user op = none := if_neg (by decide +kernel)
  refine ⟨by decide +kernel, .create .joined _, hnone, ?_⟩
  rintro ⟨l', touched, hsome, -⟩
  rw [hnone] at hsome
  cases hsome

/-- A quarter of the greatest index, rounded up. -/
def quarter : Nat := 0x4000000000000000

/-- With pages of a quarter of all indices and the greatest total, the last page
would pass the greatest index by one.  So three windows are asked for, and what
comes for the beginning of the last of them is accepted. -/
theorem last_quarter_is_not_asked_for :
    let user : UserId := ⟨"@asking:x", by decide +kernel⟩
    let l : RoomList := { create .joined quarter with total := maxIndex }
    (1 ≤ l.pageSize ∧ l.pageSize ≤ maxIndex ∧ l.total ≤ maxIndex)
      ∧ l.requestRanges = [(0, quarter), (quarter, 2 * quarter), (2 * quarter, 3 * quarter)]
      ∧ (l.requestRanges.filter fun w => decide (w.1 ≤ 2 * quarter - 1 ∧ 2 * quarter - 1 < w.2))
        = [(quarter, 2 * quarter)]
      ∧ l.Accepts user (.sync 0 (2 * quarter, 2 * quarter + 2) [])
      ∧ l.Accepts user (.insert 0 (2 * quarter + 1)
        { roomId := some ⟨"!asked:x", by decide +kernel⟩ }) := by
  intro user l
  have hwords : 1 ≤ l.pageSize ∧ l.pageSize ≤ maxIndex ∧ l.total ≤ maxIndex := by decide +kernel
  obtain ⟨-, -, -, -, -, hone, hanswers, -⟩ :=
    asked_is_answerable hwords.1 hwords.2.1 hwords.2.2
  obtain ⟨hsync, hinsert⟩ := hanswers (2 * quarter, 3 * quarter) (by decide +kernel) l
    ((Reachable.create .joined quarter).setTotal maxIndex) rfl user 0
  refine ⟨hwords, by decide +kernel, ?_, ?_, ?_⟩
  · exact (hone (2 * quarter - 1) (by decide +kernel) (by decide +kernel)
      (by decide +kernel)).trans (by decide +kernel)
  · exact (hsync _ _ (by decide +kernel) (by decide +kernel)).1.2 (by decide +kernel)
  · exact (hinsert _ _ _ (by decide +kernel) (by decide +kernel) rfl).1.2 (by decide +kernel)

end RoomList

end RoomSync.Window
