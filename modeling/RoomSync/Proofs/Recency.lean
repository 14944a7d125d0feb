/-
  RoomSync.Proofs.Recency
  ───────────────────────
  **WHAT A BOUNDED MEMORY REMEMBERS.**

  A memory without a bound would hold the keys of its history, each once and the
  most recent first (`recent`).  The bounded one holds the front of that list,
  since noting a key moves it to the front and loses a key at the end only:

      keys_noteAll   — the memory after a history, from an empty one
      recent_append  — earlier keys stand behind the later ones
      mem_noteAll    — a key is remembered if, since it came last, fewer other
                       keys came than the memory can hold
      Keeps.note     — as long as only few keys come, all of them stay, whatever
                       the memory held before

  So how far back a key stands is the number of other keys since then, and this
  is why it does not matter how often one of them came.
-/
import Mathlib.Data.List.Induction
import Mathlib.Data.Finset.Card
import Mathlib.Data.Finset.Dedup
import RoomSync.Recency

namespace RoomSync

namespace Recency

variable {κ : Type} [DecidableEq κ] {capacity : Nat}

/-! ## §1. One key. -/

/-- The answer is whether the key was remembered. -/
theorem note_snd (r : Recency κ capacity) (k : κ) : (r.note k).2 = true ↔ k ∈ r.keys := by
  unfold note contains
  split
  next h => exact iff_of_true rfl (List.contains_iff_mem.1 h)
  next h => exact iff_of_false Bool.false_ne_true fun hmem => h (List.contains_iff_mem.2 hmem)

theorem keys_note_known {r : Recency κ capacity} {k : κ} (h : k ∈ r.keys) :
    (r.note k).1.keys = k :: r.keys.erase k := by
  unfold note contains
  rw [if_pos (List.contains_iff_mem.2 h)]

theorem keys_note_new {r : Recency κ capacity} {k : κ} (h : k ∉ r.keys) :
    (r.note k).1.keys = (k :: r.keys).take capacity := by
  unfold note contains
  rw [if_neg fun hc => h (List.contains_iff_mem.1 hc)]

/-- To note a key adds no other key. -/
theorem mem_note {r : Recency κ capacity} {k x : κ} (h : x ∈ (r.note k).1.keys) :
    x = k ∨ x ∈ r.keys := by
  by_cases hk : k ∈ r.keys
  · rw [keys_note_known hk] at h
    rcases List.mem_cons.1 h with rfl | h
    · exact .inl rfl
    · exact .inr (List.mem_of_mem_erase h)
  · rw [keys_note_new hk] at h
    exact List.mem_cons.1 (List.mem_of_mem_take h)

/-- Note keys in order. -/
def noteAll (r : Recency κ capacity) (history : List κ) : Recency κ capacity :=
  history.foldl (fun r k => (r.note k).1) r

theorem noteAll_concat (r : Recency κ capacity) (history : List κ) (k : κ) :
    r.noteAll (history ++ [k]) = ((r.noteAll history).note k).1 := List.foldl_append

/-! ## §2. A memory without a bound. -/

/-- The keys of a history, the most recent first. -/
def recent (history : List κ) : List κ := history.foldl (fun ks k => k :: ks.erase k) []

theorem recent_concat (history : List κ) (k : κ) :
    recent (history ++ [k]) = k :: (recent history).erase k := List.foldl_append

theorem nodup_recent (history : List κ) : (recent history).Nodup := by
  induction history using List.reverseRecOn with
  | nil => exact List.nodup_nil
  | append_singleton history x ih =>
      rw [recent_concat, List.nodup_cons]
      exact ⟨ih.not_mem_erase, ih.erase x⟩

theorem mem_recent {history : List κ} {k : κ} : k ∈ recent history ↔ k ∈ history := by
  induction history using List.reverseRecOn with
  | nil => rfl
  | append_singleton history x ih =>
      rw [recent_concat, List.mem_cons, (nodup_recent history).mem_erase_iff, ih, List.mem_append,
        List.mem_singleton]
      by_cases hk : k = x <;> simp [hk]

/-- It holds as many keys as the history has. -/
theorem length_recent (history : List κ) : (recent history).length = history.toFinset.card := by
  have hsame : (recent history).toFinset = history.toFinset := by
    ext k
    rw [List.mem_toFinset, List.mem_toFinset, mem_recent]
  rw [← hsame, List.toFinset_card_of_nodup (nodup_recent history)]

/-- Later keys come first; of the earlier ones those stay that do not come again. -/
theorem recent_append (past later : List κ) :
    recent (past ++ later) = recent later ++ (recent past).filter (· ∉ later) := by
  induction later using List.reverseRecOn with
  | nil => simp [recent]
  | append_singleton later x ih =>
      have hrest : ((recent past).filter (· ∉ later)).erase x =
          (recent past).filter (· ∉ later ++ [x]) := by
        rw [((nodup_recent past).filter _).erase_eq_filter, List.filter_filter]
        refine List.filter_congr fun k _ => ?_
        by_cases hk : k = x <;> simp [hk]
      rw [← List.append_assoc, recent_concat, ih, recent_concat, List.cons_append]
      by_cases hx : x ∈ recent later
      · -- the key stands among the later ones, and so in no other place
        have hfresh : x ∉ (recent past).filter (· ∉ later) := by
          simp [mem_recent.1 hx]
        rw [List.erase_append_left _ hx, ← hrest, List.erase_of_not_mem hfresh]
      · rw [List.erase_append_right _ hx, hrest, List.erase_of_not_mem hx]

/-- The keys that came after the last occurrence of a key stand before it. -/
theorem recent_split {k : κ} {between : List κ} (hlast : k ∉ between) (before : List κ) :
    ∃ older, recent (before ++ k :: between) = recent between ++ k :: older := by
  refine ⟨((recent before).erase k).filter (· ∉ between), ?_⟩
  rw [List.append_cons, recent_append, recent_concat,
    List.filter_cons_of_pos (by simpa using hlast)]

/-! ## §3. The bound. -/

/-- A memory of this capacity would still hold a key: it occurred, and since its last
occurrence fewer other keys did than the memory can hold. -/
def Within (capacity : Nat) (history : List κ) (k : κ) : Prop :=
  ∃ before between, history = before ++ k :: between ∧ k ∉ between
    ∧ between.toFinset.card < capacity

omit [DecidableEq κ] in
/-- A key that occurred has a last occurrence. -/
theorem exists_last {history : List κ} {k : κ} (h : k ∈ history) :
    ∃ before between, history = before ++ k :: between ∧ k ∉ between := by
  obtain ⟨after, before, hsplit, hnone⟩ := List.eq_append_cons_of_mem (List.mem_reverse.2 h)
  refine ⟨before.reverse, after.reverse, ?_, fun hk => hnone (List.mem_reverse.1 hk)⟩
  rw [← List.reverse_reverse history, hsplit]
  simp

/-- The keys since its last occurrence decide whether a key is among the first. -/
theorem mem_take_recent_split {k : κ} {between : List κ} (hlast : k ∉ between)
    (before : List κ) :
    k ∈ (recent (before ++ k :: between)).take capacity ↔ between.toFinset.card < capacity := by
  obtain ⟨older, hrecent⟩ := recent_split hlast before
  rw [hrecent, ← length_recent]
  constructor
  · intro hk
    by_contra hfull
    -- the later keys alone are enough, and the key is none of them
    rw [List.take_append_of_le_length (Nat.not_lt.1 hfull)] at hk
    exact hlast (mem_recent.1 (List.mem_of_mem_take hk))
  · intro hfew
    obtain ⟨room, hroom⟩ : ∃ n, capacity - (recent between).length = n + 1 :=
      Nat.exists_eq_succ_of_ne_zero (by omega)
    rw [List.take_append, hroom, List.take_succ_cons]
    exact List.mem_append_right _ List.mem_cons_self

/-- **Which keys are the most recent**, by the history alone. -/
theorem mem_take_recent {history : List κ} {k : κ} :
    k ∈ (recent history).take capacity ↔ Within capacity history k := by
  constructor
  · intro hk
    obtain ⟨before, between, rfl, hlast⟩ := exists_last (mem_recent.1 (List.mem_of_mem_take hk))
    exact ⟨before, between, rfl, hlast, (mem_take_recent_split hlast before).1 hk⟩
  · rintro ⟨before, between, rfl, hlast, hfew⟩
    exact (mem_take_recent_split hlast before).2 hfew

/-- Only the last occurrence of a key counts. -/
theorem within_split {k : κ} {between : List κ} (hlast : k ∉ between) (before : List κ) :
    Within capacity (before ++ k :: between) k ↔ between.toFinset.card < capacity :=
  mem_take_recent.symm.trans (mem_take_recent_split hlast before)

/-- A key among the first ones is taken out of them. -/
theorem erase_take {ks : List κ} {x : κ} :
    ∀ {n : Nat}, x ∈ ks.take (n + 1) → (ks.take (n + 1)).erase x = (ks.erase x).take n := by
  induction ks with
  | nil =>
      intro n h
      cases h
  | cons y ys ih =>
      intro n h
      rw [List.take_succ_cons] at h ⊢
      by_cases hy : y = x
      · subst hy
        rw [List.erase_cons_head, List.erase_cons_head]
      · have hx : x ∈ ys.take n := (List.mem_cons.1 h).resolve_left (Ne.symm hy)
        have hyx : ¬ (y == x) = true := by simpa using hy
        obtain ⟨m, rfl⟩ : ∃ m, n = m + 1 :=
          Nat.exists_eq_succ_of_ne_zero (by rintro rfl; simp at hx)
        rw [List.erase_cons_tail hyx, List.erase_cons_tail hyx, ih hx, List.take_succ_cons]

/-- A key that is not among the first ones is taken out behind them. -/
theorem take_erase {ks : List κ} {x : κ} :
    ∀ {n : Nat}, x ∉ ks.take (n + 1) → (ks.erase x).take n = ks.take n := by
  induction ks with
  | nil =>
      intro n _
      rfl
  | cons y ys ih =>
      intro n h
      rw [List.take_succ_cons, List.mem_cons, not_or] at h
      have hyx : ¬ (y == x) = true := by simpa using Ne.symm h.1
      rw [List.erase_cons_tail hyx]
      cases n with
      | zero => rfl
      | succ m => rw [List.take_succ_cons, List.take_succ_cons, ih h.2]

/-- **A memory holds the most recent keys** of its history. -/
theorem keys_noteAll (history : List κ) :
    (({} : Recency κ capacity).noteAll history).keys = (recent history).take capacity := by
  induction history using List.reverseRecOn with
  | nil => exact List.take_nil.symm
  | append_singleton history x ih =>
      rw [noteAll_concat, recent_concat]
      cases capacity with
      | zero =>
          have hempty : ¬ x ∈ (({} : Recency κ 0).noteAll history).keys := by simp [ih]
          rw [keys_note_new hempty, List.take_zero, List.take_zero]
      | succ n =>
          by_cases hx : x ∈ (recent history).take (n + 1)
          · rw [keys_note_known (by rwa [ih]), ih, erase_take hx, List.take_succ_cons]
          · rw [keys_note_new (by rwa [ih]), ih, List.take_succ_cons, List.take_succ_cons,
              take_erase hx, List.take_take, Nat.min_eq_left (Nat.le_succ n)]

/-- **What a memory remembers**, by its history alone. -/
theorem mem_noteAll {history : List κ} {k : κ} :
    k ∈ (({} : Recency κ capacity).noteAll history).keys ↔ Within capacity history k := by
  rw [keys_noteAll, mem_take_recent]

/-! ## §4. Few keys. -/

/-- The memory begins with keys of a set, these among them. -/
def Keeps (among : Finset κ) (noted : List κ) (r : Recency κ capacity) : Prop :=
  ∃ front rest, r.keys = front ++ rest ∧ front.Nodup ∧ (∀ k ∈ front, k ∈ among) ∧ noted ⊆ front

omit [DecidableEq κ] in
theorem keeps_nil (among : Finset κ) (r : Recency κ capacity) : Keeps among [] r :=
  ⟨[], r.keys, rfl, List.nodup_nil, fun _ hk => (nomatch hk), List.nil_subset _⟩

omit [DecidableEq κ] in
theorem Keeps.mem {among : Finset κ} {noted : List κ} {r : Recency κ capacity}
    (h : Keeps among noted r) {k : κ} (hk : k ∈ noted) : k ∈ r.keys := by
  obtain ⟨front, rest, hkeys, -, -, hnoted⟩ := h
  rw [hkeys]
  exact List.mem_append_left _ (hnoted hk)

omit [DecidableEq κ] in
/-- Fewer keys are among them, too. -/
theorem Keeps.mono {among : Finset κ} {noted noted' : List κ} {r : Recency κ capacity}
    (h : Keeps among noted r) (hsub : noted' ⊆ noted) : Keeps among noted' r := by
  obtain ⟨front, rest, hkeys, hnodup, hamong, hnoted⟩ := h
  exact ⟨front, rest, hkeys, hnodup, hamong, fun k hk => hnoted (hsub hk)⟩

omit [DecidableEq κ] in
theorem Keeps.mem_among {among : Finset κ} {noted : List κ} {r : Recency κ capacity}
    (h : Keeps among noted r) {k : κ} (hk : k ∈ noted) : k ∈ among := by
  obtain ⟨front, rest, -, -, hamong, hnoted⟩ := h
  exact hamong k (hnoted hk)

/-- **While only few keys come, none of them is forgotten**, whatever the memory held
before. -/
theorem Keeps.note {among : Finset κ} {noted : List κ} {r : Recency κ capacity}
    (h : Keeps among noted r) (hfew : among.card ≤ capacity) {k : κ} (hk : k ∈ among) :
    Keeps among (k :: noted) (r.note k).1 := by
  obtain ⟨front, rest, hkeys, hnodup, hamong, hnoted⟩ := h
  have hfront : (k :: front.erase k).Nodup :=
    List.nodup_cons.2 ⟨hnodup.not_mem_erase, hnodup.erase k⟩
  have hinside : ∀ x ∈ k :: front.erase k, x ∈ among := by
    intro x hx
    rcases List.mem_cons.1 hx with rfl | hx
    · exact hk
    · exact hamong x (List.mem_of_mem_erase hx)
  have hcovers : k :: noted ⊆ k :: front.erase k := by
    intro x hx
    by_cases hxk : x = k
    · rw [hxk]
      exact List.mem_cons_self
    · have hx : x ∈ noted := (List.mem_cons.1 hx).resolve_left hxk
      exact List.mem_cons_of_mem _ ((List.mem_erase_of_ne hxk).2 (hnoted hx))
  have hlength : (k :: front.erase k).length ≤ capacity := by
    rw [← List.toFinset_card_of_nodup hfront]
    refine (Finset.card_le_card fun x hx => ?_).trans hfew
    exact hinside x (List.mem_toFinset.1 hx)
  by_cases hknown : k ∈ r.keys
  · by_cases hin : k ∈ front
    · refine ⟨_, rest, ?_, hfront, hinside, hcovers⟩
      rw [keys_note_known hknown, hkeys, List.erase_append_left _ hin, List.cons_append]
    · refine ⟨_, rest.erase k, ?_, hfront, hinside, hcovers⟩
      rw [keys_note_known hknown, hkeys, List.erase_append_right _ hin, List.cons_append,
        List.erase_of_not_mem hin]
  · -- only keys behind the front are lost
    have hin : k ∉ front := fun hin => hknown (by rw [hkeys]; exact List.mem_append_left _ hin)
    refine ⟨_, rest.take (capacity - (k :: front.erase k).length), ?_, hfront, hinside, hcovers⟩
    rw [keys_note_new hknown, hkeys, ← List.cons_append, List.erase_of_not_mem hin] at *
    rw [List.take_append, List.take_of_length_le hlength]

theorem Keeps.noteAll {among : Finset κ} (hfew : among.card ≤ capacity) (history : List κ) :
    ∀ {noted : List κ} {r : Recency κ capacity}, Keeps among noted r →
      (∀ k ∈ history, k ∈ among) → Keeps among (history ++ noted) (r.noteAll history) := by
  induction history with
  | nil =>
      intro noted r h _
      exact h
  | cons k rest ih =>
      intro noted r h hamong
      have hrest := ih (h.note hfew (hamong k List.mem_cons_self))
        fun x hx => hamong x (List.mem_cons_of_mem k hx)
      exact hrest.mono List.perm_middle.symm.subset

/-- The memory holds no keys but of this set. -/
def Whole (among : Finset κ) (r : Recency κ capacity) : Prop := Keeps among r.keys r

omit [DecidableEq κ] in
theorem whole_empty (among : Finset κ) : ({} : Recency κ capacity).Whole among :=
  keeps_nil among _

/-- **While only few keys ever come**, to note one changes nothing for the others. -/
theorem Whole.mem_note {among : Finset κ} {r : Recency κ capacity} (h : r.Whole among)
    (hfew : among.card ≤ capacity) {k : κ} (hk : k ∈ among) {x : κ} :
    x ∈ (r.note k).1.keys ↔ x = k ∨ x ∈ r.keys :=
  ⟨Recency.mem_note, fun hx => (Keeps.note h hfew hk).mem (List.mem_cons.mpr hx)⟩

theorem Whole.note {among : Finset κ} {r : Recency κ capacity} (h : r.Whole among)
    (hfew : among.card ≤ capacity) {k : κ} (hk : k ∈ among) : (r.note k).1.Whole among :=
  (Keeps.note h hfew hk).mono fun _ hx => List.mem_cons.mpr (Recency.mem_note hx)

end Recency

end RoomSync
