/-
  RoomSync.Proofs.TableLookup
  ───────────────────────────
  **WHAT A CHANGED TABLE ANSWERS.**

  A table is reasoned about through `get?` alone.  Every operation on tables
  has one equation here that says what `get?` answers afterwards, so that no
  later proof looks at the list of entries:

      mem_entries   — the entries are the answers
      get?_filter   — a filter forgets the answers that fail its test
      get?_mapValues — a change of all values changes the answers
      filter_eq_self — a filter that loses no entry changes nothing
      ofList_entries — a table is what its entries make
      get?_foldl_insert — of values put in one after the other the last is found
-/
import RoomSync.Table

namespace RoomSync

/-! ## §1. Entry lists. -/

/-- The last item of a key, where one more stands in front. -/
theorem getLast?_filter_cons {κ β : Type} [DecidableEq κ] (key : β → κ) (k : κ) (b : β)
    (bs : List β) : ((b :: bs).filter (key · = k)).getLast? =
      ((bs.filter (key · = k)).getLast?).or (if key b = k then some b else none) := by
  by_cases h : key b = k
  · rw [List.filter_cons_of_pos (by simpa using h), if_pos h, List.getLast?_cons]
    cases (bs.filter (key · = k)).getLast? <;> rfl
  · rw [List.filter_cons_of_neg (by simpa using h), if_neg h, Option.or_none]

namespace Entries

variable {κ α β : Type} [Ord κ] [DecidableEq κ] [Std.TransOrd κ]

omit [Ord κ] [Std.TransOrd κ] in
theorem get?_map (k : κ) (f : κ → α → β) (es : List (κ × α)) :
    get? k (es.map fun e => (e.1, f e.1 e.2)) = (get? k es).map (f k) := by
  induction es with
  | nil => rfl
  | cons e rest ih =>
      obtain ⟨j, w⟩ := e
      by_cases h : k = j
      · subst h
        simp [get?]
      · simpa [get?, h] using ih

/-- In key order a key stands once, so what passes the test is what the
whole list answers. -/
theorem get?_filter (k : κ) (p : κ → α → Bool) {es : List (κ × α)} (hs : Sorted es) :
    get? k (es.filter fun e => p e.1 e.2) = (get? k es).filter (p k) := by
  induction es with
  | nil => rfl
  | cons e rest ih =>
      obtain ⟨j, w⟩ := e
      by_cases hk : k = j
      · subst hk
        have hrest : get? k rest = none :=
          get?_eq_none_of_forall_ne fun x hx => ne_of_compare_lt (hs.head x hx)
        cases hp : p k w with
        | true => simp [get?, hp, Option.filter]
        | false => simp [get?, hp, ih hs.tail, hrest, Option.filter]
      · cases hp : p j w with
        | true => simp [get?, hp, hk, ih hs.tail]
        | false => simp [get?, hp, hk, ih hs.tail]

section Order

omit [DecidableEq κ]

/-- A key after all others is put behind them. -/
theorem insert_back {k : κ} {v : α} {es : List (κ × α)} (h : Sorted (es ++ [(k, v)])) :
    insert k v es = es ++ [(k, v)] := by
  induction es with
  | nil => rfl
  | cons e rest ih =>
      obtain ⟨j, w⟩ := e
      have hlt : compare j k = .lt := h.head (k, v) (List.mem_append_right _ List.mem_cons_self)
      rw [insert, Std.OrientedCmp.gt_of_lt hlt]
      show (j, w) :: insert k v rest = (j, w) :: (rest ++ [(k, v)])
      rw [ih h.tail]

/-- **Entries in key order**, written one after the other, stay as they are. -/
theorem foldl_insert_sorted {fs : List (κ × α)} :
    ∀ {es : List (κ × α)}, Sorted (es ++ fs) →
      fs.foldl (fun es f => insert f.1 f.2 es) es = es ++ fs := by
  induction fs with
  | nil =>
      intro es _
      exact (List.append_nil es).symm
  | cons f rest ih =>
      intro es h
      rw [List.append_cons] at h ⊢
      have hfront : Sorted (es ++ [(f.1, f.2)]) := h.sublist (List.sublist_append_left ..)
      rw [List.foldl_cons, insert_back hfront, ih h]

omit [Std.TransOrd κ] in
/-- Entries that are written add no others. -/
theorem mem_foldl_insert (fields : List (κ × α)) {m : κ × α} :
    ∀ {es : List (κ × α)}, m ∈ fields.foldl (fun es f => insert f.1 f.2 es) es →
      m ∈ fields ∨ m ∈ es := by
  induction fields with
  | nil =>
      intro es hm
      exact .inr hm
  | cons f rest ih =>
      intro es hm
      rcases ih hm with hm | hm
      · exact .inl (List.mem_cons_of_mem _ hm)
      · rcases mem_insert hm with rfl | hm
        · exact .inl List.mem_cons_self
        · exact .inr hm

end Order

end Entries

/-! ## §2. Tables. -/

namespace Table

variable {κ α β : Type} [Ord κ] [DecidableEq κ] [Std.TransOrd κ]

/-- The entries are the answers. -/
theorem mem_entries {t : Table κ α} {k : κ} {v : α} :
    (k, v) ∈ t.entries ↔ t.get? k = some v := Entries.mem_iff_get? t.sorted

omit [DecidableEq κ] in
/-- Entries beside that of a key are of other keys. -/
theorem others_of_split {t : Table κ α} {k : κ} {v : α} {before after : List (κ × α)}
    (h : t.entries = before ++ (k, v) :: after) :
    (∀ e ∈ before, k ≠ e.1) ∧ ∀ e ∈ after, k ≠ e.1 := by
  have hsorted := t.sorted
  rw [h] at hsorted
  obtain ⟨-, htail, hbefore⟩ := List.pairwise_append.1 hsorted
  refine ⟨fun e he => ?_, fun e he => ?_⟩
  · exact (Entries.ne_of_compare_lt (hbefore e he (k, v) List.mem_cons_self)).symm
  · exact Entries.ne_of_compare_lt (Entries.Sorted.head htail e he)

/-- A filter forgets the answers that fail its test. -/
@[simp] theorem get?_filter (t : Table κ α) (p : κ → α → Bool) (k : κ) :
    (t.filter p).get? k = (t.get? k).filter (p k) := Entries.get?_filter k p t.sorted

theorem get?_filter_eq_some {t : Table κ α} {p : κ → α → Bool} {k : κ} {v : α} :
    (t.filter p).get? k = some v ↔ t.get? k = some v ∧ p k v = true := by
  rw [get?_filter, Option.filter_eq_some_iff]

omit [Std.TransOrd κ] in
/-- A change of all values changes the answers. -/
@[simp] theorem get?_mapValues (t : Table κ α) (f : κ → α → β) (k : κ) :
    (t.mapValues f).get? k = (t.get? k).map (f k) := Entries.get?_map k f t.entries

omit [DecidableEq κ] [Std.TransOrd κ] in
/-- A filter that loses no entry changes nothing. -/
theorem filter_eq_self {t : Table κ α} {p : κ → α → Bool}
    (h : (t.filter p).entries.length = t.entries.length) : t.filter p = t := by
  have hall : ∀ e ∈ t.entries, p e.1 e.2 = true :=
    List.length_filter_eq_length_iff.1 h
  cases t with
  | mk es hs =>
      have hes : es.filter (fun e => p e.1 e.2) = es := List.filter_eq_self.2 hall
      simp only [filter, hes]

theorem mem_values {t : Table κ α} {v : α} : v ∈ t.values ↔ ∃ k, t.get? k = some v := by
  simp only [values, List.mem_map, Prod.exists]
  constructor
  · rintro ⟨k, w, hkw, rfl⟩
    exact ⟨k, mem_entries.1 hkw⟩
  · rintro ⟨k, hk⟩
    exact ⟨k, v, mem_entries.2 hk, rfl⟩

omit [Std.TransOrd κ] in
theorem contains_iff {t : Table κ α} {k : κ} : t.contains k = true ↔ ∃ v, t.get? k = some v := by
  rw [contains, Option.isSome_iff_exists]

omit [Std.TransOrd κ] in
@[simp] theorem contains_empty (k : κ) : (empty : Table κ α).contains k = false := rfl

omit [Std.TransOrd κ] in
@[simp] theorem contains_erase (t : Table κ α) (k k' : κ) :
    (t.erase k).contains k' = (decide (k' ≠ k) && t.contains k') := by
  by_cases h : k' = k <;> simp [contains, h]

@[simp] theorem contains_insert [Std.LawfulEqOrd κ] (t : Table κ α) (k k' : κ) (v : α) :
    (t.insert k v).contains k' = (decide (k' = k) || t.contains k') := by
  by_cases h : k' = k <;> simp [contains, h]

section Lists

omit [DecidableEq κ]

omit [Std.TransOrd κ] in
theorem eq_of_entries {s t : Table κ α} (h : s.entries = t.entries) : s = t := by
  cases s
  cases t
  cases h
  rfl

theorem entries_foldl_insert (es : List (κ × α)) : ∀ t : Table κ α,
    (es.foldl (fun t e => t.insert e.1 e.2) t).entries =
      es.foldl (fun es f => Entries.insert f.1 f.2 es) t.entries := by
  induction es with
  | nil =>
      intro t
      rfl
  | cons e rest ih =>
      intro t
      exact ih (t.insert e.1 e.2)

/-- **A table is what its entries make.** -/
theorem ofList_entries (t : Table κ α) : ofList t.entries = t :=
  eq_of_entries ((entries_foldl_insert t.entries empty).trans
    (Entries.foldl_insert_sorted t.sorted))

/-- What a list makes has entries of the list only. -/
theorem mem_ofList {es : List (κ × α)} {e : κ × α} (h : e ∈ (ofList es).entries) : e ∈ es := by
  unfold ofList at h
  rw [entries_foldl_insert] at h
  exact (Entries.mem_foldl_insert es h).resolve_right List.not_mem_nil

end Lists

/-- Values put into a table one after the other: the last of a key is found. -/
theorem get?_foldl_insert [Std.LawfulEqOrd κ] (key : β → κ) (value : β → α) (k : κ)
    (bs : List β) :
    ∀ t : Table κ α, (bs.foldl (fun t b => t.insert (key b) (value b)) t).get? k =
      ((bs.filter (key · = k)).getLast?.map value).or (t.get? k) := by
  induction bs with
  | nil =>
      intro t
      rfl
  | cons b rest ih =>
      intro t
      rw [List.foldl_cons, ih, get?_insert, getLast?_filter_cons]
      by_cases h : key b = k
      · rw [if_pos h.symm, if_pos h]
        cases (rest.filter (key · = k)).getLast? <;> rfl
      · rw [if_neg (Ne.symm h), if_neg h, Option.or_none]

section Keys

variable {k k' : κ}

theorem contains_insert_self [Std.LawfulEqOrd κ] (t : Table κ α) (k : κ) (v : α) :
    (t.insert k v).contains k = true := by
  rw [contains_insert, decide_eq_true rfl, Bool.true_or]

theorem contains_insert_other [Std.LawfulEqOrd κ] (h : k' ≠ k) (t : Table κ α) (v : α) :
    (t.insert k v).contains k' = t.contains k' := by
  rw [contains_insert, decide_eq_false h, Bool.false_or]

omit [Std.TransOrd κ] in
theorem contains_erase_self (t : Table κ α) (k : κ) : (t.erase k).contains k = false := by
  rw [contains_erase, decide_eq_false (fun h => h rfl), Bool.false_and]

omit [Std.TransOrd κ] in
theorem contains_erase_other (h : k' ≠ k) (t : Table κ α) :
    (t.erase k).contains k' = t.contains k' := by
  rw [contains_erase, decide_eq_true h, Bool.true_and]

end Keys

end Table

end RoomSync
