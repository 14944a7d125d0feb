/-
  RoomSync.Table
  ──────────────
  **TABLES IN KEY ORDER.**

  A table is a list of entries in strictly increasing key order, so that a
  key occurs once, iteration has one order, and two tables with the same
  answers are the same value.  The operations are stated on plain entry
  lists first (`Entries`), where the lookup equations hold without any
  order premise, and are then bundled with the order (`Table`).

      get?_insert   — a write changes exactly the written key
      get?_erase    — an erasure changes exactly the erased key
      Table.ext     — equal lookups make equal tables
-/

namespace RoomSync

/-! ## §1. Entry lists. -/

namespace Entries

variable {κ : Type} {α β : Type} [Ord κ] [DecidableEq κ]

/-- The value of the first entry with this key. -/
def get? (k : κ) : List (κ × α) → Option α
  | [] => none
  | (k', v) :: rest => if k = k' then some v else get? k rest

/-- Write `v` at key `k`: replace the entry of that key, or put a new entry
in front of the first larger key. -/
def insert (k : κ) (v : α) : List (κ × α) → List (κ × α)
  | [] => [(k, v)]
  | (k', v') :: rest =>
      match compare k k' with
      | .lt => (k, v) :: (k', v') :: rest
      | .eq => (k, v) :: rest
      | .gt => (k', v') :: insert k v rest

/-- Remove every entry of key `k`. -/
def erase (k : κ) (es : List (κ × α)) : List (κ × α) :=
  es.filter fun e => !decide (k = e.1)

/-- Strictly increasing keys. -/
def Sorted (es : List (κ × α)) : Prop :=
  es.Pairwise fun a b => compare a.1 b.1 = .lt

instance (es : List (κ × α)) : Decidable (Sorted es) :=
  inferInstanceAs (Decidable (es.Pairwise fun a b => compare a.1 b.1 = .lt))

omit [Ord κ] in
@[simp] theorem get?_nil (k : κ) : get? k ([] : List (κ × α)) = none := rfl

section Order

omit [DecidableEq κ]

theorem sorted_nil : Sorted ([] : List (κ × α)) := List.Pairwise.nil

theorem Sorted.tail {e : κ × α} {es : List (κ × α)} (h : Sorted (e :: es)) :
    Sorted es := (List.pairwise_cons.1 h).2

theorem Sorted.head {e : κ × α} {es : List (κ × α)} (h : Sorted (e :: es)) :
    ∀ x ∈ es, compare e.1 x.1 = .lt := (List.pairwise_cons.1 h).1

theorem sorted_filter (p : κ × α → Bool) {es : List (κ × α)} (h : Sorted es) :
    Sorted (es.filter p) := h.filter p

theorem sorted_map (f : κ → α → β) {es : List (κ × α)} (h : Sorted es) :
    Sorted (es.map fun e => (e.1, f e.1 e.2)) := by
  induction es with
  | nil => exact sorted_nil
  | cons e rest ih =>
    refine List.pairwise_cons.2 ⟨fun x hx => ?_, ih h.tail⟩
    obtain ⟨y, hy, rfl⟩ := List.mem_map.1 hx
    exact h.head y hy

theorem mem_insert {k : κ} {v : α} {x : κ × α} {es : List (κ × α)} :
    x ∈ insert k v es → x = (k, v) ∨ x ∈ es := by
  induction es with
  | nil => simp [insert]
  | cons e rest ih =>
    obtain ⟨k', v'⟩ := e
    rw [insert]
    split
    · intro h; simpa using h
    · intro h
      rcases List.mem_cons.1 h with h | h
      · exact .inl h
      · exact .inr (List.mem_cons_of_mem _ h)
    · intro h
      rcases List.mem_cons.1 h with h | h
      · exact .inr (h ▸ List.mem_cons_self)
      · exact (ih h).imp id (List.mem_cons_of_mem _)

theorem sorted_insert [Std.TransOrd κ] (k : κ) (v : α) {es : List (κ × α)}
    (h : Sorted es) : Sorted (insert k v es) := by
  induction es with
  | nil => simp [insert, Sorted]
  | cons e rest ih =>
    obtain ⟨k', v'⟩ := e
    rw [insert]
    split
    next hc =>
      refine List.pairwise_cons.2 ⟨fun x hx => ?_, h⟩
      rcases List.mem_cons.1 hx with rfl | hx
      · exact hc
      · exact Std.TransCmp.lt_trans hc (h.head x hx)
    next hc =>
      refine List.pairwise_cons.2 ⟨fun x hx => ?_, h.tail⟩
      rw [Std.TransCmp.congr_left hc]
      exact h.head x hx
    next hc =>
      refine List.pairwise_cons.2 ⟨fun x hx => ?_, ih h.tail⟩
      rcases mem_insert hx with rfl | hx
      · exact Std.OrientedCmp.lt_of_gt hc
      · exact h.head x hx

end Order

omit [Ord κ] in
/-- An erasure changes exactly the erased key. -/
theorem get?_erase (k k' : κ) (es : List (κ × α)) :
    get? k' (erase k es) = if k' = k then none else get? k' es := by
  induction es with
  | nil => simp [erase]
  | cons e rest ih =>
    obtain ⟨j, w⟩ := e
    simp only [erase] at ih
    by_cases h : k = j
    · subst h
      by_cases h' : k' = k <;> simp_all [erase, get?]
    · by_cases h' : k' = j
      · subst h'; simp [erase, get?, h, Ne.symm h]
      · simpa [erase, get?, h, h'] using ih

variable [Std.TransOrd κ] [Std.LawfulEqOrd κ]

omit [Std.TransOrd κ] in
/-- A write changes exactly the written key. -/
theorem get?_insert (k k' : κ) (v : α) (es : List (κ × α)) :
    get? k' (insert k v es) = if k' = k then some v else get? k' es := by
  induction es with
  | nil => simp [insert, get?]
  | cons e rest ih =>
    obtain ⟨j, w⟩ := e
    rw [insert]
    split
    next => simp [get?]
    next hc =>
      obtain rfl := Std.LawfulEqCmp.eq_of_compare hc
      by_cases h : k' = k <;> simp [get?, h]
    next hc =>
      have hne : k ≠ j := by rintro rfl; simp at hc
      by_cases h : k' = j
      · subst h; simp [get?, Ne.symm hne]
      · simp [get?, h, ih]

omit [Ord κ] [Std.TransOrd κ] [Std.LawfulEqOrd κ] in
theorem get?_eq_none_of_forall_ne {k : κ} {es : List (κ × α)}
    (h : ∀ x ∈ es, k ≠ x.1) : get? k es = none := by
  induction es with
  | nil => rfl
  | cons e rest ih =>
    rw [get?, if_neg (h e List.mem_cons_self),
      ih fun x hx => h x (List.mem_cons_of_mem _ hx)]

omit [DecidableEq κ] [Std.LawfulEqOrd κ] in
theorem ne_of_compare_lt {k k' : κ} (h : compare k k' = .lt) : k ≠ k' := by
  rintro rfl; simp at h

omit [Std.LawfulEqOrd κ] in
/-- In key order, an entry is in the list exactly if its key looks it up. -/
theorem mem_iff_get? {k : κ} {v : α} {es : List (κ × α)} (h : Sorted es) :
    (k, v) ∈ es ↔ get? k es = some v := by
  induction es with
  | nil => simp
  | cons e rest ih =>
    obtain ⟨j, w⟩ := e
    by_cases hk : k = j
    · subst hk
      have hrest : (k, v) ∉ rest := fun hm => by simpa using h.head _ hm
      simp [get?, hrest, eq_comm]
    · simp [get?, hk, ih h.tail]

/-- Two lists in key order with the same answers are the same list. -/
theorem ext {es fs : List (κ × α)} (he : Sorted es) (hf : Sorted fs)
    (h : ∀ k, get? k es = get? k fs) : es = fs := by
  induction es generalizing fs with
  | nil =>
    cases fs with
    | nil => rfl
    | cons f fs => have := h f.1; simp [get?] at this
  | cons e es ih =>
    cases fs with
    | nil => have := h e.1; simp [get?] at this
    | cons f fs =>
      obtain ⟨j, w⟩ := e
      obtain ⟨j', w'⟩ := f
      have hjj : j = j' := by
        match hc : compare j j' with
        | .eq => exact Std.LawfulEqCmp.eq_of_compare hc
        | .lt =>
          have hno : get? j ((j', w') :: fs) = none :=
            get?_eq_none_of_forall_ne fun x hx => by
              rcases List.mem_cons.1 hx with rfl | hx
              · exact ne_of_compare_lt hc
              · exact ne_of_compare_lt (Std.TransCmp.lt_trans hc (hf.head x hx))
          have h1 := h j
          rw [hno] at h1
          simp [get?] at h1
        | .gt =>
          have hlt := Std.OrientedCmp.lt_of_gt hc
          have hno : get? j' ((j, w) :: es) = none :=
            get?_eq_none_of_forall_ne fun x hx => by
              rcases List.mem_cons.1 hx with rfl | hx
              · exact ne_of_compare_lt hlt
              · exact ne_of_compare_lt (Std.TransCmp.lt_trans hlt (he.head x hx))
          have h2 := h j'
          rw [hno] at h2
          simp [get?] at h2
      subst hjj
      have hw : w = w' := by have := h j; simpa [get?] using this
      subst hw
      have htail : es = fs := by
        refine ih he.tail hf.tail fun k => ?_
        by_cases hk : k = j
        · subst hk
          rw [get?_eq_none_of_forall_ne fun x hx => ne_of_compare_lt (he.head x hx),
            get?_eq_none_of_forall_ne fun x hx => ne_of_compare_lt (hf.head x hx)]
        · simpa [get?, hk] using h k
      rw [htail]

end Entries

/-! ## §2. Tables. -/

/-- Entries in strictly increasing key order. -/
structure Table (κ α : Type) [Ord κ] where
  entries : List (κ × α)
  sorted : Entries.Sorted entries

/-- A set of keys is a table to nothing. -/
abbrev KeySet (κ : Type) [Ord κ] := Table κ Unit

namespace Table

variable {κ α β : Type} [Ord κ]

/-- The table without entries. -/
def empty : Table κ α := ⟨[], Entries.sorted_nil⟩

instance : Inhabited (Table κ α) := ⟨empty⟩

def keys (t : Table κ α) : List κ := t.entries.map (·.1)

def values (t : Table κ α) : List α := t.entries.map (·.2)

/-- Keep the entries that pass a test. -/
def filter (t : Table κ α) (p : κ → α → Bool) : Table κ α :=
  ⟨t.entries.filter fun e => p e.1 e.2, Entries.sorted_filter _ t.sorted⟩

/-- Change every value, knowing its key. -/
def mapValues (t : Table κ α) (f : κ → α → β) : Table κ β :=
  ⟨t.entries.map fun e => (e.1, f e.1 e.2), Entries.sorted_map f t.sorted⟩

def insert [Std.TransOrd κ] (t : Table κ α) (k : κ) (v : α) : Table κ α :=
  ⟨Entries.insert k v t.entries, Entries.sorted_insert k v t.sorted⟩

/-- Write the pairs one after the other: of a repeated key the last stays. -/
def ofList [Std.TransOrd κ] (es : List (κ × α)) : Table κ α :=
  es.foldl (fun t e => t.insert e.1 e.2) empty

variable [DecidableEq κ]

instance [DecidableEq α] : DecidableEq (Table κ α) := fun s t =>
  decidable_of_iff (s.entries = t.entries)
    ⟨fun h => by cases s; cases t; simpa using h, fun h => h ▸ rfl⟩

def get? (t : Table κ α) (k : κ) : Option α := Entries.get? k t.entries

def contains (t : Table κ α) (k : κ) : Bool := (t.get? k).isSome

def erase (t : Table κ α) (k : κ) : Table κ α :=
  ⟨Entries.erase k t.entries, Entries.sorted_filter _ t.sorted⟩

@[simp] theorem get?_empty (k : κ) : (empty : Table κ α).get? k = none := rfl

@[simp] theorem get?_erase (t : Table κ α) (k k' : κ) :
    (t.erase k).get? k' = if k' = k then none else t.get? k' :=
  Entries.get?_erase k k' t.entries

variable [Std.TransOrd κ] [Std.LawfulEqOrd κ]

@[simp] theorem get?_insert (t : Table κ α) (k k' : κ) (v : α) :
    (t.insert k v).get? k' = if k' = k then some v else t.get? k' :=
  Entries.get?_insert k k' v t.entries

/-- Tables with the same answers are the same table. -/
theorem ext {s t : Table κ α} (h : ∀ k, s.get? k = t.get? k) : s = t := by
  cases s with | mk es he =>
  cases t with | mk fs hf =>
  obtain rfl := Entries.ext he hf h
  rfl

end Table

end RoomSync
