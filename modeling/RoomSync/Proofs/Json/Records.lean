/-
  RoomSync.Proofs.Json.Records
  ────────────────────────────
  **READING A RECORD THAT WAS WRITTEN.**

  A record is written with its members in name order, and read one member after
  the other.  In name order a name stands once, so a member is read as it was
  given, whatever stands beside it; a codec can be checked member by member:

      field?_eq             — members in name order are looked up
      required_record       — a member that is always written
      optional_recordSome   — a member that is left out where it has no value
      list_map              — a list, item by item
-/
import RoomSync.Json.Decode
import RoomSync.Proofs.TableLookup

namespace RoomSync

/-! ## §1. Members in name order. -/

namespace Entries

variable {α : Type}

/-- In key order, the entries of a key are its answer. -/
theorem filter_key {es : List (String × α)} (h : Sorted es) (name : String) :
    es.filter (·.1 = name) = ((get? name es).map (name, ·)).toList := by
  induction es with
  | nil => rfl
  | cons e rest ih =>
      obtain ⟨k, v⟩ := e
      by_cases hk : k = name
      · subst hk
        have hrest : rest.filter (·.1 = k) = [] := by
          refine List.filter_eq_nil_iff.2 fun x hx => ?_
          simpa using Ne.symm (ne_of_compare_lt (h.head x hx))
        rw [List.filter_cons_of_pos (by simp), hrest, get?, if_pos rfl]
        rfl
      · rw [List.filter_cons_of_neg (by simpa using hk), ih h.tail, get?,
          if_neg (Ne.symm hk)]

theorem sorted_foldl_insert (fields : List (String × α)) :
    ∀ {es : List (String × α)}, Sorted es →
      Sorted (fields.foldl (fun es f => insert f.1 f.2 es) es) := by
  induction fields with
  | nil =>
      intro es h
      exact h
  | cons f rest ih =>
      intro es h
      exact ih (sorted_insert f.1 f.2 h)

/-- Entries that are written one after the other, each under a name of its own,
are all found afterwards. -/
theorem get?_foldl_insert (name : String) {fields : List (String × α)} :
    ∀ es : List (String × α), (fields.map (·.1)).Nodup →
      get? name (fields.foldl (fun es f => insert f.1 f.2 es) es) =
        (fields.lookup name).or (get? name es) := by
  induction fields with
  | nil =>
      intro es _
      rfl
  | cons f rest ih =>
      intro es hnames
      obtain ⟨k, v⟩ := f
      rw [List.map_cons, List.nodup_cons] at hnames
      rw [List.foldl_cons, ih _ hnames.2, get?_insert, List.lookup_cons]
      by_cases hk : name = k
      · -- no later field has this name
        subst hk
        have hrest : rest.lookup name = none := by
          refine List.lookup_eq_none_iff.2 fun p hp => ?_
          exact bne_iff_ne.2 fun heq => hnames.1 (List.mem_map.2 ⟨p, hp, heq.symm⟩)
        rw [hrest, if_pos rfl, beq_self_eq_true]
        rfl
      · rw [if_neg hk, beq_eq_false_iff_ne.2 hk]

end Entries

namespace Json

namespace Decode

/-! ## §2. Steps of a decoder. -/

theorem bind_eq_ok {α β : Type} {x : Decoded α} {f : α → Decoded β} {b : β}
    (h : (x >>= f) = .ok b) : ∃ a, x = .ok a ∧ f a = .ok b := by
  cases x with
  | error e => cases h
  | ok a => exact ⟨a, rfl, h⟩

/-- A decoder of a record, after a member that could be read. -/
theorem ok_bind {α β : Type} {x : Decoded α} {a : α} (h : x = .ok a) (f : α → Decoded β) :
    (x >>= f) = f a := by
  rw [h]
  rfl

/-- Only an object has members. -/
theorem eq_object_of_members {type : String} {v : Value} {ms : Members}
    (h : members type v = .ok ms) :
    v = .object ms := by
  cases v with
  | object ms' => exact congrArg Value.object (Except.ok.inj h)
  | _ => cases h

theorem field?_eq {ms : Members} (h : Entries.Sorted ms) (name : String) :
    field? name ms = .ok (Entries.get? name ms) := by
  unfold field?
  rw [Entries.filter_key h]
  cases Entries.get? name ms <;> rfl

theorem all_map {α β : Type} {decode : Decoder β} {encode : α → Value} {g : α → β} (xs : List α)
    (h : ∀ x ∈ xs, decode (encode x) = .ok (g x)) :
    all decode (xs.map encode) = .ok (xs.map g) := by
  induction xs with
  | nil => rfl
  | cons x rest ih =>
      rw [List.map_cons, all, ok_bind (h x List.mem_cons_self),
        ok_bind (ih fun y hy => h y (List.mem_cons_of_mem _ hy))]
      rfl

/-- **A list**, item by item. -/
theorem list_map {α β : Type} {decode : Decoder β} {encode : α → Value} {g : α → β} (xs : List α)
    (h : ∀ x ∈ xs, decode (encode x) = .ok (g x)) :
    list decode (.array (xs.map encode)) = .ok (xs.map g) := all_map xs h

theorem nullable_of_ne_null {α : Type} (decode : Decoder α) {v : Value} (h : v ≠ .null) :
    nullable decode v = (decode v).map some := by
  cases v with
  | null => exact absurd rfl h
  | _ => rfl

theorem u64_ofNat {n : Nat} (h : n ≤ maxU64) : u64 (.ofNat n) = .ok n := by
  have hbounds : 0 ≤ (n : Int) ∧ (n : Int) ≤ (maxU64 : Int) := by omega
  exact (if_pos hbounds).trans (congrArg Except.ok (Int.toNat_natCast n))

/-! ## §3. Records. -/

/-- The members of a record. -/
def recordMembers (fields : List (String × Value)) : Members :=
  fields.foldl (fun ms f => Entries.insert f.1 f.2 ms) []

/-- The fields that have a value. -/
def present (fields : List (String × Option Value)) : List (String × Value) :=
  fields.filterMap fun f => f.2.map (f.1, ·)

theorem field?_record {fields : List (String × Value)} (hnames : (fields.map (·.1)).Nodup)
    (name : String) : field? name (recordMembers fields) = .ok (fields.lookup name) := by
  unfold recordMembers
  rw [field?_eq (Entries.sorted_foldl_insert fields Entries.sorted_nil),
    Entries.get?_foldl_insert name [] hnames, Entries.get?_nil, Option.or_none]

/-- **A member that is written** is read from its value. -/
theorem required_record {α : Type} {fields : List (String × Value)}
    (hnames : (fields.map (·.1)).Nodup) {name : String} {v : Value}
    (h : fields.lookup name = some v) (decode : Decoder α) :
    required name decode (recordMembers fields) = decode v := by
  unfold required
  rw [field?_record hnames, h]
  rfl

theorem optional_record {α : Type} {fields : List (String × Value)}
    (hnames : (fields.map (·.1)).Nodup) (name : String) (decode : Decoder α) :
    optional name decode (recordMembers fields) =
      match fields.lookup name with
      | some v => nullable decode v
      | none => .ok none := by
  unfold optional
  rw [field?_record hnames]
  rfl

theorem defaulted_record {α : Type} {fields : List (String × Value)}
    (hnames : (fields.map (·.1)).Nodup) {name : String} {v : Value}
    (h : fields.lookup name = some v) (default : α) (decode : Decoder α) :
    defaulted name default decode (recordMembers fields) = decode v := by
  unfold defaulted
  rw [field?_record hnames, h]
  rfl

/-- Members that are all known leave nothing that could be unreadable. -/
theorem readableOthers_record {known : List String} {fields : List (String × Value)}
    (h : ∀ f ∈ fields, f.1 ∈ known) : readableOthers known (recordMembers fields) = .ok () := by
  have hnone : unknown known (recordMembers fields) = [] := by
    refine List.filter_eq_nil_iff.2 fun m hm => ?_
    have hknown : m.1 ∈ known := by
      rcases Entries.mem_foldl_insert fields hm with hm | hm
      · exact h m hm
      · cases hm
    simpa using hknown
  unfold readableOthers
  rw [hnone]
  rfl

/-- A record whose type is told by a member. -/
theorem tagged_object {α : Type} {type name : String} {decode : Decoder α} {ms : Members} {a : α}
    (h : required name decode ms = .ok a) :
    tagged type name decode (.object ms) = .ok (a, .object ms) := ok_bind h _

/-! ## §4. Records without some of their members. -/

theorem names_present (fields : List (String × Option Value)) :
    ((present fields).map (·.1)).Sublist (fields.map (·.1)) := by
  induction fields with
  | nil => exact List.Sublist.refl _
  | cons f rest ih =>
      obtain ⟨k, o⟩ := f
      cases o with
      | none => exact ih.cons k
      | some v => exact ih.cons_cons k

theorem lookup_present {fields : List (String × Option Value)}
    (hnames : (fields.map (·.1)).Nodup) (name : String) :
    (present fields).lookup name = (fields.lookup name).join := by
  induction fields with
  | nil => rfl
  | cons f rest ih =>
      obtain ⟨k, o⟩ := f
      rw [List.map_cons, List.nodup_cons] at hnames
      have ih := ih hnames.2
      rw [List.lookup_cons]
      by_cases hk : name = k
      · subst hk
        rw [beq_self_eq_true]
        cases o with
        | none =>
            -- a name that is left out stands nowhere else
            refine List.lookup_eq_none_iff.2 fun p hp => bne_iff_ne.2 fun heq => hnames.1 ?_
            exact (names_present rest).subset (List.mem_map.2 ⟨p, hp, heq.symm⟩)
        | some v =>
            show List.lookup name ((name, v) :: present rest) = some v
            rw [List.lookup_cons, beq_self_eq_true]
      · rw [beq_eq_false_iff_ne.2 hk]
        cases o with
        | none => exact ih
        | some v =>
            show List.lookup name ((k, v) :: present rest) = _
            rw [List.lookup_cons, beq_eq_false_iff_ne.2 hk]
            exact ih

variable {α : Type} {fields : List (String × Option Value)} (hnames : (fields.map (·.1)).Nodup)
  {name : String}

include hnames

theorem required_recordSome {v : Value} (h : fields.lookup name = some (some v))
    (decode : Decoder α) :
    required name decode (recordMembers (present fields)) = decode v := by
  refine required_record (hnames.sublist (names_present fields)) ?_ decode
  rw [lookup_present hnames, h]
  rfl

/-- **A member that is left out where it has no value**, and whose values are
read back, is read back. -/
theorem optional_recordSome {decode : Decoder α} (encode : α → Value) {x : Option α}
    (h : fields.lookup name = some (x.map encode))
    (hdecode : ∀ a, x = some a → nullable decode (encode a) = .ok (some a)) :
    optional name decode (recordMembers (present fields)) = .ok x := by
  rw [optional_record (hnames.sublist (names_present fields)), lookup_present hnames, h]
  cases x with
  | none => rfl
  | some a => exact hdecode a rfl

end Decode

end Json

end RoomSync
