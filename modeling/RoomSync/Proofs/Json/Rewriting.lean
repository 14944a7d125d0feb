/-
  RoomSync.Proofs.Json.Rewriting
  ──────────────────────────────
  **WHAT A DOCUMENT BECOMES WHEN IT IS READ AND WRITTEN AGAIN.**

  That a value comes back from what is written of it does not say what is written.
  Here the document itself is followed: of a document that could be read, what is
  written is the value it means, but for a known change (`Rewrites`).  A record may
  lose members that are `null` and gain members that were missing, and all others
  keep their values:

      get?_canonicalMembers — the value that is meant has the last member of a name
      keepWith_eq           — content in name order is kept as it is
      others_eq             — a member that is not known passes through with its value
      Rewrites.optional, .defaulted — the members of a record
      get?_withoutNulls, get?_editMember, get?_withDefaults — the change of a record

  A number that is not finite is no JSON, and is kept as `null` where one comes from
  elsewhere; so it is asked that there is none.
-/
import RoomSync.Proofs.Json.Edits
import RoomSync.Proofs.Json.RoundTrips

namespace RoomSync.Json

namespace Value

/-! ## §1. The value that is meant. -/

/-- A number is finite. -/
def FiniteNumber : Value → Prop
  | .double d => d.isFinite = true
  | _ => True

/-- All numbers in it are finite, as they are in a JSON text. -/
abbrev IsFinite (v : Value) : Prop := Throughout FiniteNumber v

/-- **Of a repeated name the last member is meant.** -/
theorem get?_canonicalMembers (name : String) (ms : Members) :
    Entries.get? name (canonicalMembers ms) = ((Value.object ms).last? name).map canonical := by
  show _ = (((ms.filter (·.1 = name)).getLast?).map (·.2)).map canonical
  induction ms with
  | nil => rfl
  | cons m rest ih =>
      obtain ⟨k, v⟩ := m
      rw [getLast?_filter_cons Prod.fst]
      unfold canonicalMembers
      dsimp only
      by_cases hk : k = name
      · subst hk
        rw [if_pos rfl]
        cases hlast : (rest.filter (·.1 = k)).getLast? with
        | none =>
            rw [hlast] at ih
            rw [ih, if_neg (by simp), Entries.get?_insert, if_pos rfl]
            rfl
        | some later =>
            rw [hlast] at ih
            rw [ih, if_pos (by simp), ih]
            rfl
      · rw [if_neg hk, Option.or_none]
        split
        next => exact ih
        next => rw [Entries.get?_insert, if_neg (Ne.symm hk), ih]

end Value

namespace Decode

open Value

/-! ## §2. Content that is not changed. -/

mutual

/-- **Content in name order is kept as it is**, if it is kept. -/
theorem keepWith_eq : ∀ {v w : Value}, Throughout InOrder v → IsFinite v →
    keepWith noText v = .ok w → w = v
  | .null, _, _, _, h => (Except.ok.inj h).symm
  | .bool _, _, _, _, h => (Except.ok.inj h).symm
  | .integer _, _, _, _, h => (Except.ok.inj h).symm
  | .double _, _, _, hfinite, h => (Except.ok.inj h).symm.trans (if_pos hfinite)
  | .string _, _, _, _, h => (Except.ok.inj h).symm
  | .array items, _, hin, hfinite, h => by
      rw [keepWith] at h
      cases hitems : keepItems noText items with
      | error e =>
          rw [hitems] at h
          cases h
      | ok rs =>
          rw [hitems] at h
          obtain rfl := Except.ok.inj h
          rw [keepItems_eq hin.2 hfinite.2 hitems]
  | .object ms, _, hin, hfinite, h => by
      rw [keepWith] at h
      split at h
      next => cases h
      next =>
        cases hms : keepMembers noText ms with
        | error e =>
            rw [hms] at h
            cases h
        | ok rs =>
            rw [hms] at h
            obtain rfl := Except.ok.inj h
            rw [keepMembers_eq hin.1 hin.2 hfinite.2 hms]
  | .unreadable, _, _, _, h => by cases h

theorem keepItems_eq : ∀ {vs ws : List Value}, ThroughoutItems InOrder vs →
    ThroughoutItems FiniteNumber vs → keepItems noText vs = .ok ws → ws = vs
  | [], _, _, _, h => (Except.ok.inj h).symm
  | v :: vs, _, hin, hfinite, h => by
      rw [keepItems] at h
      obtain ⟨r, hv, h⟩ := bind_eq_ok h
      obtain ⟨rest, hvs, h⟩ := bind_eq_ok h
      obtain rfl := Except.ok.inj h
      rw [keepWith_eq hin.1 hfinite.1 hv, keepItems_eq hin.2 hfinite.2 hvs]

theorem keepMembers_eq : ∀ {ms rs : List (String × Value)}, Entries.Sorted ms →
    ThroughoutMembers InOrder ms → ThroughoutMembers FiniteNumber ms →
    keepMembers noText ms = .ok rs → rs = ms
  | [], _, _, _, _, h => (Except.ok.inj h).symm
  | (k, v) :: ms, _, hsorted, hin, hfinite, h => by
      rw [keepMembers] at h
      obtain ⟨r, hv, h⟩ := bind_eq_ok h
      obtain ⟨rest, hms, h⟩ := bind_eq_ok h
      obtain rfl := Except.ok.inj h
      rw [keepWith_eq hin.1 hfinite.1 hv, keepMembers_eq hsorted.tail hin.2 hfinite.2 hms,
        get?_front hsorted, if_neg Bool.false_ne_true, insert_front hsorted]

end

theorem opaqueValue_eq {v w : Value} (hfinite : v.canonical.IsFinite)
    (h : opaqueValue v = .ok w) : w = v.canonical :=
  keepWith_eq (canonical_inOrder v) hfinite h

/-! ## §3. Members that are found. -/

section Members

variable {α : Type} {decode : Decoder α} {encode : α → Value} {tidy : Value → Value}
  {ms other : Members} {known : List String} {name : String} {a default : α} {o : Option α}

/-- A member that could be looked up is the one that is meant. -/
theorem get?_of_field? {found : Option Value} (h : field? name ms = .ok found) :
    Entries.get? name (canonicalMembers ms) = found.map canonical := by
  rw [get?_canonicalMembers, last?_of_field? h]

/-- The numbers of a member that is meant are among those of the record. -/
theorem finite_of_get? {v : Value} (hfinite : ThroughoutMembers FiniteNumber ms)
    (h : Entries.get? name ms = some v) (hsorted : Entries.Sorted ms) : v.IsFinite :=
  throughoutMembers_iff.1 hfinite (name, v) ((Entries.mem_iff_get? hsorted).2 h)

/-- What is meant by the members that are not known. -/
theorem canonicalMembers_unknown (known : List String) (ms : Members) :
    canonicalMembers (unknown known ms) =
      (canonicalMembers ms).filter fun m => !known.contains m.1 := by
  have hsorted := (canonicalMembers_inOrder ms).1
  refine Entries.ext (canonicalMembers_inOrder _).1 (Entries.sorted_filter _ hsorted) fun k => ?_
  rw [Entries.get?_filter k (fun k _ => !known.contains k) hsorted, get?_canonicalMembers,
    get?_canonicalMembers]
  unfold Value.last? unknown
  dsimp only
  -- whether a member of this name is known does not depend on the member
  have hname : ((ms.filter fun m => !known.contains m.1).filter (·.1 = k)) =
      (ms.filter (·.1 = k)).filter fun _ => !known.contains k := by
    rw [List.filter_filter, List.filter_filter]
    refine List.filter_congr fun m _ => ?_
    by_cases hm : m.1 = k
    · rw [hm, Bool.and_comm]
    · simp [hm]
  rw [hname]
  cases known.contains k with
  | true =>
      have hnone : ((ms.filter (·.1 = k)).filter fun _ => !true) = [] :=
        List.filter_eq_nil_iff.2 fun _ _ => by simp
      rw [hnone]
      exact (Option.filter_eq_none_iff.2 fun _ _ => by simp).symm
  | false =>
      have hall : ((ms.filter (·.1 = k)).filter fun _ => !false) = ms.filter (·.1 = k) :=
        List.filter_eq_self.2 fun _ _ => rfl
      rw [hall]
      cases (ms.filter (·.1 = k)).getLast? <;> rfl

/-- The members that are not known, one by one. -/
theorem get?_unknown (known : List String) (hsorted : Entries.Sorted ms) :
    Entries.get? name (ms.filter fun m => !known.contains m.1) =
      if name ∈ known then none else Entries.get? name ms := by
  rw [Entries.get?_filter name (fun k _ => !known.contains k) hsorted]
  by_cases hname : name ∈ known
  · rw [if_pos hname, List.contains_iff_mem.2 hname]
    exact Option.filter_eq_none_iff.2 fun _ _ => by simp
  · rw [if_neg hname, Bool.eq_false_iff.2 fun h => hname (List.contains_iff_mem.1 h)]
    cases Entries.get? name ms <;> rfl

/-- **A member that is not known passes through** with its value. -/
theorem others_eq (hfinite : ThroughoutMembers FiniteNumber (canonicalMembers ms))
    (h : others known ms = .ok other) :
    other = (canonicalMembers ms).filter fun m => !known.contains m.1 := by
  rw [← canonicalMembers_unknown]
  obtain ⟨hsorted, hin⟩ := canonicalMembers_inOrder (unknown known ms)
  refine keepMembers_eq hsorted hin ?_ h
  rw [throughoutMembers_iff] at hfinite ⊢
  intro m hm
  rw [canonicalMembers_unknown] at hm
  exact hfinite m (List.mem_filter.1 hm).1

/-! ## §4. Members that are read and written. -/

/-- What is written of a document that could be read is the value it means, but for this
change. -/
def Rewrites (decode : Decoder α) (encode : α → Value) (tidy : Value → Value) : Prop :=
  ∀ (v : Value) (a : α), v.canonical.IsFinite → decode v = .ok a → encode a = tidy v.canonical

theorem rewrites_string : Rewrites string .string id := by
  intro v s _ h
  cases v with
  | string t =>
      obtain rfl := Except.ok.inj h
      rfl
  | _ => cases h

theorem rewrites_integer (lo hi : Int) (type : String) :
    Rewrites (integer lo hi type) .integer id := by
  intro v i _ h
  cases v with
  | integer j =>
      unfold integer at h
      dsimp only at h
      split at h
      next =>
        obtain rfl := Except.ok.inj h
        rfl
      next => cases h
  | _ => cases h

theorem rewrites_natural (limit : Nat) (type : String) :
    Rewrites (natural limit type) .ofNat id := by
  intro v n _ h
  cases v with
  | integer j =>
      unfold natural at h
      dsimp only at h
      split at h
      next hrange =>
        obtain rfl := Except.ok.inj h
        exact congrArg Value.integer (Int.toNat_of_nonneg hrange.1)
      next => cases h
  | _ => cases h

theorem rewrites_opaqueValue : Rewrites opaqueValue id id := fun _ _ hfinite h =>
  opaqueValue_eq hfinite h

theorem eq_null_of_nullable {v : Value} (h : nullable decode v = .ok none) : v = .null := by
  by_cases hv : v = .null
  · exact hv
  · rw [nullable_of_ne_null decode hv] at h
    cases hread : decode v with
    | error e =>
        rw [hread] at h
        cases h
    | ok a =>
        rw [hread] at h
        cases Except.ok.inj h

/-- **A member that may be missing** is written where it is not `null`. -/
theorem Rewrites.optional (h : Rewrites decode encode id) (hnull : ∀ a, encode a ≠ .null)
    (hfinite : ThroughoutMembers FiniteNumber (canonicalMembers ms))
    (hread : Decode.optional name decode ms = .ok o) :
    o.map encode = (Entries.get? name (canonicalMembers ms)).filter fun v => !v.isNull := by
  obtain ⟨found, hfound, hread⟩ := bind_eq_ok hread
  have hget := get?_of_field? hfound
  cases found with
  | none =>
      obtain rfl := Except.ok.inj hread
      rw [hget]
      rfl
  | some v =>
      cases o with
      | none =>
          obtain rfl := eq_null_of_nullable hread
          rw [hget]
          rfl
      | some a =>
          have hv := finite_of_get? hfinite hget (canonicalMembers_inOrder ms).1
          have hwritten : encode a = v.canonical := h v a hv (of_nullable hread)
          have hvalue : (encode a).isNull = false := by
            cases hencoded : encode a with
            | null => exact absurd hencoded (hnull a)
            | _ => rfl
          rw [hget]
          show some (encode a) = Option.filter _ (some v.canonical)
          rw [← hwritten, Option.filter_some, hvalue]
          rfl

/-- **A member with a default** is written in any case. -/
theorem Rewrites.defaulted (h : Rewrites decode encode tidy)
    (hfinite : ThroughoutMembers FiniteNumber (canonicalMembers ms))
    (hread : Decode.defaulted name default decode ms = .ok a) :
    encode a = ((Entries.get? name (canonicalMembers ms)).map tidy).getD (encode default) := by
  obtain ⟨found, hfound, hread⟩ := bind_eq_ok hread
  have hget := get?_of_field? hfound
  rw [hget]
  cases found with
  | none =>
      obtain rfl := Except.ok.inj hread
      rfl
  | some v => exact h v a (finite_of_get? hfinite hget (canonicalMembers_inOrder ms).1) hread

/-- The same for a member that is not changed. -/
theorem Rewrites.defaulted_same (h : Rewrites decode encode id)
    (hfinite : ThroughoutMembers FiniteNumber (canonicalMembers ms))
    (hread : Decode.defaulted name default decode ms = .ok a) :
    encode a = (Entries.get? name (canonicalMembers ms)).getD (encode default) := by
  have hwritten := h.defaulted hfinite hread
  rwa [Option.map_id] at hwritten

/-- **A record is written** with the members that passed through beside those that are
known, so it is told by its members. -/
theorem beside_eq {fields : List (String × Option Value)} {written : Members}
    (hfinite : ThroughoutMembers FiniteNumber (canonicalMembers ms))
    (hread : others known ms = .ok other) (hnames : (fields.map (·.1)).Nodup)
    (hknown : ∀ f ∈ fields, f.1 ∈ known) (hsorted : Entries.Sorted written)
    (hfield : ∀ name ∈ known, Entries.get? name written = (fields.lookup name).join)
    (hother : ∀ name, name ∉ known →
      Entries.get? name written = Entries.get? name (canonicalMembers ms)) :
    beside other (present fields) = written := by
  have hpassed := passed_others hread
  have hpresent := hnames.sublist (names_present fields)
  refine Entries.ext (Entries.sorted_foldl_insert _ hpassed.sorted) hsorted fun name => ?_
  by_cases hname : name ∈ known
  · rw [get?_beside hpassed hpresent hname, lookup_present hnames, hfield name hname]
  · have hmissing : (present fields).lookup name = none := by
      refine List.lookup_eq_none_iff.2 fun f hf => bne_iff_ne.2 fun heq => hname ?_
      obtain ⟨f', hf', hsame⟩ :=
        List.mem_map.1 ((names_present fields).subset (List.mem_map_of_mem hf))
      rw [heq, ← hsame]
      exact hknown f' hf'
    unfold beside
    rw [Entries.get?_foldl_insert name other hpresent, hmissing, Option.none_or, hother name hname,
      others_eq hfinite hread, get?_unknown known (canonicalMembers_inOrder ms).1, if_neg hname]

end Members

end Decode

/-! ## §5. The change of a record. -/

namespace Value

/-- Put a member in where there is none of its name. -/
def addMissing (ms : Members) (d : String × Value) : Members :=
  if (Entries.get? d.1 ms).isSome then ms else Entries.insert d.1 d.2 ms

/-- A record with these members where it has none of their names. -/
def withDefaults (defaults : List (String × Value)) : Value → Value
  | .object ms => .object (defaults.foldl addMissing ms)
  | v => v

/-- A record without members of these names that are `null`. -/
def withoutNulls (names : List String) : Value → Value
  | .object ms => .object (ms.filter fun m => !(names.contains m.1 && m.2.isNull))
  | v => v

variable {ms : Members} {name : String}

theorem get?_withoutNulls (names : List String) (hsorted : Entries.Sorted ms) :
    (withoutNulls names (.object ms)).get? name =
      if name ∈ names then ((Value.object ms).get? name).filter fun v => !v.isNull
      else (Value.object ms).get? name := by
  refine (Entries.get?_filter name (fun k (v : Value) => !(names.contains k && v.isNull))
    hsorted).trans ?_
  by_cases hname : name ∈ names
  · rw [if_pos hname, List.contains_iff_mem.2 hname]
    rfl
  · rw [if_neg hname, Bool.eq_false_iff.2 fun h => hname (List.contains_iff_mem.1 h)]
    show Option.filter _ (Entries.get? name ms) = Entries.get? name ms
    cases Entries.get? name ms <;> rfl

theorem get?_editMember (other : String) (edit : Value → Value) :
    (editMember other edit (.object ms)).get? name =
      ((Value.object ms).get? name).map fun v => if name = other then edit v else v :=
  Entries.get?_map name (fun k v => if k = other then edit v else v) ms

theorem sorted_addMissing (d : String × Value) (h : Entries.Sorted ms) :
    Entries.Sorted (addMissing ms d) := by
  unfold addMissing
  split
  next => exact h
  next => exact Entries.sorted_insert d.1 d.2 h

theorem get?_addMissing (ms : Members) (d : String × Value) :
    Entries.get? name (addMissing ms d) =
      (Entries.get? name ms).or (if name = d.1 then some d.2 else none) := by
  unfold addMissing
  split
  next hthere =>
    obtain ⟨v, hv⟩ := Option.isSome_iff_exists.1 hthere
    by_cases hname : name = d.1
    · rw [hname, hv]
      rfl
    · rw [if_neg hname, Option.or_none]
  next hmissing =>
    rw [Entries.get?_insert]
    by_cases hname : name = d.1
    · rw [if_pos hname, hname, Option.not_isSome_iff_eq_none.1 hmissing, if_pos rfl, Option.none_or]
    · rw [if_neg hname, if_neg hname, Option.or_none]

theorem sorted_withDefaults (defaults : List (String × Value)) :
    ∀ {ms : Members}, Entries.Sorted ms → Entries.Sorted (defaults.foldl addMissing ms) := by
  induction defaults with
  | nil =>
      intro ms h
      exact h
  | cons d rest ih =>
      intro ms h
      exact ih (sorted_addMissing d h)

theorem get?_withDefaults (defaults : List (String × Value)) :
    ∀ ms : Members, (withDefaults defaults (.object ms)).get? name =
      ((Value.object ms).get? name).or (defaults.lookup name) := by
  show ∀ ms : Members, Entries.get? name (defaults.foldl addMissing ms) =
    (Entries.get? name ms).or (defaults.lookup name)
  induction defaults with
  | nil =>
      intro ms
      exact Option.or_none.symm
  | cons d rest ih =>
      intro ms
      rw [List.foldl_cons, ih, get?_addMissing, Option.or_assoc, List.lookup_cons]
      by_cases hname : name = d.1
      · rw [if_pos hname, beq_iff_eq.2 hname]
        rfl
      · rw [if_neg hname, beq_eq_false_iff_ne.2 hname]
        rfl

end Value

end RoomSync.Json
