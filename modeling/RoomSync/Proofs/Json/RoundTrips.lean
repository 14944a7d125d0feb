/-
  RoomSync.Proofs.Json.RoundTrips
  ───────────────────────────────
  **WHAT IS READ COMES BACK WHEN IT IS WRITTEN.**

  A reader accepts many documents for one value, and a writer writes one of them.
  They belong together if whatever the reader made of any document is read again
  from what the writer makes of it (`RoundTrips`).  This is passed on from the
  parts to the whole, so it is shown for scalars, lists and members once, and for
  a record by naming its members:

      RoundTrips.list, .nullable, .pair          — parts in order
      RoundTrips.required, .optional, .defaulted — members of a record
      roundTrips_opaqueValue                     — content that is not interpreted
      others_beside                              — members that pass through
      RoundTrips.rewritten                       — to write again changes nothing

  Nothing is asked of the values themselves: that a number is in range, or that
  content is in its kept form, is known of whatever was read.
-/
import RoomSync.Proofs.Json.Content

namespace RoomSync.Json.Decode

variable {α : Type} {decode : Decoder α} {encode : α → Value}

/-- Whatever is read is read again from what is written of it. -/
def RoundTrips (decode : Decoder α) (encode : α → Value) : Prop :=
  ∀ (v : Value) (x : α), decode v = .ok x → decode (encode x) = .ok x

/-- **To read and write a second time changes nothing.** -/
theorem RoundTrips.rewritten (h : RoundTrips decode encode) {v w : Value}
    (hw : (decode v).map encode = .ok w) : (decode w).map encode = .ok w := by
  cases hv : decode v with
  | error e =>
    rw [hv] at hw
    cases hw
  | ok x =>
    rw [hv] at hw
    obtain rfl := Except.ok.inj hw
    rw [h v x hv]
    rfl

/-! ## §1. Scalars. -/

theorem roundTrips_string : RoundTrips string Value.string := fun _ _ _ => rfl

theorem roundTrips_bool : RoundTrips bool Value.bool := fun _ _ _ => rfl

/-- A number that was read is in range. -/
theorem roundTrips_natural (limit : Nat) (type : String) :
    RoundTrips (natural limit type) Value.ofNat := by
  intro v n h
  cases v with
  | integer i =>
    unfold natural at h
    dsimp only at h
    split at h
    next hrange =>
      obtain rfl := Except.ok.inj h
      have hsame : 0 ≤ (i.toNat : Int) ∧ (i.toNat : Int) ≤ (limit : Int) := by omega
      exact (if_pos hsame).trans (congrArg Except.ok (Int.toNat_natCast _))
    next => cases h
  | _ => cases h

theorem roundTrips_integer (lo hi : Int) (type : String) :
    RoundTrips (integer lo hi type) Value.integer := by
  intro v i h
  cases v with
  | integer j =>
    unfold integer at h
    dsimp only at h
    split at h
    next hrange =>
      obtain rfl := Except.ok.inj h
      exact if_pos hrange
    next => cases h
  | _ => cases h

theorem roundTrips_u64 : RoundTrips u64 Value.ofNat := roundTrips_natural _ _

theorem roundTrips_u32 : RoundTrips u32 Value.ofNat := roundTrips_natural _ _

theorem roundTrips_i64 : RoundTrips i64 Value.integer := roundTrips_integer _ _ _

theorem roundTrips_opaqueValue : RoundTrips opaqueValue id := fun _ _ h =>
  opaqueValue_of_kept (kept_opaqueValue h)

/-! ## §2. Lists. -/

theorem RoundTrips.all (h : RoundTrips decode encode) {vs : List Value} :
    ∀ {xs : List α}, Decode.all decode vs = .ok xs →
      Decode.all decode (xs.map encode) = .ok xs := by
  induction vs with
  | nil =>
    intro xs hxs
    obtain rfl := Except.ok.inj hxs
    rfl
  | cons v rest ih =>
    intro xs hxs
    obtain ⟨x, hx, hxs⟩ := bind_eq_ok hxs
    obtain ⟨ys, hys, hxs⟩ := bind_eq_ok hxs
    obtain rfl := Except.ok.inj hxs
    rw [List.map_cons, Decode.all, ok_bind (h v x hx), ok_bind (ih hys)]
    rfl

/-- **A list**, item by item. -/
theorem RoundTrips.list (h : RoundTrips decode encode) :
    RoundTrips (Decode.list decode) (fun xs => .array (xs.map encode)) := by
  intro v xs hxs
  cases v with
  | array items => exact h.all hxs
  | _ => cases hxs

theorem RoundTrips.pair (h : RoundTrips decode encode) :
    RoundTrips (Decode.pair decode) (fun p => .array [encode p.1, encode p.2]) := by
  intro v p hp
  unfold Decode.pair at hp
  split at hp
  next =>
    obtain ⟨a, ha, hp⟩ := bind_eq_ok hp
    obtain ⟨b, hb, hp⟩ := bind_eq_ok hp
    obtain rfl := Except.ok.inj hp
    show (decode (encode a) >>= fun a => decode (encode b) >>= fun b => pure (a, b)) = _
    rw [ok_bind (h _ a ha), ok_bind (h _ b hb)]
    rfl
  next => cases hp
  next => cases hp

/-- A value that is not `null` was read as such. -/
theorem of_nullable {v : Value} {x : α} (h : Decode.nullable decode v = .ok (some x)) :
    decode v = .ok x := by
  by_cases hnull : v = .null
  · subst hnull
    cases h
  · rw [nullable_of_ne_null decode hnull] at h
    cases hv : decode v with
    | error e =>
      rw [hv] at h
      cases h
    | ok y =>
      rw [hv] at h
      obtain rfl := Option.some.inj (Except.ok.inj h)
      rfl

/-- `null` or a value, if no value is written as `null`. -/
theorem RoundTrips.nullable (h : RoundTrips decode encode) (hnull : ∀ x, encode x ≠ .null) :
    RoundTrips (Decode.nullable decode) (Value.ofOption encode) := by
  intro v o ho
  cases o with
  | none => rfl
  | some x =>
    show Decode.nullable decode (encode x) = .ok (some x)
    rw [nullable_of_ne_null decode (hnull x), h v x (of_nullable ho)]
    rfl

/-! ## §3. Members. -/

section Members

variable {ms written : Members} {name : String} {x default : α} {o : Option α}

theorem RoundTrips.required (h : RoundTrips decode encode)
    (hread : Decode.required name decode ms = .ok x)
    (hfield : field? name written = .ok (some (encode x))) :
    Decode.required name decode written = .ok x := by
  obtain ⟨found, -, hread⟩ := bind_eq_ok hread
  cases found with
  | none => cases hread
  | some v =>
    unfold Decode.required
    rw [hfield]
    exact h v x hread

/-- A member that is left out where it has no value. -/
theorem RoundTrips.optional (h : RoundTrips decode encode) (hnull : ∀ x, encode x ≠ .null)
    (hread : Decode.optional name decode ms = .ok o)
    (hfield : field? name written = .ok (o.map encode)) :
    Decode.optional name decode written = .ok o := by
  unfold Decode.optional
  rw [hfield]
  cases o with
  | none => rfl
  | some x =>
    -- what has a value was not left out
    obtain ⟨found, -, hread⟩ := bind_eq_ok hread
    cases found with
    | none => cases Except.ok.inj hread
    | some v => exact h.nullable hnull v (some x) hread

/-- A member that is always written, also where it has its default. -/
theorem RoundTrips.defaulted (h : RoundTrips decode encode)
    (hdefault : decode (encode default) = .ok default)
    (hread : Decode.defaulted name default decode ms = .ok x)
    (hfield : field? name written = .ok (some (encode x))) :
    Decode.defaulted name default decode written = .ok x := by
  unfold Decode.defaulted
  rw [hfield]
  show decode (encode x) = .ok x
  obtain ⟨found, -, hread⟩ := bind_eq_ok hread
  cases found with
  | none =>
    -- the default is written, and so it must be readable
    obtain rfl := Except.ok.inj hread
    exact hdefault
  | some v => exact h v x hread

/-- A member of a record that was written. -/
theorem field?_recordSome (fields : List (String × Option Value))
    (hnames : (fields.map (·.1)).Nodup) (name : String) :
    field? name (recordMembers (present fields)) = .ok (fields.lookup name).join := by
  rw [field?_record (hnames.sublist (names_present fields)), lookup_present hnames]

end Members

/-! ## §4. Members that pass through. -/

/-- The members of a record beside those that pass through. -/
def beside (other : Members) (fields : List (String × Value)) : Members :=
  fields.foldl (fun ms f => Entries.insert f.1 f.2 ms) other

/-- Members that have passed through a record that knows these names. -/
structure Passed (known : List String) (other : Members) : Prop where
  sorted : Entries.Sorted other
  kept : Value.ThroughoutMembers Plain other
  unknown : ∀ m ∈ other, m.1 ∉ known

theorem names_canonicalMembers (ms : Members) :
    ∀ m ∈ Value.canonicalMembers ms, m.1 ∈ ms.map (·.1) := by
  induction ms with
  | nil => exact nofun
  | cons m rest ih =>
    intro m' hm'
    rw [List.map_cons, List.mem_cons]
    unfold Value.canonicalMembers at hm'
    dsimp only at hm'
    split at hm'
    next => exact .inr (ih m' hm')
    next =>
      obtain rfl | hm' := Entries.mem_insert hm'
      · exact .inl rfl
      · exact .inr (ih m' hm')

/-- Whatever passes through has passed. -/
theorem passed_others {known : List String} {ms other : Members}
    (h : others known ms = .ok other) : Passed known other := by
  obtain ⟨hsorted, hinOrder⟩ := Value.canonicalMembers_inOrder (unknown known ms)
  obtain ⟨hnames, hkept⟩ := kept_of_keepMembers hsorted hinOrder h
  refine ⟨sorted_of_names hnames hsorted, hkept, fun m hm => ?_⟩
  -- the names are those of the members that are not known
  have hname : m.1 ∈ (Value.canonicalMembers (unknown known ms)).map (·.1) := by
    rw [← hnames]
    exact List.mem_map_of_mem hm
  obtain ⟨m', hm', hsame⟩ := List.mem_map.mp hname
  obtain ⟨m'', hm'', hsame'⟩ := List.mem_map.mp (names_canonicalMembers _ m' hm')
  have hunknown := (List.mem_filter.mp hm'').2
  rw [← hsame, ← hsame']
  simpa using hunknown

section Beside

variable {known : List String} {other : Members} {fields : List (String × Value)}
  (h : Passed known other) (hnames : (fields.map (·.1)).Nodup)

include h hnames

theorem get?_beside {name : String} (hname : name ∈ known) :
    Entries.get? name (beside other fields) = fields.lookup name := by
  have hnone : Entries.get? name other = none :=
    Entries.get?_eq_none_of_forall_ne fun m hm heq => h.unknown m hm (heq ▸ hname)
  unfold beside
  rw [Entries.get?_foldl_insert name other hnames, hnone, Option.or_none]

/-- A known member is one of the record. -/
theorem field?_beside {name : String} (hname : name ∈ known) :
    field? name (beside other fields) = .ok (fields.lookup name) := by
  have hsorted : Entries.Sorted (beside other fields) :=
    Entries.sorted_foldl_insert fields h.sorted
  rw [field?_eq hsorted, get?_beside h hnames hname]

/-- **What has passed passes again**, whatever stands beside it. -/
theorem others_beside (hknown : ∀ f ∈ fields, f.1 ∈ known) :
    others known (beside other fields) = .ok other := by
  have hsorted : Entries.Sorted (beside other fields) :=
    Entries.sorted_foldl_insert fields h.sorted
  have hunknown : unknown known (beside other fields) = other := by
    refine Entries.ext (Entries.sorted_filter _ hsorted) h.sorted fun name => ?_
    show Entries.get? name ((beside other fields).filter fun m => !known.contains m.1) = _
    rw [Entries.get?_filter name (fun k _ => !known.contains k) hsorted]
    by_cases hname : name ∈ known
    · have hnone : Entries.get? name other = none :=
        Entries.get?_eq_none_of_forall_ne fun m hm heq => h.unknown m hm (heq ▸ hname)
      rw [hnone, Option.filter_eq_none_iff]
      simp [hname]
    · have hfields : fields.lookup name = none :=
        List.lookup_eq_none_iff.mpr fun f hf =>
          bne_iff_ne.mpr fun heq => hname (heq ▸ hknown f hf)
      unfold beside
      rw [Entries.get?_foldl_insert name other hnames, hfields, Option.none_or]
      cases Entries.get? name other with
      | none => rfl
      | some v => simp [Option.filter, hname]
  unfold others
  rw [hunknown, canonicalMembers_self (fun _ hplain => hplain.1) h.sorted h.kept]
  exact keepMembers_self h.sorted h.kept

end Beside

/-! ## §5. Maps. -/

/-- The values of a map were read. -/
theorem mem_entries {v : Value} {es : List (String × α)} (h : entries decode v = .ok es) :
    ∀ e ∈ es, ∃ w, decode w = .ok e.2 := by
  have hgo : ∀ (ms : Members) (es : List (String × α)), entries.go decode ms = .ok es →
      ∀ e ∈ es, ∃ w, decode w = .ok e.2 := by
    intro ms
    induction ms with
    | nil =>
      intro es h
      obtain rfl := Except.ok.inj h
      exact nofun
    | cons m rest ih =>
      intro es h
      obtain ⟨a, ha, h⟩ := bind_eq_ok h
      obtain ⟨more, hmore, h⟩ := bind_eq_ok h
      obtain rfl := Except.ok.inj h
      intro e he
      obtain rfl | he := List.mem_cons.mp he
      · exact ⟨m.2, ha⟩
      · exact ih more hmore e he
  cases v with
  | object ms => exact hgo ms es h
  | _ => cases h

/-- **A map**, entry by entry. -/
theorem entries_map {κ : Type} (name : κ → String) {es : List (κ × α)}
    (h : ∀ e ∈ es, decode (encode e.2) = .ok e.2) :
    entries decode (.object (es.map fun e => (name e.1, encode e.2))) =
      .ok (es.map fun e => (name e.1, e.2)) := by
  show entries.go decode _ = _
  induction es with
  | nil => rfl
  | cons e rest ih =>
    rw [List.map_cons, entries.go, ok_bind (h e List.mem_cons_self),
      ok_bind (ih fun e' he' => h e' (List.mem_cons_of_mem _ he'))]
    rfl

end RoomSync.Json.Decode
