/-
  RoomSync.Proofs.Json.Edits
  ──────────────────────────
  **WHAT IS READ OF A DOCUMENT THAT WAS EDITED.**

  An edit goes down into a document by member names and changes what it finds
  there: it leaves members or strings out, or puts members under another name.  A
  record that may stand as the list of its values is edited at the place of a name.
  A reader follows an edit if the edited document can be read wherever the
  document could, and what is read has changed in a known way (`Follows`).  That
  is passed on from a part to the record it stands in:

      Follows.comp          — one edit after another
      Follows.defaulted     — an edit inside of one member
      membersOrValues_edit  — a record in either of its forms
      field?_edited_of_ne   — the other members are read as they were
      entries_filterMembers, entries_renameMember — edits of a map
      last_entries          — of a repeated name a map has the last value
      list_filterStrings    — an edit of a list
-/
import RoomSync.Proofs.Json.Records

namespace RoomSync.Json

/-! ## §1. Edits. -/

/-- A member, with another value if it has this name. -/
def edited (name : String) (edit : Value → Value) (m : String × Value) : String × Value :=
  (m.1, if m.1 = name then edit m.2 else m.2)

/-- An entry, under the new name if it had the old one. -/
def renamed {α : Type} (old new : String) (e : String × α) : String × α :=
  (if e.1 = old then new else e.1, e.2)

namespace Value

/-- Edit the value of every member of this name. -/
def editMember (name : String) (edit : Value → Value) : Value → Value
  | .object ms => .object (ms.map (edited name edit))
  | v => v

/-- The same in a record whose values stand under these names or in their order. -/
def editField (names : List String) (name : String) (edit : Value → Value) : Value → Value
  | .array items =>
      .array (items.mapIdx fun i item => if names[i]? = some name then edit item else item)
  | v => v.editMember name edit

/-- Leave out the members whose names fail a test. -/
def filterMembers (keep : String → Bool) : Value → Value
  | .object ms => .object (ms.filter fun m => keep m.1)
  | v => v

/-- Put the members of one name under another, each where it stands. -/
def renameMember (old new : String) : Value → Value
  | .object ms => .object (ms.map (renamed old new))
  | v => v

/-- Leave out the strings of a list that fail a test. -/
def filterStrings (keep : String → Bool) : Value → Value
  | .array items => .array (items.filter fun v => v.string?.all keep)
  | v => v

/-! ## §2. Places in a document. -/

/-- The value of the last member of this name. -/
def last? (name : String) : Value → Option Value
  | .object ms => (ms.filter (·.1 = name)).getLast?.map (·.2)
  | _ => none

/-- The record, whose values stand under these names or in their order, as a map. -/
def asMap (names : List String) : Value → Value
  | .array items => .object (names.zip items)
  | v => v

/-- The value at the end of a path, each step of which is a name among those of its
record. -/
def at? (path : List (List String × String)) (v : Value) : Option Value :=
  path.foldl (fun place step => place.bind fun v => (v.asMap step.1).last? step.2) (some v)

/-- The strings in a list. -/
def strings : Value → List String
  | .array items => items.filterMap string?
  | _ => []

end Value

namespace Decode

variable {α : Type} {decode : Decoder α} {name other : String} {edit edit' : Value → Value}
  {change change' : α → α} {ms : Members} {v : Value} {names : List String} {type : String}
  {least : Nat}

/-! ## §3. Readers that follow an edit. -/

/-- Of the edited value the changed one is read. -/
def Follows (decode : Decoder α) (edit : Value → Value) (change : α → α) : Prop :=
  ∀ (v : Value) (a : α), decode v = .ok a → decode (edit v) = .ok (change a)

/-- One edit after another. -/
theorem Follows.comp (h : Follows decode edit change) (h' : Follows decode edit' change') :
    Follows decode (edit' ∘ edit) (change' ∘ change) :=
  fun v a hread => h' _ _ (h v a hread)

/-- A record that was read stands for its members. -/
theorem asMap_eq (h : membersOrValues type names least v = .ok ms) :
    v.asMap names = .object ms := by
  cases v with
  | object ms' => exact congrArg Value.object (Except.ok.inj h)
  | array items =>
      rw [membersOrValues] at h
      split at h
      next => exact congrArg Value.object (Except.ok.inj h)
      next => cases h
  | _ => cases h

/-- In a list, the value at the place of a name is edited. -/
theorem zip_mapIdx (names : List String) (name : String) (edit : Value → Value)
    (items : List Value) :
    names.zip (items.mapIdx fun i item => if names[i]? = some name then edit item else item) =
      (names.zip items).map (edited name edit) := by
  refine List.ext_getElem (by simp) fun i h h' => ?_
  have hi : i < names.length := by
    rw [List.length_zip] at h
    omega
  simp [edited, hi]

/-- **A record is edited in either of its forms**, member by member. -/
theorem membersOrValues_edit (h : membersOrValues type names least v = .ok ms) (name : String)
    (edit : Value → Value) :
    membersOrValues type names least (v.editField names name edit) =
      .ok (ms.map (edited name edit)) := by
  cases v with
  | object ms' =>
      obtain rfl := Except.ok.inj h
      rfl
  | array items =>
      rw [membersOrValues] at h
      rw [Value.editField, membersOrValues, List.length_mapIdx, zip_mapIdx]
      split at h
      next hlength => rw [if_pos hlength, ← Except.ok.inj h]
      next => cases h
  | _ => cases h

theorem filter_edited (name other : String) (edit : Value → Value) (ms : Members) :
    (ms.map (edited name edit)).filter (·.1 = other) =
      (ms.filter (·.1 = other)).map (edited name edit) := List.filter_map

/-- The other members are as they were. -/
theorem field?_edited_of_ne (hne : other ≠ name) (edit : Value → Value) (ms : Members) :
    field? other (ms.map (edited name edit)) = field? other ms := by
  have hsame : (ms.filter (·.1 = other)).map (edited name edit) = ms.filter (·.1 = other) := by
    refine (List.map_congr_left fun m hm => ?_).trans (List.map_id _)
    have hname : m.1 = other := by simpa using (List.mem_filter.1 hm).2
    show (m.1, if m.1 = name then edit m.2 else m.2) = m
    rw [if_neg (hname ▸ hne)]
  unfold field?
  rw [filter_edited, hsame]

/-- The edited member has its value edited. -/
theorem field?_edited (name : String) (edit : Value → Value) (ms : Members) :
    field? name (ms.map (edited name edit)) = (field? name ms).map (Option.map edit) := by
  unfold field?
  rw [filter_edited]
  cases hfound : ms.filter (·.1 = name) with
  | nil => rfl
  | cons m rest =>
      -- what is found has the name, so its value is the one that is edited
      have hname : m.1 = name := by
        have hm : m ∈ ms.filter (·.1 = name) := hfound ▸ List.mem_cons_self
        simpa using (List.mem_filter.1 hm).2
      cases rest with
      | nil =>
          show Except.ok (some (if m.1 = name then edit m.2 else m.2)) = _
          rw [if_pos hname]
          rfl
      | cons _ _ => rfl

theorem required_edited_of_ne (hne : other ≠ name) :
    required other decode (ms.map (edited name edit)) = required other decode ms := by
  unfold required
  rw [field?_edited_of_ne hne]

theorem optional_edited_of_ne (hne : other ≠ name) :
    optional other decode (ms.map (edited name edit)) = optional other decode ms := by
  unfold optional
  rw [field?_edited_of_ne hne]

theorem defaulted_edited_of_ne {default : α} (hne : other ≠ name) :
    defaulted other default decode (ms.map (edited name edit)) =
      defaulted other default decode ms := by
  unfold defaulted
  rw [field?_edited_of_ne hne]

/-- **A record follows an edit inside of one member**, if what stands for a missing
member is not changed. -/
theorem Follows.defaulted (h : Follows decode edit change) {default a : α}
    (hdefault : change default = default)
    (hread : Decode.defaulted name default decode ms = .ok a) :
    Decode.defaulted name default decode (ms.map (edited name edit)) = .ok (change a) := by
  obtain ⟨found, hfound, hread⟩ := bind_eq_ok hread
  unfold Decode.defaulted
  rw [field?_edited, hfound]
  cases found with
  | none =>
      obtain rfl := Except.ok.inj hread
      exact congrArg Except.ok hdefault.symm
  | some v => exact h v a hread

/-! ## §4. Where a member is read from. -/

/-- A member that could be looked up stands once. -/
theorem last?_of_field? {o : Option Value} (h : field? name ms = .ok o) :
    (Value.object ms).last? name = o := by
  unfold field? at h
  unfold Value.last?
  dsimp only
  split at h
  next hnone =>
    rw [hnone]
    exact Except.ok.inj h
  next k v hone =>
    rw [hone]
    exact Except.ok.inj h
  next => cases h

/-- A member is read from where it stands, and has its default where it does not. -/
theorem read_of_defaulted {default a : α} (hms : membersOrValues type names least v = .ok ms)
    (h : Decode.defaulted name default decode ms = .ok a) :
    ((v.asMap names).last? name).elim (.ok default) decode = .ok a := by
  obtain ⟨found, hfound, h⟩ := bind_eq_ok h
  rw [asMap_eq hms, last?_of_field? hfound]
  cases found with
  | none => exact h
  | some v => exact h

/-! ## §5. Maps. -/

/-- **What is read of a map**, side by side with its members. -/
theorem entries_object {es : List (String × α)} :
    entries decode (.object ms) = .ok es ↔
      ms.map (fun m => (m.1, decode m.2)) = es.map fun e => (e.1, Except.ok e.2) := by
  show entries.go decode ms = .ok es ↔ _
  induction ms generalizing es with
  | nil =>
      rw [List.map_nil, eq_comm (a := []), List.map_eq_nil_iff]
      exact ⟨fun h => (Except.ok.inj h).symm, fun h => h ▸ rfl⟩
  | cons m rest ih =>
      constructor
      · intro h
        obtain ⟨a, ha, h⟩ := bind_eq_ok h
        obtain ⟨more, hmore, h⟩ := bind_eq_ok h
        obtain rfl := Except.ok.inj h
        rw [List.map_cons, List.map_cons, ha, ih.1 hmore]
      · intro h
        cases es with
        | nil => cases h
        | cons e more =>
            rw [List.map_cons, List.map_cons, List.cons.injEq, Prod.mk.injEq] at h
            obtain ⟨⟨hname, ha⟩, hmore⟩ := h
            rw [entries.go, ok_bind ha, ok_bind (ih.2 hmore), hname]
            rfl

theorem eq_object_of_entries {es : List (String × α)}
    (h : entries decode v = .ok es) : ∃ ms, v = .object ms := by
  cases v with
  | object ms => exact ⟨ms, rfl⟩
  | _ => cases h

/-- A map without some of its members. -/
theorem entries_filterMembers {es : List (String × α)}
    (h : entries decode v = .ok es) (keep : String → Bool) :
    entries decode (v.filterMembers keep) = .ok (es.filter fun e => keep e.1) := by
  obtain ⟨ms, rfl⟩ := eq_object_of_entries h
  have hread := congrArg (List.filter fun e => keep e.1) (entries_object.1 h)
  rw [List.filter_map, List.filter_map] at hread
  exact entries_object.2 hread

/-- A map with a member under another name. -/
theorem entries_renameMember {es : List (String × α)}
    (h : entries decode v = .ok es) (old new : String) :
    entries decode (v.renameMember old new) = .ok (es.map (renamed old new)) := by
  obtain ⟨ms, rfl⟩ := eq_object_of_entries h
  have hread := congrArg (List.map (renamed old new)) (entries_object.1 h)
  rw [List.map_map, List.map_map] at hread
  refine entries_object.2 ?_
  rw [List.map_map, List.map_map]
  exact hread

/-- **Of a repeated name a map has the last value.** -/
theorem last_entries {es : List (String × α)} (h : entries decode v = .ok es) (name : String) :
    ((es.filter (·.1 = name)).getLast?.map (·.2)).map Except.ok = (v.last? name).map decode := by
  obtain ⟨ms, rfl⟩ := eq_object_of_entries h
  have hread := congrArg
    (fun es => ((es.filter (·.1 = name)).getLast?).map (·.2)) (entries_object.1 h)
  rw [List.filter_map, List.filter_map, List.getLast?_map, List.getLast?_map, Option.map_map,
    Option.map_map] at hread
  unfold Value.last?
  rw [Option.map_map, Option.map_map]
  exact hread.symm

/-- Where the new name is another one, the renamed entries are gone from it. -/
theorem filter_renamed (es : List (String × α)) {new : String} (hne : new ≠ name)
    (old : String) :
    (es.map (renamed old new)).filter (·.1 = name) =
      if name = old then [] else es.filter (·.1 = name) := by
  induction es with
  | nil => exact (ite_self _).symm
  | cons e rest ih =>
      rw [List.map_cons]
      by_cases hold : e.1 = old
      · -- the entry is found under its new name, and under no other
        have hgone : ¬ decide ((renamed old new e).1 = name) = true := by
          rw [renamed, if_pos hold]
          simpa using hne
        rw [List.filter_cons, if_neg hgone, ih]
        split
        next => rfl
        next hother => rw [List.filter_cons, if_neg (by simpa [hold] using Ne.symm hother)]
      · have hsame : renamed old new e = e := by rw [renamed, if_neg hold]
        rw [hsame, List.filter_cons, List.filter_cons, ih]
        split
        next hname =>
          have hne' : name ≠ old := fun h => hold ((of_decide_eq_true hname).trans h)
          rw [if_neg hne', if_neg hne']
        next => rfl

/-! ## §6. Lists of strings. -/

theorem all_string {items : List Value} {ss : List String} (h : all string items = .ok ss) :
    items = ss.map .string := by
  induction items generalizing ss with
  | nil =>
      obtain rfl := Except.ok.inj h
      rfl
  | cons item rest ih =>
      obtain ⟨s, hs, h⟩ := bind_eq_ok h
      obtain ⟨more, hmore, h⟩ := bind_eq_ok h
      obtain rfl := Except.ok.inj h
      cases item with
      | string text =>
          obtain rfl := Except.ok.inj hs
          exact congrArg (Value.string text :: ·) (ih hmore)
      | _ => cases hs

/-- What is read of a list of strings. -/
theorem list_string {ss : List String} (h : list string v = .ok ss) :
    v = .array (ss.map .string) := by
  cases v with
  | array items => exact congrArg Value.array (all_string h)
  | _ => cases h

theorem strings_of_list {ss : List String} (h : list string v = .ok ss) :
    v.strings = ss := by
  rw [list_string h]
  show (ss.map Value.string).filterMap Value.string? = ss
  rw [List.filterMap_map]
  exact List.filterMap_some

/-- A list without some of its strings. -/
theorem list_filterStrings (keep : String → Bool) :
    Follows (list string) (Value.filterStrings keep) (List.filter keep) := by
  intro v ss h
  have hkept : all string ((ss.filter keep).map Value.string) = .ok ((ss.filter keep).map id) :=
    all_map _ fun _ _ => rfl
  rw [List.map_id] at hkept
  rw [list_string h]
  show all string ((ss.map Value.string).filter _) = _
  rw [List.filter_map]
  exact hkept

end Decode

end RoomSync.Json
