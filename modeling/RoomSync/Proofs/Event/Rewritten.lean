/-
  RoomSync.Proofs.Event.Rewritten
  ───────────────────────────────
  **AN EVENT IS WRITTEN AS IT CAME.**

  An event is read into members that are interpreted and members that are not, at
  two levels: its own, and those that the server adds.  Written again it is the
  document it came from, where what may be missing is not written as `null`, and what
  has to be there is (`RoomEvent.tidied`).  So every member that is not interpreted
  is there with its value, and none that is interpreted stands among the others:

      Unsigned.rewrites            — the server's additions
      RoomEvent.get?_tidied        — the tidied document, member by member
      RoomEvent.rewrites           — an event, as it is written again
      RoomEvent.written_as_it_came — all of it, with the reading back and the kind
-/
import RoomSync.Proofs.Event.WrittenForm
import RoomSync.Proofs.Json.Rewriting

namespace RoomSync

open Json Decode Value

/-! ## §1. The server's additions. -/

namespace Unsigned

/-- **The server's additions** are written as they came, without an age of `null`. -/
theorem rewrites : Rewrites Unsigned.decode Unsigned.encode (withoutNulls ["age"]) := by
  intro v u hfinite h
  obtain ⟨ms, rfl, hread⟩ := decode_iff.1 h
  have hmembers : ThroughoutMembers FiniteNumber (canonicalMembers ms) := hfinite.2
  have hsorted := (canonicalMembers_inOrder ms).1
  have hage := (rewrites_integer _ _ _).optional nofun hmembers hread.age
  rw [encode_eq]
  refine congrArg Value.object (beside_eq hmembers hread.extra (by simp) (by simp)
    (Entries.sorted_filter _ hsorted) ?_ ?_)
  · intro name hname
    obtain rfl := List.mem_singleton.1 hname
    exact ((get?_withoutNulls ["age"] hsorted).trans (if_pos hname)).trans hage.symm
  · intro name hname
    exact (get?_withoutNulls ["age"] hsorted).trans (if_neg hname)

end Unsigned

/-! ## §2. The tidied document. -/

namespace RoomEvent

/-- The members that are left out where they are `null`. -/
def optionalMembers : List String := ["event_id", "state_key", "origin_server_ts"]

/-- The members that are written in any case, with what they are where they were
missing. -/
def defaultMembers : List (String × Value) :=
  [("sender", .string ""), ("type", .string ""), ("content", .emptyObject),
    ("unsigned", .emptyObject)]

/-- The document of an event, as it is written again. -/
def tidied (v : Value) : Value :=
  ((v.withoutNulls optionalMembers).editMember "unsigned" (withoutNulls ["age"])).withDefaults
    defaultMembers

/-- The members of the tidied document. -/
def tidiedMembers (ms : Members) : Members :=
  defaultMembers.foldl addMissing
    ((ms.filter fun m => !(optionalMembers.contains m.1 && m.2.isNull)).map
      (edited "unsigned" (withoutNulls ["age"])))

theorem tidied_object (ms : Members) : tidied (.object ms) = .object (tidiedMembers ms) := rfl

theorem sorted_tidiedMembers {ms : Members} (h : Entries.Sorted ms) :
    Entries.Sorted (tidiedMembers ms) :=
  sorted_withDefaults defaultMembers
    (Entries.sorted_map (fun k v => if k = "unsigned" then withoutNulls ["age"] v else v)
      (Entries.sorted_filter _ h))

section Members

variable {ms : Members} (hsorted : Entries.Sorted ms) {name : String}

include hsorted

/-- The tidied document, member by member. -/
theorem get?_tidied (name : String) : (tidied (.object ms)).get? name =
    ((if name ∈ optionalMembers then ((Value.object ms).get? name).filter fun v => !v.isNull
      else (Value.object ms).get? name).map
        fun v => if name = "unsigned" then withoutNulls ["age"] v else v).or
      (defaultMembers.lookup name) := by
  rw [← get?_withoutNulls optionalMembers hsorted]
  exact (get?_withDefaults defaultMembers _).trans
    (congrArg (Option.or · _) (get?_editMember "unsigned" (withoutNulls ["age"])))

/-- A member that may be missing is there where it is not `null`. -/
theorem get?_tidied_optional (hname : name ∈ optionalMembers) :
    (tidied (.object ms)).get? name = ((Value.object ms).get? name).filter fun v => !v.isNull := by
  have hothers : ∀ n ∈ optionalMembers, n ≠ "unsigned" ∧ defaultMembers.lookup n = none := by
    decide
  obtain ⟨hne, hnone⟩ := hothers name hname
  rw [get?_tidied hsorted, if_pos hname, hnone, Option.or_none]
  simp only [if_neg hne, Option.map_id_fun', id_eq]

/-- A member with a default is there in any case. -/
theorem get?_tidied_default {d : Value} (hname : (name, d) ∈ defaultMembers)
    (hne : name ≠ "unsigned") :
    (tidied (.object ms)).get? name = some (((Value.object ms).get? name).getD d) := by
  have hothers : ∀ m ∈ defaultMembers, m.1 ∉ optionalMembers
      ∧ defaultMembers.lookup m.1 = some m.2 := by decide
  obtain ⟨hrequired, hdefault⟩ := hothers _ hname
  rw [get?_tidied hsorted, if_neg hrequired, hdefault]
  simp only [if_neg hne, Option.map_id_fun', id_eq]
  cases (Value.object ms).get? name <;> rfl

theorem get?_tidied_unsigned : (tidied (.object ms)).get? "unsigned" =
    some ((((Value.object ms).get? "unsigned").map (withoutNulls ["age"])).getD .emptyObject) := by
  rw [get?_tidied hsorted, if_neg (by decide)]
  simp only [if_pos]
  cases (Value.object ms).get? "unsigned" <;> rfl

/-- **Any other member** is there as it came. -/
theorem get?_tidied_unknown (hname : name ∉ knownMembers) :
    (tidied (.object ms)).get? name = (Value.object ms).get? name := by
  have hknown : "unsigned" ∈ knownMembers ∧ (∀ n ∈ optionalMembers, n ∈ knownMembers)
      ∧ ∀ m ∈ defaultMembers, m.1 ∈ knownMembers := by decide
  obtain ⟨hunsigned, hoptional, hdefault⟩ := hknown
  have hnone : defaultMembers.lookup name = none :=
    List.lookup_eq_none_iff.2 fun m hm => bne_iff_ne.2 fun heq => hname (heq ▸ hdefault m hm)
  rw [get?_tidied hsorted, if_neg fun h => hname (hoptional name h), hnone, Option.or_none]
  simp only [if_neg fun h : name = "unsigned" => hname (h ▸ hunsigned), Option.map_id_fun', id_eq]

end Members

/-! ## §3. Events. -/

section Read

variable {ms : Members} {e : RoomEvent} (h : e.Reads ms)
  (hfinite : ThroughoutMembers FiniteNumber (canonicalMembers ms))

include h hfinite

/-- What is written of a member is what the tidied document has there. -/
theorem Reads.lookup_eq {name : String} (hname : name ∈ knownMembers) :
    (tidied (.object (canonicalMembers ms))).get? name = (e.allFields.lookup name).join := by
  have hsorted := (canonicalMembers_inOrder ms).1
  simp only [knownMembers, List.mem_cons, List.not_mem_nil, or_false] at hname
  rcases hname with rfl | rfl | rfl | rfl | rfl | rfl | rfl
  · exact (get?_tidied_optional hsorted (by decide)).trans
      (rewrites_string.optional nofun hfinite h.id).symm
  · exact (get?_tidied_default hsorted (by decide) (by decide)).trans
      (congrArg some (rewrites_string.defaulted_same hfinite h.sender)).symm
  · exact (get?_tidied_default hsorted (by decide) (by decide)).trans
      (congrArg some (rewrites_string.defaulted_same hfinite h.type)).symm
  · exact (get?_tidied_optional hsorted (by decide)).trans
      (rewrites_string.optional nofun hfinite h.stateKey).symm
  · exact (get?_tidied_optional hsorted (by decide)).trans
      ((rewrites_natural _ _).optional nofun hfinite h.timestamp).symm
  · exact (get?_tidied_default hsorted (by decide) (by decide)).trans
      (congrArg some (rewrites_opaqueValue.defaulted_same hfinite h.content)).symm
  · exact (get?_tidied_unsigned hsorted).trans
      (congrArg some (Unsigned.rewrites.defaulted hfinite h.unsigned)).symm

/-- The members of the event that are not interpreted. -/
theorem Reads.get?_other (name : String) : Entries.get? name e.other =
    if name ∈ knownMembers then none else Entries.get? name (canonicalMembers ms) := by
  rw [others_eq hfinite h.other]
  exact get?_unknown knownMembers (canonicalMembers_inOrder ms).1

/-- The members of the server's additions that are not interpreted. -/
theorem Reads.get?_extra (name : String) : Entries.get? name e.unsigned.extra =
    if name = "age" then none
    else (Entries.get? "unsigned" (canonicalMembers ms)).bind (·.get? name) := by
  obtain ⟨found, hfound, hread⟩ := bind_eq_ok h.unsigned
  have hget := get?_of_field? hfound
  rw [hget]
  cases found with
  | none =>
      rw [← Except.ok.inj hread, Option.map_none, Option.bind_none, ite_self]
      rfl
  | some v =>
      have hv := finite_of_get? hfinite hget (canonicalMembers_inOrder ms).1
      obtain ⟨us, rfl, hus⟩ := Unsigned.decode_iff.1 hread
      rw [others_eq hv.2 hus.extra]
      refine (get?_unknown ["age"] (canonicalMembers_inOrder us).1).trans ?_
      simp only [List.mem_singleton]
      rfl

/-- What the event is about, of the document. -/
theorem Reads.kind_eq : e.kind =
    .of ((textMember (.object (canonicalMembers ms)) "type").getD "")
      ((Entries.get? "content" (canonicalMembers ms)).getD .emptyObject) := by
  have htype := rewrites_string.defaulted_same hfinite h.type
  have hcontent : e.content = (Entries.get? "content" (canonicalMembers ms)).getD .emptyObject :=
    rewrites_opaqueValue.defaulted_same hfinite h.content
  have htext : (textMember (.object (canonicalMembers ms)) "type").getD "" = e.type := by
    show ((Entries.get? "type" (canonicalMembers ms)).bind Value.string?).getD "" = e.type
    cases hget : Entries.get? "type" (canonicalMembers ms) with
    | none =>
        rw [hget] at htype
        exact (Value.string.inj htype).symm
    | some v =>
        rw [hget] at htype
        rw [show v = .string e.type from htype.symm]
        rfl
  rw [htext, ← hcontent]
  exact h.consistent

end Read

/-- **An event is written as it came**, tidied. -/
theorem rewrites : Rewrites RoomEvent.decode RoomEvent.encode tidied := by
  intro v e hfinite h
  obtain ⟨ms, rfl, hread⟩ := decode_iff.1 h
  have hmembers : ThroughoutMembers FiniteNumber (canonicalMembers ms) := hfinite.2
  have hsorted := (canonicalMembers_inOrder ms).1
  show e.encode = tidied (.object (canonicalMembers ms))
  rw [encode_eq, tidied_object]
  refine congrArg Value.object (beside_eq hmembers hread.other nodup_allFields ?_
    (sorted_tidiedMembers hsorted) ?_ ?_)
  · intro f hf
    exact e.known_allFields (List.mem_map_of_mem hf)
  · intro name hname
    exact hread.lookup_eq hmembers hname
  · intro name hname
    exact get?_tidied_unknown hsorted hname

/-! ## §4. The whole of it. -/

theorem ofValue_eq_ok {v : Value} {e : RoomEvent} : ofValue v = .ok e ↔ decode v = .ok e := by
  unfold ofValue
  cases decode v <;> simp

/-- **An event is written as it came.**  Of an object that is an event, what is written
again is the object it means, tidied: without `event_id`, `state_key`,
`origin_server_ts` and an age where they are `null`, and with a sender, a type, a content
and additions of the server where they are missing.  An object in name order, as every
object is that was read into a table, means itself; and its numbers are finite, as all
numbers of JSON are.  So the members that are not interpreted are those of the object,
with their values, on both levels; what is written is read as the same event; and what
the event is about is told by its type and content, which are those of the object. -/
theorem written_as_it_came {v : Value} {e : RoomEvent} (hfinite : v.canonical.IsFinite)
    (h : ofValue v = .ok e) :
    e.encode = tidied v.canonical
      ∧ (Throughout InOrder v → e.encode = tidied v)
      ∧ (∀ name, Entries.get? name e.other =
          if name ∈ knownMembers then none else v.canonical.get? name)
      ∧ (∀ name, Entries.get? name e.unsigned.extra =
          if name = "age" then none
          else (v.canonical.get? "unsigned").bind (·.get? name))
      ∧ ofValue e.encode = .ok e
      ∧ e.kind = .of e.type e.content
      ∧ e.kind = .of ((textMember v.canonical "type").getD "")
          ((v.canonical.get? "content").getD .emptyObject) := by
  have hdecode := ofValue_eq_ok.1 h
  have hwritten := rewrites v e hfinite hdecode
  obtain ⟨ms, rfl, hread⟩ := decode_iff.1 hdecode
  refine ⟨hwritten, fun hin => ?_, fun name => hread.get?_other hfinite.2 name,
    fun name => hread.get?_extra hfinite.2 name, ofValue_eq_ok.2 (roundTrips _ e hdecode),
    hread.consistent, hread.kind_eq hfinite.2⟩
  rwa [canonical_self (fun _ hsorted => hsorted) hin] at hwritten

/-- An event that says nothing of its sender and content, and `null` of its id and age. -/
def bare : Value :=
  .object [("event_id", .null), ("room_id", .string "!a:h"), ("type", .string "m.room.name"),
    ("unsigned", .object [("age", .null), ("transaction_id", .string "t1")])]

/-- A bare event is written with what was missing, and keeps the members of both levels. -/
theorem bare_is_tidied : ∃ e, ofValue bare = .ok e
    ∧ e.encode = .object [("content", .emptyObject), ("room_id", .string "!a:h"),
        ("sender", .string ""), ("type", .string "m.room.name"),
        ("unsigned", .object [("transaction_id", .string "t1")])]
    ∧ Entries.get? "room_id" e.other = some (.string "!a:h")
    ∧ Entries.get? "transaction_id" e.unsigned.extra = some (.string "t1")
    ∧ e.kind = .name none := by
  obtain ⟨e, h⟩ : ∃ e, ofValue bare = .ok e := ⟨_, rfl⟩
  have hfinite : bare.canonical.IsFinite := by repeat constructor
  obtain ⟨hwritten, -, hother, hextra, -, -, hkind⟩ := written_as_it_came hfinite h
  exact ⟨e, h, hwritten, hother "room_id", hextra "transaction_id", hkind⟩

end RoomEvent

end RoomSync
