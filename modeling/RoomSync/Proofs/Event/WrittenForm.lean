/-
  RoomSync.Proofs.Event.WrittenForm
  ─────────────────────────────────
  **EVENTS AND IDS COME BACK.**

  An event is written with the members that are interpreted, beside those that are
  not; both are read again as they were (`RoomEvent.roundTrips`), member by member
  (`RoomEvent.decode_iff`).  What an event is about is a function of its type and
  content, and so it is the same again.

  Of the ids in an answer only those come back that were well formed, which is all
  that was read of it (`RoomId.decodeLenient_encode`, `RoomId.roundTrips_table`,
  `UserId.roundTrips_list`).
-/
import Mathlib.Data.List.Basic
import RoomSync.Event.Codec
import RoomSync.Identifier.Codec
import RoomSync.Proofs.Json.RoundTrips

namespace RoomSync

open Json Decode

/-! ## §1. Ids. -/

namespace RoomId

/-- An id that was read leniently is written only if it is well formed. -/
theorem decodeLenient_encode (r : RoomId) : decodeLenient r.encode = .ok (some r) := by
  show Except.ok ((some r.text).bind ofString?) = _
  rw [Option.bind_some, ofString?_text]

/-- **A table by room id**, entry by entry. -/
theorem roundTrips_table {α : Type} {decode : Decoder α} {encode : α → Value}
    (h : RoundTrips decode encode) : RoundTrips (decodeTable decode) (encodeTable encode) := by
  intro v t ht
  obtain ⟨es, hes, ht⟩ := bind_eq_ok ht
  obtain rfl := Except.ok.inj ht
  -- what stands in the table was read
  have hread : ∀ e ∈ (Table.ofList (es.filterMap fun e => (ofString? e.1).map (·, e.2))).entries,
      decode (encode e.2) = .ok e.2 := by
    intro e he
    obtain ⟨e', he', heq⟩ := List.mem_filterMap.mp (Table.mem_ofList he)
    obtain ⟨r, -, rfl⟩ := Option.map_eq_some_iff.mp heq
    obtain ⟨w, hw⟩ := mem_entries hes e' he'
    exact h w _ hw
  generalize Table.ofList (es.filterMap fun e => (ofString? e.1).map (·, e.2)) = t at hread ⊢
  have hids : (t.entries.map fun e => (e.1.text, e.2)).filterMap
      (fun e => (ofString? e.1).map (·, e.2)) = t.entries := by
    rw [List.filterMap_map]
    refine (List.filterMap_congr fun e _ => ?_).trans List.filterMap_some
    show (ofString? e.1.text).map (·, e.2) = some e
    rw [ofString?_text]
    rfl
  unfold decodeTable encodeTable
  rw [ok_bind (entries_map text hread), hids, Table.ofList_entries]
  rfl

end RoomId

namespace UserId

theorem ofString?_text (u : UserId) : ofString? u.text = some u := by
  unfold ofString? parse
  split
  next => rfl
  next e h =>
    rw [u.valid] at h
    cases h

/-- **A list of user ids.** -/
theorem roundTrips_list : RoundTrips decodeList encodeList := by
  intro v us _
  have hstrings : Decode.list Decode.string (encodeList us) = .ok (us.map (·.text)) :=
    list_map us fun _ _ => rfl
  have hids : (us.map (·.text)).filterMap ofString? = us := by
    rw [List.filterMap_map]
    refine (List.filterMap_congr fun u _ => ?_).trans List.filterMap_some
    exact ofString?_text u
  unfold decodeList
  rw [hstrings]
  exact congrArg Except.ok hids

end UserId

/-! ## §2. The server's additions. -/

namespace Unsigned

/-- What is read of the server's additions, member by member. -/
structure Reads (ms : Members) (u : Unsigned) : Prop where
  age : optional "age" i64 ms = .ok u.age
  extra : others ["age"] ms = .ok u.extra

theorem decode_iff {v : Value} {u : Unsigned} :
    Unsigned.decode v = .ok u ↔ ∃ ms, v = .object ms ∧ u.Reads ms := by
  constructor
  · intro h
    obtain ⟨ms, hms, h⟩ := bind_eq_ok h
    obtain ⟨age, hage, h⟩ := bind_eq_ok h
    obtain ⟨extra, hextra, h⟩ := bind_eq_ok h
    obtain rfl := Except.ok.inj h
    exact ⟨ms, eq_object_of_members hms, hage, hextra⟩
  · rintro ⟨ms, rfl, h⟩
    unfold Unsigned.decode
    rw [ok_bind (rfl : members _ (.object ms) = .ok ms), ok_bind h.age, ok_bind h.extra]
    rfl

theorem encode_eq (u : Unsigned) :
    u.encode = .object (beside u.extra (present [("age", u.age.map .integer)])) := by
  unfold encode
  cases u.age <;> rfl

theorem roundTrips : RoundTrips Unsigned.decode Unsigned.encode := by
  intro v u h
  obtain ⟨ms, -, hread⟩ := decode_iff.1 h
  have hpassed := passed_others hread.extra
  have hnames : ((present [("age", u.age.map Value.integer)]).map (·.1)).Nodup :=
    List.Nodup.sublist (names_present _) (by simp)
  have hfield : field? "age" (beside u.extra (present [("age", u.age.map .integer)])) =
      .ok (u.age.map .integer) := by
    rw [field?_beside hpassed hnames List.mem_cons_self]
    cases u.age <;> rfl
  have hothers := others_beside hpassed hnames fun f hf =>
    (names_present _).subset (List.mem_map_of_mem hf)
  exact decode_iff.2 ⟨_, u.encode_eq, roundTrips_i64.optional nofun hread.age hfield, hothers⟩

end Unsigned

/-! ## §3. Events. -/

namespace RoomEvent

/-- The members of an event that are interpreted, with those that have no value. -/
def allFields (e : RoomEvent) : List (String × Option Value) :=
  [("sender", some (.string e.sender)), ("type", some (.string e.type)),
    ("content", some e.content), ("unsigned", some e.unsigned.encode),
    ("event_id", e.id.map .string), ("state_key", e.stateKey.map .string),
    ("origin_server_ts", e.timestamp.map .ofNat)]

theorem fields_eq (e : RoomEvent) : e.fields = present e.allFields := by
  unfold fields allFields present
  cases e.id <;> cases e.stateKey <;> cases e.timestamp <;> rfl

theorem encode_eq (e : RoomEvent) : e.encode = .object (beside e.other (present e.allFields)) := by
  rw [← fields_eq]
  rfl

theorem names_allFields (e : RoomEvent) : e.allFields.map (·.1) =
    ["sender", "type", "content", "unsigned", "event_id", "state_key", "origin_server_ts"] := rfl

theorem nodup_allFields {e : RoomEvent} : (e.allFields.map (·.1)).Nodup := by
  rw [names_allFields]
  decide

/-- The members that are written are those that are interpreted. -/
theorem known_allFields (e : RoomEvent) : e.allFields.map (·.1) ⊆ knownMembers := by
  rw [names_allFields]
  decide

/-- What is read of an event, member by member. -/
structure Reads (ms : Members) (e : RoomEvent) : Prop where
  id : optional "event_id" Decode.string ms = .ok e.id
  sender : defaulted "sender" "" Decode.string ms = .ok e.sender
  type : defaulted "type" "" Decode.string ms = .ok e.type
  stateKey : optional "state_key" Decode.string ms = .ok e.stateKey
  timestamp : optional "origin_server_ts" u64 ms = .ok e.timestamp
  content : defaulted "content" .emptyObject opaqueValue ms = .ok e.content
  unsigned : defaulted "unsigned" {} Unsigned.decode ms = .ok e.unsigned
  other : others knownMembers ms = .ok e.other
  consistent : e.Consistent

theorem decode_iff {v : Value} {e : RoomEvent} :
    RoomEvent.decode v = .ok e ↔ ∃ ms, v = .object ms ∧ e.Reads ms := by
  constructor
  · intro h
    obtain ⟨ms, hms, h⟩ := bind_eq_ok h
    obtain ⟨id, hid, h⟩ := bind_eq_ok h
    obtain ⟨sender, hsender, h⟩ := bind_eq_ok h
    obtain ⟨type, htype, h⟩ := bind_eq_ok h
    obtain ⟨stateKey, hstateKey, h⟩ := bind_eq_ok h
    obtain ⟨timestamp, htimestamp, h⟩ := bind_eq_ok h
    obtain ⟨content, hcontent, h⟩ := bind_eq_ok h
    obtain ⟨unsigned, hunsigned, h⟩ := bind_eq_ok h
    obtain ⟨other, hother, h⟩ := bind_eq_ok h
    obtain rfl := Except.ok.inj h
    exact ⟨ms, eq_object_of_members hms, hid, hsender, htype, hstateKey, htimestamp, hcontent,
      hunsigned, hother, rfl⟩
  · rintro ⟨ms, rfl, h⟩
    have hkind : e.kind = .of e.type e.content := h.consistent
    unfold RoomEvent.decode
    rw [ok_bind (rfl : members _ (.object ms) = .ok ms), ok_bind h.id, ok_bind h.sender,
      ok_bind h.type, ok_bind h.stateKey, ok_bind h.timestamp, ok_bind h.content,
      ok_bind h.unsigned, ok_bind h.other, ← hkind]
    rfl

/-- What an event that was read is about is told by its type and content. -/
theorem consistent_of_decode {v : Value} {e : RoomEvent} (h : RoomEvent.decode v = .ok e) :
    e.Consistent := by
  obtain ⟨ms, -, hread⟩ := decode_iff.1 h
  exact hread.consistent

/-- **An event comes back**, with the members that are interpreted and those that are
not. -/
theorem roundTrips : RoundTrips RoomEvent.decode RoomEvent.encode := by
  intro v e h
  obtain ⟨ms, -, hread⟩ := decode_iff.1 h
  -- the members that pass through stand among those that are written of the event
  have hpassed := passed_others hread.other
  have hnames : ((present e.allFields).map (·.1)).Nodup :=
    List.Nodup.sublist (names_present e.allFields) nodup_allFields
  have hfield : ∀ name ∈ knownMembers, field? name (beside e.other (present e.allFields)) =
      .ok (e.allFields.lookup name).join := by
    intro name hname
    rw [field?_beside hpassed hnames hname, lookup_present nodup_allFields]
  have hothers := others_beside hpassed hnames fun f hf =>
    e.known_allFields ((names_present e.allFields).subset (List.mem_map_of_mem hf))
  exact decode_iff.2 ⟨_, e.encode_eq, {
    id := roundTrips_string.optional nofun hread.id (hfield "event_id" (by decide))
    sender := roundTrips_string.defaulted rfl hread.sender (hfield "sender" (by decide))
    type := roundTrips_string.defaulted rfl hread.type (hfield "type" (by decide))
    stateKey := roundTrips_string.optional nofun hread.stateKey (hfield "state_key" (by decide))
    timestamp :=
      roundTrips_u64.optional nofun hread.timestamp (hfield "origin_server_ts" (by decide))
    content := roundTrips_opaqueValue.defaulted rfl hread.content (hfield "content" (by decide))
    unsigned := Unsigned.roundTrips.defaulted rfl hread.unsigned (hfield "unsigned" (by decide))
    other := hothers
    consistent := hread.consistent }⟩

end RoomEvent

end RoomSync
