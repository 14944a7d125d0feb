/-
  RoomSync.Proofs.Cursor.WrittenForm
  ──────────────────────────────────
  **AN ANSWER THAT FOLLOWS A CURSOR COMES BACK.**

  What was read of an answer is read again from its written form
  (`Batch.roundTrips`).  The proof goes from the parts to the whole, one theorem for
  each record: its members are named (`fields`), and each is read again by what
  holds of its own reader.  That an answer is read member by member
  (`Batch.decode_iff`, `DeviceLists.decode_iff`) also serves where an answer is edited.
-/
import RoomSync.Cursor.Batch
import RoomSync.Proofs.Event.WrittenForm

namespace RoomSync.Cursor

open Json Decode

/-! ## §1. Rooms. -/

/-- A list inside a record of its own. -/
theorem roundTrips_events {α : Type} {decode : Decoder α} {encode : α → Value}
    (h : RoundTrips decode encode) : RoundTrips (decodeEvents decode) (encodeEvents encode) := by
  intro v es hes
  obtain ⟨ms, -, hes⟩ := bind_eq_ok hes
  have hfield := field?_recordSome [("events", some (.array (es.map encode)))] (by simp)
  exact h.list.defaulted rfl hes (hfield "events")

namespace Timeline

/-- The members of a timeline. -/
def fields (t : Timeline) : List (String × Option Value) :=
  [("events", some (RoomEvent.encodeAll t.events)), ("limited", some (.bool t.limited)),
    ("prev_batch", t.previous.map .string)]

theorem encode_eq (t : Timeline) : t.encode = .object (recordMembers (present t.fields)) := rfl

theorem roundTrips : RoundTrips Timeline.decode Timeline.encode := by
  intro v t h
  obtain ⟨ms, -, h⟩ := bind_eq_ok h
  obtain ⟨events, hevents, h⟩ := bind_eq_ok h
  obtain ⟨limited, hlimited, h⟩ := bind_eq_ok h
  obtain ⟨previous, hprevious, h⟩ := bind_eq_ok h
  obtain rfl := Except.ok.inj h
  have hfield := field?_recordSome (Timeline.fields ⟨events, limited, previous⟩) (by simp [fields])
  rw [encode_eq]
  unfold Timeline.decode
  rw [ok_bind (rfl : membersOrValues "a timeline" _ 0 (.object _) = .ok _),
    ok_bind (RoomEvent.roundTrips.list.defaulted rfl hevents (hfield "events")),
    ok_bind (roundTrips_bool.defaulted rfl hlimited (hfield "limited")),
    ok_bind (roundTrips_string.optional nofun hprevious (hfield "prev_batch"))]
  rfl

end Timeline

namespace RoomUpdate

/-- The members of a room's update. -/
def fields (u : RoomUpdate) : List (String × Option Value) :=
  [("timeline", some u.timeline.encode), ("state", some (encodeEvents RoomEvent.encode u.state)),
    ("account_data", some (encodeEvents id u.accountData))]

theorem encode_eq (u : RoomUpdate) : u.encode = .object (recordMembers (present u.fields)) := rfl

/-- **What happened in a room comes back.** -/
theorem roundTrips : RoundTrips RoomUpdate.decode RoomUpdate.encode := by
  intro v u h
  obtain ⟨ms, -, h⟩ := bind_eq_ok h
  obtain ⟨timeline, htimeline, h⟩ := bind_eq_ok h
  obtain ⟨state, hstate, h⟩ := bind_eq_ok h
  obtain ⟨accountData, haccount, h⟩ := bind_eq_ok h
  obtain rfl := Except.ok.inj h
  have hfield := field?_recordSome (RoomUpdate.fields ⟨timeline, state, accountData⟩)
    (by simp [fields])
  have hevents := roundTrips_events RoomEvent.roundTrips
  have hcontent := roundTrips_events roundTrips_opaqueValue
  rw [encode_eq]
  unfold RoomUpdate.decode
  rw [ok_bind (rfl : membersOrValues "a joined room" _ 0 (.object _) = .ok _),
    ok_bind (Timeline.roundTrips.defaulted rfl htimeline (hfield "timeline")),
    ok_bind (hevents.defaulted rfl hstate (hfield "state")),
    ok_bind (hcontent.defaulted rfl haccount (hfield "account_data"))]
  rfl

end RoomUpdate

/-- An invite holds stripped state only. -/
theorem roundTrips_invite : RoundTrips decodeInvite encodeInvite := by
  intro v es h
  obtain ⟨ms, -, h⟩ := bind_eq_ok h
  have hfield := field?_recordSome [("invite_state", some (encodeEvents RoomEvent.encode es))]
    (by simp)
  exact (roundTrips_events RoomEvent.roundTrips).defaulted rfl h (hfield "invite_state")

/-! ## §2. What the crypto engine has to know. -/

namespace DeviceLists

/-- The members of the lists of users. -/
def fields (d : DeviceLists) : List (String × Option Value) :=
  [("changed", some (UserId.encodeList d.changed)), ("left", some (UserId.encodeList d.left))]

theorem encode_eq (d : DeviceLists) : d.encode = .object (recordMembers (present d.fields)) := rfl

/-- What is read of the members of the lists of users. -/
structure Reads (ms : Members) (d : DeviceLists) : Prop where
  changed : defaulted "changed" [] UserId.decodeList ms = .ok d.changed
  left : defaulted "left" [] UserId.decodeList ms = .ok d.left

theorem decode_iff {v : Value} {d : DeviceLists} :
    DeviceLists.decode v = .ok d ↔
      ∃ ms, membersOrValues "lists of users" memberNames 0 v = .ok ms ∧ d.Reads ms := by
  constructor
  · intro h
    obtain ⟨ms, hms, h⟩ := bind_eq_ok h
    obtain ⟨changed, hchanged, h⟩ := bind_eq_ok h
    obtain ⟨left, hleft, h⟩ := bind_eq_ok h
    obtain rfl := Except.ok.inj h
    exact ⟨ms, hms, hchanged, hleft⟩
  · rintro ⟨ms, hms, h⟩
    unfold DeviceLists.decode
    rw [ok_bind hms, ok_bind h.changed, ok_bind h.left]
    rfl

theorem roundTrips : RoundTrips DeviceLists.decode DeviceLists.encode := by
  intro v d h
  obtain ⟨ms, -, hread⟩ := decode_iff.1 h
  have hfield := field?_recordSome d.fields (by simp [fields])
  exact decode_iff.2 ⟨_, rfl, {
    changed := UserId.roundTrips_list.defaulted rfl hread.changed (hfield "changed")
    left := UserId.roundTrips_list.defaulted rfl hread.left (hfield "left") }⟩

end DeviceLists

namespace Batch

/-- The counts of keys, name by name. -/
theorem roundTrips_counts : RoundTrips decodeCounts encodeCounts := by
  intro v t h
  unfold decodeCounts at h
  cases hes : Decode.entries Decode.u64 v with
  | error e =>
    rw [hes] at h
    cases h
  | ok es =>
    rw [hes] at h
    obtain rfl := Except.ok.inj h
    -- what stands in the table was read
    have hread : ∀ e ∈ (Table.ofList es).entries, Decode.u64 (.ofNat e.2) = .ok e.2 := by
      intro e he
      obtain ⟨w, hw⟩ := mem_entries hes e (Table.mem_ofList he)
      exact roundTrips_u64 w e.2 hw
    generalize Table.ofList es = t at hread ⊢
    have hentries : Decode.entries Decode.u64 (encodeCounts t) = .ok t.entries :=
      (entries_map id hread).trans (congrArg Except.ok (List.map_id _))
    unfold decodeCounts
    rw [hentries]
    exact congrArg Except.ok t.ofList_entries

/-! ## §3. The whole answer. -/

/-- The rooms of an answer, section by section. -/
def Sections.encode (r : Sections) : Value :=
  encodeSections { joined := r.joined, invited := r.invited, left := r.left }

/-- The members of the record of rooms. -/
def Sections.fields (r : Sections) : List (String × Option Value) :=
  [("join", some (RoomId.encodeTable RoomUpdate.encode r.joined)),
    ("invite", some (RoomId.encodeTable encodeInvite r.invited)),
    ("leave", some (RoomId.encodeTable RoomUpdate.encode r.left))]

theorem Sections.encode_eq (r : Sections) :
    r.encode = .object (recordMembers (present r.fields)) := rfl

theorem roundTrips_sections : RoundTrips decodeSections Sections.encode := by
  intro v r h
  obtain ⟨ms, -, h⟩ := bind_eq_ok h
  obtain ⟨joined, hjoined, h⟩ := bind_eq_ok h
  obtain ⟨invited, hinvited, h⟩ := bind_eq_ok h
  obtain ⟨left, hleft, h⟩ := bind_eq_ok h
  obtain rfl := Except.ok.inj h
  have hfield := field?_recordSome (Sections.fields ⟨joined, invited, left⟩)
    (by simp [Sections.fields])
  have hupdates := RoomId.roundTrips_table RoomUpdate.roundTrips
  have hinvites := RoomId.roundTrips_table roundTrips_invite
  rw [Sections.encode_eq]
  unfold decodeSections
  rw [ok_bind (rfl : membersOrValues "a record of rooms" _ 0 (.object _) = .ok _),
    ok_bind (hupdates.defaulted rfl hjoined (hfield "join")),
    ok_bind (hinvites.defaulted rfl hinvited (hfield "invite")),
    ok_bind (hupdates.defaulted rfl hleft (hfield "leave"))]
  rfl

/-- The members of an answer. -/
def fields (b : Batch) : List (String × Option Value) :=
  [("next_batch", some (.string b.nextBatch)),
    ("account_data", some (encodeEvents id b.accountData)),
    ("rooms", some b.encodeSections),
    ("to_device", some (encodeEvents id b.toDevice)),
    ("device_one_time_keys_count", some (encodeCounts b.oneTimeKeyCounts)),
    ("device_unused_fallback_key_types", b.fallbackKeyTypes.map encodeStrings),
    (provisionalName, b.provisionalFallbackKeyTypes.map encodeStrings),
    ("device_lists", some b.deviceLists.encode)]

theorem encode_eq (b : Batch) : b.encode = .object (recordMembers (present b.fields)) := rfl

/-- The rooms of an answer. -/
def sections (b : Batch) : Sections := ⟨b.joined, b.invited, b.left⟩

/-- What is read of the members of an answer. -/
structure Reads (ms : Members) (b : Batch) : Prop where
  nextBatch : required "next_batch" string ms = .ok b.nextBatch
  accountData : defaulted "account_data" [] (decodeEvents opaqueValue) ms = .ok b.accountData
  rooms : defaulted "rooms" {} decodeSections ms = .ok b.sections
  toDevice : defaulted "to_device" [] (decodeEvents opaqueValue) ms = .ok b.toDevice
  counts : defaulted "device_one_time_keys_count" .empty decodeCounts ms = .ok b.oneTimeKeyCounts
  fallback :
    optional "device_unused_fallback_key_types" (list string) ms = .ok b.fallbackKeyTypes
  provisional :
    optional provisionalName (list string) ms = .ok b.provisionalFallbackKeyTypes
  deviceLists : defaulted "device_lists" {} DeviceLists.decode ms = .ok b.deviceLists

theorem decode_iff {v : Value} {b : Batch} :
    decode v = .ok b ↔
      ∃ ms, membersOrValues "an answer" memberNames 1 v = .ok ms ∧ b.Reads ms := by
  constructor
  · intro h
    obtain ⟨ms, hms, h⟩ := bind_eq_ok h
    obtain ⟨nextBatch, hnext, h⟩ := bind_eq_ok h
    obtain ⟨accountData, haccount, h⟩ := bind_eq_ok h
    obtain ⟨rooms, hrooms, h⟩ := bind_eq_ok h
    obtain ⟨toDevice, hto, h⟩ := bind_eq_ok h
    obtain ⟨counts, hcounts, h⟩ := bind_eq_ok h
    obtain ⟨fallback, hfallback, h⟩ := bind_eq_ok h
    obtain ⟨provisional, hprovisional, h⟩ := bind_eq_ok h
    obtain ⟨deviceLists, hdevices, h⟩ := bind_eq_ok h
    obtain rfl := Except.ok.inj h
    exact ⟨ms, hms, hnext, haccount, hrooms, hto, hcounts, hfallback,
      hprovisional, hdevices⟩
  · rintro ⟨ms, hms, h⟩
    unfold decode
    rw [ok_bind hms, ok_bind h.nextBatch, ok_bind h.accountData, ok_bind h.rooms,
      ok_bind h.toDevice, ok_bind h.counts, ok_bind h.fallback, ok_bind h.provisional,
      ok_bind h.deviceLists]
    rfl

/-- **An answer that follows a cursor comes back.** -/
theorem roundTrips : RoundTrips Batch.decode Batch.encode := by
  intro v b h
  obtain ⟨ms, -, hread⟩ := decode_iff.1 h
  have hfield := field?_recordSome b.fields (by simp [fields, provisionalName])
  have hcontent := roundTrips_events roundTrips_opaqueValue
  exact decode_iff.2 ⟨_, rfl, {
    nextBatch := roundTrips_string.required hread.nextBatch (hfield "next_batch")
    accountData := hcontent.defaulted rfl hread.accountData (hfield "account_data")
    rooms := roundTrips_sections.defaulted rfl hread.rooms (hfield "rooms")
    toDevice := hcontent.defaulted rfl hread.toDevice (hfield "to_device")
    counts := roundTrips_counts.defaulted rfl hread.counts (hfield "device_one_time_keys_count")
    fallback := roundTrips_string.list.optional nofun hread.fallback
      (hfield "device_unused_fallback_key_types")
    provisional := roundTrips_string.list.optional nofun hread.provisional
      (hfield provisionalName)
    deviceLists := DeviceLists.roundTrips.defaulted rfl hread.deviceLists
      (hfield "device_lists") }⟩

end Batch

end RoomSync.Cursor
