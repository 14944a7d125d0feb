/-
  RoomSync.Proofs.Window.WrittenForm
  ──────────────────────────────────
  **REQUESTS FOR WINDOWS AND THEIR ANSWERS COME BACK.**

  What was read of a request or of an answer is read again from its written form
  (`Request.roundTrips`, `Batch.roundTrips`).  An operation is written with its name
  first, and each of the five has members of its own (`Operation.fields`); a room of
  a window that is not known is `null`, which no room is written as.
-/
import RoomSync.Proofs.Event.WrittenForm
import RoomSync.Window.Message

namespace RoomSync.Window

open Json Decode

theorem roundTrips_range : RoundTrips decodeRange encodeRange := roundTrips_u64.pair

/-! ## §1. Requests. -/

namespace Filters

/-- The conditions of a list, with those that are not set. -/
def fields (f : Filters) : List (String × Option Value) :=
  [("is_dm", f.isDirect.map .bool), ("is_invite", f.isInvite.map .bool),
    ("is_encrypted", f.isEncrypted.map .bool), ("room_name_like", f.nameLike.map .string)]

theorem encode_eq (f : Filters) : f.encode = .object (recordMembers (present f.fields)) := rfl

theorem roundTrips : RoundTrips Filters.decode Filters.encode := by
  intro v f h
  obtain ⟨ms, -, h⟩ := bind_eq_ok h
  obtain ⟨isDirect, hdirect, h⟩ := bind_eq_ok h
  obtain ⟨isInvite, hinvite, h⟩ := bind_eq_ok h
  obtain ⟨isEncrypted, hencrypted, h⟩ := bind_eq_ok h
  obtain ⟨nameLike, hname, h⟩ := bind_eq_ok h
  obtain rfl := Except.ok.inj h
  have hfield := field?_recordSome (Filters.fields ⟨isDirect, isInvite, isEncrypted, nameLike⟩)
    (by simp [fields])
  rw [encode_eq]
  unfold Filters.decode
  rw [ok_bind (rfl : membersOrValues "conditions of a list" _ 0 (.object _) = .ok _),
    ok_bind (roundTrips_bool.optional nofun hdirect (hfield "is_dm")),
    ok_bind (roundTrips_bool.optional nofun hinvite (hfield "is_invite")),
    ok_bind (roundTrips_bool.optional nofun hencrypted (hfield "is_encrypted")),
    ok_bind (roundTrips_string.optional nofun hname (hfield "room_name_like"))]
  rfl

end Filters

namespace ListRequest

/-- The members of the request for one list. -/
def fields (r : ListRequest) : List (String × Option Value) :=
  [("rooms", some (.array (r.ranges.map encodeRange))),
    ("sort", some (.array (r.sort.map .string))),
    ("required_state",
      some (.array (r.requiredState.map fun p => .array [.string p.1, .string p.2]))),
    ("timeline_limit", some (.ofNat r.timelineLimit)),
    ("filters", r.filters.map Filters.encode)]

theorem encode_eq (r : ListRequest) : r.encode = .object (recordMembers (present r.fields)) := rfl

theorem roundTrips : RoundTrips ListRequest.decode ListRequest.encode := by
  intro v r h
  obtain ⟨ms, -, h⟩ := bind_eq_ok h
  obtain ⟨ranges, hranges, h⟩ := bind_eq_ok h
  obtain ⟨sort, hsort, h⟩ := bind_eq_ok h
  obtain ⟨requiredState, hstate, h⟩ := bind_eq_ok h
  obtain ⟨timelineLimit, hlimit, h⟩ := bind_eq_ok h
  obtain ⟨filters, hfilters, h⟩ := bind_eq_ok h
  obtain rfl := Except.ok.inj h
  have hfield := field?_recordSome
    (ListRequest.fields ⟨ranges, sort, requiredState, timelineLimit, filters⟩) (by simp [fields])
  rw [encode_eq]
  unfold ListRequest.decode
  rw [ok_bind (rfl : membersOrValues "a request for a list" _ 4 (.object _) = .ok _),
    ok_bind (roundTrips_range.list.required hranges (hfield "rooms")),
    ok_bind (roundTrips_string.list.required hsort (hfield "sort")),
    ok_bind (roundTrips_string.pair.list.required hstate (hfield "required_state")),
    ok_bind (roundTrips_u32.required hlimit (hfield "timeline_limit")),
    ok_bind (Filters.roundTrips.optional nofun hfilters (hfield "filters"))]
  rfl

end ListRequest

namespace Request

theorem encode_eq (r : Request) : r.encode =
    .object (recordMembers (present [("lists", some (.array (r.lists.map ListRequest.encode)))])) :=
  rfl

/-- **A request for windows comes back.** -/
theorem roundTrips : RoundTrips Request.decode Request.encode := by
  intro v r h
  obtain ⟨ms, -, h⟩ := bind_eq_ok h
  obtain ⟨lists, hlists, h⟩ := bind_eq_ok h
  obtain rfl := Except.ok.inj h
  have hfield := field?_recordSome
    [("lists", some (.array (lists.map ListRequest.encode)))] (by simp)
  rw [encode_eq]
  unfold Request.decode
  rw [ok_bind (rfl : membersOrValues "a request for windows" _ 1 (.object _) = .ok _),
    ok_bind (ListRequest.roundTrips.list.required hlists (hfield "lists"))]
  rfl

end Request

/-! ## §2. Rooms. -/

namespace Payload

/-- What is said about a room, without an id where none was said. -/
def fields (p : Payload) : List (String × Option Value) :=
  [("room_id", p.roomId.map RoomId.encode),
    ("required_state", some (RoomEvent.encodeAll p.requiredState)),
    ("timeline", some (RoomEvent.encodeAll p.timeline)),
    ("invite_state", some (RoomEvent.encodeAll p.inviteState))]

theorem encode_eq (p : Payload) : p.encode = .object (recordMembers (present p.fields)) := rfl

theorem encode_ne_null (p : Payload) : p.encode ≠ .null := nofun

/-- An id that was malformed is not written, and then there is none to read. -/
theorem roomId_of_field {ms : Members} {o : Option RoomId}
    (hfield : field? "room_id" ms = .ok (o.map RoomId.encode)) :
    defaulted "room_id" none RoomId.decodeLenient ms = .ok o := by
  unfold defaulted
  rw [hfield]
  cases o with
  | none => rfl
  | some r => exact r.decodeLenient_encode

theorem roundTrips : RoundTrips Payload.decode Payload.encode := by
  intro v p h
  obtain ⟨ms, -, h⟩ := bind_eq_ok h
  obtain ⟨roomId, -, h⟩ := bind_eq_ok h
  obtain ⟨requiredState, hstate, h⟩ := bind_eq_ok h
  obtain ⟨timeline, htimeline, h⟩ := bind_eq_ok h
  obtain ⟨inviteState, hinvite, h⟩ := bind_eq_ok h
  obtain rfl := Except.ok.inj h
  have hfield := field?_recordSome
    (Payload.fields ⟨roomId, requiredState, timeline, inviteState⟩) (by simp [fields])
  have hevents := RoomEvent.roundTrips.list
  rw [encode_eq]
  unfold Payload.decode
  rw [ok_bind (rfl : membersOrValues "a room" _ 0 (.object _) = .ok _),
    ok_bind (roomId_of_field (hfield "room_id")),
    ok_bind (hevents.defaulted rfl hstate (hfield "required_state")),
    ok_bind (hevents.defaulted rfl htimeline (hfield "timeline")),
    ok_bind (hevents.defaulted rfl hinvite (hfield "invite_state"))]
  rfl

end Payload

/-! ## §3. Operations. -/

namespace Operation

/-- The members of an operation, with its name first. -/
def fields : Operation → List (String × Value)
  | sync list range rooms =>
      [("op", .string "SYNC"), ("list", .ofNat list), ("range", encodeRange range),
        ("rooms", .array (rooms.map (Value.ofOption Payload.encode)))]
  | update list index room =>
      [("op", .string "UPDATE"), ("list", .ofNat list), ("index", .ofNat index),
        ("room", room.encode)]
  | insert list index room =>
      [("op", .string "INSERT"), ("list", .ofNat list), ("index", .ofNat index),
        ("room", room.encode)]
  | delete list index =>
      [("op", .string "DELETE"), ("list", .ofNat list), ("index", .ofNat index)]
  | invalidate list range =>
      [("op", .string "INVALIDATE"), ("list", .ofNat list), ("range", encodeRange range)]

theorem encode_eq (o : Operation) : o.encode = .object (recordMembers o.fields) := by
  cases o <;> rfl

theorem nodup_fields (o : Operation) : (o.fields.map (·.1)).Nodup := by
  cases o <;> simp [fields]

theorem field?_fields (o : Operation) (name : String) :
    field? name (recordMembers o.fields) = .ok (o.fields.lookup name) :=
  field?_record o.nodup_fields name

/-- **Each of the five operations comes back.** -/
theorem roundTrips : RoundTrips Operation.decode Operation.encode := by
  intro v o h
  obtain ⟨⟨name, rest⟩, -, h⟩ := bind_eq_ok h
  rw [encode_eq]
  have hfield := o.field?_fields
  have htag : ∀ {op : String}, o.fields.lookup "op" = some (.string op) →
      tagged "a list operation" "op" Decode.string (.object (recordMembers o.fields)) =
        .ok (op, .object (recordMembers o.fields)) :=
    fun hop => tagged_object (required_record o.nodup_fields hop _)
  generalize recordMembers o.fields = written at hfield htag ⊢
  have hplaces : RoundTrips (natural maxU64 "a list index") Value.ofNat := roundTrips_natural _ _
  have hrooms := (Payload.roundTrips.nullable Payload.encode_ne_null).list
  unfold Operation.decode
  -- the name that was read is the one that is written
  dsimp only at h
  split at h
  case h_1 =>
    obtain ⟨ms, -, h⟩ := bind_eq_ok h
    obtain ⟨rooms, hrooms', h⟩ := bind_eq_ok h
    obtain ⟨list, hlist, h⟩ := bind_eq_ok h
    obtain ⟨range, hrange, h⟩ := bind_eq_ok h
    obtain rfl := Except.ok.inj h
    rw [ok_bind (htag rfl)]
    -- the rooms of a window are read before its place
    show (defaulted "rooms" _ _ written >>= _) = .ok (sync list range rooms)
    rw [ok_bind (hrooms.defaulted rfl hrooms' (hfield "rooms")),
      ok_bind (hplaces.required hlist (hfield "list")),
      ok_bind (roundTrips_range.required hrange (hfield "range"))]
    rfl
  case h_2 =>
    obtain ⟨ms, -, h⟩ := bind_eq_ok h
    obtain ⟨list, hlist, h⟩ := bind_eq_ok h
    obtain ⟨index, hindex, h⟩ := bind_eq_ok h
    obtain ⟨room, hroom, h⟩ := bind_eq_ok h
    obtain rfl := Except.ok.inj h
    rw [ok_bind (htag rfl)]
    show (required "list" _ written >>= _) = .ok (update list index room)
    rw [ok_bind (hplaces.required hlist (hfield "list")),
      ok_bind (roundTrips_u64.required hindex (hfield "index")),
      ok_bind (Payload.roundTrips.required hroom (hfield "room"))]
    rfl
  case h_3 =>
    obtain ⟨ms, -, h⟩ := bind_eq_ok h
    obtain ⟨list, hlist, h⟩ := bind_eq_ok h
    obtain ⟨index, hindex, h⟩ := bind_eq_ok h
    obtain ⟨room, hroom, h⟩ := bind_eq_ok h
    obtain rfl := Except.ok.inj h
    rw [ok_bind (htag rfl)]
    show (required "list" _ written >>= _) = .ok (insert list index room)
    rw [ok_bind (hplaces.required hlist (hfield "list")),
      ok_bind (roundTrips_u64.required hindex (hfield "index")),
      ok_bind (Payload.roundTrips.required hroom (hfield "room"))]
    rfl
  case h_4 =>
    obtain ⟨ms, -, h⟩ := bind_eq_ok h
    obtain ⟨list, hlist, h⟩ := bind_eq_ok h
    obtain ⟨index, hindex, h⟩ := bind_eq_ok h
    obtain rfl := Except.ok.inj h
    rw [ok_bind (htag rfl)]
    show (required "list" _ written >>= _) = .ok (delete list index)
    rw [ok_bind (hplaces.required hlist (hfield "list")),
      ok_bind (roundTrips_u64.required hindex (hfield "index"))]
    rfl
  case h_5 =>
    obtain ⟨ms, -, h⟩ := bind_eq_ok h
    obtain ⟨list, hlist, h⟩ := bind_eq_ok h
    obtain ⟨range, hrange, h⟩ := bind_eq_ok h
    obtain rfl := Except.ok.inj h
    rw [ok_bind (htag rfl)]
    show (required "list" _ written >>= _) = .ok (invalidate list range)
    rw [ok_bind (hplaces.required hlist (hfield "list")),
      ok_bind (roundTrips_range.required hrange (hfield "range"))]
    rfl
  -- no operation has another name
  case h_6 => cases h

end Operation

/-! ## §4. The whole answer. -/

namespace Batch

/-- The members of an answer. -/
def fields (b : Batch) : List (String × Option Value) :=
  [("pos", some (.string b.pos)), ("counts", some (.array (b.counts.map .ofNat))),
    ("ops", some (.array (b.operations.map Operation.encode)))]

theorem encode_eq (b : Batch) : b.encode = .object (recordMembers (present b.fields)) := rfl

/-- **An answer with windows comes back**, whatever its operations are. -/
theorem roundTrips : RoundTrips Batch.decode Batch.encode := by
  intro v b h
  obtain ⟨ms, -, h⟩ := bind_eq_ok h
  obtain ⟨pos, hpos, h⟩ := bind_eq_ok h
  obtain ⟨counts, hcounts, h⟩ := bind_eq_ok h
  obtain ⟨operations, hoperations, h⟩ := bind_eq_ok h
  obtain rfl := Except.ok.inj h
  have hfield := field?_recordSome (Batch.fields ⟨pos, counts, operations⟩) (by simp [fields])
  rw [encode_eq]
  unfold Batch.decode
  rw [ok_bind (rfl : membersOrValues "an answer with windows" _ 1 (.object _) = .ok _),
    ok_bind (roundTrips_string.required hpos (hfield "pos")),
    ok_bind (roundTrips_u64.list.defaulted rfl hcounts (hfield "counts")),
    ok_bind (Operation.roundTrips.list.defaulted rfl hoperations (hfield "ops"))]
  rfl

end Batch

end RoomSync.Window
