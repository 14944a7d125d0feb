/-
  RoomSync.Window.Message
  ───────────────────────
  **KEEPING WINDOWS OF ROOM LISTS.**

  The client asks for windows of sorted room lists; the homeserver answers
  with operations on those windows, to be applied in order, and with the
  position to ask from next.  A window `[start, stop)` is written as a
  pair.
-/
import RoomSync.Event.Codec
import RoomSync.Identifier.Codec

namespace RoomSync.Window

open Json

/-! ## §1. Requests. -/

/-- Which rooms the homeserver puts into a list. -/
structure Filters where
  isDirect : Option Bool := none
  isInvite : Option Bool := none
  isEncrypted : Option Bool := none
  nameLike : Option String := none
  deriving DecidableEq, Inhabited

/-- The request for one list. -/
structure ListRequest where
  /-- The windows to keep in sync. -/
  ranges : List (Nat × Nat)
  sort : List String
  /-- Event type and state key of the state to send with a room. -/
  requiredState : List (String × String)
  timelineLimit : Nat
  filters : Option Filters := none
  deriving DecidableEq, Inhabited

structure Request where
  lists : List ListRequest := []
  deriving DecidableEq, Inhabited

/-! ## §2. Answers. -/

/-- What an operation says about a room. -/
structure Payload where
  /-- Absent when the operation does not say which room it is about. -/
  roomId : Option RoomId := none
  requiredState : List RoomEvent := []
  timeline : List RoomEvent := []
  inviteState : List RoomEvent := []
  deriving DecidableEq, Inhabited

/-- One change of one list, which is named by its place in the request. -/
inductive Operation where
  /-- The rooms of a window, from its start on. -/
  | sync (list : Nat) (range : Nat × Nat) (rooms : List (Option Payload))
  | update (list index : Nat) (room : Payload)
  | insert (list index : Nat) (room : Payload)
  | delete (list index : Nat)
  /-- The rooms of a window are no longer known. -/
  | invalidate (list : Nat) (range : Nat × Nat)
  deriving DecidableEq, Inhabited

/-- The list an operation is about. -/
def Operation.list : Operation → Nat
  | sync list _ _ | update list _ _ | insert list _ _ | delete list _ | invalidate list _ => list

structure Batch where
  pos : String := ""
  /-- The number of rooms in each list. -/
  counts : List Nat := []
  operations : List Operation := []
  deriving DecidableEq, Inhabited

/-! ## §3. The written form of requests.

A record may also be written as the list of its values, which may end where all
that is missing has a default. -/

def decodeRange : Decoder (Nat × Nat) := Decode.pair Decode.u64

def encodeRange (r : Nat × Nat) : Value := .array [.ofNat r.1, .ofNat r.2]

namespace Filters

def decode : Decoder Filters := fun v => do
  let ms ← Decode.membersOrValues "conditions of a list"
    ["is_dm", "is_invite", "is_encrypted", "room_name_like"] 0 v
  return {
    isDirect := ← Decode.optional "is_dm" Decode.bool ms
    isInvite := ← Decode.optional "is_invite" Decode.bool ms
    isEncrypted := ← Decode.optional "is_encrypted" Decode.bool ms
    nameLike := ← Decode.optional "room_name_like" Decode.string ms }

def encode (f : Filters) : Value :=
  .recordSome [
    ("is_dm", f.isDirect.map .bool),
    ("is_invite", f.isInvite.map .bool),
    ("is_encrypted", f.isEncrypted.map .bool),
    ("room_name_like", f.nameLike.map .string)]

end Filters

namespace ListRequest

def decode : Decoder ListRequest := fun v => do
  let ms ← Decode.membersOrValues "a request for a list"
    ["rooms", "sort", "required_state", "timeline_limit", "filters"] 4 v
  return {
    ranges := ← Decode.required "rooms" (Decode.list decodeRange) ms
    sort := ← Decode.required "sort" (Decode.list Decode.string) ms
    requiredState := ← Decode.required "required_state"
      (Decode.list (Decode.pair Decode.string)) ms
    timelineLimit := ← Decode.required "timeline_limit" Decode.u32 ms
    filters := ← Decode.optional "filters" Filters.decode ms }

def encode (r : ListRequest) : Value :=
  .recordSome [
    ("rooms", some (.array (r.ranges.map encodeRange))),
    ("sort", some (.array (r.sort.map .string))),
    ("required_state",
      some (.array (r.requiredState.map fun p => .array [.string p.1, .string p.2]))),
    ("timeline_limit", some (.ofNat r.timelineLimit)),
    ("filters", r.filters.map Filters.encode)]

end ListRequest

namespace Request

def decode : Decoder Request := fun v => do
  let ms ← Decode.membersOrValues "a request for windows" ["lists"] 1 v
  return { lists := ← Decode.required "lists" (Decode.list ListRequest.decode) ms }

def encode (r : Request) : Value :=
  .record [("lists", .array (r.lists.map ListRequest.encode))]

end Request

/-! ## §4. The written form of answers. -/

namespace Payload

def decode : Decoder Payload := fun v => do
  let ms ← Decode.membersOrValues "a room"
    ["room_id", "required_state", "timeline", "invite_state"] 0 v
  return {
    roomId := ← Decode.defaulted "room_id" none RoomId.decodeLenient ms
    requiredState := ← Decode.defaulted "required_state" [] (Decode.list RoomEvent.decode) ms
    timeline := ← Decode.defaulted "timeline" [] (Decode.list RoomEvent.decode) ms
    inviteState := ← Decode.defaulted "invite_state" [] (Decode.list RoomEvent.decode) ms }

def encode (p : Payload) : Value :=
  .recordSome [
    ("room_id", p.roomId.map RoomId.encode),
    ("required_state", some (RoomEvent.encodeAll p.requiredState)),
    ("timeline", some (RoomEvent.encodeAll p.timeline)),
    ("invite_state", some (RoomEvent.encodeAll p.inviteState))]

end Payload

namespace Operation

/-- The names of the five operations. -/
def names : List String := ["SYNC", "UPDATE", "INSERT", "DELETE", "INVALIDATE"]

def decode : Decoder Operation := fun v => do
  let (op, rest) ← Decode.tagged "a list operation" "op" Decode.string v
  let members (names : List String) (least : Nat) : Decoded Members :=
    Decode.membersOrValues "a list operation" names least rest
  let list (ms : Members) : Decoded Nat :=
    Decode.required "list" (Decode.natural Decode.maxU64 "a list index") ms
  let index (ms : Members) : Decoded Nat := Decode.required "index" Decode.u64 ms
  let range (ms : Members) : Decoded (Nat × Nat) := Decode.required "range" decodeRange ms
  let room (ms : Members) : Decoded Payload := Decode.required "room" Payload.decode ms
  match op with
  | "SYNC" => do
      let ms ← members ["list", "range", "rooms"] 2
      let rooms ← Decode.defaulted "rooms" [] (Decode.list (Decode.nullable Payload.decode)) ms
      return .sync (← list ms) (← range ms) rooms
  | "UPDATE" => do
      let ms ← members ["list", "index", "room"] 3
      return .update (← list ms) (← index ms) (← room ms)
  | "INSERT" => do
      let ms ← members ["list", "index", "room"] 3
      return .insert (← list ms) (← index ms) (← room ms)
  | "DELETE" => do
      let ms ← members ["list", "index"] 2
      return .delete (← list ms) (← index ms)
  | "INVALIDATE" => do
      let ms ← members ["list", "range"] 2
      return .invalidate (← list ms) (← range ms)
  | other => .error (.unknownVariant other names)

def encode : Operation → Value
  | sync list range rooms =>
      .record [("op", .string "SYNC"), ("list", .ofNat list), ("range", encodeRange range),
        ("rooms", .array (rooms.map (Value.ofOption Payload.encode)))]
  | update list index room =>
      .record [("op", .string "UPDATE"), ("list", .ofNat list), ("index", .ofNat index),
        ("room", room.encode)]
  | insert list index room =>
      .record [("op", .string "INSERT"), ("list", .ofNat list), ("index", .ofNat index),
        ("room", room.encode)]
  | delete list index =>
      .record [("op", .string "DELETE"), ("list", .ofNat list), ("index", .ofNat index)]
  | invalidate list range =>
      .record [("op", .string "INVALIDATE"), ("list", .ofNat list), ("range", encodeRange range)]

end Operation

namespace Batch

def decode : Decoder Batch := fun v => do
  let ms ← Decode.membersOrValues "an answer with windows" ["pos", "counts", "ops"] 1 v
  return {
    pos := ← Decode.required "pos" Decode.string ms
    counts := ← Decode.defaulted "counts" [] (Decode.list Decode.u64) ms
    operations := ← Decode.defaulted "ops" [] (Decode.list Operation.decode) ms }

def encode (b : Batch) : Value :=
  .record [
    ("pos", .string b.pos),
    ("counts", .array (b.counts.map .ofNat)),
    ("ops", .array (b.operations.map Operation.encode))]

end Batch

end RoomSync.Window
