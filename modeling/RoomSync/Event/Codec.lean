/-
  RoomSync.Event.Codec
  ────────────────────
  **THE WRITTEN FORM OF AN EVENT.**

  A written event keeps every member it came with: the known ones are
  decoded, all others pass through.  Written again, `sender`, `type`,
  `content` and `unsigned` are always there; `event_id`, `state_key`,
  `origin_server_ts` and the age only when they have a value.
-/
import RoomSync.Event.Basic
import RoomSync.Json.Decode

namespace RoomSync

open Json

/-! ## §1. Memberships. -/

/-- Any word is a membership, most of them an unknown one. -/
def Membership.decode : Decoder Membership := fun v => (Decode.word v).map .ofName

def Membership.encode (m : Membership) : Value := .string m.name

/-! ## §2. The server's additions. -/

def Unsigned.decode : Decoder Unsigned := fun v => do
  let ms ← Decode.members "struct Unsigned" v
  let age ← Decode.optional "age" Decode.i64 ms
  return { age, extra := ← Decode.others ["age"] ms }

def Unsigned.encode (u : Unsigned) : Value :=
  .object <| match u.age with
    | some age => Entries.insert "age" (.integer age) u.extra
    | none => u.extra

/-! ## §3. Events. -/

namespace RoomEvent

/-- The members that are interpreted. -/
def knownMembers : List String :=
  ["event_id", "sender", "type", "state_key", "origin_server_ts", "content", "unsigned"]

def decode : Decoder RoomEvent := fun v => do
  let ms ← Decode.members "struct RawRoomEvent" v
  let id ← Decode.optional "event_id" Decode.string ms
  let sender ← Decode.defaulted "sender" "" Decode.string ms
  let type ← Decode.defaulted "type" "" Decode.string ms
  let stateKey ← Decode.optional "state_key" Decode.string ms
  let timestamp ← Decode.optional "origin_server_ts" Decode.u64 ms
  let content ← Decode.defaulted "content" .emptyObject Decode.opaqueValue ms
  let unsigned ← Decode.defaulted "unsigned" {} Unsigned.decode ms
  return {
    id, sender, type, stateKey, timestamp, content, unsigned
    other := ← Decode.others knownMembers ms }

/-- The interpreted members that are written, with their values. -/
def fields (e : RoomEvent) : List (String × Value) :=
  [("sender", .string e.sender), ("type", .string e.type), ("content", e.content),
    ("unsigned", e.unsigned.encode)]
  ++ (e.id.map fun id => ("event_id", Value.string id)).toList
  ++ (e.stateKey.map fun key => ("state_key", Value.string key)).toList
  ++ (e.timestamp.map fun t => ("origin_server_ts", Value.ofNat t)).toList

def encode (e : RoomEvent) : Value :=
  .object (e.fields.foldl (fun ms f => Entries.insert f.1 f.2 ms) e.other)

/-- A list of events. -/
def encodeAll (es : List RoomEvent) : Value := .array (es.map encode)

/-- An event out of a value that came from outside, with the library's own
error. -/
def ofValue (v : Value) : Except SyncError RoomEvent :=
  match decode v with
  | .ok e => .ok e
  | .error e => .error e.toSyncError

end RoomEvent

end RoomSync
