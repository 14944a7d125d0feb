/-
  RoomSync.Cursor.Batch
  ─────────────────────
  **WHAT HAPPENED SINCE A CURSOR.**

  The homeserver's answer: account data, the rooms by the user's relation
  to them, what the crypto engine has to know, and the next cursor.  Rooms
  stand in the order of their ids.
-/
import RoomSync.Event.Codec
import RoomSync.Identifier.Codec

namespace RoomSync.Cursor

open Json

/-! ## §1. The parts of a batch. -/

structure Timeline where
  events : List RoomEvent := []
  /-- Whether events before these were left out. -/
  limited : Bool := false
  previous : Option String := none
  deriving DecidableEq, Inhabited

/-- What happened in a room the user is in, or was in. -/
structure RoomUpdate where
  timeline : Timeline := {}
  state : List RoomEvent := []
  accountData : List Value := []
  deriving DecidableEq, Inhabited

/-- Users whose devices changed, and users no longer shared with. -/
structure DeviceLists where
  changed : List UserId := []
  left : List UserId := []
  deriving DecidableEq, Inhabited

structure Batch where
  nextBatch : String := ""
  accountData : List Value := []
  joined : Table RoomId RoomUpdate := .empty
  /-- The stripped state of each room the user is invited to. -/
  invited : Table RoomId (List RoomEvent) := .empty
  left : Table RoomId RoomUpdate := .empty
  toDevice : List Value := []
  oneTimeKeyCounts : Table String Nat := .empty
  fallbackKeyTypes : Option (List String) := none
  /-- The same under its provisional name, which wins. -/
  provisionalFallbackKeyTypes : Option (List String) := none
  deviceLists : DeviceLists := {}
  deriving DecidableEq, Inhabited

/-- The unused fallback keys. -/
def Batch.unusedFallbackKeyTypes (b : Batch) : List String :=
  (b.provisionalFallbackKeyTypes.or b.fallbackKeyTypes).getD []

/-! ## §2. The written form.

A record may also be written as the list of its values, which may end where all
that is missing has a default. -/

/-- A list inside a record of its own. -/
def decodeEvents (decode : Decoder α) : Decoder (List α) := fun v => do
  let ms ← Decode.membersOrValues "a record of events" ["events"] 0 v
  Decode.defaulted "events" [] (Decode.list decode) ms

def encodeEvents (encode : α → Value) (es : List α) : Value :=
  .record [("events", .array (es.map encode))]

namespace Timeline

def decode : Decoder Timeline := fun v => do
  let ms ← Decode.membersOrValues "a timeline" ["events", "limited", "prev_batch"] 0 v
  return {
    events := ← Decode.defaulted "events" [] (Decode.list RoomEvent.decode) ms
    limited := ← Decode.defaulted "limited" false Decode.bool ms
    previous := ← Decode.optional "prev_batch" Decode.string ms }

def encode (t : Timeline) : Value :=
  .recordSome [
    ("events", some (RoomEvent.encodeAll t.events)),
    ("limited", some (.bool t.limited)),
    ("prev_batch", t.previous.map .string)]

end Timeline

namespace RoomUpdate

def decode : Decoder RoomUpdate := fun v => do
  let ms ← Decode.membersOrValues "a joined room" ["timeline", "state", "account_data"] 0 v
  return {
    timeline := ← Decode.defaulted "timeline" {} Timeline.decode ms
    state := ← Decode.defaulted "state" [] (decodeEvents RoomEvent.decode) ms
    accountData := ← Decode.defaulted "account_data" [] (decodeEvents Decode.opaqueValue) ms }

def encode (u : RoomUpdate) : Value :=
  .record [
    ("timeline", u.timeline.encode),
    ("state", encodeEvents RoomEvent.encode u.state),
    ("account_data", encodeEvents id u.accountData)]

end RoomUpdate

/-- An invite holds stripped state only. -/
def decodeInvite : Decoder (List RoomEvent) := fun v => do
  let ms ← Decode.membersOrValues "an invitation" ["invite_state"] 0 v
  Decode.defaulted "invite_state" [] (decodeEvents RoomEvent.decode) ms

def encodeInvite (es : List RoomEvent) : Value :=
  .record [("invite_state", encodeEvents RoomEvent.encode es)]

namespace DeviceLists

/-- The members of the lists of users. -/
def memberNames : List String := ["changed", "left"]

def decode : Decoder DeviceLists := fun v => do
  let ms ← Decode.membersOrValues "lists of users" memberNames 0 v
  return {
    changed := ← Decode.defaulted "changed" [] UserId.decodeList ms
    left := ← Decode.defaulted "left" [] UserId.decodeList ms }

def encode (d : DeviceLists) : Value :=
  .record [("changed", UserId.encodeList d.changed), ("left", UserId.encodeList d.left)]

end DeviceLists

namespace Batch

/-- The three sections of rooms. -/
structure Sections where
  joined : Table RoomId RoomUpdate := .empty
  invited : Table RoomId (List RoomEvent) := .empty
  left : Table RoomId RoomUpdate := .empty

/-- The members of the record of rooms. -/
def sectionNames : List String := ["join", "invite", "leave"]

def decodeSections : Decoder Sections := fun v => do
  let ms ← Decode.membersOrValues "a record of rooms" sectionNames 0 v
  return {
    joined := ← Decode.defaulted "join" .empty (RoomId.decodeTable RoomUpdate.decode) ms
    invited := ← Decode.defaulted "invite" .empty (RoomId.decodeTable decodeInvite) ms
    left := ← Decode.defaulted "leave" .empty (RoomId.decodeTable RoomUpdate.decode) ms }

def decodeCounts : Decoder (Table String Nat) := fun v =>
  (Decode.entries Decode.u64 v).map .ofList

/-- The provisional name of the fallback keys. -/
def provisionalName : String := "org.matrix.msc2732.device_unused_fallback_key_types"

/-- The members of an answer. -/
def memberNames : List String :=
  ["next_batch", "account_data", "rooms", "to_device", "device_one_time_keys_count",
    "device_unused_fallback_key_types", provisionalName, "device_lists"]

def decode : Decoder Batch := fun v => do
  let ms ← Decode.membersOrValues "an answer" memberNames 1 v
  let nextBatch ← Decode.required "next_batch" Decode.string ms
  let accountData ← Decode.defaulted "account_data" [] (decodeEvents Decode.opaqueValue) ms
  let rooms ← Decode.defaulted "rooms" {} decodeSections ms
  return {
    nextBatch, accountData
    joined := rooms.joined
    invited := rooms.invited
    left := rooms.left
    toDevice := ← Decode.defaulted "to_device" [] (decodeEvents Decode.opaqueValue) ms
    oneTimeKeyCounts := ← Decode.defaulted "device_one_time_keys_count" .empty decodeCounts ms
    fallbackKeyTypes :=
      ← Decode.optional "device_unused_fallback_key_types" (Decode.list Decode.string) ms
    provisionalFallbackKeyTypes :=
      ← Decode.optional provisionalName (Decode.list Decode.string) ms
    deviceLists := ← Decode.defaulted "device_lists" {} DeviceLists.decode ms }

def encodeStrings (ss : List String) : Value := .array (ss.map .string)

def encodeSections (b : Batch) : Value :=
  .record [
    ("join", RoomId.encodeTable RoomUpdate.encode b.joined),
    ("invite", RoomId.encodeTable encodeInvite b.invited),
    ("leave", RoomId.encodeTable RoomUpdate.encode b.left)]

def encodeCounts (t : Table String Nat) : Value :=
  .object (t.entries.map fun e => (e.1, .ofNat e.2))

def encode (b : Batch) : Value :=
  .recordSome [
    ("next_batch", some (.string b.nextBatch)),
    ("account_data", some (encodeEvents id b.accountData)),
    ("rooms", some b.encodeSections),
    ("to_device", some (encodeEvents id b.toDevice)),
    ("device_one_time_keys_count", some (encodeCounts b.oneTimeKeyCounts)),
    ("device_unused_fallback_key_types", b.fallbackKeyTypes.map encodeStrings),
    (provisionalName, b.provisionalFallbackKeyTypes.map encodeStrings),
    ("device_lists", some b.deviceLists.encode)]

end Batch

end RoomSync.Cursor
