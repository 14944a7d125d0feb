/-
  RoomSync.Identifier.Codec
  ─────────────────────────
  **IDS IN DOCUMENTS.**

  The homeserver's answers are read leniently: a malformed id is dropped,
  with what stands under it, and never spoils the rest of the answer.  The
  library's own documents are read strictly.
-/
import RoomSync.Identifier.Basic
import RoomSync.Json.Decode

namespace RoomSync

open Json

namespace RoomId

/-- A room id, which must be well formed. -/
def decode : Decoder RoomId := fun v => do
  match ofString? (← Decode.string v) with
  | some r => .ok r
  | none => .error (.badId "not a room id")

/-- A room id or `null`; a malformed one counts as `null`. -/
def decodeLenient : Decoder (Option RoomId) := fun v =>
  (Decode.nullable Decode.string v).map (·.bind ofString?)

def encode (r : RoomId) : Value := .string r.text

/-- A map by room id; every value must decode, and then the entries under
malformed ids are dropped. -/
def decodeTable (decode : Decoder α) : Decoder (Table RoomId α) := fun v => do
  let entries ← Decode.entries decode v
  return Table.ofList (entries.filterMap fun e => (ofString? e.1).map (·, e.2))

def encodeTable (encode : α → Value) (t : Table RoomId α) : Value :=
  .object (t.entries.map fun e => (e.1.text, encode e.2))

end RoomId

namespace UserId

/-- A list of user ids without the malformed ones. -/
def decodeList : Decoder (List UserId) := fun v =>
  (Decode.list Decode.string v).map (·.filterMap ofString?)

def encodeList (us : List UserId) : Value := .array (us.map fun u => .string u.text)

end UserId

end RoomSync
