/-
  RoomSync.Json.Decode
  ────────────────────
  **VALUES TO RECORDS.**

  The rules every record of the wire formats follows.  Unknown members are
  ignored; a missing member takes its default if it has one; `null` stands
  only for an optional member; a value of another type is an error; a known
  member that a text repeats is an error.

  Content that is not interpreted (§3) is kept in canonical form.  It has to
  be readable throughout, while nothing is asked of what is ignored.
-/
import RoomSync.Json.Reader
import RoomSync.Json.Writer
import RoomSync.Error

namespace RoomSync.Json

/-- Why a value is not what was expected. -/
inductive DecodeError where
  | wrongType (found : Value) (expected : String)
  /-- Of the right type, but outside the range. -/
  | badValue (found : Value) (expected : String)
  | badLength (found : Nat) (expected : String)
  | missingField (name : String)
  | repeatedField (name : String)
  | unknownVariant (found : String) (expected : List String)
  /-- An id that fails its check. -/
  | badId (reason : String)
  /-- The text is not a value at all. -/
  | malformed

/-- What was found, in words. -/
def Value.described : Value → String
  | .null => "null"
  | .bool b => "boolean " ++ tick (if b then "true" else "false")
  | .integer i => "integer " ++ tick (toString i)
  | .double d => "floating point " ++ tick d.text
  | .string s => "string " ++ quote s
  | .array _ => "sequence"
  | .object _ => "map"
  | .unreadable => "no value"
where
  tick (s : String) : String := "\x60" ++ s ++ "\x60"

/-- The wording of a decoding error. -/
def DecodeError.message : DecodeError → String
  | .wrongType found expected =>
      "invalid type: " ++ found.described ++ ", expected " ++ expected
  | .badValue found expected =>
      "invalid value: " ++ found.described ++ ", expected " ++ expected
  | .badLength found expected =>
      "invalid length " ++ toString found ++ ", expected " ++ expected
  | .missingField name => "missing field " ++ Value.described.tick name
  | .repeatedField name => "duplicate field " ++ Value.described.tick name
  | .unknownVariant found expected =>
      "unknown variant " ++ Value.described.tick found ++ ", expected "
        ++ match expected.map Value.described.tick with
          | [a] => a
          | [a, b] => a ++ " or " ++ b
          | all => "one of " ++ String.intercalate ", " all
  | .badId reason => reason
  | .malformed => "malformed document"

/-- A decoding error is a serialization error. -/
def DecodeError.toSyncError (e : DecodeError) : SyncError := .serialization e.message

abbrev Decoded (α : Type) := Except DecodeError α

/-- A reader of values. -/
abbrev Decoder (α : Type) := Value → Decoded α

namespace Decode

/-! ## §1. Scalars. -/

def string : Decoder String
  | .string s => .ok s
  | v => .error (.wrongType v "a string")

def bool : Decoder Bool
  | .bool b => .ok b
  | v => .error (.wrongType v "a boolean")

/-- An integer from `lo` up to `hi`; `type` names the range. -/
def integer (lo hi : Int) (type : String) : Decoder Int
  | .integer i =>
      if lo ≤ i ∧ i ≤ hi then .ok i else .error (.badValue (.integer i) type)
  | v => .error (.wrongType v type)

/-- A natural number up to `limit`. -/
def natural (limit : Nat) (type : String) : Decoder Nat
  | .integer i =>
      if 0 ≤ i ∧ i ≤ limit then .ok i.toNat else .error (.badValue (.integer i) type)
  | v => .error (.wrongType v type)

/-- The greatest 64-bit natural. -/
def maxU64 : Nat := 0xFFFFFFFFFFFFFFFF

def u64 : Decoder Nat := natural maxU64 "u64"

def u32 : Decoder Nat := natural 0xFFFFFFFF "u32"

def i64 : Decoder Int := integer (-0x8000000000000000) 0x7FFFFFFFFFFFFFFF "i64"

/-- The word that names an alternative: a string, or a record of one empty
member of that name. -/
def word : Decoder String
  | .string s => .ok s
  | .object [(s, .null)] => .ok s
  | v => .error (.wrongType v "string or map")

/-- One of the listed words. -/
def choice (words : List (String × α)) : Decoder α := fun v => do
  let s ← word v
  match words.lookup s with
  | some a => .ok a
  | none => .error (.unknownVariant s (words.map (·.1)))

/-! ## §2. Lists. -/

def all (decode : Decoder α) : List Value → Decoded (List α)
  | [] => .ok []
  | v :: vs => do
      let a ← decode v
      let rest ← all decode vs
      return a :: rest

def list (decode : Decoder α) : Decoder (List α)
  | .array items => all decode items
  | v => .error (.wrongType v "a sequence")

/-- A list of exactly two. -/
def pair (decode : Decoder α) : Decoder (α × α)
  | .array [a, b] => do return (← decode a, ← decode b)
  | .array items => .error (.badLength items.length "an array of length 2")
  | v => .error (.wrongType v "an array of length 2")

/-- `null` or a value. -/
def nullable (decode : Decoder α) : Decoder (Option α)
  | .null => .ok none
  | v => (decode v).map some

/-! ## §3. Content that is not interpreted. -/

/-- A record whose first member has this name is no record: it stands for the
value that this member, its only one, holds as a text. -/
def embeddingName : String := "$serde_json::private::RawValue"

mutual

/-- A value in canonical form, all of which must be readable; a number that
is not finite counts as `null`.  What a record that embeds a text stands for
is up to `embedded`. -/
def keepWith (embedded : Members → Decoded Value) : Value → Decoded Value
  | .unreadable => .error .malformed
  | .double d => .ok (if d.isFinite then .double d else .null)
  | .array items => (keepItems embedded items).map .array
  | .object ms =>
      if ms.head?.any (·.1 = embeddingName) then embedded ms
      else (keepMembers embedded ms).map .object
  | v => .ok v

def keepItems (embedded : Members → Decoded Value) : List Value → Decoded (List Value)
  | [] => .ok []
  | v :: vs => do
      let v ← keepWith embedded v
      let rest ← keepItems embedded vs
      return v :: rest

/-- Of a repeated name the last value is kept. -/
def keepMembers (embedded : Members → Decoded Value) :
    List (String × Value) → Decoded (List (String × Value))
  | [] => .ok []
  | (k, v) :: ms => do
      let v ← keepWith embedded v
      let rest ← keepMembers embedded ms
      return if (Entries.get? k rest).isSome then rest else Entries.insert k v rest

end

/-- Content of a value that has been read before, where no text is embedded
any more. -/
def opaqueValue : Decoder Value := fun v => keepWith (fun _ => .error .malformed) v.canonical

/-- Content of a text, in which texts are embedded down to this depth. -/
def embeddingContent : Nat → Decoder Value
  | 0 => opaqueValue
  | depth + 1 => keepWith fun
      | [(_, .string text)] =>
          match read? text with
          | some v => embeddingContent depth v
          | none => .error .malformed
      | _ => .error .malformed

/-- Deeper than any text is embedded: each level doubles the escapes of those
below it. -/
def maxEmbedding : Nat := 64

/-- Content that comes from a text. -/
def content : Decoder Value := embeddingContent maxEmbedding

/-- Content of a setting, where a text may be embedded beside other members,
which do not count. -/
def settingContent : Decoder Value :=
  keepWith fun
    | (_, .string text) :: _ =>
        match read? text with
        | some v => content v
        | none => .error .malformed
    | _ => .error .malformed

/-! ## §4. Records. -/

/-- The members of a record; `type` names the record. -/
def members (type : String) : Value → Decoded Members
  | .object ms => .ok ms
  | v => .error (.wrongType v type)

/-- The members of a record whose values may also stand in a list, in the
order of their names: at least `least` of them. -/
def membersOrValues (type : String) (names : List String) (least : Nat) :
    Value → Decoded Members
  | .object ms => .ok ms
  | .array items =>
      if least ≤ items.length ∧ items.length ≤ names.length then .ok (names.zip items)
      else .error (.badLength items.length type)
  | v => .error (.wrongType v type)

/-- The value of a member, which may stand once. -/
def field? (name : String) (ms : Members) : Decoded (Option Value) :=
  match ms.filter (·.1 = name) with
  | [] => .ok none
  | [(_, v)] => .ok (some v)
  | _ => .error (.repeatedField name)

/-- A member that must be there. -/
def required (name : String) (decode : Decoder α) (ms : Members) : Decoded α := do
  match ← field? name ms with
  | some v => decode v
  | none => .error (.missingField name)

/-- A record of one of several types, which a member tells that may also stand
first in a list: that member's value, and the record itself or the rest of the list. -/
def tagged (type name : String) (decode : Decoder α) : Value → Decoded (α × Value)
  | .object ms => do return (← required name decode ms, .object ms)
  | .array [] => .error (.missingField name)
  | .array (tag :: items) => do return (← decode tag, .array items)
  | v => .error (.wrongType v type)

/-- A member that may be missing or `null`. -/
def optional (name : String) (decode : Decoder α) (ms : Members) : Decoded (Option α) := do
  match ← field? name ms with
  | some v => nullable decode v
  | none => .ok none

/-- A member that may be missing, but not `null`. -/
def defaulted (name : String) (default : α) (decode : Decoder α) (ms : Members) :
    Decoded α := do
  match ← field? name ms with
  | some v => decode v
  | none => .ok default

/-- The members under other names. -/
def unknown (known : List String) (ms : Members) : Members :=
  ms.filter fun m => !known.contains m.1

/-- The members under other names, as content. -/
def others (known : List String) (ms : Members) : Decoded Members :=
  keepMembers (fun _ => .error .malformed) (Value.canonicalMembers (unknown known ms))

/-- Members under other names that are ignored, but must be readable. -/
def readableOthers (known : List String) (ms : Members) : Decoded Unit :=
  if Value.membersReadable (unknown known ms) then .ok () else .error .malformed

/-- A map from names to values: of a repeated name the last stays. -/
def entries (decode : Decoder α) : Value → Decoded (List (String × α))
  | .object ms => go ms
  | v => .error (.wrongType v "a map")
where
  go : Members → Decoded (List (String × α))
    | [] => .ok []
    | (k, v) :: rest => do
        let a ← decode v
        let more ← go rest
        return (k, a) :: more

/-! ## §5. Texts. -/

/-- What a text holds. -/
def ofText? (decode : Decoder α) (text : String) : Option α :=
  (read? text).bind fun v => (decode v).toOption

end Decode

/-- The value that a text holds, in canonical form. -/
def readValue? : String → Option Value := Decode.ofText? Decode.content

end RoomSync.Json
