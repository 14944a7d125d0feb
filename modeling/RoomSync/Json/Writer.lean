/-
  RoomSync.Json.Writer
  ────────────────────
  **THE TEXT OF A VALUE.**

  Compact: no blanks, members in the order they stand in.  In a string the
  quote, the backslash and the control characters are escaped and nothing
  else is.
-/
import RoomSync.Json.Value

namespace RoomSync.Json

/-- A lower-case hexadecimal digit. -/
def hexDigit (n : Nat) : Char := (Nat.toDigits 16 (n % 16)).headD '0'

/-- A character inside a quoted string. -/
def escapeChar (c : Char) : String :=
  if c = '"' then "\\\""
  else if c = '\\' then "\\\\"
  else if c = '\n' then "\\n"
  else if c = '\r' then "\\r"
  else if c = '\t' then "\\t"
  else if c = '\x08' then "\\b"
  else if c = '\x0c' then "\\f"
  else if c.toNat < 0x20 then
    "\\u00" ++ String.ofList [hexDigit (c.toNat / 16), hexDigit c.toNat]
  else String.singleton c

/-- A string in quotes. -/
def quote (s : String) : String :=
  "\"" ++ s.toList.foldl (fun acc c => acc ++ escapeChar c) "" ++ "\""

namespace Value

mutual

/-- The written pieces of a value, in order. -/
def pieces : Value → List String
  | .null | .unreadable => ["null"]
  | .bool b => [if b then "true" else "false"]
  | .integer i => [toString i]
  | .double d => [d.text]
  | .string s => [quote s]
  | .array [] => ["[]"]
  | .array (v :: vs) => "[" :: (v.pieces ++ itemPieces vs)
  | .object [] => ["\x7b\x7d"]
  | .object ((k, v) :: ms) => "\x7b" :: quote k :: ":" :: (v.pieces ++ memberPieces ms)

def itemPieces : List Value → List String
  | [] => ["]"]
  | v :: vs => "," :: (v.pieces ++ itemPieces vs)

def memberPieces : List (String × Value) → List String
  | [] => ["\x7d"]
  | (k, v) :: ms => "," :: quote k :: ":" :: (v.pieces ++ memberPieces ms)

end

/-- The text of a value. -/
def text (v : Value) : String := String.join v.pieces

end Value

end RoomSync.Json
