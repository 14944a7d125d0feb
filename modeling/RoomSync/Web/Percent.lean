/-
  RoomSync.Web.Percent
  ────────────────────
  **PERCENT ENCODING.**

  Each part of a web address admits a set of ASCII characters; every other
  character is written as its UTF-8 bytes, each behind a percent sign.
-/
import RoomSync.Digits

namespace RoomSync.Web

/-- The byte as two upper-case hexadecimal digits behind a percent sign. -/
def percentByte (b : UInt8) : List Char :=
  let digit (n : Nat) : Char := (Nat.toDigits 16 n).headD '0' |>.toUpper
  ['%', digit (b.toNat / 16), digit (b.toNat % 16)]

/-- Whether a part that reserves these characters holds `c` as it is: never
a control character, nor one outside ASCII. -/
def isPlain (reserved : List Char) (c : Char) : Bool :=
  decide (0x20 ≤ c.toNat) && decide (c.toNat < 0x7F) && !reserved.contains c

def percentEncode (reserved : List Char) (cs : List Char) : List Char :=
  cs.flatMap fun c =>
    if isPlain reserved c then [c] else (String.utf8EncodeChar c).flatMap percentByte

/-! ## The reserved characters of each part. -/

def fragmentReserved : List Char := [' ', '\x22', '<', '>', '\x60']

def queryReserved : List Char := [' ', '\x22', '#', '<', '>', '\x27']

def pathReserved : List Char := fragmentReserved ++ ['#', '?', '\x7b', '\x7d']

/-- The reserved characters of a path segment that is given as such. -/
def segmentReserved : List Char := pathReserved ++ ['/', '%', '\\']

def userinfoReserved : List Char :=
  pathReserved ++ ['/', ':', ';', '=', '@', '[', '\\', ']', '^', '|']

/-! ## Decoding. -/

/-- The bytes of a text, where a percent sign and two digits stand for one. -/
def percentDecode : List Char → List UInt8
  | [] => []
  | '%' :: a :: b :: rest =>
      match Digits.value? a, Digits.value? b with
      | some x, some y => UInt8.ofNat (16 * x + y) :: percentDecode rest
      | _, _ => 0x25 :: percentDecode (a :: b :: rest)
  | c :: rest => String.utf8EncodeChar c ++ percentDecode rest

end RoomSync.Web
