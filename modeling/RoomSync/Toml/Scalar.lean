/-
  RoomSync.Toml.Scalar
  ────────────────────
  **NUMBERS, TRUTH VALUES AND DATES OF A CONFIGURATION FILE.**

  A scalar that is no string is one unbroken word.  Numbers may be grouped
  by underscores between digits, and integers written in four bases.  A date
  stands for a record of one private member, which holds its normal form.
-/
import RoomSync.Json.Value
import RoomSync.Toml.Text

namespace RoomSync.Toml

open Json

/-! ## §1. Digits. -/

/-- Digits of a kind, in groups that single underscores part. -/
def grouped (isDigit : Char → Bool) : List Char → Option (List Char)
  | [] => none
  | [c] => if isDigit c then some [c] else none
  | c :: '_' :: cs => if isDigit c then (grouped isDigit cs).map (c :: ·) else none
  | c :: cs => if isDigit c then (grouped isDigit cs).map (c :: ·) else none

/-- The number written in these digits of a base up to sixteen. -/
def inBase (base : Nat) (cs : List Char) : Option Nat :=
  (grouped (fun c => (Digits.value? c).any (· < base)) cs).bind (Digits.number? base)

/-- Decimal digits without needless zeros. -/
def wholePart (cs : List Char) : Option (List Char) :=
  (grouped Char.isDigit cs).filter fun ds => ds.head? != some '0' || ds.length == 1

/-- A sign and what follows. -/
def splitSign : List Char → Bool × List Char
  | '-' :: cs => (true, cs)
  | '+' :: cs => (false, cs)
  | cs => (false, cs)

/-! ## §2. Numbers. -/

/-- An integer of 64 bits. -/
def integer? (word : List Char) : Option Value :=
  let signed : Option Int := match word with
    | '0' :: 'x' :: ds => (inBase 16 ds).map .ofNat
    | '0' :: 'o' :: ds => (inBase 8 ds).map .ofNat
    | '0' :: 'b' :: ds => (inBase 2 ds).map .ofNat
    | _ =>
        let (negative, ds) := splitSign word
        (wholePart ds).map fun ds => if negative then -Digits.decimal ds else Digits.decimal ds
  (signed.filter fun i =>
    decide (-0x8000000000000000 ≤ i) && decide (i < 0x8000000000000000)).map .integer

/-- The exponent of a number, which ends it. -/
def exponent? : List Char → Option Int
  | [] => some 0
  | e :: cs =>
      if e == 'e' || e == 'E' then
        let (negative, ds) := splitSign cs
        (grouped Char.isDigit ds).map fun ds =>
          if negative then -Digits.decimal ds else Digits.decimal ds
      else none

/-- Whether a character is part of a run of digits. -/
def isDigitOrGap (c : Char) : Bool := c.isDigit || c == '_'

/-- The nearest number to `± digits · 10^exponent`; one that is too great is
refused, and one that is too small is infinite. -/
def nearest? (negative : Bool) (digits : Nat) (exponent : Int) : Option Double :=
  (Double.ofDecimal? negative digits exponent).or
    (if negative then some (.infinite true) else none)

/-- A number with a fraction or an exponent, or one that has no digits. -/
def float? (word : List Char) : Option Double :=
  let (negative, body) := splitSign word
  if body = "inf".toList then some (.infinite negative)
  else if body = "nan".toList then some .undefined
  else
    let rest := body.dropWhile isDigitOrGap
    let fraction : Option (List Char × List Char) := match rest with
      | '.' :: cs =>
          (grouped Char.isDigit (cs.takeWhile isDigitOrGap)).map (·, cs.dropWhile isDigitOrGap)
      | _ => some ([], rest)
    match wholePart (body.takeWhile isDigitOrGap), fraction.filter fun _ => !rest.isEmpty with
    | some whole, some (fraction, tail) =>
        match exponent? tail with
        | some e =>
            nearest? negative (Digits.decimal (whole ++ fraction)) (e - fraction.length)
        | none => none
    | _, _ => none

/-! ## §3. Dates. -/

/-- A number of exactly so many digits, within bounds. -/
def field (length lo hi : Nat) (cs : List Char) : Read Nat :=
  let ds := cs.take length
  let n := Digits.decimal ds
  if ds.length = length ∧ ds.all Char.isDigit ∧ lo ≤ n ∧ n ≤ hi then some (n, cs.drop length)
  else none

def isLeap (year : Nat) : Bool := year % 4 == 0 && (year % 100 != 0 || year % 400 == 0)

def daysIn (year month : Nat) : Nat :=
  if month = 2 then (if isLeap year then 29 else 28)
  else if [4, 6, 9, 11].contains month then 30
  else 31

/-- A number in so many digits. -/
def padded (length n : Nat) : String :=
  let ds := toString n
  String.ofList (List.replicate (length - ds.length) '0') ++ ds

/-- What follows a given character. -/
def after (c : Char) : List Char → Option (List Char)
  | [] => none
  | d :: cs => if c = d then some cs else none

/-- Year, month and day. -/
def date (cs : List Char) : Option (String × List Char) := do
  let (year, cs) ← field 4 0 9999 cs
  let (month, cs) ← field 2 1 12 (← after '-' cs)
  let (day, cs) ← field 2 1 (daysIn year month) (← after '-' cs)
  return (padded 4 year ++ "-" ++ padded 2 month ++ "-" ++ padded 2 day, cs)

/-- The decimals of a second: nine count, and zeros at the end do not. -/
def decimals (cs : List Char) : Read String :=
  match cs with
  | '.' :: cs =>
      let ds := cs.takeWhile Char.isDigit
      let kept := ((ds.take 9).reverse.dropWhile (· == '0')).reverse
      if ds.isEmpty then none
      else
        some (if kept.isEmpty then "" else "." ++ String.ofList kept, cs.dropWhile Char.isDigit)
  | _ => some ("", cs)

/-- Hours, minutes, seconds and their decimals. -/
def time (cs : List Char) : Option (String × List Char) := do
  let (hour, cs) ← field 2 0 23 cs
  let (minute, cs) ← field 2 0 59 (← after ':' cs)
  let (second, cs) ← field 2 0 60 (← after ':' cs)
  let (parts, cs) ← decimals cs
  return (padded 2 hour ++ ":" ++ padded 2 minute ++ ":" ++ padded 2 second ++ parts, cs)

/-- The distance from universal time. -/
def offset (cs : List Char) : Option (String × List Char) :=
  match cs with
  | [] => some ("", [])
  | c :: cs =>
      if c == 'Z' || c == 'z' then some ("Z", cs)
      else if c == '+' || c == '-' then do
        let (hour, cs) ← field 2 0 23 cs
        let (minute, cs) ← field 2 0 59 (← after ':' cs)
        let sign := if c == '-' && (hour, minute) != (0, 0) then "-" else "+"
        return (sign ++ padded 2 hour ++ ":" ++ padded 2 minute, cs)
      else none

/-- The normal form of a whole date, time, or date with time. -/
def dateText? (word : List Char) : Option String :=
  match date word with
  | none =>
      match time word with
      | some (t, []) => some t
      | _ => none
  | some (d, []) => some d
  | some (d, c :: rest) =>
      if c == 'T' || c == 't' || c == ' ' then
        match time rest with
        | none => none
        | some (t, rest) =>
            match offset rest with
            | some (o, []) => some (d ++ "T" ++ t ++ o)
            | _ => none
      else none

/-- The name under which a date stands. -/
def dateMember : String := "$__toml_private_datetime"

def date? (word : List Char) : Option Value :=
  (dateText? word).map fun text => .object [(dateMember, .string text)]

/-! ## §4. Words. -/

def isWordChar (c : Char) : Bool :=
  c.isAlphanum || c == '_' || c == '+' || c == '-' || c == '.' || c == ':'

/-- A word; a date may go on behind one blank. -/
def word (cs : List Char) : List Char × List Char :=
  let first := cs.takeWhile isWordChar
  match cs.dropWhile isWordChar with
  | ' ' :: rest =>
      if (date first).any (·.2.isEmpty) && rest.head?.any Char.isDigit then
        (first ++ ' ' :: rest.takeWhile isWordChar, rest.dropWhile isWordChar)
      else (first, ' ' :: rest)
  | rest => (first, rest)

/-- The value of a word. -/
def wordValue? (word : List Char) : Option Value :=
  if word = "true".toList then some (.bool true)
  else if word = "false".toList then some (.bool false)
  else (date? word).or ((integer? word).or ((float? word).map .double))

/-- A scalar that is no string. -/
def scalar (cs : List Char) : Read Value :=
  let (w, rest) := word cs
  (wordValue? w).map (·, rest)

end RoomSync.Toml
