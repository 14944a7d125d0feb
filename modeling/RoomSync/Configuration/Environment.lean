/-
  RoomSync.Configuration.Environment
  ──────────────────────────────────
  **SETTINGS FROM THE ENVIRONMENT.**

  A variable whose name begins with the prefix, in any case, sets the member
  that the rest of the name says; a point in it leads into a record.  The
  value of a variable is read as

      true  false  12  -3  1.5  "text"  'c'  [a, b]  {k = v}

  and where that does not fit as the text it is.
-/
import RoomSync.Configuration.Basic

namespace RoomSync.Configuration

open Json

/-- What a reader gives: what it read and what follows. -/
abbrev Read (α : Type) := Option (α × List Char)

/-! ## §1. Plain words. -/

def skipBlanks (cs : List Char) : List Char :=
  cs.dropWhile fun c => c == ' ' || c == '\t' || c == '\n' || c == '\x0c' || c == '\r'

/-- Without white space at both ends. -/
def trim (cs : List Char) : List Char := ((cs.dropWhile isBlank).reverse.dropWhile isBlank).reverse

/-- What parts values from each other. -/
def isMark (c : Char) : Bool := [',', '\x7b', '\x7d', '[', ']'].contains c

/-- A sign and what follows. -/
def splitSign : List Char → Bool × List Char
  | '-' :: cs => (true, cs)
  | '+' :: cs => (false, cs)
  | cs => (false, cs)

/-- An integer, exact up to 64 bits. -/
def integer? (word : List Char) : Option Int :=
  let (negative, ds) := splitSign word
  let n := Digits.decimal ds
  if ds.isEmpty || !ds.all Char.isDigit then none
  else if negative then (if n ≤ 0x8000000000000000 then some (-n) else none)
  else if n < 0x10000000000000000 then some n
  else none

/-- The exponent of a number, which ends it. -/
def exponent? : List Char → Option Int
  | [] => some 0
  | e :: cs =>
      let (negative, ds) := splitSign cs
      if (e == 'e' || e == 'E') && !ds.isEmpty && ds.all Char.isDigit then
        some (if negative then -Digits.decimal ds else Digits.decimal ds)
      else none

/-- A number with a point; there are infinite ones. -/
def float? (word : List Char) : Option Double :=
  let (negative, body) := splitSign word
  let whole := body.takeWhile Char.isDigit
  match body.dropWhile Char.isDigit with
  | '.' :: cs =>
      let fraction := cs.takeWhile Char.isDigit
      match exponent? (cs.dropWhile Char.isDigit) with
      | some e =>
          if whole.isEmpty && fraction.isEmpty then none
          else
            let digits := Digits.decimal (whole ++ fraction)
            some ((Double.ofDecimal? negative digits (e - fraction.length)).getD
              (.infinite negative))
      | none => none
  | _ => none

/-- The value of a word. -/
def wordValue (word : List Char) : Value :=
  match float? word with
  | some d => .double d
  | none =>
      match integer? word with
      | some i => .integer i
      | none => .string (String.ofList word)

/-! ## §2. Quoted strings. -/

/-- The characters up to the next quotation mark that no backslash escapes,
and what follows that mark. -/
def untilQuote : List Char → Read (List Char)
  | [] => none
  | '\x22' :: rest => some ([], rest)
  | '\\' :: c :: rest => (untilQuote rest).map fun (cs, rest) => ('\\' :: c :: cs, rest)
  | c :: rest => (untilQuote rest).map fun (cs, rest) => (c :: cs, rest)

/-- A character by the digits of its number, and what follows. -/
def numbered (length : Nat) (cs : List Char) : Read Char :=
  let ds := cs.take length
  match Digits.number? 16 ds with
  | some n =>
      if ds.length = length ∧ n.isValidChar then some (Char.ofNat n, cs.drop length) else none
  | none => none

/-- A text with its escapes resolved; at most `fuel` characters. -/
def unescape : Nat → List Char → Option (List Char)
  | 0, _ => none
  | _, [] => some []
  | fuel + 1, '\\' :: e :: rest =>
      let plain (c : Char) : Option (List Char) := (unescape fuel rest).map (c :: ·)
      let byNumber (length : Nat) : Option (List Char) :=
        match numbered length rest with
        | some (c, rest) => (unescape fuel rest).map (c :: ·)
        | none => none
      match e with
      | '\x22' => plain '\x22'
      | '\\' => plain '\\'
      | 'b' => plain '\x08'
      | 'f' => plain '\x0c'
      | 'n' => plain '\n'
      | 'r' => plain '\r'
      | 't' => plain '\t'
      | 'u' => byNumber 4
      | 'U' => byNumber 8
      | _ => none
  | fuel + 1, c :: rest =>
      if c == '\\' || (decide (c.toNat < 0x20) && c != '\t') || c.toNat == 0x7F then none
      else (unescape fuel rest).map (c :: ·)

/-- A string in quotation marks, behind the first of them. -/
def quoted (cs : List Char) : Read String :=
  match untilQuote cs with
  | none => none
  | some (inner, rest) =>
      (unescape (inner.length + 1) inner).map fun text => (String.ofList text, rest)

/-- A single character behind an apostrophe and before another one. -/
def oneCharacter : List Char → Read String
  | c :: '\x27' :: rest => some (String.singleton c, rest)
  | _ => none

/-! ## §3. Values. -/

def isKeyChar (c : Char) : Bool := c.isAlphanum || c == '_' || c == '-'

/-- The name of a member. -/
def memberName (cs : List Char) : Read String :=
  match cs with
  | '\x22' :: rest => quoted rest
  | _ =>
      let name := cs.takeWhile isKeyChar
      if name.isEmpty then none else some (String.ofList name, cs.dropWhile isKeyChar)

/-- What follows a word at the front of a text. -/
def strip? (word : String) (cs : List Char) : Option (List Char) :=
  if word.toList.isPrefixOf cs then some (cs.drop word.length) else none

mutual

/-- A value with the blanks around it, at most `fuel` steps deep and long. -/
def value : Nat → List Char → Read Value
  | 0, _ => none
  | fuel + 1, cs =>
      let read : Read Value :=
        match skipBlanks cs with
        | '\x7b' :: rest => (members fuel rest).map fun (ms, rest) => (.object ms, rest)
        | '[' :: rest => (items fuel rest).map fun (vs, rest) => (.array vs, rest)
        | '\x22' :: rest => (quoted rest).map fun (s, rest) => (.string s, rest)
        | '\x27' :: rest => (oneCharacter rest).map fun (s, rest) => (.string s, rest)
        | cs =>
            match strip? "true" cs, strip? "false" cs with
            | some rest, _ => some (.bool true, rest)
            | none, some rest => some (.bool false, rest)
            | none, none =>
                some (wordValue (trim (cs.takeWhile (!isMark ·))), cs.dropWhile (!isMark ·))
      read.map fun (v, rest) => (v, skipBlanks rest)

/-- The items of a list, up to its end. -/
def items : Nat → List Char → Read (List Value)
  | 0, _ => none
  | _, ']' :: rest => some ([], rest)
  | fuel + 1, cs =>
      match value fuel cs with
      | some (v, ',' :: rest) => (items fuel rest).map fun (vs, rest) => (v :: vs, rest)
      | some (v, ']' :: rest) => some ([v], rest)
      | _ => none

/-- The members of a record, up to its end. -/
def members : Nat → List Char → Read Members
  | 0, _ => none
  | _, '\x7d' :: rest => some ([], rest)
  | fuel + 1, cs =>
      match memberName (skipBlanks cs) with
      | none => none
      | some (name, rest) =>
          match skipBlanks rest with
          | '=' :: rest =>
              match value fuel rest with
              | some (v, ',' :: rest) =>
                  (members fuel rest).map fun (ms, rest) => ((name, v) :: ms, rest)
              | some (v, '\x7d' :: rest) => some ([(name, v)], rest)
              | _ => none
          | _ => none

end

/-- The value of a variable. -/
def variableValue (text : String) : Value :=
  match value (2 * text.length + 2) text.toList with
  | some (v, []) => v.canonical
  | _ => .string text

/-! ## §4. Variables. -/

/-- What the name of every variable begins with. -/
def variablePrefix : String := "MATRIXON_SYNC_"

/-- The path of the member that a variable sets.  White space around the
name and behind the prefix does not count; no part of a path is empty. -/
def memberOf? (name : String) : Option (List String) :=
  let name := (trim name.toList).map Char.toLower
  let start := variablePrefix.toLower.toList
  if start.isPrefixOf name then
    let path := (String.ofList (trim (name.drop start.length))).splitOn "."
    if path.contains "" then none else some path
  else none

/-- A value inside the records that a path names. -/
def nested (v : Value) (path : List String) : Value :=
  path.foldr (fun name v => .object [(name, v)]) v

mutual

/-- One value over another: of two records every member counts, and the
upper one where both have it; anything else is covered whole. -/
def cover : Value → Value → Value
  | .object below, .object above => .object (coverMembers below above)
  | _, above => above

/-- The members of the lower record, covered, and then the others. -/
def coverMembers : Members → Members → Members
  | [], above => above
  | (k, v) :: below, above =>
      match Entries.get? k above with
      | some w => (k, cover v w) :: coverMembers below (Entries.erase k above)
      | none => (k, v) :: coverMembers below above

end

/-- All that the variables set, later ones over earlier ones. -/
def ofVariables (environment : List (String × String)) : Value :=
  environment.foldl (fun all (name, text) =>
    match memberOf? name with
    | none => all
    | some path => cover all (nested (variableValue text) path)) (.object [])

end RoomSync.Configuration
