/-
  RoomSync.Toml.Text
  ──────────────────
  **BLANKS, STRINGS AND KEYS OF A CONFIGURATION FILE.**

  Every reader takes the rest of the file and gives what it read with what
  follows, or nothing where the file is malformed.

      "…"    — with escapes        '…'    — as it stands
      """…"""  and  '''…'''        — the same over several lines
-/
import RoomSync.Digits

namespace RoomSync.Toml

/-- What a reader gives: what it read and what follows. -/
abbrev Read (α : Type) := Option (α × List Char)

/-! ## §1. Blanks and comments. -/

def isBlank (c : Char) : Bool := c == ' ' || c == '\t'

/-- The characters that stand nowhere but where a rule names them. -/
def isControl (c : Char) : Bool := (decide (c.toNat < 0x20) && c != '\t') || c.toNat == 0x7F

def skipBlanks (cs : List Char) : List Char := cs.dropWhile isBlank

/-- What follows blanks, line ends and comments. -/
def skipLines (inComment : Bool) : List Char → Option (List Char)
  | [] => some []
  | '\n' :: cs => skipLines false cs
  | '\r' :: '\n' :: cs => skipLines false cs
  | c :: cs =>
      if isControl c then none
      else if inComment || c == '#' then skipLines true cs
      else if isBlank c then skipLines false cs
      else some (c :: cs)

/-- What follows the end of a line, which only a comment may delay. -/
def endLine (cs : List Char) : Option (List Char) :=
  match skipBlanks cs with
  | [] => some []
  | c :: cs => if c == '\n' || c == '\r' || c == '#' then skipLines false (c :: cs) else none

/-! ## §2. Strings. -/

/-- A character by the digits of its number. -/
def escapedNumber (length : Nat) (cs : List Char) : Read Char :=
  let ds := cs.take length
  if ds.length = length then
    match Digits.number? 16 ds with
    | some n => if n.isValidChar then some (Char.ofNat n, cs.drop length) else none
    | none => none
  else none

/-- A character behind a backslash. -/
def escaped (c : Char) (cs : List Char) : Read Char :=
  match c with
  | 'b' => some ('\x08', cs)
  | 't' => some ('\t', cs)
  | 'n' => some ('\n', cs)
  | 'f' => some ('\x0c', cs)
  | 'r' => some ('\r', cs)
  | '\x22' => some ('\x22', cs)
  | '\\' => some ('\\', cs)
  | 'u' => escapedNumber 4 cs
  | 'U' => escapedNumber 8 cs
  | _ => none

/-- What follows blanks and line ends. -/
def skipBlankLines : List Char → List Char
  | '\n' :: cs => skipBlankLines cs
  | '\r' :: '\n' :: cs => skipBlankLines cs
  | c :: cs => if isBlank c then skipBlankLines cs else c :: cs
  | [] => []

/-- What follows a backslash at the end of a line, if this is one: the next
character that is neither a blank nor part of a line end. -/
def skipFold (cs : List Char) : Option (List Char) :=
  match skipBlanks cs with
  | '\n' :: rest => some (skipBlankLines rest)
  | '\r' :: '\n' :: rest => some (skipBlankLines rest)
  | _ => none

/-- How a string is written. -/
structure Quoting where
  mark : Char
  escapes : Bool
  /-- Between three marks, over several lines. -/
  long : Bool

/-- What follows the marks that end a string, with the marks that still
belong to it: the last three of up to five end a long string. -/
def Quoting.close? (q : Quoting) (cs : List Char) : Read (List Char) :=
  let marks := (cs.takeWhile (· == q.mark)).length
  if q.long then
    if 3 ≤ marks then
      let kept := min marks 5 - 3
      some (List.replicate kept q.mark, cs.drop (kept + 3))
    else none
  else if 1 ≤ marks then some ([], cs.drop 1)
  else none

/-- The rest of a string, character by character. -/
def stringTail (q : Quoting) : Nat → List Char → List Char → Read String
  | 0, _, _ => none
  | fuel + 1, seen, cs =>
      match q.close? cs with
      | some (kept, rest) => some (String.ofList (seen.reverse ++ kept), rest)
      | none =>
          match cs with
          | [] => none
          | '\n' :: rest => if q.long then stringTail q fuel ('\n' :: seen) rest else none
          | '\r' :: '\n' :: rest => if q.long then stringTail q fuel ('\n' :: seen) rest else none
          | c :: rest =>
              if isControl c then none
              else if q.escapes && c == '\\' then
                match if q.long then skipFold rest else none with
                | some folded => stringTail q fuel seen folded
                | none =>
                    match rest with
                    | [] => none
                    | e :: rest =>
                        match escaped e rest with
                        | some (c, rest) => stringTail q fuel (c :: seen) rest
                        | none => none
              else stringTail q fuel (c :: seen) rest

/-- A line end right behind the opening marks of a long string. -/
def dropLineEnd : List Char → List Char
  | '\n' :: cs | '\r' :: '\n' :: cs => cs
  | cs => cs

/-- The string that a quotation mark begins. -/
def string (longAllowed : Bool) (cs : List Char) : Read String :=
  match cs with
  | [] => none
  | mark :: rest =>
      if mark == '\x22' || mark == '\x27' then
        let escapes := mark == '\x22'
        if longAllowed && rest.take 2 == [mark, mark] then
          stringTail ⟨mark, escapes, true⟩ (cs.length + 1) [] (dropLineEnd (rest.drop 2))
        else stringTail ⟨mark, escapes, false⟩ (cs.length + 1) [] rest
      else none

/-! ## §3. Keys. -/

def isKeyChar (c : Char) : Bool := c.isAlphanum || c == '_' || c == '-'

/-- One part of a key. -/
def keyPart (cs : List Char) : Read String :=
  let bare := cs.takeWhile isKeyChar
  if bare.isEmpty then string false cs
  else some (String.ofList bare, cs.dropWhile isKeyChar)

/-- A key: parts between points, at most `fuel` of them. -/
def keyParts : Nat → List Char → Read (List String)
  | 0, _ => none
  | fuel + 1, cs =>
      match keyPart cs with
      | none => none
      | some (part, rest) =>
          match skipBlanks rest with
          | '.' :: rest =>
              (keyParts fuel (skipBlanks rest)).map fun (ps, rest) => (part :: ps, rest)
          | rest => some ([part], rest)

/-- The most parts of a key, and the greatest depth of a value. -/
def maxNesting : Nat := 79

def key (cs : List Char) : Read (List String) :=
  (keyParts (cs.length + 1) cs).filter fun (parts, _) => parts.length ≤ maxNesting

end RoomSync.Toml
