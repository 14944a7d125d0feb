/-
  RoomSync.Json.Reader
  ────────────────────
  **READING A TEXT.**

  Two machines, each driven one symbol at a time, so that reading is a fold
  over the text and ends with it.  The first (`Lexer`) turns characters
  into tokens; the second (`Builder`) puts tokens together on a stack of
  open lists and records.

      text  ──characters──▶  Lexer  ──tokens──▶  Builder  ──▶  value

  A text is accepted when the builder holds one finished value at its end,
  so anything but blanks after the value is refused.  What is well formed
  but no value is read, too, as such: a number beyond all others, a string
  with half a surrogate pair, a record with such a name, and whatever is
  nested too deeply.
-/
import RoomSync.Digits
import RoomSync.Json.Value

namespace RoomSync.Json

/-! ## §1. Numbers. -/

/-- Largest and least integer that is kept exact. -/
def maxExact : Int := 0xFFFFFFFFFFFFFFFF

def minExact : Int := -0x8000000000000000

/-- The number `± digits · 10^exponent`, unreadable where there is none. -/
def doubleLiteral (negative : Bool) (digits : Nat) (exponent : Int) : Value :=
  ((Double.ofDecimal? negative digits exponent).map .double).getD .unreadable

/-- An integer literal: exact where 64 bits hold it, else the nearest
binary64 number; a negative zero is no integer. -/
def integerLiteral (negative : Bool) (digits : List Char) : Option Value :=
  let n := Digits.decimal digits
  let i : Int := if negative then -n else n
  if (negative && n == 0) || i < minExact || maxExact < i then
    some (doubleLiteral negative n 0)
  else some (.integer i)

/-- Digits after the point, with what follows them. -/
def fractionPart : List Char → Option (List Char × List Char)
  | '.' :: cs =>
      let ds := cs.takeWhile Char.isDigit
      if ds.isEmpty then none else some (ds, cs.dropWhile Char.isDigit)
  | cs => some ([], cs)

/-- The exponent, which must end the literal. -/
def exponentPart : List Char → Option Int
  | [] => some 0
  | e :: cs =>
      if e = 'e' ∨ e = 'E' then
        let (negative, ds) : Bool × List Char :=
          match cs with
          | '-' :: ds => (true, ds)
          | '+' :: ds => (false, ds)
          | ds => (false, ds)
        if ds.isEmpty || !ds.all Char.isDigit then none
        else some (if negative then -(Digits.decimal ds) else Digits.decimal ds)
      else none

/-- A number literal: sign, integer part without needless zeros, then
possibly a fraction and an exponent. -/
def numberLiteral (cs : List Char) : Option Value :=
  let (negative, body) : Bool × List Char :=
    match cs with
    | '-' :: body => (true, body)
    | body => (false, body)
  let whole := body.takeWhile Char.isDigit
  let rest := body.dropWhile Char.isDigit
  if whole.isEmpty || (whole.head? == some '0' && whole.length != 1) then none
  else if rest.isEmpty then integerLiteral negative whole
  else
    match fractionPart rest with
    | none => none
    | some (fraction, rest) =>
        match exponentPart rest with
        | none => none
        | some e =>
            let digits := Digits.decimal (whole ++ fraction)
            some (doubleLiteral negative digits (e - fraction.length))

/-- The three words of the format. -/
def wordLiteral (cs : List Char) : Option Value :=
  if cs = "null".toList then some .null
  else if cs = "true".toList then some (.bool true)
  else if cs = "false".toList then some (.bool false)
  else none

/-! ## §2. Characters to tokens. -/

inductive Token where
  | scalar (v : Value)
  /-- A string with half a surrogate pair. -/
  | brokenString
  | openArray
  | closeArray
  | openObject
  | closeObject
  | comma
  | colon

/-- Where a string stands between its quotes. -/
inductive StringPhase where
  | plain
  /-- After a backslash. -/
  | escape
  /-- Within a `\u` escape: digits read, their value, and the leading
  surrogate before it. -/
  | hex (count value : Nat) (leading : Option Nat)
  /-- After a leading surrogate, where `\` must come. -/
  | trailSlash (leading : Nat)
  /-- After a leading surrogate and `\`, where `u` must come. -/
  | trailLetter (leading : Nat)

/-- A string up to some place: its characters, last first, whether half a
surrogate pair was among them, and the place. -/
structure Spelling where
  seen : List Char := []
  isBroken : Bool := false
  phase : StringPhase := .plain

/-- What the lexer is in the middle of; characters are kept last first. -/
inductive Lexer where
  | blank
  | word (seen : List Char)
  | number (seen : List Char)
  | string (spelling : Spelling)

/-- The character of a one-letter escape. -/
def escapeLetter? (c : Char) : Option Char :=
  if c = '"' ∨ c = '\\' ∨ c = '/' then some c
  else if c = 'b' then some '\x08'
  else if c = 'f' then some '\x0c'
  else if c = 'n' then some '\n'
  else if c = 'r' then some '\r'
  else if c = 't' then some '\t'
  else none

namespace Spelling

def add (s : Spelling) (c : Char) : Spelling := { s with seen := c :: s.seen, phase := .plain }

/-- Half a surrogate pair, where the other half does not follow. -/
def addHalf (s : Spelling) : Spelling := { s with isBroken := true, phase := .plain }

/-- After a finished `\u` escape: a leading surrogate waits for its trailing
one, and neither stands alone. -/
def finishHex (s : Spelling) (value : Nat) (leading : Option Nat) : Spelling :=
  let isTrailing := 0xDC00 ≤ value ∧ value < 0xE000
  match leading with
  | some high =>
      if isTrailing then s.add (Char.ofNat (0x10000 + (high - 0xD800) * 0x400 + (value - 0xDC00)))
      else s.addHalf
  | none =>
      if isTrailing then s.addHalf
      else if 0xD800 ≤ value ∧ value < 0xDC00 then { s with phase := .trailSlash value }
      else s.add (Char.ofNat value)

/-- One character that belongs to no escape. -/
def plainStep (s : Spelling) (c : Char) : Option Spelling :=
  if c = '\\' then some { s with phase := .escape }
  else if c.toNat < 0x20 then none
  else some (s.add c)

/-- One character after a backslash. -/
def escapeStep (s : Spelling) (c : Char) : Option Spelling :=
  if c = 'u' then some { s with phase := .hex 0 0 none } else (escapeLetter? c).map s.add

/-- One character inside the string. -/
def step (s : Spelling) (c : Char) : Option Spelling :=
  match s.phase with
  | .plain => s.plainStep c
  | .escape => s.escapeStep c
  | .hex count value leading =>
      (Digits.value? c).map fun h =>
        if count = 3 then s.finishHex (16 * value + h) leading
        else { s with phase := .hex (count + 1) (16 * value + h) leading }
  | .trailSlash high =>
      if c = '\\' then some { s with phase := .trailLetter high } else s.addHalf.plainStep c
  | .trailLetter high =>
      if c = 'u' then some { s with phase := .hex 0 0 (some high) } else s.addHalf.escapeStep c

/-- The string that a quote here would end, if it would. -/
def token? (s : Spelling) : Option Token :=
  match s.phase with
  | .plain =>
      some (if s.isBroken then .brokenString
        else .scalar (.string (String.ofList s.seen.reverse)))
  | .trailSlash _ => some .brokenString
  | _ => none

end Spelling

def isBlank (c : Char) : Bool := c = ' ' || c = '\n' || c = '\t' || c = '\r'

def isNumberChar (c : Char) : Bool :=
  c.isDigit || c = '-' || c = '+' || c = '.' || c = 'e' || c = 'E'

namespace Lexer

/-- A character between tokens. -/
def start (c : Char) : Option (Lexer × List Token) :=
  if isBlank c then some (.blank, [])
  else if c = '[' then some (.blank, [.openArray])
  else if c = ']' then some (.blank, [.closeArray])
  else if c = '\x7b' then some (.blank, [.openObject])
  else if c = '\x7d' then some (.blank, [.closeObject])
  else if c = ',' then some (.blank, [.comma])
  else if c = ':' then some (.blank, [.colon])
  else if c = '"' then some (.string {}, [])
  else if c = '-' || c.isDigit then some (.number [c], [])
  else if c.isAlpha then some (.word [c], [])
  else none

/-- The token that stands open, if any. -/
def finish : Lexer → Option (List Token)
  | .blank => some []
  | .word seen => (wordLiteral seen.reverse).map fun v => [.scalar v]
  | .number seen => (numberLiteral seen.reverse).map fun v => [.scalar v]
  | .string _ => none

/-- Close the open token and look at `c` afresh. -/
def restart (l : Lexer) (c : Char) : Option (Lexer × List Token) :=
  match l.finish, start c with
  | some done, some (l', more) => some (l', done ++ more)
  | _, _ => none

/-- One character. -/
def step (c : Char) : Lexer → Option (Lexer × List Token)
  | .blank => start c
  | .word seen => if c.isAlpha then some (.word (c :: seen), []) else (word seen).restart c
  | .number seen =>
      if isNumberChar c then some (.number (c :: seen), []) else (number seen).restart c
  | .string s =>
      if c = '"' then
        match s.token? with
        | some t => some (.blank, [t])
        | none => (s.step c).map fun s => (.string s, [])
      else (s.step c).map fun s => (.string s, [])

end Lexer

/-! ## §3. Tokens to values. -/

/-- The members of an open record, last first; of a broken name nothing is
left. -/
abbrev Named := List (Option String × Value)

/-- The record of these members, unreadable if a name is broken. -/
def Named.record (seen : Named) : Value :=
  match seen.reverse.mapM fun m => m.1.map (·, m.2) with
  | some ms => .object ms
  | none => .unreadable

/-- An open list, or an open record with the name whose value is awaited;
contents are kept last first. -/
inductive Frame where
  | items (seen : List Value)
  | members (seen : Named) (name : Option String)

/-- What may come next. -/
inductive Expect where
  | value
  /-- After `[`. -/
  | valueOrClose
  | name (seen : Named)
  /-- After an opening brace. -/
  | nameOrClose
  | colon (seen : Named) (name : Option String)
  /-- After a value inside a list or record. -/
  | separator
  | done (v : Value)

/-- Lists and records are read down to this depth. -/
def maxNesting : Nat := 127

/-- Open lists and records, innermost first, and what may come next. -/
structure Builder where
  stack : List Frame := []
  expect : Expect := .value
  /-- How many lists and records are open. -/
  depth : Nat := 0

namespace Builder

/-- Hand a finished value to the innermost open list or record. -/
def supply (stack : List Frame) (depth : Nat) (v : Value) : Builder :=
  match stack with
  | [] => ⟨[], .done v, depth⟩
  | .items seen :: rest => ⟨.items (v :: seen) :: rest, .separator, depth⟩
  | .members seen k :: rest => ⟨.members ((k, v) :: seen) none :: rest, .separator, depth⟩

/-- Hand over a list or record of this depth, which ends here. -/
def close (stack : List Frame) (depth : Nat) (v : Value) : Builder :=
  supply stack (depth - 1) (if depth ≤ maxNesting then v else .unreadable)

/-- A token where a value must come. -/
def beginValue (stack : List Frame) (depth : Nat) : Token → Option Builder
  | .scalar v => some (supply stack depth v)
  | .brokenString => some (supply stack depth .unreadable)
  | .openArray => some ⟨.items [] :: stack, .valueOrClose, depth + 1⟩
  | .openObject => some ⟨stack, .nameOrClose, depth + 1⟩
  | _ => none

/-- A token where a member's name must come. -/
def beginName (stack : List Frame) (depth : Nat) (seen : Named) : Token → Option Builder
  | .scalar (.string k) => some ⟨stack, .colon seen (some k), depth⟩
  | .brokenString => some ⟨stack, .colon seen none, depth⟩
  | _ => none

/-- One token. -/
def step (b : Builder) (t : Token) : Option Builder :=
  match b.expect, t, b.stack with
  | .value, t, stack => beginValue stack b.depth t
  | .valueOrClose, .closeArray, .items seen :: rest =>
      some (close rest b.depth (.array seen.reverse))
  | .valueOrClose, t, stack => beginValue stack b.depth t
  | .name seen, t, stack => beginName stack b.depth seen t
  | .nameOrClose, .closeObject, stack => some (close stack b.depth .emptyObject)
  | .nameOrClose, t, stack => beginName stack b.depth [] t
  | .colon seen k, .colon, stack => some ⟨.members seen k :: stack, .value, b.depth⟩
  | .separator, .comma, .items seen :: rest => some ⟨.items seen :: rest, .value, b.depth⟩
  | .separator, .comma, .members seen _ :: rest => some ⟨rest, .name seen, b.depth⟩
  | .separator, .closeArray, .items seen :: rest =>
      some (close rest b.depth (.array seen.reverse))
  | .separator, .closeObject, .members seen _ :: rest => some (close rest b.depth seen.record)
  | _, _, _ => none

end Builder

/-! ## §4. Texts. -/

/-- One character through both machines. -/
def readStep (state : Lexer × Builder) (c : Char) : Option (Lexer × Builder) :=
  match state.1.step c with
  | none => none
  | some (l, tokens) => (tokens.foldlM Builder.step state.2).map (l, ·)

/-- What a text holds, members as they stand in the text. -/
def read? (text : String) : Option Value :=
  match text.toList.foldlM readStep (.blank, {}) with
  | none => none
  | some (l, b) =>
      match l.finish with
      | none => none
      | some tokens =>
          match tokens.foldlM Builder.step b with
          | some ⟨_, .done v, _⟩ => some v
          | _ => none

end RoomSync.Json
