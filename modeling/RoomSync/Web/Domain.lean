/-
  RoomSync.Web.Domain
  ───────────────────
  **DOMAIN NAMES.**

  A domain name is compared and written in ASCII and in lower case.  Its
  characters count by their forms, composed (§1); a label that still holds
  one outside ASCII is written in its ASCII form behind `xn--` (§4).  Three
  rules keep names from looking like others: on the characters of a label
  and its joiners (§2), and on the direction in which it is written (§3).
-/
import RoomSync.Unicode.Composition
import RoomSync.Unicode.Direction
import RoomSync.Unicode.Joining
import RoomSync.Unicode.NameForm
import RoomSync.Web.Percent
import RoomSync.Web.Punycode

namespace RoomSync.Web

open Unicode

/-! ## §1. The form of a name. -/

/-- The form in which a name is compared. -/
def comparedName? (cs : List Char) : Option (List Char) := (nameForms? cs).map composed

/-- The labels between points. -/
def labels : List Char → List (List Char)
  | [] => [[]]
  | '.' :: cs => [] :: labels cs
  | c :: cs =>
      match labels cs with
      | [] => [[c]]
      | l :: ls => (c :: l) :: ls

/-! ## §2. What a label may hold. -/

def isAscii (c : Char) : Bool := decide (c.toNat < 0x80)

/-- The ASCII characters that no name holds. -/
def isForbidden (c : Char) : Bool :=
  decide (c.toNat ≤ 0x20) || c.toNat == 0x7F
    || ['#', '%', '/', ':', '<', '>', '?', '@', '[', '\\', ']', '^', '|'].contains c

/-- Without width, it keeps its neighbours from joining. -/
def nonJoiner : Char := Char.ofNat 0x200C

/-- Without width, it makes its neighbours join. -/
def joiner : Char := Char.ofNat 0x200D

/-- The joining of the nearest character that is not transparent. -/
def nearestJoining (cs : List Char) : Joining :=
  ((cs.map joining).find? (· != .transparent)).getD .alone

/-- Whether `c` has its place between the characters before it, the nearest
first, and those after it.  A joiner stands behind a virama, and so does a
non-joiner unless it parts two letters that would join. -/
def isPlaced (c : Char) (before after : List Char) : Bool :=
  let followsVirama := before.head?.any fun b => markClass b = viramaClass
  if c = joiner then followsVirama
  else if c = nonJoiner then
    followsVirama || ((nearestJoining before).joinsAfter && (nearestJoining after).joinsBefore)
  else true

/-- Whether each character has its place behind those before it. -/
def arePlaced (before : List Char) : List Char → Bool
  | [] => true
  | c :: cs => isPlaced c before cs && arePlaced (c :: before) cs

/-- No longer label holds characters outside ASCII. -/
def longestLabel : Nat := 1000

/-- Whether characters in their compared form make a label. -/
def isLabel (cs : List Char) : Bool :=
  !cs.any isForbidden && !cs.head?.any isMark && arePlaced [] cs
    && (cs.all isAscii || decide (cs.length ≤ longestLabel))

/-! ## §3. The direction of a label. -/

/-- Whether a name with this character in it is mixed of both directions. -/
def isFromRight (c : Char) : Bool :=
  direction c == .rightToLeft || direction c == .arabicNumber

/-- What may stand in a label that is written from left to right. -/
def fitsLeftToRight (d : Direction) : Bool :=
  d == .leftToRight || d == .europeanNumber || d == .neutral || d == .mark

/-- What may stand in a label that is written from right to left. -/
def fitsRightToLeft (d : Direction) : Bool :=
  d == .rightToLeft || d == .arabicNumber || d == .europeanNumber || d == .neutral || d == .mark

/-- Whether a label keeps to one direction: that of the letter it begins
with, up to the letter or digit at its end. -/
def keepsDirection (label : List Char) : Bool :=
  let ds := label.map direction
  match ds, ds.reverse.find? (· != .mark) with
  | [], _ => true
  | .leftToRight :: _, some last =>
      ds.all fitsLeftToRight && (last == .leftToRight || last == .europeanNumber)
  | .rightToLeft :: _, some last =>
      ds.all fitsRightToLeft
        && (last == .rightToLeft || last == .europeanNumber || last == .arabicNumber)
        && !(ds.contains .europeanNumber && ds.contains .arabicNumber)
  | _, _ => false

/-! ## §4. Labels in ASCII. -/

/-- No longer ASCII form is read, counted behind its mark. -/
def longestEncoded : Nat := 2000

/-- The label that an ASCII form, without its mark, stands for: it has to be
in its compared form. -/
def encodedLabel? (cs : List Char) : Option (List Char) :=
  if cs.getLast? = some '-' ∨ longestEncoded < cs.length then none
  else (Punycode.decode cs).filter fun label => comparedName? label = some label

/-- A label in both its forms. -/
structure Label where
  unicode : List Char
  ascii : List Char

/-- The label of characters in their compared form. -/
def Label.ofForm? (cs : List Char) : Option Label :=
  match cs with
  | 'x' :: 'n' :: '-' :: '-' :: encoded =>
      if encoded.isEmpty then none
      else
        (encodedLabel? encoded).bind fun label =>
          if isLabel label then some ⟨label, cs⟩ else none
  | _ =>
      if !isLabel cs then none
      else if cs.all isAscii then some ⟨cs, cs⟩
      else some ⟨cs, ['x', 'n', '-', '-'] ++ Punycode.encode cs⟩

/-! ## §5. Names. -/

/-- A written name in ASCII and lower case; percent signs stand for bytes. -/
def domainToAscii? (cs : List Char) : Option (List Char) := do
  let text ← String.fromUTF8? ⟨(percentDecode cs).toArray⟩
  let ls ← (labels (← comparedName? text.toList)).mapM Label.ofForm?
  if (ls.any fun l => l.unicode.any isFromRight) && !ls.all fun l => keepsDirection l.unicode then
    none
  else some (List.intercalate ['.'] (ls.map (·.ascii)))

end RoomSync.Web
