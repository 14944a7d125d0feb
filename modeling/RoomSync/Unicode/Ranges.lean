/-
  RoomSync.Unicode.Ranges
  ───────────────────────
  **PROPERTIES OF CHARACTERS, BY RANGES.**

  A property of characters is a table of rows in the order of code points.
  A row says where it begins and what holds from there up to the next row,
  so the value of a character is that of the last row at or before it.
-/
import RoomSync.Digits

namespace RoomSync.Unicode

/-- Rows in increasing order of the code points at which they begin. -/
structure Ranges (α : Type) where
  rows : Array (Nat × α)

namespace Ranges

/-! ## §1. Looking up. -/

/-- The last row at or before `n` among those from `low` up to `high`. -/
def search (rows : Array (Nat × α)) (n low high : Nat) : Option (Nat × α) :=
  if low < high then
    let middle := (low + high) / 2
    match rows[middle]? with
    | none => none
    | some row =>
        if row.1 ≤ n then (search rows n (middle + 1) high).orElse fun _ => some row
        else search rows n low middle
  else none
termination_by high - low
decreasing_by all_goals omega

/-- The row of a code point: where it begins, and its value. -/
def row? (t : Ranges α) (n : Nat) : Option (Nat × α) := search t.rows n 0 t.rows.size

/-- The value of a code point; those before the first row have none. -/
def get? (t : Ranges α) (n : Nat) : Option α := (t.row? n).map Prod.snd

/-- The value of the row that begins at this very code point. -/
def beginningAt? (t : Ranges α) (n : Nat) : Option α :=
  ((t.row? n).filter fun row => row.1 = n).map Prod.snd

/-! ## §2. Writing tables as texts. -/

/-- The parts of a text between separators. -/
def parts (isSeparator : Char → Bool) : List Char → List (List Char)
  | [] => [[]]
  | c :: cs =>
      match parts isSeparator cs with
      | [] => [[]]
      | p :: ps => if isSeparator c then [] :: p :: ps else (c :: p) :: ps

/-- A code point in hexadecimal digits. -/
def codePoint (cs : List Char) : Nat := (Digits.number? 16 cs).getD 0

/-- The table of a text.  Its rows are separated by blanks and line ends; a
row is a code point in hexadecimal digits, a colon, and its value. -/
def ofText (value : List Char → α) (text : String) : Ranges α :=
  let rows := (parts (fun c => c == ' ' || c == '\n') text.toList).filter (!·.isEmpty)
  { rows := (rows.map fun row =>
      (codePoint (row.takeWhile (· != ':')),
        value ((row.dropWhile (· != ':')).drop 1))).toArray }

end Ranges

end RoomSync.Unicode
