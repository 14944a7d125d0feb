/-
  RoomSync.Json.Double
  ────────────────────
  **NUMBERS THAT ARE NOT INTEGERS.**

  A JSON number with a point or an exponent, or an integer beyond 64 bits,
  is a binary64 value.  Only its bit pattern is kept: two numbers are the
  same value exactly when their bits agree, so `10.0` and `10` stay apart.

  The written form is the shortest decimal that reads back.  A finite value
  is `m · 2^q`; the reals that round to it form an interval around it, and
  of each decimal grid only the value's two neighbours can be the nearest
  point inside.  All of this is exact arithmetic on naturals.
-/

namespace RoomSync.Json

/-- A binary64 number by its bit pattern. -/
structure Double where
  bits : UInt64
  deriving DecidableEq, Inhabited

namespace Double

/-! ## §1. The parts of a bit pattern. -/

/-- The sign bit. -/
def isNegative (d : Double) : Bool := d.bits >>> 63 == 1

/-- The eleven exponent bits. -/
def exponentField (d : Double) : Nat := ((d.bits >>> 52) &&& 0x7FF).toNat

/-- The fifty-two bits after the point. -/
def fractionField (d : Double) : Nat := (d.bits &&& 0xFFFFFFFFFFFFF).toNat

/-- Neither infinite nor undefined. -/
def isFinite (d : Double) : Bool := d.exponentField != 0x7FF

/-- The natural `m` of `m · 2^(e - 1075)`. -/
def mantissa (d : Double) : Nat :=
  if d.exponentField = 0 then d.fractionField else d.fractionField + 0x10000000000000

/-- The natural `e` of `m · 2^(e - 1075)`. -/
def scale (d : Double) : Nat := max d.exponentField 1

/-- Beyond all numbers, on either side. -/
def infinite (negative : Bool) : Double :=
  ⟨if negative then 0xFFF0000000000000 else 0x7FF0000000000000⟩

/-- The result of an operation that has none. -/
def undefined : Double := ⟨0x7FF8000000000000⟩

/-! ## §2. From decimal digits. -/

/-- The number of decimal digits of a natural. -/
def digitCount (n : Nat) : Nat := (Nat.toDigits 10 n).length

/-- The binary64 number nearest to `± digits · 10^exponent`; `none` where
that is out of range. -/
def ofDecimal? (negative : Bool) (digits : Nat) (exponent : Int) : Option Double :=
  let top := exponent + digitCount digits
  let magnitude? : Option Float :=
    if digits = 0 ∨ top < -400 then some 0
    else if 400 < top then none
    else
      match exponent with
      | .ofNat e => some (Float.ofScientific digits false e)
      | .negSucc e => some (Float.ofScientific digits true (e + 1))
  (magnitude?.map fun m => ⟨(if negative then -m else m).toBits⟩).filter isFinite

/-! ## §3. The shortest decimal. -/

/-- Twice the value as a fraction, with the half gaps to its neighbours:
`(value, gap below, gap above, denominator)`, all over one denominator. -/
def interval (d : Double) : Nat × Nat × Nat × Nat :=
  let m := d.mantissa
  let up := Nat.pow 2 (d.scale - 1075)
  let down := Nat.pow 2 (1075 - d.scale)
  let below := if d.fractionField = 0 ∧ 1 < d.exponentField then 1 else 2
  (4 * m * up, below * up, 2 * up, 4 * down)

/-- The least `j ≤ fuel` with `num · 10^j ≥ den`. -/
def leadingZeros (num den : Nat) : Nat → Nat
  | 0 => 0
  | fuel + 1 => if den ≤ num then 0 else 1 + leadingZeros (num * 10) den fuel

/-- The power of ten of the first significant digit of `num / den`. -/
def magnitude (num den : Nat) : Int :=
  if den ≤ num then (digitCount (num / den) : Int) - 1
  else -(leadingZeros num den 400 : Int)

/-- The `n`-digit decimal `(digits, exponent)` that reads back, if one of
the two grid neighbours does; the nearer of two, the even one on a tie. -/
def shortestOf (d : Double) (n : Nat) : Option (Nat × Int) :=
  let (v, lo, hi, den) := d.interval
  let p : Int := magnitude v den - (n - 1 : Nat)
  let num := v * Nat.pow 10 (-p).toNat
  let unit := den * Nat.pow 10 p.toNat
  let gapLo := lo * Nat.pow 10 (-p).toNat
  let gapHi := hi * Nat.pow 10 (-p).toNat
  let q := num / unit
  let r := num % unit
  let closed := d.mantissa % 2 = 0
  let lowFits := r < gapLo ∨ (closed ∧ r = gapLo)
  let highFits := unit - r < gapHi ∨ (closed ∧ unit - r = gapHi)
  if lowFits ∧ (¬ highFits ∨ 2 * r < unit ∨ (2 * r = unit ∧ q % 2 = 0)) then some (q, p)
  else if highFits then some (q + 1, p)
  else none

/-- The first of the grids with `n, n + 1, …` digits that has a point which
reads back. -/
def shortestFrom (d : Double) (n : Nat) : Nat → Nat × Int
  | 0 => (0, 0)
  | fuel + 1 => (d.shortestOf n).getD (d.shortestFrom (n + 1) fuel)

/-- Drop the zeros at the end of the digits. -/
def trimZeros (digits : Nat) (exponent : Int) : Nat → Nat × Int
  | 0 => (digits, exponent)
  | fuel + 1 =>
      if digits ≠ 0 ∧ digits % 10 = 0 then trimZeros (digits / 10) (exponent + 1) fuel
      else (digits, exponent)

/-! ## §4. The written form. -/

/-- Digits with the point after the first `point` of them: positional while
the point is at most sixteen places to the right and five to the left of
the first digit, with an exponent otherwise. -/
def layout (digits : String) (point : Int) : String :=
  let n : Int := digits.length
  let zeros (k : Int) : String := String.ofList (List.replicate k.toNat '0')
  if n ≤ point ∧ point ≤ 16 then digits ++ zeros (point - n) ++ ".0"
  else if 0 < point ∧ point ≤ 16 then
    String.ofList (digits.toList.take point.toNat) ++ "."
      ++ String.ofList (digits.toList.drop point.toNat)
  else if -5 < point ∧ point ≤ 0 then "0." ++ zeros (-point) ++ digits
  else
    let first := String.ofList (digits.toList.take 1)
    let others := String.ofList (digits.toList.drop 1)
    let mark := if others.isEmpty then "e" else "." ++ others ++ "e"
    first ++ mark ++ toString (point - 1)

/-- The shortest decimal that reads back; a value that is no number is
written `null`. -/
def text (d : Double) : String :=
  if !d.isFinite then "null"
  else
    let sign := if d.isNegative then "-" else ""
    if d.mantissa = 0 then sign ++ "0.0"
    else
      let (q, p) := d.shortestFrom 1 17
      let (digits, exponent) := trimZeros q p 20
      sign ++ layout (toString digits) (digitCount digits + exponent)

end Double

end RoomSync.Json
