/-
  RoomSync.Digits
  ───────────────
  **READING DIGITS.**

  The value of a digit, and of a run of digits, in any base up to sixteen.
-/

namespace RoomSync.Digits

/-- The value of a hexadecimal digit of either case. -/
def value? (c : Char) : Option Nat :=
  if '0' ≤ c ∧ c ≤ '9' then some (c.toNat - '0'.toNat)
  else if 'a' ≤ c ∧ c ≤ 'f' then some (c.toNat - 'a'.toNat + 10)
  else if 'A' ≤ c ∧ c ≤ 'F' then some (c.toNat - 'A'.toNat + 10)
  else none

/-- The number written in these digits of this base; none is zero. -/
def number? (base : Nat) (cs : List Char) : Option Nat :=
  cs.foldlM (fun n c => ((value? c).filter (· < base)).map (base * n + ·)) 0

/-- The natural number written by decimal digits. -/
def decimal (cs : List Char) : Nat :=
  cs.foldl (fun n c => 10 * n + (c.toNat - '0'.toNat)) 0

end RoomSync.Digits
