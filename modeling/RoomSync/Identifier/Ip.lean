/-
  RoomSync.Identifier.Ip
  ──────────────────────
  **WRITTEN IP ADDRESSES.**

  The two textual forms: four decimal octets between points, and eight
  groups of up to four hexadecimal digits between colons, where one run of
  zero groups may be left out as `::` and the last two groups may be
  written as four octets.
-/
import RoomSync.Digits

namespace RoomSync.Ip

/-- The pieces between the marks; no mark gives one piece. -/
def pieces (mark : Char) : List Char → List (List Char)
  | [] => [[]]
  | c :: cs =>
      if c = mark then [] :: pieces mark cs
      else
        match pieces mark cs with
        | [] => [[c]]
        | p :: ps => (c :: p) :: ps

/-- A decimal octet without needless zeros. -/
def octet? (cs : List Char) : Option Nat :=
  if cs.isEmpty || 3 < cs.length || (cs.head? == some '0' && cs.length != 1) then none
  else (Digits.number? 10 cs).filter (· < 256)

/-- Four octets, as one number. -/
def v4? (cs : List Char) : Option Nat :=
  match (pieces '.' cs).mapM octet? with
  | some [a, b, c, d] => some (((a * 256 + b) * 256 + c) * 256 + d)
  | _ => none

/-- A group of one to four hexadecimal digits. -/
def group? (cs : List Char) : Option Nat :=
  if cs.isEmpty || 4 < cs.length then none else Digits.number? 16 cs

/-- Groups between colons, the last two perhaps as octets. -/
def groups? (octetsAllowed : Bool) (cs : List Char) : Option (List Nat) :=
  if cs.isEmpty then some []
  else
    let ps := pieces ':' cs
    match ps.mapM group? with
    | some gs => some gs
    | none =>
        if octetsAllowed then
          match ps.dropLast.mapM group?, ps.getLast?.bind v4? with
          | some gs, some n => some (gs ++ [n / 65536, n % 65536])
          | _, _ => none
        else none

/-- The text before and after the first `::`. -/
def splitAtGap : List Char → Option (List Char × List Char)
  | ':' :: ':' :: rest => some ([], rest)
  | [] => none
  | c :: cs => (splitAtGap cs).map fun (a, b) => (c :: a, b)

/-- The eight groups of a written address. -/
def v6? (cs : List Char) : Option (List Nat) :=
  match splitAtGap cs with
  | none => (groups? true cs).filter (·.length = 8)
  | some (front, back) =>
      match groups? false front, groups? true back with
      | some fs, some bs =>
          if fs.length + bs.length ≤ 7 then
            some (fs ++ List.replicate (8 - (fs.length + bs.length)) 0 ++ bs)
          else none
      | _, _ => none

end RoomSync.Ip
