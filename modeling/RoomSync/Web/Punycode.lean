/-
  RoomSync.Web.Punycode
  ─────────────────────
  **UNICODE LABELS IN ASCII.**

  A label is written as its ASCII characters, a hyphen, and the differences
  between the places where the other characters have to be put in, in
  increasing order of code points.  A difference is a number in base 36
  with a digit limit that follows the differences before it.
-/

namespace RoomSync.Web.Punycode

/-! ## §1. Digits and limits. -/

/-- The digits are the letters and then the decimal digits. -/
def digitChar (d : Nat) : Char :=
  if d < 26 then Char.ofNat (0x61 + d) else Char.ofNat (0x30 + (d - 26))

def digitValue? (c : Char) : Option Nat :=
  if 'a' ≤ c ∧ c ≤ 'z' then some (c.toNat - 0x61)
  else if 'A' ≤ c ∧ c ≤ 'Z' then some (c.toNat - 0x41)
  else if '0' ≤ c ∧ c ≤ '9' then some (c.toNat - 0x30 + 26)
  else none

/-- The limit of the digit at place `k`, counted in steps of 36. -/
def limit (k bias : Nat) : Nat := min 26 (max 1 (k - bias))

theorem limit_pos (k bias : Nat) : 1 ≤ limit k bias := by unfold limit; omega

/-- Divide by 35 until at most 455, counting in steps of 36. -/
def shrink (delta : Nat) : Nat × Nat :=
  if _h : 455 < delta then
    let (d, k) := shrink (delta / 35)
    (d, k + 36)
  else (delta, 0)
termination_by delta
decreasing_by exact Nat.div_lt_self (by omega) (by omega)

/-- The bias after a difference, where `count` characters are in place. -/
def adapt (delta count : Nat) (first : Bool) : Nat :=
  let delta := if first then delta / 700 else delta / 2
  let (d, k) := shrink (delta + delta / count)
  k + 36 * d / (d + 38)

/-! ## §2. Writing. -/

/-- A difference in digits. -/
def encodeNumber (bias k n : Nat) : List Char :=
  let t := limit k bias
  if n < t then [digitChar n]
  else digitChar (t + (n - t) % (36 - t)) :: encodeNumber bias (k + 36) ((n - t) / (36 - t))
termination_by n
decreasing_by
  have h1 := limit_pos k bias
  calc (n - limit k bias) / (36 - limit k bias)
      ≤ n - limit k bias := Nat.div_le_self _ _
    _ < n := by omega

/-- A label half written. -/
structure Writing where
  delta : Nat := 0
  bias : Nat := 72
  /-- How many characters are in place. -/
  placed : Nat
  /-- How many of them are ASCII. -/
  basic : Nat
  digits : List Char := []

/-- Pass by one character of the label while `code` is put in. -/
def Writing.pass (code : Nat) (w : Writing) (c : Char) : Writing :=
  if c.toNat < code then { w with delta := w.delta + 1 }
  else if c.toNat = code then
    { w with
      delta := 0
      bias := adapt w.delta (w.placed + 1) (w.placed = w.basic)
      placed := w.placed + 1
      digits := w.digits ++ encodeNumber w.bias 36 w.delta }
  else w

/-- Put in one code point, where the one before was `previous`. -/
def Writing.put (label : List Char) (state : Nat × Writing) (code : Nat) : Nat × Writing :=
  let (next, w) := state
  let skipped := (code - next) * (w.placed + 1)
  let w := label.foldl (Writing.pass code) { w with delta := w.delta + skipped }
  (code + 1, { w with delta := w.delta + 1 })

/-- The ASCII form of a label, without its mark. -/
def encode (label : List Char) : List Char :=
  let basic := label.filter (·.toNat < 0x80)
  let codes := ((label.map Char.toNat).filter (0x80 ≤ ·)).mergeSort.eraseDups
  let (_, w) := codes.foldl (Writing.put label)
    (0x80, { placed := basic.length, basic := basic.length })
  basic ++ (if basic.isEmpty then [] else ['-']) ++ w.digits

/-! ## §3. Reading. -/

/-- The weights of digits end here. -/
def weightLimit : Nat := 0xFFFFFFFF

/-- Read a difference: its value added to `i`, and the rest. -/
def decodeNumber (bias : Nat) : List Char → Nat → Nat → Nat → Option (Nat × List Char)
  | [], _, _, _ => none
  | c :: rest, k, weight, i =>
      match digitValue? c with
      | none => none
      | some d =>
          if weightLimit < weight then none
          else if d < limit k bias then some (i + d * weight, rest)
          else decodeNumber bias rest (k + 36) (weight * (36 - limit k bias)) (i + d * weight)

theorem length_of_decodeNumber {bias : Nat} :
    ∀ {cs : List Char} {k weight i : Nat} {r : Nat × List Char},
      decodeNumber bias cs k weight i = some r → r.2.length < cs.length
  | [], _, _, _, _, h => by simp [decodeNumber] at h
  | c :: rest, k, weight, i, r, h => by
      rw [decodeNumber] at h
      split at h
      · simp at h
      · split at h
        · simp at h
        · split at h
          · rw [← Option.some.inj h]; simp
          · have := length_of_decodeNumber h
            simp only [List.length_cons]; omega

/-- Put the characters in one after the other. -/
def decodeFrom (bias code i : Nat) (placed : List Char) : List Char → Option (List Char)
  | [] => some placed
  | c :: rest =>
      match _h : decodeNumber bias (c :: rest) 36 1 i with
      | none => none
      | some (j, more) =>
          let count := placed.length + 1
          let code := code + j / count
          if code.isValidChar then
            decodeFrom (adapt (j - i) count (i = 0)) code (j % count + 1)
              (placed.insertIdx (j % count) (Char.ofNat code)) more
          else none
termination_by cs => cs.length
decreasing_by
  have := length_of_decodeNumber _h
  simpa using this

/-- The label that an ASCII form, without its mark, stands for.  No hyphen
stands in front of the digits when there is nothing before it. -/
def decode (cs : List Char) : Option (List Char) :=
  let digits := (cs.reverse.takeWhile (· != '-')).reverse
  let basic := cs.take (cs.length - digits.length - 1)
  if (basic.isEmpty && cs.contains '-') || basic.any (0x80 ≤ ·.toNat) then none
  else decodeFrom 72 0x80 0 basic digits

end RoomSync.Web.Punycode
