/-
  RoomSync.Json.Value
  ───────────────────
  **JSON VALUES.**

  A value as a text holds it: members of an object stand in the order of
  the text and may repeat a name.  `canonical` is the value that is meant:
  members in name order, of a repeated name the last.  On canonical values
  equality is equality of meaning, since member order is gone.

  A part of a text can be well formed and yet stand for no value, such as a
  number beyond all others.  It is `unreadable`, and no one minds it in a
  member that is ignored.
-/
import RoomSync.Table
import RoomSync.Json.Double

namespace RoomSync.Json

/-! ## §1. Values. -/

inductive Value where
  | null
  | bool (b : Bool)
  /-- An integer, exact. -/
  | integer (i : Int)
  /-- Any other number. -/
  | double (d : Double)
  | string (s : String)
  | array (items : List Value)
  | object (members : List (String × Value))
  /-- Well formed, but no value. -/
  | unreadable
  deriving Inhabited

/-- The members of an object. -/
abbrev Members := List (String × Value)

namespace Value

/-- The object without members. -/
def emptyObject : Value := .object []

def isNull : Value → Bool
  | .null => true
  | _ => false

/-- A member of an object; nothing else has members. -/
def get? (v : Value) (name : String) : Option Value :=
  match v with
  | .object ms => Entries.get? name ms
  | _ => none

def string? : Value → Option String
  | .string s => some s
  | _ => none

/-! ## §2. The value that is meant. -/

mutual

/-- Members in name order, of a repeated name the last, at every depth. -/
def canonical : Value → Value
  | .array items => .array (canonicalItems items)
  | .object ms => .object (canonicalMembers ms)
  | v => v

def canonicalItems : List Value → List Value
  | [] => []
  | v :: vs => v.canonical :: canonicalItems vs

def canonicalMembers : List (String × Value) → List (String × Value)
  | [] => []
  | (k, v) :: ms =>
      let rest := canonicalMembers ms
      if (Entries.get? k rest).isSome then rest else Entries.insert k v.canonical rest

end

mutual

/-- Whether every part of it is a value. -/
def isReadable : Value → Bool
  | .unreadable => false
  | .array items => areReadable items
  | .object ms => membersReadable ms
  | _ => true

def areReadable : List Value → Bool
  | [] => true
  | v :: vs => v.isReadable && areReadable vs

def membersReadable : List (String × Value) → Bool
  | [] => true
  | (_, v) :: ms => v.isReadable && membersReadable ms

end

/-- The object with these fields, in name order. -/
def record (fields : List (String × Value)) : Value :=
  .object (fields.foldl (fun ms f => Entries.insert f.1 f.2 ms) [])

/-- The object with these fields, where a field without value is left out. -/
def recordSome (fields : List (String × Option Value)) : Value :=
  record (fields.filterMap fun f => f.2.map (f.1, ·))

/-- A string or `null`. -/
def ofString? : Option String → Value
  | some s => .string s
  | none => .null

/-- A value or `null`. -/
def ofOption (encode : α → Value) : Option α → Value
  | some a => encode a
  | none => .null

def ofNat (n : Nat) : Value := .integer n

/-! ## §3. Equality is decidable. -/

mutual

/-- Equality test. -/
def same : Value → Value → Bool
  | .null, .null => true
  | .bool a, .bool b => a == b
  | .integer a, .integer b => a == b
  | .double a, .double b => decide (a = b)
  | .string a, .string b => a == b
  | .array xs, .array ys => sameItems xs ys
  | .object xs, .object ys => sameMembers xs ys
  | .unreadable, .unreadable => true
  | _, _ => false

def sameItems : List Value → List Value → Bool
  | [], [] => true
  | x :: xs, y :: ys => x.same y && sameItems xs ys
  | _, _ => false

def sameMembers : List (String × Value) → List (String × Value) → Bool
  | [], [] => true
  | (k, v) :: xs, (l, w) :: ys => k == l && v.same w && sameMembers xs ys
  | _, _ => false

end

mutual

theorem eq_of_same : ∀ {a b : Value}, a.same b = true → a = b
  | .null, b, h => by cases b <;> simp_all [same]
  | .bool x, b, h => by cases b <;> simp_all [same]
  | .integer x, b, h => by cases b <;> simp_all [same]
  | .double x, b, h => by cases b <;> simp_all [same]
  | .string x, b, h => by cases b <;> simp_all [same]
  | .array xs, b, h => by
      cases b <;> simp_all [same]
      exact eq_of_sameItems h
  | .object xs, b, h => by
      cases b <;> simp_all [same]
      exact eq_of_sameMembers h
  | .unreadable, b, h => by cases b <;> simp_all [same]

theorem eq_of_sameItems : ∀ {xs ys : List Value}, sameItems xs ys = true → xs = ys
  | [], ys, h => by cases ys <;> simp_all [sameItems]
  | x :: xs, [], h => by simp [sameItems] at h
  | x :: xs, y :: ys, h => by
      simp only [sameItems, Bool.and_eq_true] at h
      rw [eq_of_same h.1, eq_of_sameItems h.2]

theorem eq_of_sameMembers :
    ∀ {xs ys : List (String × Value)}, sameMembers xs ys = true → xs = ys
  | [], ys, h => by cases ys <;> simp_all [sameMembers]
  | x :: xs, [], h => by simp [sameMembers] at h
  | (k, v) :: xs, (l, w) :: ys, h => by
      simp only [sameMembers, Bool.and_eq_true, beq_iff_eq] at h
      rw [h.1.1, eq_of_same h.1.2, eq_of_sameMembers h.2]

end

mutual

theorem same_self : ∀ a : Value, a.same a = true
  | .null => rfl
  | .bool _ => by simp [same]
  | .integer _ => by simp [same]
  | .double _ => by simp [same]
  | .string _ => by simp [same]
  | .array xs => sameItems_self xs
  | .object xs => sameMembers_self xs
  | .unreadable => rfl

theorem sameItems_self : ∀ xs : List Value, sameItems xs xs = true
  | [] => rfl
  | x :: xs => by simp [sameItems, same_self x, sameItems_self xs]

theorem sameMembers_self : ∀ xs : List (String × Value), sameMembers xs xs = true
  | [] => rfl
  | (k, v) :: xs => by simp [sameMembers, same_self v, sameMembers_self xs]

end

instance : DecidableEq Value := fun a b =>
  decidable_of_iff (a.same b = true) ⟨eq_of_same, fun h => h ▸ same_self a⟩

end Value

end RoomSync.Json
