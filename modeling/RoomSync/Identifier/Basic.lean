/-
  RoomSync.Identifier.Basic
  ─────────────────────────
  **ROOM AND USER IDS.**

  Ids are strings that passed a check; the check is part of the type, so a
  malformed id cannot get past the border.  A room id starts with `!`; a
  user id is `@local:server`, and its server name is a host with an
  optional port.
-/
import RoomSync.Identifier.Ip

namespace RoomSync

/-! ## §1. Why an id is refused. -/

inductive IdError where
  | tooLong
  | missingSigil
  | missingColon
  | badServerName
  deriving DecidableEq

def IdError.message : IdError → String
  | .tooLong => "ID exceeds 255 bytes"
  | .missingSigil => "leading sigil is incorrect or missing"
  | .missingColon => "required colon is missing"
  | .badServerName => "server name is not a valid IP address or domain name"

/-- The greatest length of an id, in bytes. -/
def maxIdBytes : Nat := 255

/-- What is wrong with the length or the first character of an id. -/
def sigilFault? (sigil : Char) (text : String) : Option IdError :=
  if maxIdBytes < text.utf8ByteSize then some .tooLong
  else if text.toList.head? = some sigil then none
  else some .missingSigil

/-! ## §2. Server names. -/

/-- A port: decimal digits after an optional plus, below 65536. -/
def isPort (cs : List Char) : Bool :=
  let ds := match cs with
    | '+' :: ds => ds
    | ds => ds
  !ds.isEmpty && ((Digits.number? 10 ds).any (· < 65536))

def isHostChar (c : Char) : Bool := c.isAlphanum || c = '-' || c = '.'

/-- What may follow the host: nothing, or a colon and a port. -/
def isPortSuffix : List Char → Bool
  | [] => true
  | c :: cs => c = ':' && isPort cs

/-- A host with an optional port; the whole is not empty. -/
def isServerName : List Char → Bool
  | [] => false
  | '[' :: cs =>
      let address := cs.takeWhile (· != ']')
      match cs.dropWhile (· != ']') with
      | [] => false
      | _ :: after => (Ip.v6? address).isSome && isPortSuffix after
  | cs => (cs.takeWhile (· != ':')).all isHostChar && isPortSuffix (cs.dropWhile (· != ':'))

/-- What is wrong with a text as a user id. -/
def userIdFault? (text : String) : Option IdError :=
  match sigilFault? '@' text with
  | some e => some e
  | none =>
      match text.toList.dropWhile (· != ':') with
      | [] => some .missingColon
      | _ :: server => if isServerName server then none else some .badServerName

/-! ## §3. The id types. -/

/-- A checked room id. -/
structure RoomId where
  text : String
  valid : sigilFault? '!' text = none
  deriving DecidableEq

/-- A checked user id. -/
structure UserId where
  text : String
  valid : userIdFault? text = none
  deriving DecidableEq

namespace RoomId

/-- The room id that a text is, if it is one. -/
def ofString? (text : String) : Option RoomId :=
  if h : sigilFault? '!' text = none then some ⟨text, h⟩ else none

instance : Ord RoomId := ⟨fun a b => compare a.text b.text⟩

theorem ext_text {a b : RoomId} (h : a.text = b.text) : a = b := by
  cases a; cases b; cases h; rfl

theorem compare_eq (a b : RoomId) : compare a b = compare a.text b.text := rfl

instance : Std.TransOrd RoomId where
  eq_swap := by simp only [compare_eq]; exact Std.OrientedCmp.eq_swap
  isLE_trans := by simp only [compare_eq]; exact Std.TransCmp.isLE_trans

instance : Std.LawfulEqOrd RoomId where
  compare_self := by simp
  eq_of_compare := by
    simp only [compare_eq]
    exact fun h => ext_text (Std.LawfulEqCmp.eq_of_compare h)

@[simp] theorem ofString?_text (r : RoomId) : ofString? r.text = some r := by
  simp [ofString?, r.valid]

theorem text_of_ofString? {s : String} {r : RoomId} (h : ofString? s = some r) :
    r.text = s := by
  unfold ofString? at h
  split at h
  · cases h; rfl
  · simp at h

end RoomId

namespace UserId

/-- The user id that a text is, or why it is none. -/
def parse (text : String) : Except IdError UserId :=
  match h : userIdFault? text with
  | none => .ok ⟨text, h⟩
  | some e => .error e

/-- The user id that a text is, if it is one. -/
def ofString? (text : String) : Option UserId := (parse text).toOption

end UserId

end RoomSync
