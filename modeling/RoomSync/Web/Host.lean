/-
  RoomSync.Web.Host
  ─────────────────
  **HOSTS.**

  The host of a web address is a domain name, four octets, or eight groups.
  A name whose last label is a number is read as octets, which may be
  written in any base and with the last number taking the place of several.
-/
import RoomSync.Identifier.Ip
import RoomSync.Web.Domain

namespace RoomSync.Web

/-! ## §1. Why an address is refused. -/

inductive AddressError where
  /-- It does not begin with a scheme. -/
  | relative
  | emptyHost
  | badDomain
  /-- A character that no host holds. -/
  | badHostCharacter
  | badPort
  | badOctets
  | badGroups
  /-- An address in order, but of no web page. -/
  | foreignScheme
  deriving DecidableEq

def AddressError.message : AddressError → String
  | .relative => "relative URL without a base"
  | .emptyHost => "empty host"
  | .badDomain => "invalid international domain name"
  | .badHostCharacter => "invalid domain character"
  | .badPort => "invalid port number"
  | .badOctets => "invalid IPv4 address"
  | .badGroups => "invalid IPv6 address"
  | .foreignScheme => "not a web address"

/-! ## §2. Numbers as hosts. -/

/-- A number in a host: hexadecimal behind `0x`, octal behind `0`. -/
def hostNumber? : List Char → Option Nat
  | [] => none
  | ['0'] => some 0
  | '0' :: x :: cs =>
      if x = 'x' ∨ x = 'X' then Digits.number? 16 cs else Digits.number? 8 (x :: cs)
  | cs => Digits.number? 10 cs

/-- The labels, without an empty one at the end. -/
def numberLabels (name : List Char) : List (List Char) :=
  let ls := labels name
  if 1 < ls.length ∧ ls.getLast? = some [] then ls.dropLast else ls

/-- Whether the last label of a name is a number. -/
def endsInNumber (name : List Char) : Bool :=
  match (numberLabels name).getLast? with
  | none => false
  | some l => (!l.isEmpty && l.all Char.isDigit) || (hostNumber? l).isSome

/-- The address that a name of numbers stands for: each number but the last
is an octet, and the last one fills the places that are left. -/
def octets? (name : List Char) : Option Nat :=
  match (numberLabels name).mapM hostNumber? with
  | none => none
  | some numbers =>
      let front := numbers.dropLast
      let room := Nat.pow 256 (4 - front.length)
      match numbers.getLast? with
      | none => none
      | some last =>
          if 4 < numbers.length || front.any (255 < ·) || room ≤ last then none
          else some (front.foldl (256 * · + ·) 0 * room + last)

/-! ## §3. Hosts. -/

inductive Host where
  | domain (name : String)
  | octets (address : Nat)
  | groups (groups : List Nat)
  deriving DecidableEq

namespace Host

/-- A host in brackets. -/
def bracketed (cs : List Char) : Except AddressError Host :=
  if cs.getLast? = some ']' then
    match Ip.v6? (cs.drop 1).dropLast with
    | some gs => .ok (.groups gs)
    | none => .error .badGroups
  else .error .badGroups

/-- The host that a text names. -/
def ofChars (cs : List Char) : Except AddressError Host :=
  if cs.head? = some '[' then bracketed cs
  else
    match domainToAscii? cs with
    | none => .error .badDomain
    | some [] => .error .emptyHost
    | some name =>
        if endsInNumber name then
          match octets? name with
          | some n => .ok (.octets n)
          | none => .error .badOctets
        else .ok (.domain (String.ofList name))

/-- The characters that no host holds, whatever its scheme. -/
def isHostFault (c : Char) : Bool :=
  c == '\x00' || c == ' '
    || ['#', '/', ':', '<', '>', '?', '@', '[', '\\', ']', '^', '|'].contains c

/-- What is wrong with the host of an address of a scheme of its own. -/
def foreignFault? (cs : List Char) : Option AddressError :=
  if cs.head? = some '[' then
    match bracketed cs with
    | .ok _ => none
    | .error e => some e
  else if cs.any isHostFault then some .badHostCharacter
  else none

/-- A group in hexadecimal digits. -/
def groupText (n : Nat) : String := String.ofList (Nat.toDigits 16 n)

/-- The number of zero groups in front. -/
def zerosInFront (gs : List Nat) : Nat := (gs.takeWhile (· = 0)).length

/-- The place and the length of the longest run of zero groups, the first of
several. -/
def longestGap (gs : List Nat) : Nat × Nat :=
  (List.range gs.length).foldl (fun best i =>
    let n := zerosInFront (gs.drop i)
    if best.2 < n then (i, n) else best) (0, 0)

/-- Groups between colons, the longest run of several zero groups left out. -/
def groupsText (gs : List Nat) : String :=
  let join (gs : List Nat) : String := String.intercalate ":" (gs.map groupText)
  match longestGap gs with
  | (at_, n) => if n < 2 then join gs else join (gs.take at_) ++ "::" ++ join (gs.drop (at_ + n))

def octetsText (n : Nat) : String :=
  String.intercalate "." ([n / 0x1000000, n / 0x10000 % 256, n / 0x100 % 256, n % 256].map toString)

def text : Host → String
  | domain name => name
  | octets n => octetsText n
  | groups gs => "[" ++ groupsText gs ++ "]"

end Host

end RoomSync.Web
