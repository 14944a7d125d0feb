/-
  RoomSync.Window.RoomList
  ────────────────────────
  **WHAT IS KNOWN OF A SORTED ROOM LIST.**

  The homeserver keeps a sorted list of rooms; the client keeps the parts
  it was told about, cut into pages of one size: the page at `start` covers
  the indices `[start, start + pageSize)`, holds the slots from its start
  on, and a slot holds a room or is a placeholder.

      index  ↦  (start of its page, offset in it)

  Beside the pages stands a table of the rooms that some slot holds.  No
  index reaches `2^64`, and a page that would cannot exist.
-/
import RoomSync.Window.Room

namespace RoomSync.Window

open Json

/-! ## §1. Which rooms a list holds. -/

/-- The rooms a list is made of. -/
inductive Behaviour where
  | joined
  | invited
  | direct
  deriving DecidableEq, Inhabited

namespace Behaviour

/-- The lists that are kept unless others are named, in order. -/
def defaults : List Behaviour := [joined, invited, direct]

def name : Behaviour → String
  | joined => "joined"
  | invited => "invited"
  | direct => "direct"

/-- The name in documents. -/
def key : Behaviour → String
  | joined => "joined_only"
  | invited => "invited_only"
  | direct => "direct_messages_only"

def filters : Behaviour → Filters
  | joined => { isInvite := some false }
  | invited => { isInvite := some true }
  | direct => { isDirect := some true }

def decode : Decoder Behaviour := Decode.choice (defaults.map fun b => (b.key, b))

def encode (b : Behaviour) : Value := .string b.key

end Behaviour

/-! ## §2. Lists. -/

/-- The slots of a page. -/
abbrev Page := List (Option RoomId)

structure RoomList where
  behaviour : Behaviour
  pageSize : Nat
  /-- The number of rooms as the homeserver counts them. -/
  total : Nat := 0
  /-- Slots by the start of their page. -/
  pages : Table Nat Page := .empty
  rooms : Table RoomId Room := .empty
  deriving DecidableEq

/-- The page size unless another is set. -/
def defaultPageSize : Nat := 1000

/-- The most windows one list asks for at once. -/
def maxRequestedPages : Nat := 64

/-- The greatest index. -/
def maxIndex : Nat := 0xFFFFFFFFFFFFFFFF

/-- The most slots there can be room for in a page: a slot takes 16 bytes, and no vector
has more than `2^63 - 1` of them. -/
def maxSlots : Nat := 0x7FFFFFFFFFFFFFFF / 16

/-- The order asked for. -/
def sortOrder : List String := ["by_notification_level", "by_recency"]

/-- Addition that stops at the greatest index. -/
def saturatingAdd (a b : Nat) : Nat := min (a + b) maxIndex

namespace RoomList

/-- A list of which nothing is known yet; a page has at least one slot. -/
def create (behaviour : Behaviour) (pageSize : Nat) : RoomList :=
  { behaviour, pageSize := max pageSize 1 }

def name (l : RoomList) : String := l.behaviour.name

/-! ## §3. Looking up. -/

/-- The page of an index and the offset in it. -/
def locate (l : RoomList) (index : Nat) : Nat × Nat :=
  (index - index % l.pageSize, index % l.pageSize)

/-- The known windows. -/
def ranges (l : RoomList) : List (Nat × Nat) :=
  l.pages.entries.map fun (start, slots) => (start, saturatingAdd start slots.length)

/-- The slot of an index, if its page reaches that far. -/
def slot? (l : RoomList) (index : Nat) : Option (Option RoomId) :=
  (l.pages.get? (l.locate index).1).bind (·[(l.locate index).2]?)

def roomIdAt (l : RoomList) (index : Nat) : Option RoomId := (l.slot? index).join

def roomAt (l : RoomList) (index : Nat) : Option Room := (l.roomIdAt index).bind l.rooms.get?

/-- The first index that holds a room. -/
def positionOf (l : RoomList) (id : RoomId) : Option Nat :=
  l.pages.entries.findSome? fun (start, slots) =>
    (slots.findIdx? (· == some id)).map (start + ·)

/-- Whether some slot holds a room. -/
def holds (l : RoomList) (id : RoomId) : Bool := (l.positionOf id).isSome

/-! ## §4. Asking. -/

/-- The windows to ask for: every page that the total needs, at least one,
at most `maxRequestedPages`, and none that reaches past the greatest
index. -/
def requestRanges (l : RoomList) : List (Nat × Nat) :=
  let needed := max ((l.total + l.pageSize - 1) / l.pageSize) 1
  let starts := (List.range (min needed maxRequestedPages)).map (· * l.pageSize)
  (starts.takeWhile fun s => s + l.pageSize ≤ maxIndex).map fun s => (s, s + l.pageSize)

def request (l : RoomList) (user : UserId) (timelineLimit : Nat) : ListRequest where
  ranges := l.requestRanges
  sort := sortOrder
  requiredState :=
    [("m.room.name", ""), ("m.room.topic", ""), ("m.room.encryption", ""),
      ("m.room.member", user.text)]
  timelineLimit := timelineLimit
  filters := some l.behaviour.filters

/-! ## §5. Forgetting. -/

/-- Forget the rooms that no slot holds. -/
def sweep (l : RoomList) : RoomList :=
  let held := l.pages.values.flatMap fun slots => slots.filterMap id
  { l with rooms := l.rooms.filter fun id _ => held.contains id }

/-- Drop every page whose window meets `[start, stop)`. -/
def invalidate (l : RoomList) (range : Nat × Nat) : RoomList :=
  let pages := l.pages.filter fun p _ =>
    !(decide (p < range.2) && decide (range.1 < saturatingAdd p l.pageSize))
  if pages.entries.length = l.pages.entries.length then { l with pages }
  else sweep { l with pages }

/-- Drop the page at `start`. -/
def invalidatePage (l : RoomList) (start : Nat) : RoomList :=
  l.invalidate (start, saturatingAdd start l.pageSize)

/-- Turn every slot of a room into a placeholder. -/
def clear (l : RoomList) (id : RoomId) : RoomList :=
  { l with pages := l.pages.mapValues fun _ slots =>
      slots.map fun slot => if slot = some id then none else slot }

end RoomList

/-! ## §6. Why an operation is refused. -/

inductive ListFault where
  /-- A window that is no part of one page from its start on. -/
  | misfit (start stop pageSize : Nat)
  | insertWithoutRoom (index : Nat)
  | updateOfUnknown (index : Nat)
  | updateOfOther (index : Nat) (claimed held : RoomId)
  | deleteOfUnknown (index : Nat)
  /-- An index whose page would reach past the greatest index. -/
  | unaddressable (index : Nat)
  deriving DecidableEq

def ListFault.message : ListFault → String
  | misfit start stop pageSize =>
      "SYNC range [" ++ toString start ++ ", " ++ toString stop ++ ") does not fit a page of "
        ++ toString pageSize
  | insertWithoutRoom index => "INSERT at " ++ toString index ++ " without a room id"
  | updateOfUnknown index => "UPDATE at " ++ toString index ++ " with no known room"
  | updateOfOther index claimed held =>
      "UPDATE at " ++ toString index ++ " names " ++ claimed.text ++ " but the slot holds "
        ++ held.text
  | deleteOfUnknown index => "DELETE at " ++ toString index ++ " outside known pages"
  | unaddressable index => "index " ++ toString index ++ " is outside any addressable page"

end RoomSync.Window
