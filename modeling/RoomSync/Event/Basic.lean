/-
  RoomSync.Event.Basic
  ────────────────────
  **ROOM EVENTS.**

  An event as the homeserver sends it, in a timeline, in a room's state, or
  stripped in an invite.  What an event means to the client (`kind`) is told by
  its type and content when it is read, and kept from then on: a preprocessor or
  a crypto engine that gives the event another type may leave the kind as it was.
-/
import RoomSync.Json.Value
import RoomSync.Identifier.Basic

namespace RoomSync

open Json

/-! ## §1. Memberships. -/

/-- The relation of a user to a room. -/
inductive Membership where
  | join
  | invite
  | leave
  | ban
  | knock
  /-- Any other value. -/
  | unknown
  deriving DecidableEq, Inhabited

namespace Membership

/-- Whether this membership takes the user out of the room. -/
def isDeparture : Membership → Bool
  | leave | ban => true
  | _ => false

def name : Membership → String
  | join => "join"
  | invite => "invite"
  | leave => "leave"
  | ban => "ban"
  | knock => "knock"
  | unknown => "unknown"

/-- The membership of this name; every other word is unknown. -/
def ofName : String → Membership
  | "join" => join
  | "invite" => invite
  | "leave" => leave
  | "ban" => ban
  | "knock" => knock
  | _ => unknown

@[simp] theorem ofName_name (m : Membership) : ofName m.name = m := by
  cases m <;> rfl

end Membership

/-! ## §2. Kinds of events. -/

/-- What an event is about. -/
inductive EventKind where
  | message
  | member (membership : Membership)
  | tombstone (replacement : Option String)
  /-- The start of a room, with the room it upgrades. -/
  | create (predecessor : Option String)
  | encrypted
  | name (name : Option String)
  | topic (topic : Option String)
  | encryption
  | other
  deriving DecidableEq, Inhabited

/-- A text member of some content. -/
def textMember (content : Value) (name : String) : Option String :=
  (content.get? name).bind Value.string?

/-- The membership that some content states, which is unknown unless it is named. -/
def statedMembership (content : Value) : Membership :=
  ((textMember content "membership").map .ofName).getD .unknown

/-- The room that the content of a room's first event says it upgrades. -/
def upgradedRoom (content : Value) : Option String :=
  ((content.get? "predecessor").bind fun p => textMember p "room_id").filter (· ≠ "")

/-- The kind of an event of this type with this content. -/
def EventKind.of (type : String) (content : Value) : EventKind :=
  match type with
  | "m.room.message" => .message
  | "m.room.member" => .member (statedMembership content)
  | "m.room.tombstone" => .tombstone (textMember content "replacement_room")
  | "m.room.create" => .create (upgradedRoom content)
  | "m.room.encrypted" => .encrypted
  | "m.room.name" => .name (textMember content "name")
  | "m.room.topic" => .topic (textMember content "topic")
  | "m.room.encryption" => .encryption
  | _ => .other

/-! ## §3. Events. -/

/-- The part of an event the server adds for this client. -/
structure Unsigned where
  /-- Milliseconds since the server saw the event, relative to its answer. -/
  age : Option Int := none
  /-- The other members. -/
  extra : Members := []
  deriving DecidableEq, Inhabited

structure RoomEvent where
  id : Option String := none
  sender : String := ""
  type : String := ""
  /-- Present exactly on state events, where it may be empty. -/
  stateKey : Option String := none
  timestamp : Option Nat := none
  content : Value := .emptyObject
  unsigned : Unsigned := {}
  /-- The members that are not interpreted. -/
  other : Members := []
  /-- What the event is about, as its reader told it. -/
  kind : EventKind := .of type content
  deriving DecidableEq, Inhabited

namespace RoomEvent

/-- The kind is the one that the type and the content tell. -/
def Consistent (e : RoomEvent) : Prop := e.kind = .of e.type e.content

instance (e : RoomEvent) : Decidable e.Consistent := inferInstanceAs (Decidable (_ = _))

/-- How long ago the event happened; an event that does not say is new. -/
def age (e : RoomEvent) : Int := e.unsigned.age.getD 0

def isState (e : RoomEvent) : Bool := e.stateKey.isSome

def hasEmptyStateKey (e : RoomEvent) : Bool := e.stateKey = some ""

/-- The membership that a member event carries. -/
def membership? (e : RoomEvent) : Option Membership :=
  match e.kind with
  | .member m => some m
  | _ => none

/-- The membership of `user`, if this is that user's member event. -/
def membershipOf? (user : String) (e : RoomEvent) : Option Membership :=
  if e.stateKey = some user then e.membership? else none

end RoomEvent

end RoomSync
