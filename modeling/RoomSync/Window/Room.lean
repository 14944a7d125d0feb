/-
  RoomSync.Window.Room
  ────────────────────
  **A ROOM SEEN THROUGH A WINDOW.**

  Of a room in a window the client keeps four facts and the last events of
  its timeline.  A fact changes only when an event about it arrives.  What
  is written to storage (`Saved`) are the facts, without the timeline.
-/
import RoomSync.Window.Message

namespace RoomSync.Window

open Json

/-! ## §1. The facts. -/

structure Facts where
  name : Option String := none
  topic : Option String := none
  /-- How the room is encrypted, once it is. -/
  encryption : Option Value := none
  ownMembership : Option Membership := none
  deriving DecidableEq, Inhabited

namespace Facts

/-- Take in one event: name, topic and encryption are the room's own state,
the membership is that of `user`. -/
def apply (user : UserId) (f : Facts) (e : RoomEvent) : Facts :=
  match e.kind with
  | .name name => if e.hasEmptyStateKey then { f with name } else f
  | .topic topic => if e.hasEmptyStateKey then { f with topic } else f
  | .encryption => if e.hasEmptyStateKey then { f with encryption := some e.content } else f
  | .member m => if e.stateKey = some user.text then { f with ownMembership := some m } else f
  | _ => f

end Facts

/-! ## §2. Rooms. -/

structure Room where
  id : RoomId
  facts : Facts := {}
  timeline : List RoomEvent := []
  deriving DecidableEq

/-- How many timeline events a room keeps. -/
def timelineLength : Nat := 50

namespace Room

def isEncrypted (r : Room) : Bool := r.facts.encryption.isSome

/-- Take in a payload: its sections in order for the facts, and the newest
events of the timeline. -/
def apply (user : UserId) (r : Room) (p : Payload) : Room :=
  let timeline := r.timeline ++ p.timeline
  { r with
    facts := (p.requiredState ++ p.inviteState ++ p.timeline).foldl (Facts.apply user) r.facts
    timeline := timeline.drop (timeline.length - timelineLength) }

end Room

/-! ## §3. The saved form. -/

/-- A room as it is written to storage. -/
structure SavedRoom where
  id : RoomId
  facts : Facts
  deriving DecidableEq

def Room.save (r : Room) : SavedRoom := ⟨r.id, r.facts⟩

def SavedRoom.restore (s : SavedRoom) : Room := { id := s.id, facts := s.facts }

namespace SavedRoom

/-- The membership in a saved room, which a record of one empty record may
name, too. -/
def decodeMembership : Decoder Membership
  | .object [(name, .object [])] => .ok (.ofName name)
  | v => Membership.decode v

/-- The members of a saved room. -/
def memberNames : List String := ["room_id", "name", "topic", "encryption", "own_membership"]

/-- The facts stand beside the id, so that all members are read. -/
def decode : Decoder SavedRoom := fun v => do
  let ms ← Decode.members "a saved room" v
  let id ← Decode.required "room_id" RoomId.decode ms
  Decode.readableOthers memberNames ms
  return {
    id
    facts := {
      name := ← Decode.optional "name" Decode.string ms
      topic := ← Decode.optional "topic" Decode.string ms
      encryption := ← Decode.optional "encryption" Decode.content ms
      ownMembership := ← Decode.optional "own_membership" decodeMembership ms } }

def encode (s : SavedRoom) : Value :=
  .recordSome [
    ("room_id", some s.id.encode),
    ("name", s.facts.name.map .string),
    ("topic", s.facts.topic.map .string),
    ("encryption", s.facts.encryption),
    ("own_membership", s.facts.ownMembership.map Membership.encode)]

end SavedRoom

end RoomSync.Window
