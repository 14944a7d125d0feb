/-
  RoomSync.Room.State
  ───────────────────
  **THE STATE OF A ROOM.**

  A room's state holds the latest event of each event type and state key.
  Events are kept in the order in which they were applied, so a listing has
  one order.  An event that carries an id is applied once, however often it
  comes; one without an id is applied unless it is what already stands
  there.  Replaying a batch therefore never takes the state back.
-/
import RoomSync.Event.Basic

namespace RoomSync

structure RoomState where
  /-- The current events, the longest unchanged first. -/
  events : List RoomEvent := []
  /-- The ids of all events that were ever applied. -/
  appliedIds : KeySet String := .empty
  deriving DecidableEq, Inhabited

namespace RoomState

/-- Whether an event is the state of this type under this key. -/
def isAt (type key : String) (e : RoomEvent) : Bool := e.type = type && e.stateKey = some key

/-- The current event of this type under this key. -/
def get? (s : RoomState) (type key : String) : Option RoomEvent := s.events.find? (isAt type key)

/-- Put an event in its place, as the newest. -/
def put (s : RoomState) (key : String) (e : RoomEvent) : RoomState :=
  { s with events := s.events.filter (!isAt e.type key ·) ++ [e] }

/-- Apply an event; the answer is whether the state changed. -/
def apply (s : RoomState) (e : RoomEvent) : RoomState × Bool :=
  match e.stateKey, e.id with
  | none, _ => (s, false)
  | some key, some id =>
      if s.appliedIds.contains id then (s, false)
      else ({ s.put key e with appliedIds := s.appliedIds.insert id () }, true)
  | some key, none => if s.get? e.type key = some e then (s, false) else (s.put key e, true)

/-- Apply events in order; the answer is how many changed the state. -/
def applyAll (s : RoomState) : List RoomEvent → RoomState × Nat
  | [] => (s, 0)
  | e :: es =>
      let (s, changed) := s.apply e
      let (s, count) := s.applyAll es
      (s, if changed then count + 1 else count)

def size (s : RoomState) : Nat := s.events.length

end RoomState

/-! ## The states of all rooms. -/

/-- The state of every room that has one. -/
abbrev StateCache := Table RoomId RoomState

namespace StateCache

/-- Apply the state events among these to a room, which gets a state with
its first one; the answer is how many changed it. -/
def apply (cache : StateCache) (room : RoomId) (events : List RoomEvent) : StateCache × Nat :=
  match events.filter (·.isState) with
  | [] => (cache, 0)
  | es =>
      let (s, changed) := ((cache.get? room).getD {}).applyAll es
      (cache.insert room s, changed)

/-- The current event of a room. -/
def state? (cache : StateCache) (room : RoomId) (type key : String) : Option RoomEvent :=
  (cache.get? room).bind (·.get? type key)

/-- All current events of a room. -/
def events (cache : StateCache) (room : RoomId) : List RoomEvent :=
  ((cache.get? room).map (·.events)).getD []

/-- Forget a room; the answer is whether it had a state. -/
def forget (cache : StateCache) (room : RoomId) : StateCache × Bool :=
  (cache.erase room, cache.contains room)

end StateCache

end RoomSync
