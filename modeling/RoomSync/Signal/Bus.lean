/-
  RoomSync.Signal.Bus
  ───────────────────
  **DELIVERING SIGNALS.**

  Consumers either handle one kind of signal or subscribe to all of them.
  A signal goes first to the handlers of its kind, in the order they came,
  and then to every subscriber.
-/
import RoomSync.Signal.Basic

namespace RoomSync

structure SignalBus where
  /-- Handlers by the kind they asked for, under the labels of their owners. -/
  handlers : List (SignalKind × String) := []
  /-- What each subscriber received and did not take yet; `none` once it is
  gone. -/
  inboxes : List (Option (List Signal)) := []
  deriving DecidableEq, Inhabited

/-- One call of a handler. -/
structure Handled where
  label : String
  kind : SignalKind
  room : Option RoomId
  deriving DecidableEq

namespace SignalBus

def handle (bus : SignalBus) (kind : SignalKind) (label : String) : SignalBus :=
  { bus with handlers := bus.handlers ++ [(kind, label)] }

def subscribe (bus : SignalBus) : SignalBus :=
  { bus with inboxes := bus.inboxes ++ [some []] }

/-- A subscriber goes away. -/
def drop (bus : SignalBus) (subscriber : Nat) : SignalBus :=
  { bus with inboxes := bus.inboxes.set subscriber none }

/-- Deliver a signal; the calls of handlers come back in order. -/
def emit (bus : SignalBus) (s : Signal) : SignalBus × List Handled :=
  ({ bus with inboxes := bus.inboxes.map (·.map (· ++ [s])) },
    (bus.handlers.filter (·.1 = s.kind)).map fun h => ⟨h.2, s.kind, s.room?⟩)

/-- Every subscriber takes what it received. -/
def take (bus : SignalBus) : SignalBus × List (Option (List Signal)) :=
  ({ bus with inboxes := bus.inboxes.map (·.map fun _ => []) }, bus.inboxes)

end SignalBus

end RoomSync
