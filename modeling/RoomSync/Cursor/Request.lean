/-
  RoomSync.Cursor.Request
  ───────────────────────
  **ASKING FOR WHAT HAPPENED SINCE A CURSOR.**
-/
import RoomSync.Json.Decode

namespace RoomSync

open Json

/-- The presence announced with a request. -/
inductive Presence where
  | online
  | offline
  | unavailable
  deriving DecidableEq, Inhabited

namespace Presence

def name : Presence → String
  | online => "online"
  | offline => "offline"
  | unavailable => "unavailable"

def decode : Decoder Presence :=
  Decode.choice [("online", online), ("offline", offline), ("unavailable", unavailable)]

def encode (p : Presence) : Value := .string p.name

end Presence

namespace Cursor

/-- One request for the events since a cursor. -/
structure Request where
  since : Option String
  filter : Option String
  /-- How long the homeserver may hold the request. -/
  timeoutMs : Nat
  fullState : Bool := false
  presence : Option Presence := none
  deriving DecidableEq, Inhabited

namespace Request

/-- How long the client waits for an answer: a first answer holds the whole
account and may take ten minutes, any other one forty seconds. -/
def patienceMs (r : Request) : Nat := if r.since.isSome then 40000 else 600000

/-- The query of the request, in order; what has no value is left out. -/
def query (r : Request) : List (String × String) :=
  [("full_state", if r.fullState then "true" else "false"), ("timeout", toString r.timeoutMs)]
  ++ (r.since.map ("since", ·)).toList
  ++ (r.filter.map ("filter", ·)).toList
  ++ (r.presence.map ("presence", ·.name)).toList

end Request

end Cursor

end RoomSync
