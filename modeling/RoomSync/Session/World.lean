/-
  RoomSync.Session.World
  ──────────────────────
  **WHAT A SESSION TALKS TO.**

  A session works on a world: the classifier with what it knows, storage,
  and the homeserver, seen as the replies it is going to give.  How a
  session polls and processes is a `Strategy`.
-/
import RoomSync.Classifier.Basic
import RoomSync.Cursor.Batch
import RoomSync.Storage.Store

namespace RoomSync

open Json

/-! ## §1. The homeserver. -/

/-- The replies that are still to come, by kind of request. -/
structure Homeserver where
  cursorReplies : List (Except SyncError Cursor.Batch) := []
  windowReplies : List (Except SyncError Window.Batch) := []
  filterReplies : List (Except SyncError String) := []
  /-- How a request fails that is given no reply. -/
  silence : SyncError := .transport "no reply"

namespace Homeserver

def nextCursor? (h : Homeserver) : Option (Except SyncError Cursor.Batch × Homeserver) :=
  match h.cursorReplies with
  | [] => none
  | r :: rest => some (r, { h with cursorReplies := rest })

def nextWindow? (h : Homeserver) : Option (Except SyncError Window.Batch × Homeserver) :=
  match h.windowReplies with
  | [] => none
  | r :: rest => some (r, { h with windowReplies := rest })

/-- Register a filter; the answer is its id. -/
def createFilter (user : UserId) (filter : Value) : Action Homeserver String := fun h =>
  match h.filterReplies with
  | [] => ⟨h, [.call (.createFilter user filter)], .error h.silence⟩
  | r :: rest => ⟨{ h with filterReplies := rest }, [.call (.createFilter user filter)], r⟩

end Homeserver

/-! ## §2. Worlds. -/

structure World where
  classifier : Classifier
  store : Store := {}
  server : Homeserver := {}

namespace World

/-- Use storage. -/
def onStore (m : Action Store α) : Action World α := fun w =>
  let o := m w.store
  ⟨{ w with store := o.state }, o.effects, o.answer⟩

/-- Use the homeserver. -/
def onServer (m : Action Homeserver α) : Action World α := fun w =>
  let o := m w.server
  ⟨{ w with server := o.state }, o.effects, o.answer⟩

/-- Classify something. -/
def classify (f : Classifier → Outcome Classifier α) : Action World α := fun w =>
  let o := f w.classifier
  ⟨{ w with classifier := o.state }, o.effects, .ok o.answer⟩

end World

/-! ## §3. Sessions. -/

/-- The state of a session of one kind, in its world. -/
structure Session (ℓ : Type) where
  loop : ℓ
  world : World

namespace Session

/-- Work on the world. -/
def onWorld (m : Action World α) : Action (Session ℓ) α := fun s =>
  let o := m s.world
  ⟨{ s with world := o.state }, o.effects, o.answer⟩

/-- Change the session's own state. -/
def update (f : ℓ → ℓ) : Action (Session ℓ) Unit :=
  Action.modify fun s => { s with loop := f s.loop }

/-- The session's own state. -/
def own : Action (Session ℓ) ℓ := fun s => ⟨s, [], .ok s.loop⟩

end Session

/-- One way of following an account. -/
structure Strategy (ℓ β : Type) where
  name : String
  /-- Set up before the first poll. -/
  prepare : Action (Session ℓ) Unit
  /-- The call that a poll makes. -/
  request : ℓ → UserId → Call
  /-- The reply of the homeserver to a poll, once there is one. -/
  reply? : Homeserver → Option (Except SyncError β × Homeserver)
  /-- Take in a batch. -/
  process : β → Action (Session ℓ) Unit

namespace Strategy

variable {ℓ β : Type} (st : Strategy ℓ β)

/-- Send the request of a poll. -/
def send (s : Session ℓ) : List Effect :=
  [.call (st.request s.loop s.world.classifier.user)]

/-- Take the reply to a poll, once there is one. -/
def receive? (s : Session ℓ) : Option (Except SyncError β × Session ℓ) :=
  (st.reply? s.world.server).map fun (r, server) =>
    (r, { s with world := { s.world with server } })

/-- Poll; a homeserver without a reply fails. -/
def poll : Action (Session ℓ) β := fun s =>
  match st.receive? s with
  | some (r, s') => ⟨s', st.send s, r⟩
  | none => ⟨s, st.send s, .error s.world.server.silence⟩

/-- Poll and take in what came. -/
def cycle : Action (Session ℓ) Unit := do
  st.process (← st.poll)

end Strategy

end RoomSync
