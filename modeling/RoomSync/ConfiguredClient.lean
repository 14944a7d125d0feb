/-
  RoomSync.ConfiguredClient
  ─────────────────────────
  **A CLIENT OF EITHER KIND.**

  A configuration decides between the two ways of following an account, and
  the client does what its kind does.  Storage begins with the document of
  the storage file; what a client writes is among the effects of its calls.
-/
import RoomSync.Client
import RoomSync.Configuration.Basic
import RoomSync.Storage.FileStore
import RoomSync.Web.Address

namespace RoomSync

/-- A client that follows an account in the configured way. -/
inductive ConfiguredClient where
  | cursor (client : Client Cursor.Loop Cursor.Batch)
  | windowed (client : Client Window.Engine Window.Batch)

namespace ConfiguredClient

/-! ## §1. From a configuration. -/

/-- The user that a configuration names. -/
def userOf (c : Configuration) : Except SyncError UserId :=
  match UserId.parse c.userId with
  | .ok user => .ok user
  | .error e => .error (.config ("invalid user_id " ++ c.userId ++ ": " ++ e.message))

/-- The storage that a configuration names. -/
def storeOf (c : Configuration) (files : FileSystem) : Except SyncError Store :=
  match c.storagePath with
  | none => .ok {}
  | some path =>
      match FileStore.openAt files (Path.ofString path) with
      | .ok store => .ok { document := store.document }
      | .error e => .error e.toSyncError

/-- The client of a configuration that can work: its user, the address of
its homeserver and its storage are looked at in this order. -/
def create (c : Configuration) (files : FileSystem) : Except SyncError ConfiguredClient := do
  if let some fault := c.fault? then throw fault.toSyncError
  let user ← userOf c
  let _ ← Web.Address.ofHomeserver c.homeserver
  let world : World := { classifier := { user }, store := ← storeOf c files }
  return match c.mode with
    | .cursor =>
        .cursor { session := ⟨{ options := c.cursorOptions }, world⟩, backoff := c.backoff }
    | .windowed =>
        .windowed { session := ⟨.create c.windowOptions, world⟩, backoff := c.backoff }

/-! ## §2. What a client is asked. -/

def mode : ConfiguredClient → Mode
  | cursor _ => .cursor
  | windowed _ => .windowed

def isSyncing : ConfiguredClient → Bool
  | cursor c => c.isSyncing
  | windowed c => c.isSyncing

def world : ConfiguredClient → World
  | cursor c => c.session.world
  | windowed c => c.session.world

/-- Change the world of a client. -/
def onWorld (f : World → World) : ConfiguredClient → ConfiguredClient
  | cursor c => cursor { c with session.world := f c.session.world }
  | windowed c => windowed { c with session.world := f c.session.world }

/-- The current events of a room. -/
def roomState (c : ConfiguredClient) (room : RoomId) : List RoomEvent :=
  StateCache.events c.world.classifier.cache room

/-! ## §3. Calls. -/

def start (s : Services) : ConfiguredClient → Outcome ConfiguredClient (Except SyncError Unit)
  | cursor c =>
      let o := c.start (Cursor.strategy s)
      ⟨cursor o.state, o.effects, o.answer⟩
  | windowed c =>
      let o := c.start (Window.strategy s)
      ⟨windowed o.state, o.effects, o.answer⟩

def requestStop : ConfiguredClient → ConfiguredClient
  | cursor c => cursor c.requestStop
  | windowed c => windowed c.requestStop

def stopAndWait (s : Services) : ConfiguredClient → Outcome ConfiguredClient (Option Summary)
  | cursor c =>
      let o := c.stopAndWait (Cursor.strategy s)
      ⟨cursor o.state, o.effects, o.answer⟩
  | windowed c =>
      let o := c.stopAndWait (Window.strategy s)
      ⟨windowed o.state, o.effects, o.answer⟩

end ConfiguredClient

end RoomSync
