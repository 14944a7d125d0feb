/-
  RoomSync.Cursor.Loop
  ────────────────────
  **FOLLOWING AN ACCOUNT BY CURSOR.**

  The session asks for what happened since its cursor, under a registered
  filter, and classifies the answer.  A cursor belongs to the filter it was
  given under, so another filter starts without one.  Whether the new
  cursor is stored before the batch is classified or after it decides if a
  crash loses signals or repeats them.
-/
import RoomSync.Session.World

namespace RoomSync.Cursor

open Json

/-! ## §1. Sessions. -/

structure Options where
  filter : Option Value := none
  presence : Option Presence := none
  timeoutMs : Nat := 30000
  /-- Store the cursor after the batch is classified, not before. -/
  persistAfter : Bool := false
  deriving DecidableEq, Inhabited

structure Loop where
  options : Options := {}
  cursor : Option String := none
  filterId : Option String := none
  deriving DecidableEq, Inhabited

/-! ## §2. The filter. -/

/-- The id of the filter to ask with.  A registered filter that is equal to
the desired one is used again; any other change of filter forgets the
cursor. -/
def resolveFilter (user : UserId) (desired : Option Value) : Action World (Option String) := do
  let stored ← World.onStore Store.getFilter
  match desired with
  | none =>
      if stored.isSome then
        World.onStore (Store.setCursor none)
        World.onStore (Store.setFilter none)
      return none
  | some filter =>
      match stored.filter (·.filter = filter) with
      | some known => return some known.id
      | none =>
          let id ← World.onServer (Homeserver.createFilter user filter)
          World.onStore (Store.setCursor none)
          World.onStore (Store.setFilter (some ⟨id, filter⟩))
          return some id

/-! ## §3. Classifying a batch. -/

/-- What the crypto engine learns from a batch. -/
def Batch.cryptoUpdate (b : Batch) : CryptoUpdate where
  toDevice := b.toDevice
  oneTimeKeyCounts := b.oneTimeKeyCounts
  unusedFallbackKeyTypes := b.unusedFallbackKeyTypes
  changedUsers := b.deviceLists.changed
  leftUsers := b.deviceLists.left

/-- The account data of a batch: the account's own, then that of the rooms
that were left, then that of the rooms the user is in. -/
def Batch.accountSignals (b : Batch) : List Signal :=
  let ofRooms (t : Table RoomId RoomUpdate) : List Signal :=
    t.entries.flatMap fun (room, u) => u.accountData.map fun v => .room room (.accountData v)
  b.accountData.map .accountData ++ ofRooms b.left ++ ofRooms b.joined

/-- Ignore an answer. -/
def discard (o : Outcome σ α) : Outcome σ Unit := ⟨o.state, o.effects, ()⟩

variable (s : Services)

/-- A room the user is in: the join, the state, the timeline. -/
def classifyJoined (entry : RoomId × RoomUpdate) (c : Classifier) : Outcome Classifier Unit :=
  let (room, u) := entry
  let first := Classifier.join room c
  let others := Classifier.timeline s room u.timeline.events (first.state.applyState room u.state)
  ⟨others.state, first.effects ++ others.effects, ()⟩

/-- The rooms of a batch: those left, those invited to, those the user is
in, each in the order of their ids. -/
def classifyRooms (b : Batch) (c : Classifier) : Outcome Classifier Unit :=
  let left := Outcome.forEach
    (fun (room, u) c => discard (Classifier.leave s room u.timeline.events c)) b.left.entries c
  let invited := Outcome.forEach
    (fun (room, stripped) c => discard (Classifier.invite s room stripped c))
    b.invited.entries left.state
  let joined := Outcome.forEach (classifyJoined s) b.joined.entries invited.state
  ⟨joined.state, left.effects ++ invited.effects ++ joined.effects, ()⟩

/-- All of a batch but the crypto engine's part. -/
def announce (b : Batch) (c : Classifier) : Outcome Classifier Unit :=
  let rooms := classifyRooms s b c
  ⟨rooms.state, b.accountSignals.map .signal ++ rooms.effects, ()⟩

/-- Hand the crypto engine its part; if it fails, nothing is announced. -/
def informCrypto (b : Batch) : Action World Unit := fun w =>
  match s.crypto with
  | none => ⟨w, [], .ok ()⟩
  | some engine => ⟨w, [.call (.updateCrypto b.cryptoUpdate)], engine.update b.cryptoUpdate⟩

/-- Classify a batch. -/
def classify (b : Batch) : Action World Unit := do
  informCrypto s b
  World.classify (announce s b)

/-! ## §4. The strategy. -/

def prepare : Action (Session Loop) Unit := do
  let loop ← Session.own
  let user ← Session.onWorld fun w => ⟨w, [], .ok w.classifier.user⟩
  let filterId ← Session.onWorld (resolveFilter user loop.options.filter)
  Session.update ({ · with filterId })
  let cursor ← Session.onWorld (World.onStore Store.getCursor)
  Session.update ({ · with cursor })

/-- The request of the next poll. -/
def Loop.request (l : Loop) : Request where
  since := l.cursor
  filter := l.filterId
  timeoutMs := l.options.timeoutMs
  presence := l.options.presence

/-- Store a cursor, then move to it. -/
def advance (cursor : String) : Action (Session Loop) Unit := do
  Session.onWorld (World.onStore (Store.setCursor (some cursor)))
  Session.update ({ · with cursor := some cursor })

/-- Take in a batch.  One without a cursor is only classified. -/
def process (b : Batch) : Action (Session Loop) Unit := do
  let loop ← Session.own
  if b.nextBatch = "" then Session.onWorld (classify s b)
  else if loop.options.persistAfter then
    Session.onWorld (classify s b)
    advance b.nextBatch
  else
    advance b.nextBatch
    Session.onWorld (classify s b)

def strategy : Strategy Loop Batch where
  name := "cursor"
  prepare := prepare
  request l _ := .sync l.request
  reply? := Homeserver.nextCursor?
  process := process s

end RoomSync.Cursor
