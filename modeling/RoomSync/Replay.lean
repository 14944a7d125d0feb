/-
  RoomSync.Replay
  ───────────────
  **FOLLOWING AN ACCOUNT FROM RECORDED ANSWERS.**

  A client is given a homeserver whose answers were recorded, one text for
  each poll.  It runs until it has taken in all of them; then it is stopped.
  What comes of it are the signals, in their order, and the document that
  storage would hold.
-/
import RoomSync.ConfiguredClient

namespace RoomSync

open Json

/-! ## §1. Recorded answers. -/

/-- The answer that a text records. -/
def recorded (decode : Decoder β) (text : String) : Except SyncError β :=
  match (read? text).map decode with
  | some (.ok batch) => .ok batch
  | _ => .error (.badResponse "undecodable")

/-- The homeserver that gives these answers, to a poll of either kind; it
registers one filter. -/
def Homeserver.ofTexts (texts : List String) : Homeserver where
  cursorReplies := texts.map (recorded Cursor.Batch.decode)
  windowReplies := texts.map (recorded Window.Batch.decode)
  filterReplies := [.ok "0"]

/-! ## §2. Replays. -/

/-- What came of a replay. -/
structure Replay where
  signals : List Signal
  summary : Option Summary
  document : Document

namespace ConfiguredClient

/-- Let the task run, at most `fuel` steps; no rest is waited for. -/
def run (s : Services) (fuel : Nat) : ConfiguredClient → Outcome ConfiguredClient Nat
  | cursor c =>
      let o := c.run (Cursor.strategy s) (fun _ => true) fuel 0
      ⟨cursor o.state, o.effects, o.answer⟩
  | windowed c =>
      let o := c.run (Window.strategy s) (fun _ => true) fuel 0
      ⟨windowed o.state, o.effects, o.answer⟩

/-- The steps a task takes for one answer, a rest included. -/
def stepsPerAnswer : Nat := 4

/-- Follow an account through recorded answers. -/
def replay (texts : List String) (c : ConfiguredClient) : Except SyncError Replay :=
  let services : Services := {}
  let begun := (c.onWorld ({ · with server := .ofTexts texts })).start services
  match begun.answer with
  | .error e => .error e
  | .ok () =>
      let followed := begun.state.run services (stepsPerAnswer * (texts.length + 1))
      let ended := followed.state.stopAndWait services
      .ok {
        signals := Effect.signals (begun.effects ++ followed.effects ++ ended.effects)
        summary := ended.answer
        document := ended.state.world.store.document }

end ConfiguredClient

end RoomSync
