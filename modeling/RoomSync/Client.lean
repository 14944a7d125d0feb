/-
  RoomSync.Client
  ───────────────
  **A CLIENT AND ITS SYNC TASK.**

  A client owns one session and at most one task that follows the account
  with it.  The steps of the task and the calls of the client's owner
  interleave; a call runs to its end between two steps, except that
  `stopAndWait` lets the task end first.
-/
import RoomSync.Retry.Backoff
import RoomSync.Retry.Stop
import RoomSync.Retry.Task
import RoomSync.Session.World

namespace RoomSync

variable {ℓ β : Type}

structure Client (ℓ β : Type) where
  session : Session ℓ
  backoff : Backoff := .standard
  stop : StopSignal := {}
  /-- The task started last, until someone waited for its end. -/
  task : Option (Task β) := none

namespace Client

variable (st : Strategy ℓ β)

/-- Whether a task is unfinished. -/
def isSyncing (c : Client ℓ β) : Bool := c.task.any (!·.isFinished)

/-- Whether the task waits for a reply that the homeserver has not given. -/
def isWaiting (c : Client ℓ β) : Bool :=
  match c.task with
  | some ⟨.polling, _⟩ => (st.receive? c.session).isNone
  | _ => false

/-- Whether the task rests after a failure. -/
def isResting (c : Client ℓ β) : Bool :=
  match c.task with
  | some ⟨.resting, _⟩ => true
  | _ => false

/-! ## §1. Steps of the task. -/

/-- One step of the task, if it can take one; a rest is only ended by a stop
request here. -/
def step (c : Client ℓ β) : Outcome (Client ℓ β) Bool :=
  let stopped := c.stop.requested
  match c.task with
  | none => ⟨c, [], false⟩
  | some t =>
      match t.phase with
      | .finished => ⟨c, [], false⟩
      | .ready =>
          ⟨{ c with task := t.begin stopped }, if stopped then [] else st.send c.session, true⟩
      | .polling =>
          match st.receive? c.session with
          | none => ⟨c, [], false⟩
          | some (reply, session) =>
              ⟨{ c with session, task := t.polled stopped reply }, [], true⟩
      | .processing batch =>
          let o := st.process batch c.session
          ⟨{ c with session := o.state, task := t.processed stopped o.answer }, o.effects, true⟩
      | .resting =>
          if stopped then ⟨{ c with task := t.rested false }, [], true⟩ else ⟨c, [], false⟩

/-- The time of a rest passes. -/
def wake (c : Client ℓ β) : Client ℓ β :=
  if c.isResting then { c with task := c.task.map (·.rested (!c.stop.requested)) } else c

/-- Steps of the task until it can take none, at most `fuel`. -/
def settle : Nat → Client ℓ β → Outcome (Client ℓ β) Unit
  | 0, c => ⟨c, [], ()⟩
  | fuel + 1, c =>
      let o := c.step st
      if o.answer then
        let others := settle fuel o.state
        ⟨others.state, o.effects ++ others.effects, ()⟩
      else ⟨c, [], ()⟩

/-- The polls among some effects. -/
def pollCount (fx : List Effect) : Nat :=
  (Effect.calls fx).countP fun
    | .sync _ | .window _ _ => true
    | _ => false

/-- Let the task run, at most `fuel` steps.  A rest without length passes at
once; any other passes while `patient` of the number of polls.  The answer
is that number. -/
def run (patient : Nat → Bool) : Nat → Nat → Client ℓ β → Outcome (Client ℓ β) Nat
  | 0, polls, c => ⟨c, [], polls⟩
  | fuel + 1, polls, c =>
      let o := c.step st
      if o.answer then
        let others := run patient fuel (polls + pollCount o.effects) o.state
        ⟨others.state, o.effects ++ others.effects, others.answer⟩
      else if c.isResting && (c.backoff.most == 0 || patient polls) then
        run patient fuel polls c.wake
      else ⟨c, [], polls⟩

/-! ## §2. Calls of the owner. -/

/-- Start a task, unless one is unfinished.  A session that cannot be
prepared leaves the client as startable as before. -/
def start (c : Client ℓ β) : Outcome (Client ℓ β) (Except SyncError Unit) :=
  if c.isSyncing then ⟨c, [], .error (.invalidState "sync is already running")⟩
  else
    let o := st.prepare c.session
    let c := { c with session := o.state, stop := c.stop.reset }
    match o.answer with
    | .ok () => ⟨{ c with task := some {} }, o.effects, .ok ()⟩
    | .error e => ⟨c, o.effects, .error e⟩

/-- Ask the task to stop. -/
def requestStop (c : Client ℓ β) : Client ℓ β := { c with stop := c.stop.request }

/-- The steps a task can still take once a stop is requested. -/
def lastSteps : Nat := 4

/-- Ask the task to stop and wait for its end; the answer is what it has
done, if there is a task nobody waited for yet. -/
def stopAndWait (c : Client ℓ β) : Outcome (Client ℓ β) (Option Summary) :=
  let o := settle st lastSteps c.requestStop
  ⟨{ o.state with task := none }, o.effects, o.state.task.map (·.summary)⟩

end Client

end RoomSync
