/-
  RoomSync.Retry.Task
  ───────────────────
  **POLLING UNTIL TOLD TO STOP.**

  A sync task polls, processes what it got, and polls again.  A failure is
  counted and followed by a rest, and then by the next poll; it never ends
  the task.  The stop signal is looked at before each poll, when a poll
  brought a batch (which is then dropped), after a failure (which is then
  not counted), and by the rest.

      ready ──▶ polling ──▶ processing ──▶ ready
        ▲          │             │
        └──────────┴── resting ◀─┘            every phase may end in `finished`
-/
import RoomSync.Error

namespace RoomSync

/-- What a task has done. -/
structure Summary where
  /-- Batches that were processed. -/
  batches : Nat := 0
  /-- Failures that were retried. -/
  failures : Nat := 0
  deriving DecidableEq, Inhabited

/-- What a task is about to do, or waits for. -/
inductive Phase (β : Type) where
  | ready
  | polling
  | processing (batch : β)
  | resting
  | finished
  deriving DecidableEq

structure Task (β : Type) where
  phase : Phase β := .ready
  summary : Summary := {}
  deriving DecidableEq

namespace Task

variable {σ β : Type}

def isFinished (t : Task β) : Bool :=
  match t.phase with
  | .finished => true
  | _ => false

/-! ## §1. One phase. -/

/-- Before a poll. -/
def begin (t : Task β) (stopped : Bool) : Task β :=
  { t with phase := if stopped then .finished else .polling }

/-- After a failure. -/
def fail (t : Task β) (stopped : Bool) : Task β :=
  if stopped then { t with phase := .finished }
  else
    { phase := .resting
      summary := { t.summary with failures := t.summary.failures + 1 } }

/-- A poll came back. -/
def polled (t : Task β) (stopped : Bool) (reply : Except SyncError β) : Task β :=
  match reply with
  | .ok batch => { t with phase := if stopped then .finished else .processing batch }
  | .error _ => t.fail stopped

/-- A batch was processed. -/
def processed (t : Task β) (stopped : Bool) (result : Except SyncError Unit) : Task β :=
  match result with
  | .ok () =>
      { phase := .ready, summary := { t.summary with batches := t.summary.batches + 1 } }
  | .error _ => t.fail stopped

/-- A rest is over. -/
def rested (t : Task β) (whole : Bool) : Task β :=
  { t with phase := if whole then .ready else .finished }

/-! ## §2. Whole runs. -/

/-- What a task runs in: polls and batches take it on, time passes in a
rest, and it tells whether a stop is requested. -/
structure Surroundings (σ β : Type) where
  poll : σ → σ × Except SyncError β
  process : β → σ → σ × Except SyncError Unit
  /-- A rest; the answer is whether it was whole. -/
  rest : σ → σ × Bool
  stopped : σ → Bool

/-- What a step of a task did. -/
inductive Deed (β : Type) where
  | polled (reply : Except SyncError β)
  | processed (batch : β) (result : Except SyncError Unit)
  | rested (whole : Bool)

/-- One step of a task in its surroundings. -/
def step (env : Surroundings σ β) (t : Task β) (s : σ) : Task β × σ × List (Deed β) :=
  match t.phase with
  | .finished => (t, s, [])
  | .ready => (t.begin (env.stopped s), s, [])
  | .polling =>
      let (s, reply) := env.poll s
      (t.polled (env.stopped s) reply, s, [.polled reply])
  | .processing batch =>
      let (s, result) := env.process batch s
      (t.processed (env.stopped s) result, s, [.processed batch result])
  | .resting =>
      let (s, whole) := env.rest s
      (t.rested whole, s, [.rested whole])

/-- At most `fuel` steps, ending when the task has finished. -/
def run (env : Surroundings σ β) : Nat → Task β → σ → Task β × σ × List (Deed β)
  | 0, t, s => (t, s, [])
  | fuel + 1, t, s =>
      if t.isFinished then (t, s, [])
      else
        let (t, s, deeds) := t.step env s
        let (t, s, more) := run env fuel t s
        (t, s, deeds ++ more)

end Task

end RoomSync
