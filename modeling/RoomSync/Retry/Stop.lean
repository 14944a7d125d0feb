/-
  RoomSync.Retry.Stop
  ───────────────────
  **ASKING A TASK TO STOP.**

  A request stands until it is taken back.  A sleeper wakes at the first
  request that comes while it sleeps, even if it is taken back at once.
-/

namespace RoomSync

/-- What someone else does with the stop signal. -/
inductive StopChange where
  | request
  | reset
  deriving DecidableEq

structure StopSignal where
  requested : Bool := false
  deriving DecidableEq, Inhabited

namespace StopSignal

def change (s : StopSignal) : StopChange → StopSignal
  | .request => { s with requested := true }
  | .reset => { s with requested := false }

def request (s : StopSignal) : StopSignal := s.change .request

def reset (s : StopSignal) : StopSignal := s.change .reset

/-- Sleep while others do this; the answer is whether the sleep was whole,
which no stop request, earlier or during it, allows. -/
def sleep (s : StopSignal) (meanwhile : List StopChange) : StopSignal × Bool :=
  (meanwhile.foldl change s, !s.requested && !meanwhile.contains .request)

end StopSignal

end RoomSync
