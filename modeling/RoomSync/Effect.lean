/-
  RoomSync.Effect
  ───────────────
  **WHAT AN OPERATION DOES OUTSIDE.**

  An operation of the client is a function from its state to an `Outcome`:
  the new state, what it did outside in order (`Effect`), and its answer.
  The order in which signals, requests and writes happen is thereby part of
  the value, and can be stated.
-/
import RoomSync.Signal.Basic
import RoomSync.Cursor.Request
import RoomSync.Window.Message

namespace RoomSync

open Json

/-! ## §1. Effects. -/

/-- What a crypto engine has to learn from a batch. -/
structure CryptoUpdate where
  toDevice : List Value := []
  oneTimeKeyCounts : Table String Nat := .empty
  unusedFallbackKeyTypes : List String := []
  changedUsers : List UserId := []
  leftUsers : List UserId := []
  deriving DecidableEq, Inhabited

/-- A filter as the homeserver knows it. -/
structure RegisteredFilter where
  id : String
  filter : Value
  deriving DecidableEq, Inhabited

/-- A call to the homeserver or to the crypto engine. -/
inductive Call where
  | sync (request : Cursor.Request)
  | window (pos : Option String) (request : Window.Request)
  | createFilter (user : UserId) (filter : Value)
  | decrypt (room : RoomId) (event : RoomEvent)
  | updateCrypto (update : CryptoUpdate)
  deriving DecidableEq

/-- A write to storage. -/
inductive Write where
  | cursor (cursor : Option String)
  | filter (filter : Option RegisteredFilter)
  | value (key text : String)
  deriving DecidableEq

inductive Effect where
  | signal (s : Signal)
  | call (c : Call)
  | write (w : Write)
  deriving DecidableEq

namespace Effect

/-- The signals among some effects, in order. -/
def signals (fx : List Effect) : List Signal :=
  fx.filterMap fun
    | signal s => some s
    | _ => none

/-- The calls among some effects, in order. -/
def calls (fx : List Effect) : List Call :=
  fx.filterMap fun
    | call c => some c
    | _ => none

/-- The writes among some effects, in order. -/
def writes (fx : List Effect) : List Write :=
  fx.filterMap fun
    | write w => some w
    | _ => none

end Effect

/-! ## §2. Outcomes. -/

/-- The new state, what was done outside in order, and the answer. -/
structure Outcome (σ α : Type) where
  state : σ
  effects : List Effect
  answer : α

/-- Run an operation for every element in turn. -/
def Outcome.forEach {α σ : Type} (f : α → σ → Outcome σ Unit) : List α → σ → Outcome σ Unit
  | [], s => ⟨s, [], ()⟩
  | a :: rest, s =>
      let first := f a s
      let others := forEach f rest first.state
      ⟨others.state, first.effects ++ others.effects, ()⟩

/-! ## §3. Operations that can fail. -/

/-- An operation on a state that may fail.  What was done before a failure
stays done. -/
def Action (σ α : Type) := σ → Outcome σ (Except SyncError α)

namespace Action

variable {σ τ α β : Type}

def pure (a : α) : Action σ α := fun s => ⟨s, [], .ok a⟩

def throw (e : SyncError) : Action σ α := fun s => ⟨s, [], .error e⟩

/-- Go on with the answer, unless there is none. -/
def bind (m : Action σ α) (f : α → Action σ β) : Action σ β := fun s =>
  match m s with
  | ⟨s', fx, .ok a⟩ => let o := f a s'; ⟨o.state, fx ++ o.effects, o.answer⟩
  | ⟨s', fx, .error e⟩ => ⟨s', fx, .error e⟩

instance : Monad (Action σ) where
  pure := pure
  bind := bind

/-- The state. -/
def get : Action σ σ := fun s => ⟨s, [], .ok s⟩

/-- Change the state. -/
def modify (f : σ → σ) : Action σ Unit := fun s => ⟨f s, [], .ok ()⟩

/-- Do something outside. -/
def perform (fx : List Effect) : Action σ Unit := fun s => ⟨s, fx, .ok ()⟩

/-- An answer that may be an error. -/
def ofExcept : Except SyncError α → Action σ α
  | .ok a => pure a
  | .error e => throw e

/-- An operation on one part of the state. -/
def onPart (view : σ → τ) (put : τ → σ → σ) (f : τ → Outcome τ α) : Action σ α := fun s =>
  let o := f (view s)
  ⟨put o.state s, o.effects, .ok o.answer⟩

end Action

end RoomSync
