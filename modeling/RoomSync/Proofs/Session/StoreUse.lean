/-
  RoomSync.Proofs.Session.StoreUse
  ────────────────────────────────
  **STORAGE, AS A SESSION SEES IT.**

  A method of storage either works, or is out of order and changes nothing:

      write_done, write_failed  — a write
      read_done, read_failed    — a read

  Both are stated for a world, and carried over to a session.
-/
import RoomSync.Session.World
import RoomSync.Proofs.Outcomes

namespace RoomSync

variable {α : Type}

/-! ## §1. In a world. -/

namespace World

/-- The document in storage. -/
def document (w : World) : Document := w.store.document

/-- Whether and how a method of storage fails. -/
def fault (w : World) (m : StoreMethod) : Option SyncError := w.store.faults m

/-- The world after a write. -/
def written (x : Write) (w : World) : World :=
  { w with store := { w.store with document := w.store.document.apply x } }

variable {w : World}

theorem write_failed {x : Write} {e : SyncError} (h : w.fault (.ofWrite x) = some e) :
    onStore (Store.write x) w = ⟨w, [], .error e⟩ := by
  have h : w.store.faults (.ofWrite x) = some e := h
  unfold onStore Store.write
  rw [h]

theorem write_done {x : Write} (h : w.fault (.ofWrite x) = none) :
    onStore (Store.write x) w = ⟨w.written x, [.write x], .ok ()⟩ := by
  have h : w.store.faults (.ofWrite x) = none := h
  unfold onStore Store.write
  rw [h]
  rfl

theorem read_failed {m : StoreMethod} {answer : Document → α} {e : SyncError}
    (h : w.fault m = some e) : onStore (Store.guard m answer) w = ⟨w, [], .error e⟩ := by
  have h : w.store.faults m = some e := h
  unfold onStore Store.guard
  rw [h]

theorem read_done {m : StoreMethod} {answer : Document → α} (h : w.fault m = none) :
    onStore (Store.guard m answer) w = ⟨w, [], .ok (answer w.document)⟩ := by
  have h : w.store.faults m = none := h
  unfold onStore Store.guard
  rw [h]
  rfl

end World

/-! ## §2. In a session. -/

namespace Session

variable {ℓ : Type}

/-- The document that a session has in storage. -/
def document (s : Session ℓ) : Document := s.world.document

/-- Whether and how a method of storage fails. -/
def fault (s : Session ℓ) (m : StoreMethod) : Option SyncError := s.world.fault m

/-- The session after a write. -/
def written (x : Write) (s : Session ℓ) : Session ℓ := { s with world := s.world.written x }

/-- The session at another time, when other methods of storage are out of
order and the homeserver has other replies. -/
def later (faults : StoreMethod → Option SyncError) (server : Homeserver) (s : Session ℓ) :
    Session ℓ :=
  { s with world := { s.world with store := { s.world.store with faults }, server } }

variable {s : Session ℓ}

/-- What an operation does to the world, it does in a session. -/
theorem onWorld_eq {m : Action World α} {w : World} {fx : List Effect}
    {answer : Except SyncError α} (h : m s.world = ⟨w, fx, answer⟩) :
    onWorld m s = ⟨{ s with world := w }, fx, answer⟩ := by
  unfold onWorld
  rw [h]

theorem write_failed {x : Write} {e : SyncError} (h : s.fault (.ofWrite x) = some e) :
    onWorld (World.onStore (Store.write x)) s = ⟨s, [], .error e⟩ :=
  onWorld_eq (World.write_failed h)

theorem write_done {x : Write} (h : s.fault (.ofWrite x) = none) :
    onWorld (World.onStore (Store.write x)) s = ⟨s.written x, [.write x], .ok ()⟩ :=
  onWorld_eq (World.write_done h)

theorem read_failed {m : StoreMethod} {answer : Document → α} {e : SyncError}
    (h : s.fault m = some e) :
    onWorld (World.onStore (Store.guard m answer)) s = ⟨s, [], .error e⟩ :=
  onWorld_eq (World.read_failed h)

theorem read_done {m : StoreMethod} {answer : Document → α} (h : s.fault m = none) :
    onWorld (World.onStore (Store.guard m answer)) s = ⟨s, [], .ok (answer s.document)⟩ :=
  onWorld_eq (World.read_done h)

end Session

end RoomSync
