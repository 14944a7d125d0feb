/-
  RoomSync.Recency
  ────────────────
  **REMEMBERING THE MOST RECENT KEYS.**

  A memory of bounded size: to note a key makes it the most recent one, and
  once there are too many, the least recent one is forgotten.
-/

namespace RoomSync

/-- Keys, the most recent first, at most `capacity` of them. -/
structure Recency (κ : Type) (capacity : Nat) where
  keys : List κ := []
  deriving DecidableEq

namespace Recency

variable {κ : Type} [DecidableEq κ] {capacity : Nat}

instance : Inhabited (Recency κ capacity) := ⟨{}⟩

def contains (r : Recency κ capacity) (k : κ) : Bool := r.keys.contains k

/-- Note a key; the answer is whether it was remembered. -/
def note (r : Recency κ capacity) (k : κ) : Recency κ capacity × Bool :=
  if r.contains k then (⟨k :: r.keys.erase k⟩, true)
  else (⟨(k :: r.keys).take capacity⟩, false)

end Recency

end RoomSync
