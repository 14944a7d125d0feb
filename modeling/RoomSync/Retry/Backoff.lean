/-
  RoomSync.Retry.Backoff
  ──────────────────────
  **HOW LONG TO WAIT AFTER A FAILURE.**

  A delay is drawn from a band, whatever happened before.  A band given
  upside down is turned over.
-/

namespace RoomSync

/-- A band of delays in milliseconds. -/
structure Backoff where
  least : Nat
  most : Nat
  ordered : least ≤ most
  deriving DecidableEq

namespace Backoff

/-- The band between two delays, in either order. -/
def between (a b : Nat) : Backoff := ⟨min a b, max a b, by omega⟩

/-- The band unless another is set. -/
def standard : Backoff := between 5000 15000

instance : Inhabited Backoff := ⟨standard⟩

/-- Whether a delay lies in the band, ends included. -/
def contains (b : Backoff) (delay : Nat) : Bool :=
  decide (b.least ≤ delay) && decide (delay ≤ b.most)

/-- The delay for a random number. -/
def delay (b : Backoff) (random : Nat) : Nat := b.least + random % (b.most - b.least + 1)

/-- Every delay lies in the band. -/
theorem contains_delay (b : Backoff) (random : Nat) : b.contains (b.delay random) = true := by
  have hlt : random % (b.most - b.least + 1) < b.most - b.least + 1 :=
    Nat.mod_lt random (Nat.succ_pos _)
  have hord := b.ordered
  rw [contains, delay, Bool.and_eq_true]
  exact ⟨decide_eq_true (by omega), decide_eq_true (by omega)⟩

end Backoff

end RoomSync
