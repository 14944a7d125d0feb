/-
  RoomSync.Proofs.Window.Retries
  ──────────────────────────────
  **A BATCH THAT CANNOT BE SAVED, AND ITS RETRY.**

  A batch fails exactly if its lists cannot be saved.  The position and
  storage then stay, so that the homeserver is asked again from where the
  session was.  The lists do not stay: they are changed before they are saved,
  and are left as a batch that is saved leaves them.  A retry therefore starts
  from lists that have the operations in them already:

      fault_of_failed    — only storage can make a batch fail
      failure_and_retry  — when a failure and its retry do no harm

  Operations are changes, not states, so a second run moves rooms.
-/
import RoomSync.Proofs.Window.Batches

namespace RoomSync.Window

open Engine
open Session (later)

/-! ## §1. Failures. -/

/-- Only storage can make a batch fail. -/
theorem fault_of_failed (s : Services) (b : Batch) (session : Session Engine) {e : SyncError}
    (hfailed : (process s b session).answer = .error e) :
    session.fault .storeValue = some e := by
  cases hfault : session.fault .storeValue with
  | none =>
      rw [(process_done s b session hfault).2] at hfailed
      cases hfailed
  | some e' =>
      rw [(process_failed s b session hfault).2] at hfailed
      rw [Except.error.inj hfailed]

/-! ## §2. Retries. -/

theorem answer_later (s : Services) (b : Batch) {faults : StoreMethod → Option SyncError}
    (hworks : faults .storeValue = none) (server : Homeserver) (session : Session Engine) :
    (process s b (later faults server session)).answer = .ok () :=
  (process_done s b (later faults server session) hworks).2

/-- **When a failure and its retry do no harm.**  A batch that fails leaves
the position and storage as they were, and leaves the lists that it would
have left had it been saved: they are as they were exactly if the batch
changes no list.  Its retry succeeds once storage works, and makes the lists
of one success exactly if the batch changes nothing when it is taken in for
the second time. -/
theorem failure_and_retry (s : Services) (b : Batch) (session : Session Engine) {e : SyncError}
    (hfailed : (process s b session).answer = .error e) :
    session.fault .storeValue = some e
      ∧ (process s b session).state.loop.pos = session.loop.pos
      ∧ (process s b session).state.document = session.document
      ∧ (process s b session).state.loop.lists = listsAfter b session
      ∧ ((process s b session).state.loop.lists = session.loop.lists ↔
          listsAfter b session = session.loop.lists)
      ∧ ∀ (s' : Services) (faults : StoreMethod → Option SyncError) (server : Homeserver),
          faults .storeValue = none →
          (process s' b (later faults server (process s b session).state)).answer = .ok ()
            ∧ (process s b (later faults server session)).answer = .ok ()
            ∧ ((process s' b (later faults server (process s b session).state)).state.loop.lists
                  = (process s b (later faults server session)).state.loop.lists ↔
                (takeIn session.world.classifier.user (listsAfter b session) b).1 =
                  listsAfter b session) := by
  have hfault := fault_of_failed s b session hfailed
  have hstate := (process_failed s b session hfault).1
  -- position and document are those of the session before, the lists are not
  refine ⟨hfault, ?_, ?_, lists_process s b session, ?_, ?_⟩
  · rw [hstate]
    rfl
  · rw [hstate]
    rfl
  · rw [lists_process]
  · intro s' faults server hworks
    refine ⟨answer_later s' b hworks server _, answer_later s b hworks server _, ?_⟩
    rw [lists_process, lists_process]
    -- the retry starts from the lists that the failure left
    have hretry : listsAfter b (later faults server (process s b session).state) =
        (takeIn session.world.classifier.user (listsAfter b session) b).1 := by
      show (takeIn (process s b session).state.world.classifier.user
        (process s b session).state.loop.lists b).1 = _
      rw [user_process, lists_process]
    -- and the one success from those that it found
    have honce : listsAfter b (later faults server session) = listsAfter b session := rfl
    rw [hretry, honce]

/-! ## §3. A room that is put in twice. -/

namespace TwiceInserted

def user : UserId := ⟨"@retrying:x", by decide +kernel⟩

def first : RoomId := ⟨"!first:x", by decide +kernel⟩

def second : RoomId := ⟨"!second:x", by decide +kernel⟩

/-- A room put at the head of the first list. -/
def atHead (pos : String) (room : RoomId) : Batch :=
  { pos, operations := [.insert 0 0 { roomId := some room }] }

/-- Storage that saves no lists. -/
def full (m : StoreMethod) : Option SyncError :=
  if m = .storeValue then some (.storage "store_value failed") else none

/-- A session with one room, which cannot be saved any more. -/
def session : Session Engine :=
  later full {}
    (process {} (atHead "1" first)
      (prepare ⟨.create { lists := [.joined] }, { classifier := { user } }⟩).state).state

theorem answer_failed :
    (process {} (atHead "2" second) session).answer = .error (.storage "store_value failed") :=
  (process_failed {} (atHead "2" second) session rfl).2

end TwiceInserted

open TwiceInserted in
/-- The failure leaves the new room in the list, and the retry puts it in
once more: the first room ends up at index 2, not at index 1. -/
theorem failed_insert_is_repeated :
    (process {} (atHead "2" second) session).answer = .error (.storage "store_value failed")
      ∧ (process {} (atHead "2" second) session).state.loop.lists ≠ session.loop.lists
      ∧ (process {} (atHead "2" second) (later (fun _ => none) {}
            (process {} (atHead "2" second) session).state)).state.loop.lists
          ≠ (process {} (atHead "2" second)
              (later (fun _ => none) {} session)).state.loop.lists := by
  refine ⟨answer_failed, ?_, ?_⟩
  · decide +kernel
  · decide +kernel

open TwiceInserted in
/-- The general statement at that failure. -/
theorem failed_insert_leaves_lists :
    (process {} (atHead "2" second) session).answer = .error (.storage "store_value failed")
      ∧ (process {} (atHead "2" second) session).state.loop.pos = some "1"
      ∧ (process {} (atHead "2" second) session).state.loop.lists
          = listsAfter (atHead "2" second) session := by
  obtain ⟨-, hpos, -, hlists, -⟩ :=
    failure_and_retry {} (atHead "2" second) session answer_failed
  exact ⟨answer_failed, hpos.trans (by decide +kernel), hlists⟩

end RoomSync.Window
