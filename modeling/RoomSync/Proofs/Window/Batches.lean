/-
  RoomSync.Proofs.Window.Batches
  ──────────────────────────────
  **WHAT A BATCH DOES.**

  Operations and classification take turns when a batch is taken in.  The
  lists do not depend on what the classifier learns, so a batch is the same
  as all of its operations on the lists (`takeIn`), followed by all of the
  payloads that they touched:

      applyBatch_eq   — the two halves of a batch
      process_failed  — a batch that cannot be saved
      process_done    — a batch that is saved
      signals_process — what is heard of a batch, saved or not
      lists_process   — the lists after a batch, saved or not

  What a step on one list keeps, a batch keeps (`takeIn_all`).
-/
import RoomSync.Window.Engine
import RoomSync.Proofs.Classifier.Effects
import RoomSync.Proofs.Classifier.Membership
import RoomSync.Proofs.Session.StoreUse
import RoomSync.Proofs.Window.Building

namespace RoomSync.Window

namespace Engine

open Classifier (Word)

/-! ## §1. The lists. -/

/-- One operation on the lists, and the payloads it touched. -/
def listStep (user : UserId) (op : Operation) (lists : List RoomList) :
    List RoomList × List Word :=
  match lists[op.list]? with
  | none => (lists, [])
  | some l =>
      match l.apply user op with
      | (l', .ok touched) =>
          (lists.set op.list l', touched.map fun t => (l.behaviour, t.room, t.payload))
      | (l', .error _) => (lists.set op.list l', [])

/-- Operations on the lists in order. -/
def listRun (user : UserId) : List Operation → List RoomList → List RoomList × List Word
  | [], lists => (lists, [])
  | op :: rest, lists =>
      let first := listStep user op lists
      let others := listRun user rest first.1
      (others.1, first.2 ++ others.2)

/-- The lists that a batch makes of some lists, and the payloads it touched. -/
def takeIn (user : UserId) (lists : List RoomList) (b : Batch) : List RoomList × List Word :=
  listRun user b.operations (setTotals lists b.counts)

/-! ## §2. What every step keeps. -/

/-- An operation replaces one list, whether it is accepted or refused. -/
theorem listStep_fst (user : UserId) {op : Operation} {lists : List RoomList} {l : RoomList}
    (hget : lists[op.list]? = some l) :
    (listStep user op lists).1 = lists.set op.list (l.apply user op).1 := by
  unfold listStep
  rw [hget]
  dsimp only
  split
  next l' touched heq => rw [heq]
  next l' fault heq => rw [heq]

/-- An operation on a list that is not there replaces none. -/
theorem listStep_none (user : UserId) {op : Operation} {lists : List RoomList}
    (hget : lists[op.list]? = none) : listStep user op lists = (lists, []) := by
  unfold listStep
  rw [hget]

/-- What holds of every list of a session after one operation. -/
theorem listStep_all {P : RoomList → Prop} (user : UserId)
    (happly : ∀ l op, P l → P (l.apply user op).1) (op : Operation) (lists : List RoomList)
    (h : ∀ l ∈ lists, P l) : ∀ l ∈ (listStep user op lists).1, P l := by
  cases hget : lists[op.list]? with
  | none =>
      rw [listStep_none user hget]
      exact h
  | some l =>
      rw [listStep_fst user hget]
      intro m hm
      rcases List.mem_or_eq_of_mem_set hm with hm | rfl
      · exact h m hm
      · exact happly l op (h l (List.mem_of_getElem? hget))

theorem listRun_all {P : RoomList → Prop} (user : UserId)
    (happly : ∀ l op, P l → P (l.apply user op).1) (ops : List Operation) :
    ∀ lists : List RoomList, (∀ l ∈ lists, P l) → ∀ l ∈ (listRun user ops lists).1, P l := by
  induction ops with
  | nil =>
      intro lists h
      exact h
  | cons op rest ih =>
      intro lists h
      exact ih (listStep user op lists).1 (listStep_all user happly op lists h)

theorem setTotals_all {P : RoomList → Prop} (htotal : ∀ l n, P l → P { l with total := n })
    (lists : List RoomList) :
    ∀ counts : List Nat, (∀ l ∈ lists, P l) → ∀ l ∈ setTotals lists counts, P l := by
  induction lists with
  | nil =>
      intro counts h
      exact h
  | cons l rest ih =>
      intro counts h
      cases counts with
      | nil => exact h
      | cons n ns =>
          intro m hm
          rcases List.mem_cons.1 hm with rfl | hm
          · exact htotal l n (h l List.mem_cons_self)
          · exact ih ns (fun l' hl' => h l' (List.mem_cons_of_mem _ hl')) m hm

/-- **What a step on one list keeps, a batch keeps** of all lists. -/
theorem takeIn_all {P : RoomList → Prop} (user : UserId)
    (happly : ∀ l op, P l → P (l.apply user op).1)
    (htotal : ∀ l n, P l → P { l with total := n }) (lists : List RoomList) (b : Batch)
    (h : ∀ l ∈ lists, P l) : ∀ l ∈ (takeIn user lists b).1, P l :=
  listRun_all user happly b.operations _ (setTotals_all htotal lists b.counts h)

theorem listStep_kinds (user : UserId) (op : Operation) (lists : List RoomList) :
    (listStep user op lists).1.map (·.kind) = lists.map (·.kind) := by
  cases hget : lists[op.list]? with
  | none => rw [listStep_none user hget]
  | some l =>
      -- the list is replaced by one of its own kind
      rw [listStep_fst user hget]
      obtain ⟨hlt, hget⟩ := List.getElem?_eq_some_iff.1 hget
      have hlt : op.list < (lists.map (·.kind)).length := by rwa [List.length_map]
      have hmap : (lists.map (·.kind))[op.list] = l.kind := by
        rw [List.getElem_map, hget]
      rw [List.map_set, RoomList.kind_apply user l op, ← hmap, List.set_getElem_self]

theorem listRun_kinds (user : UserId) (ops : List Operation) :
    ∀ lists : List RoomList,
      (listRun user ops lists).1.map (·.kind) = lists.map (·.kind) := by
  induction ops with
  | nil =>
      intro lists
      rfl
  | cons op rest ih =>
      intro lists
      exact (ih (listStep user op lists).1).trans (listStep_kinds user op lists)

theorem setTotals_kinds (lists : List RoomList) :
    ∀ counts : List Nat, (setTotals lists counts).map (·.kind) = lists.map (·.kind) := by
  induction lists with
  | nil =>
      intro counts
      rfl
  | cons l rest ih =>
      intro counts
      cases counts with
      | nil => rfl
      | cons n ns => exact congrArg (l.kind :: ·) (ih ns)

/-- A batch changes the kind of no list. -/
theorem takeIn_kinds (user : UserId) (lists : List RoomList) (b : Batch) :
    (takeIn user lists b).1.map (·.kind) = lists.map (·.kind) :=
  (listRun_kinds user b.operations _).trans (setTotals_kinds lists b.counts)

theorem takeIn_behaviours (user : UserId) (lists : List RoomList) (b : Batch) :
    (takeIn user lists b).1.map (·.behaviour) = lists.map (·.behaviour) := by
  have hkinds := congrArg (List.map Prod.fst) (takeIn_kinds user lists b)
  rwa [List.map_map, List.map_map] at hkinds

/-! ## §3. The two halves of a batch. -/

variable (s : Services)

/-- One operation is its step on the lists, then its payloads. -/
theorem applyOperation_eq (op : Operation) (lists : List RoomList) (c : Classifier) :
    applyOperation s op (lists, c) =
      ⟨((listStep c.user op lists).1,
          (Classifier.windowedAll s (listStep c.user op lists).2 c).state),
        (Classifier.windowedAll s (listStep c.user op lists).2 c).effects, ()⟩ := by
  unfold applyOperation listStep
  dsimp only
  cases lists[op.list]? with
  | none => rfl
  | some l =>
      dsimp only
      -- a refused operation touches nothing, so there is nothing to classify
      cases l.apply c.user op with
      | mk l' answer =>
          cases answer with
          | error e => rfl
          | ok touched =>
              have hall : Classifier.windowedAll s
                  (touched.map fun t => (l.behaviour, t.room, t.payload)) c =
                    classifyTouched s l.behaviour touched c :=
                Outcome.forEach_map (fun w : Word => Classifier.windowed s w.2.1 w.1 w.2.2)
                  (fun t : Touched => (l.behaviour, t.room, t.payload)) touched c
              dsimp only
              rw [hall]

/-- All operations are all steps on the lists, then all payloads. -/
theorem applyOperations_eq (ops : List Operation) :
    ∀ (lists : List RoomList) (c : Classifier),
      Outcome.forEach (applyOperation s) ops (lists, c) =
        ⟨((listRun c.user ops lists).1,
            (Classifier.windowedAll s (listRun c.user ops lists).2 c).state),
          (Classifier.windowedAll s (listRun c.user ops lists).2 c).effects, ()⟩ := by
  induction ops with
  | nil =>
      intro lists c
      rfl
  | cons op rest ih =>
      intro lists c
      -- the user is the same at every step, so the lists run on by themselves
      have huser := Classifier.user_windowedAll s (listStep c.user op lists).2 c
      unfold Outcome.forEach listRun
      rw [applyOperation_eq]
      dsimp only
      rw [ih, huser]
      unfold Classifier.windowedAll
      rw [Outcome.forEach_append_state, Outcome.forEach_append_effects]

/-- The state after a batch that is not saved yet. -/
def taken (b : Batch) (session : Session Engine) : Session Engine :=
  { loop := { session.loop with
      lists := (takeIn session.world.classifier.user session.loop.lists b).1 }
    world := { session.world with
      classifier := (Classifier.windowedAll s
        (takeIn session.world.classifier.user session.loop.lists b).2
        session.world.classifier).state } }

/-- **A batch is all of its operations, then all of its payloads.** -/
theorem applyBatch_eq (b : Batch) (session : Session Engine) :
    applyBatch s b session =
      ⟨taken s b session,
        (Classifier.windowedAll s
          (takeIn session.world.classifier.user session.loop.lists b).2
          session.world.classifier).effects, .ok ()⟩ := by
  unfold applyBatch
  dsimp only
  rw [applyOperations_eq]
  rfl

end Engine

/-! ## §4. Saving. -/

open Engine

/-- The write that saves a session under a position. -/
def saving (b : Batch) (session : Session Engine) : Write :=
  .value storageKey (session.loop.save b.pos).encode.text

theorem persist_eq (b : Batch) (session : Session Engine) :
    persist b.pos session =
      Session.onWorld (World.onStore (Store.write (saving b session))) session := rfl

theorem persist_failed {b : Batch} {session : Session Engine} {e : SyncError}
    (hfault : session.fault .storeValue = some e) :
    persist b.pos session = ⟨session, [], .error e⟩ := by
  rw [persist_eq]
  exact Session.write_failed hfault

theorem persist_done {b : Batch} {session : Session Engine}
    (hfault : session.fault .storeValue = none) :
    persist b.pos session =
      ⟨session.written (saving b session), [.write (saving b session)], .ok ()⟩ := by
  rw [persist_eq]
  exact Session.write_done hfault

/-- **A batch that cannot be saved** is taken in all the same; its error is
that of storage. -/
theorem process_failed (s : Services) (b : Batch) (session : Session Engine) {e : SyncError}
    (hfault : session.fault .storeValue = some e) :
    (process s b session).state = taken s b session
      ∧ (process s b session).answer = .error e := by
  have hpersist : persist b.pos (taken s b session) = ⟨taken s b session, [], .error e⟩ :=
    persist_failed hfault
  unfold process
  rw [Action.bind_ok (applyBatch_eq s b session), Action.bind_error hpersist]
  exact ⟨rfl, rfl⟩

/-- The session after a batch that is saved. -/
def processed (s : Services) (b : Batch) (session : Session Engine) : Session Engine :=
  let after := taken s b session
  { after.written (saving b after) with loop := { after.loop with pos := some b.pos } }

/-- **A batch that is saved.** -/
theorem process_done (s : Services) (b : Batch) (session : Session Engine)
    (hfault : session.fault .storeValue = none) :
    (process s b session).state = processed s b session
      ∧ (process s b session).answer = .ok () := by
  have hpersist : persist b.pos (taken s b session) =
      ⟨(taken s b session).written (saving b (taken s b session)),
        [.write (saving b (taken s b session))], .ok ()⟩ := persist_done hfault
  unfold process
  rw [Action.bind_ok (applyBatch_eq s b session), Action.bind_ok hpersist]
  exact ⟨rfl, rfl⟩

/-- **What is heard of a batch**, saved or not: what is heard of its operations. -/
theorem signals_process (s : Services) (b : Batch) (session : Session Engine) :
    Effect.signals (process s b session).effects =
      Effect.signals (applyBatch s b session).effects := by
  rw [applyBatch_eq]
  unfold process
  rw [Action.bind_ok (applyBatch_eq s b session)]
  dsimp only
  rw [Effect.signals_append]
  refine (congrArg (_ ++ ·) ?_).trans (List.append_nil _)
  cases hfault : session.fault .storeValue with
  | some e =>
      have hpersist : persist b.pos (taken s b session) = ⟨taken s b session, [], .error e⟩ :=
        persist_failed hfault
      rw [Action.bind_error hpersist]
      rfl
  | none =>
      have hpersist : persist b.pos (taken s b session) =
          ⟨(taken s b session).written (saving b (taken s b session)),
            [.write (saving b (taken s b session))], .ok ()⟩ := persist_done hfault
      rw [Action.bind_ok hpersist]
      rfl

/-- A batch that is answered well was saved. -/
theorem state_process {s : Services} {b : Batch} {session : Session Engine}
    (hok : (process s b session).answer = .ok ()) :
    (process s b session).state = processed s b session := by
  cases hfault : session.fault .storeValue with
  | none => exact (process_done s b session hfault).1
  | some e =>
      rw [(process_failed s b session hfault).2] at hok
      cases hok

/-- The lists that a batch makes of those of a session. -/
def listsAfter (b : Batch) (session : Session Engine) : List RoomList :=
  (takeIn session.world.classifier.user session.loop.lists b).1

/-- Lists and memberships are those of the batch taken in, saved or not. -/
theorem process_taken (s : Services) (b : Batch) (session : Session Engine) :
    (process s b session).state.loop.lists = (taken s b session).loop.lists
      ∧ (process s b session).state.world.classifier =
          (taken s b session).world.classifier := by
  cases hfault : session.fault .storeValue with
  | none =>
      rw [(process_done s b session hfault).1]
      exact ⟨rfl, rfl⟩
  | some e =>
      rw [(process_failed s b session hfault).1]
      exact ⟨rfl, rfl⟩

/-- **The lists after a batch**, saved or not. -/
theorem lists_process (s : Services) (b : Batch) (session : Session Engine) :
    (process s b session).state.loop.lists = listsAfter b session :=
  (process_taken s b session).1

/-- A batch is taken in for the same user. -/
theorem user_process (s : Services) (b : Batch) (session : Session Engine) :
    (process s b session).state.world.classifier.user = session.world.classifier.user := by
  rw [(process_taken s b session).2]
  exact Classifier.user_windowedAll s _ _

end RoomSync.Window
