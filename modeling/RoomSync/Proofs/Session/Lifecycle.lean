/-
  RoomSync.Proofs.Session.Lifecycle
  ─────────────────────────────────
  **A CLIENT AND ALL TASKS IT EVER STARTED.**

  A client holds on to one task.  Others may have been started before, and a client that
  lets one go while it runs would have two of them at the homeserver.  So the client is put
  among all its tasks (`Lifetime`): each of them can take its next step at any time, and the
  owner makes his calls in between.  A call ends before the next one; while the owner waits
  for the end of a task only the tasks move on.

  What a move can do is said once (`act_change`): the task that the client holds takes a
  step, or nothing moves, or the client takes up a task or lets one go, and it lets go only
  what has ended.  By this every run is orderly and keeps a record (`run_kept`): polls and
  replies are even but for the task that polls, tasks are numbered by their starts, and a
  summary is the last thing seen of its task.

      start_refused        — a start beside a running task does nothing
      start_prepared       — a start that is prepared takes up a task
      start_failed         — a start that cannot be prepared takes up none
      start_invalid_iff    — which starts are answered with an invalid state
      one_task_at_a_time   — all of it, for every interleaving
      stopAndWait_run      — to wait step by step is the client's own `stopAndWait`
-/
import RoomSync.Client
import RoomSync.Cursor.Loop

namespace RoomSync

variable {ℓ β : Type}

namespace Task

/-- Whether a task has sent a poll and has no reply yet. -/
def isPolling (t : Task β) : Bool :=
  match t.phase with
  | .polling => true
  | _ => false

theorem isPolling_of_isFinished {t : Task β} (h : t.isFinished = true) : t.isPolling = false := by
  obtain ⟨phase, summary⟩ := t
  cases phase with
  | finished => rfl
  | ready | polling | processing batch | resting => exact nomatch h

theorem isPolling_fail (t : Task β) (stopped : Bool) : (t.fail stopped).isPolling = false := by
  cases stopped <;> rfl

theorem isPolling_polled (t : Task β) (stopped : Bool) (reply : Except SyncError β) :
    (t.polled stopped reply).isPolling = false := by
  cases reply with
  | ok batch => cases stopped <;> rfl
  | error e => exact t.isPolling_fail stopped

theorem isPolling_processed (t : Task β) (stopped : Bool) (result : Except SyncError Unit) :
    (t.processed stopped result).isPolling = false := by
  cases result with
  | ok u => rfl
  | error e => exact t.isPolling_fail stopped

end Task

/-! ## §1. Lifetimes. -/

/-- A client among the tasks it let go. -/
structure Lifetime (ℓ β : Type) where
  client : Client ℓ β
  /-- The tasks that the client let go, in the order of their starts. -/
  past : List (Task β) := []
  /-- Whether the owner waits for the end of the task. -/
  waiting : Bool := false

namespace Lifetime

/-- What moves on.  Tasks are numbered by their starts. -/
inductive Move where
  /-- A task takes its next step, if it can take one. -/
  | work (task : Nat)
  /-- The time of a task's rest passes. -/
  | wake (task : Nat)
  /-- The world goes on: replies come in, storage fails or recovers. -/
  | elsewhere (f : World → World)
  | start
  | stop
  /-- The owner begins to wait for the end of the task, if there is one. -/
  | stopAndWait
  /-- The owner is back from waiting, once the task has ended. -/
  | awaited

/-- What is seen of a move, with what was done outside. -/
inductive Happening (β : Type) where
  | started (task : Nat) (fx : List Effect)
  /-- A start that failed. -/
  | refused (e : SyncError) (fx : List Effect)
  | polled (task : Nat) (fx : List Effect)
  | answered (task : Nat)
  | processed (task : Nat) (batch : β) (fx : List Effect)
  /-- The owner is given the summary of a task. -/
  | summarized (task : Nat) (summary : Summary)

namespace Happening

/-- The task that something is about, once it was started. -/
def task? : Happening β → Option Nat
  | started _ _ | refused _ _ => none
  | polled n _ | answered n | processed n _ _ | summarized n _ => some n

def started? : Happening β → Option Nat
  | started n _ => some n
  | _ => none

def isPoll : Happening β → Bool
  | polled _ _ => true
  | _ => false

def isReply : Happening β → Bool
  | answered _ => true
  | _ => false

end Happening

/-- All tasks, in the order of their starts. -/
def tasks (l : Lifetime ℓ β) : List (Task β) := l.past ++ l.client.task.toList

/-- The client, as one of its tasks finds it. -/
def seenBy (l : Lifetime ℓ β) (n : Nat) : Client ℓ β := { l.client with task := l.tasks[n]? }

/-- A task leaves the client so. -/
def leftBy (l : Lifetime ℓ β) (n : Nat) (c : Client ℓ β) : Lifetime ℓ β :=
  if n < l.past.length then
    -- a task that was let go would work on the same session
    { l with
      client := { c with task := l.client.task }
      past := c.task.elim l.past (l.past.set n) }
  else if n = l.past.length then { l with client := c }
  else l

/-- What is seen of a step of a task. -/
def seen (n : Nat) (c : Client ℓ β) (o : Outcome (Client ℓ β) Bool) : List (Happening β) :=
  match o.answer, c.task with
  | true, some ⟨.ready, _⟩ =>
      if o.state.task.any (·.isPolling) then [.polled n o.effects] else []
  | true, some ⟨.polling, _⟩ => [.answered n]
  | true, some ⟨.processing batch, _⟩ => [.processed n batch o.effects]
  | _, _ => []

variable (st : Strategy ℓ β)

/-- One move. -/
def act (l : Lifetime ℓ β) : Move → Lifetime ℓ β × List (Happening β)
  | .work n =>
      let o := (l.seenBy n).step st
      (l.leftBy n o.state, seen n (l.seenBy n) o)
  | .wake n => (l.leftBy n (l.seenBy n).wake, [])
  | .elsewhere f =>
      let session := { l.client.session with world := f l.client.session.world }
      ({ l with client := { l.client with session } }, [])
  | .start =>
      if l.waiting then (l, [])
      else
        let o := l.client.start st
        match o.answer with
        | .ok () =>
            ({ l with client := o.state, past := l.tasks }, [.started l.tasks.length o.effects])
        | .error e => ({ l with client := o.state }, [.refused e o.effects])
  | .stop => if l.waiting then (l, []) else ({ l with client := l.client.requestStop }, [])
  | .stopAndWait =>
      if l.waiting then (l, [])
      else ({ l with client := l.client.requestStop, waiting := l.client.task.isSome }, [])
  | .awaited =>
      match l.waiting, l.client.task with
      | true, some t =>
          if t.isFinished then
            ({ client := { l.client with task := none }, past := l.tasks, waiting := false },
              [.summarized l.past.length t.summary])
          else (l, [])
      | _, _ => (l, [])

/-- One move more, after what was seen before. -/
def next (p : Lifetime ℓ β × List (Happening β)) (m : Move) :
    Lifetime ℓ β × List (Happening β) :=
  ((p.1.act st m).1, p.2 ++ (p.1.act st m).2)

/-- Moves one after the other, and what is seen of them. -/
def run (l : Lifetime ℓ β) (moves : List Move) : Lifetime ℓ β × List (Happening β) :=
  moves.foldl (next st) (l, [])

/-- The lifetime of a new client. -/
def begin (session : Session ℓ) (backoff : Backoff) : Lifetime ℓ β :=
  { client := { session, backoff } }

/-! ## §2. What a move can do. -/

/-- A step of a task, and what is seen of it: a poll when the task begins to poll, a reply
when it does so no more, and never a start or a summary. -/
structure Step (n : Nat) (t t' : Task β) (log : List (Happening β)) : Prop where
  about : ∀ x ∈ log, x.task? = some n
  unstarted : log.filterMap Happening.started? = []
  unsummarized : ∀ m s, .summarized m s ∉ log
  polls : log.countP (·.isPoll) + t.isPolling.toNat =
    log.countP (·.isReply) + t'.isPolling.toNat

section

variable {n : Nat} {t t' : Task β}

theorem Step.polled (fx : List Effect) (before : t.isPolling = false)
    (after : t'.isPolling = true) : Step n t t' [.polled n fx] where
  about := List.forall_mem_singleton.2 rfl
  unstarted := rfl
  unsummarized _ _ h := nomatch List.mem_singleton.1 h
  polls := by rw [before, after]; rfl

theorem Step.answered (before : t.isPolling = true) (after : t'.isPolling = false) :
    Step n t t' [.answered n] where
  about := List.forall_mem_singleton.2 rfl
  unstarted := rfl
  unsummarized _ _ h := nomatch List.mem_singleton.1 h
  polls := by rw [before, after]; rfl

theorem Step.processed (batch : β) (fx : List Effect) (before : t.isPolling = false)
    (after : t'.isPolling = false) : Step n t t' [.processed n batch fx] where
  about := List.forall_mem_singleton.2 rfl
  unstarted := rfl
  unsummarized _ _ h := nomatch List.mem_singleton.1 h
  polls := by rw [before, after]; rfl

theorem Step.unseen (same : t'.isPolling = t.isPolling) : Step n t t' [] where
  about := nofun
  unstarted := rfl
  unsummarized := nofun
  polls := by
    rw [same]
    rfl

end

/-- What a move can do. -/
inductive Change (l l' : Lifetime ℓ β) : List (Happening β) → Prop
  /-- No task moves. -/
  | none {log : List (Happening β)} (task : l'.client.task = l.client.task)
      (past : l'.past = l.past) (unseen : log = [] ∨ ∃ e fx, log = [.refused e fx]) :
      Change l l' log
  /-- The task that the client holds takes a step. -/
  | worked {t t' : Task β} {log : List (Happening β)} (task : l.client.task = some t)
      (task' : l'.client.task = some t') (past : l'.past = l.past)
      (step : Step l.past.length t t' log) : Change l l' log
  /-- The client takes up a task, and lets go one that has ended. -/
  | started (fx : List Effect) (ended : ∀ t ∈ l.client.task, t.isFinished = true)
      (task' : l'.client.task = some {}) (past : l'.past = l.tasks) :
      Change l l' [.started l.tasks.length fx]
  /-- The client lets go a task that has ended. -/
  | summarized {t : Task β} (task : l.client.task = some t) (ended : t.isFinished = true)
      (task' : l'.client.task = Option.none) (past : l'.past = l.tasks) :
      Change l l' [.summarized l.past.length t.summary]

/-- Whether no task was let go before its end. -/
def Orderly (l : Lifetime ℓ β) : Prop := ∀ t ∈ l.past, t.isFinished = true

section

variable {l l' : Lifetime ℓ β}

theorem seenBy_held (l : Lifetime ℓ β) : l.seenBy l.past.length = l.client := by
  have htask : l.tasks[l.past.length]? = l.client.task := by
    unfold tasks
    rw [List.getElem?_append_right (Nat.le_refl _), Nat.sub_self]
    cases l.client.task <;> rfl
  unfold seenBy
  rw [htask]

theorem leftBy_held (c : Client ℓ β) : l.leftBy l.past.length c = { l with client := c } := by
  unfold leftBy
  rw [if_neg (Nat.lt_irrefl _), if_pos rfl]

/-- A task that does nothing leaves everything. -/
theorem leftBy_seenBy (l : Lifetime ℓ β) (n : Nat) : l.leftBy n (l.seenBy n) = l := by
  by_cases hpast : n < l.past.length
  · have htask : l.tasks[n]? = some l.past[n] := by
      unfold tasks
      rw [List.getElem?_append_left hpast, List.getElem?_eq_getElem hpast]
    unfold leftBy seenBy
    rw [if_pos hpast, htask]
    show { l with past := l.past.set n l.past[n] } = l
    rw [List.set_getElem_self]
  · by_cases hheld : n = l.past.length
    · subst hheld
      rw [seenBy_held, leftBy_held]
    · unfold leftBy
      rw [if_neg hpast, if_neg hheld]

/-- A task that is not at its end is the one that the client holds. -/
theorem eq_held (h : l.Orderly) {n : Nat} {t : Task β} (ht : (l.seenBy n).task = some t)
    (hunfinished : t.isFinished = false) : n = l.past.length := by
  have ht : l.tasks[n]? = some t := ht
  unfold tasks at ht
  obtain hlt | hge := Nat.lt_or_ge n l.past.length
  · -- it was let go, so it had ended
    rw [List.getElem?_append_left hlt] at ht
    rw [h t (List.mem_of_getElem? ht)] at hunfinished
    exact nomatch hunfinished
  · -- behind the past there is one task at most
    rw [List.getElem?_append_right hge] at ht
    have hlt := (List.getElem?_eq_some_iff.1 ht).1
    cases htask : l.client.task with
    | none =>
        rw [htask] at hlt
        exact absurd hlt (Nat.not_lt_zero _)
    | some held =>
        rw [htask] at hlt
        have hlt : n - l.past.length < 1 := hlt
        omega

/-- **A step of a task**, if it can take one. -/
theorem step_cases (n : Nat) (c : Client ℓ β) :
    c.step st = ⟨c, [], false⟩
      ∨ (c.step st).answer = true ∧ ∃ t t', c.task = some t ∧ t.isFinished = false
          ∧ (c.step st).state.task = some t' ∧ Step n t t' (seen n c (c.step st)) := by
  unfold Client.step seen
  cases htask : c.task with
  | none => exact .inl rfl
  | some t =>
      obtain ⟨phase, summary⟩ := t
      cases phase with
      | finished => exact .inl rfl
      | ready =>
          refine .inr ⟨rfl, _, _, rfl, rfl, rfl, ?_⟩
          cases c.stop.requested with
          | true => exact .unseen rfl
          | false => exact .polled _ rfl rfl
      | polling =>
          dsimp only
          cases st.receive? c.session with
          | none => exact .inl rfl
          | some reply =>
              have hreplied := Task.isPolling_polled ⟨.polling, summary⟩ c.stop.requested reply.1
              exact .inr ⟨rfl, _, _, rfl, rfl, rfl, .answered rfl hreplied⟩
      | processing batch =>
          have hprocessed := Task.isPolling_processed ⟨.processing batch, summary⟩ c.stop.requested
            (st.process batch c.session).answer
          exact .inr ⟨rfl, _, _, rfl, rfl, rfl, .processed batch _ rfl hprocessed⟩
      | resting =>
          dsimp only
          cases c.stop.requested with
          | true => exact .inr ⟨rfl, _, _, rfl, rfl, rfl, .unseen rfl⟩
          | false => exact .inl rfl

/-- A rest that is over is a step that is not seen. -/
theorem wake_cases (n : Nat) (c : Client ℓ β) :
    c.wake = c
      ∨ ∃ t t', c.task = some t ∧ t.isFinished = false ∧ c.wake.task = some t'
          ∧ Step n t t' [] := by
  unfold Client.wake Client.isResting
  cases htask : c.task with
  | none => exact .inl rfl
  | some t =>
      obtain ⟨phase, summary⟩ := t
      cases phase with
      | resting =>
          refine .inr ⟨_, _, rfl, rfl, rfl, .unseen ?_⟩
          cases c.stop.requested <;> rfl
      | finished | ready | polling | processing batch => exact .inl rfl

/-- What a task does to the client, the lifetime does. -/
theorem change_of_step (h : l.Orderly) {n : Nat} {c : Client ℓ β} {log : List (Happening β)}
    {t t' : Task β} (ht : (l.seenBy n).task = some t) (hunfinished : t.isFinished = false)
    (ht' : c.task = some t') (hstep : Step n t t' log) : Change l (l.leftBy n c) log := by
  obtain rfl := eq_held h ht hunfinished
  rw [seenBy_held] at ht
  rw [leftBy_held]
  exact .worked ht ht' rfl hstep

theorem Change.refl (l : Lifetime ℓ β) : Change l l [] := .none rfl rfl (.inl rfl)

theorem isSyncing_eq_false_iff {c : Client ℓ β} :
    c.isSyncing = false ↔ ∀ t ∈ c.task, t.isFinished = true := by
  unfold Client.isSyncing
  cases c.task with
  | none => exact iff_of_true rfl nofun
  | some t =>
      show (!t.isFinished) = false ↔ _
      rw [Bool.not_eq_false']
      exact ⟨fun h t' ht' => Option.some.inj ht' ▸ h, fun h => h t rfl⟩

/-- A client is idle when all its tasks have ended. -/
theorem idle_iff (h : l.Orderly) :
    l.client.isSyncing = false ↔ ∀ t ∈ l.tasks, t.isFinished = true := by
  rw [isSyncing_eq_false_iff]
  constructor
  · intro hheld t ht
    obtain ht | ht := List.mem_append.1 ht
    · exact h t ht
    · exact hheld t (Option.mem_toList.1 ht)
  · exact fun hall t ht => hall t (List.mem_append_right _ (Option.mem_toList.2 ht))

/-- A client is busy while one of its tasks runs. -/
theorem busy_iff (h : l.Orderly) :
    l.client.isSyncing = true ↔ ∃ t ∈ l.tasks, t.isFinished = false := by
  constructor
  · intro hbusy
    refine Classical.byContradiction fun hnone => ?_
    have hidle := (idle_iff h).2 fun t ht => by
      cases hended : t.isFinished with
      | true => rfl
      | false => exact absurd ⟨t, ht, hended⟩ hnone
    rw [hbusy] at hidle
    exact nomatch hidle
  · rintro ⟨t, ht, hunfinished⟩
    cases hbusy : l.client.isSyncing with
    | true => rfl
    | false =>
        rw [(idle_iff h).1 hbusy t ht] at hunfinished
        exact nomatch hunfinished

/-- **A start beside a running task** does nothing. -/
theorem start_refused (hwaiting : l.waiting = false) (h : l.client.isSyncing = true) :
    l.act st .start = (l, [.refused (.invalidState "sync is already running") []]) := by
  unfold act Client.start
  dsimp only
  rw [if_neg (ne_true_of_eq_false hwaiting), if_pos h]

/-- **A start that is prepared** takes up a task. -/
theorem start_prepared (hwaiting : l.waiting = false) (h : l.client.isSyncing = false)
    (hprepare : (st.prepare l.client.session).answer = .ok ()) :
    l.act st .start =
      ({ l with
          client := { l.client with
            session := (st.prepare l.client.session).state
            stop := l.client.stop.reset
            task := some {} }
          past := l.tasks },
        [.started l.tasks.length (st.prepare l.client.session).effects]) := by
  unfold act Client.start
  dsimp only
  rw [if_neg (ne_true_of_eq_false hwaiting), if_neg (ne_true_of_eq_false h), hprepare]

/-- **A start that cannot be prepared** takes up none. -/
theorem start_failed (hwaiting : l.waiting = false) (h : l.client.isSyncing = false)
    {e : SyncError} (hprepare : (st.prepare l.client.session).answer = .error e) :
    l.act st .start =
      ({ l with
          client := { l.client with
            session := (st.prepare l.client.session).state
            stop := l.client.stop.reset } },
        [.refused e (st.prepare l.client.session).effects]) := by
  unfold act Client.start
  dsimp only
  rw [if_neg (ne_true_of_eq_false hwaiting), if_neg (ne_true_of_eq_false h), hprepare]

/-- A start is refused, or fails, or takes up a task where none runs. -/
theorem start_change (l : Lifetime ℓ β) : Change l (l.act st .start).1 (l.act st .start).2 := by
  cases hwaiting : l.waiting with
  | true =>
      have hnothing : l.act st .start = (l, []) := by
        unfold act
        dsimp only
        rw [if_pos hwaiting]
      rw [hnothing]
      exact Change.refl l
  | false =>
      cases hbusy : l.client.isSyncing with
      | true =>
          rw [start_refused st hwaiting hbusy]
          exact .none rfl rfl (.inr ⟨_, _, rfl⟩)
      | false =>
          cases hprepare : (st.prepare l.client.session).answer with
          | ok u =>
              rw [start_prepared st hwaiting hbusy hprepare]
              exact .started _ (isSyncing_eq_false_iff.1 hbusy) rfl rfl
          | error e =>
              rw [start_failed st hwaiting hbusy hprepare]
              exact .none rfl rfl (.inr ⟨_, _, rfl⟩)

/-- **What a move can do**, where no task was let go before its end. -/
theorem act_change (h : l.Orderly) (m : Move) : Change l (l.act st m).1 (l.act st m).2 := by
  cases m with
  | work n =>
      show Change l (l.leftBy n ((l.seenBy n).step st).state)
        (seen n (l.seenBy n) ((l.seenBy n).step st))
      obtain hidle | ⟨-, t, t', ht, hunfinished, ht', hstep⟩ := step_cases st n (l.seenBy n)
      · rw [hidle, leftBy_seenBy]
        exact Change.refl l
      · exact change_of_step h ht hunfinished ht' hstep
  | wake n =>
      show Change l (l.leftBy n (l.seenBy n).wake) []
      obtain hidle | ⟨t, t', ht, hunfinished, ht', hstep⟩ := wake_cases n (l.seenBy n)
      · rw [hidle, leftBy_seenBy]
        exact Change.refl l
      · exact change_of_step h ht hunfinished ht' hstep
  | elsewhere f => exact .none rfl rfl (.inl rfl)
  | start => exact start_change st l
  | stop =>
      unfold act
      dsimp only
      cases l.waiting with
      | true => exact Change.refl l
      | false => exact .none rfl rfl (.inl rfl)
  | stopAndWait =>
      unfold act
      dsimp only
      cases l.waiting with
      | true => exact Change.refl l
      | false => exact .none rfl rfl (.inl rfl)
  | awaited =>
      unfold act
      dsimp only
      cases l.waiting with
      | false => exact Change.refl l
      | true =>
          cases htask : l.client.task with
          | none => exact Change.refl l
          | some t =>
              dsimp only
              cases hended : t.isFinished with
              | false => exact Change.refl l
              | true => exact .summarized htask hended rfl rfl

/-! ## §3. What a run keeps. -/

/-- The record of a lifetime. -/
structure Recorded (l : Lifetime ℓ β) (log : List (Happening β)) : Prop where
  starts : log.filterMap Happening.started? = List.range l.tasks.length
  polls : log.countP (·.isPoll) = log.countP (·.isReply) + l.tasks.countP (·.isPolling)
  settled : ∀ n s, .summarized n s ∈ log → n < l.past.length
  last : log.Pairwise fun x y => ∀ n s, x = .summarized n s → y.task? ≠ some n

/-- No task is let go before its end. -/
theorem Change.orderly {log : List (Happening β)} (h : Change l l' log) (hl : l.Orderly) :
    l'.Orderly := by
  cases h with
  | none task past unseen =>
      unfold Orderly
      rw [past]
      exact hl
  | worked task task' past step =>
      unfold Orderly
      rw [past]
      exact hl
  | started fx ended task' past =>
      -- the past is now all tasks there were, and the held one had ended, too
      unfold Orderly
      rw [past]
      exact (idle_iff hl).1 (isSyncing_eq_false_iff.2 ended)
  | summarized task ended task' past =>
      unfold Orderly
      rw [past]
      refine (idle_iff hl).1 (isSyncing_eq_false_iff.2 ?_)
      rw [task]
      exact fun t ht => Option.some.inj ht ▸ ended

theorem length_past_le (l : Lifetime ℓ β) : l.past.length ≤ l.tasks.length := by
  unfold tasks
  rw [List.length_append]
  exact Nat.le_add_right _ _

theorem tasks_of_some {t : Task β} (h : l.client.task = some t) : l.tasks = l.past ++ [t] := by
  unfold tasks
  rw [h]
  rfl

theorem tasks_of_none (h : l.client.task = none) : l.tasks = l.past := by
  unfold tasks
  rw [h]
  exact List.append_nil _

/-- What is seen next belongs to the record, if it is about tasks that were not let go. -/
theorem Recorded.append {log new : List (Happening β)} (h : Recorded l log)
    (hpast : l.past.length ≤ l'.past.length)
    (hstarts : List.range l.tasks.length ++ new.filterMap Happening.started? =
      List.range l'.tasks.length)
    (hpolls : new.countP (·.isPoll) + l.tasks.countP (·.isPolling) =
      new.countP (·.isReply) + l'.tasks.countP (·.isPolling))
    (hheld : ∀ x ∈ new, ∀ n, x.task? = some n → l.past.length ≤ n)
    (hsettled : ∀ n s, .summarized n s ∈ new → n < l'.past.length)
    (hlast : new.Pairwise fun x y => ∀ n s, x = .summarized n s → y.task? ≠ some n) :
    Recorded l' (log ++ new) where
  starts := by rw [List.filterMap_append, h.starts, hstarts]
  polls := by
    have hbefore := h.polls
    rw [List.countP_append, List.countP_append]
    omega
  settled n s hmem := by
    obtain hold | hnew := List.mem_append.1 hmem
    · exact Nat.lt_of_lt_of_le (h.settled n s hold) hpast
    · exact hsettled n s hnew
  last := by
    refine List.pairwise_append.2 ⟨h.last, hlast, ?_⟩
    rintro x hx y hy n s rfl hn
    -- the summarized task was let go, and what is seen next is about another one
    exact absurd (h.settled n s hx) (Nat.not_lt.2 (hheld y hy n hn))

/-- A change goes on the record. -/
theorem Change.recorded {log new : List (Happening β)} (h : Change l l' new)
    (hr : Recorded l log) : Recorded l' (log ++ new) := by
  cases h with
  | none task past unseen =>
      have htasks : l'.tasks = l.tasks := by
        unfold tasks
        rw [task, past]
      have hpast : l.past.length ≤ l'.past.length := Nat.le_of_eq (congrArg _ past.symm)
      -- nothing is seen, or a start that came to nothing
      obtain rfl | ⟨e, fx, rfl⟩ := unseen
      · refine hr.append hpast ?_ ?_ nofun nofun .nil
        · rw [htasks]
          exact List.append_nil _
        · rw [htasks]
          rfl
      · refine hr.append hpast ?_ ?_ ?_ ?_ (List.pairwise_singleton _ _)
        · rw [htasks]
          exact List.append_nil _
        · rw [htasks]
          rfl
        · exact List.forall_mem_singleton.2 nofun
        · intro n s h
          exact nomatch List.mem_singleton.1 h
  | worked task task' past step =>
      have htasks := tasks_of_some task
      have htasks' := tasks_of_some task'
      rw [past] at htasks'
      -- the task keeps its number, and the polls without a reply change with its phase
      have hcount : ∀ t : Task β, (l.past ++ [t]).countP (·.isPolling) =
          l.past.countP (·.isPolling) + t.isPolling.toNat := by
        intro t
        rw [List.countP_append, List.countP_singleton]
        cases t.isPolling <;> rfl
      refine hr.append (Nat.le_of_eq (congrArg _ past.symm)) ?_ ?_ ?_ ?_ ?_
      · rw [step.unstarted, List.append_nil, htasks, htasks', List.length_append,
          List.length_append]
        rfl
      · have hpolls := step.polls
        rw [htasks, htasks', hcount, hcount]
        omega
      · intro x hx n hn
        rw [step.about x hx] at hn
        exact Nat.le_of_eq (Option.some.inj hn)
      · exact fun n s h => absurd h (step.unsummarized n s)
      · refine List.pairwise_of_forall_mem_list fun x hx y _ n s hsummarized => ?_
        rw [hsummarized] at hx
        exact absurd hx (step.unsummarized n s)
  | started fx ended task' past =>
      -- the new task has the next number, and polls not yet
      have htasks' := tasks_of_some task'
      rw [past] at htasks'
      refine hr.append ?_ ?_ ?_ ?_ ?_ (List.pairwise_singleton _ _)
      · rw [past]
        exact l.length_past_le
      · rw [htasks', List.length_append]
        exact List.range_succ.symm
      · rw [htasks', List.countP_append]
        rfl
      · exact List.forall_mem_singleton.2 nofun
      · intro n s h
        exact nomatch List.mem_singleton.1 h
  | summarized task ended task' past =>
      -- the tasks stay, and the held one is past from now on
      have htasks' := tasks_of_none task'
      rw [past] at htasks'
      refine hr.append ?_ ?_ ?_ ?_ ?_ (List.pairwise_singleton _ _)
      · rw [past]
        exact l.length_past_le
      · rw [htasks']
        exact List.append_nil _
      · rw [htasks']
        rfl
      · refine List.forall_mem_singleton.2 fun n hn => Nat.le_of_eq (Option.some.inj hn)
      · intro n s h
        obtain ⟨rfl, -⟩ := Happening.summarized.inj (List.mem_singleton.1 h)
        rw [past, tasks_of_some task, List.length_append]
        exact Nat.lt_succ_self _

theorem foldl_next_kept (moves : List Move) :
    ∀ p : Lifetime ℓ β × List (Happening β), p.1.Orderly → Recorded p.1 p.2 →
      (moves.foldl (next st) p).1.Orderly
        ∧ Recorded (moves.foldl (next st) p).1 (moves.foldl (next st) p).2 := by
  -- what a move can do is known where no task was let go early, so both go together
  induction moves with
  | nil => exact fun p horderly hrecorded => ⟨horderly, hrecorded⟩
  | cons m moves ih =>
      intro p horderly hrecorded
      have hchange := act_change st horderly m
      exact ih _ (hchange.orderly horderly) (hchange.recorded hrecorded)

theorem run_kept (session : Session ℓ) (backoff : Backoff) (moves : List Move) :
    ((begin session backoff).run st moves).1.Orderly
      ∧ Recorded ((begin session backoff).run st moves).1
          ((begin session backoff).run st moves).2 :=
  foldl_next_kept st moves _ nofun ⟨rfl, rfl, nofun, .nil⟩

/-- Of the tasks of an orderly lifetime at most the one that is held runs. -/
theorem countP_unfinished (h : l.Orderly) : l.tasks.countP (!·.isFinished) ≤ 1 := by
  have hpast : l.past.countP (!·.isFinished) = 0 := List.countP_eq_zero.2 fun t ht => by
    rw [h t ht]
    exact Bool.false_ne_true
  have hheld : l.client.task.toList.countP (!·.isFinished) ≤ l.client.task.toList.length :=
    List.countP_le_length
  have hone : l.client.task.toList.length ≤ 1 := by
    cases l.client.task with
    | none => exact Nat.zero_le 1
    | some t => exact Nat.le_refl 1
  unfold tasks
  rw [List.countP_append]
  omega

theorem countP_isPolling_le (ts : List (Task β)) :
    ts.countP (·.isPolling) ≤ ts.countP (!·.isFinished) :=
  List.countP_mono_left fun t _ hpolling => by
    cases hended : t.isFinished with
    | false => rfl
    | true =>
        rw [Task.isPolling_of_isFinished hended] at hpolling
        exact nomatch hpolling

/-- **An invalid state** is the answer to a start beside a running task, and to no other,
unless the preparation answers so itself. -/
theorem start_invalid_iff (h : l.Orderly) (hwaiting : l.waiting = false) :
    (∃ detail fx, (l.act st .start).2 = [.refused (.invalidState detail) fx]) ↔
      (∃ t ∈ l.tasks, t.isFinished = false)
        ∨ ∃ detail, (st.prepare l.client.session).answer = .error (.invalidState detail) := by
  cases hbusy : l.client.isSyncing with
  | true =>
      rw [start_refused st hwaiting hbusy]
      exact iff_of_true ⟨_, _, rfl⟩ (.inl ((busy_iff h).1 hbusy))
  | false =>
      have hended : ¬∃ t ∈ l.tasks, t.isFinished = false := fun hrunning =>
        ne_true_of_eq_false hbusy ((busy_iff h).2 hrunning)
      rw [or_iff_right hended]
      cases hprepare : (st.prepare l.client.session).answer with
      | ok u =>
          rw [start_prepared st hwaiting hbusy hprepare]
          refine iff_of_false ?_ ?_
          · rintro ⟨detail, fx, hrefused⟩
            exact nomatch (List.cons.inj hrefused).1
          · rintro ⟨detail, hinvalid⟩
            exact nomatch hinvalid
      | error e =>
          rw [start_failed st hwaiting hbusy hprepare]
          constructor
          · rintro ⟨detail, fx, hrefused⟩
            obtain ⟨rfl, -⟩ := Happening.refused.inj (List.cons.inj hrefused).1
            exact ⟨detail, rfl⟩
          · rintro ⟨detail, hinvalid⟩
            obtain rfl := Except.error.inj hinvalid
            exact ⟨detail, _, rfl⟩

/-! ## §4. Every interleaving. -/

/-- **One task at a time.**  However the steps of the tasks, the calls of the owner and the
rest of the world interleave:
at most one task is unfinished, and at most one poll is without a reply;
a start beside an unfinished task is answered with an invalid state, and changes and does
nothing at all; no other start is, unless its preparation is;
a start whose preparation fails leaves no task running, and the next one, when its
preparation works, starts a task;
tasks are numbered by their starts, a summary is that of a started task, and after it there
is no poll, no reply, no batch and no other summary of the task. -/
theorem one_task_at_a_time (session : Session ℓ) (backoff : Backoff) (moves : List Move) :
    let l := ((begin session backoff).run st moves).1
    let log := ((begin session backoff).run st moves).2
    l.tasks.countP (!·.isFinished) ≤ 1
      ∧ log.countP (·.isReply) ≤ log.countP (·.isPoll)
      ∧ log.countP (·.isPoll) ≤ log.countP (·.isReply) + 1
      ∧ (l.waiting = false → (∃ t ∈ l.tasks, t.isFinished = false) →
          l.act st .start = (l, [.refused (.invalidState "sync is already running") []]))
      ∧ (l.waiting = false →
          ((∃ detail fx, (l.act st .start).2 = [.refused (.invalidState detail) fx]) ↔
            (∃ t ∈ l.tasks, t.isFinished = false)
              ∨ ∃ detail, (st.prepare l.client.session).answer = .error (.invalidState detail)))
      ∧ (l.waiting = false → (∀ t ∈ l.tasks, t.isFinished = true) →
          ∀ e, (st.prepare l.client.session).answer = .error e →
            let l' := (l.act st .start).1
            (∀ t ∈ l'.tasks, t.isFinished = true)
              ∧ ∀ f, (st.prepare (l'.act st (.elsewhere f)).1.client.session).answer = .ok () →
                ∃ fx, ((l'.act st (.elsewhere f)).1.act st .start).2 =
                  [.started l.tasks.length fx])
      ∧ log.filterMap Happening.started? = List.range l.tasks.length
      ∧ (∀ n s, .summarized n s ∈ log → n < l.tasks.length)
      ∧ log.Pairwise fun x y => ∀ n s, x = .summarized n s → y.task? ≠ some n := by
  intro l log
  obtain ⟨horderly, hrecorded⟩ : l.Orderly ∧ Recorded l log := run_kept st session backoff moves
  have hunfinished := countP_unfinished horderly
  have hpolling := countP_isPolling_le l.tasks
  have hpolls := hrecorded.polls
  refine ⟨hunfinished, by omega, by omega, ?_, ?_, ?_, hrecorded.starts, ?_, hrecorded.last⟩
  · exact fun hwaiting hbusy => start_refused st hwaiting ((busy_iff horderly).2 hbusy)
  · exact fun hwaiting => start_invalid_iff st horderly hwaiting
  · intro hwaiting hended e hprepare
    have hidle := (idle_iff horderly).2 hended
    rw [start_failed st hwaiting hidle hprepare]
    refine ⟨hended, fun f hok => ⟨_, congrArg Prod.snd (start_prepared st ?_ ?_ hok)⟩⟩
    · exact hwaiting
    · exact hidle
  · exact fun n s hmem => Nat.lt_of_lt_of_le (hrecorded.settled n s hmem) l.length_past_le

/-- A task that waits for its first reply keeps another one from being started, also when
it is asked to stop: the stop stays requested. -/
theorem second_start_refused :
    let user : UserId := ⟨"@starting:x", by decide +kernel⟩
    let st := Cursor.strategy {}
    let l := ((begin ⟨{}, { classifier := { user } }⟩ .standard).run st [.start, .work 0, .stop]).1
    l.waiting = false ∧ (∃ t ∈ l.tasks, t.isFinished = false) ∧ l.client.stop.requested = true
      ∧ l.act st .start = (l, [.refused (.invalidState "sync is already running") []]) := by
  intro user st l
  have hwaiting : l.waiting = false := rfl
  have hrunning : ∃ t ∈ l.tasks, t.isFinished = false := ⟨_, List.mem_singleton.2 rfl, rfl⟩
  obtain ⟨-, -, -, hrefused, -⟩ := one_task_at_a_time st ⟨{}, { classifier := { user } }⟩ .standard
    [.start, .work 0, .stop]
  exact ⟨hwaiting, hrunning, rfl, hrefused hwaiting hrunning⟩

/-! ## §5. Waiting step by step. -/

theorem seen_unsummarized (n : Nat) (c : Client ℓ β) (m : Nat) (s : Summary) :
    .summarized m s ∉ seen n c (c.step st) := by
  obtain hidle | ⟨-, t, t', -, -, -, hstep⟩ := step_cases st n c
  · rw [hidle]
    exact List.not_mem_nil
  · exact hstep.unsummarized m s

theorem act_work_held (l : Lifetime ℓ β) :
    l.act st (.work l.past.length) =
      ({ l with client := (l.client.step st).state },
        seen l.past.length l.client (l.client.step st)) := by
  unfold act
  dsimp only
  rw [seenBy_held, leftBy_held]

/-- A task that can take no step has settled. -/
theorem settle_idle {c : Client ℓ β} (h : c.step st = ⟨c, [], false⟩) (k : Nat) :
    c.settle st k = ⟨c, [], ()⟩ := by
  cases k with
  | zero => rfl
  | succ k =>
      unfold Client.settle
      rw [h]
      rfl

theorem settle_succ {c : Client ℓ β} (h : (c.step st).answer = true) (k : Nat) :
    (c.settle st (k + 1)).state = ((c.step st).state.settle st k).state := by
  rw [Client.settle]
  dsimp only
  rw [if_pos h]

/-- A task does not get lost. -/
theorem settle_task (k : Nat) : ∀ c : Client ℓ β,
    (c.settle st k).state.task.isSome = c.task.isSome := by
  induction k with
  | zero => exact fun c => rfl
  | succ k ih =>
      intro c
      obtain hidle | ⟨hstepped, t, t', ht, -, ht', -⟩ := step_cases st 0 c
      · rw [settle_idle st hidle]
      · rw [settle_succ st hstepped, ih, ht, ht']
        rfl

/-- **The held task settles** by its own moves. -/
theorem work_settle (k : Nat) : ∀ (l : Lifetime ℓ β) (log : List (Happening β)),
    let p := (List.replicate k (Move.work l.past.length)).foldl (next st) (l, log)
    p.1 = { l with client := (l.client.settle st k).state }
      ∧ ∀ n s, .summarized n s ∈ p.2 → .summarized n s ∈ log := by
  induction k with
  | zero => exact fun l log => ⟨rfl, fun n s h => h⟩
  | succ k ih =>
      intro l log
      have hnext : next st (l, log) (.work l.past.length) =
          ({ l with client := (l.client.step st).state },
            log ++ seen l.past.length l.client (l.client.step st)) := by
        unfold next
        rw [act_work_held]
      obtain ⟨hclient, hlog⟩ := ih { l with client := (l.client.step st).state }
        (log ++ seen l.past.length l.client (l.client.step st))
      dsimp only at hclient hlog ⊢
      rw [List.replicate_succ, List.foldl_cons, hnext]
      refine ⟨hclient.trans ?_, fun n s h => ?_⟩
      · obtain hidle | ⟨hstepped, -⟩ := step_cases st l.past.length l.client
        · rw [hidle, settle_idle st hidle, settle_idle st hidle]
        · rw [settle_succ st hstepped]
      · obtain hold | hnew := List.mem_append.1 (hlog n s h)
        · exact hold
        · exact absurd hnew (seen_unsummarized st _ _ n s)

theorem act_stopAndWait (hwaiting : l.waiting = false) :
    l.act st .stopAndWait =
      ({ l with client := l.client.requestStop, waiting := l.client.task.isSome }, []) := by
  unfold act
  dsimp only
  rw [if_neg (ne_true_of_eq_false hwaiting)]

theorem act_awaited_idle (hwaiting : l.waiting = false) : l.act st .awaited = (l, []) := by
  unfold act
  dsimp only
  rw [hwaiting]

theorem act_awaited {t : Task β} (hwaiting : l.waiting = true) (ht : l.client.task = some t)
    (hended : t.isFinished = true) :
    l.act st .awaited =
      ({ client := { l.client with task := none }, past := l.tasks, waiting := false },
        [.summarized l.past.length t.summary]) := by
  unfold act
  dsimp only
  rw [hwaiting, ht]
  dsimp only
  rw [if_pos hended]

/-- **Waiting step by step** is the client's own `stopAndWait`, when the task comes to its
end: it leaves the same client, and the owner is given the same summary. -/
theorem stopAndWait_run (l : Lifetime ℓ β) (hwaiting : l.waiting = false)
    (hended : ∀ t ∈ (l.client.requestStop.settle st Client.lastSteps).state.task,
      t.isFinished = true) :
    let p := l.run st
      (.stopAndWait :: (List.replicate Client.lastSteps (.work l.past.length) ++ [.awaited]))
    p.1.client = (l.client.stopAndWait st).state
      ∧ p.1.waiting = false
      ∧ ∀ s, (l.client.stopAndWait st).answer = some s ↔ .summarized l.past.length s ∈ p.2 := by
  obtain ⟨hsettled, hlog⟩ := work_settle st Client.lastSteps
    { l with client := l.client.requestStop, waiting := l.client.task.isSome } []
  have hkept : _ = l.client.task.isSome := settle_task st Client.lastSteps l.client.requestStop
  have hbegin : next st (l, []) .stopAndWait =
      ({ l with client := l.client.requestStop, waiting := l.client.task.isSome }, []) := by
    unfold next
    rw [act_stopAndWait st hwaiting]
    rfl
  -- the owner begins to wait, the task settles, and the owner is back
  unfold run
  rw [List.foldl_cons, hbegin, List.foldl_append]
  dsimp only at hsettled hlog ⊢
  cases hworked : (List.replicate Client.lastSteps (Move.work l.past.length)).foldl (next st)
      ({ l with client := l.client.requestStop, waiting := l.client.task.isSome }, []) with
  | mk l' log =>
      rw [hworked] at hsettled hlog
      have hquiet : ∀ s, .summarized l.past.length s ∉ log := fun s h =>
        absurd (hlog l.past.length s h) List.not_mem_nil
      rw [List.foldl_cons, List.foldl_nil]
      unfold next Client.stopAndWait
      dsimp only at hsettled ⊢
      cases htask : (l.client.requestStop.settle st Client.lastSteps).state.task with
      | none =>
          rw [htask] at hkept
          have hidle : l'.waiting = false := by
            rw [hsettled]
            exact hkept.symm
          -- there was no task to wait for
          rw [act_awaited_idle st hidle, List.append_nil]
          refine ⟨?_, hidle, fun s => iff_of_false nofun (hquiet s)⟩
          rw [hsettled, ← htask]
      | some t =>
          rw [htask] at hkept
          have hwaits : l'.waiting = true := by
            rw [hsettled]
            exact hkept.symm
          have hheld : l'.client.task = some t := by
            rw [hsettled]
            exact htask
          have hpast : l'.past.length = l.past.length := by rw [hsettled]
          rw [act_awaited st hwaits hheld (hended t htask), hpast]
          refine ⟨by rw [hsettled], rfl, fun s => ?_⟩
          constructor
          · intro h
            obtain rfl := Option.some.inj h
            exact List.mem_append_right _ (List.mem_singleton.2 rfl)
          · intro h
            obtain hold | hnew := List.mem_append.1 h
            · exact absurd hold (hquiet s)
            · obtain ⟨-, rfl⟩ := Happening.summarized.inj (List.mem_singleton.1 hnew)
              rfl

end

end Lifetime

end RoomSync
