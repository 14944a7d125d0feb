/-
  RoomSync.Proofs.Session.TaskHistories
  ─────────────────────────────────────
  **THE TASKS OF A CLIENT KEEP THEIR ACCOUNTS.**

  The loop of a task is there in two forms.  In its surroundings (`Task.step`)
  a poll has its reply at once and a rest passes in one step.  In a client
  (`Client.step`) the steps are those between which an owner calls: a poll may
  have to wait, and a rest lasts until time passes.  They are one loop: a step
  that a client takes is the step of its task on the session and the stop
  signal that it finds there, while nobody else has a turn (`advanced`), and
  the step leaves the entry that a history has of it.

      state_step            — a step of a client is a step of its task
      wake_of_isResting     — so is the end of a rest
      answer_step_iff       — when a client takes a step
      act_turn              — what a move is to the task that is held
      tasks_account         — the accounts of all tasks, for every interleaving
-/
import Mathlib.Data.List.Chain
import RoomSync.Proofs.Retry.Accounting
import RoomSync.Proofs.Session.Lifecycle

namespace RoomSync

variable {ℓ β : Type}

/-! ## §1. Histories as lists. -/

namespace Task

variable {ω : Type} {kept : ω → ω → Prop}

/-- Nobody else has a turn. -/
def alone : Schedule := fun _ => []

/-- A task with the entries of its steps since its start.  Each step is taken in the
phase to which the one before it led, on a state that others may have changed within
the limits of `kept`. -/
inductive Led (kept : ω → ω → Prop) : Task β → List (Entry ω β) → Prop
  | new : Led kept {} []
  | step {t : Task β} {h : List (Entry ω β)} (before : Led kept t h) (x : Entry ω β)
      (phase : t.phase = x.phase) (found : ∀ y ∈ h.getLast?, kept y.left x.found) :
      Led kept ⟨x.next, x.tally t.summary⟩ (h ++ [x])

/-- Where nobody has a turn, the stop signal stays. -/
theorem stop_advance_alone (f : Follower ω β) (p : Task β × Scene ω) :
    (advance f alone p).2.stop = p.2.stop := by
  obtain ⟨⟨phase, summary⟩, s⟩ := p
  cases phase <;> rfl

theorem Entry.phase_ne_finished (x : Entry ω β) : x.phase ≠ .finished := by
  cases x <;> nofun

section

variable {t : Task β} {h : List (Entry ω β)}

theorem Led.phase_eq (hled : Led kept t h) {x : Entry ω β} (hx : x ∈ h.getLast?) :
    t.phase = x.next := by
  cases hled with
  | new => exact nomatch hx
  | step before y phase found =>
    rw [List.getLast?_concat] at hx
    rw [← Option.some.inj hx]

/-- **The summary counts the entries.** -/
theorem Led.summary_eq (hled : Led kept t h) :
    t.summary = ⟨h.countP Entry.isServed, h.countP Entry.isRetried⟩ := by
  induction hled with
  | new => rfl
  | step before x phase found ih =>
    rw [ih, List.countP_append, List.countP_append, List.countP_singleton, List.countP_singleton]
    rfl

/-- **Each step goes on** where the one before it led. -/
theorem Led.isChain (hled : Led kept t h) :
    h.IsChain fun x y => y.phase = x.next ∧ kept x.left y.found := by
  induction hled with
  | new => exact .nil
  | step before x phase found ih =>
    refine List.isChain_append.2 ⟨ih, .singleton x, fun y hy z hz => ?_⟩
    obtain rfl := Option.some.inj hz
    exact ⟨phase.symm.trans (before.phase_eq hy), found y hy⟩

/-- **A task has returned** when one of its steps saw a stop. -/
theorem Led.isFinished_iff (hled : Led kept t h) :
    t.isFinished = true ↔ ∃ x ∈ h, x.seesStop = true := by
  rw [Task.isFinished_iff]
  induction hled with
  | new => exact iff_of_false nofun fun ⟨x, hx, _⟩ => List.not_mem_nil hx
  | step before x phase found ih =>
    rw [Entry.next_eq_finished_iff]
    constructor
    · exact fun hsees => ⟨x, List.mem_append_right _ List.mem_cons_self, hsees⟩
    · rintro ⟨y, hy, hsees⟩
      obtain hy | hy := List.mem_append.1 hy
      · -- a task that has returned takes no step
        have hreturned := ih.2 ⟨y, hy, hsees⟩
        rw [phase] at hreturned
        exact absurd hreturned x.phase_ne_finished
      · rwa [List.mem_singleton.1 hy] at hsees

end

end Task

/-! ## §2. The task of a client. -/

/-- What a task follows in a session of this kind. -/
def Strategy.follower (st : Strategy ℓ β) : Task.Follower (Session ℓ) β where
  poll s := ((st.poll s).state, (st.poll s).answer)
  process batch s := ((st.process batch s).state, (st.process batch s).answer)

namespace Client

variable (st : Strategy ℓ β)

/-- What a task of the client finds when it takes a step. -/
def scene (c : Client ℓ β) : Task.Scene (Session ℓ) := { own := c.session, stop := c.stop }

/-- The client after a step of this task. -/
def advanced (c : Client ℓ β) (t : Task β) : Client ℓ β :=
  let (t, s) := Task.advance st.follower Task.alone (t, c.scene)
  { c with session := s.own, stop := s.stop, task := some t }

theorem advanced_polling (c : Client ℓ β) (summary : Summary) :
    c.advanced st ⟨.polling, summary⟩ =
      { c with
        session := (st.poll c.session).state
        task := some (Task.polled ⟨.polling, summary⟩ c.stop.requested
          (st.poll c.session).answer) } := rfl

/-- A rest in which nobody has a turn is whole, unless a stop was requested before. -/
theorem advanced_resting (c : Client ℓ β) (summary : Summary) :
    c.advanced st ⟨.resting, summary⟩ =
      { c with task := some (Task.rested ⟨.resting, summary⟩ (!c.stop.requested)) } := by
  obtain ⟨session, backoff, ⟨requested⟩, task⟩ := c
  cases requested <;> rfl

section

variable {st} {c : Client ℓ β} {t : Task β}

/-- **A step of a client is a step of its task.** -/
theorem state_step (ht : c.task = some t) (hstep : (c.step st).answer = true) :
    (c.step st).state = c.advanced st t := by
  obtain ⟨phase, summary⟩ := t
  unfold step at hstep ⊢
  rw [ht] at hstep ⊢
  cases phase with
  | finished => exact nomatch hstep
  | ready => rfl
  | processing batch => rfl
  | polling =>
    rw [advanced_polling]
    unfold Strategy.poll
    dsimp only at hstep ⊢
    cases hreply : st.receive? c.session with
    | none =>
      rw [hreply] at hstep
      exact nomatch hstep
    | some replied => rfl
  | resting =>
    rw [advanced_resting]
    dsimp only at hstep ⊢
    cases hstopped : c.stop.requested with
    | false =>
      rw [hstopped] at hstep
      exact nomatch hstep
    | true => rfl

theorem exists_of_isResting (hresting : c.isResting = true) :
    ∃ t, c.task = some t ∧ t.isFinished = false := by
  unfold isResting at hresting
  cases ht : c.task with
  | none =>
    rw [ht] at hresting
    exact nomatch hresting
  | some t =>
    refine ⟨t, rfl, ?_⟩
    obtain ⟨phase, summary⟩ := t
    rw [ht] at hresting
    cases phase with
    | resting => rfl
    | finished | ready | polling | processing batch => exact nomatch hresting

/-- **The end of a rest** is a step of the task, too. -/
theorem wake_of_isResting (ht : c.task = some t) (hresting : c.isResting = true) :
    c.wake = c.advanced st t := by
  obtain ⟨phase, summary⟩ := t
  unfold wake
  rw [if_pos hresting]
  unfold isResting at hresting
  rw [ht] at hresting ⊢
  cases phase with
  | finished | ready | polling | processing batch => exact nomatch hresting
  | resting => rw [advanced_resting]; rfl

/-- **When a client takes a step**: its task has not returned, waits for no reply, and
rests no longer than until a stop is requested. -/
theorem answer_step_iff (ht : c.task = some t) :
    (c.step st).answer = true ↔
      t.isFinished = false ∧ c.isWaiting st = false
        ∧ (c.isResting = true → c.stop.requested = true) := by
  obtain ⟨phase, summary⟩ := t
  unfold step isWaiting isResting
  rw [ht]
  cases phase with
  | finished => exact iff_of_false nofun fun h => nomatch h.1
  | ready => exact iff_of_true rfl ⟨rfl, rfl, nofun⟩
  | processing batch => exact iff_of_true rfl ⟨rfl, rfl, nofun⟩
  | polling =>
    dsimp only
    cases st.receive? c.session with
    | none => exact iff_of_false nofun fun h => nomatch h.2.1
    | some replied => exact iff_of_true rfl ⟨rfl, rfl, nofun⟩
  | resting =>
    dsimp only
    cases c.stop.requested with
    | false => exact iff_of_false nofun fun h => nomatch h.2.2 rfl
    | true => exact iff_of_true rfl ⟨rfl, rfl, fun _ => rfl⟩

end

/-- The entry that a step of the task leaves. -/
def entryLeft (c : Client ℓ β) : Option (Task.Entry (Session ℓ) β) :=
  c.task.bind fun t => Task.entryOf st.follower Task.alone (t, c.scene)

/-- A task that has not returned leaves an entry of its step, and what it says is so. -/
theorem exists_entry {c : Client ℓ β} {t : Task β} (ht : c.task = some t)
    (hunfinished : t.isFinished = false) :
    ∃ x, c.entryLeft st = some x ∧ t.phase = x.phase ∧ c.session = x.found
      ∧ c.advanced st t =
          { c with session := x.left, task := some ⟨x.next, x.tally t.summary⟩ } := by
  obtain ⟨x, hx⟩ : ∃ x, Task.entryOf st.follower Task.alone (t, c.scene) = some x := by
    rw [← Option.ne_none_iff_exists']
    refine fun hnone => ne_true_of_eq_false hunfinished ?_
    exact Task.isFinished_iff.2 (Task.entryOf_eq_none_iff.1 hnone)
  have htaken := Task.taken_of_entryOf hx
  refine ⟨x, ?_, htaken.phase, htaken.found, ?_⟩
  · unfold entryLeft
    rw [ht]
    exact hx
  · unfold advanced
    dsimp only
    rw [htaken.task, htaken.left, Task.stop_advance_alone]
    rfl

end Client

/-! ## §3. All tasks of a lifetime. -/

namespace Lifetime

variable (st : Strategy ℓ β)

/-- The entry that a move leaves, if it is a step of the task that is held. -/
def entryLeft (l : Lifetime ℓ β) : Move → Option (Task.Entry (Session ℓ) β)
  | .work n => if n = l.past.length ∧ (l.client.step st).answer then l.client.entryLeft st else none
  | .wake n => if n = l.past.length ∧ l.client.isResting then l.client.entryLeft st else none
  | _ => none

/-- One move more, after the entries left before, each with the number of its task. -/
def note (p : Lifetime ℓ β × List (Nat × Task.Entry (Session ℓ) β)) (m : Move) :
    Lifetime ℓ β × List (Nat × Task.Entry (Session ℓ) β) :=
  ((p.1.act st m).1, p.2 ++ ((p.1.entryLeft st m).map (p.1.past.length, ·)).toList)

/-- Moves one after the other, and the entries that they leave. -/
def notes (l : Lifetime ℓ β) (moves : List Move) :
    Lifetime ℓ β × List (Nat × Task.Entry (Session ℓ) β) := moves.foldl (note st) (l, [])

/-- What a move is to the tasks, with the entry that it leaves. -/
inductive Turn (l l' : Lifetime ℓ β) : Option (Task.Entry (Session ℓ) β) → Prop
  /-- The task that is held takes a step. -/
  | taken {t : Task β} {x : Task.Entry (Session ℓ) β} (task : l.client.task = some t)
      (phase : t.phase = x.phase) (found : l.client.session = x.found)
      (task' : l'.client.task = some ⟨x.next, x.tally t.summary⟩)
      (left : l'.client.session = x.left) (past : l'.past = l.past) : Turn l l' (some x)
  /-- No task moves, and what a running one goes by stays. -/
  | kept (task : l'.client.task = l.client.task) (past : l'.past = l.past)
      (own : l.client.isSyncing = true → l'.client.session.loop = l.client.session.loop) :
      Turn l l' none
  /-- No task runs.  The one that is held is let go, and a new one may be taken up. -/
  | ended (idle : l.client.isSyncing = false) (past : l'.past = l.tasks)
      (task' : ∀ t ∈ l'.client.task, t = {}) : Turn l l' none

section

variable {st} {l : Lifetime ℓ β}

theorem Turn.refl (l : Lifetime ℓ β) : Turn l l none := .kept rfl rfl fun _ => rfl

/-- A step that the client takes up as a step of its task. -/
theorem turn_advanced {c : Client ℓ β} {t : Task β} (ht : l.client.task = some t)
    (hunfinished : t.isFinished = false) (hc : c = l.client.advanced st t) :
    Turn l { l with client := c } (l.client.entryLeft st) := by
  obtain ⟨x, hx, hphase, hfound, hafter⟩ := Client.exists_entry st ht hunfinished
  rw [hx, hc, hafter]
  exact .taken ht hphase hfound rfl rfl rfl

theorem work_turn (h : l.Orderly) (n : Nat) :
    Turn l (l.act st (.work n)).1 (l.entryLeft st (.work n)) := by
  unfold entryLeft
  dsimp only
  by_cases hheld : n = l.past.length
  · subst hheld
    rw [act_work_held]
    obtain hidle | ⟨hstepped, t, -, ht, hunfinished, -⟩ := step_cases st l.past.length l.client
    · rw [hidle, if_neg fun hstepped => nomatch hstepped.2]
      exact Turn.refl l
    · rw [if_pos ⟨rfl, hstepped⟩]
      exact turn_advanced ht hunfinished (Client.state_step ht hstepped)
  · rw [if_neg fun hstepped => hheld hstepped.1]
    show Turn l (l.leftBy n ((l.seenBy n).step st).state) none
    obtain hidle | ⟨-, t, -, ht, hunfinished, -⟩ := step_cases st n (l.seenBy n)
    · rw [hidle, leftBy_seenBy]
      exact Turn.refl l
    · exact absurd (eq_held h ht hunfinished) hheld

theorem wake_turn (h : l.Orderly) (n : Nat) :
    Turn l (l.act st (.wake n)).1 (l.entryLeft st (.wake n)) := by
  unfold entryLeft
  show Turn l (l.leftBy n (l.seenBy n).wake) _
  dsimp only
  cases hresting : (l.seenBy n).isResting with
  | false =>
    have hslept : (l.seenBy n).wake = l.seenBy n := by
      unfold Client.wake
      rw [hresting]
      rfl
    rw [hslept, leftBy_seenBy, if_neg]
    · exact Turn.refl l
    · rintro ⟨rfl, hheld⟩
      rw [seenBy_held, hheld] at hresting
      exact nomatch hresting
  | true =>
    obtain ⟨t, ht, hunfinished⟩ := Client.exists_of_isResting hresting
    obtain rfl := eq_held h ht hunfinished
    rw [seenBy_held] at hresting ht ⊢
    rw [leftBy_held, if_pos ⟨rfl, hresting⟩]
    exact turn_advanced ht hunfinished (Client.wake_of_isResting ht hresting)

theorem start_turn (l : Lifetime ℓ β) : Turn l (l.act st .start).1 none := by
  cases hwaiting : l.waiting with
  | true =>
    unfold act
    dsimp only
    rw [if_pos hwaiting]
    exact Turn.refl l
  | false =>
    cases hbusy : l.client.isSyncing with
    | true =>
      rw [start_refused st hwaiting hbusy]
      exact Turn.refl l
    | false =>
      cases hprepare : (st.prepare l.client.session).answer with
      | ok u =>
        rw [start_prepared st hwaiting hbusy hprepare]
        exact .ended hbusy rfl fun t ht => (Option.some.inj ht).symm
      | error e =>
        rw [start_failed st hwaiting hbusy hprepare]
        exact .kept rfl rfl fun hrunning => absurd hrunning (ne_true_of_eq_false hbusy)

/-- **What a move is to the tasks**, where none was let go before its end. -/
theorem act_turn (h : l.Orderly) (m : Move) : Turn l (l.act st m).1 (l.entryLeft st m) := by
  cases m with
  | work n => exact work_turn h n
  | wake n => exact wake_turn h n
  | elsewhere f => exact .kept rfl rfl fun _ => rfl
  | start => exact start_turn l
  | stop =>
    show Turn l (l.act st .stop).1 none
    unfold act
    dsimp only
    cases l.waiting with
    | true => exact Turn.refl l
    | false => exact .kept rfl rfl fun _ => rfl
  | stopAndWait =>
    show Turn l (l.act st .stopAndWait).1 none
    unfold act
    dsimp only
    cases l.waiting with
    | true => exact Turn.refl l
    | false => exact .kept rfl rfl fun _ => rfl
  | awaited =>
    show Turn l (l.act st .awaited).1 none
    unfold act
    dsimp only
    cases l.waiting with
    | false => exact Turn.refl l
    | true =>
      cases htask : l.client.task with
      | none => exact Turn.refl l
      | some t =>
        dsimp only
        cases hended : t.isFinished with
        | false => exact Turn.refl l
        | true =>
          refine .ended (isSyncing_eq_false_iff.2 fun t' ht' => ?_) rfl nofun
          rw [htask] at ht'
          rwa [← Option.some.inj ht']

/-! ## §4. What every interleaving keeps. -/

/-- The entries of one task. -/
def entriesOf (n : Nat) (entries : List (Nat × Task.Entry (Session ℓ) β)) :
    List (Task.Entry (Session ℓ) β) := (entries.filter (·.1 = n)).map (·.2)

theorem entriesOf_snoc (n k : Nat) (entries : List (Nat × Task.Entry (Session ℓ) β))
    (x : Task.Entry (Session ℓ) β) :
    entriesOf n (entries ++ [(k, x)]) = entriesOf n entries ++ if k = n then [x] else [] := by
  by_cases h : k = n <;> simp [entriesOf, h]

/-- What others leave a task between its steps: the state of the session that is its own. -/
def SameLoop (s s' : Session ℓ) : Prop := s'.loop = s.loop

/-- The entries of the tasks so far. -/
structure Noted (l : Lifetime ℓ β) (entries : List (Nat × Task.Entry (Session ℓ) β)) : Prop where
  led : ∀ n t, l.tasks[n]? = some t → Task.Led SameLoop t (entriesOf n entries)
  later : ∀ n, l.tasks.length ≤ n → entriesOf n entries = []
  own : l.client.isSyncing = true → ∀ x ∈ (entriesOf l.past.length entries).getLast?,
    SameLoop x.left l.client.session

/-- A step of the task that is held. -/
theorem Noted.taken {l' : Lifetime ℓ β} {entries : List (Nat × Task.Entry (Session ℓ) β)}
    {t : Task β} {x : Task.Entry (Session ℓ) β} (h : Noted l entries)
    (task : l.client.task = some t) (phase : t.phase = x.phase) (found : l.client.session = x.found)
    (task' : l'.client.task = some ⟨x.next, x.tally t.summary⟩)
    (left : l'.client.session = x.left) (past : l'.past = l.past) :
    Noted l' (entries ++ [(l.past.length, x)]) := by
  have htasks := tasks_of_some task
  have htasks' := tasks_of_some task'
  rw [past] at htasks'
  have hrunning : l.client.isSyncing = true := by
    refine eq_true_of_ne_false fun hidle => x.phase_ne_finished ?_
    rw [← phase]
    exact Task.isFinished_iff.1 (isSyncing_eq_false_iff.1 hidle t task)
  refine ⟨fun n t' ht' => ?_, fun n hn => ?_, fun _ y hy => ?_⟩
  · rw [htasks'] at ht'
    rw [entriesOf_snoc]
    obtain hlt | heq | hgt := Nat.lt_trichotomy n l.past.length
    · -- a task of the past has no part in it
      rw [List.getElem?_append_left hlt] at ht'
      rw [if_neg (Nat.ne_of_gt hlt), List.append_nil]
      refine h.led n t' ?_
      rw [htasks, List.getElem?_append_left hlt, ht']
    · subst heq
      rw [List.getElem?_concat_length] at ht'
      rw [if_pos rfl, ← Option.some.inj ht']
      refine .step (h.led _ t ?_) x phase fun y hy => ?_
      · rw [htasks, List.getElem?_concat_length]
      · rw [← found]
        exact h.own hrunning y hy
    · rw [List.getElem?_eq_none (by rw [List.length_append]; exact hgt)] at ht'
      exact nomatch ht'
  · rw [htasks', List.length_append, List.length_singleton] at hn
    rw [entriesOf_snoc, if_neg (Nat.ne_of_lt hn), List.append_nil]
    refine h.later n ?_
    rw [htasks, List.length_append]
    exact hn
  · rw [past, entriesOf_snoc, if_pos rfl, List.getLast?_concat] at hy
    rw [← Option.some.inj hy, left]
    rfl

/-- **A move goes into the entries.** -/
theorem Turn.noted {l' : Lifetime ℓ β} {x? : Option (Task.Entry (Session ℓ) β)}
    {entries : List (Nat × Task.Entry (Session ℓ) β)} (hturn : Turn l l' x?)
    (h : Noted l entries) :
    Noted l' (entries ++ (x?.map (l.past.length, ·)).toList) := by
  cases hturn with
  | taken task phase found task' left past => exact h.taken task phase found task' left past
  | kept task past own =>
    have htasks : l'.tasks = l.tasks := by
      unfold tasks
      rw [task, past]
    have hsyncing : l'.client.isSyncing = l.client.isSyncing := by
      unfold Client.isSyncing
      rw [task]
    rw [Option.map_none, Option.toList_none, List.append_nil]
    refine ⟨?_, ?_, fun hrunning x hx => ?_⟩
    · rw [htasks]
      exact h.led
    · rw [htasks]
      exact h.later
    · rw [hsyncing] at hrunning
      rw [past] at hx
      exact (own hrunning).trans (h.own hrunning x hx)
  | ended idle past task' =>
    rw [Option.map_none, Option.toList_none, List.append_nil]
    have hnone := h.later l.tasks.length (Nat.le_refl _)
    refine ⟨fun n t ht => ?_, fun n hn => h.later n ?_, fun _ x hx => ?_⟩
    · unfold tasks at ht
      rw [past] at ht
      obtain hlt | hge := Nat.lt_or_ge n l.tasks.length
      · rw [List.getElem?_append_left hlt] at ht
        exact h.led n t ht
      · -- a task that is taken up has left no entry
        rw [List.getElem?_append_right hge] at ht
        rw [task' t (Option.mem_toList.1 (List.mem_of_getElem? ht)), h.later n hge]
        exact .new
    · have hlength := l'.length_past_le
      rw [past] at hlength
      exact Nat.le_trans hlength hn
    · rw [past, hnone] at hx
      exact nomatch hx

variable (st) in
theorem foldl_note_kept (moves : List Move) :
    ∀ p : Lifetime ℓ β × List (Nat × Task.Entry (Session ℓ) β), p.1.Orderly → Noted p.1 p.2 →
      Noted (moves.foldl (note st) p).1 (moves.foldl (note st) p).2 := by
  induction moves with
  | nil => exact fun p horderly hnoted => hnoted
  | cons m moves ih =>
    intro p horderly hnoted
    exact ih _ ((act_change st horderly m).orderly horderly) ((act_turn horderly m).noted hnoted)

variable (st) in
theorem foldl_note_fst (moves : List Move) :
    ∀ (l : Lifetime ℓ β) (entries : List (Nat × Task.Entry (Session ℓ) β))
      (log : List (Happening β)),
      (moves.foldl (note st) (l, entries)).1 = (moves.foldl (next st) (l, log)).1 := by
  induction moves with
  | nil => exact fun l entries log => rfl
  | cons m moves ih => exact fun l entries log => ih _ _ _

end

/-- **The tasks of a client keep their accounts.**  However the steps of the tasks, the
calls of the owner and the rest of the world interleave: the summary of a task counts its
own entries; it has returned exactly when one of its steps saw a stop; and each of its
steps goes on where the one before it led, on the session as that one left it but for what
happened in the world. -/
theorem tasks_account (session : Session ℓ) (backoff : Backoff) (moves : List Move) :
    let l := ((begin session backoff).run st moves).1
    let entries := ((begin session backoff).notes st moves).2
    ∀ n t, l.tasks[n]? = some t →
      let h := entriesOf n entries
      t.summary = ⟨h.countP Task.Entry.isServed, h.countP Task.Entry.isRetried⟩
        ∧ (t.isFinished = true ↔ ∃ x ∈ h, x.seesStop = true)
        ∧ h.IsChain fun x y => y.phase = x.next ∧ y.found.loop = x.left.loop := by
  intro l entries n t ht
  have hnoted := foldl_note_kept st moves (begin session backoff, []) nofun
    ⟨nofun, fun _ _ => rfl, nofun⟩
  have hsame : (moves.foldl (note st) (begin session backoff, [])).1 = l :=
    foldl_note_fst st moves _ _ _
  have hled := hnoted.led n t (by rw [hsame]; exact ht)
  exact ⟨hled.summary_eq, hled.isFinished_iff, hled.isChain⟩

end Lifetime

end RoomSync
