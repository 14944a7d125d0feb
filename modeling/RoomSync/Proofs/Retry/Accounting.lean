/-
  RoomSync.Proofs.Retry.Accounting
  ────────────────────────────────
  **WHAT A TASK DOES BETWEEN ITS START AND A STOP.**

  A task looks at the stop signal at four places, and others may change the
  signal between any two of them.  So a run is taken among others who have their
  turn at every moment (`Schedule`): during a poll, while a batch is taken in,
  and before, during and after the sleep of a rest.  Every step leaves one entry
  with the state that was found, the state that was left, and what the stop
  signal said when it was looked at:

      history        — the entries of a run, step by step
      Taken          — what one entry says of the step that left it
      Asked          — a stop was requested by some moment
      Ordered        — which entry may follow which, and on which state
      Accounted      — the summary is the count of the entries
      run_accounts   — all of it, for a run of any length

  A history has no bound: a run of more steps reads more of the same history.
-/
import Mathlib.Data.List.Basic
import Mathlib.Logic.Function.Iterate
import RoomSync.Retry.Stop
import RoomSync.Retry.Task

namespace RoomSync

namespace StopSignal

/-- What stands after changes stood before them or is one of them. -/
theorem asked_of_changes {changes : List StopChange} {s : StopSignal}
    (h : (changes.foldl change s).requested = true) :
    s.requested = true ∨ .request ∈ changes := by
  induction changes generalizing s with
  | nil => exact .inl h
  | cons c changes ih =>
    rw [List.foldl_cons] at h
    obtain hs | hmem := ih h
    · cases c with
      | request => exact .inr List.mem_cons_self
      | reset => exact absurd hs Bool.false_ne_true
    · exact .inr (List.mem_cons_of_mem _ hmem)

end StopSignal

namespace Task

/-! ## §1. A task among others. -/

/-- What others do with the stop signal, moment by moment. -/
abbrev Schedule := Nat → List StopChange

/-- What a task follows: a poll and the taking in of a batch take its state on,
whether they succeed or fail. -/
structure Follower (ω β : Type) where
  poll : ω → ω × Except SyncError β
  process : β → ω → ω × Except SyncError Unit

/-- The state of what a task follows, the stop signal, and the time. -/
structure Scene (ω : Type) where
  own : ω
  stop : StopSignal := {}
  moment : Nat := 0

namespace Scene

variable {ω : Type} (others : Schedule)

/-- A moment passes, and others have their turn. -/
def pass (s : Scene ω) : Scene ω :=
  { s with stop := (others s.moment).foldl StopSignal.change s.stop, moment := s.moment + 1 }

/-- A moment passes asleep; the answer is whether the sleep was whole. -/
def sleep (s : Scene ω) : Scene ω × Bool :=
  let (stop, whole) := s.stop.sleep (others s.moment)
  ({ s with stop, moment := s.moment + 1 }, whole)

/-- Between these two scenes a stop was requested, if none stood at the first. -/
def Asked (s₀ s : Scene ω) : Prop :=
  s₀.stop.requested = true ∨ ∃ m, s₀.moment ≤ m ∧ m < s.moment ∧ .request ∈ others m

/-- The time does not run back, and no stop stands that nobody requested. -/
structure Heard (s₀ s : Scene ω) : Prop where
  later : s₀.moment ≤ s.moment
  asked : s.stop.requested = true → Asked others s₀ s

section Hearing

variable {others} {s₀ s s' : Scene ω}

theorem Asked.mono (h : Asked others s₀ s) (hle : s.moment ≤ s'.moment) : Asked others s₀ s' := by
  obtain hstands | ⟨m, hfrom, hto, hmem⟩ := h
  · exact .inl hstands
  · exact .inr ⟨m, hfrom, by omega, hmem⟩

theorem heard_self (s₀ : Scene ω) : Heard others s₀ s₀ := ⟨Nat.le_refl _, .inl⟩

/-- What is requested at a moment is requested by the next one. -/
theorem Heard.asked_next (h : Heard others s₀ s) (hnext : s'.moment = s.moment + 1)
    (hask : s.stop.requested = true ∨ .request ∈ others s.moment) : Asked others s₀ s' := by
  obtain hstands | hmem := hask
  · exact (h.asked hstands).mono (by omega)
  · exact .inr ⟨s.moment, h.later, by omega, hmem⟩

theorem Heard.pass (h : Heard others s₀ s) : Heard others s₀ (s.pass others) where
  later := Nat.le_succ_of_le h.later
  asked hreq := h.asked_next rfl (StopSignal.asked_of_changes hreq)

/-- After a sleep that was not whole, a stop was requested. -/
theorem Heard.sleep (h : Heard others s₀ s) :
    Heard others s₀ (s.sleep others).1
      ∧ ((s.sleep others).2 = false → Asked others s₀ (s.sleep others).1) := by
  constructor
  · exact ⟨Nat.le_succ_of_le h.later, fun hreq =>
      h.asked_next rfl (StopSignal.asked_of_changes hreq)⟩
  · intro hwoken
    apply h.asked_next rfl
    -- what is not whole is a conjunction with a false part
    have hparts : (!s.stop.requested && !(others s.moment).contains .request) = false := hwoken
    rw [Bool.and_eq_false_iff, Bool.not_eq_false', Bool.not_eq_false',
      List.contains_iff_mem] at hparts
    exact hparts

/-- The state that is followed plays no part in it. -/
theorem Heard.own (h : Heard others s₀ s) (own : ω) : Heard others s₀ { s with own } :=
  ⟨h.later, h.asked⟩

end Hearing

end Scene

variable {ω β : Type}

/-- The surroundings of a task that follows this among others.  A rest begins
before its sleep and ends after it. -/
def Follower.surroundings (f : Follower ω β) (others : Schedule) :
    Surroundings (Scene ω) β where
  poll s :=
    let (own, reply) := f.poll s.own
    (Scene.pass others { s with own }, reply)
  process batch s :=
    let (own, result) := f.process batch s.own
    (Scene.pass others { s with own }, result)
  rest s :=
    let (s, whole) := (s.pass others).sleep others
    (s.pass others, whole)
  stopped s := s.stop.requested

/-! ## §2. Entries. -/

/-- What one step leaves in a history: the state it found and the state it left,
and what the stop signal said when it was looked at. -/
inductive Entry (ω β : Type) where
  /-- Before a poll. -/
  | looked (own : ω) (stopped : Bool)
  /-- A poll; the signal was looked at when it came back. -/
  | polled (found left : ω) (reply : Except SyncError β) (stopped : Bool)
  /-- A batch was taken in. -/
  | processed (batch : β) (found left : ω)
  /-- A batch could not be taken in; the signal was looked at then. -/
  | refused (batch : β) (found left : ω) (error : SyncError) (stopped : Bool)
  | rested (own : ω) (whole : Bool)

namespace Entry

def found : Entry ω β → ω
  | looked own _ => own
  | polled found _ _ _ => found
  | processed _ found _ => found
  | refused _ found _ _ _ => found
  | rested own _ => own

def left : Entry ω β → ω
  | looked own _ => own
  | polled _ left _ _ => left
  | processed _ _ left => left
  | refused _ _ left _ _ => left
  | rested own _ => own

/-- What the step did, as a run tells it. -/
def deed? : Entry ω β → Option (Deed β)
  | looked _ _ => none
  | polled _ _ reply _ => some (.polled reply)
  | processed batch _ _ => some (.processed batch (.ok ()))
  | refused batch _ _ e _ => some (.processed batch (.error e))
  | rested _ whole => some (.rested whole)

/-- The step saw that a stop is requested. -/
def seesStop : Entry ω β → Bool
  | looked _ stopped => stopped
  | polled _ _ _ stopped => stopped
  | processed _ _ _ => false
  | refused _ _ _ _ stopped => stopped
  | rested _ whole => !whole

/-- The step took a batch in. -/
def isServed : Entry ω β → Bool
  | processed _ _ _ => true
  | _ => false

/-- The step failed, and no stop was seen after the failure. -/
def isRetried : Entry ω β → Bool
  | polled _ _ (.error _) stopped => !stopped
  | refused _ _ _ _ stopped => !stopped
  | _ => false

/-- What the step adds to a summary. -/
def tally (x : Entry ω β) (s : Summary) : Summary where
  batches := s.batches + if x.isServed then 1 else 0
  failures := s.failures + if x.isRetried then 1 else 0

/-- The batch that the step tried to take in, with the state that it found. -/
def attempt? : Entry ω β → Option (β × ω)
  | processed batch found _ => some (batch, found)
  | refused batch found _ _ _ => some (batch, found)
  | _ => none

/-- The phase that the step was taken in. -/
def phase : Entry ω β → Phase β
  | looked _ _ => .ready
  | polled _ _ _ _ => .polling
  | processed batch _ _ => .processing batch
  | refused batch _ _ _ _ => .processing batch
  | rested _ _ => .resting

/-- The phase that the step leads to. -/
def next (x : Entry ω β) : Phase β :=
  if x.seesStop then .finished
  else
    match x with
    | looked _ _ => .polling
    | polled _ _ (.ok batch) _ => .processing batch
    | polled _ _ (.error _) _ => .resting
    | processed _ _ _ => .ready
    | refused _ _ _ _ _ => .resting
    | rested _ _ => .ready

variable {x y : Entry ω β} {batch : β} {own : ω}

/-- A task finishes when it sees a stop, and in no other way. -/
theorem next_eq_finished_iff : x.next = .finished ↔ x.seesStop = true := by
  unfold next
  split
  next h => exact iff_of_true rfl h
  next h =>
    refine iff_of_false ?_ h
    split <;> nofun

theorem attempt?_eq_some_iff :
    x.attempt? = some (batch, own) ↔ x.phase = .processing batch ∧ x.found = own := by
  cases x <;> simp [attempt?, phase, found]

/-- The one step that leads to the taking in of a batch is a poll that brought it,
after which no stop was seen. -/
theorem next_eq_processing (h : x.next = .processing batch) :
    x = .polled x.found x.left (.ok batch) false := by
  unfold next at h
  split at h
  next => cases h
  next hsees =>
    split at h <;> cases h
    next found left stopped =>
      rw [Bool.not_eq_true] at hsees
      show polled found left (.ok batch) stopped = polled found left (.ok batch) false
      rw [show stopped = false from hsees]

/-- After a failure that is retried comes a rest. -/
theorem next_of_isRetried (h : x.isRetried = true) : x.next = .resting ∧ x.seesStop = false := by
  cases x with
  | looked => cases h
  | processed => cases h
  | rested => cases h
  | refused _ _ _ _ stopped =>
    cases stopped with
    | true => cases h
    | false => exact ⟨rfl, rfl⟩
  | polled _ _ reply stopped =>
    cases reply with
    | ok => cases h
    | error =>
      cases stopped with
      | true => cases h
      | false => exact ⟨rfl, rfl⟩

/-! What a step did, from the phase that it was taken in and the state it found. -/

theorem eq_looked (hphase : x.phase = .ready) (hfound : x.found = own) :
    ∃ stopped, x = .looked own stopped := by
  cases x <;> cases hphase
  exact ⟨_, congrArg (looked · _) hfound⟩

theorem eq_polled (hphase : x.phase = .polling) (hfound : x.found = own) :
    ∃ left reply stopped, x = .polled own left reply stopped := by
  cases x <;> cases hphase
  exact ⟨_, _, _, congrArg (polled · _ _ _) hfound⟩

theorem eq_rested (hphase : x.phase = .resting) (hfound : x.found = own) :
    ∃ whole, x = .rested own whole := by
  cases x <;> cases hphase
  exact ⟨_, congrArg (rested · _) hfound⟩

end Entry

/-! ## §3. One step. -/

/-! What a task becomes is what the entry of its step says. -/

theorem begin_eq (own : ω) (t : Task β) (stopped : Bool) :
    let x : Entry ω β := .looked own stopped
    t.begin stopped = ⟨x.next, x.tally t.summary⟩ := by
  cases stopped <;> rfl

theorem polled_eq (found left : ω) (t : Task β) (stopped : Bool) (reply : Except SyncError β) :
    let x : Entry ω β := .polled found left reply stopped
    t.polled stopped reply = ⟨x.next, x.tally t.summary⟩ := by
  cases reply <;> cases stopped <;> rfl

theorem refused_eq (found left : ω) (batch : β) (t : Task β) (stopped : Bool) (e : SyncError) :
    let x : Entry ω β := .refused batch found left e stopped
    t.processed stopped (.error e) = ⟨x.next, x.tally t.summary⟩ := by
  cases stopped <;> rfl

theorem rested_eq (own : ω) (t : Task β) (whole : Bool) :
    let x : Entry ω β := .rested own whole
    t.rested whole = ⟨x.next, x.tally t.summary⟩ := by
  cases whole <;> rfl

variable (f : Follower ω β) (others : Schedule)

/-- Where one step of a task leads. -/
def advance (p : Task β × Scene ω) : Task β × Scene ω :=
  let (t, s, _) := p.1.step (f.surroundings others) p.2
  (t, s)

/-- The entry of one step; a task that has finished takes none. -/
def entryOf (p : Task β × Scene ω) : Option (Entry ω β) :=
  match p.1.phase with
  | .finished => none
  | .ready => some (.looked p.2.own p.2.stop.requested)
  | .polling =>
      let (left, reply) := f.poll p.2.own
      some (.polled p.2.own left reply (advance f others p).2.stop.requested)
  | .processing batch =>
      match f.process batch p.2.own with
      | (left, .ok ()) => some (.processed batch p.2.own left)
      | (left, .error e) =>
          some (.refused batch p.2.own left e (advance f others p).2.stop.requested)
  | .resting => some (.rested p.2.own ((f.surroundings others).rest p.2).2)

/-- What an entry says of the step that left it: the task and the state on both
sides, and what the step did. -/
structure Taken (x : Entry ω β) (p : Task β × Scene ω) : Prop where
  phase : p.1.phase = x.phase
  task : (advance f others p).1 = ⟨x.next, x.tally p.1.summary⟩
  found : p.2.own = x.found
  left : (advance f others p).2.own = x.left
  deeds : (p.1.step (f.surroundings others) p.2).2.2 = x.deed?.toList

section Steps

variable {f others} {p : Task β × Scene ω} {x : Entry ω β}

theorem isFinished_iff {t : Task β} : t.isFinished = true ↔ t.phase = .finished := by
  unfold isFinished
  split
  next h => exact iff_of_true rfl h
  next h => exact iff_of_false Bool.false_ne_true h

theorem advance_finished (h : p.1.phase = .finished) : advance f others p = p := by
  unfold advance step
  rw [h]

theorem entryOf_eq_none_iff : entryOf f others p = none ↔ p.1.phase = .finished := by
  obtain ⟨⟨phase, summary⟩, s⟩ := p
  cases phase with
  | finished => exact iff_of_true rfl rfl
  | ready => exact iff_of_false (Option.some_ne_none _) nofun
  | polling => exact iff_of_false (Option.some_ne_none _) nofun
  | resting => exact iff_of_false (Option.some_ne_none _) nofun
  | processing batch =>
    refine iff_of_false ?_ nofun
    unfold entryOf
    dsimp only
    split <;> exact Option.some_ne_none _

theorem step_processing {batch : β} {summary : Summary} {s : Scene ω} {left : ω}
    {result : Except SyncError Unit} (hprocess : f.process batch s.own = (left, result)) :
    let t : Task β := ⟨.processing batch, summary⟩
    let s' := Scene.pass others { s with own := left }
    t.step (f.surroundings others) s
      = (t.processed s'.stop.requested result, s', [.processed batch result]) := by
  simp only [step, Follower.surroundings, hprocess]

/-- **What the entry of a step says is what the step did.** -/
theorem taken_of_entryOf (h : entryOf f others p = some x) : Taken f others x p := by
  obtain ⟨⟨phase, summary⟩, s⟩ := p
  cases phase with
  | finished => cases h
  | ready =>
    obtain rfl := Option.some.inj h
    exact ⟨rfl, begin_eq s.own _ _, rfl, rfl, rfl⟩
  | polling =>
    obtain rfl := Option.some.inj h
    exact ⟨rfl, polled_eq s.own (f.poll s.own).1 _ _ _, rfl, rfl, rfl⟩
  | processing batch =>
    obtain ⟨left, result, hprocess⟩ : ∃ left result, f.process batch s.own = (left, result) :=
      ⟨_, _, rfl⟩
    have hstep : step (f.surroundings others) ⟨.processing batch, summary⟩ s = _ :=
      step_processing hprocess
    simp only [entryOf, advance, hstep, hprocess] at h
    -- the entry is of one kind or the other, by what came of the taking in
    cases result with
    | ok u =>
      obtain rfl := Option.some.inj h
      refine ⟨rfl, ?_, rfl, ?_, ?_⟩
      · rw [advance, hstep]
        rfl
      · rw [advance, hstep]
        rfl
      · rw [hstep]
        rfl
    | error e =>
      obtain rfl := Option.some.inj h
      refine ⟨rfl, ?_, rfl, ?_, ?_⟩
      · rw [advance, hstep]
        exact refused_eq s.own left batch _ _ e
      · rw [advance, hstep]
        rfl
      · rw [hstep]
        rfl
  | resting =>
    obtain rfl := Option.some.inj h
    exact ⟨rfl, rested_eq s.own _ _, rfl, rfl, rfl⟩

/-- Others are heard on the way, and a step that saw a stop saw one that was asked for. -/
theorem heard_advance {s₀ : Scene ω} (hheard : Scene.Heard others s₀ p.2) :
    Scene.Heard others s₀ (advance f others p).2
      ∧ (entryOf f others p = some x → x.seesStop = true →
          Scene.Asked others s₀ (advance f others p).2) := by
  obtain ⟨⟨phase, summary⟩, s⟩ := p
  cases phase with
  | finished => exact ⟨hheard, fun h => nomatch h⟩
  | ready =>
    refine ⟨hheard, fun h hsees => ?_⟩
    obtain rfl := Option.some.inj h
    exact hheard.asked hsees
  | polling =>
    have hafter := (hheard.own (f.poll s.own).1).pass
    refine ⟨hafter, fun h hsees => ?_⟩
    obtain rfl := Option.some.inj h
    exact hafter.asked hsees
  | processing batch =>
    have hafter := (hheard.own (f.process batch s.own).1).pass
    refine ⟨hafter, fun h hsees => ?_⟩
    unfold entryOf at h
    dsimp only at h
    split at h
    next =>
      obtain rfl := Option.some.inj h
      exact absurd hsees Bool.false_ne_true
    next =>
      obtain rfl := Option.some.inj h
      exact hafter.asked hsees
  | resting =>
    -- a moment before the sleep, and one after it
    obtain ⟨hafter, hwoken⟩ := hheard.pass.sleep
    refine ⟨hafter.pass, fun h hsees => ?_⟩
    obtain rfl := Option.some.inj h
    have hpart : (!(Scene.sleep others (s.pass others)).2) = true := hsees
    rw [Bool.not_eq_true'] at hpart
    exact (hwoken hpart).mono (Nat.le_succ _)

end Steps

/-! ## §4. Histories. -/

/-- Where this many steps lead. -/
def reach (s₀ : Scene ω) (k : Nat) : Task β × Scene ω := (advance f others)^[k] ({}, s₀)

/-- The entries of a task that starts here, step by step. -/
def history (s₀ : Scene ω) (k : Nat) : Option (Entry ω β) := entryOf f others (reach f others s₀ k)

/-- Which entry may follow which, and on which state. -/
structure Ordered (h : Nat → Option (Entry ω β)) : Prop where
  /-- A task that has seen no stop goes on, from the state that it left. -/
  goes_on : ∀ {k x}, h k = some x → x.seesStop = false → ∃ y, h (k + 1) = some y ∧ y.found = x.left
  /-- A task that has seen a stop does nothing more. -/
  ends : ∀ {k x}, h k = some x → x.seesStop = true → ∀ j, k < j → h j = none
  /-- A batch is taken in by the step after the poll that brought it, on the state
  that the poll left, unless the poll came back to a stop. -/
  taken_in : ∀ {k found left batch}, h k = some (.polled found left (.ok batch) false) →
    ∃ y, h (k + 1) = some y ∧ y.attempt? = some (batch, left)
  /-- What is taken in was brought by the poll of the step before. -/
  brought : ∀ {k y batch left}, h k = some y → y.attempt? = some (batch, left) →
    ∃ j found, k = j + 1 ∧ h j = some (.polled found left (.ok batch) false)
  /-- After a failure and no stop: a rest, a look at the signal, and a poll on the
  state that the failure left, with a stop seen at the rest or the look as the only way out. -/
  retried : ∀ {k x}, h k = some x → x.isRetried = true →
    ∃ whole, h (k + 1) = some (.rested x.left whole) ∧
      (whole = true → ∃ stopped, h (k + 2) = some (.looked x.left stopped) ∧
        (stopped = false → ∃ left reply stopped,
          h (k + 3) = some (.polled x.left left reply stopped)))

/-- A run of this many steps tells the entries of a history, and its summary counts them. -/
structure Accounted (h : Nat → Option (Entry ω β)) (n : Nat)
    (run : Task β × Scene ω × List (Deed β)) : Prop where
  deeds : run.2.2 = ((List.range n).filterMap h).filterMap Entry.deed?
  batches : run.1.summary.batches = ((List.range n).filterMap h).countP Entry.isServed
  failures : run.1.summary.failures = ((List.range n).filterMap h).countP Entry.isRetried
  /-- It has returned exactly when one of its steps saw a stop. -/
  finished : run.1.isFinished = true ↔ ∃ x ∈ (List.range n).filterMap h, x.seesStop = true

section Histories

variable {f others} {s₀ : Scene ω} {k : Nat} {x : Entry ω β}

theorem reach_succ : reach f others s₀ (k + 1) = advance f others (reach f others s₀ k) :=
  Function.iterate_succ_apply' _ _ _

theorem reach_finished (h : (reach f others s₀ k).1.phase = .finished) {j : Nat} (hle : k ≤ j) :
    (reach f others s₀ j).1.phase = .finished := by
  induction hle with
  | refl => exact h
  | step _ ih => rwa [reach_succ, advance_finished ih]

/-- A step leads to the phase and the state that its entry says. -/
theorem reach_next (h : history f others s₀ k = some x) :
    (reach f others s₀ (k + 1)).1.phase = x.next
      ∧ (reach f others s₀ (k + 1)).2.own = x.left := by
  have hx := taken_of_entryOf h
  rw [reach_succ, hx.task, hx.left]
  exact ⟨rfl, rfl⟩

/-- A step that saw no stop is followed by one in the phase and on the state to which
it led. -/
theorem history_goes_on (h : history f others s₀ k = some x) (hsees : x.seesStop = false) :
    ∃ y, history f others s₀ (k + 1) = some y ∧ y.phase = x.next ∧ y.found = x.left := by
  obtain ⟨hphase, hown⟩ := reach_next h
  cases hy : history f others s₀ (k + 1) with
  | none =>
    have hfinished := entryOf_eq_none_iff.mp hy
    rw [hphase, Entry.next_eq_finished_iff, hsees] at hfinished
    cases hfinished
  | some y =>
    have hyt := taken_of_entryOf hy
    exact ⟨y, rfl, hyt.phase.symm.trans hphase, hyt.found.symm.trans hown⟩

/-- No step follows one that saw a stop. -/
theorem history_ends (h : history f others s₀ k = some x) (hsees : x.seesStop = true) {j : Nat}
    (hlt : k < j) : history f others s₀ j = none := by
  have hfinished := (reach_next h).1.trans (Entry.next_eq_finished_iff.mpr hsees)
  exact entryOf_eq_none_iff.mpr (reach_finished hfinished hlt)

/-- The step before the taking in of a batch is the poll that brought it. -/
theorem history_brought {batch : β} {left : ω} (h : history f others s₀ k = some x)
    (hattempt : x.attempt? = some (batch, left)) :
    ∃ j found, k = j + 1
      ∧ history f others s₀ j = some (.polled found left (.ok batch) false) := by
  obtain ⟨hphase, hfound⟩ := Entry.attempt?_eq_some_iff.mp hattempt
  have hhere : (reach f others s₀ k).1.phase = .processing batch :=
    (taken_of_entryOf h).phase.trans hphase
  cases k with
  | zero => cases hhere
  | succ j =>
    cases hbefore : history f others s₀ j with
    | none =>
      have hfinished := reach_finished (entryOf_eq_none_iff.mp hbefore) (Nat.le_succ j)
      rw [hhere] at hfinished
      cases hfinished
    | some y =>
      have hy := taken_of_entryOf hbefore
      have hnext : y.next = .processing batch := by
        rw [← hhere, reach_succ, hy.task]
      have hleft : y.left = left := by
        rw [← hfound, ← (taken_of_entryOf h).found, reach_succ, hy.left]
      refine ⟨j, y.found, rfl, ?_⟩
      rw [hbefore, ← hleft]
      exact congrArg some (Entry.next_eq_processing hnext)

/-- After a failure that is retried: a rest, a look at the signal, and a poll. -/
theorem history_retried (h : history f others s₀ k = some x) (hretried : x.isRetried = true) :
    ∃ whole, history f others s₀ (k + 1) = some (.rested x.left whole) ∧
      (whole = true → ∃ stopped, history f others s₀ (k + 2) = some (.looked x.left stopped) ∧
        (stopped = false → ∃ left reply stopped,
          history f others s₀ (k + 3) = some (.polled x.left left reply stopped))) := by
  obtain ⟨hnext, hsees⟩ := Entry.next_of_isRetried hretried
  obtain ⟨rest, hrest, hphase, hfound⟩ := history_goes_on h hsees
  obtain ⟨whole, rfl⟩ := Entry.eq_rested (hphase.trans hnext) hfound
  refine ⟨whole, hrest, fun hwhole => ?_⟩
  subst hwhole
  obtain ⟨look, hlook, hphase, hfound⟩ := history_goes_on hrest rfl
  obtain ⟨stopped, rfl⟩ := Entry.eq_looked hphase hfound
  refine ⟨stopped, hlook, fun hstopped => ?_⟩
  subst hstopped
  obtain ⟨poll, hpoll, hphase, hfound⟩ := history_goes_on hlook rfl
  obtain ⟨left, reply, stopped, rfl⟩ := Entry.eq_polled hphase hfound
  exact ⟨left, reply, stopped, hpoll⟩

/-- **One step after another.** -/
theorem ordered_history : Ordered (history f others s₀) where
  goes_on h hsees := by
    obtain ⟨y, hy, -, hfound⟩ := history_goes_on h hsees
    exact ⟨y, hy, hfound⟩
  ends h hsees _ hlt := history_ends h hsees hlt
  taken_in h := by
    obtain ⟨y, hy, hphase, hfound⟩ := history_goes_on h rfl
    exact ⟨y, hy, Entry.attempt?_eq_some_iff.mpr ⟨hphase, hfound⟩⟩
  brought := history_brought
  retried := history_retried

/-! ## §5. Runs. -/

/-- A run of this many steps is where they lead, and it tells their entries. -/
theorem run_eq (n : Nat) (p : Task β × Scene ω) :
    let last := (advance f others)^[n] p
    let entries := (List.range n).filterMap fun k => entryOf f others ((advance f others)^[k] p)
    run (f.surroundings others) n p.1 p.2 = (last.1, last.2, entries.filterMap Entry.deed?) := by
  induction n generalizing p with
  | zero => rfl
  | succ n ih =>
    dsimp only
    rw [run, List.range_succ_eq_map, List.filterMap_cons, List.filterMap_map]
    simp only [Function.iterate_zero, id_eq, Function.comp_def, Function.iterate_succ_apply]
    split
    next hfinished =>
      -- nothing is left to do, now or later
      have hphase := isFinished_iff.mp hfinished
      have hstays : ∀ k, (advance f others)^[k] p = p :=
        Function.iterate_fixed (advance_finished hphase)
      simp only [advance_finished hphase, hstays, entryOf_eq_none_iff.mpr hphase,
        List.filterMap_none, List.filterMap_nil]
    next hgoes =>
      obtain ⟨x, hx⟩ : ∃ x, entryOf f others p = some x := by
        rw [← Option.ne_none_iff_exists']
        exact fun hnone => hgoes (isFinished_iff.mpr (entryOf_eq_none_iff.mp hnone))
      have hdeeds := (taken_of_entryOf hx).deeds
      have hlater : run (f.surroundings others) n (p.1.step (f.surroundings others) p.2).1
          (p.1.step (f.surroundings others) p.2).2.1 = _ := ih (advance f others p)
      simp only [hlater, hdeeds, hx, List.filterMap_cons]
      cases x.deed? <;> rfl

/-- One more step adds its entry to the end. -/
theorem entries_succ (n : Nat) :
    (List.range (n + 1)).filterMap (history f others s₀)
      = (List.range n).filterMap (history f others s₀) ++ (history f others s₀ n).toList := by
  rw [List.range_succ, List.filterMap_append]
  cases h : history f others s₀ n with
  | none => rw [List.filterMap_cons_none h]; rfl
  | some x => rw [List.filterMap_cons_some h]; rfl

variable (f others s₀) in
/-- The summary counts the entries, and the task has returned when one of them saw a
stop. -/
theorem reach_counts (n : Nat) :
    let entries := (List.range n).filterMap (history f others s₀)
    let t := (reach f others s₀ n).1
    t.summary = ⟨entries.countP Entry.isServed, entries.countP Entry.isRetried⟩
      ∧ (t.phase = .finished ↔ ∃ x ∈ entries, x.seesStop = true) := by
  induction n with
  | zero => exact ⟨rfl, iff_of_false nofun fun ⟨_, hmem, _⟩ => List.not_mem_nil hmem⟩
  | succ n ih =>
    obtain ⟨hsummary, hfinished⟩ := ih
    dsimp only
    rw [entries_succ]
    cases h : history f others s₀ n with
    | none =>
      rw [reach_succ, advance_finished (entryOf_eq_none_iff.mp h), Option.toList_none,
        List.append_nil]
      exact ⟨hsummary, hfinished⟩
    | some x =>
      rw [reach_succ, (taken_of_entryOf h).task, hsummary, Option.toList_some]
      constructor
      · rw [List.countP_append, List.countP_append, List.countP_singleton, List.countP_singleton]
        rfl
      · -- a step was taken, so no stop was seen before it
        have hbefore :
            ¬ ∃ y ∈ (List.range n).filterMap (history f others s₀), y.seesStop = true := by
          rw [← hfinished, ← entryOf_eq_none_iff]
          show history f others s₀ n ≠ none
          rw [h]
          exact Option.some_ne_none x
        rw [Entry.next_eq_finished_iff]
        constructor
        · intro hsees
          exact ⟨x, List.mem_append_right _ List.mem_cons_self, hsees⟩
        · intro ⟨y, hmem, hsees⟩
          obtain hmem | hmem := List.mem_append.mp hmem
          · exact absurd ⟨y, hmem, hsees⟩ hbefore
          · rwa [List.mem_singleton.mp hmem] at hsees

variable (f others s₀) in
/-- A task that has returned was asked to. -/
theorem reach_asked (n : Nat) :
    Scene.Heard others s₀ (reach f others s₀ n).2
      ∧ ((reach f others s₀ n).1.phase = .finished →
          Scene.Asked others s₀ (reach f others s₀ n).2) := by
  induction n with
  | zero => exact ⟨Scene.heard_self s₀, nofun⟩
  | succ n ih =>
    obtain ⟨hheard, hasked⟩ := ih
    cases h : history f others s₀ n with
    | none =>
      rw [reach_succ, advance_finished (entryOf_eq_none_iff.mp h)]
      exact ⟨hheard, hasked⟩
    | some x =>
      obtain ⟨hafter, hstop⟩ := heard_advance (x := x) hheard
      rw [reach_succ, (taken_of_entryOf h).task, Entry.next_eq_finished_iff]
      exact ⟨hafter, hstop h⟩

end Histories

/-- **A task keeps its accounts, and returns only when asked.**  Whatever it follows
and whenever others ask it to stop: it takes in every batch that a poll brings at once
and never again, it goes on after a failure from where the failure left it, a stop
that is seen is the end, and what the summary counts is what was done. -/
theorem run_accounts (s₀ : Scene ω) :
    Ordered (history f others s₀)
      ∧ ∀ n,
          let result := run (f.surroundings others) n {} s₀
          Accounted (history f others s₀) n result
            ∧ (result.1.isFinished = true → Scene.Asked others s₀ result.2.1) := by
  refine ⟨ordered_history, fun n => ?_⟩
  have hrun : run (f.surroundings others) n {} s₀ = _ := run_eq n ({}, s₀)
  obtain ⟨hsummary, hfinished⟩ := reach_counts f others s₀ n
  obtain ⟨-, hasked⟩ := reach_asked f others s₀ n
  dsimp only
  rw [hrun, isFinished_iff]
  refine ⟨⟨rfl, congrArg Summary.batches hsummary, congrArg Summary.failures hsummary, ?_⟩, hasked⟩
  rw [isFinished_iff]
  exact hfinished

/-! ## §6. A stop while a poll is out. -/

namespace Stopped

/-- The first poll fails, and each later one brings a batch. -/
def follower : Follower Nat Nat where
  poll n := (n + 1, if n = 0 then .error .cryptoNotReady else .ok n)
  process batch n := (n + 10 * batch, .ok ())

/-- The seventh moment is that of the third poll. -/
def stopAtThirdPoll : Schedule := fun m => if m = 6 then [.request] else []

def start : Scene Nat := { own := 0 }

def returned : Task Nat × Scene Nat × List (Deed Nat) :=
  run (follower.surroundings stopAtThirdPoll) 20 {} start

end Stopped

open Stopped in
/-- A poll fails, the next one brings a batch, and a stop comes while a third is out:
its batch is dropped, and the task returns. -/
theorem batch_dropped_at_stop :
    (List.range 20).filterMap (history follower stopAtThirdPoll start) =
        [.looked 0 false, .polled 0 1 (.error .cryptoNotReady) false, .rested 1 true,
          .looked 1 false, .polled 1 2 (.ok 1) false, .processed 1 2 12,
          .looked 12 false, .polled 12 13 (.ok 12) true]
      ∧ returned.1.summary.batches = 1
      ∧ returned.1.summary.failures = 1
      ∧ returned.1.isFinished = true
      ∧ Scene.Asked stopAtThirdPoll start returned.2.1 := by
  obtain ⟨-, hruns⟩ := run_accounts follower stopAtThirdPoll start
  obtain ⟨haccounted, hasked⟩ := hruns 20
  have hfinished : returned.1.isFinished = true := by decide +kernel
  exact ⟨rfl, haccounted.batches, haccounted.failures, hfinished, hasked hfinished⟩

end Task

end RoomSync
