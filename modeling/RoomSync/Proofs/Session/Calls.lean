/-
  RoomSync.Proofs.Session.Calls
  ─────────────────────────────
  **A BATCH IS A LIST OF CALLS.**

  Taking in a batch of either kind comes down to calls of the classifier, one
  after the other (`Step`, `runAll`):

      Step.change     — what one call does to memberships
      Ordered         — a timeline is taken in of a room that was joined before
      announce_eq     — the calls of a batch that follows a cursor
      classify_heard  — the same, as far as the crypto engine lets the batch in
      windowedAll_eq  — the calls of a batch of windows

  A law about histories is then proved call by call, also for a batch of which
  some calls only were made.
-/
import RoomSync.Proofs.Classifier.Histories
import RoomSync.Proofs.Cursor.Writes

namespace RoomSync

namespace Classifier

/-! ## §1. Calls. -/

/-- One call, while a batch is taken in. -/
inductive Step where
  | leave (room : RoomId) (events : List RoomEvent)
  | invite (room : RoomId) (stripped : List RoomEvent)
  | join (room : RoomId)
  | state (room : RoomId) (events : List RoomEvent)
  | timeline (room : RoomId) (events : List RoomEvent)
  | windowed (word : Word)

namespace Step

def room : Step → RoomId
  | .leave room _ | .invite room _ | .join room | .state room _ | .timeline room _ => room
  | .windowed word => word.2.1

/-- Make the call. -/
def run (s : Services) : Step → Classifier → Outcome Classifier Unit
  | .leave room events, c => Cursor.discard (Classifier.leave s room events c)
  | .invite room stripped, c => Cursor.discard (Classifier.invite s room stripped c)
  | .join room, c => Cursor.discard (Classifier.join room c)
  | .state room events, c => ⟨c.applyState room events, [], ()⟩
  | .timeline room events, c => Classifier.timeline s room events c
  | .windowed word, c => Classifier.windowed s word.2.1 word.1 word.2.2 c

/-- The rooms that are known to be joined after a call. -/
def known (before : List RoomId) : Step → List RoomId
  | .leave _ _ | .windowed _ => []
  | .join room => room :: before
  | .invite _ _ | .state _ _ | .timeline _ _ => before

end Step

/-- Make calls in order. -/
def runAll (s : Services) (steps : List Step) (c : Classifier) : Outcome Classifier Unit :=
  Outcome.forEach (Step.run s) steps c

/-- A timeline is taken in of a room only that was joined by a call before. -/
def Ordered : List RoomId → List Step → Prop
  | _, [] => True
  | known, x :: rest =>
      (∀ room events, x = .timeline room events → room ∈ known) ∧ Ordered (x.known known) rest

variable (s : Services)

theorem Step.change {x : Step} {c : Classifier}
    (hin : ∀ room events, x = .timeline room events → c.isJoined room = true) :
    Change x.room c (x.run s c).state (x.run s c).effects := by
  cases x with
  | leave room events => exact change_leave s room events c
  | invite room stripped => exact change_invite s room stripped c
  | join room => exact change_join room c
  | state room events =>
      exact .stay (fun x hx => by cases hx) (fun h => absurd rfl h) rfl rfl
  | timeline room events => exact change_timeline s room events (hin room events rfl)
  | windowed word => exact (windowed_change s word.2.1 word.1 word.2.2 c).1

/-- What is known to be joined is joined. -/
theorem Step.joined_known (x : Step) {c : Classifier} {before : List RoomId}
    (h : ∀ room ∈ before, c.isJoined room = true) :
    ∀ room ∈ x.known before, (x.run s c).state.isJoined room = true := by
  intro r hr
  cases x with
  | leave room events => cases hr
  | windowed word => cases hr
  | join room =>
      have hafter : (Classifier.join room c).state.isJoined r = true := by
        rw [isJoined_join]
        rcases List.mem_cons.1 hr with rfl | hr
        · rw [decide_eq_true rfl]
          rfl
        · rw [h r hr, Bool.or_true]
      exact hafter
  | invite room stripped =>
      have hsame : (Classifier.invite s room stripped c).state.joined = c.joined := by
        rcases invite_cases s room stripped c with ⟨hstate, -⟩ | ⟨e, hstate, -⟩ <;> rw [hstate]
        rfl
      exact (congrArg (·.contains r) hsame).trans (h r hr)
  | state room events => exact h r hr
  | timeline room events =>
      have hsame := (timeline_keeps s room events c).2.1
      exact (congrArg (·.contains r) hsame).trans (h r hr)

theorem Ordered.initial {steps : List Step} :
    ∀ {done : List Step} {known : List RoomId}, Ordered known steps → done <+: steps →
      Ordered known done := by
  induction steps with
  | nil =>
      intro done known _ hdone
      rw [List.prefix_nil.1 hdone]
      trivial
  | cons x rest ih =>
      intro done known h hdone
      cases done with
      | nil => trivial
      | cons y done =>
          obtain ⟨rfl, hrest⟩ := List.cons_prefix_cons.1 hdone
          exact ⟨h.1, ih h.2 hrest⟩

/-- Other calls may come before, whatever they are. -/
theorem ordered_append {first rest : List Step}
    (hfirst : ∀ x ∈ first, ∀ room events, x ≠ .timeline room events)
    (hrest : ∀ known, Ordered known rest) : ∀ known, Ordered known (first ++ rest) := by
  induction first with
  | nil => exact hrest
  | cons x first ih =>
      intro known
      refine ⟨fun room events hx => absurd hx (hfirst x List.mem_cons_self room events), ?_⟩
      exact ih (fun y hy => hfirst y (List.mem_cons_of_mem _ hy)) _

end Classifier

/-! ## §2. Batches as calls. -/

namespace Cursor

open Classifier (Step runAll Ordered)

/-- The calls for a room that the user is in. -/
def joinedSteps (e : RoomId × RoomUpdate) : List Step :=
  [.join e.1, .state e.1 e.2.state, .timeline e.1 e.2.timeline.events]

/-- The calls of a batch. -/
def Batch.steps (b : Batch) : List Step :=
  b.left.entries.map (fun e => .leave e.1 e.2.timeline.events)
    ++ (b.invited.entries.map (fun e => .invite e.1 e.2)
      ++ b.joined.entries.flatMap joinedSteps)

theorem ordered_joined (entries : List (RoomId × RoomUpdate)) :
    ∀ known, Ordered known (entries.flatMap joinedSteps) := by
  induction entries with
  | nil =>
      intro known
      trivial
  | cons e rest ih =>
      intro known
      refine ⟨(fun room events h => by cases h), (fun room events h => by cases h), ?_, ih _⟩
      -- the timeline follows the join of its room
      intro room events h
      obtain ⟨rfl, -⟩ := Step.timeline.inj h
      exact List.mem_cons_self

theorem ordered_steps (b : Batch) : ∀ known, Ordered known b.steps := by
  refine Classifier.ordered_append ?_ (Classifier.ordered_append ?_ (ordered_joined _))
  · intro x hx room events heq
    obtain ⟨e, -, rfl⟩ := List.mem_map.1 hx
    cases heq
  · intro x hx room events heq
    obtain ⟨e, -, rfl⟩ := List.mem_map.1 hx
    cases heq

variable (s : Services)

theorem classifyJoined_eq (e : RoomId × RoomUpdate) (c : Classifier) :
    classifyJoined s e c = runAll s (joinedSteps e) c := by
  unfold runAll joinedSteps Outcome.forEach Outcome.forEach Outcome.forEach Outcome.forEach
  dsimp only
  rw [List.append_nil]
  rfl

/-- **To announce a batch** is to make its calls, after its account data. -/
theorem announce_eq (b : Batch) (c : Classifier) :
    announce s b c =
      ⟨(runAll s b.steps c).state,
        b.accountSignals.map .signal ++ (runAll s b.steps c).effects, ()⟩ := by
  have hjoined : Outcome.forEach (classifyJoined s) b.joined.entries =
      Outcome.forEach (Step.run s) (b.joined.entries.flatMap joinedSteps) := by
    funext c
    rw [Outcome.forEach_flatMap]
    congr 1
    funext e c
    exact classifyJoined_eq s e c
  have hrooms : classifyRooms s b c = runAll s b.steps c := by
    unfold classifyRooms runAll Batch.steps
    rw [hjoined, Outcome.forEach_append, Outcome.forEach_append, Outcome.forEach_map,
      Outcome.forEach_map, ← List.append_assoc]
    rfl
  unfold announce
  rw [hrooms]

/-- A batch that the crypto engine refuses is not heard of; any other is
announced. -/
theorem classify_heard (b : Batch) (w : World) :
    (heardOf (classify s b w).effects = [] ∧ (classify s b w).state = w)
      ∨ (heardOf (classify s b w).effects =
            b.accountSignals.map .signal ++ heardOf (runAll s b.steps w.classifier).effects
          ∧ (classify s b w).state.classifier = (runAll s b.steps w.classifier).state) := by
  obtain ⟨fx, hfx, hcases⟩ := classify_cases s b
  have hquiet : heardOf fx = [] := by
    refine List.map_eq_nil_iff.2 (List.filterMap_eq_nil_iff.2 fun x hx => ?_)
    rw [hfx x hx]
  rcases hcases with ⟨e, hrefused⟩ | hdone
  · rw [hrefused]
    exact .inl ⟨hquiet, rfl⟩
  · refine .inr ⟨?_, ?_⟩
    · rw [hdone, announce_eq, heardOf_append, heardOf_append, hquiet, heardOf_signals]
      rfl
    · rw [hdone, announce_eq]

end Cursor

/-- The payloads of a batch of windows are its calls. -/
theorem Classifier.windowedAll_eq (s : Services) (words : List Word) (c : Classifier) :
    windowedAll s words c = runAll s (words.map .windowed) c :=
  (Outcome.forEach_map (Step.run s) Step.windowed words c).symm

theorem Classifier.ordered_windowed (words : List Word) :
    ∀ known, Ordered known (words.map .windowed) := by
  have hnone : ∀ known, Ordered known [] := fun _ => trivial
  intro known
  rw [← List.append_nil (words.map Step.windowed)]
  refine ordered_append (fun x hx room events heq => ?_) hnone known
  obtain ⟨w, -, rfl⟩ := List.mem_map.1 hx
  cases heq

end RoomSync
