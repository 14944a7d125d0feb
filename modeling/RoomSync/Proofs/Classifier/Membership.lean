/-
  RoomSync.Proofs.Classifier.Membership
  ─────────────────────────────────────
  **WHICH ROOMS THE CLASSIFIER TAKES FOR JOINED.**

  A payload says one of three things about a room: the user is in it, the
  user is not, or nothing (`verdict`).  That is all that the joined rooms
  depend on:

      verdict_eq            — what a payload says, by how it is read
      isJoined_windowed     — one payload
      isJoined_windowedAll  — a run: the last word on a room stands
      isJoined_restoreAll   — memberships taken over from storage
-/
import RoomSync.Proofs.Classifier.Readings
import RoomSync.Proofs.Outcomes
import RoomSync.Proofs.TableLookup

namespace RoomSync

namespace Classifier

/-! ## §1. What a payload says. -/

/-- A payload, with the list and the room that it came for. -/
abbrev Word := Window.Behaviour × RoomId × Window.Payload

/-- Without a membership that decides, a timeline outside the list of
invites says that the user is in the room. -/
def unspokenVerdict (list : Window.Behaviour) (p : Window.Payload) : Option Bool :=
  if list ≠ .invited ∧ p.timeline ≠ [] then some true else none

/-- What a payload says about the user being in its room. -/
def verdict (user : UserId) (list : Window.Behaviour) (p : Window.Payload) : Option Bool :=
  match authoritative user (fun _ => true) (candidates p) with
  | some e =>
      match e.membership? with
      | some .leave | some .ban => some false
      | some .invite => none
      | some .join => some true
      | _ => unspokenVerdict list p
  | none => unspokenVerdict list p

/-- What a reading says about it. -/
def Reading.verdict : Reading → Option Bool
  | .departure _ => some false
  | .inside => some true
  | .invitation _ | .unspoken => none

theorem verdict_eq (user : UserId) (list : Window.Behaviour) (p : Window.Payload) :
    Classifier.verdict user list p = (reading user list p).verdict := by
  have hunspoken : unspokenVerdict list p = (unspokenReading list p).verdict := by
    unfold unspokenVerdict unspokenReading
    split <;> rfl
  unfold Classifier.verdict reading
  cases authoritative user (fun _ => true) (candidates p) with
  | none => exact hunspoken
  | some e =>
      dsimp only
      cases e.membership? with
      | none => exact hunspoken
      | some m =>
          cases m with
          | leave | ban | invite | join => rfl
          | knock | unknown => exact hunspoken

/-- What is joined after a payload that says this. -/
def heard (word : Option Bool) (room : RoomId) (before : RoomId → Bool) (r : RoomId) : Bool :=
  if r = room then word.getD (before r) else before r

theorem heard_none (room : RoomId) (before : RoomId → Bool) (r : RoomId) :
    heard none room before r = before r := by
  unfold heard
  split <;> rfl

theorem heard_true (room : RoomId) (before : RoomId → Bool) (r : RoomId) :
    heard (some true) room before r = (decide (r = room) || before r) := by
  unfold heard
  by_cases hr : r = room
  · rw [if_pos hr, decide_eq_true hr]
    rfl
  · rw [if_neg hr, decide_eq_false hr]
    rfl

theorem heard_false (room : RoomId) (before : RoomId → Bool) (r : RoomId) :
    heard (some false) room before r = (decide (r ≠ room) && before r) := by
  unfold heard
  by_cases hr : r = room
  · rw [if_pos hr, decide_eq_false (fun h => h hr)]
    rfl
  · rw [if_neg hr, decide_eq_true hr]
    rfl

/-! ## §2. One payload. -/

variable (s : Services)

/-- A timeline event changes neither the user nor the memberships. -/
theorem timelineEvent_keeps (room : RoomId) (e : RoomEvent) (c : Classifier) :
    ((timelineEvent s room e c).state.user, (timelineEvent s room e c).state.joined,
        (timelineEvent s room e c).state.invited) = (c.user, c.joined, c.invited) := by
  have hnote : ((c.note room e).1.user, (c.note room e).1.joined, (c.note room e).1.invited) =
      (c.user, c.joined, c.invited) := by
    unfold note
    split <;> rfl
  unfold timelineEvent
  split
  next c' heq =>
    rw [heq] at hnote
    exact hnote
  next c' heq =>
    rw [heq] at hnote
    exact hnote

theorem timeline_keeps (room : RoomId) (events : List RoomEvent) (c : Classifier) :
    (timeline s room events c).state.user = c.user
      ∧ (timeline s room events c).state.joined = c.joined
      ∧ (timeline s room events c).state.invited = c.invited := by
  have hkeeps := Outcome.forEach_keeps (timelineEvent s room)
    (fun c => (c.user, c.joined, c.invited)) (timelineEvent_keeps s room) events c
  have hmemberships := congrArg Prod.snd hkeeps
  exact ⟨congrArg Prod.fst hkeeps, congrArg Prod.fst hmemberships,
    congrArg Prod.snd hmemberships⟩

theorem timelineIfJoined_keeps (room : RoomId) (events : List RoomEvent) (c : Classifier) :
    (timelineIfJoined s room events c).state.user = c.user
      ∧ (timelineIfJoined s room events c).state.joined = c.joined := by
  unfold timelineIfJoined
  split
  · obtain ⟨huser, hjoined, -⟩ := timeline_keeps s room events c
    exact ⟨huser, hjoined⟩
  · exact ⟨rfl, rfl⟩

theorem user_join (room : RoomId) (c : Classifier) : (join room c).state.user = c.user := by
  unfold join
  split <;> rfl

theorem isJoined_join (room : RoomId) (c : Classifier) (r : RoomId) :
    (join room c).state.isJoined r = (decide (r = room) || c.isJoined r) := by
  unfold join
  split
  next hjoined =>
    -- the room is joined already, so nothing is put in
    by_cases hr : r = room
    · rw [hr, hjoined, decide_eq_true rfl]
      rfl
    · rw [decide_eq_false hr]
      rfl
  next => exact Table.contains_insert c.joined room r ()

theorem joinedTimeline_user (room : RoomId) (events : List RoomEvent) (c : Classifier) :
    (joinedTimeline s room events c).state.user = c.user := by
  unfold joinedTimeline
  dsimp only
  rw [(timelineIfJoined_keeps s room events _).1, user_join]

theorem isJoined_joinedTimeline (room : RoomId) (events : List RoomEvent) (c : Classifier)
    (r : RoomId) :
    (joinedTimeline s room events c).state.isJoined r = (decide (r = room) || c.isJoined r) := by
  unfold joinedTimeline
  dsimp only
  rw [← isJoined_join]
  unfold isJoined
  rw [(timelineIfJoined_keeps s room events _).2]

theorem isJoined_forget (room : RoomId) (c : Classifier) (r : RoomId) :
    (c.forget room).isJoined r = (decide (r ≠ room) && c.isJoined r) :=
  Table.contains_erase c.joined room r

/-- A payload is taken in for the same user. -/
theorem user_windowed (room : RoomId) (list : Window.Behaviour) (p : Window.Payload)
    (c : Classifier) : (windowed s room list p c).state.user = c.user := by
  rw [windowed_eq]
  cases reading c.user list p with
  | departure e =>
      show (if _ then announceLeave s room e _ else _).state.user = _
      split <;> rfl
  | invitation e =>
      show (if _ then _ else announceInvite s room e _).state.user = _
      split <;> rfl
  | inside => exact joinedTimeline_user s room p.timeline _
  | unspoken => exact (timelineIfJoined_keeps s room p.timeline _).1

/-- To leave a room takes it out, known or not. -/
theorem isJoined_departure (room : RoomId) (e : RoomEvent) (c : Classifier) (r : RoomId) :
    (if c.isJoined room || c.isInvited room then announceLeave s room e c
      else ⟨c, [], ()⟩).state.isJoined r = heard (some false) room c.isJoined r := by
  rw [heard_false]
  split
  next => exact isJoined_forget room c r
  next hunknown =>
    -- a room that is not known to be joined needs no leaving
    rw [Bool.or_eq_true, not_or] at hunknown
    by_cases hr : r = room
    · rw [decide_eq_false (fun h => h hr), hr]
      exact Bool.eq_false_iff.2 hunknown.1
    · rw [decide_eq_true hr]
      rfl

/-- **One payload**: its word about its room stands, if it has one, and all
other rooms keep theirs. -/
theorem isJoined_windowed (room : RoomId) (list : Window.Behaviour) (p : Window.Payload)
    (c : Classifier) (r : RoomId) :
    (windowed s room list p c).state.isJoined r =
      heard (verdict c.user list p) room c.isJoined r := by
  rw [windowed_eq, verdict_eq]
  cases reading c.user list p with
  | departure e => exact isJoined_departure s room e (c.applyState room p.requiredState) r
  | invitation e =>
      -- an invite touches the invited rooms only
      refine Eq.trans ?_ (heard_none room c.isJoined r).symm
      show (if _ then _ else announceInvite s room e _).state.isJoined r = _
      split <;> rfl
  | inside =>
      exact (isJoined_joinedTimeline s room p.timeline _ r).trans (heard_true room _ r).symm
  | unspoken =>
      refine Eq.trans ?_ (heard_none room c.isJoined r).symm
      show (timelineIfJoined s room p.timeline _).state.joined.contains r = _
      rw [(timelineIfJoined_keeps s room p.timeline _).2]
      rfl

/-! ## §3. Runs. -/

/-- What is joined after several payloads. -/
def heardAll (user : UserId) : List Word → (RoomId → Bool) → RoomId → Bool
  | [], before => before
  | (list, room, p) :: rest, before =>
      heardAll user rest (heard (verdict user list p) room before)

theorem heardAll_append (user : UserId) (ws ws' : List Word) :
    ∀ before, heardAll user (ws ++ ws') before = heardAll user ws' (heardAll user ws before) := by
  induction ws with
  | nil =>
      intro before
      rfl
  | cons w rest ih =>
      intro before
      exact ih _

/-- Take in several payloads. -/
def windowedAll (touched : List Word) (c : Classifier) : Outcome Classifier Unit :=
  Outcome.forEach (fun t : Word => windowed s t.2.1 t.1 t.2.2) touched c

theorem user_windowedAll (touched : List Word) (c : Classifier) :
    (windowedAll s touched c).state.user = c.user :=
  Outcome.forEach_keeps _ (·.user) (fun t => user_windowed s t.2.1 t.1 t.2.2) touched c

/-- **A run of payloads**: the last word on a room stands. -/
theorem isJoined_windowedAll (touched : List Word) :
    ∀ c : Classifier,
      (windowedAll s touched c).state.isJoined = heardAll c.user touched c.isJoined := by
  induction touched with
  | nil =>
      intro c
      rfl
  | cons t rest ih =>
      intro c
      obtain ⟨list, room, p⟩ := t
      -- the payload does not change the user, so the rest is judged alike
      show (windowedAll s rest (windowed s room list p c).state).state.isJoined = _
      rw [ih, user_windowed, funext (isJoined_windowed s room list p c)]
      rfl

/-! ## §4. Memberships from storage. -/

theorem isJoined_restore (room : RoomId) (m : Membership) (c : Classifier) (r : RoomId) :
    (c.restore room m).isJoined r = (decide (m = .join ∧ r = room) || c.isJoined r) := by
  unfold restore
  cases m with
  | join =>
      refine (Table.contains_insert c.joined room r ()).trans ?_
      simp only [true_and]
      rfl
  | invite =>
      -- joined rooms stay, whether the invite is taken over or not
      dsimp only
      split <;> simp [isJoined]
  | leave => simp
  | ban => simp
  | knock => simp
  | unknown => simp

/-- **Memberships taken over from storage**: a room is joined if it was, or
if one of them says so. -/
theorem isJoined_restoreAll (known : List (RoomId × Membership)) (r : RoomId) :
    ∀ c : Classifier,
      (known.foldl (fun c (room, m) => c.restore room m) c).isJoined r =
        (decide ((r, Membership.join) ∈ known) || c.isJoined r) := by
  induction known with
  | nil =>
      intro c
      simp
  | cons e rest ih =>
      intro c
      obtain ⟨room, m⟩ := e
      rw [List.foldl_cons, ih, isJoined_restore, ← Bool.or_assoc]
      congr 1
      rw [Bool.eq_iff_iff, Bool.or_eq_true, decide_eq_true_eq, decide_eq_true_eq,
        decide_eq_true_eq, List.mem_cons, Prod.mk.injEq, or_comm]
      exact or_congr_left ⟨fun h => ⟨h.2, h.1.symm⟩, fun h => ⟨h.2.symm, h.1⟩⟩

end Classifier

end RoomSync
