/-
  RoomSync.Proofs.Classifier.Deciding
  ───────────────────────────────────
  **WHICH MEMBER EVENT DECIDES.**

  A payload can hold several member events of the user, from its required
  state, its stripped state and its timeline.  The youngest one decides, and of
  several that are equally young the first.  `Decides` says that of an event and
  the events around it, and the scan of the classifier finds exactly that one:

      authoritative_eq_some — the event that is found is the one that decides
      authoritative_eq_none — none is found where there is none
-/
import Mathlib.Data.List.Induction
import RoomSync.Classifier.Basic
import RoomSync.Proofs.Event.Kinds
import RoomSync.Proofs.Outcomes

namespace RoomSync

variable {user : UserId} {accept : Membership → Bool}

/-! ## §1. The event that decides. -/

/-- A member event of the user with a membership that counts. -/
def Candidate (user : UserId) (accept : Membership → Bool) (e : RoomEvent) : Prop :=
  ∃ m, e.membershipOf? user.text = some m ∧ accept m = true

/-- Between these events the one in the middle is chosen: it counts, whatever counts
before it is older, and nothing that counts after it is younger. -/
structure Chosen (user : UserId) (accept : Membership → Bool) (before : List RoomEvent)
    (e : RoomEvent) (after : List RoomEvent) : Prop where
  counts : Candidate user accept e
  first : ∀ x ∈ before, Candidate user accept x → e.age < x.age
  youngest : ∀ x ∈ after, Candidate user accept x → e.age ≤ x.age

/-- Of the member events among these the event is the youngest, and the first
of its age: it is chosen at its place. -/
def Decides (user : UserId) (accept : Membership → Bool) (events : List RoomEvent)
    (e : RoomEvent) : Prop :=
  ∃ before after, events = before ++ e :: after ∧ Chosen user accept before e after

/-- A member event of a user has a membership. -/
theorem membership_eq {e : RoomEvent} {user : String} {m : Membership}
    (h : e.membershipOf? user = some m) : e.membership? = some m :=
  RoomEvent.membership?_eq_some.2 (RoomEvent.membershipOf?_eq_some.1 h).1

theorem candidate_iff (e : RoomEvent) :
    (e.membershipOf? user.text).any accept = true ↔ Candidate user accept e :=
  Option.any_eq_true _ _

/-- The event that decides is one of them, and a member event. -/
theorem Decides.mem_candidate {events : List RoomEvent} {e : RoomEvent}
    (h : Decides user accept events e) : e ∈ events ∧ Candidate user accept e := by
  obtain ⟨before, after, rfl, he, -, -⟩ := h
  exact ⟨List.mem_append_right _ List.mem_cons_self, he⟩

/-- At most one event decides. -/
theorem Decides.unique {events : List RoomEvent} {e e' : RoomEvent}
    (h : Decides user accept events e) (h' : Decides user accept events e') : e = e' := by
  obtain ⟨before, after, hsplit, he, hbefore, hafter⟩ := h
  obtain ⟨before', after', hsplit', he', hbefore', hafter'⟩ := h'
  -- were they at two places, the first would be younger, or the second
  rcases split_append (hsplit.symm.trans hsplit') with ⟨mid, rfl, rfl⟩ | ⟨mid, rfl, hrest⟩
  · have hyounger := hbefore e' (by simp) he'
    have holder := hafter' e (by simp) he
    omega
  · cases mid with
    | nil => exact (List.cons.inj hrest).1
    | cons x mid =>
        obtain ⟨rfl, rfl⟩ := List.cons.inj hrest
        have hyounger := hbefore' e (by simp) he
        have holder := hafter e' (by simp) he'
        omega

/-! ## §2. The scan. -/

/-- One more event. -/
theorem authoritative_concat (events : List RoomEvent) (x : RoomEvent) :
    authoritative user accept (events ++ [x]) =
      if (x.membershipOf? user.text).any accept then
        match authoritative user accept events with
        | some b => if x.age < b.age then some x else some b
        | none => some x
      else authoritative user accept events := List.foldl_append

/-- What one more event does to the one that decides. -/
theorem Decides.concat {events : List RoomEvent} {e : RoomEvent}
    (h : Decides user accept events e) {x : RoomEvent}
    (hx : Candidate user accept x → e.age ≤ x.age) : Decides user accept (events ++ [x]) e := by
  obtain ⟨before, after, rfl, he, hbefore, hafter⟩ := h
  refine ⟨before, after ++ [x], by rw [List.append_assoc, List.cons_append], he, hbefore, ?_⟩
  intro y hy hcandidate
  rcases List.mem_append.1 hy with hy | hy
  · exact hafter y hy hcandidate
  · obtain rfl := List.mem_singleton.1 hy
    exact hx hcandidate

/-- No member event is younger than the one that decides. -/
theorem Decides.least {events : List RoomEvent} {e : RoomEvent}
    (h : Decides user accept events e) {x : RoomEvent} (hx : x ∈ events)
    (hcandidate : Candidate user accept x) : e.age ≤ x.age := by
  obtain ⟨before, after, rfl, -, hbefore, hafter⟩ := h
  rcases List.mem_append.1 hx with hx | hx
  · exact Int.le_of_lt (hbefore x hx hcandidate)
  · rcases List.mem_cons.1 hx with rfl | hx
    · exact Int.le_refl _
    · exact hafter x hx hcandidate

/-- **The scan**, whatever it answers.  The induction is on the events seen so
far, since the scan keeps the best of those. -/
theorem authoritative_scan (events : List RoomEvent) :
    (∀ e, authoritative user accept events = some e → Decides user accept events e)
      ∧ (authoritative user accept events = none → ∀ x ∈ events, ¬ Candidate user accept x) := by
  induction events using List.reverseRecOn with
  | nil => exact ⟨fun _ h => (nomatch h), fun _ _ h => (nomatch h)⟩
  | append_singleton events x ih =>
      obtain ⟨hsome, hnone⟩ := ih
      rw [authoritative_concat]
      by_cases hx : Candidate user accept x
      · rw [if_pos ((candidate_iff x).2 hx)]
        cases hbest : authoritative user accept events with
        | none =>
            refine ⟨fun e he => ?_, fun h => nomatch h⟩
            obtain rfl := Option.some.inj he
            exact ⟨events, [], rfl, hx, fun y hy h => absurd h (hnone hbest y hy),
              fun _ hy => nomatch hy⟩
        | some b =>
            have hb := hsome b hbest
            dsimp only
            by_cases hage : x.age < b.age
            · rw [if_pos hage]
              refine ⟨fun e he => ?_, fun h => nomatch h⟩
              obtain rfl := Option.some.inj he
              exact ⟨events, [], rfl, hx,
                fun y hy h => Int.lt_of_lt_of_le hage (hb.least hy h), fun _ hy => nomatch hy⟩
            · rw [if_neg hage]
              refine ⟨fun e he => ?_, fun h => nomatch h⟩
              obtain rfl := Option.some.inj he
              exact hb.concat fun _ => Int.not_lt.1 hage
      · rw [if_neg fun h => hx ((candidate_iff x).1 h)]
        refine ⟨fun e he => (hsome e he).concat fun h => absurd h hx, fun h y hy => ?_⟩
        rcases List.mem_append.1 hy with hy | hy
        · exact hnone h y hy
        · rw [List.mem_singleton.1 hy]
          exact hx

/-- **The event that is found is the one that decides.** -/
theorem authoritative_eq_some {events : List RoomEvent} {e : RoomEvent} :
    authoritative user accept events = some e ↔ Decides user accept events e := by
  constructor
  · exact (authoritative_scan events).1 e
  · intro h
    cases hfound : authoritative user accept events with
    | none =>
        obtain ⟨before, after, rfl, he, -, -⟩ := h
        exact absurd he ((authoritative_scan _).2 hfound e (by simp))
    | some e' => rw [((authoritative_scan events).1 e' hfound).unique h]

theorem authoritative_eq_none {events : List RoomEvent} :
    authoritative user accept events = none ↔ ∀ x ∈ events, ¬ Candidate user accept x := by
  constructor
  · exact (authoritative_scan events).2
  · intro h
    cases hfound : authoritative user accept events with
    | none => rfl
    | some e =>
        obtain ⟨before, after, hsplit, he, -, -⟩ := (authoritative_scan events).1 e hfound
        exact absurd he (h e (by rw [hsplit]; simp))

/-- An event is found where there is a member event that counts. -/
theorem isSome_authoritative {events : List RoomEvent} :
    (authoritative user accept events).isSome = true ↔ ∃ e ∈ events, Candidate user accept e := by
  cases hfound : authoritative user accept events with
  | none => simpa using authoritative_eq_none.1 hfound
  | some e => exact iff_of_true rfl ⟨e, (authoritative_eq_some.1 hfound).mem_candidate⟩

end RoomSync
