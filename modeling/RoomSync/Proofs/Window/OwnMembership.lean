/-
  RoomSync.Proofs.Window.OwnMembership
  ────────────────────────────────────
  **TWO READERS OF ONE PAYLOAD.**

  What a payload says about the user's own membership is read twice.  The classifier
  follows the youngest of the user's member events, and of equally young ones the
  first.  The room keeps the last one that it meets, in the order of the sections and
  whatever its age, and that is what is saved.  The ages decide whether both read the
  same:

      ownMembership_foldl — a room keeps the last member event of the user
      readings_agree_iff  — when both readers read the same
-/
import RoomSync.Proofs.Classifier.Deciding
import RoomSync.Proofs.Window.Projection

namespace RoomSync.Window

/-! ## §1. What a room keeps. -/

/-- Whether an event is a member event of the user. -/
def isOwn (user : UserId) (e : RoomEvent) : Bool := (e.membershipOf? user.text).isSome

/-- The last member event of the user among some events. -/
def lastOwn? (user : UserId) (events : List RoomEvent) : Option RoomEvent :=
  (events.filter (isOwn user)).getLast?

section Readers

variable {user : UserId}

theorem lastOwn?_concat (events : List RoomEvent) (x : RoomEvent) :
    lastOwn? user (events ++ [x]) = if isOwn user x then some x else lastOwn? user events := by
  unfold lastOwn?
  rw [List.filter_append]
  by_cases hx : isOwn user x = true
  · rw [if_pos hx, List.filter_cons_of_pos hx, List.filter_nil, List.getLast?_concat]
  · rw [if_neg hx, List.filter_cons_of_neg hx, List.filter_nil, List.append_nil]

theorem isOwn_of_lastOwn? {events : List RoomEvent} {e : RoomEvent}
    (h : lastOwn? user events = some e) : isOwn user e = true :=
  (List.mem_filter.1 (List.mem_of_getLast? h)).2

/-- A member event of the user says what it says to everyone. -/
theorem membershipOf?_eq {e : RoomEvent} (h : isOwn user e = true) :
    e.membershipOf? user.text = e.membership? := by
  obtain ⟨m, hm⟩ := Option.isSome_iff_exists.1 h
  rw [hm, membership_eq hm]

/-- One event changes the membership of a room only as a member event of the user. -/
theorem ownMembership_apply (f : Facts) (e : RoomEvent) :
    (f.apply user e).ownMembership = (e.membershipOf? user.text).or f.ownMembership :=
  congrArg Facts.ownMembership (Facts.apply_eq user f e)

/-- **A room keeps the last member event of the user**, and where there is none, what
it had. -/
theorem ownMembership_foldl (events : List RoomEvent) (f : Facts) :
    (events.foldl (Facts.apply user) f).ownMembership =
      ((lastOwn? user events).bind (·.membership?)).or f.ownMembership := by
  induction events using List.reverseRecOn with
  | nil => rfl
  | append_singleton events x ih =>
      rw [List.foldl_append, List.foldl_cons, List.foldl_nil, ownMembership_apply, ih,
        lastOwn?_concat]
      by_cases hx : isOwn user x = true
      · obtain ⟨m, hm⟩ := Option.isSome_iff_exists.1 hx
        rw [if_pos hx, hm, Option.bind_some, membership_eq hm]
        rfl
      · have hnone : x.membershipOf? user.text = none := by
          rwa [isOwn, Option.not_isSome_iff_eq_none] at hx
        rw [if_neg hx, hnone]
        rfl

/-! ## §2. Both readers. -/

/-- A member event of the user is one that may decide. -/
theorem candidate_iff_isOwn {e : RoomEvent} :
    Candidate user (fun _ => true) e ↔ isOwn user e = true := by
  unfold Candidate isOwn
  rw [Option.isSome_iff_exists]
  exact exists_congr fun m => and_iff_left rfl

/-- **When both readers read the same.**  Of a payload with a member event of the user
the classifier follows the one that decides by its age, and the room, whatever it knew
before, has the membership of the last one.  So they agree exactly when these two
events carry one membership, as they do where the last one is younger than all others. -/
theorem readings_agree_iff (r : Room) (p : Payload)
    (hown : ∃ e ∈ Classifier.candidates p, isOwn user e = true) :
    ∃ decisive last,
      authoritative user (fun _ => true) (Classifier.candidates p) = some decisive
        ∧ Decides user (fun _ => true) (Classifier.candidates p) decisive
        ∧ lastOwn? user (Classifier.candidates p) = some last
        ∧ (r.apply user p).facts.ownMembership = last.membership?
        ∧ ((r.apply user p).facts.ownMembership = decisive.membership? ↔
            last.membership? = decisive.membership?)
        ∧ ((∀ x ∈ (Classifier.candidates p).filter (isOwn user), x = last ∨ last.age < x.age) →
            (r.apply user p).facts.ownMembership = decisive.membership?) := by
  obtain ⟨e, he, hisOwn⟩ := hown
  obtain ⟨decisive, hdecisive⟩ :
      ∃ d, authoritative user (fun _ => true) (Classifier.candidates p) = some d := by
    rw [← Option.ne_none_iff_exists']
    exact fun hnone => authoritative_eq_none.1 hnone e he (candidate_iff_isOwn.2 hisOwn)
  obtain ⟨last, hlast⟩ : ∃ l, lastOwn? user (Classifier.candidates p) = some l := by
    rw [← Option.ne_none_iff_exists']
    exact fun hnone => List.ne_nil_of_mem (List.mem_filter.2 ⟨he, hisOwn⟩)
      (List.getLast?_eq_none_iff.1 hnone)
  have hdecides := authoritative_eq_some.1 hdecisive
  have hkept : (r.apply user p).facts.ownMembership = last.membership? := by
    show ((Classifier.candidates p).foldl (Facts.apply user) r.facts).ownMembership = _
    rw [ownMembership_foldl, hlast, Option.bind_some, ← membershipOf?_eq (isOwn_of_lastOwn? hlast)]
    obtain ⟨m, hm⟩ := Option.isSome_iff_exists.1 (isOwn_of_lastOwn? hlast)
    rw [hm]
    rfl
  refine ⟨decisive, last, hdecisive, hdecides, hlast, hkept, by rw [hkept], fun hyounger => ?_⟩
  -- the one that decides is not older than the last one, so it is the last one
  obtain ⟨before, after, hsplit, hcandidate, -, -⟩ := hdecides
  have hmem : decisive ∈ Classifier.candidates p := by
    rw [hsplit]
    exact List.mem_append_right _ List.mem_cons_self
  have hle : decisive.age ≤ last.age :=
    (authoritative_eq_some.1 hdecisive).least
      (List.mem_filter.1 (List.mem_of_getLast? hlast)).1
      (candidate_iff_isOwn.2 (isOwn_of_lastOwn? hlast))
  rcases hyounger decisive (List.mem_filter.2 ⟨hmem, candidate_iff_isOwn.1 hcandidate⟩) with
    rfl | hlt
  · exact hkept
  · exact absurd hle (Int.not_le.2 hlt)

end Readers

/-! ## §3. A stale event in the timeline. -/

namespace Stale

def user : UserId := ⟨"@stale:x", by decide +kernel⟩

def room : RoomId := ⟨"!stale:x", by decide +kernel⟩

/-- A member event of the user of this age. -/
def member (membership : String) (age : Int) : RoomEvent where
  type := "m.room.member"
  stateKey := some user.text
  content := .object [("membership", .string membership)]
  unsigned := { age := some age }

end Stale

open Stale in
/-- An invite in the state, and in the timeline the join that followed it. -/
theorem fresh_join_is_read_twice :
    let p : Payload := { requiredState := [member "invite" 10], timeline := [member "join" 5] }
    (∃ e ∈ Classifier.candidates p, isOwn user e = true)
      ∧ authoritative user (fun _ => true) (Classifier.candidates p) = some (member "join" 5)
      ∧ (Room.apply user { id := room } p).facts.ownMembership = some .join := by
  intro p
  have hown : ∃ e ∈ Classifier.candidates p, isOwn user e = true :=
    ⟨member "join" 5, by decide +kernel, by decide +kernel⟩
  obtain ⟨decisive, last, hdecisive, -, hlast, -, hagree, -⟩ :=
    readings_agree_iff { id := room } p hown
  have hfound : authoritative user (fun _ => true) (Classifier.candidates p) =
      some (member "join" 5) := by decide +kernel
  have hfinal : lastOwn? user (Classifier.candidates p) = some (member "join" 5) := by
    decide +kernel
  obtain rfl := Option.some.inj (hdecisive.symm.trans hfound)
  obtain rfl := Option.some.inj (hlast.symm.trans hfinal)
  exact ⟨hown, hfound, hagree.2 rfl⟩

open Stale in
/-- The state holds the user's join, and the timeline a leave that is older: the
classifier reads the join, and the room keeps the leave. -/
theorem stale_leave_is_kept :
    let p : Payload := { requiredState := [member "join" 5], timeline := [member "leave" 10] }
    (∃ e ∈ Classifier.candidates p, isOwn user e = true)
      ∧ (authoritative user (fun _ => true) (Classifier.candidates p)).bind (·.membership?) =
          some .join
      ∧ (Room.apply user { id := room } p).facts.ownMembership = some .leave := by
  decide +kernel

end RoomSync.Window
