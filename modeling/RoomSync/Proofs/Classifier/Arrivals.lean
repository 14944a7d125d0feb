/-
  RoomSync.Proofs.Classifier.Arrivals
  ───────────────────────────────────
  **WHEN A PAYLOAD ANNOUNCES A JOIN.**

  A join is announced by a payload that makes a room joined, and by no other
  (`Change.announces_join_iff`).  What makes it joined is the user's membership
  that decides, if it is a join, or else a timeline outside the list of invites:
  it stands for a join where the payload holds no member event of the user.  It
  does so as well where one decides that is no join, no invite and no departure:

      verdict_eq_true_iff         — the payloads that make a room joined
      windowed_announces_join_iff — the payloads that announce a join
      knock_announces_join        — a knock that is taken for a join
-/
import RoomSync.Proofs.Classifier.Deciding
import RoomSync.Proofs.Classifier.Standing

namespace RoomSync

open Window (Behaviour Payload)

namespace Classifier

/-! ## §1. What a payload says. -/

/-- The membership of the user that decides in a payload. -/
def Says (user : UserId) (p : Payload) (m : Membership) : Prop :=
  ∃ e, Decides user (fun _ => true) (candidates p) e ∧ e.membershipOf? user.text = some m

/-- A payload holds no member event of the user. -/
def Wordless (user : UserId) (p : Payload) : Prop :=
  ∀ e ∈ candidates p, e.membershipOf? user.text = none

/-- The membership that decides is neither in the room nor out of it. -/
def Undecided (user : UserId) (p : Payload) : Prop :=
  Says user p .knock ∨ Says user p .unknown

section Saying

variable {user : UserId} {p : Payload}

/-- At most one membership decides. -/
theorem Says.unique {m m' : Membership} (h : Says user p m) (h' : Says user p m') : m = m' := by
  obtain ⟨e, he, hm⟩ := h
  obtain ⟨e', he', hm'⟩ := h'
  obtain rfl := he.unique he'
  exact Option.some.inj (hm.symm.trans hm')

/-- Where there is a member event of the user, one decides. -/
theorem Wordless.not_says (h : Wordless user p) (m : Membership) : ¬ Says user p m := by
  rintro ⟨e, hdecides, hm⟩
  rw [h e hdecides.mem_candidate.1] at hm
  cases hm

/-- The scan, by what the payload says. -/
theorem says_or_wordless (user : UserId) (p : Payload) :
    (authoritative user (fun _ => true) (candidates p) = none ∧ Wordless user p)
      ∨ ∃ e m, authoritative user (fun _ => true) (candidates p) = some e
        ∧ e.membership? = some m ∧ Says user p m := by
  cases hfound : authoritative user (fun _ => true) (candidates p) with
  | none =>
      refine .inl ⟨rfl, fun e he => ?_⟩
      refine Option.eq_none_iff_forall_ne_some.2 fun m hm => ?_
      exact authoritative_eq_none.1 hfound e he ⟨m, hm, rfl⟩
  | some e =>
      have hdecides := authoritative_eq_some.1 hfound
      obtain ⟨m, hm, -⟩ := hdecides.mem_candidate.2
      exact .inr ⟨e, m, rfl, membership_eq hm, e, hdecides, hm⟩

/-- Where a knock or an unknown value decides, no join does, and there is a member
event of the user. -/
theorem Undecided.spoken (h : Undecided user p) : ¬ Says user p .join ∧ ¬ Wordless user p := by
  rcases h with h | h
  · exact ⟨fun hjoin => (nomatch h.unique hjoin), fun hnone => hnone.not_says _ h⟩
  · exact ⟨fun hjoin => (nomatch h.unique hjoin), fun hnone => hnone.not_says _ h⟩

/-! ## §2. What makes a room joined. -/

theorem unspokenVerdict_eq_true_iff (list : Behaviour) (p : Payload) :
    unspokenVerdict list p = some true ↔ list ≠ .invited ∧ p.timeline ≠ [] := by
  unfold unspokenVerdict
  split
  next h => exact iff_of_true rfl h
  next h => exact iff_of_false (fun h => nomatch h) h

/-- **The payloads that make a room joined.** -/
theorem verdict_eq_true_iff (list : Behaviour) :
    verdict user list p = some true ↔
      Says user p .join
        ∨ ((Wordless user p ∨ Undecided user p) ∧ list ≠ .invited ∧ p.timeline ≠ []) := by
  unfold verdict
  rcases says_or_wordless user p with ⟨hfound, hwordless⟩ | ⟨e, m, hfound, hmembership, hsays⟩
  · rw [hfound]
    dsimp only
    rw [unspokenVerdict_eq_true_iff]
    constructor
    · intro h
      exact .inr ⟨.inl hwordless, h⟩
    · rintro (hjoin | ⟨-, h⟩)
      · exact absurd hjoin (hwordless.not_says .join)
      · exact h
  · have hspoken : ¬ Wordless user p := fun h => h.not_says m hsays
    have hothers : ∀ m', Says user p m' ↔ m' = m := fun m' =>
      ⟨fun h => h.unique hsays, fun h => h ▸ hsays⟩
    rw [hfound]
    dsimp only
    rw [hmembership]
    unfold Undecided
    rw [hothers, hothers, hothers]
    cases m with
    | join => simp
    | leave | ban | invite => simp [hspoken]
    | knock | unknown => simp [hspoken, unspokenVerdict_eq_true_iff]

/-- Where a knock or an unknown value decides, only the timeline speaks. -/
theorem verdict_undecided (list : Behaviour) (h : Undecided user p) :
    verdict user list p = unspokenVerdict list p := by
  unfold verdict
  rcases says_or_wordless user p with ⟨-, hnone⟩ | ⟨e, m, hfound, hmembership, hsays⟩
  · exact absurd hnone h.spoken.2
  · rw [hfound]
    dsimp only
    rw [hmembership]
    rcases h with h | h
    · obtain rfl := h.unique hsays
      rfl
    · obtain rfl := h.unique hsays
      rfl

end Saying

/-! ## §3. What announces a join. -/

/-- **A join is announced** by what makes a room joined that was not. -/
theorem Change.announces_join_iff {room : RoomId} {c c' : Classifier} {fx : List Effect}
    (h : Change room c c' fx) (r : RoomId) :
    .signal (.room r .joined) ∈ fx ↔
      r = room ∧ c.isJoined room = false ∧ c'.isJoined room = true := by
  have hquiet : ∀ fx : List Effect, (∀ x ∈ fx, x.OfTimeline room) →
      .signal (.room r .joined) ∉ fx := fun fx hfx hin => nomatch (hfx _ hin).2
  cases h with
  | stay hfx hin hjoined hinvited =>
      have hsame : c'.isJoined room = c.isJoined room := congrArg (·.contains room) hjoined
      rw [hsame]
      refine iff_of_false (hquiet fx hfx) fun h => ?_
      rw [h.2.1] at h
      exact Bool.false_ne_true h.2.2
  | leave e hjoined hinvited =>
      have hout : c'.isJoined room = false :=
        (congrArg (·.contains room) hjoined).trans (Table.contains_erase_self _ _)
      rw [hout]
      simp
  | invite e hjoined hinvited =>
      have hsame : c'.isJoined room = c.isJoined room := congrArg (·.contains room) hjoined
      rw [hsame]
      simp
  | @join fx hout hfx hjoined hinvited =>
      have hin : c'.isJoined room = true :=
        (congrArg (·.contains room) hjoined).trans (Table.contains_insert_self _ _ _)
      rw [hout, hin, List.mem_cons]
      simp [hquiet fx hfx]

/-- **The payloads that announce a join.**  A payload announces the join of its own
room only, and it does if the room was not joined, and either the membership of the
user that decides is a join, or the timeline is not empty, the list is not that of
invites, and the payload holds no member event of the user or one of a knock or an
unknown value decides.  So the rule that only a join or a timeline without any member
event of the user makes a room joined holds exactly of the payloads of which the
latter is not true, and such a payload leaves a room joined that it finds outside. -/
theorem windowed_announces_join_iff (s : Services) (room : RoomId) (list : Behaviour)
    (p : Payload) (c : Classifier) :
    let after := windowed s room list p c
    let announced := Effect.signal (.room room .joined) ∈ after.effects
    let speaks := list ≠ .invited ∧ p.timeline ≠ []
    (∀ r, .signal (.room r .joined) ∈ after.effects → r = room)
      ∧ (announced ↔ c.isJoined room = false
        ∧ (Says c.user p .join ∨ ((Wordless c.user p ∨ Undecided c.user p) ∧ speaks)))
      ∧ ((announced ↔ c.isJoined room = false
          ∧ (Says c.user p .join ∨ (Wordless c.user p ∧ speaks)))
        ↔ ¬ (c.isJoined room = false ∧ Undecided c.user p ∧ speaks))
      ∧ (Undecided c.user p →
        (after.state.isJoined room = true ↔ c.isJoined room = true ∨ speaks)) := by
  intro after announced speaks
  obtain ⟨hchange, -⟩ := windowed_change s room list p c
  have hjoined : after.state.isJoined room =
      (verdict c.user list p).getD (c.isJoined room) :=
    (isJoined_windowed s room list p c room).trans (if_pos rfl)
  have hannounced : announced ↔ c.isJoined room = false
      ∧ (Says c.user p .join ∨ ((Wordless c.user p ∨ Undecided c.user p) ∧ speaks)) := by
    rw [← verdict_eq_true_iff list]
    refine (hchange.announces_join_iff room).trans ?_
    rw [and_iff_right rfl, and_congr_right_iff]
    intro hout
    rw [hjoined, hout]
    cases verdict c.user list p <;> simp
  refine ⟨fun r hr => ((hchange.announces_join_iff r).1 hr).1, hannounced, ?_, ?_⟩
  · rw [hannounced]
    constructor
    · rintro hrule ⟨hout, hundecided, hspeaks⟩
      obtain ⟨hjoin, hspoken⟩ := hundecided.spoken
      rcases (hrule.1 ⟨hout, .inr ⟨.inr hundecided, hspeaks⟩⟩).2 with h | h
      · exact hjoin h
      · exact hspoken h.1
    · intro hother
      refine and_congr_right fun hout => or_congr_right ?_
      constructor
      · rintro ⟨hwordless | hundecided, hspeaks⟩
        · exact ⟨hwordless, hspeaks⟩
        · exact absurd ⟨hout, hundecided, hspeaks⟩ hother
      · rintro ⟨hwordless, hspeaks⟩
        exact ⟨.inl hwordless, hspeaks⟩
  · intro hundecided
    rw [hjoined, verdict_undecided list hundecided]
    unfold unspokenVerdict
    by_cases hspeaks : speaks
    · rw [if_pos hspeaks]
      exact iff_of_true rfl (.inr hspeaks)
    · rw [if_neg hspeaks]
      exact (or_iff_left hspeaks).symm

/-! ## §4. A knock in a timeline. -/

namespace Knock

def guest : UserId := ⟨"@knocking:x", by decide +kernel⟩

def room : RoomId := ⟨"!closed:x", by decide +kernel⟩

/-- The user knocks. -/
def knock : RoomEvent :=
  { type := "m.room.member"
    stateKey := some guest.text
    content := .record [("membership", .string "knock")] }

/-- The knock is all that the timeline holds. -/
def payload : Payload := { timeline := [knock] }

theorem knock_decides : Decides guest (fun _ => true) (candidates payload) knock :=
  authoritative_eq_some.1 (by decide +kernel)

end Knock

open Knock in
/-- **A knock that is taken for a join.**  The room comes for the first time, and all
that is said of the user is a knock; the join is announced, and the room counts as
joined. -/
theorem knock_announces_join :
    Windows guest [] { user := guest }
      ∧ Says guest payload .knock ∧ ¬ Says guest payload .join ∧ ¬ Wordless guest payload
      ∧ .signal (.room room .joined) ∈ (windowed {} room .joined payload { user := guest }).effects
      ∧ (windowed {} room .joined payload { user := guest }).state.isJoined room = true := by
  have hknock : Says guest payload .knock := ⟨knock, knock_decides, by decide +kernel⟩
  obtain ⟨hjoin, hspoken⟩ := Undecided.spoken (.inl hknock)
  exact ⟨.fresh, hknock, hjoin, hspoken, by decide +kernel, by decide +kernel⟩

end Classifier

end RoomSync
