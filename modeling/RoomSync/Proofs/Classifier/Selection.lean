/-
  RoomSync.Proofs.Classifier.Selection
  ────────────────────────────────────
  **THE CHOICE OF THE DECIDING EVENT.**

  Of the events in a list only the user's own member events with an accepted
  membership count.  The first of the youngest among these is chosen, where an
  event that does not say its age is of age zero, and an age may be negative.  The
  choice is made at a place of the list (`Chosen`), so that it can be said what the
  other places matter: not at all.

      candidate_iff_kind    — what counts, by the kind of an event
      candidate_iff_member  — and by what it says
      Chosen.sublist        — the place stays chosen when others are left out
      authoritative_remove  — without an event at another place the choice is the same
      authoritative_insert  — and so it is with more events that do not count
      first_youngest_is_chosen — all of it, for any list
-/
import RoomSync.Proofs.Classifier.Deciding

namespace RoomSync

open Json

/-! ## §1. What counts. -/

section Choice

variable {user : UserId} {accept : Membership → Bool}

/-- **What counts**: a member event, of this user, with an accepted membership. -/
theorem candidate_iff_kind {e : RoomEvent} : Candidate user accept e ↔
    ∃ m, e.kind = .member m ∧ e.stateKey = some user.text ∧ accept m = true := by
  unfold Candidate
  simp only [RoomEvent.membershipOf?_eq_some, and_assoc]

/-- The same by what the event says, where its kind is the one that this tells. -/
theorem candidate_iff_member {e : RoomEvent} (h : e.Consistent) : Candidate user accept e ↔
    e.type = "m.room.member" ∧ e.stateKey = some user.text
      ∧ accept (statedMembership e.content) = true := by
  unfold Candidate
  simp only [h.membershipOf?_eq_some]
  constructor
  · rintro ⟨m, ⟨⟨htype, rfl⟩, hkey⟩, haccept⟩
    exact ⟨htype, hkey, haccept⟩
  · rintro ⟨htype, hkey, haccept⟩
    exact ⟨_, ⟨⟨htype, rfl⟩, hkey⟩, haccept⟩

/-! ## §2. The place that is chosen. -/

variable {before after : List RoomEvent} {e x : RoomEvent}

theorem Chosen.authoritative_eq (h : Chosen user accept before e after) :
    authoritative user accept (before ++ e :: after) = some e :=
  authoritative_eq_some.2 ⟨before, after, rfl, h⟩

/-- **The place stays chosen** when others are left out. -/
theorem Chosen.sublist (h : Chosen user accept before e after) {before' after' : List RoomEvent}
    (hbefore : before'.Sublist before) (hafter : after'.Sublist after) :
    Chosen user accept before' e after' where
  counts := h.counts
  first := fun y hy => h.first y (hbefore.subset hy)
  youngest := fun y hy => h.youngest y (hafter.subset hy)

/-- Where an event that counts is not chosen, another one is younger, or as young and
stands before it. -/
theorem exists_better (hx : Candidate user accept x) (h : ¬ Chosen user accept before x after) :
    (∃ y ∈ before, Candidate user accept y ∧ y.age ≤ x.age)
      ∨ ∃ y ∈ after, Candidate user accept y ∧ y.age < x.age := by
  by_contra hnone
  rw [not_or] at hnone
  refine h ⟨hx, fun y hy hcounts => ?_, fun y hy hcounts => ?_⟩
  · exact Int.not_le.1 fun hle => hnone.1 ⟨y, hy, hcounts, hle⟩
  · exact Int.not_lt.1 fun hlt => hnone.2 ⟨y, hy, hcounts, hlt⟩

/-- **An event at another place** does not take the choice away. -/
theorem Decides.insert (h : Decides user accept (before ++ after) e)
    (hx : ¬ Chosen user accept before x after) :
    Decides user accept (before ++ x :: after) e := by
  have hleast := fun y hy hcounts => h.least (x := y) hy hcounts
  obtain ⟨front, back, hsplit, hcounts, hfirst, hyoungest⟩ := h
  rcases split_append hsplit with ⟨mid, rfl, rfl⟩ | ⟨mid, rfl, rfl⟩
  · -- the choice stands before the new event, which may be as young
    have holder : Candidate user accept x → e.age ≤ x.age := by
      intro hxcounts
      rcases exists_better hxcounts hx with ⟨y, hy, hycounts, hle⟩ | ⟨y, hy, hycounts, hlt⟩
      · exact Int.le_trans (hleast y (List.mem_append_left _ hy) hycounts) hle
      · exact Int.le_trans (hleast y (List.mem_append_right _ hy) hycounts) (Int.le_of_lt hlt)
    refine ⟨front, mid ++ x :: after, by simp, hcounts, hfirst, ?_⟩
    rw [List.forall_mem_append] at hyoungest
    rw [List.forall_mem_append, List.forall_mem_cons]
    exact ⟨hyoungest.1, holder, hyoungest.2⟩
  · -- the choice stands after the new event, which has to be older
    have holder : Candidate user accept x → e.age < x.age := by
      intro hxcounts
      rcases exists_better hxcounts hx with ⟨y, hy, hycounts, hle⟩ | ⟨y, hy, hycounts, hlt⟩
      · exact Int.lt_of_lt_of_le (hfirst y (List.mem_append_left _ hy) hycounts) hle
      · exact Int.lt_of_le_of_lt (hleast y (List.mem_append_right _ hy) hycounts) hlt
    refine ⟨before ++ x :: mid, back, by simp, hcounts, ?_, hyoungest⟩
    rw [List.forall_mem_append] at hfirst
    rw [List.forall_mem_append, List.forall_mem_cons]
    exact ⟨hfirst.1, holder, hfirst.2⟩

/-- **Without an event at another place** the choice is the same. -/
theorem authoritative_remove (hx : ¬ Chosen user accept before x after) :
    authoritative user accept (before ++ x :: after) =
      authoritative user accept (before ++ after) := by
  cases hfound : authoritative user accept (before ++ after) with
  | some e => exact authoritative_eq_some.2 ((authoritative_eq_some.1 hfound).insert hx)
  | none =>
      rw [authoritative_eq_none, List.forall_mem_append] at hfound
      rw [authoritative_eq_none, List.forall_mem_append, List.forall_mem_cons]
      refine ⟨hfound.1, fun hcounts => ?_, hfound.2⟩
      -- with nothing else that counts the event would be chosen
      rcases exists_better hcounts hx with ⟨y, hy, hycounts, -⟩ | ⟨y, hy, hycounts, -⟩
      · exact hfound.1 y hy hycounts
      · exact hfound.2 y hy hycounts

/-- **With more events that do not count** the choice is the same. -/
theorem authoritative_insert {more : List RoomEvent}
    (hmore : ∀ y ∈ more, ¬ Candidate user accept y) :
    authoritative user accept (before ++ more ++ after) =
      authoritative user accept (before ++ after) := by
  induction more with
  | nil => rw [List.append_nil]
  | cons y rest ih =>
      have hy : ¬ Chosen user accept before y (rest ++ after) :=
        fun h => hmore y List.mem_cons_self h.counts
      rw [List.append_assoc, List.cons_append, authoritative_remove hy, ← List.append_assoc]
      exact ih fun z hz => hmore z (List.mem_cons_of_mem _ hz)

end Choice

/-! ## §3. The first of the youngest. -/

/-- **The first of the youngest is chosen.**  None is where nothing counts: no event of
the list is a member event of the user with an accepted membership, which is told by its
kind, and by type and content where the kind is the one they tell.  Otherwise the
choice is the event of the list that counts, is younger than all that count before it
and not older than any that counts after it, where an event without an age is of age
zero.  It is chosen at its place whatever else is left out; to leave out any event but
that one, or to put in events that do not count, does not change the choice. -/
theorem first_youngest_is_chosen (user : UserId) (accept : Membership → Bool)
    (events : List RoomEvent) :
    (∀ e, (Candidate user accept e ↔
          ∃ m, e.kind = .member m ∧ e.stateKey = some user.text ∧ accept m = true)
        ∧ (e.Consistent → (Candidate user accept e ↔
          e.type = "m.room.member" ∧ e.stateKey = some user.text
            ∧ accept (statedMembership e.content) = true)))
      ∧ (authoritative user accept events = none ↔ ∀ e ∈ events, ¬ Candidate user accept e)
      ∧ (∀ e, authoritative user accept events = some e ↔
          ∃ before after, events = before ++ e :: after ∧ Candidate user accept e
            ∧ (∀ x ∈ before, Candidate user accept x →
                e.unsigned.age.getD 0 < x.unsigned.age.getD 0)
            ∧ ∀ x ∈ after, Candidate user accept x →
                e.unsigned.age.getD 0 ≤ x.unsigned.age.getD 0)
      ∧ (∀ before e after, events = before ++ e :: after → Chosen user accept before e after →
          ∀ before' after' : List RoomEvent, before'.Sublist before → after'.Sublist after →
            authoritative user accept (before' ++ e :: after') = some e)
      ∧ (∀ before x after, events = before ++ x :: after → ¬ Chosen user accept before x after →
          authoritative user accept (before ++ after) = authoritative user accept events)
      ∧ (∀ before more after, events = before ++ after →
          (∀ x ∈ more, ¬ Candidate user accept x) →
            authoritative user accept (before ++ more ++ after) =
              authoritative user accept events) := by
  refine ⟨fun e => ⟨candidate_iff_kind, candidate_iff_member⟩, authoritative_eq_none, fun e => ?_,
    ?_, ?_, ?_⟩
  · rw [authoritative_eq_some]
    constructor
    · rintro ⟨before, after, hsplit, hcounts, hfirst, hyoungest⟩
      exact ⟨before, after, hsplit, hcounts, hfirst, hyoungest⟩
    · rintro ⟨before, after, hsplit, hcounts, hfirst, hyoungest⟩
      exact ⟨before, after, hsplit, hcounts, hfirst, hyoungest⟩
  · intro before e after _ hchosen before' after' hbefore hafter
    exact (hchosen.sublist hbefore hafter).authoritative_eq
  · intro before x after hsplit hx
    rw [hsplit, authoritative_remove hx]
  · intro before more after hsplit hmore
    rw [hsplit, authoritative_insert hmore]

namespace Ages

def user : UserId := ⟨"@ages:x", by decide +kernel⟩

/-- A member event of the user. -/
def member (id membership : String) (age : Option Int) : RoomEvent :=
  { id := some id
    type := "m.room.member"
    stateKey := some user.text
    content := .object [("membership", .string membership)]
    unsigned := { age } }

def old : RoomEvent := member "$old" "leave" none

def first : RoomEvent := member "$first" "ban" (some (-3))

def second : RoomEvent := member "$second" "leave" (some (-3))

/-- Younger than all others, but no departure. -/
def back : RoomEvent := member "$back" "join" (some (-9))

end Ages

open Ages in
/-- Among the departures the ban is chosen: an equally young one after it and an older
one before it do not matter, nor does the join. -/
theorem first_of_equally_young :
    Chosen user Membership.isDeparture [old] first [second]
      ∧ authoritative user Membership.isDeparture [old, first, second] = some first
      ∧ authoritative user Membership.isDeparture [first] = some first
      ∧ authoritative user Membership.isDeparture [old, first] = some first
      ∧ authoritative user Membership.isDeparture [old, first, back, second] = some first
      ∧ authoritative user Membership.isDeparture [back] = none := by
  obtain ⟨hcounts, -, hsome, hplace, hremove, hinsert⟩ :=
    first_youngest_is_chosen user Membership.isDeparture [old, first, second]
  have hfirst : Candidate user Membership.isDeparture first :=
    ((hcounts first).2 rfl).2 (by decide +kernel)
  have hback : ¬ Candidate user Membership.isDeparture back := fun h =>
    absurd (((hcounts back).2 rfl).1 h) (by decide +kernel)
  have hchosen : Chosen user Membership.isDeparture [old] first [second] :=
    ⟨hfirst, by simp [old, first, member, RoomEvent.age],
      by simp [second, first, member, RoomEvent.age]⟩
  have hthird : ¬ Chosen user Membership.isDeparture [old, first] second [] := fun h =>
    absurd (h.first first (by simp) hfirst) (by decide)
  have hall : authoritative user Membership.isDeparture [old, first, second] = some first :=
    (hsome first).2 ⟨[old], [second], rfl, hchosen.counts, hchosen.first, hchosen.youngest⟩
  refine ⟨hchosen, hall, ?_, ?_, ?_, ?_⟩
  · exact hplace [old] first [second] rfl hchosen [] [] (List.nil_sublist _) (List.nil_sublist _)
  · exact (hremove [old, first] second [] rfl hthird).trans hall
  · refine (hinsert [old, first] [back] [second] rfl fun x hx => ?_).trans hall
    rw [List.mem_singleton.1 hx]
    exact hback
  · refine (first_youngest_is_chosen user Membership.isDeparture [back]).2.1.2 fun x hx => ?_
    rw [List.mem_singleton.1 hx]
    exact hback

end RoomSync
