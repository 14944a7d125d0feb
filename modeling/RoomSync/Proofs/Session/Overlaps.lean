/-
  RoomSync.Proofs.Session.Overlaps
  ────────────────────────────────
  **ROOMS THAT ARE JOINED AND INVITED AT ONCE.**

  To join a room ends an invite to it, and so does to leave it; an invite that
  comes in a payload or from storage is passed over where the user is in already.
  An invite of a batch that follows a cursor is not: the user may have been put
  out of the room and invited again between two polls, and then the invite is all
  that is heard.  The room stays joined, and is invited besides:

      Change.keeps_exclusive     — what a call has to avoid
      exclusive_run_iff          — the one call that does not
      Calls.overlap              — what such a run is heard to do
      overlap_iff_invited_inside — when a room is joined and invited at once
      invite_without_departure   — the invite after a kick that is not reported

  The last word on a stay is read off the history (`Stay.lastWord`); an invite
  says nothing about it.
-/
import RoomSync.Proofs.Classifier.Deciding
import RoomSync.Proofs.Classifier.Standing
import RoomSync.Proofs.Session.Stays

namespace RoomSync

/-! ## §1. Invites during a stay. -/

namespace Stay

/-- The user was invited to room `r` during a stay, and that stay lasts. -/
def InvitedInside (history : List Happening) (r : RoomId) : Prop :=
  ∃ done e rest, history = done ++ .signal (.room r (.invited e)) :: rest
    ∧ lastWord done r = some true ∧ ∀ x ∈ rest, word r x = none

theorem word_invited (r room : RoomId) (e : RoomEvent) :
    word r (.signal (.room room (.invited e))) = none := rfl

/-- What says nothing about the stay leaves the last word. -/
theorem lastWord_append_none {r : RoomId} {history later : List Happening}
    (hnone : ∀ x ∈ later, word r x = none) :
    lastWord (history ++ later) r = lastWord history r := by
  unfold lastWord
  rw [List.filterMap_append, List.filterMap_eq_nil_iff.2 hnone, List.append_nil]

/-- The last word stands at an invite, and after it. -/
theorem lastWord_after_invite {r : RoomId} {done rest : List Happening} (e : RoomEvent)
    (hnone : ∀ x ∈ rest, word r x = none) :
    lastWord (done ++ .signal (.room r (.invited e)) :: rest) r = lastWord done r := by
  refine lastWord_append_none fun x hx => ?_
  rcases List.mem_cons.1 hx with rfl | hx
  · rfl
  · exact hnone x hx

theorem InvitedInside.lastWord {history : List Happening} {r : RoomId}
    (h : InvitedInside history r) : Stay.lastWord history r = some true := by
  obtain ⟨done, e, rest, rfl, hinside, hnone⟩ := h
  rw [lastWord_after_invite e hnone, hinside]

theorem not_invitedInside_nil (r : RoomId) : ¬ InvitedInside [] r := by
  rintro ⟨done, e, rest, hsplit, -⟩
  simp at hsplit

/-- A word about the stay puts an end to it. -/
theorem not_invitedInside_of_word {r : RoomId} {history : List Happening} {x : Happening}
    (hword : word r x ≠ none) : ¬ InvitedInside (history ++ [x]) r := by
  rintro ⟨done, e, rest, hsplit, -, hnone⟩
  rcases List.eq_nil_or_concat rest with rfl | ⟨front, y, rfl⟩
  · obtain ⟨-, hx⟩ := List.append_inj' hsplit rfl
    rw [List.singleton_inj.1 hx] at hword
    exact hword (word_invited r r e)
  · rw [List.concat_eq_append, ← List.cons_append, ← List.append_assoc] at hsplit
    obtain ⟨-, hx⟩ := List.append_inj' hsplit rfl
    rw [List.singleton_inj.1 hx] at hword
    exact hword (hnone y (by simp))

/-- An invite that is heard during a stay. -/
theorem invitedInside_invite {r : RoomId} {history : List Happening} (e : RoomEvent) :
    InvitedInside (history ++ [.signal (.room r (.invited e))]) r ↔
      lastWord history r = some true := by
  have hnone : ∀ x ∈ ([] : List Happening), word r x = none := fun _ hx => (nomatch hx)
  constructor
  · intro h
    rw [← lastWord_after_invite e hnone]
    exact h.lastWord
  · intro hinside
    exact ⟨history, e, [], rfl, hinside, hnone⟩

/-- What is neither a word about the stay nor an invite. -/
def Quiet (r : RoomId) (x : Happening) : Prop :=
  word r x = none ∧ ∀ e, x ≠ .signal (.room r (.invited e))

theorem invitedInside_append_quiet {r : RoomId} {history later : List Happening}
    (hquiet : ∀ x ∈ later, Quiet r x) :
    InvitedInside (history ++ later) r ↔ InvitedInside history r := by
  constructor
  · rintro ⟨done, e, rest, hsplit, hinside, hnone⟩
    rcases split_append hsplit with ⟨tail, rfl, rfl⟩ | ⟨mid, -, hlater⟩
    · exact ⟨done, e, tail, rfl, hinside, fun x hx => hnone x (List.mem_append_left _ hx)⟩
    · -- the invite would be among the quiet ones
      exact absurd rfl ((hquiet _ (by rw [hlater]; simp)).2 e)
  · rintro ⟨done, e, rest, rfl, hinside, hnone⟩
    refine ⟨done, e, rest ++ later, by simp, hinside, fun x hx => ?_⟩
    rcases List.mem_append.1 hx with hx | hx
    · exact hnone x hx
    · exact (hquiet x hx).1

/-- What is heard of other rooms is quiet. -/
theorem quiet_other {r room : RoomId} (h : room ≠ r) (news : RoomNews) :
    Quiet r (.signal (.room room news)) := by
  refine ⟨?_, fun e heq => ?_⟩
  · cases news with
    | joined => rw [word_joined, if_neg h]
    | left e => rw [word_left, if_neg h]
    | _ => rfl
  · cases heq
    exact h rfl

/-- News of a timeline are quiet. -/
theorem quiet_fromTimeline {news : RoomNews} (h : news.fromTimeline = true) (r : RoomId) :
    Quiet r (.signal (.room r news)) := by
  refine ⟨?_, fun e heq => ?_⟩
  · cases news with
    | accountData | left | invited | joined => cases h
    | _ => rfl
  · cases heq
    cases h

end Stay

/-! ## §2. One call. -/

namespace Classifier

section Calls

variable {room : RoomId} {c c' : Classifier} {fx : List Effect}

/-- **A call keeps joined and invited rooms apart** unless it announces an invite to
a room that is joined. -/
theorem Change.keeps_exclusive (h : Change room c c' fx)
    (hinvite : ∀ e, .signal (.room room (.invited e)) ∈ fx → c.isJoined room = false)
    (hexclusive : c.Exclusive) : c'.Exclusive := by
  intro r hin
  by_cases hr : r = room
  · subst hr
    cases h with
    | stay hfx hstay hjoined hinvited =>
        have hsame : c.isJoined r = true := (congrArg (·.contains r) hjoined).symm.trans hin
        exact (congrArg (·.contains r) hinvited).trans (hexclusive r hsame)
    | leave e hjoined hinvited =>
        exact (congrArg (·.contains r) hinvited).trans (Table.contains_erase_self _ _)
    | invite e hjoined hinvited =>
        have hsame : c.isJoined r = true := (congrArg (·.contains r) hjoined).symm.trans hin
        rw [hinvite e List.mem_cons_self] at hsame
        cases hsame
    | join hout hfx hjoined hinvited =>
        exact (congrArg (·.contains r) hinvited).trans (Table.contains_erase_self _ _)
  · obtain ⟨hjoined, hinvited⟩ := h.others hr
    rw [hinvited]
    exact hexclusive r (hjoined.symm.trans hin)

/-- What a call for a room is heard to do changes nothing for another one. -/
theorem Change.quiet_others (h : Change room c c' fx) {r : RoomId} (hr : r ≠ room) :
    ∀ x ∈ heardOf fx, Stay.Quiet r x := by
  intro x hx
  obtain ⟨news, rfl⟩ := h.heard x hx
  exact Stay.quiet_other (Ne.symm hr) news

theorem quiet_ofTimeline (hfx : ∀ x ∈ fx, x.OfTimeline room) :
    ∀ x ∈ heardOf fx, Stay.Quiet room x := by
  intro x hx
  obtain ⟨news, rfl, hnews⟩ := heardOf_ofTimeline hfx x hx
  exact Stay.quiet_fromTimeline hnews room

end Calls

/-- The call is an invite, which names the user, to a room that is joined. -/
def Step.InvitesInside (c : Classifier) (x : Step) : Prop :=
  ∃ room stripped, x = .invite room stripped ∧ c.isJoined room = true
    ∧ ∃ e ∈ stripped, Candidate c.user (· = .invite) e

/-- The invite of a batch, whatever is known of its room. -/
theorem invite_announced (s : Services) {room : RoomId} {stripped : List RoomEvent}
    {c : Classifier} (h : ∃ e ∈ stripped, Candidate c.user (· = .invite) e) :
    (invite s room stripped c).state = c.invitedWith room stripped := by
  obtain ⟨e, he, hcandidate⟩ := h
  unfold invite
  cases hfound : authoritative c.user (· = .invite) stripped with
  | none => exact absurd hcandidate (authoritative_eq_none.1 hfound e he)
  | some e' => rfl

theorem invite_unannounced (s : Services) {room : RoomId} {stripped : List RoomEvent}
    {c : Classifier} (h : ¬ ∃ e ∈ stripped, Candidate c.user (· = .invite) e) :
    invite s room stripped c = ⟨c, [], false⟩ := by
  unfold invite
  rw [authoritative_eq_none.2 fun e he hcandidate => h ⟨e, he, hcandidate⟩]

/-- **The one call** after which a room is joined and invited at once. -/
theorem exclusive_run_iff (s : Services) {x : Step} {c : Classifier}
    (hin : ∀ room events, x = .timeline room events → c.isJoined room = true)
    (hexclusive : c.Exclusive) :
    (x.run s c).state.Exclusive ↔ ¬ x.InvitesInside c := by
  have hchange := Step.change s hin
  constructor
  · rintro hafter ⟨room, stripped, rfl, hjoined, hown⟩
    have hstate : ((Step.invite room stripped).run s c).state = c.invitedWith room stripped :=
      invite_announced s hown
    rw [hstate] at hafter
    have hinvited : (c.invitedWith room stripped).isInvited room = true :=
      Table.contains_insert_self c.invited room ()
    rw [hafter room hjoined] at hinvited
    cases hinvited
  · intro hnot
    refine hchange.keeps_exclusive (fun e he => ?_) hexclusive
    cases x with
    | invite room stripped =>
        by_cases hown : ∃ e ∈ stripped, Candidate c.user (· = .invite) e
        · exact Bool.eq_false_iff.2 fun hjoined => hnot ⟨room, stripped, rfl, hjoined, hown⟩
        · have hquiet : ((Step.invite room stripped).run s c).effects = [] :=
            congrArg Outcome.effects (invite_unannounced s hown)
          rw [hquiet] at he
          cases he
    | windowed word =>
        exact ((windowed_change s word.2.1 word.1 word.2.2 c).2.invited e he).1
    | leave room events =>
        rcases leave_cases s room events c with ⟨-, hfx⟩ | ⟨e', -, hfx⟩
        · have he : Effect.signal (.room room (.invited e)) ∈ (leave s room events c).effects := he
          rw [hfx] at he
          cases he
        · have he : Effect.signal (.room room (.invited e)) ∈ (leave s room events c).effects := he
          rw [hfx] at he
          cases List.mem_singleton.1 he
    | join room =>
        have he : Effect.signal (.room room (.invited e)) ∈ (join room c).effects := he
        cases hjoined : c.isJoined room with
        | true =>
            rw [join_known hjoined] at he
            cases he
        | false => exact hjoined
    | state room events => cases he
    | timeline room events => cases (ofTimeline_timeline s room events c _ he).2

/-! ## §3. Runs. -/

/-- The runs of a classifier, with all that could be known of it: memberships are
taken over from storage and calls are made, in any order and with whatever
services.  A timeline is taken in only of a room that is joined. -/
inductive Calls (user : UserId) : List Happening → Classifier → Prop
  | fresh : Calls user [] { user }
  | restored {history : List Happening} {c : Classifier} (h : Calls user history c)
      (room : RoomId) (m : Membership) :
      Calls user (history ++ [.restored room m]) (c.restore room m)
  | called {history : List Happening} {c : Classifier} (h : Calls user history c)
      (s : Services) (x : Step)
      (hin : ∀ room events, x = .timeline room events → c.isJoined room = true) :
      Calls user (history ++ heardOf (x.run s c).effects) (x.run s c).state

/-- The joined rooms are those whose last word says so. -/
theorem Calls.joined_iff {user : UserId} {history : List Happening} {c : Classifier}
    (h : Calls user history c) (r : RoomId) :
    c.isJoined r = true ↔ Stay.lastWord history r = some true := by
  have hread : history.foldlM (Stay.step r) false = some (c.isJoined r) := by
    induction h with
    | fresh => rfl
    | @restored history c _ room m ih => exact foldlM_trans ih (read_restored room m c r)
    | called _ s x hin ih => exact foldlM_trans ih ((Step.change s hin).read r)
  rw [Stay.lastWord_of_read hread]
  exact Stay.getD_false_iff

/-- What a membership that is taken over leaves of an overlap. -/
theorem overlap_restored {history : List Happening} {c : Classifier} {r : RoomId}
    (h : (c.isJoined r = true ∧ c.isInvited r = true) ↔ Stay.InvitedInside history r)
    (room : RoomId) (m : Membership) :
    ((c.restore room m).isJoined r = true ∧ (c.restore room m).isInvited r = true) ↔
      Stay.InvitedInside (history ++ [.restored room m]) r := by
  by_cases hjoin : room = r ∧ m = .join
  · -- to be put in ends the invite
    obtain ⟨rfl, rfl⟩ := hjoin
    have hout : (c.restore room .join).isInvited room = false :=
      Table.contains_erase_self c.invited room
    rw [hout]
    refine iff_of_false (fun hboth => Bool.false_ne_true hboth.2)
      (Stay.not_invitedInside_of_word ?_)
    rw [Stay.word_restored, if_pos ⟨rfl, rfl⟩]
    exact Option.some_ne_none true
  · have hquiet : ∀ x ∈ [Happening.restored room m], Stay.Quiet r x := by
      intro x hx
      obtain rfl := List.mem_singleton.1 hx
      exact ⟨by rw [Stay.word_restored, if_neg hjoin], fun e heq => Happening.noConfusion heq⟩
    rw [Stay.invitedInside_append_quiet hquiet, ← h]
    cases m with
    | leave | ban | knock | unknown => rfl
    | join =>
        have hr : r ≠ room := fun heq => hjoin ⟨heq.symm, rfl⟩
        have hjoined : (c.restore room .join).isJoined r = c.isJoined r :=
          Table.contains_insert_other hr _ _
        have hinvited : (c.restore room .join).isInvited r = c.isInvited r :=
          Table.contains_erase_other hr _
        rw [hjoined, hinvited]
    | invite =>
        cases hin : c.isJoined room with
        | true => rw [restore_invite_known hin]
        | false =>
            rw [restore_invite_new hin]
            by_cases hr : r = room
            · -- an invite that is taken over is one to a room outside
              subst hr
              exact iff_of_false (fun hboth => Bool.eq_false_iff.1 hin hboth.1)
                (fun hboth => Bool.eq_false_iff.1 hin hboth.1)
            · have hinvited : (c.invited.insert room ()).contains r = c.invited.contains r :=
                Table.contains_insert_other hr _ _
              show (c.isJoined r = true ∧ (c.invited.insert room ()).contains r = true) ↔ _
              rw [hinvited]
              rfl

/-- What a call leaves of an overlap. -/
theorem Change.overlap {history : List Happening} {room : RoomId} {c c' : Classifier}
    {fx : List Effect} (hchange : Change room c c' fx) {r : RoomId}
    (hjoined : c.isJoined r = true ↔ Stay.lastWord history r = some true)
    (h : (c.isJoined r = true ∧ c.isInvited r = true) ↔ Stay.InvitedInside history r) :
    (c'.isJoined r = true ∧ c'.isInvited r = true) ↔
      Stay.InvitedInside (history ++ heardOf fx) r := by
  by_cases hr : r = room
  · subst hr
    cases hchange with
    | stay hfx hin hj hi =>
        have hj : c'.isJoined r = c.isJoined r := congrArg (·.contains r) hj
        have hi : c'.isInvited r = c.isInvited r := congrArg (·.contains r) hi
        rw [hj, hi, Stay.invitedInside_append_quiet (quiet_ofTimeline hfx), h]
    | leave e hj hi =>
        have hj : c'.isJoined r = false :=
          (congrArg (·.contains r) hj).trans (Table.contains_erase_self _ _)
        rw [hj]
        refine iff_of_false (fun hboth => Bool.false_ne_true hboth.1)
          (Stay.not_invitedInside_of_word ?_)
        rw [Stay.word_left, if_pos rfl]
        exact Option.some_ne_none false
    | invite e hj hi =>
        have hj : c'.isJoined r = c.isJoined r := congrArg (·.contains r) hj
        have hi : c'.isInvited r = true :=
          (congrArg (·.contains r) hi).trans (Table.contains_insert_self _ _ _)
        show _ ↔ Stay.InvitedInside (history ++ [.signal (.room r (.invited e))]) r
        rw [hj, hi, Stay.invitedInside_invite, ← hjoined]
        exact and_iff_left rfl
    | @join fx hout hfx hj hi =>
        have hi : c'.isInvited r = false :=
          (congrArg (·.contains r) hi).trans (Table.contains_erase_self _ _)
        show _ ↔ Stay.InvitedInside
          (history ++ ([.signal (.room r .joined)] ++ heardOf fx)) r
        rw [hi, ← List.append_assoc, Stay.invitedInside_append_quiet (quiet_ofTimeline hfx)]
        refine iff_of_false (fun hboth => Bool.false_ne_true hboth.2)
          (Stay.not_invitedInside_of_word ?_)
        rw [Stay.word_joined, if_pos rfl]
        exact Option.some_ne_none true
  · obtain ⟨hj, hi⟩ := hchange.others hr
    rw [hj, hi, Stay.invitedInside_append_quiet (hchange.quiet_others hr), h]

/-- **A run**: a room is joined and invited at once if an invite was heard during
a stay that lasts. -/
theorem Calls.overlap {user : UserId} {history : List Happening} {c : Classifier}
    (h : Calls user history c) (r : RoomId) :
    (c.isJoined r = true ∧ c.isInvited r = true) ↔ Stay.InvitedInside history r := by
  induction h with
  | fresh =>
      exact iff_of_false (fun hboth => Bool.false_ne_true hboth.1)
        (Stay.not_invitedInside_nil r)
  | restored _ room m ih => exact overlap_restored ih room m
  | called hbefore s x hin ih => exact (Step.change s hin).overlap (hbefore.joined_iff r) ih

/-- **When a room is joined and invited at once.**  However memberships are taken
over and calls are made, a room is both exactly if an invite was announced while
the last word was that the user is in, and there was no word since.  So if the
last thing heard of a membership is an invite, the room is joined exactly if it was
at the invite.  While no room is both, that stays so with every membership taken
over, and with every call but one: an invite of a batch, with a member event that
invites the user, to a room that is joined. -/
theorem overlap_iff_invited_inside {user : UserId} {history : List Happening} {c : Classifier}
    (h : Calls user history c) (r : RoomId) :
    ((c.isJoined r = true ∧ c.isInvited r = true) ↔ Stay.InvitedInside history r)
      ∧ (∀ done e rest, history = done ++ .signal (.room r (.invited e)) :: rest →
          (∀ x ∈ rest, Stay.word r x = none) →
          (c.isJoined r = true ↔ Stay.lastWord done r = some true))
      ∧ (c.Exclusive → ∀ room m, (c.restore room m).Exclusive)
      ∧ (c.Exclusive → ∀ (s : Services) (x : Step),
          (∀ room events, x = .timeline room events → c.isJoined room = true) →
          ((x.run s c).state.Exclusive ↔ ¬ x.InvitesInside c)) := by
  refine ⟨h.overlap r, fun done e rest hsplit hnone => ?_,
    fun hexclusive => exclusive_restore hexclusive,
    fun hexclusive s x hin => exclusive_run_iff s hin hexclusive⟩
  rw [h.joined_iff r, hsplit, Stay.lastWord_after_invite e hnone]

/-! ## §4. An invite after a kick. -/

namespace Kick

def guest : UserId := ⟨"@kicked:x", by decide +kernel⟩

def room : RoomId := ⟨"!door:x", by decide +kernel⟩

/-- A member event of the guest. -/
def member (m : Membership) : RoomEvent :=
  { type := "m.room.member"
    stateKey := some guest.text
    content := .record [("membership", .string m.name)] }

/-- The guest is in the room. -/
def inside : Classifier := ((Step.join room).run {} { user := guest }).state

/-- The guest was kicked, and the kick was reported. -/
def outside : Classifier := ((Step.leave room [member .leave]).run {} inside).state

theorem calls_inside : Calls guest [.signal (.room room .joined)] inside :=
  Calls.fresh.called {} (.join room) fun _ _ h => (nomatch h)

theorem calls_outside :
    Calls guest [.signal (.room room .joined), .signal (.room room (.left (member .leave)))]
      outside :=
  calls_inside.called {} (.leave room [member .leave]) fun _ _ h => (nomatch h)

/-- The invite that follows. -/
def invitation : Step := .invite room [member .invite]

end Kick

open Kick in
/-- After a kick that is reported, an invite leaves the user outside. -/
theorem invite_after_departure :
    let after := (invitation.run {} outside).state
    let history := [.signal (.room room .joined), .signal (.room room (.left (member .leave)))]
      ++ .signal (.room room (.invited (member .invite))) :: []
    Calls guest history after ∧ after.isJoined room = false ∧ after.isInvited room = true := by
  intro after history
  have hcalls : Calls guest history after :=
    calls_outside.called {} invitation fun _ _ h => (nomatch h)
  obtain ⟨-, hjoined, -⟩ := overlap_iff_invited_inside hcalls room
  refine ⟨hcalls, ?_, by decide +kernel⟩
  rw [Bool.eq_false_iff]
  intro hin
  have hlast := (hjoined _ (member .invite) [] rfl fun _ hx => (nomatch hx)).1 hin
  exact absurd hlast (by decide +kernel)

open Kick in
/-- **An invite without the departure before it.**  The kick is not reported, so the
invite is the last thing heard of the room; the room stays joined, and is invited. -/
theorem invite_without_departure :
    let after := (invitation.run {} inside).state
    Calls guest ([.signal (.room room .joined)]
        ++ [.signal (.room room (.invited (member .invite)))]) after
      ∧ after.isJoined room = true ∧ after.isInvited room = true ∧ ¬ after.Exclusive := by
  intro after
  have hjoined : after.isJoined room = true := by decide +kernel
  have hinvited : after.isInvited room = true := by decide +kernel
  refine ⟨calls_inside.called {} invitation fun _ _ h => (nomatch h), hjoined, hinvited, ?_⟩
  intro hexclusive
  rw [hexclusive room hjoined] at hinvited
  cases hinvited

end Classifier

end RoomSync
