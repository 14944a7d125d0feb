/-
  RoomSync.Proofs.Classifier.Standing
  ──────────────────────────────────
  **MEMBERSHIPS, AS WINDOWS ANNOUNCE THEM.**

  A room is out, invited or joined (`Standing`).  What a consumer hears of a room
  moves it: an invite from out only, a join from out or invited, a departure
  from invited or joined.  A payload can hold member events of any age, and a
  room can come through several lists, but whatever comes, the classifier
  announces a membership only where it moves the room:

      Change.standing_read        — one call that respects what is known
      Windows                     — runs of payloads and restored memberships
      memberships_follow_machine  — the machine accepts the history of every run

  The step needs that no room is joined and invited at once (`Exclusive`).  A
  payload keeps to that, since it announces no invite to a known room.
-/
import RoomSync.Proofs.Classifier.Histories

namespace RoomSync

/-! ## §1. The machine. -/

/-- The relation of the user to a room. -/
inductive Standing where
  | out
  | invited
  | joined
  deriving DecidableEq

/-- Whether news announce a membership. -/
def RoomNews.isMembership : RoomNews → Bool
  | .left _ | .invited _ | .joined => true
  | _ => false

theorem RoomNews.isMembership_fromTimeline {news : RoomNews} (h : news.fromTimeline = true) :
    news.isMembership = false := by
  cases news with
  | accountData | left | invited | joined => cases h
  | _ => rfl

namespace Standing

/-- After a membership is taken over from storage. -/
def restore : Standing → Membership → Standing
  | _, .join => joined
  | out, .invite => invited
  | p, _ => p

/-- After news of the room, where they are allowed. -/
def hear : Standing → RoomNews → Option Standing
  | out, .invited _ => some invited
  | out, .joined | invited, .joined => some joined
  | invited, .left _ | joined, .left _ => some out
  | _, .invited _ | _, .joined | _, .left _ => none
  | p, _ => some p

/-- Reading on for room `r`. -/
def step (r : RoomId) (p : Standing) : Happening → Option Standing
  | .restored room m => some (if room = r then p.restore m else p)
  | .signal (.room room news) => if room = r then p.hear news else some p
  | .signal (.accountData _) => some p

theorem step_restored (r room : RoomId) (p : Standing) (m : Membership) :
    step r p (.restored room m) = some (if room = r then p.restore m else p) := rfl

theorem step_other {r room : RoomId} (h : room ≠ r) (p : Standing) (news : RoomNews) :
    step r p (.signal (.room room news)) = some p := if_neg h

theorem step_here (r : RoomId) (p : Standing) (news : RoomNews) :
    step r p (.signal (.room r news)) = p.hear news := if_pos rfl

theorem hear_of_not_membership {news : RoomNews} (h : news.isMembership = false) (p : Standing) :
    p.hear news = some p := by
  cases news with
  | left | invited | joined => cases h
  | _ => cases p <;> rfl

/-- What says nothing about the membership leaves the standing. -/
theorem step_still {r : RoomId} {p : Standing} {x : Signal}
    (h : ∀ news, x = .room r news → news.isMembership = false) :
    step r p (.signal x) = some p := by
  match x with
  | .accountData _ => rfl
  | .room room news =>
      by_cases hr : room = r
      · subst hr
        rw [step_here]
        exact hear_of_not_membership (h news rfl) p
      · exact step_other hr p news

theorem restore_join (p : Standing) : p.restore .join = joined := by cases p <;> rfl

theorem restore_invite {p : Standing} (h : p ≠ joined) : p.restore .invite = invited := by
  cases p with
  | joined => exact absurd rfl h
  | out | invited => rfl

theorem hear_joined {p q : Standing} : p.hear .joined = some q ↔ p ≠ joined ∧ q = joined := by
  cases p <;> simp [hear, eq_comm]

theorem hear_invited {p q : Standing} {e : RoomEvent} :
    p.hear (.invited e) = some q ↔ p = out ∧ q = invited := by
  cases p <;> simp [hear, eq_comm]

theorem hear_left {p q : Standing} {e : RoomEvent} :
    p.hear (.left e) = some q ↔ p ≠ out ∧ q = out := by
  cases p <;> simp [hear, eq_comm]

/-- Only joins and invites are taken over. -/
theorem restore_other {m : Membership} (hjoin : m ≠ .join) (hinvite : m ≠ .invite)
    (p : Standing) : p.restore m = p := by
  cases m with
  | join => exact absurd rfl hjoin
  | invite => exact absurd rfl hinvite
  | _ => cases p <;> rfl

/-- How far in the user is. -/
def rank : Standing → Nat
  | out => 0
  | invited => 1
  | joined => 2

theorem rank_pos {p : Standing} (h : p ≠ out) : 0 < p.rank := by
  cases p with
  | out => exact absurd rfl h
  | invited | joined => decide

theorem rank_lt_joined {p : Standing} (h : p ≠ joined) : p.rank < joined.rank := by
  cases p with
  | joined => exact absurd rfl h
  | out | invited => decide

theorem rank_restore (p : Standing) (m : Membership) : p.rank ≤ (p.restore m).rank := by
  cases p <;> cases m <;> decide

/-- Only a departure leads back. -/
theorem left_of_hear {p q : Standing} {news : RoomNews} (hback : q.rank < p.rank)
    (h : p.hear news = some q) : ∃ e, news = .left e := by
  cases hm : news.isMembership with
  | false =>
      rw [hear_of_not_membership hm] at h
      obtain rfl := Option.some.inj h
      exact absurd hback (Nat.lt_irrefl _)
  | true =>
      cases news with
      | left e => exact ⟨e, rfl⟩
      | invited e =>
          obtain ⟨rfl, rfl⟩ := hear_invited.1 h
          exact absurd hback (by decide)
      | joined =>
          obtain ⟨hp, rfl⟩ := hear_joined.1 h
          exact absurd hback (Nat.lt_asymm (rank_lt_joined hp))
      | _ => cases hm

/-- Where the machine moved, something was said about its room. -/
theorem moved_of_step {r : RoomId} {p q : Standing} {x : Happening} (hmoved : p ≠ q)
    (h : step r p x = some q) :
    (∃ m, x = .restored r m ∧ p.restore m = q)
      ∨ ∃ news, x = .signal (.room r news) ∧ p.hear news = some q := by
  match x with
  | .restored room m =>
      by_cases hr : room = r
      · subst hr
        rw [step_restored, if_pos rfl] at h
        exact .inl ⟨m, rfl, Option.some.inj h⟩
      · rw [step_restored, if_neg hr] at h
        exact absurd (Option.some.inj h) hmoved
  | .signal (.accountData _) => exact absurd (Option.some.inj h) hmoved
  | .signal (.room room news) =>
      by_cases hr : room = r
      · subst hr
        rw [step_here] at h
        exact .inr ⟨news, rfl, h⟩
      · rw [step_other hr] at h
        exact absurd (Option.some.inj h) hmoved

theorem left_of_step {r : RoomId} {p q : Standing} {x : Happening} (hback : q.rank < p.rank)
    (h : step r p x = some q) : ∃ e, x = .signal (.room r (.left e)) := by
  have hmoved : p ≠ q := by
    rintro rfl
    exact Nat.lt_irrefl _ hback
  rcases moved_of_step hmoved h with ⟨m, -, rfl⟩ | ⟨news, rfl, hnews⟩
  · exact absurd hback (Nat.not_lt.2 (rank_restore p m))
  · obtain ⟨e, rfl⟩ := left_of_hear hback hnews
    exact ⟨e, rfl⟩

/-- What leads in: an invite, a join, or one of them taken over from storage. -/
inductive Arrival (r : RoomId) : Happening → Prop
  | restoredJoin : Arrival r (.restored r .join)
  | restoredInvite : Arrival r (.restored r .invite)
  | invited (e : RoomEvent) : Arrival r (.signal (.room r (.invited e)))
  | joined : Arrival r (.signal (.room r .joined))

theorem arrival_of_step {r : RoomId} {p q : Standing} {x : Happening} (hon : p.rank < q.rank)
    (h : step r p x = some q) : Arrival r x := by
  have hmoved : p ≠ q := by
    rintro rfl
    exact Nat.lt_irrefl _ hon
  rcases moved_of_step hmoved h with ⟨m, rfl, hm⟩ | ⟨news, rfl, hnews⟩
  · cases m with
    | join => exact .restoredJoin
    | invite => exact .restoredInvite
    | leave | ban | knock | unknown =>
        rw [restore_other (by decide) (by decide)] at hm
        exact absurd hm hmoved
  · cases news with
    | joined => exact .joined
    | invited e => exact .invited e
    | left e =>
        obtain ⟨-, rfl⟩ := hear_left.1 hnews
        exact absurd hon (Nat.not_lt_zero _)
    | _ =>
        rw [hear_of_not_membership rfl] at hnews
        exact absurd (Option.some.inj hnews) hmoved

end Standing

namespace Classifier

/-! ## §2. The standing of a room. -/

/-- The standing that a classifier takes a room to be in. -/
def standing (c : Classifier) (r : RoomId) : Standing :=
  if c.isJoined r then .joined else if c.isInvited r then .invited else .out

theorem standing_joined {c : Classifier} {r : RoomId} (h : c.isJoined r = true) :
    c.standing r = .joined := if_pos h

theorem standing_invited {c : Classifier} {r : RoomId} (hout : c.isJoined r = false)
    (h : c.isInvited r = true) : c.standing r = .invited := by
  unfold standing
  rw [hout, h]
  rfl

theorem standing_out {c : Classifier} {r : RoomId} (hout : c.isJoined r = false)
    (h : c.isInvited r = false) : c.standing r = .out := by
  unfold standing
  rw [hout, h]
  rfl

theorem standing_ne_joined {c : Classifier} {r : RoomId} (h : c.isJoined r = false) :
    c.standing r ≠ .joined := by
  cases hi : c.isInvited r with
  | true =>
      rw [standing_invited h hi]
      exact Standing.noConfusion
  | false =>
      rw [standing_out h hi]
      exact Standing.noConfusion

theorem standing_congr {c c' : Classifier} {r : RoomId} (hjoined : c'.isJoined r = c.isJoined r)
    (hinvited : c'.isInvited r = c.isInvited r) : c'.standing r = c.standing r := by
  unfold standing
  rw [hjoined, hinvited]

/-- No room is joined and invited at once. -/
def Exclusive (c : Classifier) : Prop :=
  ∀ r, c.isJoined r = true → c.isInvited r = false

/-! ## §3. One call. -/

section Calls

variable {room : RoomId} {c c' : Classifier} {fx : List Effect}

/-- A timeline moves no room. -/
theorem standing_read_ofTimeline (hfx : ∀ x ∈ fx, x.OfTimeline room) (p : Standing) :
    (heardOf fx).foldlM (Standing.step room) p = some p := by
  refine foldlM_still fun x hx => ?_
  obtain ⟨news, rfl, hnews⟩ := heardOf_ofTimeline hfx x hx
  rw [Standing.step_here]
  exact Standing.hear_of_not_membership (RoomNews.isMembership_fromTimeline hnews) p

/-- **The room of a call** moves as the machine does, and stays exclusive. -/
theorem Change.standing_here (h : Change room c c' fx) (hguarded : Guarded room c fx)
    (hexclusive : c.isJoined room = true → c.isInvited room = false) :
    (heardOf fx).foldlM (Standing.step room) (c.standing room) = some (c'.standing room)
      ∧ (c'.isJoined room = true → c'.isInvited room = false) := by
  cases h with
  | stay hfx hin hjoined hinvited =>
      have hj : c'.isJoined room = c.isJoined room := congrArg (·.contains room) hjoined
      have hi : c'.isInvited room = c.isInvited room := congrArg (·.contains room) hinvited
      rw [standing_congr hj hi, hj, hi]
      exact ⟨standing_read_ofTimeline hfx _, hexclusive⟩
  | leave e hjoined hinvited =>
      have hj : c'.isJoined room = false :=
        (congrArg (·.contains room) hjoined).trans (Table.contains_erase_self _ _)
      have hi : c'.isInvited room = false :=
        (congrArg (·.contains room) hinvited).trans (Table.contains_erase_self _ _)
      refine ⟨?_, fun _ => hi⟩
      show (Standing.step room (c.standing room) (.signal (.room room (.left e)))).bind some = _
      rw [Option.bind_fun_some, Standing.step_here, standing_out hj hi]
      -- the room was known, so a departure is allowed
      rcases hguarded.left e List.mem_cons_self with hknown | hknown
      · rw [standing_joined hknown]
        rfl
      · have hout : c.isJoined room = false :=
          Bool.eq_false_iff.2 fun hin => absurd hknown (Bool.eq_false_iff.1 (hexclusive hin))
        rw [standing_invited hout hknown]
        rfl
  | invite e hjoined hinvited =>
      obtain ⟨hout, huninvited⟩ := hguarded.invited e List.mem_cons_self
      have hj : c'.isJoined room = false := (congrArg (·.contains room) hjoined).trans hout
      have hi : c'.isInvited room = true :=
        (congrArg (·.contains room) hinvited).trans (Table.contains_insert_self _ _ _)
      refine ⟨?_, fun h => absurd h (Bool.eq_false_iff.1 hj)⟩
      show (Standing.step room (c.standing room) (.signal (.room room (.invited e)))).bind some = _
      rw [Option.bind_fun_some, Standing.step_here, standing_out hout huninvited,
        standing_invited hj hi]
      rfl
  | @join fx hout hfx hjoined hinvited =>
      have hj : c'.isJoined room = true :=
        (congrArg (·.contains room) hjoined).trans (Table.contains_insert_self _ _ _)
      have hi : c'.isInvited room = false :=
        (congrArg (·.contains room) hinvited).trans (Table.contains_erase_self _ _)
      refine ⟨?_, fun _ => hi⟩
      show (Standing.step room (c.standing room) (.signal (.room room .joined))).bind
        (fun p => (heardOf fx).foldlM (Standing.step room) p) = _
      rw [Standing.step_here, Standing.hear_joined.2 ⟨standing_ne_joined hout, rfl⟩,
        standing_joined hj]
      exact standing_read_ofTimeline hfx .joined

/-- **One call**: every room moves as the machine does. -/
theorem Change.standing_read (h : Change room c c' fx) (hguarded : Guarded room c fx)
    (hexclusive : c.Exclusive) (r : RoomId) :
    (heardOf fx).foldlM (Standing.step r) (c.standing r) = some (c'.standing r) := by
  by_cases hr : r = room
  · subst hr
    exact (h.standing_here hguarded (hexclusive r)).1
  · obtain ⟨hjoined, hinvited⟩ := h.others hr
    rw [standing_congr hjoined hinvited]
    refine foldlM_still fun x hx => ?_
    obtain ⟨news, rfl⟩ := h.heard x hx
    exact Standing.step_other (Ne.symm hr) _ news

theorem Change.exclusive (h : Change room c c' fx) (hguarded : Guarded room c fx)
    (hexclusive : c.Exclusive) : c'.Exclusive := by
  intro r
  by_cases hr : r = room
  · subst hr
    exact (h.standing_here hguarded (hexclusive r)).2
  · obtain ⟨hjoined, hinvited⟩ := h.others hr
    rw [hjoined, hinvited]
    exact hexclusive r

end Calls

theorem restore_invite_known {room : RoomId} {c : Classifier} (hin : c.isJoined room = true) :
    c.restore room .invite = c := if_pos hin

theorem restore_invite_new {room : RoomId} {c : Classifier} (hout : c.isJoined room = false) :
    c.restore room .invite = { c with invited := c.invited.insert room () } :=
  if_neg (Bool.eq_false_iff.1 hout)

/-- A membership that is taken over moves its room. -/
theorem standing_restore (room : RoomId) (m : Membership) (c : Classifier) (r : RoomId) :
    (c.restore room m).standing r =
      if room = r then (c.standing r).restore m else c.standing r := by
  cases m with
  | join =>
      by_cases hr : room = r
      · subst hr
        rw [if_pos rfl, Standing.restore_join]
        exact standing_joined (isJoined_entered room c)
      · rw [if_neg hr]
        exact standing_congr (Table.contains_insert_other (Ne.symm hr) _ _)
          (Table.contains_erase_other (Ne.symm hr) _)
  | invite =>
      cases hin : c.isJoined room with
      | true =>
          rw [restore_invite_known hin]
          by_cases hr : room = r
          · subst hr
            rw [if_pos rfl, standing_joined hin]
            rfl
          · rw [if_neg hr]
      | false =>
          rw [restore_invite_new hin]
          by_cases hr : room = r
          · subst hr
            rw [if_pos rfl, Standing.restore_invite (standing_ne_joined hin)]
            exact standing_invited hin (Table.contains_insert_self _ _ _)
          · rw [if_neg hr]
            exact standing_congr rfl (Table.contains_insert_other (Ne.symm hr) _ _)
  | leave | ban | knock | unknown =>
      rw [Standing.restore_other (by decide) (by decide), ite_self]
      rfl

theorem exclusive_restore {c : Classifier} (hexclusive : c.Exclusive) (room : RoomId)
    (m : Membership) : (c.restore room m).Exclusive := by
  intro r hjoined
  cases m with
  | join =>
      show (c.invited.erase room).contains r = false
      by_cases hr : r = room
      · rw [hr, Table.contains_erase_self]
      · have hbefore : c.isJoined r = true :=
          (Table.contains_insert_other hr c.joined ()).symm.trans hjoined
        rw [Table.contains_erase_other hr]
        exact hexclusive r hbefore
  | invite =>
      cases hin : c.isJoined room with
      | true =>
          rw [restore_invite_known hin] at hjoined ⊢
          exact hexclusive r hjoined
      | false =>
          rw [restore_invite_new hin] at hjoined ⊢
          -- the invited room is not a joined one
          have hr : r ≠ room := by
            rintro rfl
            exact Bool.eq_false_iff.1 hin hjoined
          exact (Table.contains_insert_other hr _ _).trans (hexclusive r hjoined)
  | leave | ban | knock | unknown => exact hexclusive r hjoined

/-! ## §4. Runs. -/

/-- The runs of a classifier that follows windows, with all that could be known
of it: memberships are taken over from storage and payloads are taken in, in any
order and with whatever services. -/
inductive Windows (user : UserId) : List Happening → Classifier → Prop
  | fresh : Windows user [] { user }
  | restored {history : List Happening} {c : Classifier} (h : Windows user history c)
      (room : RoomId) (m : Membership) :
      Windows user (history ++ [.restored room m]) (c.restore room m)
  | windowed {history : List Happening} {c : Classifier} (h : Windows user history c)
      (s : Services) (room : RoomId) (list : Window.Behaviour) (p : Window.Payload) :
      Windows user (history ++ heardOf (windowed s room list p c).effects)
        (windowed s room list p c).state

/-- What a run keeps: the machine is where the memberships are. -/
structure InStanding (history : List Happening) (c : Classifier) : Prop where
  read : ∀ r, history.foldlM (Standing.step r) .out = some (c.standing r)
  exclusive : c.Exclusive

theorem Windows.inStanding {user : UserId} {history : List Happening} {c : Classifier}
    (h : Windows user history c) : InStanding history c := by
  induction h with
  | fresh => exact ⟨fun r => rfl, fun r h => by cases h⟩
  | @restored history c _ room m ih =>
      refine ⟨fun r => foldlM_trans (ih.read r) ?_, exclusive_restore ih.exclusive room m⟩
      rw [standing_restore]
      rfl
  | @windowed history c _ s room list p ih =>
      obtain ⟨hchange, hguarded⟩ := windowed_change s room list p c
      exact ⟨fun r => foldlM_trans (ih.read r) (hchange.standing_read hguarded ih.exclusive r),
        hchange.exclusive hguarded ih.exclusive⟩

/-- A payload that announces no membership of a room leaves its standing. -/
theorem InStanding.quiet {history : List Happening} {c : Classifier} (h : InStanding history c)
    (s : Services) (room : RoomId) (list : Window.Behaviour) (p : Window.Payload) {r : RoomId}
    (hquiet : ∀ news, .signal (.room r news) ∈ (Classifier.windowed s room list p c).effects →
      news.isMembership = false) :
    (Classifier.windowed s room list p c).state.standing r = c.standing r := by
  obtain ⟨hchange, hguarded⟩ := windowed_change s room list p c
  have hread := hchange.standing_read hguarded h.exclusive r
  rw [foldlM_still fun x hx => ?_] at hread
  · exact (Option.some.inj hread).symm
  · obtain ⟨signal, hsignal, rfl⟩ := List.mem_map.1 hx
    exact Standing.step_still fun news hnews => hquiet news (by
      rw [← hnews]
      exact Effect.mem_signals.1 hsignal)

/-- Between two places where the machine has come back, the user left. -/
theorem left_between {r : RoomId} {mid : List Happening} {p q : Standing}
    (h : mid.foldlM (Standing.step r) p = some q) (hback : q.rank < p.rank) :
    ∃ e, .signal (.room r (.left e)) ∈ mid := by
  obtain ⟨x, hx, before, after, hbefore, hafter, hstep⟩ :=
    foldlM_enters (P := fun s : Standing => s.rank < p.rank) h (Nat.lt_irrefl _) hback
  have hback : after.rank < before.rank := Nat.lt_of_lt_of_le hafter (Nat.not_lt.1 hbefore)
  obtain ⟨e, rfl⟩ := Standing.left_of_step hback hstep
  exact ⟨e, hx⟩

/-- Between two places where the machine has come on, the user arrived. -/
theorem arrival_between {r : RoomId} {mid : List Happening} {p q : Standing}
    (h : mid.foldlM (Standing.step r) p = some q) (hon : p.rank < q.rank) :
    ∃ x ∈ mid, Standing.Arrival r x := by
  obtain ⟨x, hx, before, after, hbefore, hafter, hstep⟩ :=
    foldlM_enters (P := fun s : Standing => p.rank < s.rank) h (Nat.lt_irrefl _) hon
  have hon : before.rank < after.rank := Nat.lt_of_le_of_lt (Nat.not_lt.1 hbefore) hafter
  exact ⟨x, hx, Standing.arrival_of_step hon hstep⟩

/-- **Memberships follow the machine.**  Whatever memberships are taken over and
whatever payloads come, the machine accepts what is heard of every room and ends
where the classifier takes the room to be, which is not joined and invited at
once.  A payload that announces no membership of the room leaves its standing, and
so does a membership of another room.  No invite, join or departure is announced
again for the same transition: between two invites or two joins the user left,
and between two departures the user arrived. -/
theorem memberships_follow_machine {user : UserId} {history : List Happening} {c : Classifier}
    (h : Windows user history c) (r : RoomId) :
    history.foldlM (Standing.step r) .out = some (c.standing r)
      ∧ ¬(c.isJoined r = true ∧ c.isInvited r = true)
      ∧ (∀ room m, (c.restore room m).standing r =
          if room = r then (c.standing r).restore m else c.standing r)
      ∧ (∀ (s : Services) (room : RoomId) (list : Window.Behaviour) (p : Window.Payload),
          (∀ news, .signal (.room r news) ∈ (windowed s room list p c).effects →
            news.isMembership = false) →
          (windowed s room list p c).state.standing r = c.standing r)
      ∧ (∀ done mid rest e e',
          history = done ++ .signal (.room r (.invited e))
            :: (mid ++ .signal (.room r (.invited e')) :: rest) →
          ∃ e, .signal (.room r (.left e)) ∈ mid)
      ∧ (∀ done mid rest,
          history = done ++ .signal (.room r .joined)
            :: (mid ++ .signal (.room r .joined) :: rest) →
          ∃ e, .signal (.room r (.left e)) ∈ mid)
      ∧ ∀ done mid rest e e',
          history = done ++ .signal (.room r (.left e))
            :: (mid ++ .signal (.room r (.left e')) :: rest) →
          ∃ x ∈ mid, Standing.Arrival r x := by
  have hstanding := h.inStanding
  have hread := hstanding.read r
  refine ⟨hread, fun hboth => ?_, fun room m => standing_restore room m c r,
    fun s room list p => hstanding.quiet s room list p, ?_, ?_, ?_⟩
  · rw [hstanding.exclusive r hboth.1] at hboth
    exact Bool.false_ne_true hboth.2
  · intro done mid rest e e' hsplit
    rw [hsplit] at hread
    obtain ⟨p, q, p', q', hfirst, hmid, hsecond⟩ := foldlM_between hread
    rw [Standing.step_here] at hfirst hsecond
    obtain ⟨-, rfl⟩ := Standing.hear_invited.1 hfirst
    obtain ⟨rfl, -⟩ := Standing.hear_invited.1 hsecond
    exact left_between hmid (by decide)
  · intro done mid rest hsplit
    rw [hsplit] at hread
    obtain ⟨p, q, p', q', hfirst, hmid, hsecond⟩ := foldlM_between hread
    rw [Standing.step_here] at hfirst hsecond
    obtain ⟨-, rfl⟩ := Standing.hear_joined.1 hfirst
    obtain ⟨hout, -⟩ := Standing.hear_joined.1 hsecond
    exact left_between hmid (Standing.rank_lt_joined hout)
  · intro done mid rest e e' hsplit
    rw [hsplit] at hread
    obtain ⟨p, q, p', q', hfirst, hmid, hsecond⟩ := foldlM_between hread
    rw [Standing.step_here] at hfirst hsecond
    obtain ⟨-, rfl⟩ := Standing.hear_left.1 hfirst
    obtain ⟨hin, -⟩ := Standing.hear_left.1 hsecond
    exact arrival_between hmid (Standing.rank_pos hin)

/-! ## §5. An invite that comes again. -/

namespace SecondInvite

def guest : UserId := ⟨"@invited:x", by decide +kernel⟩

def room : RoomId := ⟨"!invited:x", by decide +kernel⟩

/-- A member event of the guest. -/
def member (m : Membership) : RoomEvent :=
  { type := "m.room.member"
    stateKey := some guest.text
    content := .record [("membership", .string m.name)] }

def invitation : Window.Payload := { inviteState := [member .invite] }

def departure : Window.Payload := { timeline := [member .leave] }

/-- The invite comes through two lists, the user declines, and the invite comes
again. -/
def calls : List Word :=
  [(.invited, room, invitation), (.direct, room, invitation), (.joined, room, departure),
    (.invited, room, invitation)]

/-- The classifier after so many of the calls. -/
def after (n : Nat) : Classifier := (windowedAll {} (calls.take n) { user := guest }).state

/-- What is heard of them. -/
def history : List Happening :=
  [] ++ heardOf (windowed {} room .invited invitation (after 0)).effects
    ++ heardOf (windowed {} room .direct invitation (after 1)).effects
    ++ heardOf (windowed {} room .joined departure (after 2)).effects
    ++ heardOf (windowed {} room .invited invitation (after 3)).effects

theorem run : Windows guest history (after 4) :=
  (((Windows.fresh.windowed {} room .invited invitation).windowed
    {} room .direct invitation).windowed {} room .joined departure).windowed
      {} room .invited invitation

end SecondInvite

open SecondInvite in
/-- It is announced twice only, and the second time after the departure. -/
theorem second_invite_after_departure :
    Windows guest history (after 4)
      ∧ history = [] ++ .signal (.room room (.invited (member .invite)))
          :: ([.signal (.room room (.left (member .leave)))]
            ++ .signal (.room room (.invited (member .invite))) :: [])
      ∧ history.foldlM (Standing.step room) .out = some .invited
      ∧ ∃ e, Happening.signal (.room room (.left e)) ∈
          [Happening.signal (.room room (.left (member .leave)))] := by
  obtain ⟨hread, -, -, -, hinvites, -, -⟩ := memberships_follow_machine run room
  have hhistory : history = [] ++ .signal (.room room (.invited (member .invite)))
      :: ([.signal (.room room (.left (member .leave)))]
        ++ .signal (.room room (.invited (member .invite))) :: []) := by
    decide +kernel
  have hstanding : (after 4).standing room = .invited := by
    decide +kernel
  rw [hstanding] at hread
  exact ⟨run, hhistory, hread, hinvites _ _ _ _ _ hhistory⟩

end Classifier

end RoomSync
