/-
  RoomSync.Proofs.Classifier.Histories
  ────────────────────────────────────
  **WHAT ONE CALL DOES TO MEMBERSHIPS, AND WHAT A CONSUMER HEARS OF IT.**

  Whatever a call of the classifier is about, it does one of four things to the
  memberships of its room (`Change`), and each of them can be heard:

      change_join, change_leave, change_invite, change_timeline
                        — the calls that take in a batch
      windowed_change   — a payload, which besides announces a departure of a
                          known room only, and an invite of an unknown one

  What a consumer hears is a history of signals, and of memberships taken over
  from storage (`Happening`).  A law about histories is a machine that reads
  them and accepts or refuses; the lemmas of §4 are about any such machine.
-/
import RoomSync.Proofs.Classifier.Effects
import RoomSync.Proofs.Classifier.Membership

namespace RoomSync

namespace Classifier

/-! ## §1. One call. -/

/-- What one call for a room can do to the memberships of `c`, with what it
leads to. -/
inductive Change (room : RoomId) (c c' : Classifier) : List Effect → Prop
  /-- Memberships stay; a timeline is taken in only of a room that is joined. -/
  | stay {fx : List Effect} (hfx : ∀ x ∈ fx, x.OfTimeline room)
      (hin : fx ≠ [] → c.isJoined room = true) (hjoined : c'.joined = c.joined)
      (hinvited : c'.invited = c.invited) : Change room c c' fx
  | leave (e : RoomEvent) (hjoined : c'.joined = c.joined.erase room)
      (hinvited : c'.invited = c.invited.erase room) :
      Change room c c' [.signal (.room room (.left e))]
  | invite (e : RoomEvent) (hjoined : c'.joined = c.joined)
      (hinvited : c'.invited = c.invited.insert room ()) :
      Change room c c' [.signal (.room room (.invited e))]
  /-- The room is joined, and then its timeline may be taken in. -/
  | join {fx : List Effect} (hout : c.isJoined room = false)
      (hfx : ∀ x ∈ fx, x.OfTimeline room) (hjoined : c'.joined = c.joined.insert room ())
      (hinvited : c'.invited = c.invited.erase room) :
      Change room c c' (.signal (.room room .joined) :: fx)

/-- Memberships of other rooms stay, whatever the call does. -/
theorem Change.others {room : RoomId} {c c' : Classifier} {fx : List Effect}
    (h : Change room c c' fx) {r : RoomId} (hr : r ≠ room) :
    c'.isJoined r = c.isJoined r ∧ c'.isInvited r = c.isInvited r := by
  unfold isJoined isInvited
  cases h with
  | stay hfx hin hjoined hinvited =>
      rw [hjoined, hinvited]
      exact ⟨rfl, rfl⟩
  | leave e hjoined hinvited =>
      rw [hjoined, hinvited]
      exact ⟨Table.contains_erase_other hr _, Table.contains_erase_other hr _⟩
  | invite e hjoined hinvited =>
      rw [hjoined, hinvited]
      exact ⟨rfl, Table.contains_insert_other hr _ _⟩
  | join hout hfx hjoined hinvited =>
      rw [hjoined, hinvited]
      exact ⟨Table.contains_insert_other hr _ _, Table.contains_erase_other hr _⟩

variable (s : Services)

/-- A call that does nothing. -/
theorem change_none (room : RoomId) (c : Classifier) : Change room c c [] :=
  .stay (fun x hx => by cases hx) (fun h => absurd rfl h) rfl rfl

theorem isJoined_entered (room : RoomId) (c : Classifier) :
    (c.entered room).isJoined room = true := Table.contains_insert_self c.joined room ()

theorem change_join (room : RoomId) (c : Classifier) :
    Change room c (join room c).state (join room c).effects := by
  cases hin : c.isJoined room with
  | true =>
      rw [join_known hin]
      exact change_none room c
  | false =>
      rw [join_new hin]
      exact .join hin (fun x hx => by cases hx) rfl rfl

theorem change_leave (room : RoomId) (events : List RoomEvent) (c : Classifier) :
    Change room c (leave s room events c).state (leave s room events c).effects := by
  rcases leave_cases s room events c with ⟨hstate, hfx⟩ | ⟨e, hstate, hfx⟩ <;> rw [hstate, hfx]
  · exact change_none room c
  · exact .leave e rfl rfl

theorem change_invite (room : RoomId) (stripped : List RoomEvent) (c : Classifier) :
    Change room c (invite s room stripped c).state (invite s room stripped c).effects := by
  rcases invite_cases s room stripped c with ⟨hstate, hfx⟩ | ⟨e, hstate, hfx⟩ <;>
    rw [hstate, hfx]
  · exact change_none room c
  · exact .invite e rfl rfl

theorem change_timeline (room : RoomId) (events : List RoomEvent) {c : Classifier}
    (hin : c.isJoined room = true) :
    Change room c (timeline s room events c).state (timeline s room events c).effects := by
  obtain ⟨-, hjoined, hinvited⟩ := timeline_keeps s room events c
  exact .stay (ofTimeline_timeline s room events c) (fun _ => hin) hjoined hinvited

/-! ## §2. One payload. -/

/-- Departures are announced of known rooms, invites of unknown ones. -/
structure Guarded (room : RoomId) (c : Classifier) (fx : List Effect) : Prop where
  left : ∀ e, .signal (.room room (.left e)) ∈ fx →
    c.isJoined room = true ∨ c.isInvited room = true
  invited : ∀ e, .signal (.room room (.invited e)) ∈ fx →
    c.isJoined room = false ∧ c.isInvited room = false

theorem guarded_ofTimeline {room : RoomId} {c : Classifier} {fx : List Effect}
    (hfx : ∀ x ∈ fx, x.OfTimeline room) : Guarded room c fx := by
  refine ⟨fun e he => ?_, fun e he => ?_⟩
  · cases (hfx _ he).2
  · cases (hfx _ he).2

theorem joinedTimeline_known {room : RoomId} {events : List RoomEvent} {c : Classifier}
    (hin : c.isJoined room = true) :
    joinedTimeline s room events c = timeline s room events c := by
  unfold joinedTimeline timelineIfJoined
  rw [join_known hin]
  dsimp only
  rw [if_pos hin]
  rfl

theorem joinedTimeline_new {room : RoomId} {events : List RoomEvent} {c : Classifier}
    (hout : c.isJoined room = false) :
    joinedTimeline s room events c =
      ⟨(timeline s room events (c.entered room)).state,
        .signal (.room room .joined) :: (timeline s room events (c.entered room)).effects,
        ()⟩ := by
  unfold joinedTimeline timelineIfJoined
  rw [join_new hout]
  dsimp only
  rw [if_pos (isJoined_entered room c)]
  rfl

/-- A room that is joined by now, with its timeline. -/
theorem change_joinedTimeline (room : RoomId) (events : List RoomEvent) (c : Classifier) :
    Change room c (joinedTimeline s room events c).state
        (joinedTimeline s room events c).effects
      ∧ Guarded room c (joinedTimeline s room events c).effects := by
  cases hin : c.isJoined room with
  | true =>
      rw [joinedTimeline_known s hin]
      exact ⟨change_timeline s room events hin,
        guarded_ofTimeline (ofTimeline_timeline s room events c)⟩
  | false =>
      have hfx := ofTimeline_timeline s room events (c.entered room)
      obtain ⟨-, hjoined, hinvited⟩ := timeline_keeps s room events (c.entered room)
      rw [joinedTimeline_new s hin]
      refine ⟨.join hin hfx hjoined hinvited, ⟨fun e he => ?_, fun e he => ?_⟩⟩
      · rcases List.mem_cons.1 he with heq | he
        · cases heq
        · cases (hfx _ he).2
      · rcases List.mem_cons.1 he with heq | he
        · cases heq
        · cases (hfx _ he).2

theorem change_timelineIfJoined (room : RoomId) (events : List RoomEvent) (c : Classifier) :
    Change room c (timelineIfJoined s room events c).state
        (timelineIfJoined s room events c).effects
      ∧ Guarded room c (timelineIfJoined s room events c).effects := by
  unfold timelineIfJoined
  split
  next hin =>
    exact ⟨change_timeline s room events hin,
      guarded_ofTimeline (ofTimeline_timeline s room events c)⟩
  next => exact ⟨change_none room c, guarded_ofTimeline fun x hx => by cases hx⟩

theorem change_departure (room : RoomId) (e : RoomEvent) (c : Classifier) :
    let o := if c.isJoined room || c.isInvited room then announceLeave s room e c
      else ⟨c, [], ()⟩
    Change room c o.state o.effects ∧ Guarded room c o.effects := by
  dsimp only
  split
  next hknown =>
    refine ⟨.leave (s.preprocess room e) rfl rfl,
      ⟨fun _ _ => Bool.or_eq_true_iff.1 hknown, fun e' he' => ?_⟩⟩
    cases List.mem_singleton.1 he'
  next => exact ⟨change_none room c, guarded_ofTimeline fun x hx => by cases hx⟩

theorem change_invitation (room : RoomId) (e : RoomEvent) (stripped : List RoomEvent)
    (c : Classifier) :
    let o := if c.isInvited room || c.isJoined room then ⟨c, [], ()⟩
      else announceInvite s room e (c.applyState room stripped)
    Change room c o.state o.effects ∧ Guarded room c o.effects := by
  dsimp only
  split
  next => exact ⟨change_none room c, guarded_ofTimeline fun x hx => by cases hx⟩
  next hunknown =>
    rw [Bool.or_eq_true, not_or, Bool.not_eq_true, Bool.not_eq_true] at hunknown
    refine ⟨.invite (s.preprocess room e) rfl rfl,
      ⟨fun e' he' => ?_, fun _ _ => ⟨hunknown.2, hunknown.1⟩⟩⟩
    cases List.mem_singleton.1 he'

/-- Memberships before state is applied are those after it. -/
theorem change_of_applied {room : RoomId} {state : List RoomEvent} {c c' : Classifier}
    {fx : List Effect}
    (h : Change room (c.applyState room state) c' fx
      ∧ Guarded room (c.applyState room state) fx) :
    Change room c c' fx ∧ Guarded room c fx := by
  obtain ⟨hchange, hguarded⟩ := h
  refine ⟨?_, ⟨hguarded.left, hguarded.invited⟩⟩
  cases hchange with
  | stay hfx hin hjoined hinvited => exact .stay hfx hin hjoined hinvited
  | leave e hjoined hinvited => exact .leave e hjoined hinvited
  | invite e hjoined hinvited => exact .invite e hjoined hinvited
  | join hout hfx hjoined hinvited => exact .join hout hfx hjoined hinvited

/-- **One payload** does one of the four things, and announces no departure of
an unknown room and no invite to a known one. -/
theorem windowed_change (room : RoomId) (list : Window.Behaviour) (p : Window.Payload)
    (c : Classifier) :
    Change room c (windowed s room list p c).state (windowed s room list p c).effects
      ∧ Guarded room c (windowed s room list p c).effects := by
  rw [windowed_eq]
  apply change_of_applied
  cases reading c.user list p with
  | departure e => exact change_departure s room e _
  | invitation e => exact change_invitation s room e p.inviteState _
  | inside => exact change_joinedTimeline s room p.timeline _
  | unspoken => exact change_timelineIfJoined s room p.timeline _

end Classifier

/-! ## §3. Histories. -/

/-- What a consumer of a classifier can know of. -/
inductive Happening where
  /-- A membership was taken over from storage. -/
  | restored (room : RoomId) (m : Membership)
  | signal (s : Signal)
  deriving DecidableEq

/-- What is heard of some effects. -/
def heardOf (fx : List Effect) : List Happening := (Effect.signals fx).map .signal

theorem heardOf_append (fx fx' : List Effect) :
    heardOf (fx ++ fx') = heardOf fx ++ heardOf fx' := by
  unfold heardOf
  rw [Effect.signals_append, List.map_append]

theorem heardOf_signals (ss : List Signal) : heardOf (ss.map .signal) = ss.map .signal := by
  unfold heardOf
  rw [Effect.signals_map_signal]

/-- Of a timeline, news of its room are heard. -/
theorem heardOf_ofTimeline {room : RoomId} {fx : List Effect}
    (hfx : ∀ x ∈ fx, x.OfTimeline room) :
    ∀ x ∈ heardOf fx, ∃ news, x = .signal (.room room news) ∧ news.fromTimeline = true := by
  intro x hx
  obtain ⟨signal, hsignal, rfl⟩ := List.mem_map.1 hx
  have hof := hfx _ (Effect.mem_signals.1 hsignal)
  match signal, hof with
  | .room r news, ⟨hr, hnews⟩ => exact ⟨news, by rw [hr], hnews⟩

/-- Whatever a call is heard to do, it is about its room. -/
theorem Classifier.Change.heard {room : RoomId} {c c' : Classifier} {fx : List Effect}
    (h : Classifier.Change room c c' fx) :
    ∀ x ∈ heardOf fx, ∃ news, x = .signal (.room room news) := by
  intro x hx
  cases h with
  | stay hfx hin hjoined hinvited =>
      obtain ⟨news, rfl, -⟩ := heardOf_ofTimeline hfx x hx
      exact ⟨news, rfl⟩
  | leave e hjoined hinvited => exact ⟨_, List.mem_singleton.1 hx⟩
  | invite e hjoined hinvited => exact ⟨_, List.mem_singleton.1 hx⟩
  | join hout hfx hjoined hinvited =>
      rcases List.mem_cons.1 hx with rfl | hx
      · exact ⟨_, rfl⟩
      · obtain ⟨news, rfl, -⟩ := heardOf_ofTimeline hfx x hx
        exact ⟨news, rfl⟩

/-! ## §4. Machines that read histories. -/

section Machines

variable {σ α : Type} {step : σ → α → Option σ}

/-- What a machine stands still at, it stands still at in any number. -/
theorem foldlM_still {m : σ} {history : List α} (h : ∀ x ∈ history, step m x = some m) :
    history.foldlM step m = some m := by
  induction history with
  | nil => rfl
  | cons x rest ih =>
      rw [List.foldlM_cons, h x List.mem_cons_self]
      exact ih fun y hy => h y (List.mem_cons_of_mem _ hy)

/-- A machine that read one history and goes on with another. -/
theorem foldlM_trans {m m' m'' : σ} {history later : List α}
    (h : history.foldlM step m = some m') (h' : later.foldlM step m' = some m'') :
    (history ++ later).foldlM step m = some m'' := by
  rw [List.foldlM_append, h]
  exact h'

/-- A machine that ends where it did not begin came there at some place. -/
theorem foldlM_enters {P : σ → Prop} [DecidablePred P] {history : List α} :
    ∀ {m m' : σ}, history.foldlM step m = some m' → ¬P m → P m' →
      ∃ x ∈ history, ∃ before after, ¬P before ∧ P after ∧ step before x = some after := by
  induction history with
  | nil =>
      intro m m' h hm hm'
      obtain rfl := Option.some.inj h
      exact absurd hm' hm
  | cons x rest ih =>
      intro m m' h hm hm'
      rw [List.foldlM_cons] at h
      obtain ⟨mid, hmid, hrest⟩ := Option.bind_eq_some_iff.1 h
      by_cases hin : P mid
      · exact ⟨x, List.mem_cons_self, m, mid, hm, hin, hmid⟩
      · obtain ⟨y, hy, hstep⟩ := ih hrest hin hm'
        exact ⟨y, List.mem_cons_of_mem _ hy, hstep⟩

/-- A history that is accepted is accepted up to any place, and there. -/
theorem foldlM_split {m m' : σ} {done rest : List α} {x : α}
    (h : (done ++ x :: rest).foldlM step m = some m') :
    ∃ before after, done.foldlM step m = some before ∧ step before x = some after
      ∧ rest.foldlM step after = some m' := by
  rw [List.foldlM_append] at h
  obtain ⟨before, hbefore, h⟩ := Option.bind_eq_some_iff.1 h
  rw [List.foldlM_cons] at h
  obtain ⟨after, hafter, h⟩ := Option.bind_eq_some_iff.1 h
  exact ⟨before, after, hbefore, hafter, h⟩

/-- Between two places of a history, where a machine stands after the first and
before the second. -/
theorem foldlM_between {m m' : σ} {done mid rest : List α} {x y : α}
    (h : (done ++ x :: (mid ++ y :: rest)).foldlM step m = some m') :
    ∃ before after before' after', step before x = some after ∧
      mid.foldlM step after = some before' ∧ step before' y = some after' := by
  obtain ⟨before, after, -, hstep, hlater⟩ := foldlM_split h
  obtain ⟨before', after', hmid, hstep', -⟩ := foldlM_split hlater
  exact ⟨before, after, before', after', hstep, hmid, hstep'⟩

end Machines

end RoomSync
