/-
  RoomSync.Proofs.Classifier.Effects
  ──────────────────────────────────
  **WHAT THE CLASSIFIER DOES OUTSIDE.**

  A timeline leads to news of its own room, and to calls that decrypt its
  events (`ofTimeline_timeline`).  A change of membership is announced by one
  signal, or nothing happens (`join_new`, `leave_cases`, `invite_cases`).
  Whatever the classifier does is something delivered, to a consumer or to the
  crypto engine; it writes nothing and asks the homeserver nothing
  (`delivers_join`, `delivers_leave`, `delivers_invite`, `delivers_timeline`).
-/
import RoomSync.Classifier.Basic
import RoomSync.Proofs.Outcomes

namespace RoomSync

/-! ## §1. Kinds of effects. -/

/-- Whether news stem from a timeline event. -/
def RoomNews.fromTimeline : RoomNews → Bool
  | .message _ | .archived _ | .upgraded _ | .encrypted _ | .decrypted _ | .undecryptable _ _
  | .event _ => true
  | .accountData _ | .left _ | .invited _ | .joined => false

namespace Effect

/-- What a timeline of this room may lead to. -/
def OfTimeline (room : RoomId) : Effect → Prop
  | .signal (.room r news) => r = room ∧ news.fromTimeline = true
  | .call (.decrypt r _) => r = room
  | _ => False

/-- Whether something reaches a consumer or the crypto engine. -/
def Delivers : Effect → Prop
  | .signal _ | .call (.decrypt _ _) | .call (.updateCrypto _) => True
  | _ => False

theorem OfTimeline.delivers {room : RoomId} {x : Effect} (h : x.OfTimeline room) :
    x.Delivers := by
  match x, h with
  | .signal _, _ => exact trivial
  | .call (.decrypt _ _), _ => exact trivial

@[simp] theorem signals_append (fx fx' : List Effect) :
    signals (fx ++ fx') = signals fx ++ signals fx' := List.filterMap_append

@[simp] theorem signals_map_signal (ss : List Signal) : signals (ss.map .signal) = ss := by
  induction ss with
  | nil => rfl
  | cons s rest ih => exact congrArg (s :: ·) ih

theorem mem_signals {fx : List Effect} {s : Signal} : s ∈ signals fx ↔ .signal s ∈ fx := by
  unfold signals
  rw [List.mem_filterMap]
  constructor
  · rintro ⟨x, hx, hs⟩
    match x, hs with
    | .signal _, rfl => exact hx
  · intro h
    exact ⟨.signal s, h, rfl⟩

end Effect

namespace Classifier

variable (s : Services)

/-! ## §2. Timelines. -/

theorem fromTimeline_shape {e : RoomEvent} {news : RoomNews} (h : e.shape? = some news) :
    news.fromTimeline = true := by
  unfold RoomEvent.shape? at h
  split at h
  next => cases h; rfl
  next =>
    split at h
    next => cases h; rfl
    next => cases h
  next =>
    split at h
    next => cases h; rfl
    next => cases h
  next => cases h

/-- The signals of an event are news of its room. -/
theorem mem_timelineSignals {room : RoomId} {e : RoomEvent} {signal : Signal}
    (h : signal ∈ timelineSignals room e) :
    ∃ news, signal = .room room news ∧ news.fromTimeline = true := by
  obtain ⟨news, hnews, rfl⟩ := List.mem_map.1 h
  refine ⟨news, rfl, ?_⟩
  rcases List.mem_append.1 hnews with hshape | hevent
  · exact fromTimeline_shape (Option.mem_toList.1 hshape)
  · cases List.mem_singleton.1 hevent
    rfl

/-- Handing an event to the engine leads to news of it, and to one call. -/
theorem ofTimeline_handOff (room : RoomId) (e : RoomEvent) :
    ∀ x ∈ (s.handOff room e).2, x.OfTimeline room := by
  intro x hx
  unfold Services.handOff at hx
  split at hx
  next => cases hx
  next engine =>
    -- the raw event and the call come first, then the result
    have hraw : ∀ x ∈ [Effect.signal (.room room (.encrypted e)), .call (.decrypt room e)],
        x.OfTimeline room := by
      intro x hx
      rcases List.mem_cons.1 hx with rfl | hx
      · exact ⟨rfl, rfl⟩
      · cases List.mem_singleton.1 hx
        rfl
    dsimp only at hx
    split at hx
    next e' _ =>
      rcases List.mem_append.1 hx with hx | hx
      · exact hraw x hx
      · cases List.mem_singleton.1 hx
        exact ⟨rfl, rfl⟩
    next err _ =>
      rcases List.mem_append.1 hx with hx | hx
      · exact hraw x hx
      · cases List.mem_singleton.1 hx
        exact ⟨rfl, rfl⟩

theorem ofTimeline_eventEffects (room : RoomId) (e : RoomEvent) :
    ∀ x ∈ eventEffects s room e, x.OfTimeline room := by
  intro x hx
  rcases List.mem_append.1 hx with hx | hx
  · exact ofTimeline_handOff s room e x hx
  · obtain ⟨signal, hsignal, rfl⟩ := List.mem_map.1 hx
    obtain ⟨news, rfl, hnews⟩ := mem_timelineSignals hsignal
    exact ⟨rfl, hnews⟩

/-- **A timeline** leads to news of its room. -/
theorem ofTimeline_timeline (room : RoomId) (events : List RoomEvent) (c : Classifier) :
    ∀ x ∈ (timeline s room events c).effects, x.OfTimeline room := by
  refine Outcome.forEach_effects (timelineEvent s room) (fun e c => ?_) events c
  intro x hx
  unfold timelineEvent at hx
  split at hx
  next => cases hx
  next => exact ofTimeline_eventEffects s room e x hx

theorem delivers_timeline (room : RoomId) (events : List RoomEvent) (c : Classifier) :
    ∀ x ∈ (timeline s room events c).effects, x.Delivers :=
  fun x hx => (ofTimeline_timeline s room events c x hx).delivers

/-! ## §3. Memberships. -/

/-- The classifier once it has put a room in. -/
def entered (room : RoomId) (c : Classifier) : Classifier :=
  { c with joined := c.joined.insert room (), invited := c.invited.erase room }

theorem join_known {room : RoomId} {c : Classifier} (hin : c.isJoined room = true) :
    join room c = ⟨c, [], false⟩ := if_pos hin

theorem join_new {room : RoomId} {c : Classifier} (hout : c.isJoined room = false) :
    join room c = ⟨c.entered room, [.signal (.room room .joined)], true⟩ :=
  if_neg (Bool.eq_false_iff.1 hout)

/-- To leave a room forgets it, unless nothing is announced. -/
theorem leave_cases (room : RoomId) (events : List RoomEvent) (c : Classifier) :
    ((leave s room events c).state = c ∧ (leave s room events c).effects = [])
      ∨ ∃ e, (leave s room events c).state = c.forget room
          ∧ (leave s room events c).effects = [.signal (.room room (.left e))] := by
  unfold leave
  split
  next => exact .inl ⟨rfl, rfl⟩
  next e _ => exact .inr ⟨s.preprocess room e, rfl, rfl⟩

/-- The classifier once it knows of an invite with this stripped state. -/
def invitedWith (room : RoomId) (stripped : List RoomEvent) (c : Classifier) : Classifier :=
  { c.applyState room stripped with invited := c.invited.insert room () }

/-- To be invited to a room keeps its stripped state, unless nothing is
announced. -/
theorem invite_cases (room : RoomId) (stripped : List RoomEvent) (c : Classifier) :
    ((invite s room stripped c).state = c ∧ (invite s room stripped c).effects = [])
      ∨ ∃ e, (invite s room stripped c).state = c.invitedWith room stripped
          ∧ (invite s room stripped c).effects = [.signal (.room room (.invited e))] := by
  unfold invite
  split
  next => exact .inl ⟨rfl, rfl⟩
  next e _ => exact .inr ⟨s.preprocess room e, rfl, rfl⟩

theorem delivers_join (room : RoomId) (c : Classifier) :
    ∀ x ∈ (join room c).effects, x.Delivers := by
  intro x hx
  cases hin : c.isJoined room with
  | true =>
      rw [join_known hin] at hx
      cases hx
  | false =>
      rw [join_new hin] at hx
      cases List.mem_singleton.1 hx
      exact trivial

theorem delivers_leave (room : RoomId) (events : List RoomEvent) (c : Classifier) :
    ∀ x ∈ (leave s room events c).effects, x.Delivers := by
  intro x hx
  rcases leave_cases s room events c with ⟨-, hfx⟩ | ⟨e, -, hfx⟩ <;> rw [hfx] at hx
  · cases hx
  · cases List.mem_singleton.1 hx
    exact trivial

theorem delivers_invite (room : RoomId) (stripped : List RoomEvent) (c : Classifier) :
    ∀ x ∈ (invite s room stripped c).effects, x.Delivers := by
  intro x hx
  rcases invite_cases s room stripped c with ⟨-, hfx⟩ | ⟨e, -, hfx⟩ <;> rw [hfx] at hx
  · cases hx
  · cases List.mem_singleton.1 hx
    exact trivial

end Classifier

end RoomSync
