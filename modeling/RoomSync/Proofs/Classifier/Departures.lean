/-
  RoomSync.Proofs.Classifier.Departures
  ─────────────────────────────────────
  **WHAT A DEPARTURE LEAVES BEHIND.**

  A payload whose deciding membership is a departure takes the user out of its
  room, and a room the user is out of should have no state left.  The state of
  the payload is put into the cache before the departure is looked at, though,
  and a departure is carried out only for a room that is known:

      windowed_departure                — what such a payload does
      departure_drops_state_iff         — when the state of the room is gone
      departure_from_unknown_room       — it stays where the room was unknown

  Joined and invited rooms lose their state whatever the payload brings.
-/
import RoomSync.Proofs.Classifier.Deciding
import RoomSync.Proofs.Classifier.Standing
import RoomSync.Proofs.Classifier.Timelines

namespace RoomSync

namespace Classifier

/-! ## §1. One payload. -/

section Departing

variable {c : Classifier} {p : Window.Payload} {e : RoomEvent} {m : Membership}

/-- **A departure is carried out for a room that is known**, and the state that
came with it was put in before. -/
theorem windowed_departure (s : Services) (room : RoomId) (list : Window.Behaviour)
    (hdecides : Decides c.user (fun _ => true) (candidates p) e)
    (hm : e.membershipOf? c.user.text = some m) (hout : m.isDeparture = true) :
    windowed s room list p c =
      if c.isJoined room || c.isInvited room then
        announceLeave s room e (c.applyState room p.requiredState)
      else ⟨c.applyState room p.requiredState, [], ()⟩ := by
  have hreading : reading c.user list p = .departure e := by
    unfold reading
    rw [authoritative_eq_some.2 hdecides]
    dsimp only
    rw [membership_eq hm]
    cases m with
    | leave | ban => rfl
    | join | invite | knock | unknown => cases hout
  rw [windowed_eq, hreading]
  rfl

/-- **When a departure takes the state of its room away.**  After a payload
whose deciding membership is a departure the room is neither joined nor invited;
it has no state left exactly if it was joined or invited before, or if it had
none and the payload brings none.  What is left otherwise is the state from
before with that of the payload applied.  The departure is announced exactly if
the room was known, and other rooms are not touched. -/
theorem departure_drops_state_iff (s : Services) (room : RoomId) (list : Window.Behaviour)
    (hdecides : Decides c.user (fun _ => true) (candidates p) e)
    (hm : e.membershipOf? c.user.text = some m) (hout : m.isDeparture = true) :
    let after := windowed s room list p c
    (after.state.isJoined room = false ∧ after.state.isInvited room = false)
      ∧ (after.state.cache.contains room = false ↔
        (c.isJoined room = true ∨ c.isInvited room = true)
          ∨ (c.cache.contains room = false ∧ ∀ x ∈ p.requiredState, x.isState = false))
      ∧ (c.isJoined room = true ∨ c.isInvited room = true →
        after.effects = [.signal (.room room (.left (s.preprocess room e)))])
      ∧ (c.isJoined room = false ∧ c.isInvited room = false →
        after.effects = []
          ∧ after.state.cache.stateOf room =
            ((c.cache.stateOf room).applyAll p.requiredState).1)
      ∧ ∀ r, r ≠ room → after.state.isJoined r = c.isJoined r
        ∧ after.state.isInvited r = c.isInvited r
        ∧ after.state.cache.get? r = c.cache.get? r := by
  intro after
  have hafter : after = _ := windowed_departure s room list hdecides hm hout
  rw [hafter]
  cases hknown : c.isJoined room || c.isInvited room with
  | true =>
      rw [if_pos rfl]
      have hknown : c.isJoined room = true ∨ c.isInvited room = true := by
        rwa [Bool.or_eq_true] at hknown
      refine ⟨⟨Table.contains_erase_self _ room, Table.contains_erase_self _ room⟩, ?_,
        fun _ => rfl, ?_, ?_⟩
      · exact iff_of_true (Table.contains_erase_self _ room) (.inl hknown)
      · rintro ⟨hjoined, hinvited⟩
        rw [hjoined, hinvited] at hknown
        simp at hknown
      · intro r hr
        exact ⟨Table.contains_erase_other hr _, Table.contains_erase_other hr _,
          (cache_forget hr _).trans (cache_applyState hr _ c)⟩
  | false =>
      rw [if_neg Bool.false_ne_true]
      have hunknown := Bool.or_eq_false_iff.1 hknown
      refine ⟨hunknown, ?_, ?_, fun _ => ⟨rfl, ?_⟩, ?_⟩
      · -- nothing is carried out, so the cache has what it had and what was put in
        show (StateCache.apply c.cache room p.requiredState).1.contains room = false ↔ _
        rw [StateCache.contains_apply, Bool.or_eq_false_iff, List.any_eq_false, hunknown.1,
          hunknown.2]
        simp
      · rw [hunknown.1, hunknown.2]
        simp
      · exact StateCache.stateOf_apply c.cache room p.requiredState
      · intro r hr
        exact ⟨rfl, rfl, cache_applyState hr _ c⟩

end Departing

/-! ## §2. Departures from a room known and unknown. -/

namespace Farewell

def user : UserId := ⟨"@departing:x", by decide +kernel⟩

def room : RoomId := ⟨"!gone:x", by decide +kernel⟩

/-- The user left the room. -/
def leave : RoomEvent :=
  { type := "m.room.member"
    stateKey := some user.text
    content := .record [("membership", .string "leave")] }

/-- The departure comes as the state of the room. -/
def payload : Window.Payload := { requiredState := [leave] }

theorem leave_decides : Decides user (fun _ => true) (candidates payload) leave :=
  authoritative_eq_some.1 (by decide +kernel)

end Farewell

/-- From a room that was taken over as joined, the departure leaves nothing. -/
theorem departure_from_known_room :
    let before := Classifier.restore Farewell.room .join { user := Farewell.user }
    let after := (windowed {} Farewell.room .joined Farewell.payload before).state
    (after.isJoined Farewell.room = false ∧ after.isInvited Farewell.room = false)
      ∧ after.cache.contains Farewell.room = false := by
  intro before after
  obtain ⟨hgone, hdropped, -⟩ := departure_drops_state_iff (c := before) {} Farewell.room .joined
    Farewell.leave_decides (m := .leave) (by decide +kernel) rfl
  exact ⟨hgone, hdropped.2 (.inl (.inl (by decide +kernel)))⟩

/-- **A departure from an unknown room leaves its state.**  The room comes for
the first time, and the only thing that is said of it is that the user left; its
state stays in the cache from then on. -/
theorem departure_from_unknown_room :
    Windows Farewell.user [] { user := Farewell.user }
      ∧ Decides Farewell.user (fun _ => true) (candidates Farewell.payload) Farewell.leave
      ∧ Farewell.leave.membershipOf? Farewell.user.text = some .leave
      ∧ Membership.isDeparture .leave = true
      ∧ (windowed {} Farewell.room .joined Farewell.payload
          { user := Farewell.user }).state.cache.contains Farewell.room = true := by
  exact ⟨.fresh, Farewell.leave_decides, by decide +kernel, rfl, by decide +kernel⟩

end Classifier

end RoomSync
