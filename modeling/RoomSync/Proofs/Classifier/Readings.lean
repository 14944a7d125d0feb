/-
  RoomSync.Proofs.Classifier.Readings
  ───────────────────────────────────
  **HOW A PAYLOAD IS READ.**

  A payload comes to one of four things (`Reading`): the user has left, is invited,
  is in the room, or nothing is said about it.  Which one does not depend on what
  the classifier knows; what is done about it depends on the room's standing alone:

      windowed_eq — a payload is its state, then what it is read as

  What holds of payloads is shown case by case over the readings, and the events
  of a payload need not be looked at again.
-/
import RoomSync.Classifier.Basic

namespace RoomSync

open Window (Behaviour Payload)

namespace Classifier

/-- What a payload comes to. -/
inductive Reading where
  /-- By this event the user has left. -/
  | departure (e : RoomEvent)
  /-- By this event the user is invited. -/
  | invitation (e : RoomEvent)
  /-- The user is in the room. -/
  | inside
  /-- Nothing is said. -/
  | unspoken

/-- Without a membership that decides, the timeline speaks, outside the list of
invites. -/
def unspokenReading (list : Behaviour) (p : Payload) : Reading :=
  if list ≠ .invited ∧ p.timeline ≠ [] then .inside else .unspoken

/-- What a payload of a list comes to. -/
def reading (user : UserId) (list : Behaviour) (p : Payload) : Reading :=
  match authoritative user (fun _ => true) (candidates p) with
  | some e =>
      match e.membership? with
      | some .leave | some .ban => .departure e
      | some .invite => .invitation e
      | some .join => .inside
      | _ => unspokenReading list p
  | none => unspokenReading list p

variable (s : Services)

@[simp] theorem user_applyState (room : RoomId) (events : List RoomEvent) (c : Classifier) :
    (c.applyState room events).user = c.user := rfl

/-- What is done about it. -/
def Reading.take (room : RoomId) (p : Payload) (c : Classifier) :
    Reading → Outcome Classifier Unit
  | .departure e =>
      if c.isJoined room || c.isInvited room then announceLeave s room e c else ⟨c, [], ()⟩
  | .invitation e =>
      if c.isInvited room || c.isJoined room then ⟨c, [], ()⟩
      else announceInvite s room e (c.applyState room p.inviteState)
  | .inside => joinedTimeline s room p.timeline c
  | .unspoken => timelineIfJoined s room p.timeline c

/-- **A payload** is its state, then what it is read as. -/
theorem windowed_eq (room : RoomId) (list : Behaviour) (p : Payload) (c : Classifier) :
    windowed s room list p c =
      (reading c.user list p).take s room p (c.applyState room p.requiredState) := by
  have hunspoken : windowed.unspoken s room list p (c.applyState room p.requiredState) =
      (unspokenReading list p).take s room p (c.applyState room p.requiredState) := by
    unfold windowed.unspoken unspokenReading
    split <;> rfl
  unfold windowed reading
  dsimp only
  rw [user_applyState]
  cases authoritative c.user (fun _ => true) (candidates p) with
  | none => exact hunspoken
  | some e =>
      dsimp only
      cases e.membership? with
      | none => exact hunspoken
      | some m =>
          cases m with
          | leave | ban | invite | join => rfl
          | knock | unknown => exact hunspoken

end Classifier

end RoomSync
