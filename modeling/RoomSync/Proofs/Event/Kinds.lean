/-
  RoomSync.Proofs.Event.Kinds
  ───────────────────────────
  **KINDS, TYPES AND CONTENTS.**

  The client goes by the kind of an event, which was told when the event was read and is
  kept with it.  A kind is told by one type, and what it carries by the content
  (`of_eq_member` and the others).  So what holds by kind holds by type and content where
  the kind is still the one they tell, as it is of every event that was read:

      Consistent.kinds           — the kinds that are told from others by type
      membershipOf?_eq_some      — a member event of a user, by its kind
      Consistent.membershipOf?_eq_some — and by its type and content
-/
import RoomSync.Event.Basic

namespace RoomSync

open Json

/-! ## §1. The type of a kind. -/

namespace EventKind

variable {type : String} {content : Value}

theorem of_eq_message : of type content = .message ↔ type = "m.room.message" := by
  unfold of
  split <;> simp_all

theorem of_eq_encrypted : of type content = .encrypted ↔ type = "m.room.encrypted" := by
  unfold of
  split <;> simp_all

theorem of_eq_encryption : of type content = .encryption ↔ type = "m.room.encryption" := by
  unfold of
  split <;> simp_all

theorem of_eq_name {name : Option String} :
    of type content = .name name ↔ type = "m.room.name" ∧ textMember content "name" = name := by
  unfold of
  split <;> simp_all

theorem of_eq_topic {topic : Option String} : of type content = .topic topic ↔
    type = "m.room.topic" ∧ textMember content "topic" = topic := by
  unfold of
  split <;> simp_all

theorem of_eq_member {m : Membership} : of type content = .member m ↔
    type = "m.room.member" ∧ statedMembership content = m := by
  unfold of
  split <;> simp_all

theorem of_eq_tombstone {replacement : Option String} : of type content = .tombstone replacement ↔
    type = "m.room.tombstone" ∧ textMember content "replacement_room" = replacement := by
  unfold of
  split <;> simp_all

theorem of_eq_create {predecessor : Option String} : of type content = .create predecessor ↔
    type = "m.room.create" ∧ upgradedRoom content = predecessor := by
  unfold of
  split <;> simp_all

end EventKind

namespace RoomEvent

variable {e : RoomEvent}

/-! ## §2. Events whose kind is the one they tell. -/

/-- **The kinds that are told by type**: of these the client announces more than an
event. -/
theorem Consistent.kinds (h : e.Consistent) :
    (e.kind = .encrypted ↔ e.type = "m.room.encrypted")
      ∧ (e.kind = .message ↔ e.type = "m.room.message")
      ∧ ((∃ replacement, e.kind = .tombstone replacement) ↔ e.type = "m.room.tombstone")
      ∧ ∀ predecessor, e.kind = .create predecessor ↔
          e.type = "m.room.create" ∧ upgradedRoom e.content = predecessor := by
  rw [Consistent] at h
  rw [h]
  refine ⟨EventKind.of_eq_encrypted, EventKind.of_eq_message, ?_,
    fun predecessor => EventKind.of_eq_create⟩
  simp only [EventKind.of_eq_tombstone, exists_and_left, exists_eq', and_true]

/-! ## §3. Member events. -/

/-- A member event has a membership. -/
theorem membership?_eq_some {m : Membership} : e.membership? = some m ↔ e.kind = .member m := by
  unfold membership?
  cases e.kind <;> simp

/-- A member event of a user. -/
theorem membershipOf?_eq_some {user : String} {m : Membership} :
    e.membershipOf? user = some m ↔ e.kind = .member m ∧ e.stateKey = some user := by
  unfold membershipOf?
  split
  next hkey => rw [membership?_eq_some, and_iff_left hkey]
  next hkey => simp [hkey]

/-- A member event of a user, by what it says. -/
theorem Consistent.membershipOf?_eq_some (h : e.Consistent) {user : String} {m : Membership} :
    e.membershipOf? user = some m ↔
      (e.type = "m.room.member" ∧ statedMembership e.content = m) ∧ e.stateKey = some user := by
  rw [RoomEvent.membershipOf?_eq_some, h, EventKind.of_eq_member]

end RoomEvent

end RoomSync
