/-
  RoomSync.Proofs.Window.Projection
  ─────────────────────────────────
  **WHAT A ROOM SHOWS OF ITS PAYLOADS.**

  Payloads are taken in one after the other, and each changes what it is about.  So a
  room shows a last writer for each of its four facts, and the end of one timeline.  An
  event writes a fact by its kind, under the state key of that fact: what it tells of the
  name, say, is `nameTold`.  Of events whose kind is the one their type and content tell,
  that is said by place and content as well:

      Facts.apply_eq       — one event, and all facts
      Facts.foldl_told     — the last event that tells of a fact
      Consistent.told      — what an event tells, by its place and content
      rtake_rtake_append   — to trim twice is to trim once
      shows_last           — a room after any payloads
-/
import Mathlib.Data.List.DropRight
import RoomSync.Proofs.Event.Kinds
import RoomSync.Proofs.Room.State
import RoomSync.Window.Room

namespace RoomSync

open Json

/-! ## §1. What an event tells. -/

namespace RoomEvent

/-- The name that an event gives its room; an event may also take the name away. -/
def nameTold (e : RoomEvent) : Option (Option String) :=
  match e.kind with
  | .name name => if e.stateKey = some "" then some name else none
  | _ => none

/-- The topic that an event gives its room, in the same way. -/
def topicTold (e : RoomEvent) : Option (Option String) :=
  match e.kind with
  | .topic topic => if e.stateKey = some "" then some topic else none
  | _ => none

/-- How the room is encrypted from this event on. -/
def encryptionTold (e : RoomEvent) : Option Value :=
  match e.kind with
  | .encryption => if e.stateKey = some "" then some e.content else none
  | _ => none

variable {e : RoomEvent}

theorem nameTold_eq_some {name : Option String} :
    e.nameTold = some name ↔ e.kind = .name name ∧ e.stateKey = some "" := by
  unfold nameTold
  cases e.kind <;> simp [and_comm]

theorem topicTold_eq_some {topic : Option String} :
    e.topicTold = some topic ↔ e.kind = .topic topic ∧ e.stateKey = some "" := by
  unfold topicTold
  cases e.kind <;> simp [and_comm]

theorem encryptionTold_eq_some {content : Value} : e.encryptionTold = some content ↔
    (e.kind = .encryption ∧ e.content = content) ∧ e.stateKey = some "" := by
  unfold encryptionTold
  cases e.kind <;> simp [and_comm]

end RoomEvent

namespace Window

open RoomState (isAt lastAt)

namespace Facts

variable (user : UserId)

/-- **One event writes the facts that it tells of**, and leaves the others. -/
theorem apply_eq (f : Facts) (e : RoomEvent) : f.apply user e =
    { name := e.nameTold.getD f.name
      topic := e.topicTold.getD f.topic
      encryption := e.encryptionTold.or f.encryption
      ownMembership := (e.membershipOf? user.text).or f.ownMembership } := by
  unfold Facts.apply RoomEvent.nameTold RoomEvent.topicTold RoomEvent.encryptionTold
    RoomEvent.membershipOf? RoomEvent.membership? RoomEvent.hasEmptyStateKey
  cases e.kind with
  | name | topic | encryption => by_cases hkey : e.stateKey = some "" <;> simp [hkey]
  | member m => by_cases hkey : e.stateKey = some user.text <;> simp [hkey]
  | message | tombstone | create | encrypted | other => simp

/-! ## §2. The last event that tells. -/

/-- **A fact that is written by what events tell** has the value that was told last, and
where nothing was told, what it had. -/
theorem foldl_told {β : Type} (fact : Facts → β) (told : RoomEvent → Option β)
    (hwrite : ∀ f e, fact (f.apply user e) = (told e).getD (fact f))
    (es : List RoomEvent) (f : Facts) :
    fact (es.foldl (Facts.apply user) f) = (es.filterMap told).getLast?.getD (fact f) := by
  induction es using List.reverseRecOn with
  | nil => rfl
  | append_singleton es e ih =>
      rw [List.foldl_concat, hwrite, ih, List.filterMap_append]
      cases htold : told e with
      | none => simp [htold]
      | some b => simp [htold]

/-- The same of a fact that no event takes away. -/
theorem foldl_told_or {β : Type} (fact : Facts → Option β) (told : RoomEvent → Option β)
    (hwrite : ∀ f e, fact (f.apply user e) = (told e).or (fact f))
    (es : List RoomEvent) (f : Facts) :
    fact (es.foldl (Facts.apply user) f) = (es.filterMap told).getLast?.or (fact f) := by
  have hsome : ∀ (x y : Option β), x.or y = (x.map some).getD y := by
    intro x y
    cases x <;> rfl
  rw [foldl_told user fact (fun e => (told e).map some) (fun f e => by rw [hwrite, hsome]), hsome,
    ← List.getLast?_map, List.map_filterMap]

/-- An encryption stays, whatever comes. -/
theorem isSome_encryption_foldl {f : Facts} (h : f.encryption.isSome = true)
    (es : List RoomEvent) : (es.foldl (Facts.apply user) f).encryption.isSome = true := by
  rw [foldl_told_or user (·.encryption) (·.encryptionTold)
    (fun f e => congrArg Facts.encryption (apply_eq user f e)) es f, Option.isSome_or, h,
    Bool.or_true]

end Facts

/-! ## §3. Places and contents. -/

/-- What is told in one place is what the events there tell. -/
theorem eq_ite_isAt {β : Type} {told : Option β} {value : β} {type key : String} {e : RoomEvent}
    (h : ∀ b, told = some b ↔ (e.type = type ∧ value = b) ∧ e.stateKey = some key) :
    told = if isAt type key e then some value else none := by
  refine Option.ext fun b => ?_
  rw [h b, Option.ite_none_right_eq_some, RoomState.isAt_iff, Option.some.injEq]
  exact and_right_comm

/-- **What an event tells, by its place and content**, where its kind is the one they
tell. -/
theorem told_of_consistent {e : RoomEvent} (h : e.Consistent) (user : UserId) :
    e.nameTold = (if isAt "m.room.name" "" e then some (textMember e.content "name") else none)
      ∧ e.topicTold =
          (if isAt "m.room.topic" "" e then some (textMember e.content "topic") else none)
      ∧ e.encryptionTold = (if isAt "m.room.encryption" "" e then some e.content else none)
      ∧ e.membershipOf? user.text =
          if isAt "m.room.member" user.text e then some (statedMembership e.content)
          else none := by
  refine ⟨eq_ite_isAt fun name => ?_, eq_ite_isAt fun topic => ?_, eq_ite_isAt fun content => ?_,
    eq_ite_isAt fun m => h.membershipOf?_eq_some⟩
  · rw [RoomEvent.nameTold_eq_some, h, EventKind.of_eq_name]
  · rw [RoomEvent.topicTold_eq_some, h, EventKind.of_eq_topic]
  · rw [RoomEvent.encryptionTold_eq_some, h, EventKind.of_eq_encryption]

/-- The last that is told is told by the last event of the place. -/
theorem getLast?_told {β : Type} {told : RoomEvent → Option β} {value : RoomEvent → β}
    {type key : String} {es : List RoomEvent}
    (h : ∀ e ∈ es, told e = if isAt type key e then some (value e) else none) :
    (es.filterMap told).getLast? = (lastAt type key es).map value := by
  rw [lastAt, ← List.getLast?_map, List.filterMap_congr h]
  congr 1
  clear h
  induction es with
  | nil => rfl
  | cons e rest ih => cases hat : isAt type key e <;> simp [hat, ih]

/-! ## §4. The end of a timeline. -/

/-- **To trim twice is to trim once.** -/
theorem rtake_rtake_append {α : Type} (n : Nat) (xs ys : List α) :
    (xs.rtake n ++ ys).rtake n = (xs ++ ys).rtake n := by
  have hmin : min (n - ys.reverse.length) n = n - ys.reverse.length :=
    Nat.min_eq_left (Nat.sub_le _ _)
  simp only [List.rtake_eq_reverse_take_reverse, List.reverse_append, List.reverse_reverse,
    List.take_append, List.take_take, hmin]

/-! ## §5. Rooms. -/

/-- The events of a payload, section by section. -/
def Payload.events (p : Payload) : List RoomEvent :=
  p.requiredState ++ p.inviteState ++ p.timeline

section Rooms

variable (user : UserId)

/-- The facts of a room change event by event, whatever payload brings them. -/
theorem facts_foldl (ps : List Payload) (r : Room) :
    (ps.foldl (Room.apply user) r).facts =
      (ps.flatMap Payload.events).foldl (Facts.apply user) r.facts := by
  induction ps generalizing r with
  | nil => rfl
  | cons p rest ih =>
      rw [List.foldl_cons, ih, List.flatMap_cons, List.foldl_append]
      rfl

/-- A timeline is trimmed after every payload, and shows the end of all of them. -/
theorem timeline_foldl (ps : List Payload) {r : Room}
    (hr : r.timeline.rtake timelineLength = r.timeline) :
    (ps.foldl (Room.apply user) r).timeline =
      (r.timeline ++ ps.flatMap (·.timeline)).rtake timelineLength := by
  induction ps generalizing r with
  | nil =>
      rw [List.flatMap_nil, List.append_nil]
      exact hr.symm
  | cons p rest ih =>
      have hp : (r.apply user p).timeline = (r.timeline ++ p.timeline).rtake timelineLength := rfl
      have htrimmed : (r.apply user p).timeline.rtake timelineLength =
          (r.apply user p).timeline := by
        rw [hp]
        simpa using rtake_rtake_append timelineLength (r.timeline ++ p.timeline) []
      rw [List.foldl_cons, ih htrimmed, hp, rtake_rtake_append, List.flatMap_cons,
        List.append_assoc]

theorem id_foldl (ps : List Payload) (r : Room) : (ps.foldl (Room.apply user) r).id = r.id := by
  induction ps generalizing r with
  | nil => rfl
  | cons p rest ih => exact ih (r.apply user p)

/-- **What a room shows after any payloads.**  Of the events of all payloads, in the
order of their sections, the last one that tells of a fact says it: a name, a topic and
an encryption under the empty state key, the user's membership under the user's id.  A
fact of which no event tells is not known, and an event that does not tell of a fact does
not change it.  Where the kinds of the events are those that their types and contents
tell, what they tell is said by their places and contents, so the last event in the place
of a fact says it.  A room that is encrypted stays so.  The timeline is the end of all
timelines, one after the other. -/
theorem shows_last (id : RoomId) (ps : List Payload) :
    let r := ps.foldl (Room.apply user) { id }
    let es := ps.flatMap Payload.events
    (r.id = id
        ∧ r.facts.name = (es.filterMap (·.nameTold)).getLast?.getD none
        ∧ r.facts.topic = (es.filterMap (·.topicTold)).getLast?.getD none
        ∧ r.facts.encryption = (es.filterMap (·.encryptionTold)).getLast?
        ∧ r.facts.ownMembership = (es.filterMap (·.membershipOf? user.text)).getLast?)
      ∧ (∀ (f : Facts) (e : RoomEvent),
          (e.nameTold = none → (f.apply user e).name = f.name)
          ∧ (e.topicTold = none → (f.apply user e).topic = f.topic)
          ∧ (e.encryptionTold = none → (f.apply user e).encryption = f.encryption)
          ∧ (e.membershipOf? user.text = none →
              (f.apply user e).ownMembership = f.ownMembership))
      ∧ (∀ e : RoomEvent, e.Consistent →
          e.nameTold =
              (if isAt "m.room.name" "" e then some (textMember e.content "name") else none)
            ∧ e.topicTold =
                (if isAt "m.room.topic" "" e then some (textMember e.content "topic") else none)
            ∧ e.encryptionTold =
                (if isAt "m.room.encryption" "" e then some e.content else none)
            ∧ e.membershipOf? user.text =
                if isAt "m.room.member" user.text e then some (statedMembership e.content)
                else none)
      ∧ ((∀ e ∈ es, e.Consistent) →
          r.facts.name =
              (lastAt "m.room.name" "" es).bind (fun e => textMember e.content "name")
            ∧ r.facts.topic =
                (lastAt "m.room.topic" "" es).bind (fun e => textMember e.content "topic")
            ∧ r.facts.encryption = (lastAt "m.room.encryption" "" es).map (·.content)
            ∧ r.facts.ownMembership =
                (lastAt "m.room.member" user.text es).map (statedMembership ·.content))
      ∧ (∀ later : List Payload, r.isEncrypted = true →
          (later.foldl (Room.apply user) r).isEncrypted = true)
      ∧ r.timeline = (ps.flatMap (·.timeline)).rtake timelineLength := by
  intro r es
  have hfacts : r.facts = es.foldl (Facts.apply user) {} := facts_foldl user ps { id }
  have hwrites := Facts.apply_eq user
  have hname : r.facts.name = (es.filterMap (·.nameTold)).getLast?.getD none := by
    rw [hfacts, Facts.foldl_told user (·.name) (·.nameTold)
      (fun f e => congrArg Facts.name (hwrites f e))]
  have htopic : r.facts.topic = (es.filterMap (·.topicTold)).getLast?.getD none := by
    rw [hfacts, Facts.foldl_told user (·.topic) (·.topicTold)
      (fun f e => congrArg Facts.topic (hwrites f e))]
  have hencryption : r.facts.encryption = (es.filterMap (·.encryptionTold)).getLast? := by
    rw [hfacts, Facts.foldl_told_or user (·.encryption) (·.encryptionTold)
      (fun f e => congrArg Facts.encryption (hwrites f e)), Option.or_none]
  have hmembership :
      r.facts.ownMembership = (es.filterMap (·.membershipOf? user.text)).getLast? := by
    rw [hfacts, Facts.foldl_told_or user (·.ownMembership) (·.membershipOf? user.text)
      (fun f e => congrArg Facts.ownMembership (hwrites f e)), Option.or_none]
  refine ⟨⟨id_foldl user ps { id }, hname, htopic, hencryption, hmembership⟩, fun f e => ?_,
    fun e h => told_of_consistent h user, fun hes => ?_, fun later h => ?_, ?_⟩
  · rw [hwrites f e]
    refine ⟨fun h => ?_, fun h => ?_, fun h => ?_, fun h => ?_⟩ <;> rw [h] <;> rfl
  · have htold := fun e he => told_of_consistent (hes e he) user
    have hbind : ∀ (last : Option RoomEvent) (value : RoomEvent → Option String),
        (last.map value).getD none = last.bind value := by
      intro last value
      cases last <;> rfl
    rw [hname, htopic, hencryption, hmembership, getLast?_told fun e he => (htold e he).1,
      getLast?_told fun e he => (htold e he).2.1, getLast?_told fun e he => (htold e he).2.2.1,
      getLast?_told fun e he => (htold e he).2.2.2]
    exact ⟨hbind _ _, hbind _ _, rfl, rfl⟩
  · show (later.foldl (Room.apply user) r).facts.encryption.isSome = true
    rw [facts_foldl]
    exact Facts.isSome_encryption_foldl user h _
  · exact timeline_foldl user ps (r := { id }) rfl

end Rooms

/-! ## §6. A topic that comes later. -/

namespace Shown

def user : UserId := ⟨"@showing:x", by decide +kernel⟩

def room : RoomId := ⟨"!shown:x", by decide +kernel⟩

/-- A state event that says one thing. -/
def state (type key member text : String) : RoomEvent where
  type := type
  stateKey := some key
  content := .object [(member, .string text)]

def message : RoomEvent where
  type := "m.room.message"

/-- All there is to know, but for the topic. -/
def first : Payload where
  requiredState := [state "m.room.name" "" "name" "Lobby",
    state "m.room.encryption" "" "algorithm" "megolm",
    state "m.room.member" user.text "membership" "join"]
  timeline := [state "m.room.member" "@other:x" "membership" "leave"]

/-- A topic, a topic of something else, and as many messages as are shown. -/
def second : Payload where
  requiredState := [state "m.room.topic" "" "topic" "talk",
    state "m.room.topic" "else" "topic" "other"]
  timeline := List.replicate timelineLength message

end Shown

open Shown in
/-- A topic and fifty messages come after all that is known: the topic is put beside
it, and the first event is not shown any more. -/
theorem topic_put_beside :
    let r := [first, second].foldl (Room.apply user) { id := room }
    r.facts =
        { name := some "Lobby"
          topic := some "talk"
          encryption := some (.object [("algorithm", .string "megolm")])
          ownMembership := some .join }
      ∧ r.timeline = List.replicate timelineLength message := by
  intro r
  obtain ⟨-, -, -, hread, -, htimeline⟩ := shows_last user room [first, second]
  obtain ⟨hname, htopic, hencryption, hmembership⟩ := hread (by decide +kernel)
  refine ⟨?_, htimeline.trans (by decide +kernel)⟩
  have hfacts : r.facts = ⟨r.facts.name, r.facts.topic, r.facts.encryption,
    r.facts.ownMembership⟩ := rfl
  rw [hfacts, hname, htopic, hencryption, hmembership]
  decide +kernel

end Window

end RoomSync
