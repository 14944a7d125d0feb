/-
  RoomSync.Proofs.Session.Routes
  ──────────────────────────────
  **A JOINED ROOM, BY CURSOR AND BY WINDOW.**

  A batch that follows a cursor says which rooms the user is in; a payload of a
  window leaves that to be found out.  Where it is found out, both come to the
  same: the room is put in, its state applied, its timeline taken in.

      joinedTimeline_classifyJoined — an update by cursor
      windowed_asPayload            — the same update as a payload
      windowed_eq_classifyJoined    — one room by both routes
      windowedAll_asPayloads        — any number of them

  A cursor's batch puts the room in before the state, a payload after it; neither
  step reads what the other one writes (`join_applyState`).
-/
import RoomSync.Cursor.Loop
import RoomSync.Proofs.Classifier.Deciding
import RoomSync.Proofs.Classifier.Effects
import RoomSync.Proofs.Classifier.Membership

namespace RoomSync

open Window (Behaviour Payload)

/-! ## §1. The same update as a payload. -/

namespace Cursor.RoomUpdate

/-- An update in the form of a payload. -/
def asPayload (u : RoomUpdate) (room : Option RoomId) : Payload :=
  { roomId := room, requiredState := u.state, timeline := u.timeline.events }

/-- The update has a timeline, and of the user's member events none decides but a
join. -/
def SaysJoined (user : UserId) (u : RoomUpdate) : Prop :=
  u.timeline.events ≠ []
    ∧ ∀ e, Decides user (fun _ => true) (u.state ++ u.timeline.events) e →
        e.membershipOf? user.text = some .join

end Cursor.RoomUpdate

namespace Classifier

open Cursor (RoomUpdate)

variable (s : Services)

/-! ## §2. Each route. -/

/-- To be put in and to apply state do not interfere. -/
theorem join_applyState (room : RoomId) (events : List RoomEvent) (c : Classifier) :
    join room (c.applyState room events) =
      ⟨(join room c).state.applyState room events, (join room c).effects,
        (join room c).answer⟩ := by
  cases hin : c.isJoined room with
  | true =>
      rw [join_known hin]
      exact join_known hin
  | false =>
      rw [join_new hin]
      exact join_new hin

/-- **By cursor**: the state, then the room with its timeline. -/
theorem joinedTimeline_classifyJoined (room : RoomId) (u : RoomUpdate) (c : Classifier) :
    Cursor.classifyJoined s (room, u) c =
      joinedTimeline s room u.timeline.events (c.applyState room u.state) := by
  have hin : ((join room c).state.applyState room u.state).isJoined room = true := by
    show (join room c).state.isJoined room = true
    rw [isJoined_join, decide_eq_true rfl, Bool.true_or]
  unfold Cursor.classifyJoined joinedTimeline timelineIfJoined
  rw [join_applyState]
  dsimp only
  rw [if_pos hin]

/-- A payload that is an update is read so. -/
theorem reading_asPayload {user : UserId} {u : RoomUpdate} (hinside : u.SaysJoined user)
    {list : Behaviour} (hlist : list ≠ .invited) (id : Option RoomId) :
    reading user list (u.asPayload id) = .inside := by
  obtain ⟨hevents, hown⟩ := hinside
  have hcandidates : candidates (u.asPayload id) = u.state ++ u.timeline.events := by
    show u.state ++ [] ++ u.timeline.events = _
    rw [List.append_nil]
  unfold reading
  rw [hcandidates]
  cases hfound : authoritative user (fun _ => true) (u.state ++ u.timeline.events) with
  | none => exact if_pos ⟨hlist, hevents⟩
  | some e =>
      have hjoin : e.membership? = some .join :=
        membership_eq (hown e (authoritative_eq_some.1 hfound))
      dsimp only
      rw [hjoin]

/-- **By window**: the state, then the room with its timeline. -/
theorem windowed_asPayload {list : Behaviour} (hlist : list ≠ .invited) {c : Classifier}
    {u : RoomUpdate} (hinside : u.SaysJoined c.user) (room : RoomId) (id : Option RoomId) :
    windowed s room list (u.asPayload id) c =
      joinedTimeline s room u.timeline.events (c.applyState room u.state) := by
  rw [windowed_eq, reading_asPayload hinside hlist]
  rfl

/-! ## §3. Both routes. -/

/-- **One joined room by both routes.**  An update with a timeline, in which no
member event of the user decides but a join, does the same by cursor as in a
payload of a list of joined rooms or of direct messages: the same signals and calls
in the same order, and the same joined and invited rooms, remembered events and
room states.  It does not matter what the classifier knew, and which services it
works with. -/
theorem windowed_eq_classifyJoined {list : Behaviour} (hlist : list = .joined ∨ list = .direct)
    {c : Classifier} {u : RoomUpdate} (hinside : u.SaysJoined c.user) (room : RoomId)
    (id : Option RoomId) :
    windowed s room list (u.asPayload id) c = Cursor.classifyJoined s (room, u) c := by
  have hoften : list ≠ .invited := by
    rcases hlist with rfl | rfl <;> exact fun h => nomatch h
  rw [windowed_asPayload s hoften hinside, joinedTimeline_classifyJoined]

/-- The joined rooms of a batch as payloads of one list. -/
def asPayloads (list : Behaviour) (entries : List (RoomId × RoomUpdate)) : List Word :=
  entries.map fun e => (list, e.1, e.2.asPayload (some e.1))

/-- **Any number of joined rooms**, one after the other. -/
theorem windowedAll_asPayloads {list : Behaviour} (hlist : list ≠ .invited) {user : UserId}
    (entries : List (RoomId × RoomUpdate)) :
    ∀ {c : Classifier}, c.user = user → (∀ e ∈ entries, e.2.SaysJoined user) →
      windowedAll s (asPayloads list entries) c =
        Outcome.forEach (Cursor.classifyJoined s) entries c := by
  induction entries with
  | nil =>
      intro c _ _
      rfl
  | cons e rest ih =>
      intro c huser hinside
      obtain ⟨room, u⟩ := e
      have hfirst : windowed s room list (u.asPayload (some room)) c =
          Cursor.classifyJoined s (room, u) c := by
        have hinside : u.SaysJoined c.user := huser ▸ hinside (room, u) List.mem_cons_self
        rw [windowed_asPayload s hlist hinside, joinedTimeline_classifyJoined]
      -- the first room leaves the user as it is, so the others say the same
      have hrest := ih ((user_windowed s room list (u.asPayload (some room)) c).trans huser)
        fun e he => hinside e (List.mem_cons_of_mem _ he)
      unfold windowedAll asPayloads at hrest ⊢
      rw [List.map_cons]
      unfold Outcome.forEach
      dsimp only
      rw [hrest, hfirst]

/-! ## §4. A room that was left. -/

namespace Return

def user : UserId := ⟨"@returning:x", by decide +kernel⟩

def room : RoomId := ⟨"!returned:x", by decide +kernel⟩

/-- A member event of the user. -/
def member (m : Membership) (age : Int) : RoomEvent :=
  { type := "m.room.member"
    stateKey := some user.text
    content := .record [("membership", .string m.name)]
    unsigned := { age := some age } }

/-- An event that comes twice. -/
def greeting : RoomEvent := { id := some "$greeting", type := "m.room.message" }

def secret : RoomEvent := { id := some "$secret", type := "m.room.encrypted" }

/-- The secret once it is decrypted. -/
def plain : RoomEvent := { id := some "$secret", type := "m.room.message" }

/-- An engine that makes a message of whatever it decrypts. -/
def services : Services where
  crypto := some {
    isEncrypted := fun _ => true
    decrypt := fun _ e => .ok { e with type := "m.room.message", kind := .message }
    update := fun _ => .ok () }

/-- The user was in the room, left it and was invited again. -/
def before : Classifier :=
  let inside := (joinedTimeline services room [greeting] { user }).state
  let outside := (leave services room [member .leave 0] inside).state
  (invite services room [member .invite 0] outside).state

/-- The user is in again; the invite is the older member event. -/
def update : RoomUpdate where
  state := [member .invite 5000]
  timeline := { events := [greeting, secret, member .join 100] }

theorem saysJoined_update : update.SaysJoined before.user := by
  have hjoin : Decides before.user (fun _ => true) (update.state ++ update.timeline.events)
      (member .join 100) := authoritative_eq_some.1 (by decide +kernel)
  refine ⟨List.cons_ne_nil _ _, fun e he => ?_⟩
  rw [he.unique hjoin]
  decide +kernel

end Return

open Return in
/-- By either route the user is put in, the event that came before goes unnoticed
and the encrypted one is decrypted. -/
theorem return_by_both_routes :
    update.SaysJoined before.user
      ∧ windowed services room .direct (update.asPayload none) before =
          Cursor.classifyJoined services (room, update) before
      ∧ Effect.signals (windowed services room .direct (update.asPayload none) before).effects =
          [.joined, .encrypted secret, .decrypted plain, .message plain, .event plain,
            .event (member .join 100)].map (Signal.room room) := by
  have hinside := saysJoined_update
  exact ⟨hinside, windowed_eq_classifyJoined services (.inr rfl) hinside room none,
    by decide +kernel⟩

end Classifier

end RoomSync
