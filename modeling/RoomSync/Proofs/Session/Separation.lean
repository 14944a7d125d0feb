/-
  RoomSync.Proofs.Session.Separation
  ──────────────────────────────────
  **ROOMS DO NOT INTERFERE.**

  Calls about several rooms come in any order.  What is announced of one of them,
  and what is known of it in the end, is what the calls about that room alone
  come to:

      local_run         — a call is local to its room
      agree_runAll      — a run beside the run of one room's calls
      room_stands_alone — both from a new classifier

  The calls of the other rooms are passed over one by one: such a call changes
  nothing that is known of the room, and nothing that it does outside is about it.
-/
import RoomSync.Proofs.Classifier.Locality
import RoomSync.Proofs.Session.Calls

namespace RoomSync

namespace Classifier

variable (s : Services) {among : Finset (RoomId × String)}

/-! ## §1. Calls. -/

/-- The occurrences of events that a call may take in. -/
def Step.occurrences : Step → List Occurrence
  | .timeline room events => events.map (room, ·)
  | .windowed word => word.2.2.timeline.map (word.2.1, ·)
  | .leave _ _ | .invite _ _ | .join _ | .state _ _ => []

/-- The pairs of a call are among these. -/
def Step.Within (among : Finset (RoomId × String)) (x : Step) : Prop :=
  ∀ o ∈ x.occurrences, ∀ id, o.2.id = some id → (o.1, id) ∈ among

/-- **A call is local** to its room. -/
theorem local_run (hfew : among.card ≤ memoryCapacity) {x : Step} (hx : x.Within among) :
    Local among x.room (x.run s) := by
  cases x with
  | leave room events => exact local_leave s events
  | invite room stripped => exact local_invite s stripped
  | join room => exact local_join
  | state room events => exact local_applyState events
  | timeline room events =>
    exact local_timeline s hfew fun e he => hx (room, e) (List.mem_map_of_mem he)
  | windowed word =>
    obtain ⟨list, room, p⟩ := word
    exact local_windowed s room list p hfew fun e he => hx (room, e) (List.mem_map_of_mem he)

/-! ## §2. Runs. -/

/-- What is done about a room. -/
def about (room : RoomId) (fx : List Effect) : List Effect := fx.filter (·.room? = some room)

theorem about_append (room : RoomId) (fx fx' : List Effect) :
    about room (fx ++ fx') = about room fx ++ about room fx' := List.filter_append ..

theorem signals_about (room : RoomId) (fx : List Effect) :
    Effect.signals (about room fx) = (Effect.signals fx).filter (·.room? = some room) := by
  unfold Effect.signals about
  rw [List.filterMap_filter, List.filter_filterMap]
  refine List.filterMap_congr fun x _ => ?_
  cases x with
  | signal news =>
    show (if _ then some news else none) = (some news).filter _
    rw [Option.filter_some]
    rfl
  | call c => exact ite_self none
  | write w => exact ite_self none

/-- **A run, and the run of the calls about one room**, from classifiers that know the
same of it. -/
theorem agree_runAll {steps : List Step} (hfew : among.card ≤ memoryCapacity)
    (hsteps : ∀ x ∈ steps, x.Within among) (room : RoomId) :
    ∀ {c c' : Classifier}, c.seen.Whole among → c'.seen.Whole among → AgreeOn room c c' →
      let all := runAll s steps c
      let alone := runAll s (steps.filter (·.room = room)) c'
      AgreeOn room all.state alone.state ∧ about room all.effects = alone.effects := by
  induction steps with
  | nil =>
    intro c c' _ _ hagree
    exact ⟨hagree, rfl⟩
  | cons x rest ih =>
    intro c c' hc hc' hagree
    have hlocal := local_run s hfew (hsteps x List.mem_cons_self)
    have hrest : ∀ y ∈ rest, y.Within among := fun y hy => hsteps y (List.mem_cons_of_mem x hy)
    by_cases hroom : x.room = room
    · -- the call is made in both runs
      subst hroom
      obtain ⟨hstate, hfx⟩ := hlocal.same hc hc' hagree
      obtain ⟨hend, hlater⟩ := ih hrest (hlocal.whole hc) (hlocal.whole hc') hstate
      rw [List.filter_cons_of_pos (by simp)]
      refine ⟨hend, ?_⟩
      show about x.room ((x.run s c).effects ++ (runAll s rest _).effects) =
        (x.run s c').effects ++ (runAll s _ _).effects
      rw [about_append, hlater, ← hfx]
      congr 1
      exact List.filter_eq_self.mpr fun y hy => decide_eq_true (hlocal.about hy)
    · -- the call is made in the one run, and is not known of in the room
      have hstate := (hlocal.others hc (Ne.symm hroom)).symm.trans hagree
      obtain ⟨hend, hlater⟩ := ih hrest (hlocal.whole hc) hc' hstate
      rw [List.filter_cons_of_neg (by simpa using hroom)]
      refine ⟨hend, ?_⟩
      show about room ((x.run s c).effects ++ (runAll s rest _).effects) = _
      rw [about_append, hlater]
      have hquiet : about room (x.run s c).effects = [] := by
        refine List.filter_eq_nil_iff.mpr fun y hy => ?_
        rw [hlocal.about hy]
        simpa using hroom
      rw [hquiet, List.nil_append]

/-- **Rooms do not interfere.**  A new classifier is given calls about any rooms in any
order, and all their timelines together have no more pairs of a room and an event id
than it remembers.  Then one room sees the same, in the same order, as if the calls
about other rooms had not been: the signals of that room, the events handed to the
crypto engine for it, and in the end its membership and its state. -/
theorem room_stands_alone (user : UserId) {steps : List Step}
    (hfew : (pairsIn (steps.flatMap Step.occurrences)).toFinset.card ≤ memoryCapacity)
    (room : RoomId) :
    let all := runAll s steps { user }
    let alone := runAll s (steps.filter (·.room = room)) { user }
    (Effect.signals all.effects).filter (·.room? = some room) = Effect.signals alone.effects
      ∧ about room all.effects = alone.effects
      ∧ all.state.isJoined room = alone.state.isJoined room
      ∧ all.state.isInvited room = alone.state.isInvited room
      ∧ all.state.cache.get? room = alone.state.cache.get? room := by
  have hsteps : ∀ x ∈ steps,
      x.Within (pairsIn (steps.flatMap Step.occurrences)).toFinset := by
    intro x hx o ho id hid
    exact List.mem_toFinset.mpr
      (mem_pairsIn.mpr ⟨o.2, List.mem_flatMap.mpr ⟨x, hx, ho⟩, hid⟩)
  have hempty : ({} : Memory).Whole (pairsIn (steps.flatMap Step.occurrences)).toFinset :=
    Recency.whole_empty _
  obtain ⟨hagree, hfx⟩ := agree_runAll s hfew hsteps room hempty hempty (.refl room { user })
  refine ⟨?_, hfx, hagree.joined, hagree.invited, hagree.state⟩
  rw [← signals_about, hfx]

/-! ## §3. Two rooms at once. -/

namespace Beside

def resident : UserId := ⟨"@both:x", by decide +kernel⟩

def here : RoomId := ⟨"!here:x", by decide +kernel⟩

def there : RoomId := ⟨"!there:x", by decide +kernel⟩

/-- An event id is an event of its own in each room. -/
def secret : RoomEvent := { id := some "$1", type := "m.room.encrypted" }

def topic : RoomEvent := { id := some "$2", type := "m.room.topic", stateKey := some "" }

/-- A member event of the user. -/
def member (m : Membership) : RoomEvent :=
  { type := "m.room.member"
    stateKey := some resident.text
    content := .record [("membership", .string m.name)] }

/-- One room is encrypted, and nothing of it can be read. -/
def services : Services where
  crypto := some {
    isEncrypted := (· = there)
    decrypt := fun _ _ => .error (.decryption "no session")
    update := fun _ => .ok () }

/-- The user comes to know both rooms, and leaves one. -/
def steps : List Step :=
  [.join there, .windowed (.joined, here, { timeline := [secret, topic] }),
    .timeline there [secret, topic], .leave there [member .leave], .timeline here [secret],
    .invite there [member .invite]]

def everything : Outcome Classifier Unit := runAll services steps { user := resident }

/-- The calls about one room only. -/
def alone : Outcome Classifier Unit :=
  runAll services (steps.filter (·.room = here)) { user := resident }

def news : List Signal := [.joined, .event secret, .event topic].map (Signal.room here)

end Beside

open Beside in
/-- The room that the user stays in, beside one that is left. -/
theorem room_beside_left_room :
    (pairsIn (steps.flatMap Step.occurrences)).toFinset.card ≤ memoryCapacity
      ∧ Effect.signals alone.effects = news
      ∧ (Effect.signals everything.effects).filter (·.room? = some here) = news
      ∧ everything.state.isJoined here = true := by
  have hfew : (pairsIn (steps.flatMap Step.occurrences)).toFinset.card ≤ memoryCapacity := by
    decide +kernel
  obtain ⟨hsignals, -, hjoined, -, -⟩ := room_stands_alone services resident hfew here
  have halone : Effect.signals alone.effects = news := by decide +kernel
  have hinside : alone.state.isJoined here = true := by decide +kernel
  exact ⟨hfew, halone, hsignals.trans halone, hjoined.trans hinside⟩

end Classifier

end RoomSync
