/-
  RoomSync.Proofs.Session.Stays
  ─────────────────────────────
  **A JOIN IS ANNOUNCED ONCE A STAY, AND TIMELINES ONLY DURING IT.**

  A classifier takes over memberships and then takes in batches of either kind.
  A consumer who keeps, for one room, the last of join, leave and restored join
  knows whether the classifier takes the room for joined.  The law is a machine
  that reads the history (`Stay.step`): it refuses a join while the user is in,
  and news of a timeline while the user is out.

      Change.read         — one call: the machine reads on, and ends where the
                            memberships do
      read_runAll         — the calls of a batch, as far as they got
      Run, Moment         — histories of batches, and of parts of a batch
      stays_are_announced — what the machine's reading says about the history

  News of a timeline need the room to be joined when they are taken in.  A batch
  sees to that by the order of its calls (`Ordered`).
-/
import RoomSync.Proofs.Session.Calls
import RoomSync.Proofs.Window.Batches

namespace RoomSync

/-! ## §1. The law. -/

namespace Stay

/-- Reading on for room `r`, where `inside` says whether the user is in. -/
def step (r : RoomId) (inside : Bool) : Happening → Option Bool
  | .restored room m => some (if room = r ∧ m = .join then true else inside)
  | .signal (.accountData _) => some inside
  | .signal (.room room news) =>
      if room ≠ r then some inside
      else
        match news with
        | .joined => if inside then none else some true
        | .left _ => some false
        | .accountData _ | .invited _ => some inside
        | _ => if inside then some inside else none

/-- What a happening says about the user being in room `r`. -/
def word (r : RoomId) : Happening → Option Bool
  | .restored room m => if room = r ∧ m = .join then some true else none
  | .signal (.room room .joined) => if room = r then some true else none
  | .signal (.room room (.left _)) => if room = r then some false else none
  | .signal _ => none

theorem word_restored (r room : RoomId) (m : Membership) :
    word r (.restored room m) = if room = r ∧ m = .join then some true else none := rfl

theorem word_joined (r room : RoomId) :
    word r (.signal (.room room .joined)) = if room = r then some true else none := rfl

theorem word_left (r room : RoomId) (e : RoomEvent) :
    word r (.signal (.room room (.left e))) = if room = r then some false else none := rfl

/-- The last of join, restored join and leave of room `r`: whether it is one of
the former. -/
def lastWord (history : List Happening) (r : RoomId) : Option Bool :=
  (history.filterMap (word r)).getLast?

theorem step_other {r room : RoomId} (h : room ≠ r) (inside : Bool) (news : RoomNews) :
    step r inside (.signal (.room room news)) = some inside := if_pos h

theorem step_here (r : RoomId) (inside : Bool) (news : RoomNews) :
    step r inside (.signal (.room r news)) =
      match news with
      | .joined => if inside then none else some true
      | .left _ => some false
      | .accountData _ | .invited _ => some inside
      | _ => if inside then some inside else none := if_neg (fun h => h rfl)

theorem getD_false_iff {o : Option Bool} : o.getD false = true ↔ o = some true := by
  cases o <;> simp

/-- News of a timeline are read while the user is in, and change nothing. -/
theorem step_fromTimeline (r : RoomId) (inside : Bool) {news : RoomNews}
    (h : news.fromTimeline = true) :
    step r inside (.signal (.room r news)) = if inside then some inside else none := by
  rw [step_here]
  cases news with
  | accountData | left | invited | joined => cases h
  | _ => rfl

/-- The machine ends at the last word. -/
theorem step_word {r : RoomId} {inside inside' : Bool} {x : Happening}
    (h : step r inside x = some inside') : inside' = (word r x).getD inside := by
  match x with
  | .restored room m =>
      obtain rfl := Option.some.inj h
      rw [word_restored]
      split <;> rfl
  | .signal (.accountData _) => exact (Option.some.inj h).symm
  | .signal (.room room news) =>
      by_cases hr : room = r
      · subst hr
        rw [step_here] at h
        cases news with
        | joined =>
            cases inside with
            | true => cases h
            | false =>
                obtain rfl := Option.some.inj h
                rw [word_joined, if_pos rfl]
                rfl
        | left e =>
            obtain rfl := Option.some.inj h
            rw [word_left, if_pos rfl]
            rfl
        | accountData | invited => exact (Option.some.inj h).symm
        | _ =>
            cases inside with
            | true => exact (Option.some.inj h).symm
            | false => cases h
      · rw [step_other hr] at h
        obtain rfl := Option.some.inj h
        cases news with
        | joined =>
            rw [word_joined, if_neg hr]
            rfl
        | left e =>
            rw [word_left, if_neg hr]
            rfl
        | _ => rfl

/-- **What was read last** is where the machine is. -/
theorem lastWord_of_read {r : RoomId} {history : List Happening} :
    ∀ {inside inside' : Bool}, history.foldlM (step r) inside = some inside' →
      inside' = (lastWord history r).getD inside := by
  induction history with
  | nil =>
      intro inside inside' h
      exact (Option.some.inj h).symm
  | cons x rest ih =>
      intro inside inside' h
      rw [List.foldlM_cons] at h
      obtain ⟨mid, hmid, hrest⟩ := Option.bind_eq_some_iff.1 h
      have hlater := ih hrest
      rw [step_word hmid] at hlater
      rw [hlater]
      unfold lastWord
      rw [List.filterMap_cons]
      cases word r x with
      | none => rfl
      | some b =>
          dsimp only
          rw [List.getLast?_cons]
          rfl

/-- Only a leave leads out. -/
theorem left_of_step {r : RoomId} {x : Happening} (h : step r true x = some false) :
    ∃ e, x = .signal (.room r (.left e)) := by
  match x with
  | .restored room m =>
      have h : (if room = r ∧ m = .join then true else true) = false := Option.some.inj h
      rw [ite_self] at h
      cases h
  | .signal (.accountData _) => cases h
  | .signal (.room room news) =>
      by_cases hr : room = r
      · subst hr
        rw [step_here] at h
        cases news with
        | left e => exact ⟨e, rfl⟩
        | _ => cases h
      · rw [step_other hr] at h
        cases h

/-- Who was in and is out has left. -/
theorem left_of_read {r : RoomId} {history : List Happening}
    (h : history.foldlM (step r) true = some false) :
    ∃ e, .signal (.room r (.left e)) ∈ history := by
  obtain ⟨x, hx, before, after, hbefore, rfl, hstep⟩ :=
    foldlM_enters (P := (· = false)) h Bool.noConfusion rfl
  obtain rfl : before = true := by simpa using hbefore
  obtain ⟨e, rfl⟩ := left_of_step hstep
  exact ⟨e, hx⟩

end Stay

/-! ## §2. Calls. -/

namespace Classifier

/-- News of a timeline do not move the machine while the user is in. -/
theorem read_ofTimeline {room : RoomId} {fx : List Effect} (hfx : ∀ x ∈ fx, x.OfTimeline room)
    {inside : Bool} (hin : fx ≠ [] → inside = true) :
    (heardOf fx).foldlM (Stay.step room) inside = some inside := by
  cases fx with
  | nil => rfl
  | cons y fx =>
      refine foldlM_still fun x hx => ?_
      obtain ⟨news, rfl, hnews⟩ := heardOf_ofTimeline hfx x hx
      rw [Stay.step_fromTimeline room inside hnews, if_pos (hin (List.cons_ne_nil _ _))]

/-- The room of a call. -/
theorem Change.read_here {room : RoomId} {c c' : Classifier} {fx : List Effect}
    (h : Change room c c' fx) :
    (heardOf fx).foldlM (Stay.step room) (c.isJoined room) = some (c'.isJoined room) := by
  cases h with
  | stay hfx hin hjoined hinvited =>
      have hsame : c'.isJoined room = c.isJoined room := congrArg (·.contains room) hjoined
      rw [hsame]
      exact read_ofTimeline hfx hin
  | leave e hjoined hinvited =>
      have hout : c'.isJoined room = false :=
        (congrArg (·.contains room) hjoined).trans (Table.contains_erase_self _ _)
      show (Stay.step room (c.isJoined room) (.signal (.room room (.left e)))).bind some = _
      rw [Option.bind_fun_some, Stay.step_here, hout]
  | invite e hjoined hinvited =>
      have hsame : c'.isJoined room = c.isJoined room := congrArg (·.contains room) hjoined
      show (Stay.step room (c.isJoined room) (.signal (.room room (.invited e)))).bind some = _
      rw [Option.bind_fun_some, Stay.step_here, hsame]
  | @join fx hout hfx hjoined hinvited =>
      have hin : c'.isJoined room = true :=
        (congrArg (·.contains room) hjoined).trans (Table.contains_insert_self _ _ _)
      -- first the join, then the timeline of a room that is joined now
      show (Stay.step room (c.isJoined room) (.signal (.room room .joined))).bind
        (fun inside => (heardOf fx).foldlM (Stay.step room) inside) = _
      rw [Stay.step_here, hout, hin]
      exact read_ofTimeline hfx fun _ => rfl

/-- **One call**: the machine reads on from the memberships before to those
after. -/
theorem Change.read {room : RoomId} {c c' : Classifier} {fx : List Effect}
    (h : Change room c c' fx) (r : RoomId) :
    (heardOf fx).foldlM (Stay.step r) (c.isJoined r) = some (c'.isJoined r) := by
  by_cases hr : r = room
  · subst hr
    exact h.read_here
  · rw [(h.others hr).1]
    refine foldlM_still fun x hx => ?_
    obtain ⟨news, rfl⟩ := h.heard x hx
    exact Stay.step_other (Ne.symm hr) _ news

/-- A membership that is taken over. -/
theorem read_restored (room : RoomId) (m : Membership) (c : Classifier) (r : RoomId) :
    [Happening.restored room m].foldlM (Stay.step r) (c.isJoined r) =
      some ((c.restore room m).isJoined r) := by
  show (Stay.step r (c.isJoined r) (.restored room m)).bind some = _
  rw [Option.bind_fun_some, isJoined_restore]
  refine congrArg some ?_
  by_cases hin : room = r ∧ m = .join
  · rw [if_pos hin, decide_eq_true ⟨hin.2, hin.1.symm⟩, Bool.true_or]
  · rw [if_neg hin, decide_eq_false fun h => hin ⟨h.2.symm, h.1⟩, Bool.false_or]

/-- **The calls of a batch**: the machine reads on through all of them. -/
theorem read_runAll (s : Services) {steps : List Step} :
    ∀ {known : List RoomId} {c : Classifier}, Ordered known steps →
      (∀ room ∈ known, c.isJoined room = true) → ∀ r,
      (heardOf (runAll s steps c).effects).foldlM (Stay.step r) (c.isJoined r) =
        some ((runAll s steps c).state.isJoined r) := by
  induction steps with
  | nil =>
      intro known c _ _ r
      rfl
  | cons x rest ih =>
      intro known c hordered hknown r
      have hchange := Step.change s fun room events hx =>
        hknown room (hordered.1 room events hx)
      have hrest := ih hordered.2 (x.joined_known s hknown) r
      show (heardOf ((x.run s c).effects ++ (runAll s rest (x.run s c).state).effects)).foldlM
        (Stay.step r) (c.isJoined r) = _
      rw [heardOf_append]
      exact foldlM_trans (hchange.read r) hrest

end Classifier

/-- Account data say nothing about stays. -/
theorem Cursor.read_accountSignals (b : Batch) (r : RoomId) (inside : Bool) :
    (b.accountSignals.map Happening.signal).foldlM (Stay.step r) inside = some inside := by
  refine foldlM_still fun y hy => ?_
  obtain ⟨x, hx, rfl⟩ := List.mem_map.1 hy
  rcases mem_accountSignals hx with ⟨v, rfl⟩ | ⟨room, v, rfl⟩
  · rfl
  · by_cases hr : room = r
    · rw [hr]
      exact Stay.step_here r inside _
    · exact Stay.step_other hr inside _

/-! ## §3. Runs. -/

open Classifier (runAll Ordered)

/-- The runs of one classifier, with all that could be known of it: memberships
are taken over from storage, and batches of either kind are taken in, with
whatever services. -/
inductive Run (user : UserId) : List Happening → Classifier → Prop
  | fresh : Run user [] { user }
  | restored {history : List Happening} {c : Classifier} (h : Run user history c) (room : RoomId)
      (m : Membership) : Run user (history ++ [.restored room m]) (c.restore room m)
  | cursorBatch {history : List Happening} {w : World} (h : Run user history w.classifier)
      (s : Services) (b : Cursor.Batch) :
      Run user (history ++ heardOf (Cursor.classify s b w).effects)
        (Cursor.classify s b w).state.classifier
  | windowBatch {history : List Happening} {session : Session Window.Engine}
      (h : Run user history session.world.classifier) (s : Services) (b : Window.Batch) :
      Run user (history ++ heardOf (Window.Engine.applyBatch s b session).effects)
        (Window.Engine.applyBatch s b session).state.world.classifier

/-- The moments of a run: between two batches, and inside a batch after any of
its calls. -/
inductive Moment (user : UserId) : List Happening → Classifier → Prop
  | between {history : List Happening} {c : Classifier} (h : Run user history c) :
      Moment user history c
  | inCursorBatch {history : List Happening} {c : Classifier} (h : Run user history c)
      (s : Services) (b : Cursor.Batch) {done : List Classifier.Step} (hdone : done <+: b.steps) :
      Moment user
        (history ++ (b.accountSignals.map .signal ++ heardOf (runAll s done c).effects))
        (runAll s done c).state
  | inWindowBatch {history : List Happening} {c : Classifier} (h : Run user history c)
      (s : Services) (lists : List Window.RoomList) (b : Window.Batch)
      {done : List Classifier.Step}
      (hdone : done <+: (Window.Engine.takeIn c.user lists b).2.map .windowed) :
      Moment user (history ++ heardOf (runAll s done c).effects) (runAll s done c).state

/-- The machine has read all of a run, and is where the memberships are. -/
theorem Run.read {user : UserId} {history : List Happening} {c : Classifier}
    (h : Run user history c) (r : RoomId) :
    history.foldlM (Stay.step r) false = some (c.isJoined r) := by
  induction h with
  | fresh => rfl
  | @restored history c _ room m ih =>
      exact foldlM_trans ih (Classifier.read_restored room m c r)
  | @cursorBatch history w _ s b ih =>
      rcases Cursor.classify_heard s b w with ⟨hfx, hstate⟩ | ⟨hfx, hstate⟩
      · rw [hfx, hstate, List.append_nil]
        exact ih
      · rw [hfx, hstate]
        refine foldlM_trans ih (foldlM_trans (Cursor.read_accountSignals b r _) ?_)
        exact Classifier.read_runAll s (Cursor.ordered_steps b []) (fun room hroom => by
          cases hroom) r
  | @windowBatch history session _ s b ih =>
      rw [Window.Engine.applyBatch_eq, Classifier.windowedAll_eq]
      refine foldlM_trans ih ?_
      show _ = some ((Classifier.windowedAll s _ session.world.classifier).state.isJoined r)
      rw [Classifier.windowedAll_eq]
      exact Classifier.read_runAll s (Classifier.ordered_windowed _ []) (fun room hroom => by
        cases hroom) r

theorem Moment.read {user : UserId} {history : List Happening} {c : Classifier}
    (h : Moment user history c) (r : RoomId) :
    history.foldlM (Stay.step r) false = some (c.isJoined r) := by
  cases h with
  | between h => exact h.read r
  | inCursorBatch h s b hdone =>
      have hordered := (Cursor.ordered_steps b []).initial hdone
      refine foldlM_trans (h.read r) (foldlM_trans (Cursor.read_accountSignals b r _) ?_)
      exact Classifier.read_runAll s hordered (fun room hroom => by cases hroom) r
  | inWindowBatch h s lists b hdone =>
      have hordered := (Classifier.ordered_windowed _ []).initial hdone
      refine foldlM_trans (h.read r) ?_
      exact Classifier.read_runAll s hordered (fun room hroom => by cases hroom) r

/-- **A join is announced once a stay, and timelines only during it.**  At any
moment a room is joined exactly if the last of join, restored join and leave is
none of the latter.  No join is announced while the last of them says that the
room is joined, so that between two joins there is a leave; and news of a
timeline are announced only while it says so. -/
theorem stays_are_announced {user : UserId} {history : List Happening} {c : Classifier}
    (h : Moment user history c) (r : RoomId) :
    (c.isJoined r = true ↔ Stay.lastWord history r = some true)
      ∧ (∀ done rest, history = done ++ .signal (.room r .joined) :: rest →
          Stay.lastWord done r ≠ some true)
      ∧ (∀ done mid rest,
          history = done ++ .signal (.room r .joined)
            :: (mid ++ .signal (.room r .joined) :: rest) →
          ∃ e, .signal (.room r (.left e)) ∈ mid)
      ∧ ∀ done news rest, news.fromTimeline = true →
          history = done ++ .signal (.room r news) :: rest →
          Stay.lastWord done r = some true := by
  have hread := h.read r
  refine ⟨?_, ?_, ?_, ?_⟩
  · rw [Stay.lastWord_of_read hread]
    exact Stay.getD_false_iff
  · intro done rest hsplit
    rw [hsplit] at hread
    obtain ⟨before, after, hbefore, hstep, -⟩ := foldlM_split hread
    -- a join is read only while the user is out
    rw [Stay.step_here] at hstep
    cases before with
    | true => cases hstep
    | false =>
        intro hlast
        have hout := Stay.lastWord_of_read hbefore
        rw [hlast] at hout
        cases hout
  · intro done mid rest hsplit
    rw [hsplit] at hread
    obtain ⟨before, after, before', after', hstep, hmid, hstep'⟩ := foldlM_between hread
    -- after the first join the user is in, before the second one out
    rw [Stay.step_here] at hstep hstep'
    cases before with
    | true => cases hstep
    | false =>
        cases before' with
        | true => cases hstep'
        | false =>
            obtain rfl := Option.some.inj hstep
            exact Stay.left_of_read hmid
  · intro done news rest hnews hsplit
    rw [hsplit] at hread
    obtain ⟨before, after, hbefore, hstep, -⟩ := foldlM_split hread
    rw [Stay.step_fromTimeline r before hnews] at hstep
    cases before with
    | false => cases hstep
    | true => exact Stay.getD_false_iff.1 (Stay.lastWord_of_read hbefore).symm

/-! ## §4. Two stays. -/

namespace TwoStays

def user : UserId := ⟨"@staying:x", by decide +kernel⟩

def room : RoomId := ⟨"!stay:x", by decide +kernel⟩

/-- A message. -/
def message : RoomEvent := { id := some "$1", type := "m.room.message" }

/-- The event with which the user left. -/
def leave : RoomEvent :=
  { type := "m.room.member"
    stateKey := some user.text
    content := .record [("membership", .string "leave")] }

/-- The user is in the room. -/
def first : Cursor.Batch :=
  { joined := Table.ofList [(room, { timeline := { events := [message] } })] }

/-- The user left the room and is in it again. -/
def second : Cursor.Batch :=
  { joined := Table.ofList [(room, {})]
    left := Table.ofList [(room, { timeline := { events := [leave] } })] }

/-- The worlds after the first batch and after both. -/
def worlds : World × World :=
  let w := (Cursor.classify {} first { classifier := { user } }).state
  (w, (Cursor.classify {} second w).state)

def history : List Happening :=
  heardOf (Cursor.classify {} first { classifier := { user } }).effects
    ++ heardOf (Cursor.classify {} second worlds.1).effects

theorem moment : Moment user history worlds.2.classifier :=
  .between ((Run.fresh.cursorBatch (w := { classifier := { user } }) {} first).cursorBatch
    (w := worlds.1) {} second)

end TwoStays

open TwoStays in
/-- The user is in the room twice, and leaves it once in between. -/
theorem leave_between_joins :
    Moment user history worlds.2.classifier
      ∧ worlds.2.classifier.isJoined room = true
      ∧ history = [] ++ .signal (.room room .joined)
          :: ([.signal (.room room (.message message)), .signal (.room room (.event message)),
              .signal (.room room (.left leave))]
            ++ .signal (.room room .joined) :: [])
      ∧ ∃ e, Happening.signal (.room room (.left e)) ∈
          [Happening.signal (.room room (.message message)),
            .signal (.room room (.event message)), .signal (.room room (.left leave))] := by
  obtain ⟨hjoined, -, hbetween, -⟩ := stays_are_announced moment room
  have hhistory : history = [] ++ .signal (.room room .joined)
      :: ([.signal (.room room (.message message)), .signal (.room room (.event message)),
          .signal (.room room (.left leave))]
        ++ .signal (.room room .joined) :: []) := by
    decide +kernel
  exact ⟨moment, hjoined.2 (by decide +kernel), hhistory, hbetween _ _ _ hhistory⟩

end RoomSync
