/-
  RoomSync.Proofs.Classifier.Repeats
  ──────────────────────────────────
  **PAYLOADS THAT ARE TAKEN IN AGAIN.**

  What a payload says is said once: a departure leaves nothing to depart from, an
  invite leaves an invited room, a join leaves a joined one, and the events of a
  timeline are remembered.  So a payload leaves the classifier in a state in which
  the same payload says nothing new (`Settled`):

      newEvents_noted         — events that are remembered are not new
      Reading.settled_take    — every payload leaves itself settled
      Reading.take_of_settled — a settled payload is silent, and stays settled
      settled_windowedAll     — so do payloads of different rooms, one after the other
      windowedAll_twice       — the same payloads twice

  Two things could undo it: another payload for the same room, and a timeline that
  is too long to be remembered.  That is why the rooms are different, and why the
  events of all timelines together are few (`Recency.Keeps`).
-/
import Mathlib.Data.List.Induction
import RoomSync.Proofs.Classifier.Histories
import RoomSync.Proofs.Classifier.Readings
import RoomSync.Proofs.Classifier.Timelines

namespace RoomSync

open Window (Payload)

namespace Classifier

variable (s : Services)

/-! ## §1. Timelines that are remembered. -/

/-- All events of a timeline have an id. -/
def Identified (events : List RoomEvent) : Prop := ∀ e ∈ events, e.id ≠ none

instance (events : List RoomEvent) : Decidable (Identified events) :=
  inferInstanceAs (Decidable (∀ e ∈ events, e.id ≠ none))

theorem mem_pairsOf {room : RoomId} {events : List RoomEvent} {e : RoomEvent} (he : e ∈ events)
    {id : String} (hid : e.id = some id) : (room, id) ∈ pairsOf room events :=
  List.mem_filterMap.2 ⟨e, he, by unfold pair?; rw [hid]; rfl⟩

/-- What is done again, without a word: nothing happens outside, the memberships stay,
and what was remembered still is. -/
structure Silent (among : Finset (RoomId × String)) (noted : List (RoomId × String))
    (c : Classifier) (o : Outcome Classifier Unit) : Prop where
  effects : o.effects = []
  user : o.state.user = c.user
  joined : o.state.joined = c.joined
  invited : o.state.invited = c.invited
  keeps : Recency.Keeps among noted o.state.seen

variable {among : Finset (RoomId × String)} {noted : List (RoomId × String)} {room : RoomId}
  {p : Payload} {c : Classifier}

theorem silent_none (hkeeps : Recency.Keeps among noted c.seen) :
    Silent among noted c ⟨c, [], ()⟩ := ⟨rfl, rfl, rfl, rfl, hkeeps⟩

theorem seen_joinedTimeline (room : RoomId) (events : List RoomEvent) (c : Classifier) :
    (joinedTimeline s room events c).state.seen = remembered room events c.seen := by
  cases hin : c.isJoined room with
  | true => rw [joinedTimeline_known s hin, seen_timeline]
  | false =>
      rw [joinedTimeline_new s hin]
      exact seen_timeline s room events (c.entered room)

section Timelines

variable (hfew : among.card ≤ memoryCapacity)

include hfew

/-- A timeline is remembered, together with what was. -/
theorem keeps_remembered {events : List RoomEvent} {seen : Memory}
    (hkeeps : Recency.Keeps among noted seen)
    (hamong : ∀ k ∈ pairsOf room events, k ∈ among) :
    Recency.Keeps among (pairsOf room events ++ noted) (remembered room events seen) := by
  rw [remembered_eq]
  exact hkeeps.noteAll hfew _ hamong

/-- **Events that are remembered are not new.** -/
theorem newEvents_noted {events : List RoomEvent} (hids : Identified events)
    (hnoted : pairsOf room events ⊆ noted) :
    ∀ {seen : Memory}, Recency.Keeps among noted seen → newEvents room events seen = [] := by
  induction events with
  | nil =>
      intro seen _
      rfl
  | cons e rest ih =>
      intro seen hkeeps
      obtain ⟨id, hid⟩ := Option.ne_none_iff_exists'.1 (hids e List.mem_cons_self)
      have hpair : (room, id) ∈ noted := hnoted (mem_pairsOf List.mem_cons_self hid)
      have hknown : (remember room e seen).2 = true := (remember_snd hid).2 (hkeeps.mem hpair)
      have hrest : pairsOf room rest ⊆ noted := fun k hk =>
        hnoted (((List.sublist_cons_self e rest).filterMap _).subset hk)
      -- the event is the most recent one now, and nothing was lost for it
      have hnote : (remember room e seen).1 = (seen.note (room, id)).1 := by
        unfold remember
        rw [hid]
      rw [newEvents_known hknown, hnote]
      refine ih (fun x hx => hids x (List.mem_cons_of_mem e hx)) hrest ?_
      exact (hkeeps.note hfew (hkeeps.mem_among hpair)).mono (List.subset_cons_self _ _)

/-- A timeline that is remembered is taken in without a word. -/
theorem silent_timeline {events : List RoomEvent} (hids : Identified events)
    (hkeeps : Recency.Keeps among noted c.seen) (hnoted : pairsOf room events ⊆ noted) :
    Silent among noted c (timeline s room events c) := by
  obtain ⟨huser, hjoined, hinvited⟩ := timeline_keeps s room events c
  have hseen : Recency.Keeps among (pairsOf room events ++ noted)
      (timeline s room events c).state.seen := by
    rw [seen_timeline]
    exact keeps_remembered hfew hkeeps fun k hk => hkeeps.mem_among (hnoted hk)
  refine ⟨?_, huser, hjoined, hinvited, hseen.mono (List.subset_append_right _ _)⟩
  rw [effects_timeline, newEvents_noted hfew hids hnoted hkeeps]
  rfl

end Timelines

/-! ## §2. One payload. -/

/-- A payload that is read so says nothing new: the membership is what it says, and
the timeline, if it counts, is remembered. -/
def Reading.Settled (room : RoomId) (events : List RoomEvent)
    (noted : List (RoomId × String)) (c : Classifier) : Reading → Prop
  | .departure _ => c.isJoined room = false ∧ c.isInvited room = false
  | .invitation _ => c.isJoined room = true ∨ c.isInvited room = true
  | .inside => c.isJoined room = true ∧ pairsOf room events ⊆ noted
  | .unspoken => c.isJoined room = true → pairsOf room events ⊆ noted

/-- It stays so while the room's memberships stay, whatever else is remembered. -/
theorem Reading.Settled.keeps {events : List RoomEvent} {noted' : List (RoomId × String)}
    {c' : Classifier} {rd : Reading} (h : rd.Settled room events noted c)
    (hjoined : c'.isJoined room = c.isJoined room)
    (hinvited : c'.isInvited room = c.isInvited room) (hsub : noted ⊆ noted') :
    rd.Settled room events noted' c' := by
  cases rd with
  | departure e => exact ⟨hjoined.trans h.1, hinvited.trans h.2⟩
  | invitation e => exact h.imp hjoined.trans hinvited.trans
  | inside => exact ⟨hjoined.trans h.1, List.Subset.trans h.2 hsub⟩
  | unspoken => exact fun hin => List.Subset.trans (h (hjoined.symm.trans hin)) hsub

section Readings

variable (hfew : among.card ≤ memoryCapacity)

include hfew

/-- **Every payload leaves itself settled**, however it is read. -/
theorem Reading.settled_take (rd : Reading) (hkeeps : Recency.Keeps among noted c.seen)
    (hamong : ∀ k ∈ pairsOf room p.timeline, k ∈ among) :
    ∃ noted', noted ⊆ noted' ∧ Recency.Keeps among noted' (rd.take s room p c).state.seen
      ∧ rd.Settled room p.timeline noted' (rd.take s room p c).state := by
  cases rd with
  | departure e =>
      refine ⟨noted, List.Subset.refl _, ?_⟩
      by_cases hknown : (c.isJoined room || c.isInvited room) = true
      · have htake : (departure e).take s room p c = announceLeave s room e c := if_pos hknown
        rw [htake]
        exact ⟨hkeeps, Table.contains_erase_self _ _, Table.contains_erase_self _ _⟩
      · have htake : (departure e).take s room p c = ⟨c, [], ()⟩ := if_neg hknown
        rw [Bool.or_eq_true, not_or, Bool.not_eq_true, Bool.not_eq_true] at hknown
        rw [htake]
        exact ⟨hkeeps, hknown⟩
  | invitation e =>
      refine ⟨noted, List.Subset.refl _, ?_⟩
      by_cases hknown : (c.isInvited room || c.isJoined room) = true
      · have htake : (invitation e).take s room p c = ⟨c, [], ()⟩ := if_pos hknown
        rw [htake]
        exact ⟨hkeeps, (Bool.or_eq_true_iff.1 hknown).symm⟩
      · have htake : (invitation e).take s room p c =
            announceInvite s room e (c.applyState room p.inviteState) := if_neg hknown
        rw [htake]
        exact ⟨hkeeps, .inr (Table.contains_insert_self _ _ _)⟩
  | inside =>
      refine ⟨pairsOf room p.timeline ++ noted, List.subset_append_right _ _, ?_, ?_, ?_⟩
      · show Recency.Keeps among _ (joinedTimeline s room p.timeline c).state.seen
        rw [seen_joinedTimeline]
        exact keeps_remembered hfew hkeeps hamong
      · show (joinedTimeline s room p.timeline c).state.isJoined room = true
        rw [isJoined_joinedTimeline, decide_eq_true rfl, Bool.true_or]
      · exact List.subset_append_left _ _
  | unspoken =>
      cases hin : c.isJoined room with
      | true =>
          have htake : unspoken.take s room p c = timeline s room p.timeline c := if_pos hin
          refine ⟨pairsOf room p.timeline ++ noted, List.subset_append_right _ _, ?_, fun _ => ?_⟩
          · rw [htake, seen_timeline]
            exact keeps_remembered hfew hkeeps hamong
          · exact List.subset_append_left _ _
      | false =>
          have htake : unspoken.take s room p c = ⟨c, [], ()⟩ :=
            if_neg (Bool.eq_false_iff.1 hin)
          refine ⟨noted, List.Subset.refl _, ?_, fun hin' => ?_⟩
          · rw [htake]
            exact hkeeps
          · rw [htake] at hin'
            exact absurd hin' (Bool.eq_false_iff.1 hin)

/-- **A settled payload is silent.** -/
theorem Reading.take_of_settled {rd : Reading} (hids : Identified p.timeline)
    (hkeeps : Recency.Keeps among noted c.seen) (h : rd.Settled room p.timeline noted c) :
    Silent among noted c (rd.take s room p c) := by
  cases rd with
  | departure e =>
      have htake : (departure e).take s room p c = ⟨c, [], ()⟩ := by
        refine if_neg ?_
        rw [h.1, h.2]
        exact Bool.false_ne_true
      rw [htake]
      exact silent_none hkeeps
  | invitation e =>
      have htake : (invitation e).take s room p c = ⟨c, [], ()⟩ :=
        if_pos (Bool.or_eq_true_iff.2 h.symm)
      rw [htake]
      exact silent_none hkeeps
  | inside =>
      have htake : inside.take s room p c = timeline s room p.timeline c :=
        joinedTimeline_known s h.1
      rw [htake]
      exact silent_timeline s hfew hids hkeeps h.2
  | unspoken =>
      cases hin : c.isJoined room with
      | true =>
          have htake : unspoken.take s room p c = timeline s room p.timeline c := if_pos hin
          rw [htake]
          exact silent_timeline s hfew hids hkeeps (h hin)
      | false =>
          have htake : unspoken.take s room p c = ⟨c, [], ()⟩ :=
            if_neg (Bool.eq_false_iff.1 hin)
          rw [htake]
          exact silent_none hkeeps

end Readings

/-! ## §3. Payloads of different rooms. -/

/-- A payload says nothing new. -/
def Settled (noted : List (RoomId × String)) (c : Classifier) (w : Word) : Prop :=
  (reading c.user w.1 w.2.2).Settled w.2.1 w.2.2.timeline noted c

/-- The pairs under which the events of some payloads are remembered. -/
def pairsOfAll (words : List Word) : List (RoomId × String) :=
  words.flatMap fun w => pairsOf w.2.1 w.2.2.timeline

section Payloads

variable (hfew : among.card ≤ memoryCapacity)

include hfew

/-- **One payload**: it is settled then, and those of other rooms stay so. -/
theorem settled_windowed (w : Word) (hkeeps : Recency.Keeps among noted c.seen)
    (hamong : ∀ k ∈ pairsOf w.2.1 w.2.2.timeline, k ∈ among) :
    let after := (windowed s w.2.1 w.1 w.2.2 c).state
    ∃ noted', noted ⊆ noted' ∧ Recency.Keeps among noted' after.seen ∧ Settled noted' after w
      ∧ ∀ w' : Word, w'.2.1 ≠ w.2.1 → Settled noted c w' → Settled noted' after w' := by
  intro after
  have huser : after.user = c.user := user_windowed s w.2.1 w.1 w.2.2 c
  have hafter : after = ((reading c.user w.1 w.2.2).take s w.2.1 w.2.2
      (c.applyState w.2.1 w.2.2.requiredState)).state :=
    congrArg Outcome.state (windowed_eq s w.2.1 w.1 w.2.2 c)
  obtain ⟨noted', hsub, hseen, hsettled⟩ := Reading.settled_take s hfew
    (c := c.applyState w.2.1 w.2.2.requiredState) (reading c.user w.1 w.2.2) hkeeps hamong
  rw [← hafter] at hseen hsettled
  refine ⟨noted', hsub, hseen, ?_, fun w' hother h => ?_⟩
  · unfold Settled
    rw [huser]
    exact hsettled
  · obtain ⟨hjoined, hinvited⟩ := (windowed_change s w.2.1 w.1 w.2.2 c).1.others hother
    unfold Settled
    rw [huser]
    exact h.keeps hjoined hinvited hsub

/-- **All payloads are settled** once they were taken in.  The induction is on the
payloads so far: the next one is of another room. -/
theorem settled_windowedAll {words : List Word} (hrooms : (words.map (·.2.1)).Nodup)
    (hamong : ∀ k ∈ pairsOfAll words, k ∈ among) (c : Classifier) :
    ∃ noted, Recency.Keeps among noted (windowedAll s words c).state.seen
      ∧ ∀ w ∈ words, Settled noted (windowedAll s words c).state w := by
  induction words using List.reverseRecOn with
  | nil => exact ⟨[], Recency.keeps_nil among c.seen, fun w hw => nomatch hw⟩
  | append_singleton words w ih =>
      rw [List.map_append, List.nodup_append] at hrooms
      unfold pairsOfAll at hamong ih
      rw [List.flatMap_append] at hamong
      obtain ⟨noted, hkeeps, hsettled⟩ :=
        ih hrooms.1 fun k hk => hamong k (List.mem_append_left _ hk)
      obtain ⟨noted', -, hkeeps', hlast, hothers⟩ := settled_windowed s hfew w hkeeps
        fun k hk => hamong k (List.mem_append_right _ (List.mem_flatMap.2 ⟨w, by simp, hk⟩))
      have hstate : (windowedAll s (words ++ [w]) c).state =
          (windowed s w.2.1 w.1 w.2.2 (windowedAll s words c).state).state :=
        Outcome.forEach_append_state _ words [w] c
      rw [hstate]
      refine ⟨noted', hkeeps', fun w' hw' => ?_⟩
      rcases List.mem_append.1 hw' with hw' | hw'
      · refine hothers w' ?_ (hsettled w' hw')
        exact hrooms.2.2 _ (List.mem_map_of_mem hw') _ (by simp)
      · rw [List.mem_singleton.1 hw']
        exact hlast

theorem silent_windowed {w : Word} (hids : Identified w.2.2.timeline)
    (hkeeps : Recency.Keeps among noted c.seen) (h : Settled noted c w) :
    Silent among noted c (windowed s w.2.1 w.1 w.2.2 c) := by
  have hsilent := Reading.take_of_settled s hfew
    (c := c.applyState w.2.1 w.2.2.requiredState) hids hkeeps h
  rw [windowed_eq]
  exact ⟨hsilent.effects, hsilent.user, hsilent.joined, hsilent.invited, hsilent.keeps⟩

/-- **Settled payloads are silent**, in any number: each leaves the memberships as they
are, so that the others are settled still. -/
theorem silent_windowedAll {words : List Word} (hids : ∀ w ∈ words, Identified w.2.2.timeline) :
    ∀ {c : Classifier}, Recency.Keeps among noted c.seen → (∀ w ∈ words, Settled noted c w) →
      Silent among noted c (windowedAll s words c) := by
  induction words with
  | nil =>
      intro c hkeeps _
      exact silent_none hkeeps
  | cons w rest ih =>
      intro c hkeeps hsettled
      have hfirst := silent_windowed s hfew (hids w List.mem_cons_self) hkeeps
        (hsettled w List.mem_cons_self)
      have hothers := ih (fun w' hw' => hids w' (List.mem_cons_of_mem w hw')) hfirst.keeps
        fun w' hw' => by
          unfold Settled
          rw [hfirst.user]
          exact (hsettled w' (List.mem_cons_of_mem w hw')).keeps
            (congrArg (·.contains w'.2.1) hfirst.joined)
            (congrArg (·.contains w'.2.1) hfirst.invited) (List.Subset.refl _)
      refine ⟨?_, hothers.user.trans hfirst.user, hothers.joined.trans hfirst.joined,
        hothers.invited.trans hfirst.invited, hothers.keeps⟩
      show (windowed s w.2.1 w.1 w.2.2 c).effects ++ _ = []
      rw [hfirst.effects]
      exact hothers.effects

end Payloads

/-- **The same payloads twice.**  Whatever the classifier knew: payloads of different
rooms, whose timeline events have ids and are few enough to be remembered, are silent
when they come again, and change no membership. -/
theorem windowedAll_twice {words : List Word} (hrooms : (words.map (·.2.1)).Nodup)
    (hids : ∀ w ∈ words, Identified w.2.2.timeline)
    (hfew : (pairsOfAll words).toFinset.card ≤ memoryCapacity) (c : Classifier) :
    let once := (windowedAll s words c).state
    let twice := windowedAll s words once
    twice.effects = [] ∧ twice.state.joined = once.joined
      ∧ twice.state.invited = once.invited := by
  intro once twice
  obtain ⟨noted, hkeeps, hsettled⟩ :=
    settled_windowedAll s hfew hrooms (fun k hk => List.mem_toFinset.2 hk) c
  have hsilent := silent_windowedAll s hfew hids hkeeps hsettled
  exact ⟨hsilent.effects, hsilent.joined, hsilent.invited⟩

end Classifier

end RoomSync
