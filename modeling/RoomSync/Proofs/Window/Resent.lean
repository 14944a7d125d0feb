/-
  RoomSync.Proofs.Window.Resent
  ─────────────────────────────
  **AN ANSWER THAT COMES AGAIN.**

  After a reconnect the homeserver may send a window once more.  An answer of
  windows alone says the same every time: which of them fit depends on how the lists
  are cut, which no answer changes, and not on what they hold.  So the same payloads
  reach the classifier, and those it has taken in already.

      applySync_snd       — what a SYNC touches, by its window alone
      listRun_words_congr — the payloads of an answer, by the kinds of the lists
      listRun_sublist     — they are among what the answer names
      takeIn_again        — the same answer brings the same payloads
      applyBatch_twice    — and is silent the second time

  An INSERT would move rooms, and an UPDATE find its room moved; here all operations
  are SYNCs.
-/
import Mathlib.Data.List.Nodup
import RoomSync.Proofs.Classifier.Repeats
import RoomSync.Proofs.Window.Batches
import RoomSync.Proofs.Window.Rebuilding

namespace RoomSync.Window

open Classifier (Word)

/-! ## §1. What an answer names. -/

def Operation.isSync : Operation → Bool
  | .sync _ _ _ => true
  | .insert _ _ _ | .update _ _ _ | .delete _ _ | .invalidate _ _ => false

/-- The rooms that an answer names. -/
def Batch.named (b : Batch) : List Touched := b.operations.flatMap (·.named)

/-- The pairs under which the timeline events of an answer are remembered. -/
def Batch.pairs (b : Batch) : List (RoomId × String) :=
  b.named.flatMap fun t => Classifier.pairsOf t.room t.payload.timeline

/-- An answer of windows that name every room once, with timelines that can be
remembered. -/
structure Batch.Resendable (b : Batch) : Prop where
  syncs : ∀ op ∈ b.operations, op.isSync = true
  distinct : (b.named.map (·.room)).Nodup
  identified : ∀ t ∈ b.named, Classifier.Identified t.payload.timeline
  few : b.pairs.toFinset.card ≤ memoryCapacity

/-- There are windows only, and each of them names its rooms once. -/
def WindowsOnly (ops : List Operation) : Prop :=
  ∀ op ∈ ops, op.isSync = true ∧ (op.named.map (·.room)).Nodup

theorem Batch.Resendable.windowsOnly {b : Batch} (h : b.Resendable) :
    WindowsOnly b.operations := by
  have hdistinct := h.distinct
  unfold Batch.named at hdistinct
  rw [List.map_flatMap, List.nodup_flatMap] at hdistinct
  exact fun op hop => ⟨h.syncs op hop, hdistinct.1 op hop⟩

/-! ## §2. One SYNC. -/

namespace RoomList

variable (user : UserId)

/-- **The rooms of a window**, each named once, are all touched in order. -/
theorem touched_foldl_place (rooms : List (Option Payload)) :
    ∀ b : Rebuild, ((rooms.filterMap named?).map (·.room)).Nodup →
      (∀ t ∈ rooms.filterMap named?, some t.room ∉ b.slots) →
      (rooms.foldl (Rebuild.place user) b).touched = b.touched ++ rooms.filterMap named? := by
  induction rooms with
  | nil =>
      intro b _ _
      exact (List.append_nil _).symm
  | cons entry rest ih =>
      intro b hdistinct hfresh
      rw [List.foldl_cons]
      cases hentry : named? entry with
      | none =>
          rw [List.filterMap_cons_none hentry] at hdistinct hfresh ⊢
          rw [place_skip user b fun t ht => by simp [hentry] at ht]
          exact ih _ hdistinct fun t ht => by simpa using hfresh t ht
      | some t =>
          rw [List.filterMap_cons_some hentry] at hdistinct hfresh ⊢
          rw [List.map_cons, List.nodup_cons] at hdistinct
          rw [place_take user b hentry (hfresh t List.mem_cons_self), ih _ hdistinct.2,
            List.append_assoc, List.singleton_append]
          -- the other rooms are none of the slots so far, and not this one
          intro t' ht'
          rw [List.mem_append, List.mem_singleton, not_or, Option.some_inj]
          refine ⟨hfresh t' (List.mem_cons_of_mem t ht'), fun hsame => hdistinct.1 ?_⟩
          exact List.mem_map.2 ⟨t', ht', hsame⟩

/-- **What a SYNC touches**, by its window and the cut of the list alone. -/
theorem applySync_snd (l : RoomList) (range : Nat × Nat) {rooms : List (Option Payload)}
    (hdistinct : ((rooms.filterMap named?).map (·.room)).Nodup) :
    (l.applySync user range rooms).2 =
      if l.fits range then .ok ((rooms.take (range.2 - range.1)).filterMap named?)
      else .error (.misfit range.1 range.2 l.pageSize) := by
  have htaken : (((rooms.take (range.2 - range.1)).filterMap named?).map (·.room)).Nodup :=
    hdistinct.sublist (((List.take_sublist _ rooms).filterMap named?).map _)
  unfold RoomList.applySync
  split
  next => exact congrArg Except.ok (touched_foldl_place user _ (l.beginRebuild range.1) htaken
      fun t _ => List.not_mem_nil)
  next => rfl

end RoomList

/-! ## §3. The payloads of an answer. -/

namespace Engine

variable (user : UserId)

/-- What a payload that reached the classifier was said of. -/
def touchedOf (w : Word) : Touched := ⟨w.2.1, w.2.2⟩

/-- **The payloads of a SYNC**, if its window fits. -/
theorem listStep_sync {list : Nat} {lists : List RoomList} {l : RoomList}
    (hget : lists[list]? = some l) (range : Nat × Nat) {rooms : List (Option Payload)}
    (hdistinct : ((rooms.filterMap named?).map (·.room)).Nodup) :
    (listStep user (.sync list range rooms) lists).2 =
      if l.fits range then
        ((rooms.take (range.2 - range.1)).filterMap named?).map fun t =>
          (l.behaviour, t.room, t.payload)
      else [] := by
  have htouched := RoomList.applySync_snd user l range hdistinct
  have hget : lists[(Operation.sync list range rooms).list]? = some l := hget
  unfold listStep
  rw [hget]
  dsimp only
  unfold RoomList.apply RoomList.applyCausal
  dsimp only
  cases hfits : l.fits range with
  | true =>
      rw [hfits, if_pos rfl] at htouched
      cases hsync : l.applySync user range rooms with
      | mk l' answer =>
          rw [hsync] at htouched
          cases htouched
          rfl
  | false =>
      rw [hfits, if_neg Bool.false_ne_true] at htouched
      cases hsync : l.applySync user range rooms with
      | mk l' answer =>
          rw [hsync] at htouched
          cases htouched
          rfl

/-- A SYNC brings the same payloads into lists of the same kinds. -/
theorem listStep_words_congr {op : Operation} (hsync : op.isSync = true)
    (hdistinct : (op.named.map (·.room)).Nodup) {lists lists' : List RoomList}
    (hkinds : lists.map (·.kind) = lists'.map (·.kind)) :
    (listStep user op lists).2 = (listStep user op lists').2 := by
  cases op with
  | insert | update | delete | invalidate => cases hsync
  | sync list range rooms =>
      have hsame : lists[list]?.map (·.kind) = lists'[list]?.map (·.kind) := by
        rw [← List.getElem?_map, hkinds, List.getElem?_map]
      cases hget : lists[list]? with
      | none =>
          rw [hget] at hsame
          have hget' : lists'[list]? = none := Option.map_eq_none_iff.1 hsame.symm
          rw [listStep_none user hget, listStep_none user hget']
      | some l =>
          rw [hget] at hsame
          obtain ⟨l', hget', hkind⟩ := Option.map_eq_some_iff.1 hsame.symm
          have hbehaviour : l'.behaviour = l.behaviour := congrArg Prod.fst hkind
          rw [listStep_sync user hget range hdistinct, listStep_sync user hget' range hdistinct,
            RoomList.fits_congr hkind, hbehaviour]

/-- **The payloads of windows** depend on the kinds of the lists alone. -/
theorem listRun_words_congr {ops : List Operation} (hwindows : WindowsOnly ops) :
    ∀ {lists lists' : List RoomList}, lists.map (·.kind) = lists'.map (·.kind) →
      (listRun user ops lists).2 = (listRun user ops lists').2 := by
  induction ops with
  | nil =>
      intro lists lists' _
      rfl
  | cons op rest ih =>
      intro lists lists' hkinds
      obtain ⟨hsync, hdistinct⟩ := hwindows op List.mem_cons_self
      have hfirst := listStep_words_congr user hsync hdistinct hkinds
      have hrest := ih (fun op' hop' => hwindows op' (List.mem_cons_of_mem op hop'))
        ((listStep_kinds user op lists).trans (hkinds.trans (listStep_kinds user op lists').symm))
      unfold listRun
      dsimp only
      rw [hfirst, hrest]

theorem listStep_sublist {op : Operation} (hsync : op.isSync = true)
    (hdistinct : (op.named.map (·.room)).Nodup) (lists : List RoomList) :
    ((listStep user op lists).2.map touchedOf).Sublist op.named := by
  cases op with
  | insert | update | delete | invalidate => cases hsync
  | sync list range rooms =>
      cases hget : lists[list]? with
      | none =>
          rw [listStep_none user hget]
          exact List.nil_sublist _
      | some l =>
          rw [listStep_sync user hget range hdistinct]
          split
          next =>
            have hback : touchedOf ∘ (fun t : Touched => (l.behaviour, t.room, t.payload)) = id :=
              rfl
            rw [List.map_map, hback, List.map_id]
            exact (List.take_sublist _ rooms).filterMap named?
          next => exact List.nil_sublist _

/-- **The payloads of windows** are among what the windows name. -/
theorem listRun_sublist {ops : List Operation} (hwindows : WindowsOnly ops) :
    ∀ lists : List RoomList,
      ((listRun user ops lists).2.map touchedOf).Sublist (ops.flatMap (·.named)) := by
  induction ops with
  | nil =>
      intro lists
      exact List.nil_sublist _
  | cons op rest ih =>
      intro lists
      obtain ⟨hsync, hdistinct⟩ := hwindows op List.mem_cons_self
      unfold listRun
      rw [List.flatMap_cons, List.map_append]
      exact (listStep_sublist user hsync hdistinct lists).append
        (ih (fun op' hop' => hwindows op' (List.mem_cons_of_mem op hop')) _)

section Resendable

variable {b : Batch} (h : b.Resendable) (lists : List RoomList)

include h

/-- **The same answer brings the same payloads.** -/
theorem takeIn_again : (takeIn user (takeIn user lists b).1 b).2 = (takeIn user lists b).2 := by
  refine listRun_words_congr user h.windowsOnly ?_
  rw [setTotals_kinds, setTotals_kinds, takeIn_kinds]

theorem takeIn_sublist : ((takeIn user lists b).2.map touchedOf).Sublist b.named :=
  listRun_sublist user h.windowsOnly (setTotals lists b.counts)

/-- The payloads are of different rooms. -/
theorem takeIn_rooms : ((takeIn user lists b).2.map (·.2.1)).Nodup := by
  have hrooms := h.distinct.sublist ((takeIn_sublist user h lists).map (·.room))
  rwa [List.map_map] at hrooms

theorem takeIn_identified :
    ∀ w ∈ (takeIn user lists b).2, Classifier.Identified w.2.2.timeline := fun w hw =>
  h.identified (touchedOf w) ((takeIn_sublist user h lists).subset (List.mem_map_of_mem hw))

/-- Their timelines can be remembered. -/
theorem takeIn_few :
    (Classifier.pairsOfAll (takeIn user lists b).2).toFinset.card ≤ memoryCapacity := by
  refine (Finset.card_le_card fun k hk => ?_).trans h.few
  obtain ⟨w, hw, hk⟩ := List.mem_flatMap.1 (List.mem_toFinset.1 hk)
  refine List.mem_toFinset.2 (List.mem_flatMap.2 ⟨touchedOf w, ?_, hk⟩)
  exact (takeIn_sublist user h lists).subset (List.mem_map_of_mem hw)

end Resendable

end Engine

/-! ## §4. The second time. -/

variable (s : Services)

open Engine

/-- After an answer that was taken in, whatever else happened to the session, the same
answer is silent. -/
theorem applyBatch_after {b : Batch} (h : b.Resendable) {session session' : Session Engine}
    (hlists : session'.loop.lists = (taken s b session).loop.lists)
    (hclassifier : session'.world.classifier = (taken s b session).world.classifier) :
    (applyBatch s b session').effects = []
      ∧ (applyBatch s b session').state.world.classifier.joined =
          session'.world.classifier.joined
      ∧ (applyBatch s b session').state.world.classifier.invited =
          session'.world.classifier.invited := by
  have htwice := Classifier.windowedAll_twice s
    (takeIn_rooms session.world.classifier.user h session.loop.lists)
    (takeIn_identified session.world.classifier.user h session.loop.lists)
    (takeIn_few session.world.classifier.user h session.loop.lists) session.world.classifier
  have huser : (taken s b session).world.classifier.user = session.world.classifier.user :=
    Classifier.user_windowedAll s _ _
  -- the payloads are those of the first time
  have hwords : (takeIn session'.world.classifier.user session'.loop.lists b).2 =
      (takeIn session.world.classifier.user session.loop.lists b).2 := by
    rw [hlists, hclassifier, huser]
    exact takeIn_again _ h session.loop.lists
  rw [applyBatch_eq]
  unfold taken
  dsimp only
  rw [hwords, hclassifier]
  exact htwice

/-- **An answer that comes twice in a row** is silent the second time.  If its
operations are all SYNCs and name each room once, and if the events of its timelines
have ids and are few enough to be remembered, then nothing is announced again, the
crypto engine is not asked again and no membership changes; so it is whether the answer
could be saved the first time or not.  It does not matter what was known before: which
lists and windows there are, what was joined or invited, and which events were
remembered. -/
theorem applyBatch_twice {b : Batch} (h : b.Resendable) (session : Session Engine) :
    let once := (applyBatch s b session).state
    let twice := applyBatch s b once
    twice.effects = []
      ∧ twice.state.world.classifier.joined = once.world.classifier.joined
      ∧ twice.state.world.classifier.invited = once.world.classifier.invited
      ∧ Effect.signals (process s b (process s b session).state).effects = [] := by
  intro once twice
  have honce : once = taken s b session :=
    congrArg Outcome.state (applyBatch_eq s b session)
  obtain ⟨heffects, hjoined, hinvited⟩ := applyBatch_after s h
    (congrArg (·.loop.lists) honce) (congrArg (·.world.classifier) honce)
  refine ⟨heffects, hjoined, hinvited, ?_⟩
  obtain ⟨hlists, hclassifier⟩ := process_taken s b session
  rw [signals_process, (applyBatch_after s h hlists hclassifier).1]
  rfl

/-! ## §5. A reconnect. -/

namespace Reconnect

def user : UserId := ⟨"@reconnecting:x", by decide +kernel⟩

def lobby : RoomId := ⟨"!lobby:x", by decide +kernel⟩

def former : RoomId := ⟨"!former:x", by decide +kernel⟩

def porch : RoomId := ⟨"!porch:x", by decide +kernel⟩

def attic : RoomId := ⟨"!attic:x", by decide +kernel⟩

def member (m : Membership) : RoomEvent :=
  { type := "m.room.member"
    stateKey := some user.text
    content := .record [("membership", .string m.name)] }

def greeting : RoomEvent := { id := some "$greeting", type := "m.room.message" }

/-- Two windows that fit, one that does not and one of a list that is not kept. -/
def answer : Batch where
  pos := "1"
  counts := [2, 1]
  operations := [
    .sync 0 (0, 3) [
      some { roomId := some lobby, timeline := [greeting, greeting] }, none,
      some { roomId := some former, requiredState := [member .leave] }],
    .sync 1 (0, 1) [some { roomId := some porch, inviteState := [member .invite] }],
    .sync 0 (1, 2) [some { roomId := some attic, timeline := [greeting] }],
    .sync 7 (0, 1) [none]]

/-- The user was in the former room. -/
def session : Session Engine :=
  let unprepared := Session.mk (.create { lists := [.joined, .invited] }) { classifier := { user } }
  let fresh := (prepare unprepared).state
  { fresh with world := { fresh.world with
      classifier := (Classifier.join former fresh.world.classifier).state } }

theorem resendable_answer : answer.Resendable :=
  ⟨by decide +kernel, by decide +kernel, by decide +kernel, by decide +kernel⟩

end Reconnect

open Reconnect in
/-- The first time, a join, a message, a departure and an invite are announced; the
second time nothing is. -/
theorem answer_after_reconnect :
    answer.Resendable
      ∧ Effect.signals (applyBatch {} answer session).effects =
          [.room lobby .joined, .room lobby (.message greeting), .room lobby (.event greeting),
            .room former (.left (member .leave)), .room porch (.invited (member .invite))]
      ∧ (applyBatch {} answer (applyBatch {} answer session).state).effects = [] := by
  obtain ⟨hsilent, -⟩ := applyBatch_twice {} resendable_answer session
  exact ⟨resendable_answer, by decide +kernel, hsilent⟩

end RoomSync.Window
