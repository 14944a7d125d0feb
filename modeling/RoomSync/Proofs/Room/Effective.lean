/-
  RoomSync.Proofs.Room.Effective
  ──────────────────────────────
  **THE STATE OF A ROOM IS ITS HISTORY.**

  A room's state keeps its events in the order in which they took effect, and the ids
  of all that it was ever given.  Both are said here of the history alone: which of
  the events that came took effect (`History.Effective`), and which of these no later
  one of the same place replaced (`History.standing`), each with the number of events
  that took effect before it.  These numbers are distinct, so the order of a listing
  does not hang on the order in which a table is gone through:

      pwFilter_concat   — the last item of each key, when one more comes
      Represents.apply  — what one event does to a state and to its history
      represents_after  — the run lemma, by induction over the events
      sort_listing      — any listing, sorted by the numbers
      state_is_history  — the answers of a state, and what the next event does
-/
import Mathlib.Data.Finset.Card
import Mathlib.Data.List.Dedup
import Mathlib.Data.List.Induction
import Mathlib.Data.List.Pairwise
import RoomSync.Proofs.Room.Replays

namespace RoomSync

/-! ## §1. The last item of each key. -/

/-- Of several items the last one of each key, when one more comes: it stands last,
and of the others those of another key. -/
theorem pwFilter_concat {β κ : Type} [DecidableEq κ] (key : β → κ) (bs : List β) (b : β) :
    (bs ++ [b]).pwFilter (fun x y => key x ≠ key y) =
      (bs.pwFilter fun x y => key x ≠ key y).filter (key · ≠ key b) ++ [b] := by
  induction bs with
  | nil => rfl
  | cons x rest ih =>
      rw [List.cons_append]
      by_cases hx : key x = key b
      · -- the first one is replaced by the new one, if not by another
        have hlater : ¬ ∀ y ∈ (rest ++ [b]).pwFilter (fun x y => key x ≠ key y), key x ≠ key y := by
          rw [ih]
          exact fun h => h b (List.mem_append_right _ List.mem_cons_self) hx
        rw [List.pwFilter_cons_of_neg hlater, ih]
        by_cases hrest : ∀ y ∈ rest.pwFilter (fun x y => key x ≠ key y), key x ≠ key y
        · rw [List.pwFilter_cons_of_pos hrest, List.filter_cons_of_neg (by simpa using hx)]
        · rw [List.pwFilter_cons_of_neg hrest]
      · by_cases hrest : ∀ y ∈ rest.pwFilter (fun x y => key x ≠ key y), key x ≠ key y
        · have hlater : ∀ y ∈ (rest ++ [b]).pwFilter (fun x y => key x ≠ key y),
              key x ≠ key y := by
            rw [ih]
            intro y hy
            rcases List.mem_append.1 hy with hy | hy
            · exact hrest y (List.mem_filter.1 hy).1
            · rwa [List.mem_singleton.1 hy]
          rw [List.pwFilter_cons_of_pos hlater, List.pwFilter_cons_of_pos hrest, ih,
            List.filter_cons_of_pos (by simpa using hx), List.cons_append]
        · have hlater : ¬ ∀ y ∈ (rest ++ [b]).pwFilter (fun x y => key x ≠ key y),
              key x ≠ key y := by
            -- one that replaces the first has another key than the new one
            rw [ih]
            refine fun h => hrest fun y hy heq => ?_
            refine h y (List.mem_append_left _ (List.mem_filter.2 ⟨hy, ?_⟩)) heq
            exact decide_eq_true (heq ▸ hx)
          rw [List.pwFilter_cons_of_neg hlater, List.pwFilter_cons_of_neg hrest, ih]

namespace RoomState

/-! ## §2. Histories. -/

/-- The place of an event. -/
def place (e : RoomEvent) : String × Option String := (e.type, e.stateKey)

theorem isAt_iff_place {type key : String} {e : RoomEvent} :
    isAt type key e = true ↔ place e = (type, some key) := by
  rw [isAt_iff, place, Prod.mk.injEq]

/-- The events that came, and those of them that took effect, in order. -/
structure History where
  past : List RoomEvent := []
  effective : List RoomEvent := []

namespace History

/-- Whether an event takes effect after a history. -/
inductive Effective (h : History) (e : RoomEvent) : Prop
  /-- A state event with an id that no state event before it carried, of whatever
  type and key. -/
  | named {key id : String} (hkey : e.stateKey = some key) (hid : e.id = some id)
      (hnew : ∀ x ∈ h.past, x.isState = true → x.id ≠ some id)
  /-- A state event without an id, unless it is the last one of its place that took
  effect. -/
  | nameless {key : String} (hkey : e.stateKey = some key) (hid : e.id = none)
      (hother : lastAt e.type key h.effective ≠ some e)

/-- Only state events take effect. -/
theorem Effective.isState {h : History} {e : RoomEvent} (he : h.Effective e) :
    e.isState = true := by
  cases he with
  | named hkey => exact congrArg Option.isSome hkey
  | nameless hkey => exact congrArg Option.isSome hkey

theorem effective_named_iff {h : History} {e : RoomEvent} {key id : String}
    (hkey : e.stateKey = some key) (hid : e.id = some id) :
    h.Effective e ↔ ∀ x ∈ h.past, x.isState = true → x.id ≠ some id := by
  refine ⟨fun he => ?_, .named hkey hid⟩
  cases he with
  | named _ hid' hnew =>
      obtain rfl := Option.some.inj (hid.symm.trans hid')
      exact hnew
  | nameless _ hnone => exact absurd (hid.symm.trans hnone) (Option.some_ne_none id)

theorem effective_nameless_iff {h : History} {e : RoomEvent} {key : String}
    (hkey : e.stateKey = some key) (hid : e.id = none) :
    h.Effective e ↔ lastAt e.type key h.effective ≠ some e := by
  refine ⟨fun he => ?_, .nameless hkey hid⟩
  cases he with
  | named _ hsome => exact absurd (hsome.symm.trans hid) (Option.some_ne_none _)
  | nameless hkey' _ hother =>
      obtain rfl := Option.some.inj (hkey.symm.trans hkey')
      exact hother

/-- The same, computed. -/
def isEffective (h : History) (e : RoomEvent) : Bool :=
  match e.stateKey, e.id with
  | none, _ => false
  | some _, some id => h.past.all fun x => !(x.isState && decide (x.id = some id))
  | some key, none => decide (lastAt e.type key h.effective ≠ some e)

theorem isEffective_iff {h : History} {e : RoomEvent} :
    h.isEffective e = true ↔ h.Effective e := by
  unfold isEffective
  split
  next hkey =>
    refine iff_of_false Bool.false_ne_true fun he => ?_
    have hstate := he.isState
    rw [RoomEvent.isState, hkey] at hstate
    cases hstate
  next key id hkey hid =>
    rw [effective_named_iff hkey hid, List.all_eq_true]
    refine forall₂_congr fun x _ => ?_
    simp only [Bool.not_eq_true', Bool.and_eq_false_imp, decide_eq_false_iff_not, ne_eq]
  next key hkey hid => rw [effective_nameless_iff hkey hid, decide_eq_true_iff]

instance (h : History) (e : RoomEvent) : Decidable (h.Effective e) :=
  decidable_of_iff (h.isEffective e = true) isEffective_iff

/-- The history after one more event. -/
def record (h : History) (e : RoomEvent) : History where
  past := h.past ++ [e]
  effective := if h.Effective e then h.effective ++ [e] else h.effective

/-- The history of some events. -/
def of (es : List RoomEvent) : History := es.foldl record {}

/-- The events that took effect and stand, since none after them took their place;
each with the number of those that took effect before it. -/
def standing (h : History) : List (RoomEvent × Nat) :=
  h.effective.zipIdx.pwFilter fun a b => place a.1 ≠ place b.1

theorem of_concat (es : List RoomEvent) (e : RoomEvent) : of (es ++ [e]) = (of es).record e := by
  unfold of
  rw [List.foldl_append, List.foldl_cons, List.foldl_nil]

theorem past_of (es : List RoomEvent) : (of es).past = es := by
  induction es using List.reverseRecOn with
  | nil => rfl
  | append_singleton es e ih =>
      rw [of_concat]
      show (of es).past ++ [e] = es ++ [e]
      rw [ih]

theorem record_effective {h : History} {e : RoomEvent} (he : h.Effective e) :
    h.record e = ⟨h.past ++ [e], h.effective ++ [e]⟩ := by
  unfold record
  rw [if_pos he]

theorem record_other {h : History} {e : RoomEvent} (he : ¬ h.Effective e) :
    h.record e = ⟨h.past ++ [e], h.effective⟩ := by
  unfold record
  rw [if_neg he]

/-- An event that takes effect stands last, and the one that it replaces no more. -/
theorem standing_concat (past effective : List RoomEvent) (e : RoomEvent) :
    standing ⟨past, effective ++ [e]⟩ =
      (standing ⟨past, effective⟩).filter (place ·.1 ≠ place e) ++ [(e, effective.length)] := by
  unfold standing
  dsimp only
  rw [List.zipIdx_append, Nat.zero_add]
  exact pwFilter_concat (fun a : RoomEvent × Nat => place a.1) _ _

/-- The events that stand are the last ones of their places. -/
theorem map_standing (h : History) :
    h.standing.map (·.1) = h.effective.pwFilter fun a b => place a ≠ place b := by
  have hmap := List.pwFilter_map (R := fun a b => place a ≠ place b) Prod.fst h.effective.zipIdx
  rw [List.zipIdx_map_fst] at hmap
  exact hmap.symm

/-- They stand in the order of their numbers. -/
theorem pairwise_standing (h : History) : h.standing.Pairwise fun a b => a.2 < b.2 := by
  have hnumbers : (h.effective.zipIdx.map (·.2)).Pairwise (· < ·) := by
    rw [List.zipIdx_map_snd]
    exact List.pairwise_lt_range'
  exact (List.pairwise_map.1 hnumbers).sublist (List.pwFilter_sublist _)

/-- **Any listing of them**, once it is sorted by the numbers, is in this order. -/
theorem sort_listing {h : History} {listing : List (RoomEvent × Nat)}
    (hlisting : listing.Perm h.standing) :
    listing.mergeSort (fun a b => a.2 ≤ b.2) = h.standing := by
  have hsorted : (listing.mergeSort fun a b => a.2 ≤ b.2).Pairwise fun a b => a.2 ≤ b.2 := by
    have hmerged := @List.pairwise_mergeSort _ (fun a b : RoomEvent × Nat => decide (a.2 ≤ b.2))
      (by simpa using fun a b c => Nat.le_trans) (by simpa using fun a b => Nat.le_total _ _)
      listing
    simpa using hmerged
  have hperm := (List.mergeSort_perm listing fun a b => a.2 ≤ b.2).trans hlisting
  refine hperm.eq_of_pairwise (fun a b ha hb hab hba => ?_) hsorted
    (h.pairwise_standing.imp Nat.le_of_lt)
  -- two entries of one number are one entry
  have hnumber : a.2 = b.2 := Nat.le_antisymm hab hba
  by_contra hne
  have : Std.Symm fun a b : RoomEvent × Nat => a.2 ≠ b.2 := ⟨fun _ _ h => h.symm⟩
  exact (h.pairwise_standing.imp Nat.ne_of_lt).forall (hperm.subset ha) hb hne hnumber

/-- The number of events that stand is that of the places that were taken. -/
theorem length_standing (h : History) :
    h.standing.length = (h.effective.map place).toFinset.card := by
  have hplaces := List.pwFilter_map (R := (· ≠ ·)) place h.effective
  rw [List.card_toFinset, List.dedup, hplaces, List.length_map, ← map_standing, List.length_map]

end History

/-! ## §3. A state and its history. -/

/-- What a state keeps of a history. -/
structure Represents (s : RoomState) (h : History) : Prop where
  ids : ∀ id, s.appliedIds.contains id = true ↔ ∃ x ∈ h.past, x.isState = true ∧ x.id = some id
  lookups : ∀ type key, s.get? type key = lastAt type key h.effective
  events : s.events = h.standing.map (·.1)

theorem represents_empty : Represents {} {} where
  ids := by simp
  lookups := fun _ _ => rfl
  events := rfl

/-- The events of a state, once one is put in its place. -/
theorem events_put {s : RoomState} {h : History} (hs : Represents s h) {e : RoomEvent}
    {key : String} (hkey : e.stateKey = some key) :
    (s.put key e).events = (History.standing ⟨h.past ++ [e], h.effective ++ [e]⟩).map (·.1) := by
  have hplace : ∀ x, (!isAt e.type key x) = decide (place x ≠ place e) := by
    intro x
    rw [Bool.eq_iff_iff, Bool.not_eq_true', ← Bool.not_eq_true, isAt_iff_place,
      decide_eq_true_iff, place, place, hkey]
  rw [History.standing_concat, List.map_append]
  show s.events.filter (!isAt e.type key ·) ++ [e] = _
  rw [funext hplace, hs.events, List.filter_map]
  rfl

theorem lookups_put {s : RoomState} {h : History} (hs : Represents s h) {e : RoomEvent}
    {key : String} (hkey : e.stateKey = some key) (type' key' : String) :
    (s.put key e).get? type' key' = lastAt type' key' (h.effective ++ [e]) := by
  rw [get?_put s hkey, lastAt_append, hs.lookups, lastAt_cons]
  cases isAt type' key' e <;> rfl

/-- The answer of a state to an event. -/
theorem Represents.changed_iff {s : RoomState} {h : History} (hs : Represents s h)
    (e : RoomEvent) : (s.apply e).2 = true ↔ h.Effective e := by
  unfold RoomState.apply
  cases hkey : e.stateKey with
  | none =>
      refine iff_of_false Bool.false_ne_true fun he => ?_
      have hstate := he.isState
      rw [RoomEvent.isState, hkey] at hstate
      cases hstate
  | some key =>
      cases hid : e.id with
      | some id =>
          have hknown : s.appliedIds.contains id = true ↔ ¬ h.Effective e := by
            rw [hs.ids, History.effective_named_iff hkey hid]
            push Not
            rfl
          dsimp only
          split
          next hold => exact iff_of_false Bool.false_ne_true (hknown.1 hold)
          next hnew => exact iff_of_true rfl (not_not.1 (mt hknown.2 hnew))
      | none =>
          rw [History.effective_nameless_iff hkey hid, ← hs.lookups]
          dsimp only
          split
          next hstands => exact iff_of_false Bool.false_ne_true (not_not.2 hstands)
          next hother => exact iff_of_true rfl hother

/-- **What one event does** to a state and to its history. -/
theorem Represents.apply {s : RoomState} {h : History} (hs : Represents s h) (e : RoomEvent) :
    Represents (s.apply e).1 (h.record e) := by
  have hids : ∀ id, (s.apply e).1.appliedIds.contains id = true ↔
      ∃ x ∈ h.past ++ [e], x.isState = true ∧ x.id = some id := by
    intro id
    simp only [List.mem_append, List.mem_singleton, or_and_right, exists_or, exists_eq_left]
    rw [← hs.ids]
    by_cases hself : e.isState = true ∧ e.id = some id
    · exact iff_of_true (contains_apply_self s hself.1 hself.2) (.inr hself)
    · rw [or_iff_left hself]
      by_cases hid : e.id = some id
      · -- an event that is no state is not applied
        have hunchanged : (s.apply e).2 = false := by
          rw [← Bool.not_eq_true, hs.changed_iff]
          exact fun he => hself ⟨he.isState, hid⟩
        rw [apply_of_unchanged hunchanged]
      · rw [appliedIds_apply s e hid]
  by_cases heffective : h.Effective e
  · rw [History.record_effective heffective]
    obtain ⟨key, hkey, hput⟩ : ∃ key, e.stateKey = some key
        ∧ (s.apply e).1.events = (s.put key e).events := by
      have hchanged := (hs.changed_iff e).2 heffective
      unfold RoomState.apply at hchanged ⊢
      split at hchanged
      next => cases hchanged
      next key id hkey _ =>
        split at hchanged
        next => cases hchanged
        next hnew => exact ⟨key, hkey, by rw [if_neg hnew]⟩
      next key hkey _ =>
        split at hchanged
        next => cases hchanged
        next hother => exact ⟨key, hkey, by rw [if_neg hother]⟩
    refine ⟨hids, fun type' key' => ?_, hput.trans (events_put hs hkey)⟩
    rw [← lookups_put hs hkey]
    show (s.apply e).1.events.find? _ = _
    rw [hput]
    rfl
  · have hunchanged : (s.apply e).2 = false := by
      rw [← Bool.not_eq_true, hs.changed_iff]
      exact heffective
    rw [History.record_other heffective]
    refine ⟨hids, fun type' key' => ?_, ?_⟩
    · rw [apply_of_unchanged hunchanged]
      exact hs.lookups type' key'
    · rw [apply_of_unchanged hunchanged]
      exact hs.events

/-- The state of a room after some events. -/
def after (es : List RoomEvent) : RoomState := (applyAll {} es).1

theorem after_concat (es : List RoomEvent) (e : RoomEvent) :
    after (es ++ [e]) = ((after es).apply e).1 := applyAll_append es [e] {}

/-- **After any events**, the state is what it keeps of their history. -/
theorem represents_after (es : List RoomEvent) : Represents (after es) (.of es) := by
  induction es using List.reverseRecOn with
  | nil => exact represents_empty
  | append_singleton es e ih =>
      rw [after_concat, History.of_concat]
      exact ih.apply e

/-- The events of a history that took effect are state events. -/
theorem History.isState_of_effective (es : List RoomEvent) :
    ∀ x ∈ (History.of es).effective, x.isState = true := by
  induction es using List.reverseRecOn with
  | nil =>
      intro x hx
      cases hx
  | append_singleton es e ih =>
      intro x hx
      rw [of_concat] at hx
      by_cases heffective : (of es).Effective e
      · rw [record_effective heffective] at hx
        rcases List.mem_append.1 hx with hx | hx
        · exact ih x hx
        · obtain rfl := List.mem_singleton.1 hx
          exact heffective.isState
      · rw [record_other heffective] at hx
        exact ih x hx

/-- The events of a state stand in places of their own. -/
theorem pairwise_events (es : List RoomEvent) :
    (after es).events.Pairwise fun a b => place a ≠ place b := by
  rw [(represents_after es).events, History.map_standing]
  exact List.pairwise_pwFilter _

theorem sublist_events (es : List RoomEvent) :
    (after es).events.Sublist (History.of es).effective := by
  rw [(represents_after es).events, History.map_standing]
  exact List.pwFilter_sublist _

/-- What is listed is what the state answers somewhere. -/
theorem mem_events_iff (es : List RoomEvent) (e : RoomEvent) : e ∈ (after es).events ↔
    ∃ key, e.stateKey = some key ∧ (after es).get? e.type key = some e := by
  constructor
  · intro he
    have hstate := History.isState_of_effective es e ((sublist_events es).subset he)
    obtain ⟨key, hkey⟩ := Option.isSome_iff_exists.1 hstate
    refine ⟨key, hkey, ?_⟩
    have hat : isAt e.type key e = true := isAt_iff.2 ⟨rfl, hkey⟩
    obtain ⟨found, hfound⟩ : ∃ found, (after es).get? e.type key = some found :=
      Option.isSome_iff_exists.1 (List.find?_isSome.2 ⟨e, he, hat⟩)
    have hplace : place found = place e :=
      (isAt_iff_place.1 (List.find?_some hfound)).trans (isAt_iff_place.1 hat).symm
    have hsame : found = e := by
      have : Std.Symm fun a b : RoomEvent => place a ≠ place b := ⟨fun _ _ h => h.symm⟩
      by_contra hne
      exact (pairwise_events es).forall (List.mem_of_find?_eq_some hfound) he hne hplace
    rw [hfound, hsame]
  · rintro ⟨key, -, hget⟩
    exact List.mem_of_find?_eq_some hget

/-- **The state of a room is its history.**  After any events, the next one changes
the state exactly if it takes effect, and else nothing.  A type and key has the last
event that took effect there.  Listed are exactly these events, each place once, in
the order in which they took effect, in whatever order they are gone through to be
sorted; and there are as many as there are places.  An event whose id was ever
applied changes nothing any more. -/
theorem state_is_history (es : List RoomEvent) :
    (∀ e, ((after es).apply e).2 = true ↔ (History.of es).Effective e)
      ∧ (∀ e, ¬ (History.of es).Effective e → (after es).apply e = (after es, false))
      ∧ (∀ type key, (after es).get? type key = lastAt type key (History.of es).effective)
      ∧ (∀ e, e ∈ (after es).events ↔
          ∃ key, e.stateKey = some key ∧ (after es).get? e.type key = some e)
      ∧ ((after es).events.map place).Nodup
      ∧ (∀ listing : List (RoomEvent × Nat), listing.Perm (History.of es).standing →
          (listing.mergeSort fun a b => a.2 ≤ b.2).map (·.1) = (after es).events)
      ∧ (after es).size = ((History.of es).effective.map place).toFinset.card
      ∧ (∀ x ∈ es, x.isState = true → ∀ id, x.id = some id → ∀ e : RoomEvent, e.id = some id →
          (after es).apply e = (after es, false)) := by
  have hs := represents_after es
  have hunchanged : ∀ e, ¬ (History.of es).Effective e →
      (after es).apply e = (after es, false) := by
    intro e he
    refine apply_of_unchanged ?_
    rw [← Bool.not_eq_true, hs.changed_iff]
    exact he
  refine ⟨hs.changed_iff, hunchanged, hs.lookups, mem_events_iff es,
    List.pairwise_map.2 (pairwise_events es), ?_, ?_, ?_⟩
  · intro listing hlisting
    rw [History.sort_listing hlisting, hs.events]
  · rw [size, hs.events, List.length_map, History.length_standing]
  · intro x hx hstate id hid e heid
    refine hunchanged e fun he => ?_
    obtain ⟨key, hkey⟩ := Option.isSome_iff_exists.1 he.isState
    have hnew := (History.effective_named_iff hkey heid).1 he
    rw [History.past_of] at hnew
    exact hnew x hx hstate hid

/-! ## §4. A topic under the id of a name. -/

/-- The topic of a room, as an event with an id. -/
def sentTopic (id topic : String) : RoomEvent where
  id := some id
  type := "m.room.topic"
  stateKey := some ""
  content := .object [("topic", .string topic)]

open StateCache.Replayed in
/-- A name, a topic, and a name that is told without an id.  The topic stands first,
since the name changed after it, also where the two are listed the other way round.
A topic under the id of the first name is passed over. -/
theorem topic_under_known_id :
    let es := [sent "$name" "first", sentTopic "$topic" "one", told "second"]
    (after es).events = [sentTopic "$topic" "one", told "second"]
      ∧ (after es).get? "m.room.name" "" = some (told "second")
      ∧ ([(told "second", 2), (sentTopic "$topic" "one", 1)].mergeSort
            fun a b => a.2 ≤ b.2).map (·.1) = (after es).events
      ∧ (after es).size = 2
      ∧ (after es).apply (told "second") = (after es, false)
      ∧ (after es).apply (sentTopic "$name" "two") = (after es, false) := by
  intro es
  obtain ⟨-, hpassed, hlookups, -, -, hlisting, hsize, hknown⟩ := state_is_history es
  refine ⟨by decide +kernel, (hlookups _ _).trans (by decide +kernel), hlisting _ ?_,
    hsize.trans (by decide +kernel), hpassed _ (by decide +kernel), ?_⟩
  · have hstanding : (History.of es).standing =
        [(sentTopic "$topic" "one", 1), (told "second", 2)] := by decide +kernel
    rw [hstanding]
    exact List.Perm.swap _ _ _
  · exact hknown (sent "$name" "first") List.mem_cons_self rfl "$name" rfl _ rfl

end RoomState

end RoomSync
