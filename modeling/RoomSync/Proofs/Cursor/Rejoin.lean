/-
  RoomSync.Proofs.Cursor.Rejoin
  ─────────────────────────────
  **WHAT IS KNOWN OF A ROOM THAT IS JOINED AGAIN.**

  To leave a room drops its state, but not the memory of its timeline.  When the
  room is joined again its state is built up from the batch alone, and the events
  of the timeline that are still remembered are left out:

      Gone.dropped    — nothing is known of a room that was left
      stateOf_joined  — the state that a batch builds up
      Past.delivered  — what is remembered was in an earlier batch
      rejoined_state  — the last event of a place stands there exactly if it is
                        no remembered event of the timeline

  An event of the room's state is never left out, nor is an event that no
  earlier batch held (`Past`).  The state of a room is gone once its departure
  was announced, as long as no batch mentions the room again (`Gone`).
-/
import RoomSync.Proofs.Classifier.Timelines
import RoomSync.Proofs.Cursor.Writes

namespace RoomSync.Cursor

open Classifier (Memory newEvents remembered)
open RoomState (lastAt)

variable (s : Services)

/-! ## §1. The rooms of a batch. -/

/-- The memory after the timelines of some rooms. -/
def rememberedAll (entries : List (RoomId × RoomUpdate)) (seen : Memory) : Memory :=
  entries.foldl (fun seen e => remembered e.1 e.2.timeline.events seen) seen

theorem seen_classifyJoined (entry : RoomId × RoomUpdate) (c : Classifier) :
    (classifyJoined s entry c).state.seen =
      remembered entry.1 entry.2.timeline.events c.seen := by
  refine (Classifier.seen_timeline s entry.1 entry.2.timeline.events _).trans ?_
  show remembered entry.1 _ (Classifier.join entry.1 c).state.seen = _
  rw [(Classifier.join_keeps entry.1 c).1]

theorem cache_classifyJoined {r : RoomId} {entry : RoomId × RoomUpdate} (hr : r ≠ entry.1)
    (c : Classifier) : (classifyJoined s entry c).state.cache.get? r = c.cache.get? r := by
  refine (Classifier.cache_timeline s hr entry.2.timeline.events _).trans ?_
  rw [Classifier.cache_applyState hr, (Classifier.join_keeps entry.1 c).2]

/-- The state of a room that the user is in: the batch's state is applied, and
then the new events of its timeline. -/
theorem stateOf_classifyJoined (entry : RoomId × RoomUpdate) (c : Classifier) :
    (classifyJoined s entry c).state.cache.stateOf entry.1 =
      ((c.cache.stateOf entry.1).applyAll
        (entry.2.state ++ newEvents entry.1 entry.2.timeline.events c.seen)).1 := by
  obtain ⟨hseen, hcache⟩ := Classifier.join_keeps entry.1 c
  refine (Classifier.stateOf_timeline s entry.1 entry.2.timeline.events _).trans ?_
  show ((StateCache.stateOf (StateCache.apply (Classifier.join entry.1 c).state.cache entry.1
    entry.2.state).1 entry.1).applyAll
      (newEvents entry.1 _ (Classifier.join entry.1 c).state.seen)).1 = _
  rw [StateCache.stateOf_apply, hseen, hcache, RoomState.applyAll_append]

/-! ## §2. The memory. -/

theorem seen_departures (entries : List (RoomId × RoomUpdate)) (c : Classifier) :
    (departures s entries c).state.seen = c.seen :=
  Outcome.forEach_keeps _ (fun c : Classifier => c.seen)
    (fun e => Classifier.seen_leave s e.1 e.2.timeline.events) entries c

theorem seen_invitations (entries : List (RoomId × List RoomEvent)) (c : Classifier) :
    (invitations s entries c).state.seen = c.seen :=
  Outcome.forEach_keeps _ (fun c : Classifier => c.seen)
    (fun e => Classifier.seen_invite s e.1 e.2) entries c

theorem seen_presences (entries : List (RoomId × RoomUpdate)) :
    ∀ c : Classifier, (presences s entries c).state.seen = rememberedAll entries c.seen := by
  induction entries with
  | nil =>
      intro c
      rfl
  | cons entry rest ih =>
      intro c
      show (presences s rest (classifyJoined s entry c).state).state.seen = _
      rw [ih, seen_classifyJoined]
      rfl

/-- Whatever is remembered after some timelines was remembered before, or stood
in one of them. -/
theorem mem_rememberedAll {entries : List (RoomId × RoomUpdate)} {k : RoomId × String} :
    ∀ {seen : Memory}, k ∈ (rememberedAll entries seen).keys →
      k ∈ seen.keys ∨ ∃ entry ∈ entries, entry.1 = k.1
        ∧ ∃ e ∈ entry.2.timeline.events, e.id = some k.2 := by
  induction entries with
  | nil =>
      intro seen h
      exact .inl h
  | cons entry rest ih =>
      intro seen h
      rcases ih h with h | ⟨entry', hentry', hroom, hevent⟩
      · rcases Classifier.mem_remembered h with h | ⟨hroom, hevent⟩
        · exact .inl h
        · exact .inr ⟨entry, List.mem_cons_self, hroom.symm, hevent⟩
      · exact .inr ⟨entry', List.mem_cons_of_mem _ hentry', hroom, hevent⟩

/-- The memory when a batch comes to the timeline of a room: the rooms before it
come first. -/
def Batch.memoryAt (b : Batch) (r : RoomId) (seen : Memory) : Memory :=
  rememberedAll (b.joined.entries.takeWhile fun e => e.1 ≠ r) seen

/-- The other rooms of a batch add nothing that is remembered of this one. -/
theorem mem_memoryAt {b : Batch} {r : RoomId} {id : String} {seen : Memory}
    (h : (r, id) ∈ (b.memoryAt r seen).keys) : (r, id) ∈ seen.keys := by
  rcases mem_rememberedAll h with h | ⟨entry, hentry, hroom, -⟩
  · exact h
  · have hother := List.all_eq_true.1 List.all_takeWhile entry hentry
    exact absurd hroom (of_decide_eq_true hother)

/-! ## §3. The state of one room. -/

/-- A key that a table does not hold is not that of an entry. -/
theorem ne_of_get?_none {α : Type} {t : Table RoomId α} {r : RoomId} (h : t.get? r = none)
    {e : RoomId × α} (he : e ∈ t.entries) : r ≠ e.1 := by
  rintro rfl
  rw [Table.mem_entries.1 he] at h
  cases h

theorem cache_departures {b : Batch} {r : RoomId} (hleft : b.left.get? r = none)
    (c : Classifier) : (departures s b.left.entries c).state.cache.get? r = c.cache.get? r :=
  Outcome.forEach_keeps_of_mem _ (fun c : Classifier => c.cache.get? r) b.left.entries
    (fun e he => Classifier.cache_leave s (ne_of_get?_none hleft he) e.2.timeline.events) c

theorem cache_invitations {b : Batch} {r : RoomId} (hinvited : b.invited.get? r = none)
    (c : Classifier) : (invitations s b.invited.entries c).state.cache.get? r = c.cache.get? r :=
  Outcome.forEach_keeps_of_mem _ (fun c : Classifier => c.cache.get? r) b.invited.entries
    (fun e he => Classifier.cache_invite s (ne_of_get?_none hinvited he) e.2) c

theorem cache_presences {entries : List (RoomId × RoomUpdate)} {r : RoomId}
    (hr : ∀ e ∈ entries, r ≠ e.1) (c : Classifier) :
    (presences s entries c).state.cache.get? r = c.cache.get? r :=
  Outcome.forEach_keeps_of_mem _ (fun c : Classifier => c.cache.get? r) entries
    (fun e he => cache_classifyJoined s (hr e he)) c

/-- A batch that does not mention a room leaves its state. -/
theorem cache_unmentioned {b : Batch} {r : RoomId} (hleft : b.left.get? r = none)
    (hinvited : b.invited.get? r = none) (hjoined : b.joined.get? r = none) (c : Classifier) :
    (classifyRooms s b c).state.cache.get? r = c.cache.get? r := by
  rw [classifyRooms_eq]
  refine (cache_presences s (fun e he => ne_of_get?_none hjoined he) _).trans ?_
  rw [cache_invitations s hinvited, cache_departures s hleft]

/-- Where a room stands among those that the user is in. -/
theorem joined_split {b : Batch} {r : RoomId} {u : RoomUpdate} (hu : b.joined.get? r = some u) :
    ∃ before after, b.joined.entries = before ++ (r, u) :: after
      ∧ (∀ e ∈ before, r ≠ e.1) ∧ ∀ e ∈ after, r ≠ e.1 := by
  obtain ⟨before, after, hsplit⟩ := List.append_of_mem (Table.mem_entries.2 hu)
  exact ⟨before, after, hsplit, Table.others_of_split hsplit⟩

theorem memoryAt_split {b : Batch} {r : RoomId} {u : RoomUpdate}
    {before after : List (RoomId × RoomUpdate)}
    (hsplit : b.joined.entries = before ++ (r, u) :: after) (hbefore : ∀ e ∈ before, r ≠ e.1)
    (seen : Memory) : b.memoryAt r seen = rememberedAll before seen := by
  unfold Batch.memoryAt
  rw [hsplit, List.takeWhile_append_of_pos fun e he => decide_eq_true (hbefore e he).symm,
    List.takeWhile_cons_of_neg (by simp), List.append_nil]

/-- **The state that a batch builds up** for a room of which nothing is known:
the batch's state, then the new events of the timeline. -/
theorem stateOf_presences {b : Batch} {r : RoomId} {u : RoomUpdate} {c : Classifier}
    (hu : b.joined.get? r = some u) (hdropped : c.cache.get? r = none) :
    (presences s b.joined.entries c).state.cache.stateOf r =
      (RoomState.applyAll {}
        (u.state ++ newEvents r u.timeline.events (b.memoryAt r c.seen))).1 := by
  obtain ⟨before, after, hsplit, hbefore, hafter⟩ := joined_split hu
  -- up to the room nothing is known of it, and the memory is that at its turn
  have hnone := (cache_presences s hbefore c).trans hdropped
  have hmemory := (seen_presences s before c).trans (memoryAt_split hsplit hbefore c.seen).symm
  have hrun : (presences s b.joined.entries c).state =
      (presences s after
        (classifyJoined s (r, u) (presences s before c).state).state).state := by
    unfold presences
    rw [hsplit, Outcome.forEach_append_state]
    rfl
  have hroom := stateOf_classifyJoined s (r, u) (presences s before c).state
  rw [StateCache.stateOf_none hnone, hmemory] at hroom
  rw [hrun, ← hroom]
  exact congrArg (·.getD {}) (cache_presences s hafter _)

theorem stateOf_joined {b : Batch} {r : RoomId} {u : RoomUpdate} {c : Classifier}
    (hleft : b.left.get? r = none) (hinvited : b.invited.get? r = none)
    (hu : b.joined.get? r = some u) (hdropped : c.cache.get? r = none) :
    (classifyRooms s b c).state.cache.stateOf r =
      (RoomState.applyAll {}
        (u.state ++ newEvents r u.timeline.events (b.memoryAt r c.seen))).1 := by
  have hnone : (invitations s b.invited.entries
      (departures s b.left.entries c).state).state.cache.get? r = none := by
    rw [cache_invitations s hinvited, cache_departures s hleft, hdropped]
  refine (stateOf_presences s hu hnone).trans ?_
  rw [seen_invitations, seen_departures]

/-! ## §4. Rooms that were left. -/

/-- Whether an effect announces that a room was left. -/
def Leaves (r : RoomId) (x : Effect) : Prop := ∃ e, x = .signal (.room r (.left e))

/-- A room of which nothing is known stays so while rooms are left. -/
theorem leave_dropped {r : RoomId} {c : Classifier} (hdropped : c.cache.get? r = none)
    (room : RoomId) (events : List RoomEvent) :
    (Classifier.leave s room events c).state.cache.get? r = none := by
  rcases Classifier.leave_cases s room events c with ⟨hstate, -⟩ | ⟨e, hstate, -⟩
  · rw [hstate, hdropped]
  · rw [hstate]
    show (c.cache.erase room).get? r = none
    rw [Table.get?_erase, hdropped, ite_self]

/-- To announce that a room was left forgets it. -/
theorem leave_announced {r room : RoomId} {x : Effect} (hx : Leaves r x)
    {events : List RoomEvent} {c : Classifier}
    (hin : x ∈ (Classifier.leave s room events c).effects) :
    (Classifier.leave s room events c).state.cache.get? r = none := by
  obtain ⟨e, rfl⟩ := hx
  rcases Classifier.leave_cases s room events c with ⟨-, hfx⟩ | ⟨e', hstate, hfx⟩
  · rw [hfx] at hin
    cases hin
  · rw [hfx] at hin
    cases List.mem_singleton.1 hin
    rw [hstate]
    exact (Table.get?_erase c.cache r r).trans (if_pos rfl)

/-- **A room whose departure is announced** is not known any more. -/
theorem dropped_departures {r : RoomId} {x : Effect} (hx : Leaves r x)
    {entries : List (RoomId × RoomUpdate)} :
    ∀ {c : Classifier}, c.cache.get? r = none ∨ x ∈ (departures s entries c).effects →
      (departures s entries c).state.cache.get? r = none := by
  induction entries with
  | nil =>
      intro c h
      exact h.resolve_right (by intro h; cases h)
  | cons entry rest ih =>
      intro c h
      refine ih ?_
      rcases h with hdropped | hin
      · exact .inl (leave_dropped s hdropped entry.1 entry.2.timeline.events)
      · rcases List.mem_append.1 hin with hin | hin
        · -- it is announced by this call, which forgets the room
          exact .inl (leave_announced s hx hin)
        · exact .inr hin

theorem invitations_quiet {r : RoomId} (entries : List (RoomId × List RoomEvent))
    (c : Classifier) : ∀ x ∈ (invitations s entries c).effects, ¬Leaves r x := by
  refine Outcome.forEach_effects _ (fun entry c x hx hleaves => ?_) entries c
  obtain ⟨e, rfl⟩ := hleaves
  have hx : _ ∈ (Classifier.invite s entry.1 entry.2 c).effects := hx
  rcases Classifier.invite_cases s entry.1 entry.2 c with ⟨-, hfx⟩ | ⟨e', -, hfx⟩ <;>
    rw [hfx] at hx
  · cases hx
  · cases List.mem_singleton.1 hx

theorem presences_quiet {r : RoomId} (entries : List (RoomId × RoomUpdate)) (c : Classifier) :
    ∀ x ∈ (presences s entries c).effects, ¬Leaves r x := by
  refine Outcome.forEach_effects _ (fun entry c x hx hleaves => ?_) entries c
  obtain ⟨e, rfl⟩ := hleaves
  rcases List.mem_append.1 hx with hx | hx
  · cases hin : c.isJoined entry.1 with
    | true =>
        rw [Classifier.join_known hin] at hx
        cases hx
    | false =>
        rw [Classifier.join_new hin] at hx
        cases List.mem_singleton.1 hx
  · cases (Classifier.ofTimeline_timeline s entry.1 _ _ _ hx).2

/-- A departure is announced of a room that was left. -/
theorem mem_departures {b : Batch} {r : RoomId} {x : Effect} (hx : Leaves r x) {c : Classifier}
    (h : x ∈ (announce s b c).effects) : x ∈ (departures s b.left.entries c).effects := by
  rcases List.mem_append.1 h with h | h
  · obtain ⟨e, rfl⟩ := hx
    obtain ⟨signal, hsignal, heq⟩ := List.mem_map.1 h
    cases heq
    rcases mem_accountSignals hsignal with ⟨v, heq⟩ | ⟨room, v, heq⟩ <;> cases heq
  · rw [classifyRooms_eq] at h
    rcases List.mem_append.1 h with h | h
    · rcases List.mem_append.1 h with h | h
      · exact h
      · exact absurd hx (invitations_quiet s _ _ x h)
    · exact absurd hx (presences_quiet s _ _ x h)

/-! ## §5. Histories. -/

/-- The batches that were classified one after the other, from a fresh classifier
on, with whatever services. -/
inductive Past (user : UserId) : List Batch → Classifier → Prop
  | fresh : Past user [] { user }
  | classified {batches : List Batch} {w : World} (h : Past user batches w.classifier)
      (s : Services) (b : Batch) :
      Past user (batches ++ [b]) (classify s b w).state.classifier

/-- The same, for a room whose departure one of the batches announced, and that no
batch has mentioned since. -/
inductive Gone (user : UserId) (r : RoomId) : List Batch → Classifier → Prop
  | left {batches : List Batch} {w : World} (h : Past user batches w.classifier) (s : Services)
      (b : Batch) (e : RoomEvent)
      (hleft : .signal (.room r (.left e)) ∈ (classify s b w).effects)
      (hinvited : b.invited.get? r = none) (hjoined : b.joined.get? r = none) :
      Gone user r (batches ++ [b]) (classify s b w).state.classifier
  | unmentioned {batches : List Batch} {w : World} (h : Gone user r batches w.classifier)
      (s : Services) (b : Batch) (hleft : b.left.get? r = none)
      (hinvited : b.invited.get? r = none) (hjoined : b.joined.get? r = none) :
      Gone user r (batches ++ [b]) (classify s b w).state.classifier

theorem Gone.past {user : UserId} {r : RoomId} {batches : List Batch} {c : Classifier}
    (h : Gone user r batches c) : Past user batches c := by
  induction h with
  | left h s b => exact h.classified s b
  | unmentioned _ s b _ _ _ ih => exact ih.classified s b

/-- **Nothing is known of a room that was left.** -/
theorem Gone.dropped {user : UserId} {r : RoomId} {batches : List Batch} {c : Classifier}
    (h : Gone user r batches c) : c.cache.get? r = none := by
  induction h with
  | @left batches w h s b e hleft hinvited hjoined =>
      obtain ⟨fx, hfx, ⟨e', hrefused⟩ | hdone⟩ := classify_cases s b
      · -- a batch that is refused announces nothing
        rw [hrefused] at hleft
        cases hfx _ hleft
      · rw [hdone] at hleft ⊢
        have hannounced := (List.mem_append.1 hleft).resolve_left fun h => by cases hfx _ h
        have hx : Leaves r (.signal (.room r (.left e))) := ⟨e, rfl⟩
        show (classifyRooms s b w.classifier).state.cache.get? r = none
        rw [classifyRooms_eq]
        refine (cache_presences s (fun e he => ne_of_get?_none hjoined he) _).trans ?_
        rw [cache_invitations s hinvited]
        exact dropped_departures s hx (.inr (mem_departures s hx hannounced))
  | @unmentioned batches w h s b hleft hinvited hjoined ih =>
      obtain ⟨fx, -, ⟨e', hrefused⟩ | hdone⟩ := classify_cases s b
      · rw [hrefused]
        exact ih
      · rw [hdone]
        exact (cache_unmentioned s hleft hinvited hjoined w.classifier).trans ih

/-- **Whatever is remembered** stood in the timeline of an earlier batch. -/
theorem Past.delivered {user : UserId} {batches : List Batch} {c : Classifier}
    (h : Past user batches c) {k : RoomId × String} (hk : k ∈ c.seen.keys) :
    ∃ b ∈ batches, ∃ u, b.joined.get? k.1 = some u ∧ ∃ e ∈ u.timeline.events, e.id = some k.2 := by
  induction h with
  | fresh => cases hk
  | @classified batches w h s b ih =>
      have hearlier : k ∈ w.classifier.seen.keys → ∃ b' ∈ batches ++ [b], ∃ u,
          b'.joined.get? k.1 = some u ∧ ∃ e ∈ u.timeline.events, e.id = some k.2 := by
        intro hk
        obtain ⟨b', hb', hu⟩ := ih hk
        exact ⟨b', List.mem_append_left _ hb', hu⟩
      obtain ⟨fx, -, ⟨e', hrefused⟩ | hdone⟩ := classify_cases s b
      · rw [hrefused] at hk
        exact hearlier hk
      · have hseen : (classify s b w).state.classifier.seen =
            rememberedAll b.joined.entries w.classifier.seen := by
          rw [hdone]
          show (classifyRooms s b w.classifier).state.seen = _
          rw [classifyRooms_eq]
          refine (seen_presences s b.joined.entries _).trans ?_
          rw [seen_invitations, seen_departures]
        rw [hseen] at hk
        rcases mem_rememberedAll hk with hk | ⟨entry, hentry, hroom, hevent⟩
        · exact hearlier hk
        · refine ⟨b, by simp, entry.2, ?_, hevent⟩
          rw [← hroom]
          exact Table.mem_entries.1 hentry

/-! ## §6. Joining again. -/

/-- Events with ids of their own, for a room of which nothing is known. -/
theorem unapplied_empty {es : List RoomEvent} (hids : ∀ e ∈ es, e.id ≠ none)
    (hdistinct : (es.map (·.id)).Nodup) : RoomState.Unapplied {} es := by
  refine ⟨fun e he => ?_, hdistinct⟩
  obtain ⟨id, hid⟩ := Option.ne_none_iff_exists'.1 (hids e he)
  exact ⟨id, hid, rfl⟩

/-- An event that no earlier batch held is a new one of its timeline. -/
theorem Past.new_of_undelivered {user : UserId} {r : RoomId} {past : List Batch}
    {c : Classifier} (h : Past user past c) (b : Batch) {events : List RoomEvent}
    {e : RoomEvent} (he : e ∈ events) (hid : e.id ≠ none)
    (hdistinct : (events.map (·.id)).Nodup)
    (hfresh : ∀ b' ∈ past, ∀ u', b'.joined.get? r = some u' →
      ∀ e' ∈ u'.timeline.events, e'.id ≠ e.id) :
    e ∈ newEvents r events (b.memoryAt r c.seen) := by
  obtain ⟨id, hid⟩ := Option.ne_none_iff_exists'.1 hid
  refine Classifier.mem_newEvents hid he hdistinct fun hseen => ?_
  obtain ⟨b', hb', u', hu', e', he', hid'⟩ := h.delivered (mem_memoryAt hseen)
  exact hfresh b' hb' u' hu' e' he' (hid'.trans hid.symm)

/-- **A room that is joined again.**  Nothing is known of it, as after it was left.
What then stands there of a type and state key is the last of the batch's state
and of the new events of its timeline.  So the last event of the batch stands
there exactly if it is one of the room's state or a new one of the timeline, which
it is if no earlier batch held it. -/
theorem rejoined_state {user : UserId} {r : RoomId} {past : List Batch} {w : World}
    (h : Past user past w.classifier) (hdropped : w.classifier.cache.get? r = none)
    {s : Services} {b : Batch} {u : RoomUpdate}
    (hok : (classify s b w).answer = .ok ()) (hu : b.joined.get? r = some u)
    (hleft : b.left.get? r = none) (hinvited : b.invited.get? r = none)
    (hids : ∀ e ∈ u.state ++ u.timeline.events, e.id ≠ none)
    (hdistinct : ((u.state ++ u.timeline.events).map (·.id)).Nodup) (type key : String) :
    let new := newEvents r u.timeline.events (b.memoryAt r w.classifier.seen)
    let found := (classify s b w).state.classifier.cache.state? r type key
    found = lastAt type key (u.state ++ new)
      ∧ ∀ e, lastAt type key (u.state ++ u.timeline.events) = some e →
          (found = some e ↔ e ∈ u.state ∨ e ∈ new)
            ∧ ((∀ b' ∈ past, ∀ u', b'.joined.get? r = some u' →
                ∀ e' ∈ u'.timeline.events, e'.id ≠ e.id) → found = some e) := by
  intro new found
  have hsub : (u.state ++ new).Sublist (u.state ++ u.timeline.events) :=
    (List.Sublist.refl _).append (Classifier.newEvents_sublist r _ _)
  have hfound : found = lastAt type key (u.state ++ new) := by
    have hunapplied : RoomState.Unapplied {} (u.state ++ new) :=
      unapplied_empty (fun e he => hids e (hsub.subset he)) (hdistinct.sublist (hsub.map _))
    obtain ⟨fx, -, ⟨e', hrefused⟩ | hdone⟩ := classify_cases s b
    · rw [hrefused] at hok
      cases hok
    · have hstate : (classify s b w).state.classifier = (classifyRooms s b w.classifier).state := by
        rw [hdone]
        rfl
      show (classify s b w).state.classifier.cache.state? r type key = _
      rw [hstate, StateCache.state?_eq, stateOf_joined s hleft hinvited hu hdropped,
        RoomState.get?_applyAll type key hunapplied]
      exact Option.or_none
  refine ⟨hfound, fun e hlast => ?_⟩
  have hiff : found = some e ↔ e ∈ u.state ∨ e ∈ new := by
    have hnodup : (u.state ++ u.timeline.events).Nodup :=
      List.Pairwise.of_map _ (fun a b hne heq => hne (heq ▸ rfl)) hdistinct
    rw [hfound, ← List.mem_append]
    exact ⟨RoomState.lastAt_mem, RoomState.lastAt_sublist hnodup hlast hsub⟩
  refine ⟨hiff, fun hfresh => hiff.2 ?_⟩
  have he := RoomState.lastAt_mem hlast
  rcases List.mem_append.1 he with hstate | htimeline
  · exact .inl hstate
  · have hdistinct : (u.timeline.events.map (·.id)).Nodup :=
      hdistinct.sublist ((List.sublist_append_right _ _).map _)
    exact .inr (h.new_of_undelivered b htimeline (hids e he) hdistinct hfresh)

/-! ## §7. A topic that is lost. -/

namespace LostTopic

def user : UserId := ⟨"@rejoining:x", by decide +kernel⟩

def room : RoomId := ⟨"!rejoined:x", by decide +kernel⟩

def topic : RoomEvent :=
  { id := some "$topic", type := "m.room.topic", stateKey := some "" }

def name : RoomEvent :=
  { id := some "$name", type := "m.room.name", stateKey := some "" }

/-- The event with which the user left. -/
def leave : RoomEvent :=
  { id := some "$leave"
    type := "m.room.member"
    stateKey := some user.text
    content := .record [("membership", .string "leave")] }

/-- The room gets its topic. -/
def first : Batch :=
  { joined := Table.ofList [(room, { timeline := { events := [topic] } })] }

/-- The user leaves. -/
def second : Batch :=
  { left := Table.ofList [(room, { timeline := { events := [leave] } })] }

/-- The user is back, and the homeserver sends the timeline from the topic on. -/
def third : Batch :=
  { joined := Table.ofList [(room, { timeline := { events := [topic, name] } })] }

def fresh : World := { classifier := { user } }

/-- The world in which the user has left. -/
def away : World := (classify {} second (classify {} first fresh).state).state

/-- The world in which the user is back. -/
def back : World := (classify {} third away).state

theorem gone : Gone user room [first, second] away.classifier :=
  .left (Past.fresh.classified (w := fresh) {} first) {} second leave
    (by decide +kernel) (by decide +kernel) (by decide +kernel)

end LostTopic

open LostTopic in
/-- The topic is the last one of the batch, and there is none in the state. -/
theorem rejoin_loses_topic :
    Gone user room [first, second] away.classifier
      ∧ away.classifier.cache.get? room = none
      ∧ (classify {} third away).answer = .ok ()
      ∧ third.joined.get? room = some { timeline := { events := [topic, name] } }
      ∧ third.left.get? room = none ∧ third.invited.get? room = none
      ∧ (∀ e ∈ [topic, name], e.id ≠ none) ∧ ([topic, name].map RoomEvent.id).Nodup
      ∧ lastAt "m.room.topic" "" ([] ++ [topic, name]) = some topic
      ∧ back.classifier.cache.state? room "m.room.topic" "" = none := by
  refine ⟨gone, gone.dropped, rfl, ?_, rfl, rfl, ?_, ?_, ?_, ?_⟩ <;> decide +kernel

open LostTopic in
/-- The name, which is new, stands there. -/
theorem rejoin_keeps_name :
    Gone user room [first, second] away.classifier
      ∧ back.classifier.cache.state? room "m.room.name" "" = some name
      ∧ (back.classifier.cache.state? room "m.room.topic" "" = some topic ↔
          topic ∈ [] ∨ topic ∈ [name]) := by
  have hu : third.joined.get? room = some { timeline := { events := [topic, name] } } := by
    decide +kernel
  have hids : ∀ e ∈ [] ++ [topic, name], e.id ≠ none := by
    decide +kernel
  have hdistinct : (([] ++ [topic, name]).map RoomEvent.id).Nodup := by
    decide +kernel
  have hnew : newEvents room [topic, name] (third.memoryAt room away.classifier.seen) =
      [name] := by
    decide +kernel
  have hstate := rejoined_state gone.past gone.dropped (s := {}) (b := third) rfl hu rfl rfl hids
    hdistinct
  obtain ⟨-, hname⟩ := hstate "m.room.name" ""
  obtain ⟨-, htopic⟩ := hstate "m.room.topic" ""
  refine ⟨gone, (hname name (by decide +kernel)).2 ?_, ?_⟩
  · -- the first batch holds the topic only, the second one nothing of the room
    intro b' hb' u' hu' e' he'
    have hfirst : first.joined.get? room = some { timeline := { events := [topic] } } := by
      decide +kernel
    rcases List.mem_cons.1 hb' with rfl | hb'
    · obtain rfl := Option.some.inj (hfirst.symm.trans hu')
      obtain rfl := List.mem_singleton.1 he'
      decide
    · obtain rfl := List.mem_singleton.1 hb'
      cases hu'
  · have hiff := (htopic topic (by decide +kernel)).1
    rw [← hnew]
    exact hiff

end RoomSync.Cursor
