/-
  RoomSync.Proofs.Classifier.Locality
  ───────────────────────────────────
  **WHAT IS DONE ABOUT A ROOM STAYS IN THE ROOM.**

  The classifier keeps two sets of rooms, a table of states and one memory for
  all rooms.  An operation about a room is local to it (`Local`): it looks at
  nothing but what is known of that room, it changes nothing that is known of
  another one, and whatever it does outside is about that room.  Local operations
  may follow one another, and one of them may be chosen by what is known of the
  room (`Local.andThen`, `Local.choose`), so that each operation of the classifier
  is local because its parts are:

      AgreeOn             — two classifiers know the same of a room
      local_note          — remembering an event, while nothing is forgotten
      local_timeline      — a timeline
      local_leave, local_invite, local_join — one change of membership
      local_windowed      — a payload

  The memory is the one thing that rooms share.  It is local as long as the pairs
  that are ever noted all have a place in it.
-/
import RoomSync.Proofs.Classifier.Duplicates
import RoomSync.Proofs.Classifier.Histories

namespace RoomSync

/-- The room an effect is about, if there is one. -/
def Effect.room? : Effect → Option RoomId
  | .signal s => s.room?
  | .call (.decrypt room _) => some room
  | _ => none

theorem Effect.OfTimeline.room?_eq {room : RoomId} {x : Effect} (h : x.OfTimeline room) :
    x.room? = some room := by
  match x, h with
  | .signal (.room _ _), ⟨hroom, _⟩ => exact congrArg some hroom
  | .call (.decrypt _ _), hroom => exact congrArg some hroom

namespace Classifier

/-! ## §1. What is known of a room. -/

/-- Two classifiers of one user know the same of a room. -/
structure AgreeOn (room : RoomId) (c c' : Classifier) : Prop where
  user : c.user = c'.user
  joined : c.isJoined room = c'.isJoined room
  invited : c.isInvited room = c'.isInvited room
  state : c.cache.get? room = c'.cache.get? room
  seen : ∀ id, (room, id) ∈ c.seen.keys ↔ (room, id) ∈ c'.seen.keys

section Agreement

variable {room : RoomId} {c c' c'' : Classifier}

theorem AgreeOn.refl (room : RoomId) (c : Classifier) : AgreeOn room c c :=
  ⟨rfl, rfl, rfl, rfl, fun _ => Iff.rfl⟩

theorem AgreeOn.symm (h : AgreeOn room c c') : AgreeOn room c' c :=
  ⟨h.user.symm, h.joined.symm, h.invited.symm, h.state.symm, fun id => (h.seen id).symm⟩

theorem AgreeOn.trans (h : AgreeOn room c c') (h' : AgreeOn room c' c'') : AgreeOn room c c'' :=
  ⟨h.user.trans h'.user, h.joined.trans h'.joined, h.invited.trans h'.invited,
    h.state.trans h'.state, fun id => (h.seen id).trans (h'.seen id)⟩

end Agreement

/-! ## §2. Local operations. -/

/-- An operation is local to a room: what it does there is decided by what is known
there, and nothing of it is known of in other rooms.  It may note pairs of a set. -/
structure Local (among : Finset (RoomId × String)) (room : RoomId)
    (f : Classifier → Outcome Classifier Unit) : Prop where
  whole : ∀ {c}, c.seen.Whole among → (f c).state.seen.Whole among
  same : ∀ {c c'}, c.seen.Whole among → c'.seen.Whole among → AgreeOn room c c' →
    AgreeOn room (f c).state (f c').state ∧ (f c).effects = (f c').effects
  others : ∀ {c}, c.seen.Whole among → ∀ {r}, r ≠ room → AgreeOn r c (f c).state
  about : ∀ {c x}, x ∈ (f c).effects → x.room? = some room

section Combining

variable {among : Finset (RoomId × String)} {room : RoomId} {α : Type}
  {f g : Classifier → Outcome Classifier Unit}

/-- One operation, then the other. -/
def andThen (f g : Classifier → Outcome Classifier Unit) (c : Classifier) :
    Outcome Classifier Unit :=
  ⟨(g (f c).state).state, (f c).effects ++ (g (f c).state).effects, ()⟩

theorem Local.andThen (hf : Local among room f) (hg : Local among room g) :
    Local among room (andThen f g) where
  whole hc := hg.whole (hf.whole hc)
  same hc hc' h := by
    obtain ⟨hstate, hfirst⟩ := hf.same hc hc' h
    obtain ⟨hafter, hsecond⟩ := hg.same (hf.whole hc) (hf.whole hc') hstate
    refine ⟨hafter, ?_⟩
    show (f _).effects ++ (g _).effects = (f _).effects ++ (g _).effects
    rw [hfirst, hsecond]
  others hc _ hr := (hf.others hc hr).trans (hg.others (hf.whole hc) hr)
  about hx := by
    obtain hx | hx := List.mem_append.mp hx
    · exact hf.about hx
    · exact hg.about hx

/-- An operation that is chosen by what is known of the room. -/
theorem Local.choose (op : α → Classifier → Outcome Classifier Unit)
    (h : ∀ a, Local among room (op a)) (view : Classifier → α)
    (hview : ∀ {c c'}, AgreeOn room c c' → view c = view c') :
    Local among room (fun c => op (view c) c) where
  whole hc := (h _).whole hc
  same {c c'} hc hc' hagree := by
    rw [← hview hagree]
    exact (h (view c)).same hc hc' hagree
  others hc _ hr := (h _).others hc hr
  about hx := (h _).about hx

/-- One operation or the other, by what is known of the room. -/
theorem Local.ite (hf : Local among room f) (hg : Local among room g) (view : Classifier → Bool)
    (hview : ∀ {c c'}, AgreeOn room c c' → view c = view c') :
    Local among room (fun c => if view c then f c else g c) := by
  refine Local.choose (fun b c => if b then f c else g c) (fun b => ?_) view hview
  cases b with
  | true => exact hf
  | false => exact hg

/-- Nothing is done. -/
theorem local_none : Local among room (fun c => ⟨c, [], ()⟩) where
  whole hc := hc
  same _ _ hagree := ⟨hagree, rfl⟩
  others _ _ _ := .refl _ _
  about hx := nomatch hx

/-- An operation for the event that is found, if one is. -/
def onFound (op : RoomEvent → Classifier → Outcome Classifier Unit) :
    Option RoomEvent → Classifier → Outcome Classifier Unit
  | none, c => ⟨c, [], ()⟩
  | some e, c => op e c

theorem Local.onFound {op : RoomEvent → Classifier → Outcome Classifier Unit}
    (h : ∀ e, Local among room (op e)) (view : Classifier → Option RoomEvent)
    (hview : ∀ {c c'}, AgreeOn room c c' → view c = view c') :
    Local among room (fun c => onFound op (view c) c) := by
  refine Local.choose (Classifier.onFound op) (fun found => ?_) view hview
  cases found with
  | none => exact local_none
  | some e => exact h e

/-- One operation for every element in turn. -/
theorem local_forEach {op : α → Classifier → Outcome Classifier Unit} (as : List α)
    (h : ∀ a ∈ as, Local among room (op a)) : Local among room (Outcome.forEach op as) := by
  induction as with
  | nil => exact local_none
  | cons a rest ih =>
    exact (h a List.mem_cons_self).andThen (ih fun b hb => h b (List.mem_cons_of_mem _ hb))

end Combining

/-! ## §3. Changes to what is known of a room. -/

/-- A change to what is known of one room only.  No memory is part of it. -/
structure Confined (room : RoomId) (g : Classifier → Classifier) : Prop where
  seen : ∀ c, (g c).seen = c.seen
  same : ∀ {c c'}, AgreeOn room c c' → AgreeOn room (g c) (g c')
  others : ∀ {c r}, r ≠ room → AgreeOn r c (g c)

section Changes

variable {among : Finset (RoomId × String)} {room : RoomId}

/-- A change that is announced by these effects. -/
theorem Confined.local {g : Classifier → Classifier} (h : Confined room g) {fx : List Effect}
    (hfx : ∀ x ∈ fx, x.room? = some room) : Local among room (fun c => ⟨g c, fx, ()⟩) where
  whole {c} hc := by
    show (g c).seen.Whole among
    rw [h.seen]
    exact hc
  same _ _ hagree := ⟨h.same hagree, rfl⟩
  others _ _ hr := h.others hr
  about hx := hfx _ hx

theorem confined_applyState (events : List RoomEvent) :
    Confined room (applyState room events) where
  seen _ := rfl
  same h := ⟨h.user, h.joined, h.invited, StateCache.get?_apply_congr h.state events, h.seen⟩
  others hr := ⟨rfl, rfl, rfl, (cache_applyState hr events _).symm, fun _ => Iff.rfl⟩

theorem confined_forget : Confined room (forget room) where
  seen _ := rfl
  same {c c'} h := by
    refine ⟨h.user, ?_, ?_, ?_, h.seen⟩
    · exact (Table.contains_erase_self c.joined room).trans
        (Table.contains_erase_self c'.joined room).symm
    · exact (Table.contains_erase_self c.invited room).trans
        (Table.contains_erase_self c'.invited room).symm
    · show (c.cache.erase room).get? room = (c'.cache.erase room).get? room
      rw [Table.get?_erase, Table.get?_erase, if_pos rfl, if_pos rfl]
  others {c _} hr :=
    ⟨rfl, (Table.contains_erase_other hr c.joined).symm,
      (Table.contains_erase_other hr c.invited).symm, (cache_forget hr c).symm,
      fun _ => Iff.rfl⟩

theorem confined_entered : Confined room (entered room) where
  seen _ := rfl
  same {c c'} h := by
    refine ⟨h.user, ?_, ?_, h.state, h.seen⟩
    · exact (isJoined_entered room c).trans (isJoined_entered room c').symm
    · exact (Table.contains_erase_self c.invited room).trans
        (Table.contains_erase_self c'.invited room).symm
  others {c _} hr :=
    ⟨rfl, (Table.contains_insert_other hr c.joined ()).symm,
      (Table.contains_erase_other hr c.invited).symm, rfl, fun _ => Iff.rfl⟩

theorem confined_invited :
    Confined room (fun c => { c with invited := c.invited.insert room () }) where
  seen _ := rfl
  same {c c'} h :=
    ⟨h.user, h.joined, (Table.contains_insert_self c.invited room ()).trans
      (Table.contains_insert_self c'.invited room ()).symm, h.state, h.seen⟩
  others {c _} hr :=
    ⟨rfl, rfl, (Table.contains_insert_other hr c.invited ()).symm, rfl, fun _ => Iff.rfl⟩

end Changes

/-! ## §4. Membership. -/

section Membership

variable {among : Finset (RoomId × String)} {room : RoomId} (s : Services)

theorem local_announceLeave (e : RoomEvent) : Local among room (announceLeave s room e) :=
  confined_forget.local (by simp [Effect.room?, Signal.room?])

theorem local_announceInvite (e : RoomEvent) : Local among room (announceInvite s room e) :=
  confined_invited.local (by simp [Effect.room?, Signal.room?])

theorem local_applyState (events : List RoomEvent) :
    Local among room (fun c => ⟨c.applyState room events, [], ()⟩) :=
  (confined_applyState events).local (List.forall_mem_nil _)

/-- Announce an invite after its stripped state is applied. -/
def inviteWith (room : RoomId) (e : RoomEvent) (stripped : List RoomEvent) :
    Classifier → Outcome Classifier Unit :=
  andThen (fun c => ⟨c.applyState room stripped, [], ()⟩) (announceInvite s room e)

theorem local_inviteWith (e : RoomEvent) (stripped : List RoomEvent) :
    Local among room (inviteWith s room e stripped) :=
  (local_applyState stripped).andThen (local_announceInvite s e)

/-! The answer of a call is nothing that is known afterwards, so it is left out. -/

theorem local_join :
    Local among room (fun c => ⟨(join room c).state, (join room c).effects, ()⟩) := by
  have hentered : Local among room
      (fun c => ⟨c.entered room, [.signal (.room room .joined)], ()⟩) :=
    confined_entered.local (by simp [Effect.room?, Signal.room?])
  have heq : (fun c =>
        (⟨(join room c).state, (join room c).effects, ()⟩ : Outcome Classifier Unit)) =
      fun c => if c.isJoined room then ⟨c, [], ()⟩
        else ⟨c.entered room, [.signal (.room room .joined)], ()⟩ := by
    funext c
    split
    next hin => rw [join_known hin]
    next hout => rw [join_new (Bool.eq_false_iff.mpr hout)]
  rw [heq]
  exact local_none.ite hentered (·.isJoined room) AgreeOn.joined

theorem local_leave (events : List RoomEvent) :
    Local among room
      (fun c => ⟨(leave s room events c).state, (leave s room events c).effects, ()⟩) := by
  have heq : (fun c => (⟨(leave s room events c).state, (leave s room events c).effects, ()⟩ :
        Outcome Classifier Unit)) =
      fun c => onFound (announceLeave s room)
        (authoritative c.user Membership.isDeparture events) c := by
    funext c
    unfold leave onFound
    cases authoritative c.user Membership.isDeparture events <;> rfl
  rw [heq]
  exact Local.onFound (local_announceLeave s) _ fun hagree => by rw [hagree.user]

theorem local_invite (stripped : List RoomEvent) :
    Local among room
      (fun c => ⟨(invite s room stripped c).state, (invite s room stripped c).effects, ()⟩) := by
  have heq : (fun c => (⟨(invite s room stripped c).state, (invite s room stripped c).effects, ()⟩ :
        Outcome Classifier Unit)) =
      fun c => onFound (fun e => inviteWith s room e stripped)
        (authoritative c.user (· = .invite) stripped) c := by
    funext c
    unfold invite onFound
    cases authoritative c.user (· = .invite) stripped <;> rfl
  rw [heq]
  exact Local.onFound (fun e => local_inviteWith s e stripped) _ fun hagree => by rw [hagree.user]

end Membership

/-! ## §5. Timelines. -/

section Timelines

variable {among : Finset (RoomId × String)} {room : RoomId} {e : RoomEvent}

/-- What remembers the same of a room answers the same. -/
theorem AgreeOn.known {c c' : Classifier} (h : AgreeOn room c c') (e : RoomEvent) :
    (remember room e c.seen).2 = (remember room e c'.seen).2 := by
  cases hid : e.id with
  | none => rw [remember_nameless hid, remember_nameless hid]
  | some id => rw [Bool.eq_iff_iff, remember_snd hid, remember_snd hid, h.seen]

/-- Remember an event, and no more. -/
def noted (room : RoomId) (e : RoomEvent) (c : Classifier) : Outcome Classifier Unit :=
  ⟨{ c with seen := (remember room e c.seen).1 }, [], ()⟩

/-- **To remember an event** is local to its room, if its pair has a place in the memory. -/
theorem local_note (hfew : among.card ≤ memoryCapacity)
    (hpair : ∀ id, e.id = some id → (room, id) ∈ among) :
    Local among room (noted room e) := by
  unfold noted
  cases hid : e.id with
  | none =>
    have hnone : ∀ c : Classifier, { c with seen := (remember room e c.seen).1 } = c := by
      intro c
      rw [remember_nameless hid]
    simp only [hnone]
    exact local_none
  | some id =>
    have hmem := hpair id hid
    have hnote : ∀ seen : Memory, (remember room e seen).1 = (seen.note (room, id)).1 := by
      intro seen
      unfold remember
      rw [hid]
    simp only [hnote]
    refine ⟨fun hc => hc.note hfew hmem, fun hc hc' h => ⟨⟨h.user, h.joined, h.invited, h.state,
      fun id' => ?_⟩, rfl⟩, fun hc r hr => ⟨rfl, rfl, rfl, rfl, fun id' => ?_⟩,
      fun hx => absurd hx List.not_mem_nil⟩
    · rw [hc.mem_note hfew hmem, hc'.mem_note hfew hmem, h.seen]
    · -- the new pair is one of another room
      rw [hc.mem_note hfew hmem]
      exact (or_iff_right fun heq => hr (congrArg Prod.fst heq)).symm

variable (s : Services)

/-- Announce an event as a new one. -/
def announced (room : RoomId) (e : RoomEvent) (c : Classifier) : Outcome Classifier Unit :=
  ⟨c.applyState room [e], eventEffects s room e, ()⟩

theorem local_timelineEvent (hfew : among.card ≤ memoryCapacity)
    (hpair : ∀ id, e.id = some id → (room, id) ∈ among) :
    Local among room (timelineEvent s room e) := by
  have hnoted : Local among room (noted room e) := local_note hfew hpair
  have hannounced : Local among room (announced s room e) :=
    (confined_applyState [e]).local fun x hx => (ofTimeline_eventEffects s room e x hx).room?_eq
  -- whether the event is known decides, and it is remembered in either case
  have heq : timelineEvent s room e = fun c =>
      if (remember room e c.seen).2 then noted room e c
      else andThen (noted room e) (announced s room e) c := by
    funext c
    split
    next hknown => exact timelineEvent_known s hknown
    next hnew => exact timelineEvent_new s (Bool.eq_false_iff.mpr hnew)
  rw [heq]
  exact hnoted.ite (hnoted.andThen hannounced) _ fun hagree => hagree.known e

variable {events : List RoomEvent} (hfew : among.card ≤ memoryCapacity)
  (hpairs : ∀ e ∈ events, ∀ id, e.id = some id → (room, id) ∈ among)

include hfew hpairs

/-- **A timeline** is local to its room. -/
theorem local_timeline : Local among room (timeline s room events) :=
  local_forEach events fun e he => local_timelineEvent s hfew (hpairs e he)

theorem local_timelineIfJoined : Local among room (timelineIfJoined s room events) :=
  (local_timeline s hfew hpairs).ite local_none (·.isJoined room) AgreeOn.joined

/-- A room that is joined by now, with its timeline. -/
theorem local_joinedTimeline : Local among room (joinedTimeline s room events) :=
  local_join.andThen (local_timelineIfJoined s hfew hpairs)

end Timelines

/-! ## §6. Payloads. -/

/-- **A payload** is local to its room, however it is read. -/
theorem local_windowed {among : Finset (RoomId × String)} (s : Services) (room : RoomId)
    (list : Window.Behaviour) (p : Window.Payload) (hfew : among.card ≤ memoryCapacity)
    (hpairs : ∀ e ∈ p.timeline, ∀ id, e.id = some id → (room, id) ∈ among) :
    Local among room (windowed s room list p) := by
  have htake : ∀ r : Reading, Local among room (r.take s room p) := by
    intro r
    have hknown : ∀ {c c' : Classifier}, AgreeOn room c c' →
        (c.isJoined room || c.isInvited room) = (c'.isJoined room || c'.isInvited room) := by
      intro c c' hagree
      rw [hagree.joined, hagree.invited]
    cases r with
    | departure e => exact (local_announceLeave s e).ite local_none _ hknown
    | invitation e =>
      refine local_none.ite (local_inviteWith s e p.inviteState)
        (fun c => c.isInvited room || c.isJoined room) fun hagree => ?_
      rw [hagree.joined, hagree.invited]
    | inside => exact local_joinedTimeline s hfew hpairs
    | unspoken => exact local_timelineIfJoined s hfew hpairs
  have heq : windowed s room list p = fun c =>
      andThen (fun c => ⟨c.applyState room p.requiredState, [], ()⟩)
        ((reading c.user list p).take s room p) c := funext (windowed_eq s room list p)
  rw [heq]
  -- the reading is made before the state is applied, by the user alone
  exact Local.choose _ (fun r => (local_applyState p.requiredState).andThen (htake r))
    (fun c => reading c.user list p) fun hagree => by rw [hagree.user]

end Classifier

end RoomSync
