/-
  RoomSync.Proofs.Cursor.BatchOrder
  ─────────────────────────────────
  **WHAT IS ANNOUNCED OF A BATCH, AND IN WHICH ORDER.**

  A batch is banned through six times: for the account data, for that of the rooms
  that were left and of those the user is in, and then for the rooms of each
  section.  One room can stand in several sections, and every pass goes on from
  what the passes before it left.  Seen from one room a pass over a section has
  one step that matters, since keys differ (`forEach_entries`):

      announces_iff       — what is announced of a departure or an invite
      known_departures    — what is known of a room after the departures
      signals_presences   — what is announced of the rooms that the user is in
      classify_announces  — the signals of a batch, and the memberships after it

  So that a room is announced as joined depends on what was known of it and on the
  departures of the same batch alone (`Batch.staysJoined`), and its timeline on the
  rooms before it (`Batch.memoryAt`).
-/
import RoomSync.Proofs.Classifier.Deciding
import RoomSync.Proofs.Classifier.Histories
import RoomSync.Proofs.Cursor.Rejoin

namespace RoomSync

/-! ## §1. Runs over tables. -/

/-- **A run over the entries of a table**, seen from one key: where other entries
change nothing, there is the change of its own entry, if it has one. -/
theorem Outcome.forEach_entries {α σ τ : Type} (t : Table RoomId α) (r : RoomId)
    (f : RoomId × α → σ → Outcome σ Unit) (view : σ → τ) (change : α → τ → τ)
    (hhere : ∀ a s, view (f (r, a) s).state = change a (view s))
    (hother : ∀ e s, r ≠ e.1 → view (f e s).state = view s) (s : σ) :
    view (forEach f t.entries s).state = (t.get? r).elim (view s) (change · (view s)) := by
  cases hget : t.get? r with
  | none =>
      exact forEach_keeps_of_mem f view t.entries
        (fun e he s => hother e s (Cursor.ne_of_get?_none hget he)) s
  | some a =>
      obtain ⟨before, after, hsplit⟩ := List.append_of_mem (Table.mem_entries.2 hget)
      obtain ⟨hbefore, hafter⟩ := Table.others_of_split hsplit
      have hkeeps : ∀ es, (∀ e ∈ es, r ≠ e.1) → ∀ s, view (forEach f es s).state = view s :=
        fun es hes => forEach_keeps_of_mem f view es fun e he s => hother e s (hes e he)
      rw [hsplit, forEach_append_state]
      show view (forEach f after (f (r, a) (forEach f before s).state).state).state = _
      rw [hkeeps after hafter, hhere, hkeeps before hbefore]
      rfl

/-- Where what is announced depends on something that stays, a run announces it
for one entry after the other. -/
theorem Outcome.signals_forEach {α σ τ : Type} (f : α → σ → Outcome σ Unit) (view : σ → τ)
    (said : τ → α → List Signal)
    (hsaid : ∀ a s, Effect.signals (f a s).effects = said (view s) a)
    (hkeeps : ∀ a s, view (f a s).state = view s) (as : List α) :
    ∀ s, Effect.signals (forEach f as s).effects = as.flatMap (said (view s)) := by
  induction as with
  | nil =>
      intro s
      rfl
  | cons a rest ih =>
      intro s
      show Effect.signals ((f a s).effects ++ (forEach f rest (f a s).state).effects) = _
      rw [Effect.signals_append, hsaid, ih, hkeeps, List.flatMap_cons]

namespace Cursor

variable (s : Services)

/-! ## §2. Departures and invites. -/

/-- What is announced of a room that the user left, or is invited to: one signal
with the event that decides, as the preprocessors leave it, or nothing where no
event is a candidate. -/
inductive Announces (user : UserId) (accept : Membership → Bool) (news : RoomEvent → RoomNews)
    (room : RoomId) (events : List RoomEvent) : List Signal → Prop
  | decided {e : RoomEvent} (h : Decides user accept events e) :
      Announces user accept news room events [.room room (news (s.preprocess room e))]
  | silent (h : ∀ e ∈ events, ¬ Candidate user accept e) :
      Announces user accept news room events []

/-- The same, computed. -/
def announcement (user : UserId) (accept : Membership → Bool) (news : RoomEvent → RoomNews)
    (room : RoomId) (events : List RoomEvent) : List Signal :=
  (authoritative user accept events).toList.map fun e => .room room (news (s.preprocess room e))

theorem announces_iff {user : UserId} {accept : Membership → Bool} {news : RoomEvent → RoomNews}
    {room : RoomId} {events : List RoomEvent} {said : List Signal} :
    Announces s user accept news room events said ↔
      said = announcement s user accept news room events := by
  unfold announcement
  constructor
  · intro h
    cases h with
    | decided h => rw [authoritative_eq_some.2 h]; rfl
    | silent h => rw [authoritative_eq_none.2 h]; rfl
  · rintro rfl
    cases hfound : authoritative user accept events with
    | none => exact .silent (authoritative_eq_none.1 hfound)
    | some e => exact .decided (authoritative_eq_some.1 hfound)

/-- What is announced of several rooms, room by room. -/
theorem announces_entries {α : Type} (user : UserId) (accept : Membership → Bool)
    (news : RoomEvent → RoomNews) (events : α → List RoomEvent) (entries : List (RoomId × α)) :
    ∃ groups, List.Forall₂ (fun e => Announces s user accept news e.1 (events e.2)) entries groups
      ∧ groups.flatten =
        entries.flatMap fun e => announcement s user accept news e.1 (events e.2) := by
  refine ⟨entries.map fun e => announcement s user accept news e.1 (events e.2), ?_,
    List.flatMap_def.symm⟩
  exact List.forall₂_map_right_iff.2 (List.forall₂_same.2 fun e _ => (announces_iff s).2 rfl)

/-- Whether a room's timeline has a departure of the user. -/
def tellsDeparture (user : UserId) (u : RoomUpdate) : Bool :=
  u.timeline.events.any fun e => (e.membershipOf? user.text).any Membership.isDeparture

theorem tellsDeparture_iff {user : UserId} {u : RoomUpdate} : tellsDeparture user u = true ↔
    ∃ e ∈ u.timeline.events, Candidate user Membership.isDeparture e := by
  unfold tellsDeparture
  rw [List.any_eq_true]
  exact exists_congr fun e => and_congr_right fun _ => candidate_iff e

/-- It has one if the scan finds one. -/
theorem tellsDeparture_eq (user : UserId) (u : RoomUpdate) : tellsDeparture user u =
    (authoritative user Membership.isDeparture u.timeline.events).isSome := by
  rw [Bool.eq_iff_iff, tellsDeparture_iff, isSome_authoritative]

theorem signals_leave (room : RoomId) (events : List RoomEvent) (c : Classifier) :
    Effect.signals (Classifier.leave s room events c).effects =
      announcement s c.user Membership.isDeparture .left room events := by
  unfold Classifier.leave announcement
  cases authoritative c.user Membership.isDeparture events <;> rfl

theorem signals_invite (room : RoomId) (stripped : List RoomEvent) (c : Classifier) :
    Effect.signals (Classifier.invite s room stripped c).effects =
      announcement s c.user (· = .invite) .invited room stripped := by
  unfold Classifier.invite announcement
  cases authoritative c.user (fun m => decide (m = .invite)) stripped <;> rfl

theorem user_leave (room : RoomId) (events : List RoomEvent) (c : Classifier) :
    (Classifier.leave s room events c).state.user = c.user := by
  rcases Classifier.leave_cases s room events c with ⟨hstate, -⟩ | ⟨e, hstate, -⟩ <;> rw [hstate]
  rfl

theorem user_invite (room : RoomId) (stripped : List RoomEvent) (c : Classifier) :
    (Classifier.invite s room stripped c).state.user = c.user := by
  rcases Classifier.invite_cases s room stripped c with ⟨hstate, -⟩ | ⟨e, hstate, -⟩ <;>
    rw [hstate]
  rfl

theorem signals_departures (entries : List (RoomId × RoomUpdate)) (c : Classifier) :
    Effect.signals (departures s entries c).effects = entries.flatMap fun e =>
      announcement s c.user Membership.isDeparture .left e.1 e.2.timeline.events :=
  Outcome.signals_forEach
    (fun (e : RoomId × RoomUpdate) c => discard (Classifier.leave s e.1 e.2.timeline.events c))
    (·.user)
    (fun user e => announcement s user Membership.isDeparture .left e.1 e.2.timeline.events)
    (fun e => signals_leave s e.1 e.2.timeline.events)
    (fun e => user_leave s e.1 e.2.timeline.events) entries c

theorem user_departures (entries : List (RoomId × RoomUpdate)) (c : Classifier) :
    (departures s entries c).state.user = c.user :=
  Outcome.forEach_keeps _ (fun c : Classifier => c.user)
    (fun e => user_leave s e.1 e.2.timeline.events) entries c

theorem signals_invitations (entries : List (RoomId × List RoomEvent)) (c : Classifier) :
    Effect.signals (invitations s entries c).effects = entries.flatMap fun e =>
      announcement s c.user (· = .invite) .invited e.1 e.2 :=
  Outcome.signals_forEach
    (fun (e : RoomId × List RoomEvent) c => discard (Classifier.invite s e.1 e.2 c)) (·.user)
    (fun user e => announcement s user (· = .invite) .invited e.1 e.2)
    (fun e => signals_invite s e.1 e.2) (fun e => user_invite s e.1 e.2) entries c

/-! ## §3. What is known of one room. -/

/-- What a classifier knows of a room: whether the user is in it, whether the user
is invited to it, and whether it has a state. -/
def known (c : Classifier) (r : RoomId) : Bool × Bool × Bool :=
  (c.isJoined r, c.isInvited r, c.cache.contains r)

theorem known_congr {c c' : Classifier} {r : RoomId}
    (hmemberships : c'.isJoined r = c.isJoined r ∧ c'.isInvited r = c.isInvited r)
    (hcache : c'.cache.get? r = c.cache.get? r) : known c' r = known c r := by
  unfold known Table.contains
  rw [hmemberships.1, hmemberships.2, hcache]

section Others

variable {s} {r room : RoomId} (hr : r ≠ room)

include hr

theorem known_invite (stripped : List RoomEvent) (c : Classifier) :
    known (Classifier.invite s room stripped c).state r = known c r :=
  known_congr ((Classifier.change_invite s room stripped c).others hr)
    (Classifier.cache_invite s hr stripped c)

theorem known_leave_other (events : List RoomEvent) (c : Classifier) :
    known (Classifier.leave s room events c).state r = known c r :=
  known_congr ((Classifier.change_leave s room events c).others hr)
    (Classifier.cache_leave s hr events c)

theorem known_classifyJoined (u : RoomUpdate) (c : Classifier) :
    known (classifyJoined s (room, u) c).state r = known c r := by
  -- after the join the memberships stay
  obtain ⟨-, hjoined, hinvited⟩ := Classifier.timeline_keeps s room u.timeline.events
    ((Classifier.join room c).state.applyState room u.state)
  obtain ⟨hjoinedElsewhere, hinvitedElsewhere⟩ := (Classifier.change_join room c).others hr
  exact known_congr
    ⟨(congrArg (Table.contains · r) hjoined).trans hjoinedElsewhere,
      (congrArg (Table.contains · r) hinvited).trans hinvitedElsewhere⟩
    (cache_classifyJoined s hr c)

end Others

/-- Of a room that was left nothing is known, unless its timeline has no
departure. -/
theorem known_leave (r : RoomId) (u : RoomUpdate) (c : Classifier) :
    known (Classifier.leave s r u.timeline.events c).state r =
      if tellsDeparture c.user u then (false, false, false) else known c r := by
  rw [tellsDeparture_eq]
  unfold Classifier.leave
  cases authoritative c.user Membership.isDeparture u.timeline.events with
  | none => rfl
  | some e =>
      show (Table.contains (c.joined.erase r) r, Table.contains (c.invited.erase r) r,
        Table.contains (c.cache.erase r) r) = (false, false, false)
      rw [Table.contains_erase_self, Table.contains_erase_self, Table.contains_erase_self]

/-- **What is known of a room after the departures** of a batch. -/
theorem known_departures (b : Batch) (r : RoomId) (c : Classifier) :
    known (departures s b.left.entries c).state r =
      if (b.left.get? r).any (tellsDeparture c.user) then (false, false, false)
      else known c r := by
  have hrun := Outcome.forEach_entries b.left r
    (fun e c => discard (Classifier.leave s e.1 e.2.timeline.events c))
    (fun c => (c.user, known c r))
    (fun u v => (v.1, if tellsDeparture v.1 u then (false, false, false) else v.2))
    (fun u c => Prod.ext (user_leave s r u.timeline.events c) (known_leave s r u c))
    (fun e c hr => Prod.ext (user_leave s e.1 e.2.timeline.events c)
      (known_leave_other hr e.2.timeline.events c)) c
  refine (congrArg Prod.snd hrun).trans ?_
  cases b.left.get? r <;> rfl

/-- A batch that invites the user to a room leaves what is known of others. -/
theorem known_invitations {b : Batch} {r : RoomId} (hr : b.invited.get? r = none)
    (c : Classifier) : known (invitations s b.invited.entries c).state r = known c r :=
  Outcome.forEach_keeps_of_mem _ (fun c : Classifier => known c r) b.invited.entries
    (fun e he => known_invite (ne_of_get?_none hr he) e.2) c

theorem known_presences {b : Batch} {r : RoomId} (hr : b.joined.get? r = none)
    (c : Classifier) : known (presences s b.joined.entries c).state r = known c r :=
  Outcome.forEach_keeps_of_mem _ (fun c : Classifier => known c r) b.joined.entries
    (fun e he => known_classifyJoined (ne_of_get?_none hr he) e.2) c

/-- An invite does not take the user out of any room, nor into it. -/
theorem isJoined_invitations (entries : List (RoomId × List RoomEvent)) (c : Classifier)
    (r : RoomId) : (invitations s entries c).state.isJoined r = c.isJoined r := by
  refine Outcome.forEach_keeps _ (fun c : Classifier => c.isJoined r) (fun e c => ?_) entries c
  show (Classifier.invite s e.1 e.2 c).state.isJoined r = c.isJoined r
  rcases Classifier.invite_cases s e.1 e.2 c with ⟨hstate, -⟩ | ⟨e', hstate, -⟩ <;> rw [hstate]
  rfl

theorem isJoined_classifyJoined (e : RoomId × RoomUpdate) (c : Classifier) (r : RoomId) :
    (classifyJoined s e c).state.isJoined r = (decide (r = e.1) || c.isJoined r) := by
  rw [← Classifier.isJoined_join]
  have hjoined := (Classifier.timeline_keeps s e.1 e.2.timeline.events
    ((Classifier.join e.1 c).state.applyState e.1 e.2.state)).2.1
  exact congrArg (Table.contains · r) hjoined

/-- The user is in every room of the section of joined rooms. -/
theorem isJoined_presences {b : Batch} {r : RoomId} (hr : b.joined.contains r = true)
    (c : Classifier) : (presences s b.joined.entries c).state.isJoined r = true := by
  obtain ⟨u, hu⟩ := Table.contains_iff.1 hr
  have hrun := Outcome.forEach_entries b.joined r (classifyJoined s) (·.isJoined r)
    (fun _ _ => true)
    (fun u c => by rw [isJoined_classifyJoined, decide_eq_true rfl, Bool.true_or])
    (fun e c he => by rw [isJoined_classifyJoined, decide_eq_false he, Bool.false_or]) c
  rw [hu] at hrun
  exact hrun

/-! ## §4. The rooms that the user is in. -/

/-- Whether the user is known to be in a room when a batch comes to it: it was so
before, and the batch has no departure of the room. -/
def Batch.staysJoined (b : Batch) (c : Classifier) (r : RoomId) : Bool :=
  c.isJoined r && !(b.left.get? r).any (tellsDeparture c.user)

theorem isJoined_departures (b : Batch) (r : RoomId) (c : Classifier) :
    (departures s b.left.entries c).state.isJoined r = b.staysJoined c r := by
  refine (congrArg Prod.fst (known_departures s b r c)).trans ?_
  unfold Batch.staysJoined
  cases (b.left.get? r).any (tellsDeparture c.user) <;> simp [known]

/-- What is announced of a room that the user is in: that it is joined, unless that
is known, and then its timeline, with the memory that the rooms before it leave. -/
def joinedSignals (b : Batch) (c : Classifier) (e : RoomId × RoomUpdate) : List Signal :=
  (if b.staysJoined c e.1 then [] else [.room e.1 .joined])
    ++ Effect.signals (Classifier.timeline s e.1 e.2.timeline.events
        { c with seen := b.memoryAt e.1 c.seen }).effects

/-- What is announced of a room hangs on its membership and on the memory. -/
theorem signals_classifyJoined {b : Batch} {c c' : Classifier} {e : RoomId × RoomUpdate}
    (hjoined : c'.isJoined e.1 = b.staysJoined c e.1) (hseen : c'.seen = b.memoryAt e.1 c.seen) :
    Effect.signals (classifyJoined s e c').effects = joinedSignals s b c e := by
  have hjoin : Effect.signals (Classifier.join e.1 c').effects =
      if b.staysJoined c e.1 then [] else [.room e.1 .joined] := by
    rw [← hjoined]
    cases hin : c'.isJoined e.1 with
    | true => rw [Classifier.join_known hin]; rfl
    | false => rw [Classifier.join_new hin]; rfl
  have htimeline : (Classifier.timeline s e.1 e.2.timeline.events
        ((Classifier.join e.1 c').state.applyState e.1 e.2.state)).effects =
      (Classifier.timeline s e.1 e.2.timeline.events
        { c with seen := b.memoryAt e.1 c.seen }).effects := by
    rw [Classifier.effects_timeline, Classifier.effects_timeline]
    show (Classifier.newEvents e.1 _ (Classifier.join e.1 c').state.seen).flatMap _ = _
    rw [(Classifier.join_keeps e.1 c').1, hseen]
  unfold joinedSignals
  rw [← hjoin, ← htimeline, ← Effect.signals_append]
  rfl

/-- **What is announced of the rooms that the user is in**, from a state that the
departures and invites of the batch left.  The induction is on the rooms that are
still to come: of these the memberships are what they were, and the memory is that
of the rooms before. -/
theorem signals_presences {b : Batch} {c : Classifier} {rest : List (RoomId × RoomUpdate)} :
    ∀ {before : List (RoomId × RoomUpdate)} {c' : Classifier},
      b.joined.entries = before ++ rest → c'.seen = rememberedAll before c.seen →
      (∀ e ∈ rest, c'.isJoined e.1 = b.staysJoined c e.1) →
      Effect.signals (presences s rest c').effects = rest.flatMap (joinedSignals s b c) := by
  induction rest with
  | nil =>
      intro before c' _ _ _
      rfl
  | cons e rest ih =>
      intro before c' hsplit hseen hjoined
      obtain ⟨hbefore, hafter⟩ := Table.others_of_split hsplit
      have hmemory : c'.seen = b.memoryAt e.1 c.seen :=
        hseen.trans (memoryAt_split hsplit hbefore c.seen).symm
      have hfirst := signals_classifyJoined s (hjoined e List.mem_cons_self) hmemory
      have hsplit' : b.joined.entries = (before ++ [e]) ++ rest := by
        rw [hsplit, List.append_assoc]
        rfl
      have hlater : Effect.signals (presences s rest (classifyJoined s e c').state).effects =
          rest.flatMap (joinedSignals s b c) := by
        refine ih hsplit' ?_ fun x hx => ?_
        · rw [seen_classifyJoined, hseen, rememberedAll, rememberedAll, List.foldl_append]
          rfl
        · rw [isJoined_classifyJoined, decide_eq_false (hafter x hx).symm, Bool.false_or]
          exact hjoined x (List.mem_cons_of_mem _ hx)
      show Effect.signals ((classifyJoined s e c').effects
        ++ (presences s rest (classifyJoined s e c').state).effects) = _
      rw [Effect.signals_append, hfirst, hlater, List.flatMap_cons]

/-! ## §5. A batch. -/

/-- The account data of the rooms of a section, in the order of their ids. -/
def accountDataOf (t : Table RoomId RoomUpdate) : List Signal :=
  t.entries.flatMap fun e => e.2.accountData.map fun v => .room e.1 (.accountData v)

theorem accountSignals_eq (b : Batch) : b.accountSignals =
    b.accountData.map .accountData ++ accountDataOf b.left ++ accountDataOf b.joined := rfl

/-- Where the crypto engine takes its part in, or is missing, a batch is announced. -/
theorem classify_informed {b : Batch} (hupdate : ∀ engine, s.crypto = some engine →
    engine.update b.cryptoUpdate = .ok ()) (w : World) :
    ∃ fx, Effect.signals fx = []
      ∧ classify s b w = ⟨{ w with classifier := (announce s b w.classifier).state },
          fx ++ (announce s b w.classifier).effects, .ok ()⟩ := by
  cases hcrypto : s.crypto with
  | none =>
      have hinform : informCrypto s b w = ⟨w, [], .ok ()⟩ := by
        unfold informCrypto
        rw [hcrypto]
      exact ⟨[], rfl, Action.bind_ok hinform⟩
  | some engine =>
      have hinform : informCrypto s b w =
          ⟨w, [.call (.updateCrypto b.cryptoUpdate)], .ok ()⟩ := by
        unfold informCrypto
        rw [hcrypto]
        dsimp only
        rw [hupdate engine hcrypto]
      exact ⟨_, rfl, Action.bind_ok hinform⟩

/-- The signals of a batch, pass by pass. -/
theorem signals_announce (b : Batch) (c : Classifier) :
    Effect.signals (announce s b c).effects =
      b.accountSignals
        ++ b.left.entries.flatMap (fun e =>
            announcement s c.user Membership.isDeparture .left e.1 e.2.timeline.events)
        ++ b.invited.entries.flatMap (fun e =>
            announcement s c.user (· = .invite) .invited e.1 e.2)
        ++ b.joined.entries.flatMap (joinedSignals s b c) := by
  have hpresences : Effect.signals (presences s b.joined.entries (invitations s b.invited.entries
        (departures s b.left.entries c).state).state).effects =
      b.joined.entries.flatMap (joinedSignals s b c) := by
    refine signals_presences s (List.nil_append _).symm
      ((seen_invitations s _ _).trans (seen_departures s _ _)) fun e _ => ?_
    rw [isJoined_invitations, isJoined_departures]
  show Effect.signals (b.accountSignals.map .signal ++ (classifyRooms s b c).effects) = _
  rw [classifyRooms_eq, Effect.signals_append, Effect.signals_append, Effect.signals_append,
    Effect.signals_map_signal, signals_departures, signals_invitations, user_departures,
    hpresences]
  simp only [List.append_assoc]

/-- Nothing is known of a room whose departure a batch tells, if it is in no other
section, so that the later passes do not come to it. -/
theorem known_departed {b : Batch} {r : RoomId} {u : RoomUpdate} {c : Classifier}
    (hleft : b.left.get? r = some u) (htold : tellsDeparture c.user u = true)
    (hinvited : b.invited.get? r = none) (hjoined : b.joined.get? r = none) :
    known (announce s b c).state r = (false, false, false) := by
  show known (presences s b.joined.entries (invitations s b.invited.entries
    (departures s b.left.entries c).state).state).state r = _
  rw [known_presences s hjoined, known_invitations s hinvited, known_departures, hleft,
    Option.any_some, htold]
  rfl

/-- **The signals of a batch, and what is known after it.**  The crypto engine takes
its part in, or is missing.  The account data come first; then every room that was
left, and every room that the user is invited to, has its announcement; then every
room that the user is in is announced as joined, unless it stays joined, and its
timeline follows.  In each section the rooms stand in the order of their ids.
Afterwards the user is in every room of the last section, and nothing is known of a
room that was left and stands in no other. -/
theorem classify_announces {b : Batch} (hupdate : ∀ engine, s.crypto = some engine →
    engine.update b.cryptoUpdate = .ok ()) (w : World) :
    (classify s b w).answer = .ok ()
      ∧ (∃ left invited : List (List Signal),
          List.Forall₂ (fun e => Announces s w.classifier.user Membership.isDeparture .left e.1
            e.2.timeline.events) b.left.entries left
          ∧ List.Forall₂ (fun e => Announces s w.classifier.user (· = .invite) .invited e.1 e.2)
            b.invited.entries invited
          ∧ Effect.signals (classify s b w).effects =
              b.accountData.map .accountData ++ accountDataOf b.left ++ accountDataOf b.joined
                ++ left.flatten ++ invited.flatten
                ++ b.joined.entries.flatMap (joinedSignals s b w.classifier))
      ∧ (∀ r, b.joined.contains r = true →
          (classify s b w).state.classifier.isJoined r = true)
      ∧ ∀ r u, b.left.get? r = some u →
          (∃ e ∈ u.timeline.events, Candidate w.classifier.user Membership.isDeparture e) →
          b.invited.get? r = none → b.joined.get? r = none →
          (classify s b w).state.classifier.isJoined r = false
            ∧ (classify s b w).state.classifier.isInvited r = false
            ∧ (classify s b w).state.classifier.cache.contains r = false := by
  obtain ⟨fx, hfx, hclassify⟩ := classify_informed s hupdate w
  rw [hclassify]
  obtain ⟨left, hleft, hleftSaid⟩ := announces_entries s w.classifier.user
    Membership.isDeparture .left (fun u : RoomUpdate => u.timeline.events) b.left.entries
  obtain ⟨invited, hinvited, hinvitedSaid⟩ := announces_entries s w.classifier.user
    (· = .invite) .invited id b.invited.entries
  refine ⟨rfl, ⟨left, invited, hleft, hinvited, ?_⟩, fun r hr => isJoined_presences s hr _,
    fun r u hleft htold hinvited hjoined => ?_⟩
  · rw [hleftSaid, hinvitedSaid, Effect.signals_append, hfx, List.nil_append, signals_announce,
      accountSignals_eq]
    rfl
  · have hknown := known_departed s hleft (tellsDeparture_iff.2 htold) hinvited hjoined
    exact ⟨congrArg Prod.fst hknown, congrArg (·.2.1) hknown, congrArg (·.2.2) hknown⟩

/-! ## §6. A room in two sections. -/

namespace Drifting

def user : UserId := ⟨"@drifting:x", by decide +kernel⟩

/-- A room that the user left and came back to. -/
def again : RoomId := ⟨"!again:x", by decide +kernel⟩

/-- A room that the user is invited to. -/
def gate : RoomId := ⟨"!gate:x", by decide +kernel⟩

/-- A room that the user was banned from. -/
def banned : RoomId := ⟨"!banned:x", by decide +kernel⟩

/-- A member event of the user of this age. -/
def member (membership : String) (age : Int) : RoomEvent where
  type := "m.room.member"
  stateKey := some user.text
  content := .object [("membership", .string membership)]
  unsigned := { age := some age }

def tag : Json.Value := .object [("type", .string "m.tag")]

/-- The ban and a later leave are equally young, and a stale leave stands before
them. -/
def batch : Batch where
  accountData := [tag]
  left := Table.ofList [
    (again, { timeline := { events := [member "leave" 20] } }),
    (banned, {
      timeline := { events := [member "leave" 900, member "ban" 10, member "leave" 10] }
      accountData := [tag] })]
  invited := Table.ofList [(gate, [member "invite" 5])]
  joined := Table.ofList [(again, { timeline := { events := [member "join" 10] } })]

/-- An engine that takes in every part of a batch. -/
def services : Services where
  crypto := some {
    isEncrypted := fun _ => false
    decrypt := fun _ e => .ok e
    update := fun _ => .ok () }

/-- The user is in both rooms that the batch says were left. -/
def world : World where
  classifier := { user, joined := Table.ofList [(again, ()), (banned, ())] }

end Drifting

open Drifting in
/-- The room is left and joined again, and nothing is known any more of the one
that the user was banned from. -/
theorem room_left_and_joined_again :
    (∀ engine, services.crypto = some engine → engine.update batch.cryptoUpdate = .ok ())
      ∧ (classify services batch world).answer = .ok ()
      ∧ Effect.signals (classify services batch world).effects =
          [.accountData tag, .room banned (.accountData tag),
            .room again (.left (member "leave" 20)), .room banned (.left (member "ban" 10)),
            .room gate (.invited (member "invite" 5)),
            .room again .joined, .room again (.event (member "join" 10))]
      ∧ (classify services batch world).state.classifier.isJoined again = true
      ∧ (classify services batch world).state.classifier.isJoined banned = false
      ∧ (classify services batch world).state.classifier.isInvited banned = false
      ∧ (classify services batch world).state.classifier.cache.contains banned = false := by
  have hupdate : ∀ engine, services.crypto = some engine →
      engine.update batch.cryptoUpdate = .ok () := by
    rintro engine ⟨⟩
    rfl
  obtain ⟨hanswer, -, hjoined, hleft⟩ := classify_announces services hupdate world
  have hban : Candidate user Membership.isDeparture (member "ban" 10) :=
    ⟨.ban, by decide +kernel, rfl⟩
  obtain ⟨hout, hinvited, hstate⟩ := hleft banned _ (by rfl)
    ⟨member "ban" 10, by decide +kernel, hban⟩ (by decide +kernel) (by decide +kernel)
  exact ⟨hupdate, hanswer, by decide +kernel, hjoined again (by decide +kernel), hout, hinvited,
    hstate⟩

end Cursor

end RoomSync
