/-
  RoomSync.Proofs.Classifier.Duplicates
  ─────────────────────────────────────
  **WHICH TIMELINE EVENTS GO UNNOTICED.**

  One memory serves the timelines of all rooms.  It holds pairs of a room and an
  event id, so what it remembers depends on nothing but the pairs that came
  before, in their order.  Timelines that follow each other are read as one list
  of occurrences of events in rooms:

      timelines_eq          — some timelines are the occurrences in them
      seen_occur            — the memory after some occurrences
      suppressed_iff_known  — an occurrence goes unnoticed if it is remembered
      suppressed_iff_within — and when that is, by the occurrences before it

  An occurrence that goes unnoticed is noted all the same, which puts off the
  moment at which its pair is forgotten.
-/
import RoomSync.Proofs.Classifier.Timelines

namespace RoomSync

namespace Classifier

variable (s : Services)

/-! ## §1. Timelines as occurrences. -/

/-- An event in the timeline of a room. -/
abbrev Occurrence := RoomId × RoomEvent

/-- The occurrences in some timelines, in order. -/
def occurrences (calls : List (RoomId × List RoomEvent)) : List Occurrence :=
  calls.flatMap fun call => call.2.map (call.1, ·)

/-- Take in timelines of any rooms in order. -/
def timelines (calls : List (RoomId × List RoomEvent)) (c : Classifier) :
    Outcome Classifier Unit :=
  Outcome.forEach (fun call => timeline s call.1 call.2) calls c

/-- Take in occurrences in order. -/
def occur (os : List Occurrence) (c : Classifier) : Outcome Classifier Unit :=
  Outcome.forEach (fun o => timelineEvent s o.1 o.2) os c

theorem timelines_eq (calls : List (RoomId × List RoomEvent)) (c : Classifier) :
    timelines s calls c = occur s (occurrences calls) c := by
  have hcall : (fun call : RoomId × List RoomEvent => timeline s call.1 call.2) =
      fun call => occur s (call.2.map (call.1, ·)) := by
    funext call c
    exact (Outcome.forEach_map (fun o : Occurrence => timelineEvent s o.1 o.2) (call.1, ·)
      call.2 c).symm
  unfold timelines occurrences
  rw [hcall]
  exact (Outcome.forEach_flatMap _ _ calls c).symm

/-- **One occurrence among all**: its turn comes between what happens before it
and what happens after. -/
theorem occur_split (past later : List Occurrence) (o : Occurrence) (c : Classifier) :
    let before := occur s past c
    let turn := timelineEvent s o.1 o.2 before.state
    let after := occur s later turn.state
    occur s (past ++ o :: later) c =
      ⟨after.state, before.effects ++ (turn.effects ++ after.effects), ()⟩ :=
  Outcome.forEach_append (fun o : Occurrence => timelineEvent s o.1 o.2) past (o :: later) c

/-! ## §2. The memory. -/

/-- The pairs of some occurrences, in order. -/
def pairsIn (os : List Occurrence) : List (RoomId × String) :=
  os.filterMap fun o => pair? o.1 o.2

theorem seen_timelineEvent (room : RoomId) (e : RoomEvent) (c : Classifier) :
    (timelineEvent s room e c).state.seen = (remember room e c.seen).1 := by
  cases h : (remember room e c.seen).2 with
  | true => rw [timelineEvent_known s h]
  | false =>
      rw [timelineEvent_new s h]
      rfl

/-- **The memory after some occurrences** has noted their pairs in order. -/
theorem seen_occur (os : List Occurrence) :
    ∀ c : Classifier, (occur s os c).state.seen = c.seen.noteAll (pairsIn os) := by
  induction os with
  | nil =>
      intro c
      rfl
  | cons o rest ih =>
      intro c
      show (occur s rest (timelineEvent s o.1 o.2 c).state).state.seen = _
      unfold pairsIn at ih ⊢
      rw [List.filterMap_eq_flatMap_toList] at ih ⊢
      rw [ih, seen_timelineEvent, noteAll_remember, List.flatMap_cons]

/-! ## §3. What goes unnoticed. -/

/-- An event goes unnoticed: nothing is announced, the crypto engine is not asked,
and all that is known stays, but for the memory. -/
def Suppressed (room : RoomId) (e : RoomEvent) (c : Classifier) : Prop :=
  (timelineEvent s room e c).effects = []
    ∧ { (timelineEvent s room e c).state with seen := c.seen } = c

/-- A new event is announced as an event at least. -/
theorem eventEffects_ne_nil (room : RoomId) (e : RoomEvent) : eventEffects s room e ≠ [] := by
  unfold eventEffects timelineSignals
  simp

theorem suppressed_iff_known {room : RoomId} {e : RoomEvent} {c : Classifier} :
    Suppressed s room e c ↔ (remember room e c.seen).2 = true := by
  constructor
  · rintro ⟨hquiet, -⟩
    by_contra hnew
    rw [timelineEvent_new s (Bool.eq_false_iff.2 hnew)] at hquiet
    exact eventEffects_ne_nil s room e hquiet
  · intro hknown
    unfold Suppressed
    rw [timelineEvent_known s hknown]
    exact ⟨rfl, rfl⟩

/-- An event without an id is always new, and not remembered. -/
theorem remember_nameless {room : RoomId} {e : RoomEvent} (hid : e.id = none) (seen : Memory) :
    remember room e seen = (seen, false) := by
  unfold remember
  rw [hid]

/-- A pair among the past ones is one of an occurrence in its room. -/
theorem mem_pairsIn {os : List Occurrence} {room : RoomId} {id : String} :
    (room, id) ∈ pairsIn os ↔ ∃ e, (room, e) ∈ os ∧ e.id = some id := by
  unfold pairsIn pair?
  rw [List.mem_filterMap]
  constructor
  · rintro ⟨⟨room', e⟩, ho, hpair⟩
    obtain ⟨id', hid, heq⟩ := Option.map_eq_some_iff.1 hpair
    cases heq
    exact ⟨e, ho, hid⟩
  · rintro ⟨e, ho, hid⟩
    exact ⟨(room, e), ho, by rw [hid]; rfl⟩

/-- **Which occurrences go unnoticed**, by those before them alone.  In any
timelines of any rooms that a new classifier takes in, an occurrence with an id
goes unnoticed exactly if its pair occurred before and fewer other pairs than the
memory can hold occurred since it did last, whether noticed or not.  An occurrence
without an id never does, and leaves the memory as it is.  Whatever does not go
unnoticed is applied and announced.  An id in another room is another pair. -/
theorem suppressed_iff_within (user : UserId) {calls : List (RoomId × List RoomEvent)}
    {past later : List Occurrence} {room : RoomId} {e : RoomEvent}
    (hsplit : occurrences calls = past ++ (room, e) :: later) :
    let before := occur s past { user }
    let turn := timelineEvent s room e before.state
    let after := occur s later turn.state
    timelines s calls { user } =
        ⟨after.state, before.effects ++ (turn.effects ++ after.effects), ()⟩
      ∧ (∀ id, e.id = some id →
        (Suppressed s room e before.state ↔
          Recency.Within memoryCapacity (pairsIn past) (room, id)))
      ∧ (e.id = none → ¬ Suppressed s room e before.state
        ∧ turn.state.seen = before.state.seen)
      ∧ (¬ Suppressed s room e before.state →
        turn.effects = eventEffects s room e
          ∧ turn.state = { before.state.applyState room [e] with seen := turn.state.seen })
      ∧ ∀ id, e.id = some id → Suppressed s room e before.state →
          ∃ e', (room, e') ∈ past ∧ e'.id = some id := by
  intro before turn after
  have hseen : before.state.seen = ({} : Memory).noteAll (pairsIn past) :=
    seen_occur s past { user }
  have hwithin : ∀ id, e.id = some id →
      (Suppressed s room e before.state ↔
        Recency.Within memoryCapacity (pairsIn past) (room, id)) := by
    intro id hid
    rw [suppressed_iff_known, remember_snd hid, hseen, Recency.mem_noteAll]
  refine ⟨?_, hwithin, fun hid => ⟨?_, ?_⟩, fun hnoticed => ?_, fun id hid hquiet => ?_⟩
  · rw [timelines_eq, hsplit]
    exact occur_split s past later (room, e) { user }
  · rw [suppressed_iff_known, remember_nameless hid]
    exact Bool.false_ne_true
  · show (timelineEvent s room e before.state).state.seen = before.state.seen
    rw [seen_timelineEvent, remember_nameless hid]
  · rw [suppressed_iff_known, Bool.not_eq_true] at hnoticed
    have hturn : turn = _ := timelineEvent_new s hnoticed
    rw [hturn]
    exact ⟨rfl, rfl⟩
  · obtain ⟨earlier, between, hpast, -⟩ := (hwithin id hid).1 hquiet
    refine mem_pairsIn.1 ?_
    rw [hpast]
    exact List.mem_append_right _ List.mem_cons_self

/-! ## §4. The edge of the memory. -/

namespace Edge

def user : UserId := ⟨"@reading:x", by decide +kernel⟩

def room : RoomId := ⟨"!quiet:x", by decide +kernel⟩

def busy : RoomId := ⟨"!busy:x", by decide +kernel⟩

/-- The event that comes twice. -/
def message : RoomEvent := { id := some "$message", type := "m.room.message" }

/-- Events that come in the meantime, each with an id of its own. -/
def chatter (i : Nat) : RoomEvent :=
  { id := some (String.ofList (List.replicate i 'x')), type := "m.room.message" }

/-- The message comes, then so many events of the busy room, then the message. -/
def calls (n : Nat) : List (RoomId × List RoomEvent) :=
  [(room, [message]), (busy, (List.range n).map chatter), (room, [message])]

/-- What occurs before the message comes again. -/
def past (n : Nat) : List Occurrence :=
  (room, message) :: ((List.range n).map chatter).map (busy, ·)

theorem calls_split (n : Nat) : occurrences (calls n) = past n ++ (room, message) :: [] := by
  simp [occurrences, calls, past]

/-- The pairs in between. -/
def between (n : Nat) : List (RoomId × String) :=
  (List.range n).map fun i => (busy, String.ofList (List.replicate i 'x'))

theorem pairsIn_past (n : Nat) : pairsIn (past n) = [] ++ (room, "$message") :: between n := by
  simp [pairsIn, past, between, pair?, message, chatter, Function.comp_def]

/-- As many pairs came in between as events did. -/
theorem within_past (n : Nat) :
    Recency.Within memoryCapacity (pairsIn (past n)) (room, "$message") ↔ n < memoryCapacity := by
  have hother : (room, "$message") ∉ between n := by
    have hrooms : busy ≠ room := by decide +kernel
    simp [between, hrooms]
  have hnodup : (between n).Nodup := by
    refine List.Nodup.map (fun i j hij => ?_) List.nodup_range
    have hnames : (List.replicate i 'x') = List.replicate j 'x' :=
      String.ofList_injective (congrArg Prod.snd hij)
    simpa using congrArg List.length hnames
  rw [pairsIn_past, Recency.within_split hother, List.toFinset_card_of_nodup hnodup]
  simp [between]

end Edge

/-- The message is still remembered after 4095 other events, and is not after
4096. -/
theorem message_after_busy_room :
    (occurrences (Edge.calls 4095) = Edge.past 4095 ++ (Edge.room, Edge.message) :: []
        ∧ Suppressed {} Edge.room Edge.message
          (occur {} (Edge.past 4095) { user := Edge.user }).state)
      ∧ occurrences (Edge.calls 4096) = Edge.past 4096 ++ (Edge.room, Edge.message) :: []
        ∧ ¬ Suppressed {} Edge.room Edge.message
          (occur {} (Edge.past 4096) { user := Edge.user }).state := by
  obtain ⟨-, hbelow, -⟩ := suppressed_iff_within {} Edge.user (Edge.calls_split 4095)
  obtain ⟨-, habove, -⟩ := suppressed_iff_within {} Edge.user (Edge.calls_split 4096)
  have hlast : 4095 < memoryCapacity := by decide
  have hfull : ¬ 4096 < memoryCapacity := by decide
  exact ⟨⟨Edge.calls_split 4095, (hbelow "$message" rfl).2 ((Edge.within_past 4095).2 hlast)⟩,
    Edge.calls_split 4096, fun hquiet => hfull
      ((Edge.within_past 4096).1 ((habove "$message" rfl).1 hquiet))⟩

end Classifier

end RoomSync
