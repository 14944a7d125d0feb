/-
  RoomSync.Proofs.Window.Resume
  ─────────────────────────────
  **WHAT A RESUMED SESSION KNOWS OF MEMBERSHIPS.**

  Memberships are kept twice.  The classifier goes by the last word of the
  payloads, where the event with the least age decides; the rooms of the lists
  go by the last member event they took in, and else by the kind of their
  list.  Only the rooms are saved.  A session that starts again asks them
  (`Recorded`), so it agrees with the one before exactly where the two ways of
  keeping agree:

      Followed.invariant    — what a run of answers keeps
      getElem?_resume       — what comes back at the place of a list
      resume_save           — all of it, where no kind of list is kept twice
      isJoined_resumed      — what a resumed session takes for joined
      resumed_agrees_iff    — when that is what was joined before
-/
import RoomSync.Proofs.Window.Batches
import RoomSync.Proofs.Window.Places
import RoomSync.Proofs.Window.Reload

namespace RoomSync.Window

open Engine
open Classifier (Word)

/-! ## §1. What lists record. -/

/-- Some list records this membership for a room: the room says so, or says
nothing and its list implies it. -/
def Recorded (lists : List RoomList) (room : RoomId) (m : Membership) : Prop :=
  ∃ l ∈ lists, ∃ r, l.rooms.get? room = some r
    ∧ r.facts.ownMembership.or (implied l.behaviour) = some m

/-- The memberships that a session tells the classifier are those on record. -/
theorem mem_knownMemberships {e : Engine} (hown : ∀ l ∈ e.lists, l.WellFormed) (room : RoomId)
    (m : Membership) : (room, m) ∈ e.knownMemberships ↔ Recorded e.lists room m := by
  unfold Engine.knownMemberships Recorded
  rw [List.mem_flatMap]
  refine exists_congr fun l => and_congr_right fun hl => ?_
  rw [List.mem_filterMap]
  constructor
  · rintro ⟨⟨id, r⟩, hentry, hsays⟩
    obtain ⟨m', hm', heq⟩ := Option.map_eq_some_iff.1 hsays
    have hget := Table.mem_entries.1 hentry
    -- a room is told under its own id, which is its key
    obtain ⟨hroom, rfl⟩ := Prod.mk.inj heq
    rw [(hown l hl).own id r hget] at hroom
    subst hroom
    exact ⟨r, hget, hm'⟩
  · rintro ⟨r, hget, hm⟩
    refine ⟨(room, r), Table.mem_entries.2 hget, ?_⟩
    show (r.facts.ownMembership.or (implied l.behaviour)).map (r.id, ·) = some (room, m)
    rw [hm, (hown l hl).own room r hget]
    rfl

/-- Lists that lose their timelines record the same. -/
theorem recorded_withoutTimelines (lists : List RoomList) (room : RoomId) (m : Membership) :
    Recorded (lists.map RoomList.withoutTimelines) room m ↔ Recorded lists room m := by
  unfold Recorded
  constructor
  · rintro ⟨l', hl', r', hget, hm⟩
    obtain ⟨l, hl, rfl⟩ := List.mem_map.1 hl'
    rw [RoomList.get?_withoutTimelines, Option.map_eq_some_iff] at hget
    obtain ⟨r, hr, rfl⟩ := hget
    exact ⟨l, hl, r, hr, hm⟩
  · rintro ⟨l, hl, r, hget, hm⟩
    refine ⟨l.withoutTimelines, List.mem_map.2 ⟨l, hl, rfl⟩, r.save.restore, ?_, hm⟩
    rw [RoomList.get?_withoutTimelines, hget]
    rfl

/-! ## §2. Saved lists that come back. -/

/-- What every list of a session is, whatever it took in. -/
structure Fit (o : Options) (l : RoomList) : Prop where
  wellFormed : l.WellFormed
  pageSize : l.pageSize = max o.pageSize 1

theorem fit_create (o : Options) (b : Behaviour) : Fit o (.create b o.pageSize) :=
  ⟨RoomList.wellFormed_create b o.pageSize, rfl⟩

theorem Fit.apply {o : Options} {l : RoomList} (h : Fit o l) (user : UserId) (op : Operation) :
    Fit o (l.apply user op).1 :=
  ⟨h.wellFormed.apply user op,
    (congrArg Prod.snd (RoomList.kind_apply user l op)).trans h.pageSize⟩

theorem Fit.setTotal {o : Options} {l : RoomList} (h : Fit o l) (n : Nat) :
    Fit o { l with total := n } := ⟨h.wellFormed.setTotal n, h.pageSize⟩

theorem fit_freshLists (o : Options) : ∀ l ∈ freshLists o, Fit o l := by
  intro l hl
  obtain ⟨b, -, rfl⟩ := List.mem_map.1 hl
  exact fit_create o b

/-- Nothing is lost of a new list. -/
theorem withoutTimelines_create (b : Behaviour) (pageSize : Nat) :
    (RoomList.create b pageSize).withoutTimelines = .create b pageSize := rfl

/-- What comes back at a place: at the first place of a kind the last list of
it, at any other a new list. -/
def comesBack (o : Options) (lists : List RoomList) (k : Nat) (b : Behaviour) : RoomList :=
  if IsFirst o.lists k then ((lastOf lists b).getD (.create b o.pageSize)).withoutTimelines
  else .create b o.pageSize

/-- **What comes back at each place** of a session that takes up saved lists. -/
theorem getElem?_resume {o : Options} {e : Engine} (hfit : ∀ l ∈ e.lists, Fit o l)
    (pos : String) (k : Nat) :
    (resume o (e.save pos)).lists[k]? = o.lists[k]?.map (comesBack o e.lists k) := by
  have hrestored : (e.lists.map fun l => l.save.restore o.pageSize) =
      e.lists.map RoomList.withoutTimelines := by
    refine List.map_congr_left fun l hl => ?_
    rw [(hfit l hl).wellFormed.restore_save]
    exact (hfit l hl).wellFormed.reloaded_self (hfit l hl).pageSize.symm
  rw [lists_resume, hrestored, getElem?_foldl_replaceList, kinds_freshLists]
  unfold freshLists
  rw [List.getElem?_map]
  cases o.lists[k]? with
  | none => rfl
  | some b =>
      refine congrArg some ?_
      have hlast := lastOf_map (f := RoomList.withoutTimelines) (fun _ => rfl) e.lists b
      unfold comesBack
      split
      next =>
        refine (congrArg (Option.getD · (RoomList.create b o.pageSize)) hlast).trans ?_
        cases lastOf e.lists b with
        | none => exact (withoutTimelines_create b o.pageSize).symm
        | some last => rfl
      next => rfl

/-- Where no kind is named twice, every list comes back in its place. -/
theorem comesBack_of_nodup {o : Options} {lists : List RoomList} (hdistinct : o.lists.Nodup)
    (hkinds : lists.map (·.behaviour) = o.lists) {k : Nat} {l : RoomList}
    (hl : lists[k]? = some l) : comesBack o lists k l.behaviour = l.withoutTimelines := by
  have hlt : k < o.lists.length := by
    rw [← hkinds, List.length_map]
    exact (List.getElem?_eq_some_iff.1 hl).1
  have hnodup : (lists.map (·.behaviour)).Nodup := by
    rw [hkinds]
    exact hdistinct
  unfold comesBack
  rw [if_pos (isFirst_of_nodup hdistinct hlt), lastOf_of_nodup hnodup (List.mem_of_getElem? hl),
    Option.getD_some]

/-- **Saved lists come back without timelines.** -/
theorem resume_save {o : Options} {e : Engine} (pos : String) (hdistinct : o.lists.Nodup)
    (hkinds : e.lists.map (·.behaviour) = o.lists) (hfit : ∀ l ∈ e.lists, Fit o l) :
    (resume o (e.save pos)).lists = e.lists.map RoomList.withoutTimelines := by
  refine List.ext_getElem? fun k => ?_
  rw [getElem?_resume hfit, List.getElem?_map, ← hkinds, List.getElem?_map, Option.map_map]
  cases hl : e.lists[k]? with
  | none => rfl
  | some l => exact congrArg some (comesBack_of_nodup hdistinct hkinds hl)

/-! ## §3. Runs. -/

/-- A session that started on empty storage and then took in answers, with
the payloads that they touched.  Between answers storage may fail and recover,
the homeserver may change, and so may the services. -/
inductive Followed (o : Options) (user : UserId) : Session Engine → List Word → Prop
  | prepared (session : Session Engine) (hoptions : session.loop.options = o)
      (hfresh : session.world.classifier = { user }) (hempty : session.document = {})
      (hok : (prepare session).answer = .ok ()) : Followed o user (prepare session).state []
  | later {session : Session Engine} {words : List Word} (h : Followed o user session words)
      (faults : StoreMethod → Option SyncError) (server : Homeserver) :
      Followed o user (session.later faults server) words
  | processed {session : Session Engine} {words : List Word} (h : Followed o user session words)
      (s : Services) (b : Batch) (hok : (process s b session).answer = .ok ()) :
      Followed o user (process s b session).state
        (words ++ (takeIn user session.loop.lists b).2)

/-- A session before it reads what is saved. -/
def blank (session : Session Engine) : Session Engine :=
  { session with loop := .create session.loop.options }

/-- What a session finds in storage. -/
def savedText (session : Session Engine) : Option String :=
  session.document.values.get? storageKey

/-- A batch that is saved is what is found. -/
theorem savedText_processed (s : Services) (b : Batch) (session : Session Engine) :
    savedText (processed s b session) =
      some ((processed s b session).loop.save b.pos).encode.text := by
  show (session.document.values.insert storageKey _).get? storageKey = _
  rw [Table.get?_insert, if_pos rfl]
  rfl

/-- The session that takes up what is saved. -/
def prepared (session : Session Engine) : Session Engine :=
  let engine := Engine.start session.loop.options (savedText session)
  { loop := engine
    world := { session.world with
      classifier := engine.knownMemberships.foldl (fun c (room, m) => c.restore room m)
        session.world.classifier } }

theorem update_blank (session : Session Engine) :
    Session.update (fun e => .create e.options) session = ⟨blank session, [], .ok ()⟩ := rfl

/-- A session that cannot read storage does not start. -/
theorem prepare_failed {session : Session Engine} {e : SyncError}
    (hfault : session.fault .readValue = some e) : (prepare session).answer = .error e := by
  have hread : Session.onWorld (World.onStore (Store.readValue storageKey)) (blank session) =
      ⟨blank session, [], .error e⟩ := Session.read_failed hfault
  unfold prepare
  rw [Action.bind_ok (update_blank session), Action.bind_error hread]

/-- **A session that can read storage** takes up what it finds. -/
theorem prepare_done {session : Session Engine} (hworks : session.fault .readValue = none) :
    (prepare session).state = prepared session ∧ (prepare session).answer = .ok () := by
  have hread : Session.onWorld (World.onStore (Store.readValue storageKey)) (blank session) =
      ⟨blank session, [], .ok (savedText session)⟩ := Session.read_done hworks
  unfold prepare
  rw [Action.bind_ok (update_blank session), Action.bind_ok hread]
  exact ⟨rfl, rfl⟩

theorem state_prepare {session : Session Engine} (hok : (prepare session).answer = .ok ()) :
    (prepare session).state = prepared session := by
  cases hfault : session.fault .readValue with
  | none => exact (prepare_done hfault).1
  | some e =>
      rw [prepare_failed hfault] at hok
      cases hok

/-! ## §4. What a run keeps. -/

/-- Of new lists no membership is known. -/
theorem knownMemberships_create (o : Options) : (Engine.create o).knownMemberships = [] := by
  refine List.flatMap_eq_nil_iff.2 fun l hl => ?_
  obtain ⟨b, -, rfl⟩ := List.mem_map.1 hl
  rfl

/-- What holds after a run of answers. -/
structure Kept (o : Options) (user : UserId) (session : Session Engine) (words : List Word) :
    Prop where
  user_eq : session.world.classifier.user = user
  kinds : session.loop.lists.map (·.behaviour) = o.lists
  fit : ∀ l ∈ session.loop.lists, Fit o l
  joined : session.world.classifier.isJoined =
    Classifier.heardAll user words fun _ => false
  saved : savedText session = none
    ∨ ∃ pos, savedText session = some (session.loop.save pos).encode.text

/-- **What a run of answers keeps.** -/
theorem Followed.kept {o : Options} {user : UserId} {session : Session Engine}
    {words : List Word} (h : Followed o user session words) : Kept o user session words := by
  induction h with
  | prepared session hoptions hfresh hempty hok =>
      -- empty storage has no saved text, so the lists are new
      have hnone : savedText session = none := by
        unfold savedText
        rw [hempty]
        rfl
      have hstate : (prepare session).state =
          { loop := .create o, world := { session.world with classifier := { user } } } := by
        rw [state_prepare hok]
        unfold Window.prepared
        rw [hnone, hoptions]
        show Session.mk (Engine.create o) { session.world with
          classifier := (Engine.create o).knownMemberships.foldl _ session.world.classifier } = _
        rw [knownMemberships_create, hfresh]
        rfl
      rw [hstate]
      exact ⟨rfl, kinds_freshLists o, fit_freshLists o, rfl, .inl hnone⟩
  | later h faults server ih => exact ⟨ih.user_eq, ih.kinds, ih.fit, ih.joined, ih.saved⟩
  | @processed session words h s b hok ih =>
      -- an answer taken in successfully was saved
      rw [state_process hok, ← ih.user_eq]
      refine ⟨Classifier.user_windowedAll s _ _, ?_, ?_, ?_,
        .inr ⟨b.pos, savedText_processed s b session⟩⟩
      · exact (takeIn_behaviours _ session.loop.lists b).trans ih.kinds
      · exact takeIn_all _ (fun l op hl => hl.apply _ op) (fun l n hl => hl.setTotal n) _ b ih.fit
      · refine (Classifier.isJoined_windowedAll s _ _).trans ?_
        rw [Classifier.heardAll_append, ih.joined, ih.user_eq]

/-! ## §5. The resumed session. -/

/-- What a resumed session takes for joined: what the lists that it reads
record as joined. -/
theorem isJoined_resumed {o : Options} {user : UserId} {again : Session Engine}
    (hoptions : again.loop.options = o) (hfresh : again.world.classifier = { user })
    (hok : (prepare again).answer = .ok ()) (room : RoomId) :
    (prepare again).state.world.classifier.isJoined room = true ↔
      (room, .join) ∈ (Engine.start o (savedText again)).knownMemberships := by
  rw [state_prepare hok]
  unfold Window.prepared
  dsimp only
  rw [Classifier.isJoined_restoreAll, hoptions, hfresh, Bool.or_eq_true, decide_eq_true_eq]
  -- the classifier is fresh, so all that it knows was read
  have hnobody : Classifier.isJoined { user } room = false := rfl
  rw [hnobody]
  exact or_iff_left Bool.false_ne_true

/-- The windows that a text stands for. -/
def readWindows (text : Option String) : Option SavedWindows :=
  text.bind (Json.Decode.ofText? SavedWindows.decode)

/-- **When a resumed session agrees with the one before.**  That one went by
the payloads it took in; the resumed one goes by what it reads in storage.  If
it reads what was saved, that is what the lists record; if it can read nothing,
it takes no room for joined. -/
theorem resumed_agrees_iff {o : Options} {user : UserId} {old again : Session Engine}
    {words : List Word} (hdistinct : o.lists.Nodup) (h : Followed o user old words)
    (hoptions : again.loop.options = o) (hfresh : again.world.classifier = { user })
    (hstore : again.document = old.document) (hok : (prepare again).answer = .ok ())
    (room : RoomId) :
    ((prepare again).state.world.classifier.isJoined room
          = old.world.classifier.isJoined room ↔
        ((room, .join) ∈ (Engine.start o (savedText old)).knownMemberships ↔
          Classifier.heardAll user words (fun _ => false) room = true))
      ∧ (savedText old = none
          ∨ ∃ pos, savedText old = some (old.loop.save pos).encode.text)
      ∧ (∀ pos, readWindows (savedText old) = some (old.loop.save pos) →
          ((prepare again).state.world.classifier.isJoined room
              = old.world.classifier.isJoined room ↔
            (Recorded old.loop.lists room .join ↔
              Classifier.heardAll user words (fun _ => false) room = true)))
      ∧ (readWindows (savedText old) = none →
          ((prepare again).state.world.classifier.isJoined room
              = old.world.classifier.isJoined room ↔
            Classifier.heardAll user words (fun _ => false) room = false)) := by
  have hkept := h.kept
  -- the resumed session reads what the old one saved last
  have htext : savedText again = savedText old := by
    unfold savedText
    rw [hstore]
  have hresumed := isJoined_resumed hoptions hfresh hok room
  rw [htext] at hresumed
  have hagree : (prepare again).state.world.classifier.isJoined room
        = old.world.classifier.isJoined room ↔
      ((room, .join) ∈ (Engine.start o (savedText old)).knownMemberships ↔
        Classifier.heardAll user words (fun _ => false) room = true) := by
    rw [← hresumed, hkept.joined]
    exact Bool.eq_iff_iff
  refine ⟨hagree, hkept.saved, ?_, ?_⟩
  · intro pos hread
    have hstart : Engine.start o (savedText old) = resume o (old.loop.save pos) := by
      unfold Engine.start
      rw [show (savedText old).bind (Json.Decode.ofText? SavedWindows.decode) =
        some (old.loop.save pos) from hread]
    have hlists := resume_save pos hdistinct hkept.kinds hkept.fit
    have hrecorded : (room, .join) ∈ (Engine.start o (savedText old)).knownMemberships ↔
        Recorded old.loop.lists room .join := by
      rw [hstart, mem_knownMemberships, hlists, recorded_withoutTimelines]
      intro l hl
      rw [hlists] at hl
      -- without timelines a list is as well formed as before
      obtain ⟨before, hbefore, rfl⟩ := List.mem_map.1 hl
      have hfit := hkept.fit before hbefore
      exact hfit.wellFormed.reloaded_self hfit.pageSize.symm ▸ hfit.wellFormed.reloaded o.pageSize
    rw [hagree, hrecorded]
  · intro hread
    have hstart : Engine.start o (savedText old) = Engine.create o := by
      unfold Engine.start
      rw [show (savedText old).bind (Json.Decode.ofText? SavedWindows.decode) = none from hread]
    rw [hagree, hstart, knownMemberships_create, Bool.eq_false_iff]
    exact ⟨fun hiff hheard => List.not_mem_nil (hiff.2 hheard),
      fun hno => ⟨fun hmem => absurd hmem List.not_mem_nil, fun hheard => absurd hheard hno⟩⟩

/-! ## §6. An older event that stands later. -/

namespace LaterButOlder

def user : UserId := ⟨"@resuming:x", by decide +kernel⟩

def room : RoomId := ⟨"!room:x", by decide +kernel⟩

/-- An event by which the user has this membership since then. -/
def member (membership : String) (age : Int) : RoomEvent :=
  { type := "m.room.member"
    stateKey := some user.text
    content := .object [("membership", .string membership)]
    unsigned := { age := some age } }

/-- The user is in the room, and had left it before. -/
def payload : Payload :=
  { roomId := some room, requiredState := [member "join" 5], timeline := [member "leave" 10] }

def batch : Batch := { pos := "1", operations := [.insert 0 0 payload] }

def joinedOnly : Options := { lists := [.joined] }

/-- A session that starts, on this storage. -/
def starting (store : Store) : Session Engine :=
  ⟨.create joinedOnly, { classifier := { user }, store }⟩

/-- The session that took the payload in. -/
def old : Session Engine := (process {} batch (prepare (starting {})).state).state

/-- A session on the storage that it left. -/
def again : Session Engine := starting old.world.store

theorem followed :
    Followed joinedOnly user old
      ([] ++ (takeIn user (prepare (starting {})).state.loop.lists batch).2) := by
  refine (Followed.prepared (starting {}) rfl rfl rfl (prepare_done rfl).2).processed {} batch ?_
  exact (process_done {} batch _ rfl).2

theorem answer_again : (prepare again).answer = .ok () :=
  (prepare_done rfl).2

end LaterButOlder

open LaterButOlder in
/-- The list of joined rooms holds the room, and the user is in it; after a
restart the user is not. -/
theorem resumed_session_forgets_join :
    joinedOnly.lists.Nodup
      ∧ (∃ words, Followed joinedOnly user old words)
      ∧ again.loop.options = joinedOnly
      ∧ again.world.classifier = { user }
      ∧ again.document = old.document
      ∧ (prepare again).answer = .ok ()
      ∧ (∃ l ∈ old.loop.lists, l.holds room = true)
      ∧ old.world.classifier.isJoined room = true
      ∧ (prepare again).state.world.classifier.isJoined room = false := by
  refine ⟨by decide, ⟨_, followed⟩, rfl, rfl, rfl, answer_again, ?_, ?_, ?_⟩
  · decide +kernel
  · decide +kernel
  · decide +kernel

open LaterButOlder in
/-- There the saved text is read as it was saved, so that the two ways of
keeping the membership disagree. -/
theorem forgotten_join_is_recorded_as_left :
    readWindows (savedText old) = some (old.loop.save "1")
      ∧ ((prepare again).state.world.classifier.isJoined room
            = old.world.classifier.isJoined room ↔
          (Recorded old.loop.lists room .join ↔
            Classifier.heardAll user
              ([] ++ (takeIn user (prepare (starting {})).state.loop.lists batch).2)
              (fun _ => false) room = true)) := by
  have hread : readWindows (savedText old) = some (old.loop.save "1") := by
    decide +kernel
  have hagrees := resumed_agrees_iff (by decide : joinedOnly.lists.Nodup) followed
    (rfl : again.loop.options = joinedOnly) rfl rfl answer_again room
  exact ⟨hread, hagrees.2.2.1 "1" hread⟩

end RoomSync.Window
