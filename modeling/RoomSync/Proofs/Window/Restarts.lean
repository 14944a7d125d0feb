/-
  RoomSync.Proofs.Window.Restarts
  ───────────────────────────────
  **WHICH LIST COMES BACK WHERE.**

  Answers and requests go by the place of a list in the configured order.  What
  is saved goes by the kind of a list: on a restart each saved list, in order,
  takes the first place of its kind.  Nothing keeps a configuration from naming
  a kind twice, and then the two ways of addressing differ:

      Running.placed           — what a run of answers and restarts keeps
      resumed_places           — where each list of a session comes back
      repeated_kind_loses_list — a kind that is named twice

  Where no kind is named twice, every list comes back in its own place, without
  its timelines.
-/
import RoomSync.Configuration.Basic
import RoomSync.Proofs.Window.Resume

namespace RoomSync.Window

open Engine

/-! ## §1. Lists that look alike. -/

/-- Two lists say the same of everything but timelines. -/
structure Alike (l l' : RoomList) : Prop where
  behaviour : l.behaviour = l'.behaviour
  total : l.total = l'.total
  ranges : l.ranges = l'.ranges
  slots : ∀ index, l.roomIdAt index = l'.roomIdAt index
  facts : ∀ id, (l.rooms.get? id).map (·.facts) = (l'.rooms.get? id).map (·.facts)

theorem Alike.symm {l l' : RoomList} (h : Alike l l') : Alike l' l :=
  ⟨h.behaviour.symm, h.total.symm, h.ranges.symm, fun index => (h.slots index).symm,
    fun id => (h.facts id).symm⟩

theorem Alike.trans {l l' l'' : RoomList} (h : Alike l l') (h' : Alike l' l'') : Alike l l'' :=
  ⟨h.behaviour.trans h'.behaviour, h.total.trans h'.total, h.ranges.trans h'.ranges,
    fun index => (h.slots index).trans (h'.slots index),
    fun id => (h.facts id).trans (h'.facts id)⟩

theorem alike_withoutTimelines (l : RoomList) : Alike l l.withoutTimelines where
  behaviour := rfl
  total := rfl
  ranges := rfl
  slots := fun _ => rfl
  facts := by
    intro id
    rw [RoomList.get?_withoutTimelines, Option.map_map]
    rfl

/-! ## §2. Runs. -/

/-- A session that takes in answers, and the position of the last one.  It
starts on storage in which nothing is read, or on what a session before it left
there, whatever options that one ran under. -/
inductive Running : Options → Session Engine → Option String → Prop
  | started {o : Options} (session : Session Engine) (hoptions : session.loop.options = o)
      (hnothing : readWindows (savedText session) = none)
      (hok : (prepare session).answer = .ok ()) : Running o (prepare session).state none
  | restarted {o o' : Options} {before : Session Engine} {pos : String}
      (h : Running o' before (some pos)) (session : Session Engine)
      (hoptions : session.loop.options = o)
      (hread : readWindows (savedText session) = some (before.loop.save pos))
      (hok : (prepare session).answer = .ok ()) : Running o (prepare session).state none
  | later {o : Options} {session : Session Engine} {last : Option String}
      (h : Running o session last) (faults : StoreMethod → Option SyncError)
      (server : Homeserver) : Running o (session.later faults server) last
  | processed {o : Options} {session : Session Engine} {last : Option String}
      (h : Running o session last) (s : Services) (b : Batch)
      (hok : (process s b session).answer = .ok ()) :
      Running o (process s b session).state (some b.pos)

/-- What holds of a session at any time. -/
structure Placed (o : Options) (session : Session Engine) (last : Option String) : Prop where
  kinds : session.loop.lists.map (·.behaviour) = o.lists
  fit : ∀ l ∈ session.loop.lists, Fit o l
  pos : ∀ pos, last = some pos → session.loop.pos = some pos
  saved : ∀ pos, last = some pos → savedText session = some (session.loop.save pos).encode.text

/-- The session that starts on saved windows. -/
theorem loop_prepare {session : Session Engine} {o : Options} {saved : SavedWindows}
    (hoptions : session.loop.options = o) (hread : readWindows (savedText session) = some saved)
    (hok : (prepare session).answer = .ok ()) : (prepare session).state.loop = resume o saved := by
  rw [state_prepare hok]
  show Engine.start session.loop.options (savedText session) = resume o saved
  unfold Engine.start
  rw [hoptions, show (savedText session).bind (Json.Decode.ofText? SavedWindows.decode) =
    some saved from hread]

/-- **What a run of answers and restarts keeps.** -/
theorem Running.placed {o : Options} {session : Session Engine} {last : Option String}
    (h : Running o session last) : Placed o session last := by
  induction h with
  | @started o session hoptions hnothing hok =>
      have hloop : (prepare session).state.loop = .create o := by
        rw [state_prepare hok]
        show Engine.start session.loop.options (savedText session) = .create o
        unfold Engine.start
        rw [hoptions, show (savedText session).bind (Json.Decode.ofText? SavedWindows.decode) =
          none from hnothing]
      refine ⟨?_, ?_, fun _ hpos => (nomatch hpos), fun _ hpos => (nomatch hpos)⟩
      · rw [hloop]
        exact kinds_freshLists o
      · rw [hloop]
        exact fit_freshLists o
  | @restarted o o' before pos _ session hoptions hread hok ih =>
      have hlists : (prepare session).state.loop.lists =
          (before.loop.lists.map fun l => l.save.restore o.pageSize).foldl replaceList
            (freshLists o) := by
        rw [loop_prepare hoptions hread hok, lists_resume]
      refine ⟨?_, ?_, fun _ hpos => (nomatch hpos), fun _ hpos => (nomatch hpos)⟩
      · rw [hlists, foldl_replaceList_kinds]
        exact kinds_freshLists o
      · intro l hl
        rw [hlists] at hl
        rcases mem_foldl_replaceList _ hl with hl | hl
        · exact fit_freshLists o l hl
        · -- a list that was saved under other options is cut anew
          obtain ⟨m, hm, rfl⟩ := List.mem_map.1 hl
          have hrestored := (ih.fit m hm).wellFormed.restore_save o.pageSize
          refine ⟨?_, ?_⟩
          · rw [hrestored]
            exact (ih.fit m hm).wellFormed.reloaded o.pageSize
          · rw [hrestored]
            rfl
  | later _ faults server ih => exact ⟨ih.kinds, ih.fit, ih.pos, ih.saved⟩
  | @processed o session last _ s b hok ih =>
      rw [state_process hok]
      refine ⟨?_, ?_, ?_, ?_⟩
      · exact (takeIn_behaviours _ session.loop.lists b).trans ih.kinds
      · exact takeIn_all _ (fun l op hl => hl.apply _ op) (fun l n hl => hl.setTotal n) _ b ih.fit
      · rintro pos hpos
        exact hpos
      · rintro pos hpos
        obtain rfl := Option.some.inj hpos
        exact savedText_processed s b session

/-! ## §3. The resumed session. -/

/-- **When a list comes back as it was**: at the first place of its kind if the
last list of the kind looks like it, at any other if nothing was known of it. -/
theorem alike_comesBack {o : Options} {lists : List RoomList} {l : RoomList} (hl : l ∈ lists)
    (k : Nat) :
    Alike l (comesBack o lists k l.behaviour) ↔
      (IsFirst o.lists k ∧ ∃ last, lastOf lists l.behaviour = some last ∧ Alike l last)
        ∨ (¬ IsFirst o.lists k ∧ Alike l (.create l.behaviour o.pageSize)) := by
  obtain ⟨last, hlast⟩ := exists_lastOf hl
  unfold comesBack
  rw [hlast, Option.getD_some]
  by_cases hfirst : IsFirst o.lists k
  · rw [if_pos hfirst]
    constructor
    · intro hsame
      exact .inl ⟨hfirst, last, rfl, hsame.trans (alike_withoutTimelines last).symm⟩
    · rintro (⟨-, m, hm, hsame⟩ | ⟨hlater, -⟩)
      · obtain rfl := Option.some.inj hm
        exact hsame.trans (alike_withoutTimelines last)
      · exact absurd hfirst hlater
  · rw [if_neg hfirst]
    constructor
    · intro hsame
      exact .inr ⟨hfirst, hsame⟩
    · rintro (⟨hlater, -⟩ | ⟨-, hsame⟩)
      · exact absurd hlater hfirst
      · exact hsame

/-- **Where each list of a session comes back.**  A session that reads what an
earlier one saved with its last answer, under the same options, goes on at the
position of that answer and has the same kinds of lists in the same order.  The
first place of a kind gets the last list of it, every other place a new list; so
a list comes back as it was exactly if it stands first and the last of its kind
looks like it, or if it stands later and nothing was known of it.  If no kind is
named twice, all lists come back as they were. -/
theorem resumed_places {o : Options} {old again : Session Engine} {pos : String}
    (h : Running o old (some pos)) (hoptions : again.loop.options = o)
    (hread : readWindows (savedText again) = some (old.loop.save pos))
    (hok : (prepare again).answer = .ok ()) :
    savedText old = some (old.loop.save pos).encode.text
      ∧ (old.loop.pos = some pos ∧ (prepare again).state.loop.pos = some pos)
      ∧ (prepare again).state.loop.lists.map (·.behaviour) =
        old.loop.lists.map (·.behaviour)
      ∧ (∀ k : Nat, (prepare again).state.loop.lists[k]? =
          old.loop.lists[k]?.map fun l => comesBack o old.loop.lists k l.behaviour)
      ∧ (∀ (k : Nat) l l', old.loop.lists[k]? = some l →
          (prepare again).state.loop.lists[k]? = some l' →
          (Alike l l' ↔
            (IsFirst o.lists k ∧
                ∃ last, lastOf old.loop.lists l.behaviour = some last ∧ Alike l last)
              ∨ (¬ IsFirst o.lists k ∧ Alike l (.create l.behaviour o.pageSize))))
      ∧ (o.lists.Nodup → ∀ (k : Nat) l, old.loop.lists[k]? = some l →
          ∃ l', (prepare again).state.loop.lists[k]? = some l' ∧ Alike l l') := by
  have hplaced := h.placed
  have hloop := loop_prepare hoptions hread hok
  have hkinds : (prepare again).state.loop.lists.map (·.behaviour) = o.lists := by
    rw [hloop, lists_resume, foldl_replaceList_kinds]
    exact kinds_freshLists o
  have hlists : ∀ k : Nat, (prepare again).state.loop.lists[k]? =
      old.loop.lists[k]?.map fun l => comesBack o old.loop.lists k l.behaviour := by
    intro k
    rw [hloop, getElem?_resume hplaced.fit, ← hplaced.kinds, List.getElem?_map, Option.map_map]
    rfl
  refine ⟨hplaced.saved pos rfl, ⟨hplaced.pos pos rfl, ?_⟩, hkinds.trans hplaced.kinds.symm,
    hlists, ?_, ?_⟩
  · rw [hloop]
    rfl
  · intro k l l' hl hl'
    rw [hlists, hl] at hl'
    obtain rfl := Option.some.inj hl'
    exact alike_comesBack (List.mem_of_getElem? hl) k
  · intro hnodup k l hl
    refine ⟨l.withoutTimelines, ?_, alike_withoutTimelines l⟩
    rw [hlists, hl]
    exact congrArg some (comesBack_of_nodup hnodup hplaced.kinds hl)

/-! ## §4. Kinds that are named once and twice. -/

namespace NamedTwice

/-- A client that keeps these lists. -/
def config (lists : List Behaviour) : Configuration :=
  { homeserver := "https://x", accessToken := "t", userId := "@twice:x", mode := .windowed
    lists := some lists }

def user : UserId := ⟨"@twice:x", by decide +kernel⟩

def room : RoomId := ⟨"!twice:x", by decide +kernel⟩

/-- A room comes into the first list; the first two lists have one room each. -/
def batch : Batch :=
  { pos := "1", counts := [1, 1], operations := [.insert 0 0 { roomId := some room }] }

/-- A session that starts, on this storage. -/
def starting (lists : List Behaviour) (store : Store) : Session Engine :=
  ⟨.create (config lists).windowOptions, { classifier := { user }, store }⟩

/-- The session that took the answer in. -/
def old (lists : List Behaviour) : Session Engine :=
  (process {} batch (prepare (starting lists {})).state).state

/-- A session on the storage that it left. -/
def again (lists : List Behaviour) : Session Engine := starting lists (old lists).world.store

theorem running (lists : List Behaviour) :
    Running (config lists).windowOptions (old lists) (some "1") := by
  refine (Running.started (starting lists {}) rfl rfl (prepare_done rfl).2).processed {} batch ?_
  exact (process_done {} batch _ rfl).2

theorem answer_again (lists : List Behaviour) : (prepare (again lists)).answer = .ok () :=
  (prepare_done rfl).2

end NamedTwice

open NamedTwice in
/-- With a kind that is named once, the room is back in its list. -/
theorem kind_named_once_comes_back :
    (config [.joined]).fault? = none
      ∧ readWindows (savedText (again [.joined])) =
        some ((old [.joined]).loop.save "1")
      ∧ ((old [.joined]).loop.lists[0]?.bind (·.roomIdAt 0)) = some room
      ∧ ∃ l', (prepare (again [.joined])).state.loop.lists[0]? = some l'
        ∧ l'.roomIdAt 0 = some room := by
  have hread : readWindows (savedText (again [.joined])) =
      some ((old [.joined]).loop.save "1") := by
    decide +kernel
  have hold : ((old [.joined]).loop.lists[0]?.bind (·.roomIdAt 0)) = some room := by
    decide +kernel
  obtain ⟨l, hl, hroom⟩ := Option.bind_eq_some_iff.1 hold
  obtain ⟨-, -, -, -, -, hsame⟩ := resumed_places (running _) rfl hread (answer_again _)
  obtain ⟨l', hl', halike⟩ := hsame (by decide) 0 l hl
  exact ⟨by decide +kernel, hread, hold, l', hl', (halike.slots 0).symm.trans hroom⟩

open NamedTwice in
/-- **A kind that is named twice loses a list.**  The client accepts such a
configuration; after a restart the first list is empty, since the second one was
put in its place. -/
theorem repeated_kind_loses_list :
    (config [.joined, .joined]).fault? = none
      ∧ Running (config [.joined, .joined]).windowOptions (old [.joined, .joined]) (some "1")
      ∧ (again [.joined, .joined]).loop.options = (config [.joined, .joined]).windowOptions
      ∧ readWindows (savedText (again [.joined, .joined])) =
        some ((old [.joined, .joined]).loop.save "1")
      ∧ (prepare (again [.joined, .joined])).answer = .ok ()
      ∧ ((old [.joined, .joined]).loop.lists[0]?.bind (·.roomIdAt 0)) = some room
      ∧ ((prepare (again [.joined, .joined])).state.loop.lists[0]?.bind (·.roomIdAt 0)) = none := by
  have hread : readWindows (savedText (again [.joined, .joined])) =
      some ((old [.joined, .joined]).loop.save "1") := by
    decide +kernel
  refine ⟨by decide +kernel, running _, rfl, hread, answer_again _, by decide +kernel, ?_⟩
  rw [loop_prepare rfl hread (answer_again _)]
  decide +kernel

end RoomSync.Window
