/-
  RoomSync.Proofs.Window.Restoring
  ────────────────────────────────
  **MEMBERSHIPS ARE TAKEN OVER IN ANY ORDER.**

  A session that takes up saved lists tells the classifier what they know of
  memberships, room by room.  Nothing says in which order a list goes through its
  rooms, and a room can stand in several lists that say different things of it.
  Each step looks at what the steps before it left behind: a join ends an invite,
  and an invite counts only for a room that is not joined.  Yet what is joined and
  invited in the end depends only on which memberships were told:

      isInvited_restore    — one membership
      isInvited_restoreAll — several: an invite stands unless the room is joined
      restoreAll_congr     — the same memberships give the same classifier
      told_perm            — any way through the lists tells the same
      restored_in_any_order — all of it, for the classifier and for sessions
-/
import Mathlib.Data.List.Perm.Basic
import Mathlib.Tactic.Tauto
import RoomSync.Proofs.Window.Resume

namespace RoomSync

namespace KeySet

variable {κ : Type} [Ord κ] [DecidableEq κ] [Std.TransOrd κ] [Std.LawfulEqOrd κ]

/-- Sets with the same keys are the same set. -/
theorem ext {s t : KeySet κ} (h : ∀ k, s.contains k = t.contains k) : s = t := by
  refine Table.ext fun k => ?_
  have hk : (s.get? k).isSome = (t.get? k).isSome := h k
  cases hs : s.get? k <;> cases ht : t.get? k <;> simp_all

end KeySet

namespace Classifier

/-! ## §1. One membership. -/

/-- An invite that is taken over counts unless the room is joined, and a join ends
the invite of its room. -/
theorem isInvited_restore (room : RoomId) (m : Membership) (c : Classifier) (r : RoomId) :
    (c.restore room m).isInvited r = true ↔
      (m = .invite ∧ r = room ∧ c.isJoined r = false)
        ∨ (c.isInvited r = true ∧ ¬ (m = .join ∧ r = room)) := by
  unfold restore
  cases m with
  | join =>
      refine (Bool.eq_iff_iff.1 (Table.contains_erase c.invited room r)).trans ?_
      simp [isInvited, and_comm]
  | invite =>
      dsimp only
      split
      next hjoined =>
        -- the room is joined, and so the invite does not count
        have hno : ¬ (r = room ∧ c.isJoined r = false) := by
          rintro ⟨rfl, hout⟩
          exact Bool.eq_false_iff.1 hout hjoined
        simp [hno]
      next hout =>
        refine (Bool.eq_iff_iff.1 (Table.contains_insert c.invited room r ())).trans ?_
        have hroom : r = room → c.isJoined r = false := by
          rintro rfl
          exact Bool.eq_false_iff.2 hout
        simp only [Bool.or_eq_true, decide_eq_true_eq, reduceCtorEq, false_and, not_false_eq_true,
          and_true, true_and]
        exact or_congr_left ⟨fun h => ⟨h, hroom h⟩, fun h => h.1⟩
  | leave | ban | knock | unknown => simp

/-- Only the joined and the invited rooms are changed. -/
theorem restore_eq (room : RoomId) (m : Membership) (c : Classifier) :
    ∃ joined invited, c.restore room m = { c with joined, invited } := by
  unfold restore
  cases m with
  | join => exact ⟨_, _, rfl⟩
  | invite =>
      dsimp only
      split
      next => exact ⟨c.joined, c.invited, rfl⟩
      next => exact ⟨c.joined, _, rfl⟩
  | leave | ban | knock | unknown => exact ⟨c.joined, c.invited, rfl⟩

/-! ## §2. Several memberships. -/

/-- Take over memberships from storage, one after the other. -/
def restoreAll (known : List (RoomId × Membership)) (c : Classifier) : Classifier :=
  known.foldl (fun c (room, m) => c.restore room m) c

theorem restoreAll_eq (known : List (RoomId × Membership)) :
    ∀ c : Classifier, ∃ joined invited, restoreAll known c = { c with joined, invited } := by
  induction known with
  | nil =>
      intro c
      exact ⟨c.joined, c.invited, rfl⟩
  | cons p rest ih =>
      intro c
      obtain ⟨joined, invited, hfirst⟩ := restore_eq p.1 p.2 c
      obtain ⟨joined', invited', hrest⟩ := ih (c.restore p.1 p.2)
      refine ⟨joined', invited', hrest.trans ?_⟩
      rw [hfirst]

/-- **Joined are the rooms that were, and those of a join.** -/
theorem joined_restoreAll (known : List (RoomId × Membership)) (c : Classifier) (r : RoomId) :
    (restoreAll known c).isJoined r = true ↔
      c.isJoined r = true ∨ (r, Membership.join) ∈ known := by
  have h := isJoined_restoreAll known r c
  unfold restoreAll
  rw [h, Bool.or_eq_true, decide_eq_true_eq, or_comm]

/-- **Invited are the rooms of an invite that are not joined in the end, and those
that were, without a join.**  The induction is on the memberships that are still to
come, since they decide whether the room is joined in the end. -/
theorem isInvited_restoreAll (known : List (RoomId × Membership)) (r : RoomId) :
    ∀ c : Classifier, (restoreAll known c).isInvited r = true ↔
      ((r, Membership.invite) ∈ known ∧ (restoreAll known c).isJoined r = false)
        ∨ (c.isInvited r = true ∧ (r, Membership.join) ∉ known) := by
  induction known with
  | nil =>
      intro c
      show c.isInvited r = true ↔ _
      simp
  | cons p rest ih =>
      intro c
      obtain ⟨room, m⟩ := p
      show (restoreAll rest (c.restore room m)).isInvited r = true ↔
        (_ ∧ (restoreAll rest (c.restore room m)).isJoined r = false) ∨ _
      -- the first membership, and whether the room is joined in the end
      have hjoined : (restoreAll rest (c.restore room m)).isJoined r = false ↔
          ¬ ((c.isJoined r = true ∨ (m = .join ∧ r = room)) ∨ (r, Membership.join) ∈ rest) := by
        rw [Bool.eq_false_iff, ne_eq, joined_restoreAll, isJoined_restore, Bool.or_eq_true,
          decide_eq_true_eq, or_comm (a := m = .join ∧ r = room)]
      rw [ih, isInvited_restore, hjoined, List.mem_cons, List.mem_cons, Prod.mk.injEq,
        Prod.mk.injEq, Bool.eq_false_iff, eq_comm (b := m), eq_comm (b := m)]
      -- a membership is no join and invite at once
      have hone : ¬ (m = .join ∧ m = .invite) := by
        rintro ⟨rfl, h⟩
        cases h
      tauto

/-- **The same memberships**, in whatever order and however often, give the same
classifier. -/
theorem restoreAll_congr {known known' : List (RoomId × Membership)}
    (h : ∀ p, p ∈ known ↔ p ∈ known') (c : Classifier) :
    restoreAll known c = restoreAll known' c := by
  have hjoined : ∀ r, (restoreAll known c).isJoined r = (restoreAll known' c).isJoined r := by
    intro r
    rw [Bool.eq_iff_iff, joined_restoreAll, joined_restoreAll, h]
  have hinvited : ∀ r, (restoreAll known c).isInvited r = (restoreAll known' c).isInvited r := by
    intro r
    rw [Bool.eq_iff_iff, isInvited_restoreAll, isInvited_restoreAll, hjoined, h, h]
  obtain ⟨joined, invited, heq⟩ := restoreAll_eq known c
  obtain ⟨joined', invited', heq'⟩ := restoreAll_eq known' c
  rw [heq, heq'] at hjoined hinvited
  obtain rfl : joined = joined' := KeySet.ext hjoined
  obtain rfl : invited = invited' := KeySet.ext hinvited
  rw [heq, heq']

end Classifier

namespace Window

open Engine Classifier

/-! ## §3. Ways through the lists. -/

/-- What a list tells of these rooms: what a room says, else what the list implies. -/
def told (l : RoomList) (rooms : List Room) : List (RoomId × Membership) :=
  rooms.filterMap fun r => (r.facts.ownMembership.or (implied l.behaviour)).map (r.id, ·)

/-- A way through some lists: the lists in any order, each with its rooms in any
order. -/
structure Visits (lists : List RoomList) (way : List (RoomList × List Room)) : Prop where
  lists : (way.map (·.1)).Perm lists
  rooms : ∀ v ∈ way, v.2.Perm v.1.rooms.values

/-- A session goes through its lists in their order, and through rooms in the order of
their ids. -/
theorem knownMemberships_eq (e : Engine) :
    e.knownMemberships = e.lists.flatMap fun l => told l l.rooms.values := by
  unfold Engine.knownMemberships told Table.values
  refine congrArg (List.flatMap · e.lists) (funext fun l => ?_)
  rw [List.filterMap_map]
  rfl

/-- **Any way through the lists tells the same memberships.** -/
theorem told_perm {e : Engine} {way : List (RoomList × List Room)} (h : Visits e.lists way) :
    (way.flatMap fun v => told v.1 v.2).Perm e.knownMemberships := by
  have hrooms : (way.flatMap fun v => told v.1 v.2).Perm
      (way.flatMap fun v => told v.1 v.1.rooms.values) :=
    List.Perm.flatMap_left way fun v hv => (h.rooms v hv).filterMap _
  have hlists : (way.flatMap fun v => told v.1 v.1.rooms.values).Perm
      (e.lists.flatMap fun l => told l l.rooms.values) := by
    rw [← List.flatMap_map (f := Prod.fst) (g := fun l => told l l.rooms.values)]
    exact h.lists.flatMap_right _
  rw [knownMemberships_eq]
  exact hrooms.trans hlists

/-! ## §4. Memberships in any order. -/

/-- **Memberships are taken over in any order.**  Some memberships give one classifier
in whatever order they come.  Joined are the rooms that were and those of a join;
invited are the rooms of an invite that are not joined in the end, and those that were
invited and have no join.  So it does not matter in which order a session goes through
its lists, nor in which order a list goes through its rooms: whatever the way, the
classifier is the one that a session has when it starts. -/
theorem restored_in_any_order (c : Classifier) (known : List (RoomId × Membership)) :
    (∀ known', known'.Perm known → restoreAll known' c = restoreAll known c)
      ∧ (∀ r, (restoreAll known c).isJoined r = true ↔
          c.isJoined r = true ∨ (r, Membership.join) ∈ known)
      ∧ (∀ r, (restoreAll known c).isInvited r = true ↔
          ((r, Membership.invite) ∈ known ∧ (restoreAll known c).isJoined r = false)
            ∨ (c.isInvited r = true ∧ (r, Membership.join) ∉ known))
      ∧ (∀ (e : Engine) (way : List (RoomList × List Room)), Visits e.lists way →
          restoreAll (way.flatMap fun v => told v.1 v.2) c = restoreAll e.knownMemberships c)
      ∧ (∀ (session : Session Engine) (way : List (RoomList × List Room)),
          (prepare session).answer = .ok () →
          Visits (prepare session).state.loop.lists way →
            (prepare session).state.world.classifier =
              restoreAll (way.flatMap fun v => told v.1 v.2) session.world.classifier) := by
  refine ⟨fun known' hperm => restoreAll_congr (fun p => hperm.mem_iff) c,
    joined_restoreAll known c, fun r => isInvited_restoreAll known r c, fun e way hway => ?_,
    fun session way hok hway => ?_⟩
  · exact restoreAll_congr (fun p => (told_perm hway).mem_iff) c
  · rw [state_prepare hok] at hway ⊢
    exact (restoreAll_congr (fun p => (told_perm hway).mem_iff) _).symm

/-! ## §5. Lists that disagree. -/

/-- Every list and its rooms from the last to the first. -/
def backwards (lists : List RoomList) : List (RoomList × List Room) :=
  lists.reverse.map fun l => (l, l.rooms.values.reverse)

theorem visits_backwards (lists : List RoomList) : Visits lists (backwards lists) where
  lists := by
    unfold backwards
    rw [List.map_map]
    exact (List.map_id _).symm ▸ lists.reverse_perm
  rooms := by
    intro v hv
    obtain ⟨l, -, rfl⟩ := List.mem_map.1 hv
    exact List.reverse_perm _

namespace Disagreeing

/-- A room of the user, and one that the user was asked to. -/
def own : RoomId := ⟨"!own:x", by decide +kernel⟩

def asked : RoomId := ⟨"!awaited:x", by decide +kernel⟩

/-- What is known before anything is taken over. -/
def known : Classifier :=
  { user := ⟨"@disagreeing:x", by decide +kernel⟩, invited := Table.empty.insert asked () }

/-- The room stands among the joined rooms and among the invites. -/
def batch : Batch :=
  { pos := "1"
    operations := [.insert 0 0 { roomId := some own }, .insert 1 0 { roomId := some own }] }

/-- A session that starts, on this storage. -/
def starting (store : Store) : Session Engine :=
  ⟨.create { lists := [.joined, .invited] }, { classifier := known, store }⟩

/-- A session on the storage that the one with these lists left. -/
def again : Session Engine :=
  starting (process {} batch (prepare (starting {})).state).state.world.store

end Disagreeing

open Disagreeing in
/-- The lists disagree about the room.  Gone through backwards, too, they make it
joined, and the other one is still invited. -/
theorem disagreeing_lists_are_settled :
    (prepare again).answer = .ok ()
      ∧ (prepare again).state.loop.knownMemberships = [(own, .join), (own, .invite)]
      ∧ Visits (prepare again).state.loop.lists (backwards (prepare again).state.loop.lists)
      ∧ (prepare again).state.world.classifier =
        restoreAll ((backwards (prepare again).state.loop.lists).flatMap fun v => told v.1 v.2)
          known
      ∧ (prepare again).state.world.classifier =
        restoreAll [(own, .invite), (own, .join)] known
      ∧ (prepare again).state.world.classifier.isJoined own = true
      ∧ (prepare again).state.world.classifier.isInvited own = false
      ∧ (prepare again).state.world.classifier.isInvited asked = true := by
  have hok : (prepare again).answer = .ok () := (prepare_done rfl).2
  have htold : (prepare again).state.loop.knownMemberships = [(own, .join), (own, .invite)] := by
    decide +kernel
  have hway := visits_backwards (prepare again).state.loop.lists
  obtain ⟨hperm, hjoined, hinvited, hforwards, hstart⟩ :=
    restored_in_any_order known [(own, .invite), (own, .join)]
  have hbackwards := hstart again _ hok hway
  have hmade : (prepare again).state.world.classifier =
      restoreAll [(own, .invite), (own, .join)] known := by
    rw [hbackwards]
    show restoreAll _ known = _
    rw [hforwards _ _ hway, htold]
    exact hperm _ (List.Perm.swap ..)
  refine ⟨hok, htold, hway, hbackwards, hmade, ?_, ?_, ?_⟩
  · rw [hmade]
    exact (hjoined own).2 (.inr (by decide))
  · rw [hmade]
    decide +kernel
  · rw [hmade]
    exact (hinvited asked).2 (.inr ⟨by decide +kernel, by decide⟩)

end Window

end RoomSync
