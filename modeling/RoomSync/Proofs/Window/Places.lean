/-
  RoomSync.Proofs.Window.Places
  ─────────────────────────────
  **THE PLACES OF SAVED LISTS.**

  Lists are kept in the order in which they were configured.  On a restart the
  saved ones, one after the other, replace the first list of their kind, so what
  stands at a place depends on whether it is the first of its kind (`IsFirst`)
  and on the last saved list of that kind (`lastOf`):

      getElem?_foldl_replaceList — the list at each place, after all saved ones
      lists_resume               — the lists of a session that takes them up

  Where no kind is named twice, both conditions hold of themselves.
-/
import RoomSync.Proofs.TableLookup
import RoomSync.Window.Engine

namespace RoomSync.Window

open Engine

/-! ## §1. Places and kinds. -/

/-- No place before this one is of its kind. -/
def IsFirst (kinds : List Behaviour) (k : Nat) : Prop := ∀ j, j < k → kinds[j]? ≠ kinds[k]?

instance (kinds : List Behaviour) (k : Nat) : Decidable (IsFirst kinds k) :=
  inferInstanceAs (Decidable (∀ j, j < k → kinds[j]? ≠ kinds[k]?))

theorem isFirst_zero (kinds : List Behaviour) : IsFirst kinds 0 := fun _ hj => by omega

theorem isFirst_succ {b : Behaviour} {kinds : List Behaviour} {k : Nat} :
    IsFirst (b :: kinds) (k + 1) ↔ kinds[k]? ≠ some b ∧ IsFirst kinds k := by
  constructor
  · intro h
    exact ⟨(h 0 (by omega)).symm, fun j hj => h (j + 1) (by omega)⟩
  · rintro ⟨hhead, htail⟩ j hj
    cases j with
    | zero => exact hhead.symm
    | succ j => exact htail j (by omega)

/-- Where no kind is named twice, every place is the first of its kind. -/
theorem isFirst_of_nodup {kinds : List Behaviour} (h : kinds.Nodup) {k : Nat}
    (hk : k < kinds.length) : IsFirst kinds k := by
  intro j hj heq
  have := (List.getElem?_inj (by omega) h).1 heq
  omega

/-- The last list of a kind. -/
def lastOf (lists : List RoomList) (b : Behaviour) : Option RoomList :=
  (lists.filter (·.behaviour = b)).getLast?

theorem lastOf_cons (l : RoomList) (lists : List RoomList) (b : Behaviour) :
    lastOf (l :: lists) b = (lastOf lists b).or (if l.behaviour = b then some l else none) :=
  getLast?_filter_cons RoomList.behaviour b l lists

/-- A list is of its own kind, so there is a last one. -/
theorem exists_lastOf {l : RoomList} {lists : List RoomList} (hl : l ∈ lists) :
    ∃ last, lastOf lists l.behaviour = some last := by
  have hmem : l ∈ lists.filter (·.behaviour = l.behaviour) :=
    List.mem_filter.2 ⟨hl, decide_eq_true rfl⟩
  exact ⟨_, List.getLast?_eq_some_getLast (List.ne_nil_of_mem hmem)⟩

/-- The last list of a kind, where lists change but not their kinds. -/
theorem lastOf_map {f : RoomList → RoomList} (hf : ∀ l, (f l).behaviour = l.behaviour)
    (lists : List RoomList) (b : Behaviour) :
    lastOf (lists.map f) b = (lastOf lists b).map f := by
  induction lists with
  | nil => rfl
  | cons l rest ih =>
      rw [List.map_cons, lastOf_cons, lastOf_cons, ih, hf]
      cases lastOf rest b with
      | some last => rfl
      | none => by_cases h : l.behaviour = b <;> simp [h]

/-- Where no kind is named twice, a list is the last of its kind. -/
theorem lastOf_of_nodup {lists : List RoomList} (h : (lists.map (·.behaviour)).Nodup)
    {l : RoomList} (hl : l ∈ lists) : lastOf lists l.behaviour = some l := by
  induction lists with
  | nil => cases hl
  | cons d rest ih =>
      rw [List.map_cons, List.nodup_cons] at h
      rw [lastOf_cons]
      rcases List.mem_cons.1 hl with rfl | hl
      · have hnone : lastOf rest l.behaviour = none := by
          unfold lastOf
          rw [List.getLast?_eq_none_iff, List.filter_eq_nil_iff]
          intro d hd hsame
          exact h.1 (List.mem_map.2 ⟨d, hd, of_decide_eq_true hsame⟩)
        rw [hnone, if_pos rfl]
        rfl
      · rw [ih h.2 hl]
        rfl

/-! ## §2. Saved lists that take their places. -/

theorem replaceList_kinds (l : RoomList) (bs : List RoomList) :
    (replaceList bs l).map (·.behaviour) = bs.map (·.behaviour) := by
  induction bs with
  | nil => rfl
  | cons d ds ih =>
      unfold replaceList
      split
      next hd => rw [List.map_cons, List.map_cons, hd]
      next => rw [List.map_cons, List.map_cons, ih]

theorem foldl_replaceList_kinds (ls : List RoomList) :
    ∀ bs, (ls.foldl replaceList bs).map (·.behaviour) = bs.map (·.behaviour) := by
  induction ls with
  | nil =>
      intro bs
      rfl
  | cons l rest ih =>
      intro bs
      exact (ih (replaceList bs l)).trans (replaceList_kinds l bs)

/-- One list takes the first place of its kind. -/
theorem getElem?_replaceList (l : RoomList) (bs : List RoomList) :
    ∀ k, (replaceList bs l)[k]? = bs[k]?.map fun b =>
      if IsFirst (bs.map (·.behaviour)) k ∧ l.behaviour = b.behaviour then l else b := by
  induction bs with
  | nil =>
      intro k
      rfl
  | cons d ds ih =>
      intro k
      unfold replaceList
      by_cases hd : d.behaviour = l.behaviour
      · rw [if_pos hd]
        cases k with
        | zero =>
            exact congrArg some (if_pos ⟨isFirst_zero _, hd.symm⟩).symm
        | succ k =>
            -- a later place of the kind is not the first
            rw [List.getElem?_cons_succ, List.getElem?_cons_succ]
            cases hk : ds[k]? with
            | none => rfl
            | some b =>
                refine congrArg some (if_neg ?_).symm
                rintro ⟨hfirst, hsame⟩
                refine (isFirst_succ.1 hfirst).1 ?_
                rw [List.getElem?_map, hk]
                exact congrArg some (hsame.symm.trans hd.symm)
      · rw [if_neg hd]
        cases k with
        | zero => exact congrArg some (if_neg fun h => hd h.2.symm).symm
        | succ k =>
            rw [List.getElem?_cons_succ, List.getElem?_cons_succ, ih]
            cases hk : ds[k]? with
            | none => rfl
            | some b =>
                -- for a place of the list's kind, the place before is of another one
                have hfirst : (IsFirst ((d :: ds).map (·.behaviour)) (k + 1)
                      ∧ l.behaviour = b.behaviour) ↔
                    (IsFirst (ds.map (·.behaviour)) k ∧ l.behaviour = b.behaviour) := by
                  refine and_congr_left fun hsame => ?_
                  rw [List.map_cons, isFirst_succ]
                  refine and_iff_right fun heq => hd ?_
                  rw [List.getElem?_map, hk] at heq
                  exact (Option.some.inj heq).symm.trans hsame.symm
                simp only [Option.map_some, hfirst]

/-- **All saved lists**: the first place of a kind gets the last of them, and
any other place keeps what it has. -/
theorem getElem?_foldl_replaceList (ls : List RoomList) :
    ∀ (bs : List RoomList) (k : Nat), (ls.foldl replaceList bs)[k]? = bs[k]?.map fun b =>
      if IsFirst (bs.map (·.behaviour)) k then (lastOf ls b.behaviour).getD b else b := by
  induction ls with
  | nil =>
      intro bs k
      rw [List.foldl_nil]
      cases bs[k]? with
      | none => rfl
      | some b => exact congrArg some (ite_self b).symm
  | cons l rest ih =>
      intro bs k
      rw [List.foldl_cons, ih, replaceList_kinds, getElem?_replaceList]
      cases bs[k]? with
      | none => rfl
      | some b =>
          refine congrArg some ?_
          dsimp only
          by_cases hfirst : IsFirst (bs.map (·.behaviour)) k
          · rw [if_pos hfirst, if_pos hfirst, lastOf_cons]
            by_cases hsame : l.behaviour = b.behaviour
            · rw [if_pos ⟨hfirst, hsame⟩, if_pos hsame, hsame]
              cases lastOf rest b.behaviour <;> rfl
            · rw [if_neg fun h => hsame h.2, if_neg hsame, Option.or_none]
          · rw [if_neg hfirst, if_neg hfirst, if_neg fun h => hfirst h.1]

/-- No list appears from nowhere. -/
theorem mem_foldl_replaceList (ls : List RoomList) :
    ∀ {bs : List RoomList} {m : RoomList}, m ∈ ls.foldl replaceList bs → m ∈ bs ∨ m ∈ ls := by
  intro bs m hm
  obtain ⟨k, hk⟩ := List.getElem?_of_mem hm
  rw [getElem?_foldl_replaceList, Option.map_eq_some_iff] at hk
  obtain ⟨b, hb, hm⟩ := hk
  have hb := List.mem_of_getElem? hb
  split at hm
  next =>
    cases hlast : lastOf ls b.behaviour with
    | none =>
        rw [hlast] at hm
        exact .inl (hm ▸ hb)
    | some last =>
        rw [hlast] at hm
        exact .inr (hm ▸ (List.mem_filter.1 (List.mem_of_getLast? hlast)).1)
  next => exact .inl (hm ▸ hb)

/-! ## §3. Sessions that take up what is saved. -/

theorem kinds_freshLists (o : Options) : (freshLists o).map (·.behaviour) = o.lists := by
  unfold freshLists
  rw [List.map_map]
  exact List.map_id _

/-- The lists that a session resumes, by what they were saved from. -/
theorem lists_resume (o : Options) (e : Engine) (pos : String) :
    (resume o (e.save pos)).lists =
      (e.lists.map fun l => l.save.restore o.pageSize).foldl replaceList (freshLists o) := by
  show (e.lists.map RoomList.save).foldl
    (fun lists s => replaceList lists (s.restore o.pageSize)) (freshLists o) = _
  rw [List.foldl_map, List.foldl_map]

end RoomSync.Window
