/-
  RoomSync.Proofs.Outcomes
  ────────────────────────
  **RUNNING OPERATIONS ONE AFTER THE OTHER.**

  A run over a list is reasoned about in three ways: what every step keeps, the
  run keeps (`forEach_keeps`, `forEach_keeps_of_mem`); what every step's effects
  are, the effects of the run are (`forEach_effects`); and a run over two lists is
  two runs (`forEach_append_state`, `forEach_append_effects`).  What stands in a
  history that two runs make stands in one of them (`split_append`).  An operation
  that can fail goes on after an answer (`bind_ok`) and stops at a failure
  (`bind_error`).
-/
import RoomSync.Effect

namespace RoomSync

namespace Outcome

variable {α σ τ : Type}

/-- What no step of a run changes, the run does not change. -/
theorem forEach_keeps_of_mem (f : α → σ → Outcome σ Unit) (view : σ → τ) (as : List α)
    (hstep : ∀ a ∈ as, ∀ s, view (f a s).state = view s) :
    ∀ s, view (forEach f as s).state = view s := by
  induction as with
  | nil =>
      intro s
      rfl
  | cons a rest ih =>
      intro s
      show view (forEach f rest (f a s).state).state = view s
      rw [ih fun b hb => hstep b (List.mem_cons_of_mem _ hb), hstep a List.mem_cons_self]

/-- What no step changes, a run does not change. -/
theorem forEach_keeps (f : α → σ → Outcome σ Unit) (view : σ → τ)
    (hstep : ∀ a s, view (f a s).state = view s) (as : List α) :
    ∀ s, view (forEach f as s).state = view s :=
  forEach_keeps_of_mem f view as fun a _ => hstep a

/-- What every step's effects are, the effects of a run are. -/
theorem forEach_effects {P : Effect → Prop} (f : α → σ → Outcome σ Unit)
    (hstep : ∀ a s, ∀ x ∈ (f a s).effects, P x) (as : List α) :
    ∀ s, ∀ x ∈ (forEach f as s).effects, P x := by
  induction as with
  | nil =>
      intro s x hx
      cases hx
  | cons a rest ih =>
      intro s x hx
      rcases List.mem_append.1 hx with hx | hx
      · exact hstep a s x hx
      · exact ih (f a s).state x hx

theorem forEach_append_state (f : α → σ → Outcome σ Unit) (as bs : List α) :
    ∀ s, (forEach f (as ++ bs) s).state = (forEach f bs (forEach f as s).state).state := by
  induction as with
  | nil =>
      intro s
      rfl
  | cons a rest ih =>
      intro s
      exact ih (f a s).state

theorem forEach_append_effects (f : α → σ → Outcome σ Unit) (as bs : List α) :
    ∀ s, (forEach f (as ++ bs) s).effects =
      (forEach f as s).effects ++ (forEach f bs (forEach f as s).state).effects := by
  induction as with
  | nil =>
      intro s
      rfl
  | cons a rest ih =>
      intro s
      show (f a s).effects ++ (forEach f (rest ++ bs) (f a s).state).effects = _
      rw [ih, ← List.append_assoc]
      rfl

/-- A run over two lists, as a whole. -/
theorem forEach_append (f : α → σ → Outcome σ Unit) (as bs : List α) (s : σ) :
    forEach f (as ++ bs) s =
      ⟨(forEach f bs (forEach f as s).state).state,
        (forEach f as s).effects ++ (forEach f bs (forEach f as s).state).effects, ()⟩ := by
  rw [← forEach_append_state, ← forEach_append_effects]

/-- A run over a list of lists is a run of runs. -/
theorem forEach_flatMap {β : Type} (f : β → σ → Outcome σ Unit) (g : α → List β)
    (as : List α) : ∀ s, forEach f (as.flatMap g) s = forEach (fun a => forEach f (g a)) as s := by
  induction as with
  | nil =>
      intro s
      rfl
  | cons a rest ih =>
      intro s
      rw [List.flatMap_cons, forEach_append, ih]
      rfl

/-- A run over the images of a list. -/
theorem forEach_map {β : Type} (f : β → σ → Outcome σ Unit) (g : α → β) (as : List α) :
    ∀ s, forEach f (as.map g) s = forEach (fun a => f (g a)) as s := by
  induction as with
  | nil =>
      intro s
      rfl
  | cons a rest ih =>
      intro s
      unfold forEach
      rw [List.map_cons]
      dsimp only
      rw [ih]

end Outcome

/-! ## Places in a history. -/

/-- What stands in two histories, one after the other, stands in the first or
in the second. -/
theorem split_append {α : Type} {xs ys done rest : List α} {x : α}
    (h : xs ++ ys = done ++ x :: rest) :
    (∃ tail, xs = done ++ x :: tail ∧ rest = tail ++ ys)
      ∨ ∃ mid, done = xs ++ mid ∧ ys = mid ++ x :: rest := by
  rcases List.append_eq_append_iff.1 h with ⟨mid, hdone, hys⟩ | ⟨tail, hxs, hrest⟩
  · exact .inr ⟨mid, hdone, hys⟩
  · cases tail with
    | nil =>
        rw [List.append_nil] at hxs
        exact .inr ⟨[], by rw [hxs, List.append_nil], hrest.symm⟩
    | cons y tail =>
        obtain ⟨rfl, rfl⟩ := List.cons.inj hrest
        exact .inl ⟨tail, hxs, rfl⟩

/-! ## Operations that can fail. -/

namespace Action

variable {σ α β : Type} {m : Action σ α} {f : α → Action σ β} {s s' : σ} {fx : List Effect}

/-- After an answer, the next operation runs. -/
theorem bind_ok {a : α} (h : m s = ⟨s', fx, .ok a⟩) :
    (m >>= f) s = ⟨(f a s').state, fx ++ (f a s').effects, (f a s').answer⟩ := by
  show Action.bind m f s = _
  unfold Action.bind
  rw [h]

/-- After a failure, nothing runs. -/
theorem bind_error {e : SyncError} (h : m s = ⟨s', fx, .error e⟩) :
    (m >>= f) s = ⟨s', fx, .error e⟩ := by
  show Action.bind m f s = _
  unfold Action.bind
  rw [h]

end Action

end RoomSync
