import Fgw.Library.Effect

/-!
A computation that keeps more state than another and otherwise does the same.
-/

namespace Fgw

universe u

variable {ε σ τ α β γ δ : Type u}

/-- Seen through `view`, the program runs as the plain one, and `result` of what it returns is
what that returns. -/
def Projects (view : σ → τ) (result : α → β) (program : EStateM ε σ α) (plain : EStateM ε τ β) :
    Prop :=
  ∀ before, Ends program before
    (fun value after => plain (view before) = .ok (result value) (view after))
    (fun thrown after => plain (view before) = .error thrown (view after))

variable {view : σ → τ} {result : α → β} {other : γ → δ}

theorem projects_pure (value : α) :
    Projects view result (pure value : EStateM ε σ α) (pure (result value)) :=
  fun _ => rfl

theorem projects_get : Projects view view (get : EStateM ε σ σ) get :=
  fun _ => rfl

theorem projects_modify {change : σ → σ} {plain : τ → τ}
    (same : ∀ before, plain (view before) = view (change before)) :
    Projects view id (modify change : EStateM ε σ PUnit) (modify plain) := by
  intro before
  rw [ends_modify, id, ← same]
  rfl

theorem projects_ofExcept (value : Except ε α) :
    Projects view id (MonadExcept.ofExcept value : EStateM ε σ α) (MonadExcept.ofExcept value) := by
  intro before
  cases value <;> rfl

theorem Projects.bind {first : EStateM ε σ α} {plain : EStateM ε τ β} {next : α → EStateM ε σ γ}
    {plainNext : β → EStateM ε τ δ} (start : Projects view result first plain)
    (rest : ∀ value, Projects view other (next value) (plainNext (result value))) :
    Projects view other (first >>= next) (plain >>= plainNext) := by
  intro before
  rw [ends_bind]
  refine (start before).mono (fun value middle ran => ?_) fun thrown middle ran => ?_
  · simp only [run_bind_ok ran]
    exact rest value middle
  · exact run_bind_error ran plainNext

theorem projects_modify_bind {change : σ → σ} {plain : τ → τ} {next : PUnit → EStateM ε σ γ}
    {plainNext : PUnit → EStateM ε τ δ}
    (same : ∀ before, plain (view before) = view (change before))
    (rest : Projects view other (next ⟨⟩) (plainNext ⟨⟩)) :
    Projects view other (modify change >>= next) (modify plain >>= plainNext) :=
  (projects_modify same).bind fun _ => rest

theorem Projects.tryCatch {program : EStateM ε σ α} {plain : EStateM ε τ β}
    {handler : ε → EStateM ε σ α} {plainHandler : ε → EStateM ε τ β}
    (body : Projects view result program plain)
    (handled : ∀ thrown, Projects view result (handler thrown) (plainHandler thrown)) :
    Projects view result (tryCatch program handler) (tryCatch plain plainHandler) := by
  intro before
  rw [ends_tryCatch]
  refine (body before).mono (fun _ _ ran => run_tryCatch_ok ran _) fun thrown after ran => ?_
  rw [run_tryCatch_error ran]
  exact handled thrown after

theorem Projects.stateAfter {program : EStateM ε σ α} {plain : EStateM ε τ β}
    (same : Projects view result program plain) (before : σ) :
    view (stateAfter program before) = Fgw.stateAfter plain (view before) := by
  have ran := same before
  cases run : program before with
  | ok value after =>
      rw [Ends, run] at ran
      rw [Fgw.stateAfter, Fgw.stateAfter, run, ran]
  | error thrown after =>
      rw [Ends, run] at ran
      rw [Fgw.stateAfter, Fgw.stateAfter, run, ran]

theorem projects_forM {Item : Type u} (items : List Item) {body : Item → EStateM ε σ PUnit}
    {plain : Item → EStateM ε τ PUnit}
    (round : ∀ item, Projects view id (body item) (plain item)) :
    Projects view id (forM items body) (forM items plain) := by
  induction items with
  | nil => exact projects_pure PUnit.unit
  | cons item rest ih =>
      rw [List.forM_cons, List.forM_cons]
      exact (round item).bind fun _ => ih

theorem projects_foldlM {Item : Type u} (items : List Item) {body : α → Item → EStateM ε σ α}
    {plain : β → Item → EStateM ε τ β}
    (round : ∀ state item, Projects view result (body state item) (plain (result state) item))
    (start : α) :
    Projects view result (items.foldlM body start) (items.foldlM plain (result start)) := by
  induction items generalizing start with
  | nil => exact projects_pure start
  | cons item rest ih =>
      rw [List.foldlM_cons, List.foldlM_cons]
      exact (round start item).bind fun next => ih next

/-! Invariants: the states that satisfy one are states of their own. -/

def restrict {inv : σ → Prop} {program : EStateM ε σ α} (keeps : Keeps inv program) :
    EStateM ε {state // inv state} α := fun state =>
  match ran : program state.1 with
  | .ok value after => .ok value ⟨after, (keeps state.1 state.2).ok ran⟩
  | .error thrown after => .error thrown ⟨after, (keeps state.1 state.2).error ran⟩

theorem projects_restrict {inv : σ → Prop} {program : EStateM ε σ α} (keeps : Keeps inv program) :
    Projects Subtype.val id (restrict keeps) program := by
  intro state
  unfold Ends restrict
  split
  · rename_i value after ran
    split at ran
    · cases ran
      assumption
    · cases ran
  · rename_i thrown after ran
    split at ran
    · cases ran
    · cases ran
      assumption

end Fgw
