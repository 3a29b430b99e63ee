import Mathlib.Logic.Basic

/-!
Script computations as state transformers that can throw.  What a script wrote before a
throw stays written, which is how `EStateM` runs without a backtracking state.
-/

namespace Fgw

universe u

variable {ε σ α β : Type u}

/-- A run of `program` from `before` either returns into `returned` or throws into `raised`. -/
def Ends (program : EStateM ε σ α) (before : σ) (returned : α → σ → Prop)
    (raised : ε → σ → Prop) : Prop :=
  match program before with
  | .ok value after => returned value after
  | .error thrown after => raised thrown after

/-- The run returns instead of throwing. -/
def Returns (program : EStateM ε σ α) (before : σ) : Prop :=
  Ends program before (fun _ _ => True) (fun _ _ => False)

@[simp] theorem ends_pure (value : α) (before : σ) (returned : α → σ → Prop)
    (raised : ε → σ → Prop) :
    Ends (pure value : EStateM ε σ α) before returned raised ↔ returned value before :=
  Iff.rfl

@[simp] theorem ends_get (before : σ) (returned : σ → σ → Prop) (raised : ε → σ → Prop) :
    Ends (get : EStateM ε σ σ) before returned raised ↔ returned before before :=
  Iff.rfl

@[simp] theorem ends_modify (change : σ → σ) (before : σ) (returned : PUnit → σ → Prop)
    (raised : ε → σ → Prop) :
    Ends (modify change : EStateM ε σ PUnit) before returned raised ↔
      returned ⟨⟩ (change before) :=
  Iff.rfl

@[simp] theorem ends_bind (program : EStateM ε σ α) (next : α → EStateM ε σ β) (before : σ)
    (returned : β → σ → Prop) (raised : ε → σ → Prop) :
    Ends (program >>= next) before returned raised ↔
      Ends program before (fun value after => Ends (next value) after returned raised)
        raised := by
  simp only [Ends, bind, EStateM.bind]
  cases program before <;> rfl

theorem Ends.mono {program : EStateM ε σ α} {before : σ} {returned returned' : α → σ → Prop}
    {raised raised' : ε → σ → Prop} (ends : Ends program before returned raised)
    (onReturn : ∀ value after, returned value after → returned' value after)
    (onThrow : ∀ thrown after, raised thrown after → raised' thrown after) :
    Ends program before returned' raised' := by
  simp only [Ends] at ends ⊢
  cases run : program before with
  | ok value after =>
      rw [run] at ends
      exact onReturn value after ends
  | error thrown after =>
      rw [run] at ends
      exact onThrow thrown after ends

theorem Ends.and {program : EStateM ε σ α} {before : σ} {returned returned' : α → σ → Prop}
    {raised raised' : ε → σ → Prop} (ends : Ends program before returned raised)
    (also : Ends program before returned' raised') :
    Ends program before (fun value after => returned value after ∧ returned' value after)
      fun thrown after => raised thrown after ∧ raised' thrown after := by
  simp only [Ends] at ends also ⊢
  cases run : program before with
  | ok value after =>
      rw [run] at ends also
      exact ⟨ends, also⟩
  | error thrown after =>
      rw [run] at ends also
      exact ⟨ends, also⟩

theorem Ends.ok {program : EStateM ε σ α} {before after : σ} {value : α}
    {returned : α → σ → Prop} {raised : ε → σ → Prop} (ends : Ends program before returned raised)
    (ran : program before = .ok value after) : returned value after := by
  rw [Ends, ran] at ends
  exact ends

theorem Ends.error {program : EStateM ε σ α} {before after : σ} {thrown : ε}
    {returned : α → σ → Prop} {raised : ε → σ → Prop} (ends : Ends program before returned raised)
    (ran : program before = .error thrown after) : raised thrown after := by
  rw [Ends, ran] at ends
  exact ends

@[simp] theorem ends_ofExcept (result : Except ε α) (before : σ) (returned : α → σ → Prop)
    (raised : ε → σ → Prop) :
    Ends (MonadExcept.ofExcept result : EStateM ε σ α) before returned raised ↔
      match result with
      | .ok value => returned value before
      | .error thrown => raised thrown before := by
  cases result <;> rfl

theorem run_tryCatch_ok {program : EStateM ε σ α} {before after : σ} {value : α}
    (ran : program before = .ok value after) (handler : ε → EStateM ε σ α) :
    tryCatch program handler before = .ok value after := by
  change EStateM.tryCatch program handler before = _
  delta EStateM.tryCatch
  rw [ran]

theorem run_tryCatch_error {program : EStateM ε σ α} {before after : σ} {thrown : ε}
    (ran : program before = .error thrown after) (handler : ε → EStateM ε σ α) :
    tryCatch program handler before = handler thrown after := by
  change EStateM.tryCatch program handler before = _
  delta EStateM.tryCatch
  rw [ran]
  rfl

theorem ends_tryCatch (program : EStateM ε σ α) (handler : ε → EStateM ε σ α) (before : σ)
    (returned : α → σ → Prop) (raised : ε → σ → Prop) :
    Ends (tryCatch program handler) before returned raised ↔
      Ends program before returned
        (fun thrown after => Ends (handler thrown) after returned raised) := by
  cases ran : program before with
  | ok value after => rw [Ends, Ends, run_tryCatch_ok ran, ran]
  | error thrown after => rw [Ends, Ends, run_tryCatch_error ran, ran]; rfl

theorem returns_iff (program : EStateM ε σ α) (before : σ) :
    Returns program before ↔ ∃ value after, program before = .ok value after := by
  simp only [Returns, Ends]
  cases program before <;> simp

theorem returns_bind_iff (program : EStateM ε σ α) (next : α → EStateM ε σ β) (before : σ) :
    Returns (program >>= next) before ↔
      ∃ value after, program before = .ok value after ∧ Returns (next value) after := by
  simp only [Returns, ends_bind]
  simp only [Ends]
  cases program before with
  | ok value after =>
      simp only [EStateM.Result.ok.injEq]
      constructor
      · exact fun returned => ⟨value, after, ⟨rfl, rfl⟩, returned⟩
      · rintro ⟨_, _, ⟨rfl, rfl⟩, returned⟩
        exact returned
  | error thrown after => simp

theorem returns_pure (value : α) (before : σ) : Returns (pure value : EStateM ε σ α) before :=
  trivial

theorem returns_modify (change : σ → σ) (before : σ) :
    Returns (modify change : EStateM ε σ PUnit) before :=
  trivial

theorem returns_ofExcept_bind (result : Except ε α) (next : α → EStateM ε σ β) (before : σ) :
    Returns (MonadExcept.ofExcept result >>= next) before ↔
      ∃ value, result = .ok value ∧ Returns (next value) before := by
  cases result <;> simp [Returns]

theorem returns_bind_modify (program : EStateM ε σ α) (change : α → σ → σ) (before : σ) :
    Returns (program >>= fun value => modify (change value)) before ↔ Returns program before := by
  simp only [Returns, ends_bind, ends_modify]

/-- The state that a run leaves behind, also where it throws. -/
def stateAfter (program : EStateM ε σ α) (before : σ) : σ :=
  match program before with
  | .ok _ after => after
  | .error _ after => after

theorem ends_iff_stateAfter (program : EStateM ε σ α) (before : σ) (post : σ → Prop) :
    Ends program before (fun _ after => post after) (fun _ after => post after) ↔
      post (stateAfter program before) := by
  simp only [Ends, stateAfter]
  cases program before <;> rfl

@[simp] theorem stateAfter_pure (value : α) (before : σ) :
    stateAfter (pure value : EStateM ε σ α) before = before := rfl

@[simp] theorem stateAfter_modify (change : σ → σ) (before : σ) :
    stateAfter (modify change : EStateM ε σ PUnit) before = change before := rfl

theorem run_bind_ok {program : EStateM ε σ α} {before after : σ} {value : α}
    (ran : program before = .ok value after) (next : α → EStateM ε σ β) :
    (program >>= next) before = next value after := by
  simp [bind, EStateM.bind, ran]

theorem run_bind_error {program : EStateM ε σ α} {before after : σ} {thrown : ε}
    (ran : program before = .error thrown after) (next : α → EStateM ε σ β) :
    (program >>= next) before = .error thrown after := by
  simp [bind, EStateM.bind, ran]

theorem run_get_bind (next : σ → EStateM ε σ β) (before : σ) :
    (get >>= next) before = next before before := rfl

theorem run_pure_bind (value : α) (next : α → EStateM ε σ β) (before : σ) :
    (pure value >>= next) before = next value before := rfl

theorem stateAfter_bind_ok {program : EStateM ε σ α} {before after : σ} {value : α}
    (ran : program before = .ok value after) (next : α → EStateM ε σ β) :
    stateAfter (program >>= next) before = stateAfter (next value) after := by
  rw [stateAfter, run_bind_ok ran, stateAfter]

theorem stateAfter_bind_error {program : EStateM ε σ α} {before after : σ} {thrown : ε}
    (ran : program before = .error thrown after) (next : α → EStateM ε σ β) :
    stateAfter (program >>= next) before = after := by
  rw [stateAfter, run_bind_error ran]

theorem stateAfter_bind_modify (program : EStateM ε σ α) (change : σ → σ) (before : σ) :
    stateAfter (program >>= fun _ => modify change) before = change (stateAfter program before) ∨
      stateAfter (program >>= fun _ => modify change) before = stateAfter program before := by
  cases ran : program before with
  | ok value after =>
      rw [stateAfter_bind_ok ran, stateAfter_modify]
      exact Or.inl (by simp [stateAfter, ran])
  | error thrown after =>
      rw [stateAfter_bind_error ran]
      exact Or.inr (by simp [stateAfter, ran])

/-- The program keeps `inv`, also where it throws. -/
def Keeps (inv : σ → Prop) (program : EStateM ε σ α) : Prop :=
  ∀ before, inv before → Ends program before (fun _ after => inv after) (fun _ after => inv after)

theorem keeps_iff_stateAfter (inv : σ → Prop) (program : EStateM ε σ α) :
    Keeps inv program ↔ ∀ before, inv before → inv (stateAfter program before) := by
  simp only [Keeps, ends_iff_stateAfter]

theorem keeps_pure (inv : σ → Prop) (value : α) : Keeps inv (pure value : EStateM ε σ α) :=
  fun _ holds => holds

theorem keeps_get (inv : σ → Prop) : Keeps inv (get : EStateM ε σ σ) := fun _ holds => holds

theorem keeps_modify {inv : σ → Prop} {change : σ → σ}
    (kept : ∀ before, inv before → inv (change before)) :
    Keeps inv (modify change : EStateM ε σ PUnit) := kept

theorem keeps_ofExcept (inv : σ → Prop) (result : Except ε α) :
    Keeps inv (MonadExcept.ofExcept result : EStateM ε σ α) := by
  intro before holds
  cases result <;> exact holds

theorem Keeps.bind {inv : σ → Prop} {program : EStateM ε σ α} {next : α → EStateM ε σ β}
    (first : Keeps inv program) (rest : ∀ value, Keeps inv (next value)) :
    Keeps inv (program >>= next) := by
  intro before holds
  rw [ends_bind]
  exact (first before holds).mono (fun value after kept => rest value after kept)
    (fun _ _ kept => kept)

theorem Keeps.tryCatch {inv : σ → Prop} {program : EStateM ε σ α}
    {handler : ε → EStateM ε σ α} (first : Keeps inv program)
    (handled : ∀ thrown, Keeps inv (handler thrown)) :
    Keeps inv (tryCatch program handler) := by
  intro before holds
  rw [ends_tryCatch]
  exact (first before holds).mono (fun _ _ kept => kept)
    (fun thrown after kept => handled thrown after kept)

theorem keeps_get_bind {inv : σ → Prop} {next : σ → EStateM ε σ β}
    (rest : ∀ before, inv before → Keeps inv (next before)) : Keeps inv (get >>= next) :=
  fun before holds => rest before holds before holds

theorem keeps_ofExcept_bind {inv : σ → Prop} {result : Except ε α}
    {next : α → EStateM ε σ β} (rest : ∀ value, result = .ok value → Keeps inv (next value)) :
    Keeps inv (MonadExcept.ofExcept result >>= next) := by
  intro before holds
  rw [ends_bind, ends_ofExcept]
  cases same : result with
  | ok value => exact rest value same before holds
  | error thrown => exact holds

/-- Loop rule: what every round keeps, the loop keeps. -/
theorem keeps_forM {inv : σ → Prop} {items : List α} {body : α → EStateM ε σ PUnit}
    (round : ∀ item ∈ items, Keeps inv (body item)) : Keeps inv (forM items body) := by
  induction items with
  | nil => exact keeps_pure inv PUnit.unit
  | cons item rest ih =>
      rw [List.forM_cons]
      exact (round item (by simp)).bind fun _ => ih fun other member =>
        round other (by simp [member])

theorem keeps_foldlM {inv : σ → Prop} {items : List α} {body : β → α → EStateM ε σ β}
    (round : ∀ state, ∀ item ∈ items, Keeps inv (body state item)) (start : β) :
    Keeps inv (items.foldlM body start) := by
  induction items generalizing start with
  | nil => exact keeps_pure inv start
  | cons item rest ih =>
      rw [List.foldlM_cons]
      exact (round start item (by simp)).bind fun next =>
        ih (fun state other member => round state other (by simp [member])) next

/-- Loop rule for a fold whose invariant speaks of the accumulator. -/
theorem ends_foldlM {inv : β → σ → Prop} {raised : ε → σ → Prop} {items : List α}
    {body : β → α → EStateM ε σ β}
    (round : ∀ state before, ∀ item ∈ items, inv state before →
      Ends (body state item) before inv raised)
    (start : β) (before : σ) (holds : inv start before) :
    Ends (items.foldlM body start) before inv raised := by
  induction items generalizing start before with
  | nil => exact holds
  | cons item rest ih =>
      rw [List.foldlM_cons, ends_bind]
      refine (round start before item (by simp) holds).mono (fun next after kept => ?_)
        (fun _ _ thrown => thrown)
      exact ih (fun state before other member => round state before other (by simp [member]))
        next after kept

/-- A loop returns when every round does, provided that what decides a round is kept by the
rounds before it. -/
theorem returns_forM_iff (items : List α) (body : α → EStateM ε σ PUnit) (inv : σ → Prop)
    (sound : α → Prop)
    (keeps : ∀ item, Keeps inv (body item))
    (round : ∀ item state, inv state → (Returns (body item) state ↔ sound item))
    (before : σ) (holds : inv before) :
    Returns (forM items body) before ↔ ∀ item ∈ items, sound item := by
  induction items generalizing before with
  | nil => exact iff_of_true trivial (by simp)
  | cons item rest ih =>
      rw [List.forM_cons, List.forall_mem_cons, ← round item before holds]
      have kept := keeps item before holds
      simp only [Returns, ends_bind]
      simp only [Ends] at kept ⊢
      cases run : body item before with
      | ok value after =>
          rw [run] at kept
          simpa [Returns, Ends] using ih after kept
      | error thrown after => simp

/-- Loop rule for an invariant that a throw may break. -/
theorem ends_forM_of_rounds {inv : σ → Prop} {raised : ε → σ → Prop} {items : List α}
    {body : α → EStateM ε σ PUnit}
    (round : ∀ item ∈ items, ∀ before, inv before →
      Ends (body item) before (fun _ after => inv after) raised)
    (before : σ) (holds : inv before) :
    Ends (forM items body) before (fun _ after => inv after) raised := by
  induction items generalizing before with
  | nil => exact holds
  | cons item rest ih =>
      rw [List.forM_cons, ends_bind]
      refine (round item (by simp) before holds).mono (fun _ middle kept => ?_)
        fun _ _ thrown => thrown
      exact ih (fun other member => round other (by simp [member])) middle kept

/-- A loop whose rounds throw only over an unsound item or for another known reason. -/
theorem ends_forM {inv : σ → Prop} {sound : α → Prop} {raised : ε → σ → Prop} {items : List α}
    {body : α → EStateM ε σ PUnit}
    (round : ∀ item before, inv before → Ends (body item) before
      (fun _ after => inv after ∧ sound item)
      (fun thrown after => inv after ∧ (¬ sound item ∨ raised thrown after)))
    (before : σ) (holds : inv before) :
    Ends (forM items body) before (fun _ after => inv after ∧ ∀ item ∈ items, sound item)
      (fun thrown after =>
        inv after ∧ ((¬ ∀ item ∈ items, sound item) ∨ raised thrown after)) := by
  induction items generalizing before with
  | nil => exact ⟨holds, by simp⟩
  | cons item rest ih =>
      rw [List.forM_cons, ends_bind]
      refine (round item before holds).mono (fun _ middle kept => ?_)
        (fun thrown after reason => ?_)
      · refine (ih middle kept.1).mono (fun _ after rest => ?_) (fun thrown after reason => ?_)
        · exact ⟨rest.1, List.forall_mem_cons.mpr ⟨kept.2, rest.2⟩⟩
        · exact reason.imp_right fun reason => reason.imp_left fun unsound all =>
            unsound (List.forall_mem_cons.mp all).2
      · exact reason.imp_right fun reason => reason.imp_left fun unsound all =>
          unsound (List.forall_mem_cons.mp all).1

/-- A run that keeps the invariant returns exactly if it is sound to run it. -/
theorem ends_of_returns_iff {inv : σ → Prop} {sound : Prop} {program : EStateM ε σ α}
    {before : σ} (keeps : Keeps inv program) (holds : inv before)
    (returns : Returns program before ↔ sound) :
    Ends program before (fun _ after => inv after ∧ sound) (fun _ after => inv after ∧ ¬ sound) := by
  have kept := keeps before holds
  rw [← returns]
  simp only [Returns, Ends] at kept ⊢
  cases run : program before with
  | ok value after =>
      rw [run] at kept
      exact ⟨kept, trivial⟩
  | error thrown after =>
      rw [run] at kept
      exact ⟨kept, id⟩

theorem returns_foldlM_iff (items : List α) (body : β → α → EStateM ε σ β) (inv : σ → Prop)
    (sound : α → Prop) (keeps : ∀ state item, Keeps inv (body state item))
    (round : ∀ state item before, inv before → (Returns (body state item) before ↔ sound item))
    (start : β) (before : σ) (holds : inv before) :
    Returns (items.foldlM body start) before ↔ ∀ item ∈ items, sound item := by
  induction items generalizing start before with
  | nil => exact iff_of_true trivial (by simp)
  | cons item rest ih =>
      rw [List.foldlM_cons, List.forall_mem_cons, ← round start item before holds]
      have kept := keeps start item before holds
      simp only [Returns, ends_bind]
      simp only [Ends] at kept ⊢
      cases run : body start item before with
      | ok value after =>
          rw [run] at kept
          simpa [Returns, Ends] using ih value after kept
      | error thrown after => simp

end Fgw
