import Mathlib.Data.List.Basic

/-!
When computations that can throw give a result: for a sequence, and for a list of them.
-/

namespace Fgw

universe u

variable {ε α β γ : Type u}

theorem bind_eq_ok (first : Except ε α) (next : α → Except ε β) (result : β) :
    (first >>= next) = .ok result ↔ ∃ value, first = .ok value ∧ next value = .ok result := by
  cases first <;> simp [bind, Except.bind]

theorem map_eq_ok (first : Except ε α) (f : α → β) (result : β) :
    f <$> first = .ok result ↔ ∃ value, first = .ok value ∧ f value = result := by
  cases first <;> simp [Functor.map, Except.map]

theorem exists_ok_bind (first : Except ε α) (next : α → Except ε β) :
    (∃ result, (first >>= next) = .ok result) ↔
      ∃ value, first = .ok value ∧ ∃ result, next value = .ok result := by
  simp only [bind_eq_ok]
  exact ⟨fun ⟨result, value, ran, rest⟩ => ⟨value, ran, result, rest⟩,
    fun ⟨value, ran, result, rest⟩ => ⟨result, value, ran, rest⟩⟩

theorem exists_ok_map (first : Except ε α) (f : α → β) :
    (∃ result, f <$> first = .ok result) ↔ ∃ value, first = .ok value := by
  simp [map_eq_ok]

theorem mapM_cons_eq_ok (item : α) (rest : List α) (each : α → Except ε β) (results : List β) :
    (item :: rest).mapM each = .ok results ↔
      ∃ result, each item = .ok result ∧
        ∃ later, rest.mapM each = .ok later ∧ results = result :: later := by
  simp only [List.mapM_cons, bind_eq_ok, pure, Except.pure, Except.ok.injEq]
  simp only [eq_comm]

theorem exists_ok_mapM (items : List α) (each : α → Except ε β) :
    (∃ results, items.mapM each = .ok results) ↔ ∀ item ∈ items, ∃ result, each item = .ok result := by
  induction items with
  | nil => simp [pure, Except.pure]
  | cons item rest ih =>
      rw [List.forall_mem_cons, ← ih]
      constructor
      · rintro ⟨_, all⟩
        obtain ⟨result, first, later, ran, rfl⟩ := (mapM_cons_eq_ok _ _ _ _).mp all
        exact ⟨⟨result, first⟩, later, ran⟩
      · rintro ⟨⟨result, first⟩, later, ran⟩
        exact ⟨result :: later, (mapM_cons_eq_ok _ _ _ _).mpr ⟨result, first, later, ran, rfl⟩⟩

theorem mem_of_mapM_ok {items : List α} {each : α → Except ε β} {results : List β}
    (mapped : items.mapM each = .ok results) (result : β) :
    result ∈ results ↔ ∃ item ∈ items, each item = .ok result := by
  induction items generalizing results with
  | nil =>
      cases mapped
      simp
  | cons item rest ih =>
      obtain ⟨head, first, later, ran, rfl⟩ := (mapM_cons_eq_ok _ _ _ _).mp mapped
      simp [ih ran, first, eq_comm]

theorem map_of_mapM_ok {items : List α} {each : α → Except ε β} {results : List β}
    (mapped : items.mapM each = .ok results) (label : β → γ) (source : α → γ)
    (labelled : ∀ item ∈ items, ∀ result, each item = .ok result → label result = source item) :
    results.map label = items.map source := by
  induction items generalizing results with
  | nil =>
      cases mapped
      rfl
  | cons item rest ih =>
      obtain ⟨head, first, later, ran, rfl⟩ := (mapM_cons_eq_ok _ _ _ _).mp mapped
      rw [List.map_cons, List.map_cons, labelled item List.mem_cons_self head first,
        ih ran fun other member => labelled other (List.mem_cons_of_mem _ member)]

/-! Searches that stop at their first hit. -/

section Searches

variable {ε α : Type}

/-- Every item up to the first that passes the test is good. -/
def UpToHit (test : α → Except ε Bool) (good : α → Prop) (items : List α) : Prop :=
  ∀ front item back, items = front ++ item :: back →
    (∀ other ∈ front, test other = .ok false) → good item

theorem upToHit_cons (test : α → Except ε Bool) (good : α → Prop) (item : α) (rest : List α) :
    UpToHit test good (item :: rest) ↔
      good item ∧ (test item = .ok false → UpToHit test good rest) := by
  constructor
  · intro all
    refine ⟨all [] item rest rfl (by simp), fun missed front other back same before => ?_⟩
    exact all (item :: front) other back (by rw [same, List.cons_append])
      (List.forall_mem_cons.mpr ⟨missed, before⟩)
  · rintro ⟨first, later⟩ (_ | ⟨head, front⟩) other back same before
    · cases same
      exact first
    · rw [List.cons_append, List.cons.injEq] at same
      obtain ⟨rfl, rfl⟩ := same
      rw [List.forall_mem_cons] at before
      exact later before.1 front other back rfl before.2

theorem upToHit_congr {test : α → Except ε Bool} {good other : α → Prop}
    (same : ∀ item, good item ↔ other item) (items : List α) :
    UpToHit test good items ↔ UpToHit test other items := by
  simp only [UpToHit, same]

theorem exists_ok_anyM (test : α → Except ε Bool) (items : List α) :
    (∃ result, items.anyM test = .ok result) ↔
      UpToHit test (fun item => ∃ result, test item = .ok result) items := by
  induction items with
  | nil => exact iff_of_true ⟨false, rfl⟩ (by rintro (_ | _) _ _ same <;> cases same)
  | cons item rest ih =>
      rw [upToHit_cons, ← ih, List.anyM_cons, exists_ok_bind]
      constructor
      · rintro ⟨hit, tested, later⟩
        refine ⟨⟨hit, tested⟩, fun missed => ?_⟩
        cases tested.symm.trans missed
        exact later
      · rintro ⟨⟨_ | _, tested⟩, later⟩
        · exact ⟨false, tested, later tested⟩
        · exact ⟨true, tested, true, rfl⟩

/-- A search whose hit is used by a computation that can throw as well. -/
theorem exists_ok_findM?_bind {β : Type} (test : α → Except ε Bool) (items : List α)
    (next : Option α → Except ε β) (missed : ∃ result, next none = .ok result) :
    (∃ result, (items.findM? test >>= next) = .ok result) ↔
      UpToHit test (fun item => (∃ result, test item = .ok result) ∧
        (test item = .ok true → ∃ result, next (some item) = .ok result)) items := by
  induction items with
  | nil => exact iff_of_true missed (by rintro (_ | _) _ _ same <;> cases same)
  | cons item rest ih =>
      rw [upToHit_cons, ← ih, List.findM?, bind_assoc, exists_ok_bind]
      constructor
      · rintro ⟨hit, tested, later⟩
        cases hit with
        | false => exact ⟨⟨⟨false, tested⟩, fun here => by cases tested.symm.trans here⟩,
            fun _ => later⟩
        | true => exact ⟨⟨⟨true, tested⟩, fun _ => later⟩,
            fun missed => by cases tested.symm.trans missed⟩
      · rintro ⟨⟨⟨_ | _, tested⟩, here⟩, later⟩
        · exact ⟨false, tested, later tested⟩
        · exact ⟨true, tested, here tested⟩

theorem exists_ok_filterM (test : α → Except ε Bool) (items : List α) :
    (∃ kept, items.filterM test = .ok kept) ↔ ∀ item ∈ items, ∃ result, test item = .ok result := by
  have walked (found : List α) : (∃ kept, items.filterAuxM test found = .ok kept) ↔
      ∀ item ∈ items, ∃ result, test item = .ok result := by
    induction items generalizing found with
    | nil => simp [List.filterAuxM, pure, Except.pure]
    | cons item rest ih =>
        rw [List.filterAuxM, exists_ok_bind, List.forall_mem_cons]
        simp only [ih]
        exact exists_and_right
  rw [List.filterM, exists_ok_bind, ← walked []]
  simp [pure, Except.pure]

def passes (test : α → Except ε Bool) (item : α) : Bool :=
  match test item with
  | .ok result => result
  | .error _ => false

theorem filterM_eq_ok (test : α → Except ε Bool) (items kept : List α) :
    items.filterM test = .ok kept ↔
      (∀ item ∈ items, ∃ result, test item = .ok result) ∧ kept = items.filter (passes test) := by
  have walked (found reversed : List α) : items.filterAuxM test found = .ok reversed ↔
      (∀ item ∈ items, ∃ result, test item = .ok result) ∧
        reversed = (items.filter (passes test)).reverse ++ found := by
    induction items generalizing found with
    | nil => simp [List.filterAuxM, pure, Except.pure, eq_comm]
    | cons item rest ih =>
        rw [List.filterAuxM, bind_eq_ok, List.forall_mem_cons]
        cases tested : test item with
        | error thrown => simp
        | ok result =>
            cases result <;> simp [ih, passes, tested]
  rw [List.filterM, bind_eq_ok]
  constructor
  · rintro ⟨reversed, ran, same⟩
    obtain ⟨all, rfl⟩ := (walked [] reversed).mp ran
    cases same
    exact ⟨all, by simp⟩
  · rintro ⟨all, rfl⟩
    exact ⟨_, (walked [] _).mpr ⟨all, rfl⟩, by simp [pure, Except.pure]⟩

theorem anyM_eq_true {test : α → Except ε Bool} {items : List α}
    (hit : items.anyM test = .ok true) : ∃ item ∈ items, test item = .ok true := by
  induction items with
  | nil => cases hit
  | cons item rest ih =>
      rw [List.anyM_cons, bind_eq_ok] at hit
      obtain ⟨found, tested, later⟩ := hit
      cases found with
      | true => exact ⟨item, List.mem_cons_self, tested⟩
      | false =>
          obtain ⟨other, member, passed⟩ := ih later
          exact ⟨other, List.mem_cons_of_mem item member, passed⟩

end Searches

end Fgw
