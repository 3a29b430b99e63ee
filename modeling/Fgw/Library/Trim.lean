import Mathlib.Data.List.DropRight

/-!
Lists without the items that a test accepts at their two ends.
-/

namespace Fgw

universe u

variable {α : Type u} (skip : α → Bool)

def trimBy (items : List α) : List α := (items.dropWhile skip).rdropWhile skip

theorem rdropWhile_append_skipped (items : List α) {trail : List α}
    (skipped : ∀ item ∈ trail, skip item = true) :
    (items ++ trail).rdropWhile skip = items.rdropWhile skip := by
  induction trail using List.reverseRecOn with
  | nil => rw [List.append_nil]
  | append_singleton trail item ih =>
      rw [← List.append_assoc, List.rdropWhile_concat_pos _ _ _ (skipped item (by simp)),
        ih fun other member => skipped other (List.mem_append_left _ member)]

theorem rdropWhile_append_kept (items : List α) {item : α} (kept : skip item = false)
    (rest : List α) :
    (items ++ item :: rest).rdropWhile skip = items ++ item :: rest.rdropWhile skip := by
  induction rest using List.reverseRecOn with
  | nil =>
      rw [List.rdropWhile_concat_neg _ _ _ (by simp [kept])]
      rfl
  | append_singleton rest last ih =>
      have regroup : items ++ item :: (rest ++ [last]) = (items ++ item :: rest) ++ [last] := by simp
      rw [regroup]
      by_cases skipped : skip last = true
      · rw [List.rdropWhile_concat_pos _ _ _ skipped, List.rdropWhile_concat_pos _ _ _ skipped, ih]
      · rw [List.rdropWhile_concat_neg _ _ _ skipped, List.rdropWhile_concat_neg _ _ _ skipped,
          regroup]

theorem trimBy_append_kept (items : List α) {item : α} (kept : skip item = false)
    (rest : List α) :
    trimBy skip (items ++ item :: rest) =
      items.dropWhile skip ++ item :: rest.rdropWhile skip := by
  have front : (items ++ item :: rest).dropWhile skip = items.dropWhile skip ++ item :: rest := by
    induction items with
    | nil => simp [kept]
    | cons first items ih =>
        by_cases skipped : skip first = true
        · simpa [skipped] using ih
        · simp [skipped]
  rw [trimBy, front, rdropWhile_append_kept skip _ kept]

theorem exists_trimBy (items : List α) :
    ∃ lead trail, (∀ item ∈ lead, skip item = true) ∧ (∀ item ∈ trail, skip item = true) ∧
      items = lead ++ (trimBy skip items ++ trail) := by
  refine ⟨items.takeWhile skip, (items.dropWhile skip).rtakeWhile skip,
    fun item member => List.mem_takeWhile_imp member,
    fun item member => List.mem_rtakeWhile_imp member, ?_⟩
  rw [trimBy, List.rdropWhile_append_rtakeWhile, List.takeWhile_append_dropWhile]

theorem trimBy_append_skipped (items : List α) {trail : List α}
    (skipped : ∀ item ∈ trail, skip item = true) :
    trimBy skip (items ++ trail) = trimBy skip items := by
  unfold trimBy
  by_cases all : ∀ item ∈ items, skip item = true
  · have front : items.dropWhile skip = [] := List.dropWhile_eq_nil_iff.mpr all
    have whole : (items ++ trail).dropWhile skip = [] := List.dropWhile_eq_nil_iff.mpr fun item member =>
      (List.mem_append.mp member).elim (all item) (skipped item)
    rw [front, whole]
  · have front : (items ++ trail).dropWhile skip = items.dropWhile skip ++ trail := by
      rw [List.dropWhile_append, if_neg]
      simpa using all
    rw [front, rdropWhile_append_skipped skip _ skipped]

theorem trimBy_skipped_append {lead : List α} (skipped : ∀ item ∈ lead, skip item = true)
    (items : List α) : trimBy skip (lead ++ items) = trimBy skip items := by
  rw [trimBy, List.dropWhile_append_of_pos skipped, trimBy]

theorem trimBy_of_kept {items : List α} (kept : ∀ item ∈ items, skip item = false) :
    trimBy skip items = items := by
  have front : items.dropWhile skip = items := by
    cases items with
    | nil => rfl
    | cons first rest =>
        apply List.dropWhile_cons_of_neg
        rw [kept first List.mem_cons_self]
        exact Bool.false_ne_true
  rw [trimBy, front]
  induction items using List.reverseRecOn with
  | nil => rfl
  | append_singleton rest last _ =>
      rw [List.rdropWhile_concat_neg]
      simp [kept last (by simp)]

theorem head_trimBy (items : List α) {item : α} {rest : List α}
    (first : trimBy skip items = item :: rest) : skip item = false := by
  have inside : (item :: rest) <+: items.dropWhile skip := first ▸ List.rdropWhile_prefix _ _
  obtain ⟨tail, same⟩ := inside
  have kept := List.head?_dropWhile_not skip items
  rw [← same] at kept
  simpa using kept

theorem rdropWhile_trimBy (items : List α) :
    (trimBy skip items).rdropWhile skip = trimBy skip items :=
  List.rdropWhile_idempotent _ _

end Fgw
