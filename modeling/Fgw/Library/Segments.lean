import Mathlib.Data.List.Basic

/-!
Lists cut at a separator.
-/

namespace Fgw

universe u

variable {α : Type u} {sep : α}

theorem intercalate_append {front back : List (List α)} (filled : front ≠ []) (more : back ≠ []) :
    [sep].intercalate (front ++ back) =
      [sep].intercalate front ++ sep :: [sep].intercalate back := by
  induction front with
  | nil => exact absurd rfl filled
  | cons segment front ih =>
      by_cases last : front = []
      · subst last
        rw [List.singleton_append, List.intercalate_cons_of_ne_nil more,
          List.intercalate_singleton, List.append_assoc, List.singleton_append]
      · rw [List.cons_append, List.intercalate_cons_of_ne_nil (by simp [last]), ih last,
          List.intercalate_cons_of_ne_nil last]
        simp only [List.append_assoc]

variable [DecidableEq α]

/-- The segments of a list start with those of another one if that is the whole list or ends at
a separator. -/
theorem splitOn_prefix_iff {start items : List α} :
    start.splitOn sep <+: items.splitOn sep ↔ items = start ∨ start ++ [sep] <+: items := by
  constructor
  · rintro ⟨more, whole⟩
    have joined : items = [sep].intercalate (start.splitOn sep ++ more) := by
      rw [whole, List.intercalate_splitOn]
    by_cases ends : more = []
    · left
      rw [joined, ends, List.append_nil, List.intercalate_splitOn]
    · right
      refine ⟨[sep].intercalate more, ?_⟩
      rw [joined, intercalate_append (List.splitOn_ne_nil sep start) ends,
        List.intercalate_splitOn, List.append_assoc, List.singleton_append]
  · rintro (rfl | ⟨more, rfl⟩)
    · exact List.prefix_rfl
    · rw [List.append_assoc, List.singleton_append, List.splitOn_append_cons_self]
      exact List.prefix_append _ _

theorem splitOn_eq (items : List α) :
    items.splitOn sep = items.takeWhile (· ≠ sep) ::
      match items.dropWhile (· ≠ sep) with
      | [] => []
      | _ :: next => next.splitOn sep := by
  induction items with
  | nil => rw [List.splitOn_nil, List.takeWhile_nil, List.dropWhile_nil]
  | cons item items ih =>
      rw [List.splitOn_cons_eq_if_modifyHead, List.takeWhile_cons, List.dropWhile_cons]
      by_cases cut : item = sep
      · simp [cut]
      · simp only [cut, beq_iff_eq, if_false, ne_eq, not_false_eq_true, decide_true, if_true]
        rw [ih, List.modifyHead_cons]

theorem head?_splitOn (items : List α) :
    (items.splitOn sep).head? = some (items.takeWhile (· ≠ sep)) := by
  rw [splitOn_eq, List.head?_cons]

end Fgw
