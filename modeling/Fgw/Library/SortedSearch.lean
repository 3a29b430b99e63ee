import Mathlib.Data.List.Sort

/-!
The search for the first accepted item after a stable sort by descending keys: the largest key
wins, and the old order decides among items of one key.
-/

namespace Fgw

universe u v

theorem insertionSort_congr {α : Type u} {before other : α → α → Prop} [DecidableRel before]
    [DecidableRel other] (same : ∀ first second, before first second ↔ other first second)
    (items : List α) : items.insertionSort before = items.insertionSort other := by
  obtain rfl : before = other := by
    funext first second
    exact propext (same first second)
  congr

theorem filter_insertionSort {α : Type u} (before : α → α → Prop) [DecidableRel before]
    [Std.Total before] [IsTrans α before] (picks : α → Bool) (items : List α) :
    (items.insertionSort before).filter picks = (items.filter picks).insertionSort before := by
  have inside : ((items.filter picks).insertionSort before).Sublist (items.insertionSort before) := by
    induction items with
    | nil => exact List.Sublist.refl _
    | cons item rest ih =>
        rw [List.filter_cons]
        split
        · exact ih.orderedInsert_sublist item (List.pairwise_insertionSort before rest)
        · exact ih.trans (List.sublist_orderedInsert item _)
  have picked := inside.filter picks
  rw [List.filter_eq_self.mpr] at picked
  · refine (picked.eq_of_length ?_).symm
    rw [List.length_insertionSort]
    exact (((List.perm_insertionSort before items).filter picks).length_eq).symm
  · intro item member
    exact (List.mem_filter.mp ((List.mem_insertionSort before).mp member)).2

/-- The first accepted item of a sorted list stands before all others that are accepted. -/
theorem eq_or_rel_of_find? {α : Type u} {order : α → α → Prop} {items : List α}
    (sorted : items.Pairwise order) {accepts : α → Bool} {chosen : α}
    (found : items.find? accepts = some chosen) {other : α} (member : other ∈ items)
    (accepted : accepts other = true) : other = chosen ∨ order chosen other := by
  obtain ⟨_, before, after, split, refused⟩ := List.find?_eq_some_iff_append.mp found
  rw [split] at sorted member
  rcases List.mem_append.mp member with early | late
  · have refusal := refused other early
    rw [accepted] at refusal
    exact absurd refusal Bool.false_ne_true
  · rcases List.mem_cons.mp late with same | later
    · exact Or.inl same
    · exact Or.inr ((List.pairwise_cons.mp (List.pairwise_append.mp sorted).2.1).1 other later)

variable {α : Type u} {κ : Type v} [LinearOrder κ] (key : α → κ)

def sortDescending (items : List α) : List α :=
  items.insertionSort fun first second => key second ≤ key first

theorem perm_sortDescending (items : List α) : (sortDescending key items).Perm items :=
  List.perm_insertionSort _ items

theorem pairwise_sortDescending (items : List α) :
    (sortDescending key items).Pairwise fun first second => key second ≤ key first := by
  have total : Std.Total fun first second => key second ≤ key first :=
    ⟨fun first second => le_total (key second) (key first)⟩
  have transitive : IsTrans α fun first second => key second ≤ key first :=
    ⟨fun first second third before after => after.trans before⟩
  exact List.pairwise_insertionSort _ items

theorem filter_sortDescending (items : List α) (wanted : κ) :
    (sortDescending key items).filter (fun item => key item = wanted) =
      items.filter fun item => key item = wanted := by
  have level : (items.filter fun item => key item = wanted).Pairwise
      fun first second => key second ≤ key first := by
    apply List.pairwise_of_forall_mem_list
    intro first firstMember second secondMember
    have here := of_decide_eq_true (List.mem_filter.mp firstMember).2
    have there := of_decide_eq_true (List.mem_filter.mp secondMember).2
    rw [here, there]
  have sublist := (List.sublist_insertionSort level List.filter_sublist).filter
    fun item => key item = wanted
  simp only [List.filter_filter, Bool.and_self] at sublist
  exact (sublist.eq_of_length ((perm_sortDescending key items).filter _).length_eq.symm).symm

theorem find?_key_sortDescending (items : List α) (accepts : α → Bool) (wanted : κ) :
    (sortDescending key items).find? (fun item => key item = wanted && accepts item) =
      items.find? fun item => key item = wanted && accepts item := by
  have each (list : List α) : list.find? (fun item => key item = wanted && accepts item) =
      (list.filter fun item => key item = wanted).find? accepts := by simp
  rw [each, each, filter_sortDescending]

theorem le_of_find?_sortDescending {items : List α} {accepts : α → Bool} {chosen : α}
    (found : (sortDescending key items).find? accepts = some chosen) {other : α}
    (member : other ∈ items) (accepted : accepts other = true) : key other ≤ key chosen := by
  have place := (perm_sortDescending key items).mem_iff.mpr member
  rcases eq_or_rel_of_find? (pairwise_sortDescending key items) found place accepted with
    rfl | below
  · exact le_refl _
  · exact below

theorem first_of_find?_sortDescending {items : List α} {accepts : α → Bool} {chosen : α}
    (found : (sortDescending key items).find? accepts = some chosen) :
    items.find? (fun other => key other = key chosen && accepts other) = some chosen := by
  obtain ⟨accepted, before, after, split, refused⟩ := List.find?_eq_some_iff_append.mp found
  rw [← find?_key_sortDescending, List.find?_eq_some_iff_append]
  refine ⟨by simp [accepted], before, after, split, ?_⟩
  intro other early
  have refusal : accepts other = false := by simpa using refused other early
  rw [refusal, Bool.and_false]
  rfl

theorem find?_sortDescending_iff (items : List α) (accepts : α → Bool) (chosen : α) :
    (sortDescending key items).find? accepts = some chosen ↔
      (∀ other ∈ items, accepts other = true → key other ≤ key chosen) ∧
        items.find? (fun other => key other = key chosen && accepts other) = some chosen := by
  constructor
  · intro found
    exact ⟨fun other member accepted => le_of_find?_sortDescending key found member accepted,
      first_of_find?_sortDescending key found⟩
  · rintro ⟨largest, first⟩
    have accepted := List.find?_some first
    simp only [decide_true, Bool.true_and] at accepted
    have member := List.mem_of_find?_eq_some first
    cases found : (sortDescending key items).find? accepts with
    | none =>
        have refused := List.find?_eq_none.mp found chosen
          ((perm_sortDescending key items).mem_iff.mpr member)
        exact absurd accepted refused
    | some other =>
        have inside := (perm_sortDescending key items).mem_iff.mp (List.mem_of_find?_eq_some found)
        have below := largest other inside (List.find?_some found)
        have above := le_of_find?_sortDescending key found member accepted
        have level : key other = key chosen := le_antisymm below above
        have again := first_of_find?_sortDescending key found
        rw [level, first] at again
        exact again.symm

end Fgw
