import Mathlib.Data.List.Perm.Basic

/-!
Counting in lists whose items are named by their place.
-/

namespace Fgw

universe u

variable {α : Type u}

theorem countP_eraseIdx_add (counts : α → Bool) {items : List α} {place : Nat} {item : α}
    (here : items[place]? = some item) :
    (items.eraseIdx place).countP counts + (counts item).toNat =
      items.countP counts := by
  obtain ⟨below, rfl⟩ := List.getElem?_eq_some_iff.mp here
  rw [← (List.getElem_cons_eraseIdx_perm below).countP_eq counts, List.countP_cons]
  cases counts items[place]
  · rfl
  · rfl

theorem countP_set_add (counts : α → Bool) {items : List α} {place : Nat} {item : α}
    (here : items[place]? = some item) (changed : α) :
    (items.set place changed).countP counts + (counts item).toNat =
      items.countP counts + (counts changed).toNat := by
  obtain ⟨below, _⟩ := List.getElem?_eq_some_iff.mp here
  have after : (items.set place changed)[place]? = some changed := by
    rw [List.getElem?_set_self below]
  have erased := countP_eraseIdx_add counts here
  have kept := countP_eraseIdx_add counts after
  rw [List.eraseIdx_set_eq] at kept
  omega

end Fgw
