import Mathlib.Data.List.DropRight

/-!
The run of items at the end of a list that meet a property, and counters that follow it.
-/

namespace Fgw

universe u v

variable {α : Type u} (meets : α → Bool)

/-- The length of the longest run of such items at the end. -/
def trailingRun (items : List α) : Nat := (items.rtakeWhile meets).length

@[simp] theorem trailingRun_nil : trailingRun meets [] = 0 := by
  rw [trailingRun, List.rtakeWhile_nil, List.length_nil]

@[simp] theorem trailingRun_concat (items : List α) (item : α) :
    trailingRun meets (items ++ [item]) =
      if meets item = true then trailingRun meets items + 1 else 0 := by
  rw [trailingRun, List.rtakeWhile_concat]
  split
  · rw [List.length_append, List.length_singleton, trailingRun]
  · rfl

/-- The failures since the last success. -/
def failuresInARow (outcomes : List Bool) : Nat := trailingRun (fun passed => !passed) outcomes

/-- The failures since the last success after one more event, which may be neither. -/
def nextFailures (count : Nat) : Option Bool → Nat
  | none => count
  | some true => 0
  | some false => count + 1

@[simp] theorem failuresInARow_nil : failuresInARow [] = 0 := trailingRun_nil _

@[simp] theorem failuresInARow_concat (outcomes : List Bool) (passed : Bool) :
    failuresInARow (outcomes ++ [passed]) =
      nextFailures (failuresInARow outcomes) (some passed) := by
  rw [failuresInARow, trailingRun_concat]
  cases passed <;> rfl

/-- An invariant that mentions the failures since the last success. -/
theorem foldl_failuresInARow {State : Type u} {Event : Type v} {step : State → Event → State}
    {outcome : Event → Option Bool} {inv : Nat → State → Prop} {events : List Event}
    (kept : ∀ count state, ∀ event ∈ events, inv count state →
      inv (nextFailures count (outcome event)) (step state event))
    {state : State} (start : inv 0 state) :
    inv (failuresInARow (events.filterMap outcome)) (events.foldl step state) := by
  induction events using List.reverseRecOn with
  | nil => simpa using start
  | append_singleton events event ih =>
      have before := ih fun count state event member =>
        kept count state event (List.mem_append_left _ member)
      have after := kept _ _ event (List.mem_append_right _ (List.mem_singleton.mpr rfl)) before
      rw [List.foldl_append, List.foldl_cons, List.foldl_nil, List.filterMap_append]
      cases result : outcome event with
      | none =>
          rw [List.filterMap_cons_none result, List.filterMap_nil, List.append_nil]
          rwa [result] at after
      | some passed =>
          rw [List.filterMap_cons_some result, List.filterMap_nil, failuresInARow_concat]
          rwa [result] at after

end Fgw
