import Mathlib.Data.List.Basic
import Mathlib.Data.Rat.Floor

/-!
Balancers that divide calls among targets by their weights, and the one that takes the targets
with a weight in turn.
-/

namespace Fgw

inductive BalancerCall
  | allocate (hint : Option String)
  | free (allocation : Nat)
  deriving DecidableEq

/-- A kind of balancer, for targets of any type, which may be told apart by keys. -/
structure Balancers where
  State : Type → Type
  make : {Target : Type} → List Target → (Target → Option String) → (Target → ℚ) → State Target
  call : {Target : Type} → State Target → BalancerCall → Option Target × State Target

namespace Balancers

def answers (balancers : Balancers) {Target : Type} :
    balancers.State Target → List BalancerCall → List (Option Target)
  | _, [] => []
  | state, call :: rest =>
      (balancers.call state call).1 :: answers balancers (balancers.call state call).2 rest

/-- In any run, only targets are allocated, and one without weight only if none has any. -/
structure ByWeight (balancers : Balancers) : Prop where
  member : ∀ {Target : Type} (targets : List Target) key weight calls target,
    some target ∈ balancers.answers (balancers.make targets key weight) calls → target ∈ targets
  idle : ∀ {Target : Type} (targets : List Target) key weight calls target,
    some target ∈ balancers.answers (balancers.make targets key weight) calls →
      weight target = 0 → ∀ other ∈ targets, weight other ≤ 0

theorem ByWeight.unallocated {balancers : Balancers} (byWeight : balancers.ByWeight)
    {Target : Type} {targets : List Target} {key : Target → Option String} {weight : Target → ℚ}
    {target other : Target} (idle : weight target = 0) (member : other ∈ targets)
    (busy : 0 < weight other) (calls : List BalancerCall) :
    some target ∉ balancers.answers (balancers.make targets key weight) calls := by
  intro allocated
  have low := byWeight.idle targets key weight calls target allocated idle other member
  exact absurd busy (not_lt.mpr low)

/-- The targets with a weight are taken in turn, or all of them if none has any. -/
def inTurn : Balancers where
  State Target := List Target × Nat
  make targets _ weight :=
    let busy := targets.filter fun target => 0 < weight target
    (if busy.isEmpty then targets else busy, 0)
  call state call :=
    match call with
    | .allocate _ => (state.1[state.2 % state.1.length]?, (state.1, state.2 + 1))
    | .free _ => (none, state)

theorem mem_of_inTurn {Target : Type} {pool : List Target} {turn : Nat} {calls : List BalancerCall}
    {target : Target} (allocated : some target ∈ inTurn.answers (pool, turn) calls) :
    target ∈ pool := by
  induction calls generalizing turn with
  | nil => cases allocated
  | cons call rest ih =>
      simp only [answers, List.mem_cons] at allocated
      rcases allocated with now | later
      · cases call with
        | allocate hint => exact List.mem_of_getElem? now.symm
        | free allocation => cases now
      · cases call with
        | allocate hint => exact ih later
        | free allocation => exact ih later

theorem inTurn_byWeight : inTurn.ByWeight := by
  constructor
  · intro Target targets key weight calls target allocated
    have inside := mem_of_inTurn allocated
    split at inside
    · exact inside
    · exact List.mem_of_mem_filter inside
  · intro Target targets key weight calls target allocated idle other member
    have inside := mem_of_inTurn allocated
    split at inside
    · rename_i none
      rw [List.isEmpty_iff, List.filter_eq_nil_iff] at none
      simpa using none other member
    · have busy := (List.mem_filter.mp inside).2
      rw [idle] at busy
      simp at busy

end Balancers

end Fgw
