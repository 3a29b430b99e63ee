import Mathlib.Data.List.Basic

/-!
Pools whose tokens are taken and given back one at a time.
-/

namespace Fgw

structure Quota where
  tokens : Nat
  deriving DecidableEq, Repr

namespace Quota

/-- `consume(1)`: the number of tokens it takes, and the pool after it. -/
def consume (quota : Quota) : Nat × Quota :=
  if quota.tokens = 0 then (0, quota) else (1, ⟨quota.tokens - 1⟩)

/-- `produce(1)` -/
def produce (quota : Quota) : Quota := ⟨quota.tokens + 1⟩

/-- The tokens left and the tokens held make up the pool. -/
def Balanced (total : Nat) (quota : Quota) (held : Nat) : Prop := quota.tokens + held = total

variable {total held : Nat} {quota : Quota}

theorem balanced_new (total : Nat) : Balanced total ⟨total⟩ 0 := rfl

theorem consume_fst_le (quota : Quota) : quota.consume.1 ≤ 1 := by
  unfold consume
  split
  · exact Nat.zero_le 1
  · exact Nat.le_refl 1

theorem Balanced.refused_iff (balanced : Balanced total quota held) :
    quota.consume.1 = 0 ↔ held = total := by
  unfold Balanced at balanced
  unfold consume
  split
  · simp only [true_iff]
    omega
  · simp only [Nat.one_ne_zero, false_iff]
    omega

theorem Balanced.consume (balanced : Balanced total quota held) :
    Balanced total quota.consume.2 (held + quota.consume.1) := by
  unfold Balanced at balanced ⊢
  unfold Quota.consume
  split
  · exact balanced
  · dsimp only
    omega

theorem Balanced.produce_iff (balanced : Balanced total quota held) (after : Nat) :
    Balanced total quota.produce after ↔ after + 1 = held := by
  unfold Balanced Quota.produce at *
  dsimp only
  omega

theorem Balanced.same_iff (balanced : Balanced total quota held) (after : Nat) :
    Balanced total quota after ↔ after = held := by
  unfold Balanced at *
  omega

end Quota

/-- A pool that is filled up from time to time, and the time since it was. -/
structure TimedQuota where
  quota : Quota
  age : Nat
  deriving DecidableEq, Repr

namespace TimedQuota

def new (limit : Nat) : TimedQuota := ⟨⟨limit⟩, 0⟩

/-- `consume(1)` -/
def consume (timed : TimedQuota) : Nat × TimedQuota :=
  (timed.quota.consume.1, { timed with quota := timed.quota.consume.2 })

def wait (timed : TimedQuota) : TimedQuota := { timed with age := timed.age + 1 }

/-- Filled up to the limit, but only once in a period. -/
def refill (limit period : Nat) (timed : TimedQuota) : TimedQuota :=
  if period ≤ timed.age then new limit else timed

variable {limit : Nat} {timed : TimedQuota}

/-- The pool holds no more than it was made with. -/
def Within (limit : Nat) (timed : TimedQuota) : Prop := timed.quota.tokens ≤ limit

theorem refused_of_empty (empty : timed.quota.tokens = 0) : timed.consume = (0, timed) := by
  rw [consume, Quota.consume, if_pos empty]

theorem taken_of_filled (filled : timed.quota.tokens ≠ 0) :
    timed.consume = (1, ⟨⟨timed.quota.tokens - 1⟩, timed.age⟩) := by
  rw [consume, Quota.consume, if_neg filled]

theorem consume_within (within : timed.Within limit) : timed.consume.2.Within limit := by
  unfold Within at within ⊢
  by_cases empty : timed.quota.tokens = 0
  · rw [refused_of_empty empty]
    exact within
  · rw [taken_of_filled empty]
    dsimp only
    omega

theorem refill_within (within : timed.Within limit) (period : Nat) :
    (timed.refill limit period).Within limit := by
  unfold refill
  split
  · exact Nat.le_refl limit
  · exact within

theorem le_refill_tokens (within : timed.Within limit) (period : Nat) :
    timed.quota.tokens ≤ (timed.refill limit period).quota.tokens := by
  unfold refill
  split
  · exact within
  · exact Nat.le_refl _

end TimedQuota

end Fgw
