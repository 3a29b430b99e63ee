import Fgw.Library.Runs

/-!
Work that is put off until nothing has asked for it for a while, by a timer that every request
starts again.
-/

namespace Fgw

universe u v

inductive TimedEvent (Event : Type v)
  | act (event : Event)
  | tick

/-- `countdown` has the ticks after which the timer goes off. -/
structure Debounced (State : Type u) where
  state : State
  countdown : Option Nat

/-- What is left of the delay, given the ticks since the last request. -/
def remaining (delay : Nat) (since : Option Nat) : Option Nat :=
  match since with
  | some ticks => if ticks < delay then some (delay - ticks) else none
  | none => none

namespace Debounced

variable {State : Type u} {Event : Type v}

def start (state : State) : Debounced State := ⟨state, none⟩

section Step

-- `act` also tells whether the event asks for the work.
variable (delay : Nat) (act : State → Event → State × Bool) (work : State → State)

/-- The timer goes off with this event. -/
def Fires (now : Debounced State) (event : TimedEvent Event) : Prop :=
  event = .tick ∧ ∃ left ≤ 1, now.countdown = some left

def step (now : Debounced State) : TimedEvent Event → Debounced State
  | .act event =>
      let (state, asked) := act now.state event
      if asked then ⟨state, some delay⟩ else { now with state := state }
  | .tick =>
      match now.countdown with
      | some left => if left ≤ 1 then ⟨work now.state, none⟩ else ⟨now.state, some (left - 1)⟩
      | none => now

variable {delay act work} {now : Debounced State} {since : Option Nat}

theorem step_act (now : Debounced State) (event : Event) :
    step delay act work now (.act event) = if (act now.state event).2 = true then
      ⟨(act now.state event).1, some delay⟩
      else { now with state := (act now.state event).1 } := rfl

theorem step_idle (idle : now.countdown = none) : step delay act work now .tick = now := by
  rw [step, idle]

theorem step_fires {left : Nat} (running : now.countdown = some left) (last : left ≤ 1) :
    step delay act work now .tick = ⟨work now.state, none⟩ := by
  rw [step, running]
  exact if_pos last

theorem step_waits {left : Nat} (running : now.countdown = some left) (more : ¬ left ≤ 1) :
    step delay act work now .tick = ⟨now.state, some (left - 1)⟩ := by
  rw [step, running]
  exact if_neg more

theorem act_due (positive : 0 < delay) (due : now.countdown = remaining delay since)
    (event : Event) : (step delay act work now (.act event)).countdown =
      remaining delay (if (act now.state event).2 then some 0 else since) := by
  rw [step_act]
  split
  · exact (if_pos positive).symm
  · exact due

theorem tick_due (due : now.countdown = remaining delay since) :
    (step delay act work now .tick).countdown = remaining delay (since.map (· + 1)) := by
  cases since with
  | none =>
      rw [step_idle due]
      exact due
  | some ticks =>
      simp only [remaining] at due
      simp only [remaining, Option.map_some]
      by_cases before : ticks < delay
      · rw [if_pos before] at due
        by_cases last : delay - ticks ≤ 1
        · rw [step_fires due last, if_neg (by omega)]
        · rw [step_waits due last, if_pos (by omega)]
          exact congrArg some (by omega)
      · rw [if_neg before] at due
        rw [step_idle due, if_neg (by omega)]
        exact due

end Step

end Debounced

end Fgw
