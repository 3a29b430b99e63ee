import Mathlib.Algebra.Order.Ring.Rat

/-!
The circuit breaker: the shared states of one key, the check at each response, and the requests
that go through the instances with that key.  Times are in milliseconds, and sums of numbers
are exact.
-/

namespace Fgw

/-- A number that `parseFloat` or `parseInt` returns. -/
inductive JsNumber
  | nan
  | negInf
  | fin (value : Rat)
  | posInf
  deriving DecidableEq, Repr

namespace JsNumber

/-- `x >= number` -/
def reachedBy (x : Rat) : JsNumber → Bool
  | nan => false
  | negInf => true
  | fin value => value ≤ x
  | posInf => false

/-- `x < number` -/
def above (x : Rat) : JsNumber → Bool
  | nan => false
  | negInf => false
  | fin value => x < value
  | posInf => true

/-- `x > number` -/
def passedBy (x : Rat) : JsNumber → Bool
  | nan => false
  | negInf => true
  | fin value => value < x
  | posInf => false

def truthy : JsNumber → Bool
  | nan => false
  | fin value => value ≠ 0
  | _ => true

/-- `x + number` -/
def plus (x : Rat) : JsNumber → JsNumber
  | fin value => fin (x + value)
  | number => number

theorem above_of_le {x y : Rat} {number : JsNumber} (le : y ≤ x) (above : number.above x) :
    number.above y := by
  cases number with
  | fin value =>
      simp only [JsNumber.above, decide_eq_true_eq] at above ⊢
      exact lt_of_le_of_lt le above
  | nan => exact above
  | negInf => exact above
  | posInf => exact above

theorem passedBy_of_le {x y : Rat} {number : JsNumber} (le : y ≤ x) (passed : number.passedBy y) :
    number.passedBy x := by
  cases number with
  | fin value =>
      simp only [passedBy, decide_eq_true_eq] at passed ⊢
      exact lt_of_lt_of_le passed le
  | nan => exact passed
  | negInf => exact passed
  | posInf => exact passed

end JsNumber

structure BreakConfig where
  latencyThreshold : JsNumber
  errorCountThreshold : JsNumber
  errorRatioThreshold : JsNumber
  concurrencyThreshold : JsNumber
  checkInterval : JsNumber
  breakInterval : JsNumber
  deriving DecidableEq

/-- What `SharedMap` answers when it has added 1 to a value, and how a quotient is rounded. -/
structure BreakEngine where
  added : Nat → Nat
  divide : Nat → Nat → Rat

structure SharedStates where
  start : Nat
  concurrency : Int
  total : Nat
  error : Nat
  brokenBefore : JsNumber
  deriving DecidableEq, Repr

namespace SharedStates

def fresh : SharedStates := ⟨0, 0, 0, 0, .fin 0⟩

def isBroken (states : SharedStates) (now : Nat) : Bool :=
  states.brokenBefore.truthy && states.brokenBefore.above now

def slow (config : BreakConfig) (t requestTime : Nat) : Bool :=
  config.latencyThreshold.reachedBy ((t : Rat) - requestTime)

def trips (engine : BreakEngine) (config : BreakConfig) (t requestTime : Nat)
    (states : SharedStates) : Bool :=
  let total := engine.added states.total
  let error := if slow config t requestTime then engine.added states.error else states.error
  0 < total && config.concurrencyThreshold.reachedBy states.concurrency &&
    config.errorCountThreshold.reachedBy error &&
    config.errorRatioThreshold.reachedBy (engine.divide error total)

/-- The window is over: the start is set, and at least one interval ago. -/
def windowOver (config : BreakConfig) (t : Nat) (states : SharedStates) : Bool :=
  states.start ≠ 0 && config.checkInterval.reachedBy ((t : Rat) - states.start)

def count (config : BreakConfig) (t requestTime : Nat) (states : SharedStates) : SharedStates :=
  { states with
    total := states.total + 1
    error := if slow config t requestTime then states.error + 1 else states.error }

def check (engine : BreakEngine) (config : BreakConfig) (t requestTime : Nat)
    (states : SharedStates) : SharedStates :=
  let counted := states.count config t requestTime
  if states.trips engine config t requestTime then
    { counted with
      brokenBefore := config.breakInterval.plus t, start := 0, total := 0, error := 0 }
  else if states.windowOver config t then { counted with start := t, total := 0, error := 0 }
  else { counted with start := t }

end SharedStates

/-! Requests. -/

/-- A request that was passed, by the instance with this configuration, and is waiting for a
response. -/
structure PassedRequest where
  config : BreakConfig
  requestTime : Nat
  deriving DecidableEq

structure BreakSystem where
  shared : SharedStates
  waiting : List PassedRequest

/-- Waiting requests are named by their place. -/
inductive BreakEvent
  | started (config : BreakConfig) (now : Nat)
  | responded (ref now : Nat)
  | aborted (ref now : Nat)
  | recreated (now : Nat)

def BreakEvent.time : BreakEvent → Nat
  | started _ now => now
  | responded _ now => now
  | aborted _ now => now
  | recreated now => now

def startRequest (config : BreakConfig) (now : Nat) (system : BreakSystem) : BreakSystem :=
  if system.shared.isBroken now then system
  else
    ⟨{ system.shared with concurrency := system.shared.concurrency + 1 },
      system.waiting ++ [⟨config, now⟩]⟩

def respondedStates (system : BreakSystem) : SharedStates :=
  { system.shared with concurrency := system.shared.concurrency - 1 }

def breakStep (engine : BreakEngine) (system : BreakSystem) : BreakEvent → BreakSystem
  | .started config now => startRequest config now system
  | .responded ref now =>
      match system.waiting[ref]? with
      | none => system
      | some request =>
          ⟨(respondedStates system).check engine request.config now request.requestTime,
            system.waiting.eraseIdx ref⟩
  -- No handler runs when a request ends without a response.
  | .aborted ref _ => { system with waiting := system.waiting.eraseIdx ref }
  | .recreated _ => { system with shared := SharedStates.fresh }

def startSystem : BreakSystem := ⟨SharedStates.fresh, []⟩

/-! The filter of the test, under an engine that divides exactly. -/

def plainBreak : BreakEngine := ⟨fun old => old + 1, fun error total => (error : Rat) / total⟩

def xyzBreak : BreakConfig :=
  ⟨.fin 150, .fin 3, .fin (1 / 2), .fin 0, .fin 5000, .fin 2500⟩

end Fgw
