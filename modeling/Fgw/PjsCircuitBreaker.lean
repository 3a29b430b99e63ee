import Fgw.Library.Runs
import Fgw.ScriptValue
import Mathlib.Algebra.Order.Ring.Rat

/-!
The circuit breaker of a service: the counters of one statistics window, the checks that a
response goes through, and the timer that ends the window and the degraded period.
-/

namespace Fgw

/-- `serviceConfig.CircuitBreaking` -/
structure CircuitBreaking where
  minRequestAmount : Option Nat
  statTimeWindow : Option Nat
  slowTimeThreshold : Option Rat
  slowAmountThreshold : Option Nat
  slowRatioThreshold : Option Rat
  errorAmountThreshold : Option Nat
  errorRatioThreshold : Option Rat
  degradedTimeWindow : Option Nat
  deriving DecidableEq

/-- What a response can be counted as. -/
inductive Strike
  | slow
  | error
  deriving DecidableEq, Repr

namespace CircuitBreaking

def minAmount (config : CircuitBreaking) : Nat := orNumber config.minRequestAmount 100

def statWindow (config : CircuitBreaking) : Nat := orNumber config.statTimeWindow 30

def slowTime (config : CircuitBreaking) : Rat := orNumber config.slowTimeThreshold 5

def degradedWindow (config : CircuitBreaking) : Nat := orNumber config.degradedTimeWindow 30

def amountThreshold (config : CircuitBreaking) : Strike → Nat
  | .slow => orNumber config.slowAmountThreshold 0
  | .error => orNumber config.errorAmountThreshold 0

def ratioThreshold (config : CircuitBreaking) : Strike → Rat
  | .slow => orNumber config.slowRatioThreshold 0
  | .error => orNumber config.errorRatioThreshold 0

/-- `slowEnabled`, `errorEnabled` -/
def enabled (config : CircuitBreaking) (strike : Strike) : Bool :=
  0 < config.amountThreshold strike || 0 < config.ratioThreshold strike

end CircuitBreaking

structure PjsBreaker where
  tick : Nat
  delay : Nat
  total : Nat
  slowAmount : Nat
  errorAmount : Nat
  degraded : Bool
  lastDegraded : Bool
  deriving DecidableEq, Repr

/-- The functions of a breaker that its pipelines and its timer call.  `taken` is what
`consume(1)` of the quota answers in the check, if it is asked: the pool fills with time. -/
inductive BreakerCall
  | increase
  | checkSlow (seconds : Rat) (taken : Nat)
  | checkError (statusCode : Option Nat) (taken : Nat)
  | refreshTimer
  deriving DecidableEq

/-- What a call does besides: a ratio that is compared with its threshold, and the lines that
`open` and `close` print with the counters. -/
inductive BreakerNote
  | ratioTest (strike : Strike) (amount total : Nat)
  | opened (total slowAmount errorAmount : Nat)
  | closed (total slowAmount errorAmount : Nat)
  deriving DecidableEq, Repr

namespace PjsBreaker

def start : PjsBreaker := ⟨0, 0, 0, 0, 0, false, false⟩

def amount (breaker : PjsBreaker) : Strike → Nat
  | .slow => breaker.slowAmount
  | .error => breaker.errorAmount

/-- `(slowAmount < total) && ++slowAmount`, and the same for errors. -/
def count (breaker : PjsBreaker) (strike : Strike) : PjsBreaker :=
  if breaker.amount strike < breaker.total then
    match strike with
    | .slow => { breaker with slowAmount := breaker.slowAmount + 1 }
    | .error => { breaker with errorAmount := breaker.errorAmount + 1 }
  else breaker

/-- The common body of `checkSlow` and `checkError` for a response that is slow, or an error. -/
def strikeOnce (config : CircuitBreaking) (breaker : PjsBreaker) (strike : Strike) (taken : Nat) :
    PjsBreaker × List BreakerNote :=
  let counted := { breaker with lastDegraded := breaker.degraded }.count strike
  let overQuota := 0 < config.amountThreshold strike && taken != 1
  let asks := !overQuota && 0 < config.ratioThreshold strike && config.minAmount ≤ counted.total
  let overRatio := asks &&
    config.ratioThreshold strike ≤ (counted.amount strike : Rat) / (counted.total : Rat)
  let degraded := counted.degraded || overQuota || overRatio
  ({ counted with degraded := degraded },
    (if asks then [.ratioTest strike (counted.amount strike) counted.total] else []) ++
      if !counted.lastDegraded && degraded then
        [.opened counted.total counted.slowAmount counted.errorAmount]
      else [])

def checkSlow (config : CircuitBreaking) (breaker : PjsBreaker) (seconds : Rat) (taken : Nat) :
    PjsBreaker × List BreakerNote :=
  if config.enabled .slow && config.slowTime ≤ seconds then
    breaker.strikeOnce config .slow taken
  else (breaker, [])

def checkError (config : CircuitBreaking) (breaker : PjsBreaker) (statusCode : Option Nat)
    (taken : Nat) : PjsBreaker × List BreakerNote :=
  if config.enabled .error && statusCode.any (499 < ·) then
    breaker.strikeOnce config .error taken
  else (breaker, [])

/-- The first half of `refreshTimer`: the degraded period. -/
def refreshDegraded (config : CircuitBreaking) (breaker : PjsBreaker) :
    PjsBreaker × List BreakerNote :=
  if breaker.degraded then
    if config.degradedWindow < breaker.delay + 1 then
      (start, [.closed breaker.total breaker.slowAmount breaker.errorAmount])
    else ({ breaker with delay := breaker.delay + 1 }, [])
  else (breaker, [])

/-- The second half: the statistics window. -/
def refreshWindow (config : CircuitBreaking) (breaker : PjsBreaker) : PjsBreaker :=
  if breaker.degraded then breaker
  else if config.statWindow < breaker.tick + 1 then
    { breaker with tick := 0, total := 0, slowAmount := 0, errorAmount := 0 }
  else { breaker with tick := breaker.tick + 1 }

def refreshTimer (config : CircuitBreaking) (breaker : PjsBreaker) :
    PjsBreaker × List BreakerNote :=
  let refreshed := breaker.refreshDegraded config
  (refreshed.1.refreshWindow config, refreshed.2)

def call (config : CircuitBreaking) (breaker : PjsBreaker) :
    BreakerCall → PjsBreaker × List BreakerNote
  | .increase => ({ breaker with total := breaker.total + 1 }, [])
  | .checkSlow seconds taken => breaker.checkSlow config seconds taken
  | .checkError statusCode taken => breaker.checkError config statusCode taken
  | .refreshTimer => breaker.refreshTimer config

def step (config : CircuitBreaking) (breaker : PjsBreaker) (call : BreakerCall) : PjsBreaker :=
  (breaker.call config call).1

def run (config : CircuitBreaking) (calls : List BreakerCall) : PjsBreaker :=
  calls.foldl (step config) start

/-! The counters of the window. -/

/-- No more strikes than requests, whichever window they came in. -/
def Bounded (breaker : PjsBreaker) : Prop :=
  ∀ strike, breaker.amount strike ≤ breaker.total

/-- A breaker that is not degraded has not begun to count down the degraded period. -/
def Settled (breaker : PjsBreaker) : Prop :=
  breaker.degraded = false → breaker.delay = 0

variable {config : CircuitBreaking} {breaker : PjsBreaker}

theorem count_cases (breaker : PjsBreaker) (strike : Strike) :
    breaker.count strike = breaker ∨
      (breaker.slowAmount < breaker.total ∧
        breaker.count strike = { breaker with slowAmount := breaker.slowAmount + 1 }) ∨
      (breaker.errorAmount < breaker.total ∧
        breaker.count strike = { breaker with errorAmount := breaker.errorAmount + 1 }) := by
  by_cases room : breaker.amount strike < breaker.total
  · cases strike with
    | slow => exact .inr (.inl ⟨room, if_pos room⟩)
    | error => exact .inr (.inr ⟨room, if_pos room⟩)
  · exact .inl (if_neg room)

@[simp] theorem count_total (strike : Strike) : (breaker.count strike).total = breaker.total := by
  rcases count_cases breaker strike with same | ⟨_, same⟩ | ⟨_, same⟩
  all_goals rw [same]

@[simp] theorem count_delay (strike : Strike) : (breaker.count strike).delay = breaker.delay := by
  rcases count_cases breaker strike with same | ⟨_, same⟩ | ⟨_, same⟩
  all_goals rw [same]

@[simp] theorem count_degraded (strike : Strike) :
    (breaker.count strike).degraded = breaker.degraded := by
  rcases count_cases breaker strike with same | ⟨_, same⟩ | ⟨_, same⟩
  all_goals rw [same]

theorem count_bounded (bounded : breaker.Bounded) (strike : Strike) :
    (breaker.count strike).Bounded := by
  rcases count_cases breaker strike with same | ⟨room, same⟩ | ⟨room, same⟩
  · rw [same]
    exact bounded
  · rw [same]
    intro other
    cases other with
    | slow => exact room
    | error => exact bounded .error
  · rw [same]
    intro other
    cases other with
    | slow => exact bounded .slow
    | error => exact room

/-- What a check leaves alone: the requests, the countdown, and a flag that is set. -/
structure CheckFrame (before after : PjsBreaker) : Prop where
  total : after.total = before.total
  delay : after.delay = before.delay
  degraded : before.degraded = true → after.degraded = true
  bounded : before.Bounded → after.Bounded

theorem checkFrame_refl (breaker : PjsBreaker) : CheckFrame breaker breaker :=
  ⟨rfl, rfl, id, id⟩

theorem strikeOnce_frame (config : CircuitBreaking) (breaker : PjsBreaker) (strike : Strike)
    (taken : Nat) : CheckFrame breaker (breaker.strikeOnce config strike taken).1 where
  total := count_total strike
  delay := count_delay strike
  degraded := by
    intro degraded
    simp only [strikeOnce, count_degraded, degraded, Bool.true_or]
  bounded := by
    intro bounded other
    have marked : Bounded { breaker with lastDegraded := breaker.degraded } := by
      intro kind
      exact bounded kind
    have counted := count_bounded marked strike other
    cases other with
    | slow => exact counted
    | error => exact counted

theorem checkSlow_frame (config : CircuitBreaking) (breaker : PjsBreaker) (seconds : Rat)
    (taken : Nat) : CheckFrame breaker (breaker.checkSlow config seconds taken).1 := by
  unfold checkSlow
  split
  · exact strikeOnce_frame config breaker .slow taken
  · exact checkFrame_refl breaker

theorem checkError_frame (config : CircuitBreaking) (breaker : PjsBreaker)
    (statusCode : Option Nat) (taken : Nat) :
    CheckFrame breaker (breaker.checkError config statusCode taken).1 := by
  unfold checkError
  split
  · exact strikeOnce_frame config breaker .error taken
  · exact checkFrame_refl breaker

theorem start_bounded : start.Bounded := by
  intro strike
  cases strike <;> exact Nat.le_refl 0

/-- What a run of the timer does. -/
inductive Ticks (config : CircuitBreaking) (breaker : PjsBreaker) : PjsBreaker → Prop
  | waited : breaker.degraded = true → breaker.delay < config.degradedWindow →
      Ticks config breaker { breaker with delay := breaker.delay + 1 }
  | recovered : breaker.degraded = true → config.degradedWindow ≤ breaker.delay →
      Ticks config breaker { start with tick := 1 }
  | renewed : breaker.degraded = false → config.statWindow ≤ breaker.tick →
      Ticks config breaker { breaker with tick := 0, total := 0, slowAmount := 0, errorAmount := 0 }
  | ticked : breaker.degraded = false → breaker.tick < config.statWindow →
      Ticks config breaker { breaker with tick := breaker.tick + 1 }

theorem ticks_refreshTimer (config : CircuitBreaking) (breaker : PjsBreaker) :
    Ticks config breaker (breaker.refreshTimer config).1 := by
  cases degraded : breaker.degraded with
  | true =>
      by_cases late : config.degradedWindow < breaker.delay + 1
      · -- the breaker starts again, and the same run counts for the new window
        have positive : 0 < config.statWindow := orNumber_pos (by omega)
        have within : ¬ config.statWindow < 0 + 1 := by omega
        have after : (breaker.refreshTimer config).1 = { start with tick := 1 } := by
          simp [refreshTimer, refreshDegraded, refreshWindow, start, degraded, late, within]
        rw [after]
        exact .recovered degraded (by omega)
      · have after : (breaker.refreshTimer config).1 =
            { breaker with delay := breaker.delay + 1 } := by
          simp [refreshTimer, refreshDegraded, refreshWindow, degraded, late]
        rw [after]
        exact .waited degraded (by omega)
  | false =>
      by_cases full : config.statWindow < breaker.tick + 1
      · have after : (breaker.refreshTimer config).1 =
            { breaker with tick := 0, total := 0, slowAmount := 0, errorAmount := 0 } := by
          simp [refreshTimer, refreshDegraded, refreshWindow, degraded, full]
        rw [after]
        exact .renewed degraded (by omega)
      · have after : (breaker.refreshTimer config).1 =
            { breaker with tick := breaker.tick + 1 } := by
          simp [refreshTimer, refreshDegraded, refreshWindow, degraded, full]
        rw [after]
        exact .ticked degraded (by omega)

theorem Ticks.bounded {after : PjsBreaker} (ticks : Ticks config breaker after)
    (bounded : breaker.Bounded) : after.Bounded := by
  intro strike
  have before := bounded strike
  cases ticks with
  | waited => cases strike <;> exact before
  | recovered => cases strike <;> exact Nat.le_refl 0
  | renewed => cases strike <;> exact Nat.le_refl 0
  | ticked => cases strike <;> exact before

theorem step_bounded (config : CircuitBreaking) (breaker : PjsBreaker) (call : BreakerCall)
    (bounded : breaker.Bounded) : (breaker.step config call).Bounded := by
  cases call with
  | increase =>
      intro strike
      have before := bounded strike
      cases strike with
      | slow =>
          simp only [step, PjsBreaker.call, amount] at before ⊢
          omega
      | error =>
          simp only [step, PjsBreaker.call, amount] at before ⊢
          omega
  | checkSlow seconds taken => exact (checkSlow_frame config breaker seconds taken).bounded bounded
  | checkError statusCode taken =>
      exact (checkError_frame config breaker statusCode taken).bounded bounded
  | refreshTimer => exact (ticks_refreshTimer config breaker).bounded bounded

theorem run_bounded (config : CircuitBreaking) (calls : List BreakerCall) :
    (run config calls).Bounded :=
  foldl_invariant (step_bounded config) start_bounded calls

/-! The ratio tests. -/

theorem strikeOnce_ratioTest {strike kind : Strike} {taken amount total : Nat}
    (tested : .ratioTest kind amount total ∈ (breaker.strikeOnce config strike taken).2) :
    config.minAmount ≤ total ∧ total = breaker.total := by
  simp only [strikeOnce, List.mem_append] at tested
  rcases tested with asked | printed
  · split at asked
    · rename_i asks
      simp only [List.mem_singleton, BreakerNote.ratioTest.injEq, count_total] at asked
      simp only [Bool.and_eq_true, decide_eq_true_eq, count_total] at asks
      exact ⟨asked.2.2 ▸ asks.2, asked.2.2⟩
    · exact absurd asked List.not_mem_nil
  · split at printed
    · simp at printed
    · exact absurd printed List.not_mem_nil

theorem call_ratioTest {call : BreakerCall} {kind : Strike} {amount total : Nat}
    (tested : .ratioTest kind amount total ∈ (breaker.call config call).2) :
    config.minAmount ≤ total ∧ total = breaker.total := by
  cases call with
  | increase => exact absurd tested List.not_mem_nil
  | checkSlow seconds taken =>
      simp only [PjsBreaker.call, checkSlow] at tested
      split at tested
      · exact strikeOnce_ratioTest tested
      · exact absurd tested List.not_mem_nil
  | checkError statusCode taken =>
      simp only [PjsBreaker.call, checkError] at tested
      split at tested
      · exact strikeOnce_ratioTest tested
      · exact absurd tested List.not_mem_nil
  | refreshTimer =>
      simp only [PjsBreaker.call, refreshTimer, refreshDegraded] at tested
      split at tested
      · split at tested
        · simp at tested
        · exact absurd tested List.not_mem_nil
      · exact absurd tested List.not_mem_nil

/-! The degraded period. -/

theorem Ticks.waiting {after : PjsBreaker} (ticks : Ticks config breaker after)
    (degraded : breaker.degraded = true) (early : breaker.delay < config.degradedWindow) :
    after.degraded = true ∧ after.delay = breaker.delay + 1 := by
  cases ticks with
  | waited => exact ⟨degraded, rfl⟩
  | recovered _ late => omega
  | renewed healthy => cases degraded.symm.trans healthy
  | ticked healthy => cases degraded.symm.trans healthy

theorem Ticks.recovers {after : PjsBreaker} (ticks : Ticks config breaker after)
    (degraded : breaker.degraded = true) (late : config.degradedWindow ≤ breaker.delay) :
    after = { start with tick := 1 } := by
  cases ticks with
  | waited _ early => omega
  | recovered => rfl
  | renewed healthy => cases degraded.symm.trans healthy
  | ticked healthy => cases degraded.symm.trans healthy

theorem Ticks.healthy {after : PjsBreaker} (ticks : Ticks config breaker after)
    (healthy : breaker.degraded = false) : after.degraded = false := by
  cases ticks with
  | waited degraded => cases degraded.symm.trans healthy
  | recovered => rfl
  | renewed => exact healthy
  | ticked => exact healthy

theorem Ticks.settled {after : PjsBreaker} (ticks : Ticks config breaker after)
    (settled : breaker.Settled) : after.Settled := by
  cases ticks with
  | waited degraded =>
      intro healthy
      cases degraded.symm.trans healthy
  | recovered => exact fun _ => rfl
  | renewed => exact settled
  | ticked => exact settled

theorem step_waiting (call : BreakerCall) (degraded : breaker.degraded = true)
    (early : breaker.delay + [call].count .refreshTimer ≤ config.degradedWindow) :
    (breaker.step config call).degraded = true ∧
      (breaker.step config call).delay = breaker.delay + [call].count .refreshTimer := by
  cases call with
  | increase => exact ⟨degraded, rfl⟩
  | checkSlow seconds taken =>
      have frame := checkSlow_frame config breaker seconds taken
      exact ⟨frame.degraded degraded, frame.delay⟩
  | checkError statusCode taken =>
      have frame := checkError_frame config breaker statusCode taken
      exact ⟨frame.degraded degraded, frame.delay⟩
  | refreshTimer =>
      rw [List.count_singleton_self] at early ⊢
      exact (ticks_refreshTimer config breaker).waiting degraded (by omega)

theorem period_waiting (period : List BreakerCall) (degraded : breaker.degraded = true)
    (early : breaker.delay + period.count .refreshTimer ≤ config.degradedWindow) :
    (period.foldl (step config) breaker).degraded = true ∧
      (period.foldl (step config) breaker).delay =
        breaker.delay + period.count .refreshTimer := by
  induction period generalizing breaker with
  | nil => exact ⟨degraded, rfl⟩
  | cons call rest ih =>
      have split : (call :: rest).count .refreshTimer =
          [call].count .refreshTimer + rest.count .refreshTimer := by
        rw [← List.count_append, List.singleton_append]
      rw [split] at early ⊢
      have now := step_waiting call degraded (by omega : _ ≤ config.degradedWindow)
      have later := ih now.1 (by rw [now.2]; omega)
      rw [List.foldl_cons, later.2, now.2]
      exact ⟨later.1, by omega⟩

theorem step_settled (config : CircuitBreaking) (breaker : PjsBreaker) (call : BreakerCall)
    (settled : breaker.Settled) : (breaker.step config call).Settled := by
  have checked {after : PjsBreaker} (frame : CheckFrame breaker after) : after.Settled := by
    intro healthy
    rw [frame.delay]
    apply settled
    cases before : breaker.degraded with
    | false => rfl
    | true => exact absurd (frame.degraded before) (by simp [healthy])
  cases call with
  | increase => exact settled
  | checkSlow seconds taken => exact checked (checkSlow_frame config breaker seconds taken)
  | checkError statusCode taken => exact checked (checkError_frame config breaker statusCode taken)
  | refreshTimer => exact (ticks_refreshTimer config breaker).settled settled

theorem run_settled (config : CircuitBreaking) (calls : List BreakerCall) :
    (run config calls).Settled :=
  foldl_invariant (step_settled config) (fun _ => rfl) calls

/-- The flag goes up with this call. -/
def Trips (config : CircuitBreaking) (breaker : PjsBreaker) (call : BreakerCall) : Prop :=
  breaker.degraded = false ∧ (breaker.step config call).degraded = true

/-- The flag stays up until the timer has run once more than the window is long; that run takes
it down and clears the counters. -/
def ServesPeriod (config : CircuitBreaking) (breaker : PjsBreaker) : Prop :=
  ∀ period : List BreakerCall,
    (period.count .refreshTimer ≤ config.degradedWindow →
      (period.foldl (step config) breaker).degraded = true) ∧
    (period.count .refreshTimer = config.degradedWindow →
      let expired := (period.foldl (step config) breaker).step config .refreshTimer
      expired.degraded = false ∧ expired.total = 0 ∧ expired.slowAmount = 0 ∧
        expired.errorAmount = 0)

theorem trips_delay {call : BreakerCall} (settled : breaker.Settled)
    (trips : Trips config breaker call) : (breaker.step config call).delay = 0 := by
  have before := settled trips.1
  cases call with
  | increase => exact before
  | checkSlow seconds taken =>
      exact (checkSlow_frame config breaker seconds taken).delay.trans before
  | checkError statusCode taken =>
      exact (checkError_frame config breaker statusCode taken).delay.trans before
  | refreshTimer =>
      have lowered := (ticks_refreshTimer config breaker).healthy trips.1
      cases lowered.symm.trans trips.2

theorem servesPeriod_of_fresh (degraded : breaker.degraded = true) (fresh : breaker.delay = 0) :
    ServesPeriod config breaker := by
  intro period
  constructor
  · intro early
    exact (period_waiting period degraded (by omega)).1
  · intro full
    have waited : (period.foldl (step config) breaker).degraded = true ∧
        (period.foldl (step config) breaker).delay =
          breaker.delay + period.count .refreshTimer :=
      period_waiting period degraded (by omega)
    have expired := (ticks_refreshTimer config (period.foldl (step config) breaker)).recovers waited.1
      (by omega)
    simp only [step, PjsBreaker.call, expired]
    exact ⟨rfl, rfl, rfl, rfl⟩

/-- After every sequence of calls: the amounts are bounded by the total, the next call compares a
ratio only over enough requests, and a flag that it raises serves its period. -/
theorem counted_and_served (config : CircuitBreaking) (calls : List BreakerCall) :
    (run config calls).Bounded ∧
    (∀ call strike amount total,
      .ratioTest strike amount total ∈ ((run config calls).call config call).2 →
        1 ≤ config.minAmount ∧ config.minAmount ≤ total ∧ total = (run config calls).total) ∧
    ∀ call, Trips config (run config calls) call →
      ServesPeriod config (run config (calls ++ [call])) := by
  refine ⟨run_bounded config calls, ?_, ?_⟩
  · intro call strike amount total tested
    exact ⟨orNumber_pos (by omega), call_ratioTest tested⟩
  · intro call trips
    have reached : run config (calls ++ [call]) = (run config calls).step config call := by
      simp [run]
    rw [reached]
    exact servesPeriod_of_fresh trips.2 (trips_delay (run_settled config calls) trips)

end PjsBreaker

end Fgw
