import Fgw.Library.Quota
import Fgw.PjsCircuitBreaker
import Mathlib.Data.List.Induction

/-!
The breaker of a service with its quotas, whose clocks are their own: what it takes to open it
again once it has closed.
-/

namespace Fgw

/-- A breaker with the pools of `slowQuota` and `errorQuota`, which are only used where there is an
amount threshold. -/
structure QuotaBreaker where
  breaker : PjsBreaker
  slow : TimedQuota
  error : TimedQuota
  deriving DecidableEq

/-- The calls that a breaker gets, seconds that pass, and a quota that is filled up. -/
inductive QuotaEvent
  | increase
  | checkSlow (seconds : Rat)
  | checkError (statusCode : Option Nat)
  | refreshTimer
  | second
  | refill (strike : Strike)
  deriving DecidableEq

namespace QuotaBreaker

def pool (st : QuotaBreaker) : Strike → TimedQuota
  | .slow => st.slow
  | .error => st.error

def setPool (st : QuotaBreaker) (strike : Strike) (timed : TimedQuota) : QuotaBreaker :=
  match strike with
  | .slow => { st with slow := timed }
  | .error => { st with error := timed }

/-- `slowAmountThreshold - 1`, `errorAmountThreshold - 1` -/
def limit (config : CircuitBreaking) (strike : Strike) : Nat := config.amountThreshold strike - 1

def start (config : CircuitBreaking) : QuotaBreaker :=
  ⟨.start, .new (limit config .slow), .new (limit config .error)⟩

/-- The responses that a check counts. -/
def strikes (config : CircuitBreaking) : Strike → QuotaEvent → Bool
  | .slow, .checkSlow seconds => config.enabled .slow && config.slowTime ≤ seconds
  | .error, .checkError statusCode => config.enabled .error && statusCode.any (499 < ·)
  | _, _ => false

/-- What a check takes of its quota, and what it leaves. -/
def consumed (config : CircuitBreaking) (st : QuotaBreaker) (strike : Strike)
    (event : QuotaEvent) : Nat × QuotaBreaker :=
  if strikes config strike event ∧ 0 < config.amountThreshold strike then
    ((st.pool strike).consume.1, st.setPool strike (st.pool strike).consume.2)
  else (0, st)

def step (config : CircuitBreaking) (st : QuotaBreaker) (event : QuotaEvent) : QuotaBreaker :=
  match event with
  | .increase => { st with breaker := st.breaker.step config .increase }
  | .checkSlow seconds =>
      let (taken, after) := consumed config st .slow event
      { after with breaker := st.breaker.step config (.checkSlow seconds taken) }
  | .checkError statusCode =>
      let (taken, after) := consumed config st .error event
      { after with breaker := st.breaker.step config (.checkError statusCode taken) }
  | .refreshTimer => { st with breaker := st.breaker.step config .refreshTimer }
  | .second => { st with slow := st.slow.wait, error := st.error.wait }
  | .refill strike =>
      st.setPool strike ((st.pool strike).refill (limit config strike) config.statWindow)

def run (config : CircuitBreaking) (events : List QuotaEvent) : QuotaBreaker :=
  events.foldl (step config) (start config)

def NoRatio (config : CircuitBreaking) : Prop := ∀ strike, config.ratioThreshold strike ≤ 0

/-- The timer takes the flag down. -/
def Closes (config : CircuitBreaking) (st : QuotaBreaker) : Prop :=
  st.breaker.degraded = true ∧ (st.step config .refreshTimer).breaker.degraded = false

def Enough (config : CircuitBreaking) (events : List QuotaEvent) : Prop :=
  ∃ strike, 0 < config.amountThreshold strike ∧
    config.amountThreshold strike ≤ events.countP (strikes config strike)

/-- The flag does not go up again before that. -/
def StartsAfresh (config : CircuitBreaking) (st : QuotaBreaker) : Prop :=
  ∀ more : List QuotaEvent,
    (more.foldl (step config) (st.step config .refreshTimer)).breaker.degraded = true →
      Enough config more

/-- The quotas are as full as they were made. -/
def QuotasFull (config : CircuitBreaking) (st : QuotaBreaker) : Prop :=
  ∀ strike, 0 < config.amountThreshold strike →
    (st.pool strike).quota.tokens = limit config strike

variable {config : CircuitBreaking} {st : QuotaBreaker}

@[simp] theorem setPool_breaker (strike : Strike) (timed : TimedQuota) :
    (st.setPool strike timed).breaker = st.breaker := by
  cases strike <;> rfl

@[simp] theorem pool_setPool_self (strike : Strike) (timed : TimedQuota) :
    (st.setPool strike timed).pool strike = timed := by
  cases strike <;> rfl

theorem pool_setPool_ne {strike kind : Strike} (other : kind ≠ strike) (timed : TimedQuota) :
    (st.setPool strike timed).pool kind = st.pool kind := by
  cases strike <;> cases kind <;> first | rfl | exact absurd rfl other

@[simp] theorem pool_withBreaker (breaker : PjsBreaker) (strike : Strike) :
    ({ st with breaker } : QuotaBreaker).pool strike = st.pool strike := by
  cases strike <;> rfl

/-! One step. -/

/-- A check whose quota is asked before the breaker is. -/
def checked (config : CircuitBreaking) (st : QuotaBreaker) (strike : Strike) (event : QuotaEvent) :
    QuotaBreaker :=
  { (consumed config st strike event).2 with
    breaker := if strikes config strike event then
        (st.breaker.strikeOnce config strike (consumed config st strike event).1).1
      else st.breaker }

theorem step_checkSlow (seconds : Rat) :
    st.step config (.checkSlow seconds) = checked config st .slow (.checkSlow seconds) := by
  simp only [step, checked, PjsBreaker.step, PjsBreaker.call, PjsBreaker.checkSlow,
    apply_ite Prod.fst]
  rfl

theorem step_checkError (statusCode : Option Nat) :
    st.step config (.checkError statusCode) =
      checked config st .error (.checkError statusCode) := by
  simp only [step, checked, PjsBreaker.step, PjsBreaker.call, PjsBreaker.checkError,
    apply_ite Prod.fst]
  rfl

/-- A response is counted as one kind by one check. -/
theorem strikes_checkSlow {seconds : Rat} {kind : Strike}
    (counted : strikes config kind (.checkSlow seconds) = true) : kind = .slow := by
  cases kind with
  | slow => rfl
  | error => cases counted

theorem strikes_checkError {statusCode : Option Nat} {kind : Strike}
    (counted : strikes config kind (.checkError statusCode) = true) : kind = .error := by
  cases kind with
  | slow => cases counted
  | error => rfl

theorem strikeOnce_degraded (noRatio : NoRatio config) (breaker : PjsBreaker) (strike : Strike)
    (taken : Nat) : (breaker.strikeOnce config strike taken).1.degraded =
      (breaker.degraded || (0 < config.amountThreshold strike && taken != 1)) := by
  have noTest : decide (0 < config.ratioThreshold strike) = false :=
    decide_eq_false (not_lt.mpr (noRatio strike))
  simp [PjsBreaker.strikeOnce, noTest]

/-- Only kinds with an amount threshold are counted. -/
theorem amount_of_strikes (noRatio : NoRatio config) {strike : Strike} {event : QuotaEvent}
    (counted : strikes config strike event = true) : 0 < config.amountThreshold strike := by
  have enabled : config.enabled strike = true := by
    cases strike <;> cases event <;> simp_all [strikes]
  have noTest : ¬ 0 < config.ratioThreshold strike := not_lt.mpr (noRatio strike)
  simpa [CircuitBreaking.enabled, noTest] using enabled

theorem checked_unstruck {strike : Strike} {event : QuotaEvent}
    (missed : strikes config strike event = false) : checked config st strike event = st := by
  simp [checked, consumed, missed]

theorem checked_refused (noRatio : NoRatio config) {strike : Strike} {event : QuotaEvent}
    (counted : strikes config strike event = true) (empty : (st.pool strike).quota.tokens = 0) :
    (checked config st strike event).breaker.degraded = true := by
  have positive := amount_of_strikes noRatio counted
  simp [checked, consumed, counted, positive, strikeOnce_degraded noRatio,
    TimedQuota.refused_of_empty empty]

theorem checked_taken (noRatio : NoRatio config) {strike : Strike} {event : QuotaEvent}
    (counted : strikes config strike event = true) (filled : (st.pool strike).quota.tokens ≠ 0) :
    (checked config st strike event).breaker.degraded = st.breaker.degraded ∧
      ((checked config st strike event).pool strike).quota.tokens =
        (st.pool strike).quota.tokens - 1 ∧
      ∀ kind ≠ strike, (checked config st strike event).pool kind = st.pool kind := by
  have positive := amount_of_strikes noRatio counted
  simp only [checked, consumed, counted, positive, and_self, if_true, pool_withBreaker,
    pool_setPool_self, strikeOnce_degraded noRatio, TimedQuota.taken_of_filled filled]
  refine ⟨by simp, trivial, fun kind other => pool_setPool_ne other _⟩

/-- No pool holds more than its quota was made with. -/
def Within (config : CircuitBreaking) (st : QuotaBreaker) : Prop :=
  ∀ strike, (st.pool strike).Within (limit config strike)

theorem start_within (config : CircuitBreaking) : (start config).Within config := by
  intro strike
  cases strike <;> exact Nat.le_refl _

theorem setPool_within (within : st.Within config) {strike : Strike} {timed : TimedQuota}
    (fits : timed.Within (limit config strike)) : (st.setPool strike timed).Within config := by
  intro kind
  by_cases same : kind = strike
  · subst same
    rw [pool_setPool_self]
    exact fits
  · rw [pool_setPool_ne same]
    exact within kind

theorem checked_within (within : st.Within config) (strike : Strike) (event : QuotaEvent) :
    (checked config st strike event).Within config := by
  have after : (consumed config st strike event).2.Within config := by
    unfold consumed
    split
    · exact setPool_within within (TimedQuota.consume_within (within strike))
    · exact within
  intro kind
  rw [checked, pool_withBreaker]
  exact after kind

theorem step_within (config : CircuitBreaking) (st : QuotaBreaker) (event : QuotaEvent)
    (within : st.Within config) : (st.step config event).Within config := by
  cases event with
  | increase =>
      intro strike
      rw [step, pool_withBreaker]
      exact within strike
  | refreshTimer =>
      intro strike
      rw [step, pool_withBreaker]
      exact within strike
  | checkSlow seconds =>
      rw [step_checkSlow]
      exact checked_within within .slow _
  | checkError statusCode =>
      rw [step_checkError]
      exact checked_within within .error _
  | second =>
      intro strike
      cases strike
      · exact within .slow
      · exact within .error
  | refill strike => exact setPool_within within (TimedQuota.refill_within (within strike) _)

/-- The flag stays down, and no pool lost more than what was counted. -/
def Paid (config : CircuitBreaking) (st after : QuotaBreaker) (event : QuotaEvent) : Prop :=
  after.breaker.degraded = false ∧ ∀ strike, 0 < config.amountThreshold strike →
    (st.pool strike).quota.tokens ≤
      (after.pool strike).quota.tokens + [event].countP (strikes config strike)

theorem paid_of_pools {after : QuotaBreaker} (healthy : after.breaker.degraded = false)
    (pools : ∀ strike, (st.pool strike).quota.tokens ≤ (after.pool strike).quota.tokens)
    (event : QuotaEvent) : Paid config st after event :=
  ⟨healthy, fun strike _ => Nat.le_add_right_of_le (pools strike)⟩

theorem checked_paid (noRatio : NoRatio config) (healthy : st.breaker.degraded = false)
    {strike : Strike} {event : QuotaEvent}
    (only : ∀ kind, strikes config kind event = true → kind = strike) :
    (strikes config strike event = true ∧ (st.pool strike).quota.tokens = 0) ∨
      Paid config st (checked config st strike event) event := by
  cases counted : strikes config strike event with
  | false =>
      right
      rw [checked_unstruck counted]
      exact paid_of_pools healthy (fun kind => Nat.le_refl _) event
  | true =>
      by_cases empty : (st.pool strike).quota.tokens = 0
      · exact .inl ⟨rfl, empty⟩
      · right
        obtain ⟨same, taken, others⟩ := checked_taken noRatio counted empty
        refine ⟨same.trans healthy, fun kind _ => ?_⟩
        by_cases here : kind = strike
        · subst here
          rw [taken, List.countP_singleton, counted, if_pos rfl]
          omega
        · rw [others kind here]
          exact Nat.le_add_right _ _

/-- A step takes what it counts from a pool, or finds the pool empty. -/
theorem step_paid (noRatio : NoRatio config) (within : st.Within config)
    (healthy : st.breaker.degraded = false) (event : QuotaEvent) :
    (∃ strike, strikes config strike event = true ∧ (st.pool strike).quota.tokens = 0) ∨
      Paid config st (st.step config event) event := by
  cases event with
  | increase =>
      have down : (st.step config .increase).breaker.degraded = false := healthy
      refine .inr (paid_of_pools down (fun strike => ?_) _)
      cases strike <;> exact Nat.le_refl _
  | refreshTimer =>
      have down : (st.step config .refreshTimer).breaker.degraded = false :=
        (PjsBreaker.ticks_refreshTimer config st.breaker).healthy healthy
      refine .inr (paid_of_pools down (fun strike => ?_) _)
      cases strike <;> exact Nat.le_refl _
  | checkSlow seconds =>
      rw [step_checkSlow]
      exact (checked_paid noRatio healthy fun kind => strikes_checkSlow).imp
        (fun found => ⟨_, found⟩)
        id
  | checkError statusCode =>
      rw [step_checkError]
      exact (checked_paid noRatio healthy fun kind => strikes_checkError).imp
        (fun found => ⟨_, found⟩) id
  | second =>
      have down : (st.step config .second).breaker.degraded = false := healthy
      refine .inr (paid_of_pools down (fun strike => ?_) _)
      cases strike <;> exact Nat.le_refl _
  | refill strike =>
      refine .inr (paid_of_pools (by rwa [step, setPool_breaker]) (fun kind => ?_) _)
      rw [step]
      by_cases here : kind = strike
      · subst here
        rw [pool_setPool_self]
        exact TimedQuota.le_refill_tokens (within kind) _
      · rw [pool_setPool_ne here]

/-! Runs. -/

theorem run_within (config : CircuitBreaking) (events : List QuotaEvent) :
    (run config events).Within config :=
  foldl_invariant (step_within config) (start_within config) events

theorem Enough.append {events : List QuotaEvent} (enough : Enough config events)
    (more : List QuotaEvent) : Enough config (events ++ more) := by
  obtain ⟨strike, positive, counted⟩ := enough
  exact ⟨strike, positive, by rw [List.countP_append]; omega⟩

/-- What a run from full pools keeps: the flag is down and what left the pools was counted, until
enough has been counted. -/
theorem enough_or_paid (noRatio : NoRatio config) (within : st.Within config)
    (healthy : st.breaker.degraded = false) (full : QuotasFull config st)
    (more : List QuotaEvent) :
    Enough config more ∨ ((more.foldl (step config) st).breaker.degraded = false ∧
      ∀ strike, 0 < config.amountThreshold strike → limit config strike ≤
        ((more.foldl (step config) st).pool strike).quota.tokens +
          more.countP (strikes config strike)) := by
  induction more using List.reverseRecOn with
  | nil => exact .inr ⟨healthy, fun strike positive => by rw [← full strike positive]; simp⟩
  | append_singleton more event ih =>
      rcases ih with enough | ⟨down, kept⟩
      · exact .inl (enough.append [event])
      · have reached : (more.foldl (step config) st).Within config :=
          foldl_invariant (step_within config) within more
        rw [List.foldl_append, List.foldl_cons, List.foldl_nil]
        rcases step_paid noRatio reached down event with ⟨strike, counted, empty⟩ | ⟨still, paid⟩
        · left
          have positive := amount_of_strikes noRatio counted
          have lost := kept strike positive
          refine ⟨strike, positive, ?_⟩
          rw [List.countP_append, List.countP_singleton, counted, if_pos rfl]
          rw [empty, limit] at lost
          omega
        · right
          refine ⟨still, fun strike positive => ?_⟩
          have before := kept strike positive
          have now := paid strike positive
          rw [List.countP_append]
          omega

def strikeEvent (config : CircuitBreaking) : Strike → QuotaEvent
  | .slow => .checkSlow config.slowTime
  | .error => .checkError (some 500)

theorem strikes_strikeEvent {strike : Strike} (positive : 0 < config.amountThreshold strike)
    (kind : Strike) :
    strikes config kind (strikeEvent config strike) = true ↔ kind = strike := by
  cases strike <;> cases kind <;> simp [strikes, strikeEvent, CircuitBreaking.enabled, positive]

theorem step_strikeEvent (strike : Strike) :
    st.step config (strikeEvent config strike) =
      checked config st strike (strikeEvent config strike) := by
  cases strike with
  | slow => exact step_checkSlow config.slowTime
  | error => exact step_checkError (some 500)

/-- One response more than there are tokens raises the flag. -/
theorem drained (noRatio : NoRatio config) {strike : Strike}
    (positive : 0 < config.amountThreshold strike) {tokens : Nat}
    (left : (st.pool strike).quota.tokens = tokens) :
    ((List.replicate (tokens + 1) (strikeEvent config strike)).foldl
      (step config) st).breaker.degraded = true := by
  have counted := (strikes_strikeEvent positive strike).mpr rfl
  induction tokens generalizing st with
  | zero =>
      rw [List.replicate_one, List.foldl_cons, List.foldl_nil, step_strikeEvent]
      exact checked_refused noRatio counted left
  | succ tokens ih =>
      rw [List.replicate_succ, List.foldl_cons, step_strikeEvent]
      have filled : (st.pool strike).quota.tokens ≠ 0 := by omega
      have taken := (checked_taken noRatio counted filled).2.1
      exact ih (by rw [taken, left, Nat.add_sub_cancel])

theorem pool_refreshTimer (strike : Strike) :
    (st.step config .refreshTimer).pool strike = st.pool strike := by
  cases strike <;> rfl

theorem countP_replicate_strike {strike : Strike} (positive : 0 < config.amountThreshold strike)
    (count : Nat) (kind : Strike) :
    (List.replicate count (strikeEvent config strike)).countP (strikes config kind) =
      if kind = strike then count else 0 := by
  rw [List.countP_replicate]
  simp only [strikes_strikeEvent positive]

/-- Whenever the timer closes a breaker, it takes the full amount of responses to open it again
exactly if the quotas are full at that time. -/
theorem startsAfresh_iff (noRatio : NoRatio config) {events : List QuotaEvent}
    (closes : Closes config (run config events)) :
    StartsAfresh config (run config events) ↔ QuotasFull config (run config events) := by
  have within := run_within config events
  constructor
  · intro afresh strike positive
    have most : ((run config events).pool strike).quota.tokens ≤ limit config strike :=
      within strike
    obtain ⟨kind, counts, enough⟩ := afresh
      (List.replicate (((run config events).pool strike).quota.tokens + 1)
        (strikeEvent config strike))
      (drained noRatio positive (by rw [pool_refreshTimer]))
    rw [countP_replicate_strike positive] at enough
    by_cases same : kind = strike
    · subst same
      rw [if_pos rfl] at enough
      rw [limit] at most ⊢
      omega
    · rw [if_neg same] at enough
      omega
  · intro full more opened
    have still : QuotasFull config ((run config events).step config .refreshTimer) := by
      intro strike positive
      rw [pool_refreshTimer]
      exact full strike positive
    rcases enough_or_paid noRatio (step_within config _ _ within) closes.2 still more with
      enough | ⟨down, _⟩
    · exact enough
    · cases opened.symm.trans down

def twoErrors : CircuitBreaking := ⟨none, some 1, none, none, none, some 2, none, some 1⟩

theorem twoErrors_noRatio : NoRatio twoErrors := by
  intro strike
  cases strike <;> exact le_refl _

/-- Two errors, and the quota is filled up while the breaker is open. -/
theorem refilled_startsAfresh : StartsAfresh twoErrors (run twoErrors
    [.increase, .checkError (some 500), .increase, .checkError (some 500), .second, .refreshTimer,
      .second, .refill .error]) := by
  refine (startsAfresh_iff twoErrors_noRatio ⟨by decide, by decide⟩).mpr ?_
  intro strike positive
  cases strike with
  | slow => exact absurd positive (by decide)
  | error => decide

/-- The quota is still empty when the breaker closes, and one error opens it again. -/
theorem emptyQuota_opensAtOnce :
    ¬ ∀ (config : CircuitBreaking) (events : List QuotaEvent), NoRatio config →
      0 < config.amountThreshold .error → Closes config (run config events) →
        StartsAfresh config (run config events) := by
  intro claimed
  have noRatio : NoRatio { twoErrors with statTimeWindow := some 30 } := by
    intro strike
    cases strike <;> exact le_refl _
  obtain ⟨strike, positive, enough⟩ := claimed { twoErrors with statTimeWindow := some 30 }
    [.increase, .checkError (some 500), .increase, .checkError (some 500), .second, .refreshTimer,
      .second] noRatio (by decide) ⟨by decide, by decide⟩ [.increase, .checkError (some 500)]
    (by decide)
  cases strike with
  | slow => exact absurd positive (by decide)
  | error => exact absurd enough (by decide)

end QuotaBreaker

end Fgw
