import Fgw.Library.Places
import Fgw.Library.Quota
import Fgw.Library.Runs
import Mathlib.Algebra.GroupWithZero.Nat

/-!
The connection limit filter: the quota of one filter and the connections that are open on it.
-/

namespace Fgw

/-- `none` when the limit or its number is not configured. -/
structure ConcurrencyLimitConfig where
  maxConnections : Option Int

/-- `config.concurrencyLimit?.maxConnections | 0` -/
def ConcurrencyLimitConfig.limit (config : ConcurrencyLimitConfig) : Int :=
  (config.maxConnections.getD 0).bmod (2 ^ 32)

/-- `connections` has the `$rejected` of each open connection. -/
structure ConnectionLimiter where
  quota : Quota
  connections : List Bool
  deriving DecidableEq

/-- Open connections are named by their place. -/
inductive ConnectionEvent
  | opened
  | closed (place : Nat)

namespace ConnectionLimiter

def start (config : ConcurrencyLimitConfig) : ConnectionLimiter := ⟨⟨config.limit.toNat⟩, []⟩

/-- `$rejected` of a new connection, and the quota.  Without a limit nothing is asked. -/
def onStart (config : ConcurrencyLimitConfig) (quota : Quota) : Bool × Quota :=
  if 0 < config.limit then (quota.consume.1 ≤ 0, quota.consume.2) else (false, quota)

def onEnd (config : ConcurrencyLimitConfig) (quota : Quota) (rejected : Bool) : Quota :=
  if 0 < config.limit ∧ !rejected then quota.produce else quota

def step (config : ConcurrencyLimitConfig) (limiter : ConnectionLimiter) :
    ConnectionEvent → ConnectionLimiter
  | .opened =>
      let started := onStart config limiter.quota
      ⟨started.2, limiter.connections ++ [started.1]⟩
  | .closed place =>
      match limiter.connections[place]? with
      | none => limiter
      | some rejected => ⟨onEnd config limiter.quota rejected, limiter.connections.eraseIdx place⟩

def admitted (limiter : ConnectionLimiter) : Nat :=
  limiter.connections.countP fun rejected => !rejected

def TokensKept (config : ConcurrencyLimitConfig) (limiter : ConnectionLimiter) : Prop :=
  Quota.Balanced config.limit.toNat limiter.quota limiter.admitted

variable {config : ConcurrencyLimitConfig} {limiter : ConnectionLimiter}

theorem rejected_iff (positive : 0 < config.limit) (kept : TokensKept config limiter) :
    (onStart config limiter.quota).1 = true ↔ limiter.admitted = config.limit.toNat := by
  rw [← Quota.Balanced.refused_iff kept, onStart, if_pos positive]
  simp only [Nat.le_zero, decide_eq_true_eq]

theorem tokensKept_opened (positive : 0 < config.limit) (kept : TokensKept config limiter) :
    TokensKept config (step config limiter .opened) := by
  have consumed := Quota.Balanced.consume kept
  have atMost := limiter.quota.consume_fst_le
  simp only [TokensKept, step, onStart, if_pos positive, admitted, List.countP_append,
    List.countP_singleton]
  by_cases refused : limiter.quota.consume.1 = 0
  · rw [refused] at consumed
    simpa [refused, admitted] using consumed
  · have taken : limiter.quota.consume.1 = 1 := by omega
    rw [taken] at consumed
    simpa [taken, admitted] using consumed

theorem tokensKept_closed (positive : 0 < config.limit) (kept : TokensKept config limiter)
    (place : Nat) : TokensKept config (step config limiter (.closed place)) := by
  cases here : limiter.connections[place]? with
  | none => simpa only [step, here] using kept
  | some rejected =>
      have counted := countP_eraseIdx_add (fun rejected => !rejected) here
      cases rejected with
      | true =>
          simp only [TokensKept, step, here, onEnd, Bool.not_true, Bool.false_eq_true, and_false,
            if_false]
          apply (Quota.Balanced.same_iff kept _).mpr
          simpa [admitted] using counted
      | false =>
          simp only [TokensKept, step, here, onEnd, positive, Bool.not_false, and_true, if_true]
          apply (Quota.Balanced.produce_iff kept _).mpr
          simpa [admitted] using counted

theorem tokensKept_start (config : ConcurrencyLimitConfig) : TokensKept config (start config) :=
  Quota.balanced_new config.limit.toNat

theorem tokensKept_run (positive : 0 < config.limit) (events : List ConnectionEvent) :
    TokensKept config (events.foldl (step config) (start config)) := by
  refine foldl_invariant ?_ (tokensKept_start config) events
  intro limiter event kept
  cases event with
  | opened => exact tokensKept_opened positive kept
  | closed place => exact tokensKept_closed positive kept place

theorem closed_rejected {place : Nat} (rejected : limiter.connections[place]? = some true) :
    (step config limiter (.closed place)).quota = limiter.quota := by
  simp only [step, rejected, onEnd, Bool.not_true, Bool.false_eq_true, and_false, if_false]

/-- At every moment of every run the tokens and the admitted connections make up the limit, a
rejected connection returns nothing, and a connection is rejected exactly at the limit. -/
theorem connectionLimit_exact (config : ConcurrencyLimitConfig) (positive : 0 < config.limit)
    (events : List ConnectionEvent) :
    let limiter := events.foldl (step config) (start config)
    ((limiter.quota.tokens + limiter.admitted : Nat) : Int) = config.limit ∧
      (limiter.admitted : Int) ≤ config.limit ∧
      (∀ place, limiter.connections[place]? = some true →
        (step config limiter (.closed place)).quota = limiter.quota) ∧
      ((onStart config limiter.quota).1 = true ↔ (limiter.admitted : Int) = config.limit) := by
  intro limiter
  have kept : TokensKept config limiter := tokensKept_run positive events
  have balanced : limiter.quota.tokens + limiter.admitted = config.limit.toNat := kept
  refine ⟨?_, ?_, fun place rejected => closed_rejected rejected, ?_⟩
  · omega
  · omega
  · rw [rejected_iff positive kept]
    omega

/-- The third connection is rejected, and its end makes no room for another. -/
theorem connectionLimit_two :
    let config : ConcurrencyLimitConfig := ⟨some 2⟩
    let limiter := [ConnectionEvent.opened, .opened, .opened].foldl (step config) (start config)
    limiter.connections = [false, false, true] ∧
      (step config limiter (.closed 2)).quota = limiter.quota ∧
      ((onStart config limiter.quota).1 = true ↔ (limiter.admitted : Int) = config.limit) := by
  have rejected : ([ConnectionEvent.opened, .opened, .opened].foldl (step ⟨some 2⟩)
      (start ⟨some 2⟩)).connections = [false, false, true] := by decide
  obtain ⟨_, _, ends, full⟩ := connectionLimit_exact ⟨some 2⟩ (by decide)
    [.opened, .opened, .opened]
  exact ⟨rejected, ends 2 (by rw [rejected]; rfl), full⟩

end ConnectionLimiter

end Fgw
