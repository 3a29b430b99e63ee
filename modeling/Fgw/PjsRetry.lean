import Fgw.PjsForwardCore

/-!
How often a request is replayed.  The count of retries is shared by the replays on the first
balancer and those on the failover balancer, and the failover balancer is used up by one switch.
-/

namespace Fgw

namespace PjsForward

/-- A status that makes up for a switch to the failover balancer: none, or an error of a server. -/
def FailoverWorthy (status : Option Nat) : Prop :=
  status = none ∨ status = some 0 ∨ ∃ code, status = some code ∧ 499 < code

/-- Why a request was replayed. -/
def Justified (config : ServiceConfig) (turn : Turn) : Prop :=
  match turn.replay with
  | .retry => ∃ status, turn.attempt.status = some status ∧
      Int.ofNat status ∈ config.retryStatusCodes
  | .failover => FailoverWorthy turn.attempt.status
  | .noTarget => turn.vars.hasTarget = false

def ServiceConfig.retries (config : ServiceConfig) : Nat := config.numRetries.getD 0

/-- The replays before a switch to the failover balancer, the switch, and the replays after it. -/
structure Phases (config : ServiceConfig) (turns : List Turn) where
  before : List Turn
  switch : Option Turn
  after : List Turn
  whole : turns = before ++ switch.toList ++ after
  retries : ∀ turn ∈ before ++ after, turn.replay = .retry
  switched : ∀ turn ∈ switch, turn.replay ≠ .retry
  beforeBound : before.length ≤ config.retries
  afterBound : after.length ≤ config.retries

section Laws

variable {config : ServiceConfig} {cookie : Option String}

@[simp] theorem selectTarget_retryCount (attempt : Attempt) (vars : ForwardVars) :
    (selectTarget config cookie attempt vars).retryCount = vars.retryCount := by
  unfold selectTarget
  split
  · rfl
  · dsimp only
    split
    · rfl
    · rfl

@[simp] theorem selectTarget_failoverBalancer (attempt : Attempt) (vars : ForwardVars) :
    (selectTarget config cookie attempt vars).failoverBalancer = vars.failoverBalancer := by
  unfold selectTarget
  split
  · rfl
  · dsimp only
    split
    · rfl
    · rfl

/-- What `shouldRetry` does when it asks for a replay. -/
inductive Asks (config : ServiceConfig) (vars : ForwardVars) (status : Option Nat) :
    Replay → ForwardVars → Prop
  | retry {after : ForwardVars} : (∃ code, status = some code ∧
      Int.ofNat code ∈ config.retryStatusCodes) → vars.retryCount < config.retries →
        after.retryCount = vars.retryCount + 1 →
          after.failoverBalancer = vars.failoverBalancer → Asks config vars status .retry after
  | failover {after : ForwardVars} : FailoverWorthy status → vars.failoverBalancer = true →
      after.retryCount = 0 → after.failoverBalancer = false →
        Asks config vars status .failover after

theorem failoverWorthy_of_orNumber {status : Option Nat}
    (worthy : (decide (orNumber status 0 = 0) || decide (499 < orNumber status 0)) = true) :
    FailoverWorthy status := by
  cases status with
  | none => exact .inl rfl
  | some code =>
      by_cases zero : code = 0
      · exact .inr (.inl (congrArg some zero))
      · simp [orNumber, zero] at worthy
        exact .inr (.inr ⟨code, rfl, worthy⟩)

theorem asks_of_shouldRetry {vars after : ForwardVars} {status : Option Nat} {replay : Replay}
    (asked : shouldRetry config vars status = (some replay, after)) :
    Asks config vars status replay after := by
  have counted := counted_countRetry config vars status
  dsimp only [shouldRetry] at asked
  split at asked
  · rename_i switches
    simp only [Prod.mk.injEq, Option.some.injEq] at asked
    obtain ⟨rfl, rfl⟩ := asked
    rw [Bool.and_eq_true, Bool.and_eq_true, counted.failoverBalancer] at switches
    exact .failover (failoverWorthy_of_orNumber switches.2) switches.1.2 rfl rfl
  · split at asked
    · rename_i again
      simp only [Prod.mk.injEq, Option.some.injEq] at asked
      obtain ⟨rfl, rfl⟩ := asked
      obtain ⟨listed, below, count⟩ := counted.retried again
      exact .retry listed below count counted.failoverBalancer
    · cases asked

/-- What a turn does when the request is replayed. -/
inductive Replays (config : ServiceConfig) (vars : ForwardVars) (turn : Turn) :
    ForwardVars → Prop
  | retry {next : ForwardVars} : turn.replay = .retry → vars.retryCount < config.retries →
      next.retryCount = vars.retryCount + 1 → next.failoverBalancer = vars.failoverBalancer →
        Replays config vars turn next
  | switch {next : ForwardVars} : turn.replay ≠ .retry → vars.failoverBalancer = true →
      next.retryCount ≤ vars.retryCount → next.failoverBalancer = false →
        Replays config vars turn next

theorem Turns.replays {attempt : Attempt} {vars next : ForwardVars} {replay : Replay}
    (turns : Turns config attempt (selectTarget config cookie attempt vars)
      (.replayed replay next)) :
    let turn : Turn := ⟨attempt, selectTarget config cookie attempt vars, replay⟩
    Justified config turn ∧ Replays config vars turn next := by
  cases turns with
  | noTarget missing available =>
      rw [selectTarget_failoverBalancer] at available
      exact ⟨missing, .switch (by simp) available (by simp) rfl⟩
  | asked asked =>
      cases asks_of_shouldRetry asked with
      | retry listed below count kept =>
          rw [selectTarget_retryCount] at below count
          rw [selectTarget_failoverBalancer] at kept
          exact ⟨listed, .retry rfl below count kept⟩
      | failover worthy available count used =>
          rw [selectTarget_failoverBalancer] at available
          exact ⟨worthy, .switch (by simp) available (by simp [count]) used⟩

variable {vars : ForwardVars} {attempts : List Attempt} {turns : List Turn}
  {ended : Option Outcome}

theorem Course.justified (course : Course config cookie vars attempts turns ended) :
    ∀ turn ∈ turns, Justified config turn := by
  induction course with
  | waiting vars => simp
  | answered vars attempt rest => simp
  | replayed turned course ih => exact List.forall_mem_cons.mpr ⟨turned.replays.1, ih⟩

/-- Without the failover balancer, each replay takes one of the retries that are left. -/
theorem Course.retries (course : Course config cookie vars attempts turns ended)
    (used : vars.failoverBalancer = false) (bound : vars.retryCount ≤ config.retries) :
    (∀ turn ∈ turns, turn.replay = .retry) ∧ vars.retryCount + turns.length ≤ config.retries := by
  induction course with
  | waiting vars => simpa using bound
  | answered vars attempt rest => simpa using bound
  | replayed turned course ih =>
      cases turned.replays.2 with
      | retry kind below count kept =>
          obtain ⟨all, fits⟩ := ih (kept.trans used) (by omega)
          refine ⟨List.forall_mem_cons.mpr ⟨kind, all⟩, ?_⟩
          rw [List.length_cons]
          omega
      | switch _ available _ _ =>
          rw [used] at available
          cases available

theorem Course.phases (course : Course config cookie vars attempts turns ended)
    (bound : vars.retryCount ≤ config.retries) :
    ∃ phases : Phases config turns, vars.retryCount + phases.before.length ≤ config.retries := by
  induction course with
  | waiting vars =>
      exact ⟨⟨[], none, [], rfl, by simp, by simp, by simp, by simp⟩, by simpa using bound⟩
  | answered vars attempt rest =>
      exact ⟨⟨[], none, [], rfl, by simp, by simp, by simp, by simp⟩, by simpa using bound⟩
  | @replayed vars next attempt rest replay turns ended turned course ih =>
      cases turned.replays.2 with
      | retry kind below count kept =>
          obtain ⟨phases, fits⟩ := ih (by omega)
          refine ⟨⟨⟨attempt, selectTarget config cookie attempt vars, replay⟩ :: phases.before,
            phases.switch, phases.after, ?_, ?_, phases.switched, ?_, phases.afterBound⟩, ?_⟩
          · exact congrArg _ phases.whole
          · exact List.forall_mem_cons.mpr ⟨kind, phases.retries⟩
          · rw [List.length_cons]
            omega
          · rw [List.length_cons]
            omega
      | switch kind _ count used =>
          obtain ⟨all, fits⟩ := course.retries used (count.trans bound)
          refine ⟨⟨[], some ⟨attempt, selectTarget config cookie attempt vars, replay⟩, turns, rfl,
            all, ?_, by simp, by omega⟩, by simpa using bound⟩
          rintro turn ⟨⟩
          exact kind

/-- A request that is still waiting has been replayed after each of its attempts. -/
theorem Course.length_of_waiting (course : Course config cookie vars attempts turns ended)
    (waiting : ended = none) : turns.length = attempts.length := by
  induction course with
  | waiting vars => rfl
  | answered vars attempt rest => cases waiting
  | replayed turned course ih => rw [List.length_cons, List.length_cons, ih waiting]

theorem Phases.length_le (phases : Phases config turns) :
    turns.length ≤ 2 * config.retries + 1 := by
  have first := phases.beforeBound
  have last := phases.afterBound
  have one : phases.switch.toList.length ≤ 1 := by
    cases phases.switch with
    | none => simp
    | some turn => simp
  rw [phases.whole, List.length_append, List.length_append]
  omega

end Laws

/-- A request is replayed at most `2n + 1` times: `n` times, one switch to the failover balancer,
and `n` times again.  Each replay has its reason, and with more attempts the request ends. -/
theorem replays_bounded (engine : Engine) (settings : ServiceSettings) (counters : RetryCounters)
    (cookie : Option String) (attempts : List Attempt) :
    let config := makeServiceConfig engine settings
    let run := forward config counters cookie attempts
    (∃ phases : Phases config run.1,
      phases.before.length ≤ settings.numRetries.getD 0 ∧
        phases.after.length ≤ settings.numRetries.getD 0) ∧
      run.1.length ≤ 2 * settings.numRetries.getD 0 + 1 ∧
      (∀ turn ∈ run.1, Justified config turn) ∧
      (2 * settings.numRetries.getD 0 + 1 < attempts.length → run.2.isSome) := by
  intro config run
  have course := course_exchange config cookie
    (config.needRetry || (startVars config counters).failoverBalancer) (startVars config counters)
    attempts
  obtain ⟨phases, _⟩ := course.phases (Nat.zero_le _)
  have short : run.1.length ≤ 2 * settings.numRetries.getD 0 + 1 := phases.length_le
  refine ⟨⟨phases, phases.beforeBound, phases.afterBound⟩, short, course.justified, ?_⟩
  intro long
  rw [Option.isSome_iff_ne_none]
  intro waiting
  have each : run.1.length = attempts.length := course.length_of_waiting waiting
  omega

end PjsForward

end Fgw
