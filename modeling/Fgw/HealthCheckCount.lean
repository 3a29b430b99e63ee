import Fgw.HealthCheckSet
import Fgw.Library.TrailingRun
import Mathlib.Algebra.Order.Ring.Rat
import Mathlib.Data.Nat.Cast.Order.Ring

/-!
What the count of failures of a target with a check interval amounts to: the failed probes since
the last successful one.
-/

namespace Fgw

/-- What happens to one record between updates: a probe is answered, or the timer comes by. -/
inductive RecordEvent
  | answered (ref now : Nat) (res : HealthResponse)
  | checked (ref now : Nat)

def RecordEvent.ref : RecordEvent → Nat
  | .answered ref _ _ => ref
  | .checked ref _ => ref

def recordStep (engine : HealthEngine) (state : HealthState) : RecordEvent → HealthState
  | .answered ref now res => state.answer engine now ref res
  | .checked ref now => state.check engine now ref

/-- The outcome of a probe of the record, if the event answers one. -/
def probeOutcome (engine : HealthEngine) (ref : Nat) (healthCheck : Value) :
    RecordEvent → Option Bool
  | .answered other _ res =>
      if other = ref then (responsePasses engine healthCheck res).toOption else none
  | .checked _ _ => none

def probeOutcomes (engine : HealthEngine) (ref : Nat) (healthCheck : Value)
    (events : List RecordEvent) : List Bool :=
  events.filterMap (probeOutcome engine ref healthCheck)

def addressAt (state : HealthState) (ref : Nat) : Option String :=
  state.records[ref]?.map TargetRecord.address

/-- The event is one of this record, or of a record with another address. -/
def Apart (state : HealthState) (ref : Nat) (address : String) (event : RecordEvent) : Prop :=
  event.ref = ref ∨ addressAt state event.ref ≠ some address

/-- The record has counted the failures, and its health and the mark of its address say whether
they are too many. -/
structure CountsFailures (ref : Nat) (address : String) (healthCheck : Value) (maxFails : Rat)
    (failures : Nat) (state : HealthState) : Prop where
  record : ∃ target, state.records[ref]? = some target ∧ target.address = address ∧
    target.healthCheck = healthCheck ∧ target.failCount = failures ∧
    target.isHealthy = decide ((failures : Rat) < maxFails)
  marked : Marked state address ↔ maxFails ≤ (failures : Rat)

structure CountsUpTo (engine : HealthEngine) (healthCheck : Value) (maxFails : Rat) : Prop where
  positive : 1 ≤ maxFails
  timed : (healthCheck.opt "interval").truthy = true
  counted : ∀ count : Nat, engine.atLeast count (healthCheck.opt "maxFails") =
    decide (maxFails ≤ (count : Rat))

theorem CountsUpTo.few {engine : HealthEngine} {healthCheck : Value} {maxFails : Rat}
    (limits : CountsUpTo engine healthCheck maxFails) : ((0 : Nat) : Rat) < maxFails := by
  rw [Nat.cast_zero]
  exact lt_of_lt_of_le zero_lt_one limits.positive

section Steps

variable {engine : HealthEngine} {ref : Nat} {address : String} {healthCheck : Value}
  {maxFails : Rat} {failures : Nat} {state : HealthState}

theorem counts_reset (limits : CountsUpTo engine healthCheck maxFails)
    (counts : CountsFailures ref address healthCheck maxFails failures state) :
    CountsFailures ref address healthCheck maxFails 0 (state.reset ref address) := by
  obtain ⟨⟨target, here, rfl, rfl, _⟩, _⟩ := counts
  have few := limits.few
  have changed := getElem?_change state ref ref TargetRecord.reset
  rw [if_pos rfl, here] at changed
  refine ⟨⟨target.reset, changed, rfl, rfl, rfl, (decide_eq_true few).symm⟩, ?_⟩
  constructor
  · intro marked
    change ((state.unhealthySet.erase target.address).get? target.address).isSome = true at marked
    rw [Table.get?_erase, if_pos rfl] at marked
    cases marked
  · intro many
    exact absurd few (not_lt.mpr many)

/-- The failure that makes them too many marks the address; the count stays too large after it. -/
theorem counts_fail (limits : CountsUpTo engine healthCheck maxFails)
    (counts : CountsFailures ref address healthCheck maxFails failures state) (now : Nat)
    {target : TargetRecord} (here : state.records[ref]? = some target) :
    CountsFailures ref address healthCheck maxFails (failures + 1)
      (state.fail engine now ref target) := by
  obtain ⟨⟨record, found, rfl, rfl, count, healthy⟩, marked⟩ := counts
  obtain rfl : target = record := Option.some.inj (here.symm.trans found)
  have more : (failures : Rat) ≤ ((failures + 1 : Nat) : Rat) := by exact_mod_cast Nat.le_succ _
  have changed := getElem?_change state ref ref (TargetRecord.fail engine now)
  rw [if_pos rfl, here] at changed
  refine ⟨⟨target.fail engine now, changed, rfl, rfl, ?_, ?_⟩, ?_⟩
  · exact congrArg (· + 1) count
  · rw [TargetRecord.fail, healthy, limits.counted, count]
    by_cases many : maxFails ≤ ((failures + 1 : Nat) : Rat)
    · rw [decide_eq_true many, decide_eq_false (not_lt.mpr many)]
      exact Bool.and_false _
    · have fewer := not_le.mp many
      rw [decide_eq_false many, decide_eq_true fewer, decide_eq_true (lt_of_le_of_lt more fewer)]
      rfl
  · rw [marked_fail, marked, TargetRecord.atLimit, limits.counted, count, decide_eq_true_eq]
    constructor
    · rintro (already | ⟨now, _⟩)
      · exact already.trans more
      · exact now
    · exact fun now => Or.inr ⟨now, rfl⟩

/-- What leaves the record as it is, except for the time of its check, and the mark. -/
theorem CountsFailures.congr {after : HealthState}
    (counts : CountsFailures ref address healthCheck maxFails failures state)
    (record : ∀ target, state.records[ref]? = some target → ∃ lastCheckTime,
      after.records[ref]? = some { target with lastCheckTime })
    (marked : Marked after address ↔ Marked state address) :
    CountsFailures ref address healthCheck maxFails failures after := by
  obtain ⟨⟨target, here, addressed, checks, count, healthy⟩, mark⟩ := counts
  obtain ⟨lastCheckTime, later⟩ := record target here
  exact ⟨⟨_, later, addressed, checks, count, healthy⟩, marked.trans mark⟩

theorem counts_check (limits : CountsUpTo engine healthCheck maxFails)
    (counts : CountsFailures ref address healthCheck maxFails failures state) (now : Nat) :
    CountsFailures ref address healthCheck maxFails failures (state.check engine now ref) := by
  obtain ⟨target, here, _, checks, _⟩ := counts.record
  rcases check_cases engine now state ref with
    ⟨same, _⟩ | ⟨probed, found, _, later⟩ | ⟨record, found, due, _⟩
  · rw [same]
    exact counts
  · rw [later]
    refine counts.congr (fun target here => ⟨now, ?_⟩) Iff.rfl
    rw [getElem?_change, if_pos rfl, here]
    rfl
  · obtain rfl : target = record := Option.some.inj (here.symm.trans found)
    rw [TargetRecord.due, checks, limits.timed] at due
    cases due

theorem counts_answer (limits : CountsUpTo engine healthCheck maxFails)
    (counts : CountsFailures ref address healthCheck maxFails failures state) (now : Nat)
    (res : HealthResponse) :
    CountsFailures ref address healthCheck maxFails
      (nextFailures failures (responsePasses engine healthCheck res).toOption)
      (state.answer engine now ref res) := by
  obtain ⟨target, here, addressed, checks, _⟩ := counts.record
  rw [HealthState.answer, here]
  dsimp only
  rw [checks]
  cases responsePasses engine healthCheck res with
  | error thrown => exact counts
  | ok passed =>
      cases passed
      · exact counts_fail limits counts now here
      · rw [addressed]
        exact counts_reset limits counts

/-! Other records. -/

theorem recordStep_cases (engine : HealthEngine) (state : HealthState) (event : RecordEvent) :
    recordStep engine state event = state ∨
      ∃ target, state.records[event.ref]? = some target ∧
        ((∃ now, recordStep engine state event =
            state.change event.ref fun target => { target with lastCheckTime := now }) ∨
          recordStep engine state event = state.reset event.ref target.address ∨
          ∃ now, recordStep engine state event = state.fail engine now event.ref target) := by
  cases event with
  | checked ref now =>
      rcases check_cases engine now state ref with
        ⟨same, _⟩ | ⟨target, here, _, later⟩ | ⟨target, here, _, later⟩
      · exact Or.inl same
      · exact Or.inr ⟨target, here, Or.inl ⟨now, later⟩⟩
      · exact Or.inr ⟨target, here, Or.inr (Or.inl later)⟩
  | answered ref now res =>
      rcases answer_cases engine now ref res state with
        same | ⟨target, here, ⟨_, later⟩ | ⟨_, later⟩⟩
      · exact Or.inl same
      · exact Or.inr ⟨target, here, Or.inr (Or.inl later)⟩
      · exact Or.inr ⟨target, here, Or.inr (Or.inr ⟨now, later⟩)⟩

theorem addressAt_change (state : HealthState) (ref other : Nat) {f : TargetRecord → TargetRecord}
    (keeps : ∀ target, (f target).address = target.address) :
    addressAt (state.change ref f) other = addressAt state other := by
  rw [addressAt, getElem?_change, addressAt]
  split
  · cases state.records[other]? with
    | none => rfl
    | some target => exact congrArg some (keeps target)
  · rfl

theorem addressAt_recordStep (engine : HealthEngine) (state : HealthState) (event : RecordEvent)
    (other : Nat) : addressAt (recordStep engine state event) other = addressAt state other := by
  rcases recordStep_cases engine state event with same | ⟨target, _, ⟨now, later⟩ | later | ⟨now, later⟩⟩
  · rw [same]
  · rw [later]
    exact addressAt_change state _ other fun _ => rfl
  · rw [later]
    exact addressAt_change state _ other fun _ => rfl
  · rw [later]
    exact addressAt_change state _ other fun _ => rfl

theorem counts_other (engine : HealthEngine)
    (counts : CountsFailures ref address healthCheck maxFails failures state)
    {event : RecordEvent} (foreign : event.ref ≠ ref)
    (apart : addressAt state event.ref ≠ some address) :
    CountsFailures ref address healthCheck maxFails failures (recordStep engine state event) := by
  have record : ∀ f target, state.records[ref]? = some target → ∃ lastCheckTime,
      (state.change event.ref f).records[ref]? = some { target with lastCheckTime } := by
    intro f target here
    rw [getElem?_change, if_neg foreign]
    exact ⟨target.lastCheckTime, here⟩
  rcases recordStep_cases engine state event with same | ⟨target, here, cases_⟩
  · rw [same]
    exact counts
  · have elsewhere : target.address ≠ address := by
      rw [addressAt, here] at apart
      exact fun same => apart (congrArg some same)
    rcases cases_ with ⟨now, later⟩ | later | ⟨now, later⟩
    · rw [later]
      exact counts.congr (record _) Iff.rfl
    · rw [later]
      refine counts.congr (record _) ?_
      rw [Marked, Marked, HealthState.reset, Table.get?_erase, if_neg elsewhere]
    · rw [later]
      refine counts.congr (record _) ?_
      rw [marked_fail]
      constructor
      · rintro (marked | ⟨_, same⟩)
        · exact marked
        · exact absurd same.symm elsewhere
      · exact Or.inl

theorem counts_recordStep (limits : CountsUpTo engine healthCheck maxFails)
    (counts : CountsFailures ref address healthCheck maxFails failures state)
    {event : RecordEvent} (apart : Apart state ref address event) :
    CountsFailures ref address healthCheck maxFails
      (nextFailures failures (probeOutcome engine ref healthCheck event))
      (recordStep engine state event) := by
  by_cases own : event.ref = ref
  · subst own
    cases event with
    | checked ref now => exact counts_check limits counts now
    | answered ref now res =>
        rw [probeOutcome, RecordEvent.ref, if_pos rfl]
        exact counts_answer limits counts now res
  · have elsewhere := counts_other engine counts own (apart.resolve_left own)
    cases event with
    | checked other now => exact elsewhere
    | answered other now res =>
        have other_ : ¬ other = ref := own
        rw [probeOutcome, if_neg other_]
        exact elsewhere

end Steps

/-! Runs. -/

section Runs

variable {engine : HealthEngine} {ref : Nat} {address : String} {healthCheck : Value}
  {maxFails : Rat} {start : HealthState}

def CountsFrom (start : HealthState) (ref : Nat) (address : String) (healthCheck : Value)
    (maxFails : Rat) (failures : Nat) (state : HealthState) : Prop :=
  CountsFailures ref address healthCheck maxFails failures state ∧
    ∀ other, addressAt state other = addressAt start other

theorem countsFrom_recordStep (limits : CountsUpTo engine healthCheck maxFails)
    {failures : Nat} {state : HealthState}
    (counts : CountsFrom start ref address healthCheck maxFails failures state)
    {event : RecordEvent} (apart : Apart start ref address event) :
    CountsFrom start ref address healthCheck maxFails
      (nextFailures failures (probeOutcome engine ref healthCheck event))
      (recordStep engine state event) := by
  have stays : Apart state ref address event := by
    rw [Apart, counts.2]
    exact apart
  exact ⟨counts_recordStep limits counts.1 stays, fun other =>
    (addressAt_recordStep engine state event other).trans (counts.2 other)⟩

theorem run_counts (limits : CountsUpTo engine healthCheck maxFails)
    (fresh : CountsFailures ref address healthCheck maxFails 0 start)
    (events : List RecordEvent) (apart : ∀ event ∈ events, Apart start ref address event) :
    CountsFailures ref address healthCheck maxFails
      (failuresInARow (probeOutcomes engine ref healthCheck events))
      (events.foldl (recordStep engine) start) := by
  suffices result : CountsFrom start ref address healthCheck maxFails _ _ from result.1
  apply foldl_failuresInARow ?_ ⟨fresh, fun _ => rfl⟩
  intro failures state event member counts
  exact countsFrom_recordStep limits counts (apart event member)

end Runs

/-- The record is healthy again after every successful probe, and unhealthy exactly while the
failed probes since the last successful one are too many. -/
theorem unhealthy_iff_failuresInARow (engine : HealthEngine) {ref : Nat} {maxFails : Rat}
    (positive : 1 ≤ maxFails) {state : HealthState} {target : TargetRecord}
    (here : state.records[ref]? = some target) (healthy : target.isHealthy = true)
    (uncounted : target.failCount = 0) (unmarked : ¬ Marked state target.address)
    (timed : (target.healthCheck.opt "interval").truthy = true)
    (counted : ∀ count : Nat, engine.atLeast count (target.healthCheck.opt "maxFails") =
      decide (maxFails ≤ (count : Rat)))
    (events : List RecordEvent) (apart : ∀ event ∈ events, Apart state ref target.address event) :
    ∃ record, (events.foldl (recordStep engine) state).records[ref]? = some record ∧
      (record.isHealthy = false ↔ maxFails ≤
        (failuresInARow (probeOutcomes engine ref target.healthCheck events) : Rat)) ∧
      (Marked (events.foldl (recordStep engine) state) target.address ↔ maxFails ≤
        (failuresInARow (probeOutcomes engine ref target.healthCheck events) : Rat)) ∧
      ((probeOutcomes engine ref target.healthCheck events).getLast? = some true →
        record.isHealthy = true ∧ record.failCount = 0) := by
  have limits : CountsUpTo engine target.healthCheck maxFails := ⟨positive, timed, counted⟩
  have few := limits.few
  have start : CountsFailures ref target.address target.healthCheck maxFails 0 state :=
    ⟨⟨target, here, rfl, rfl, uncounted, healthy.trans (decide_eq_true few).symm⟩,
      fun marked => absurd marked unmarked, fun many => absurd few (not_lt.mpr many)⟩
  obtain ⟨⟨record, later, _, _, count, health⟩, marked⟩ :=
    run_counts limits start events apart
  refine ⟨record, later, ?_, marked, ?_⟩
  · rw [health, decide_eq_false_iff_not, not_lt]
  · intro success
    have none : failuresInARow (probeOutcomes engine ref target.healthCheck events) = 0 := by
      obtain ⟨before, split_⟩ := List.getLast?_eq_some_iff.mp success
      rw [split_, failuresInARow_concat, nextFailures]
    rw [none] at count health
    exact ⟨health.trans (decide_eq_true few), count⟩

/-! The life of an entry between updates. -/

def KeepsTargets : LifeEvent → Prop
  | .updated _ _ => False
  | .formerUpdated _ _ => False
  | _ => True

def lifeOutcome (engine : HealthEngine) (ref : Nat) (healthCheck : Value) :
    LifeEvent → Option Bool
  | .answered other _ res =>
      if other = ref then (responsePasses engine healthCheck res).toOption else none
  | _ => none

section Life

variable {engine : HealthEngine} {ref : Nat} {address : String} {healthCheck : Value}
  {maxFails : Rat} {start : HealthState}

theorem countsFrom_lifeStep (limits : CountsUpTo engine healthCheck maxFails)
    (alone : ∀ other, other ≠ ref → addressAt start other ≠ some address)
    {failures : Nat} {state : HealthState}
    (counts : CountsFrom start ref address healthCheck maxFails failures state) (name : String)
    {event : LifeEvent} (keeps : KeepsTargets event) :
    CountsFrom start ref address healthCheck maxFails
      (nextFailures failures (lifeOutcome engine ref healthCheck event))
      (lifeStep engine name state event) := by
  have apart (event : RecordEvent) : Apart start ref address event := by
    by_cases own : event.ref = ref
    · exact Or.inl own
    · exact Or.inr (alone event.ref own)
  have checked (now : Nat) (refs : List Nat) :
      CountsFrom start ref address healthCheck maxFails failures
        (state.checkAll engine now refs) := by
    refine @foldl_invariant _ _ (HealthState.check engine now)
      (CountsFrom start ref address healthCheck maxFails failures) ?_ _ counts refs
    intro later other before
    exact countsFrom_recordStep limits before (apart (.checked other now))
  cases event with
  | answered other now res =>
      exact countsFrom_recordStep limits counts (apart (.answered other now res))
  | timer now =>
      simp only [lifeStep, HealthState.healthCheckAll]
      split
      · exact counts
      · split
        · exact ⟨⟨counts.1.record, counts.1.marked⟩, counts.2⟩
        · exact checked now state.allTargets
  | formerTimer refs now => exact checked now _
  | updated store now => exact keeps.elim
  | formerUpdated store now => exact keeps.elim

/-- Over every run of an entry without updates, a record whose address no other record has is
unhealthy exactly while the failed probes since the last successful one are too many. -/
theorem life_unhealthy_iff (limits : CountsUpTo engine healthCheck maxFails)
    (alone : ∀ other, other ≠ ref → addressAt start other ≠ some address)
    (fresh : CountsFailures ref address healthCheck maxFails 0 start) (name : String)
    {life : List LifeEvent} (keeps : ∀ event ∈ life, KeepsTargets event) :
    CountsFailures ref address healthCheck maxFails
      (failuresInARow (life.filterMap (lifeOutcome engine ref healthCheck)))
      (life.foldl (lifeStep engine name) start) := by
  suffices result : CountsFrom start ref address healthCheck maxFails _ _ from result.1
  apply foldl_failuresInARow ?_ ⟨fresh, fun _ => rfl⟩
  intro failures state event member counts
  exact countsFrom_lifeStep limits alone counts name (keeps event member)

end Life

/-! One address that answers badly, well and badly again. -/

def checkedBackend : HealthState :=
  healthStep plainHealth "b" HealthState.empty (.constructed (healthStore "10") 0)

def checkedTarget : TargetRecord :=
  ⟨"a:80", .obj [("path", .str "/"), ("interval", .num "10"), ("maxFails", .num "1"),
    ("matches", .arr [.obj [("statusCodes", .arr [.num "200"])]])], true, 0, 0, 0⟩

def mixedProbes : List RecordEvent :=
  [.answered 0 1000 failedProbe, .checked 0 12000, .answered 0 12010 ⟨.num "200", .str "", []⟩,
    .answered 0 22000 failedProbe]

theorem plainHealth_maxFails (count : Nat) :
    plainHealth.atLeast count (checkedTarget.healthCheck.opt "maxFails") =
      decide ((1 : Rat) ≤ (count : Rat)) := by
  change ((List.range (count + 1)).any fun number => decide (Nat.repr number = "1")) = _
  rw [Bool.eq_iff_iff, List.any_eq_true, decide_eq_true_eq]
  have one : (1 : Rat) ≤ (count : Rat) ↔ 1 ≤ count := by exact_mod_cast Iff.rfl
  rw [one]
  constructor
  · rintro ⟨number, member, printed⟩
    have digits := congrArg String.toList (of_decide_eq_true printed)
    rw [Nat.toList_repr] at digits
    have same : Nat.ofDigitChars 10 ['1'] 0 = number := by
      rw [← Nat.ofDigitChars_toDigits (n := number) (by decide) (le_refl 10), digits]
      rfl
    rw [show Nat.ofDigitChars 10 ['1'] 0 = 1 by decide] at same
    have bound := List.mem_range.mp member
    omega
  · intro bound
    exact ⟨1, List.mem_range.mpr (by omega), by decide⟩

theorem mixedProbes_unhealthy :
    ∃ record, (mixedProbes.foldl (recordStep plainHealth) checkedBackend).records[0]? =
        some record ∧ record.isHealthy = false := by
  have result := unhealthy_iff_failuresInARow plainHealth (le_refl 1)
    (show checkedBackend.records[0]? = some checkedTarget by rfl) rfl rfl
    (show ¬ Marked checkedBackend "a:80" by unfold Marked; decide +kernel) rfl plainHealth_maxFails
    mixedProbes (by intro event member; left; revert event; decide)
  obtain ⟨record, found, health, _⟩ := result
  refine ⟨record, found, health.mpr ?_⟩
  rw [show failuresInARow (probeOutcomes plainHealth 0 checkedTarget.healthCheck mixedProbes) = 1
    by decide +kernel]
  exact le_of_eq Nat.cast_one.symm

end Fgw
