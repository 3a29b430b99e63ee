import Fgw.Library.TrailingRun
import Fgw.PjsHealthCheck
import Mathlib.Algebra.Order.Floor.Semiring
import Mathlib.Data.Rat.Floor

/-!
What the count of errors of a target amounts to.  An `ok` clears it only while the target is down,
so failures that an `ok` has separated add up.
-/

namespace Fgw

namespace PjsHealth

inductive PjsCall
  | ok
  | fail
  deriving DecidableEq

def PjsCall.event (key : String) : PjsCall → PjsHealthEvent
  | .ok => .ok key
  | .fail => .fail key

def PjsCall.passed (call : PjsCall) : Bool := call = .ok

def callStep (debug : Bool) (key : String) (health : PjsHealth) (call : PjsCall) : PjsHealth :=
  health.step debug (call.event key)

/-- The call takes the target from up to down. -/
def GoesDown (debug : Bool) (key : String) (health : PjsHealth) (call : PjsCall) : Prop :=
  ∃ target, health.healthCheckTargets.get? key = some target ∧ target.alive ≠ 0 ∧
    ∃ later, (callStep debug key health call).healthCheckTargets.get? key = some later ∧
      later.alive = 0

def Completes (maxFails : Rat) (failures : Nat) : Prop :=
  (failures : Rat) < maxFails ∧ maxFails ≤ ((failures + 1 : Nat) : Rat)

/-- The target goes down exactly at the failures that complete `maxFails` in a row. -/
def DownInARow (debug : Bool) (key : String) (maxFails : Rat) (health : PjsHealth)
    (calls : List PjsCall) : Prop :=
  ∀ before call after, calls = before ++ call :: after →
    (GoesDown debug key (before.foldl (callStep debug key) health) call ↔
      call = .fail ∧ Completes maxFails (failuresInARow (before.map PjsCall.passed)))

/-- An `ok` that finds the target up with failures counted has too few failures after it to
complete `maxFails` with those. -/
def TooFewToAddUp (debug : Bool) (key : String) (maxFails : Rat) (health : PjsHealth)
    (calls : List PjsCall) : Prop :=
  ∀ before after, calls = before ++ .ok :: after → ∀ target,
    (before.foldl (callStep debug key) health).healthCheckTargets.get? key = some target →
      target.alive ≠ 0 → 0 < target.errorCount →
        ((target.errorCount + after.count .fail : Nat) : Rat) < maxFails

/-! The record alone. -/

def callTarget (target : PjsTarget) : PjsCall → PjsTarget
  | .ok => if target.alive = 0 then { target with alive := 1, errorCount := 0 } else target
  | .fail =>
      if target.service.config.maxFails ≤ ((target.errorCount + 1 : Nat) : Rat) ∧
          target.alive ≠ 0 then
        { target with errorCount := target.errorCount + 1, alive := 0, failTick := 0 }
      else { target with errorCount := target.errorCount + 1 }

theorem get?_callStep {debug : Bool} {key : String} {health : PjsHealth} {target : PjsTarget}
    (here : health.healthCheckTargets.get? key = some target) (call : PjsCall) :
    (callStep debug key health call).healthCheckTargets.get? key =
      some (callTarget target call) := by
  cases call with
  | ok =>
      simp only [callStep, PjsCall.event, step, here, PjsHealth.ok, callTarget]
      split
      · rw [targets_removeUnhealthy, targets_put, Table.get?_set_self]
      · exact here
  | fail =>
      simp only [callStep, PjsCall.event, step, here, PjsHealth.fail, callTarget]
      split
      · rw [targets_addUnhealthy, targets_put, Table.get?_set_self]
      · rw [targets_put, Table.get?_set_self]

theorem get?_calls {debug : Bool} {key : String} {health : PjsHealth} {target : PjsTarget}
    (here : health.healthCheckTargets.get? key = some target) (calls : List PjsCall) :
    (calls.foldl (callStep debug key) health).healthCheckTargets.get? key =
      some (calls.foldl callTarget target) := by
  induction calls generalizing health target with
  | nil => exact here
  | cons call rest ih => exact ih (get?_callStep here call)

theorem goesDown_iff {debug : Bool} {key : String} {health : PjsHealth} {target : PjsTarget}
    (here : health.healthCheckTargets.get? key = some target) (call : PjsCall) :
    GoesDown debug key health call ↔ target.alive ≠ 0 ∧ (callTarget target call).alive = 0 := by
  constructor
  · rintro ⟨record, found, up, later, after, down⟩
    cases here.symm.trans found
    cases (get?_callStep here call).symm.trans after
    exact ⟨up, down⟩
  · rintro ⟨up, down⟩
    exact ⟨target, here, up, _, get?_callStep here call, down⟩

theorem service_callTarget (target : PjsTarget) (call : PjsCall) :
    (callTarget target call).service = target.service := by
  cases call with
  | ok =>
      rw [callTarget]
      split <;> rfl
  | fail =>
      rw [callTarget]
      split <;> rfl

/-- The failures that take a target of this service down, as a whole number. -/
def limitOf (target : PjsTarget) : Nat := ⌈target.service.config.maxFails⌉₊

section Record

variable {target : PjsTarget}

theorem callTarget_ok_up (up : target.alive ≠ 0) : callTarget target .ok = target := if_neg up

theorem callTarget_fail_early (early : target.errorCount + 1 < limitOf target) :
    callTarget target .fail = { target with errorCount := target.errorCount + 1 } := by
  rw [callTarget, if_neg]
  exact fun both => absurd early (not_lt.mpr (Nat.ceil_le.mpr both.1))

theorem callTarget_fail_limit (up : target.alive ≠ 0)
    (late : limitOf target ≤ target.errorCount + 1) :
    (callTarget target .fail).alive = 0 := by
  rw [callTarget, if_pos ⟨Nat.ceil_le.mp late, up⟩]

theorem callTarget_fail_down (down : target.alive = 0) :
    callTarget target .fail = { target with errorCount := target.errorCount + 1 } := by
  rw [callTarget, if_neg fun both => both.2 down]

end Record

def rowStep (state : PjsTarget × Nat) (call : PjsCall) : PjsTarget × Nat :=
  (callTarget state.1 call, nextFailures state.2 (some call.passed))

/-- The call takes the target down exactly if it completes the failures in a row. -/
def AsInARow (state : PjsTarget × Nat) (call : PjsCall) : Prop :=
  (state.1.alive ≠ 0 ∧ (callTarget state.1 call).alive = 0) ↔
    call = .fail ∧ state.2 < limitOf state.1 ∧ limitOf state.1 ≤ state.2 + 1

def FewLeft (target : PjsTarget) (calls : List PjsCall) : Prop :=
  ∀ before after, calls = before ++ .ok :: after →
    (before.foldl callTarget target).alive ≠ 0 →
      0 < (before.foldl callTarget target).errorCount →
        (before.foldl callTarget target).errorCount + after.count .fail < limitOf target

theorem limitOf_callTarget (target : PjsTarget) (call : PjsCall) :
    limitOf (callTarget target call) = limitOf target := by
  rw [limitOf, service_callTarget, limitOf]

theorem fewLeft_cons_iff (target : PjsTarget) (call : PjsCall) (rest : List PjsCall) :
    FewLeft target (call :: rest) ↔
      (call = .ok → target.alive ≠ 0 → 0 < target.errorCount →
        target.errorCount + rest.count .fail < limitOf target) ∧
      FewLeft (callTarget target call) rest := by
  unfold FewLeft
  rw [limitOf_callTarget]
  constructor
  · intro few
    refine ⟨?_, fun before after same => few (call :: before) after (by rw [same]; rfl)⟩
    rintro rfl
    exact few [] rest rfl
  · rintro ⟨now, later⟩ (_ | ⟨first, before⟩) after same
    · cases same
      exact now rfl
    · rw [List.cons_append, List.cons.injEq] at same
      obtain ⟨rfl, rfl⟩ := same
      exact later before after rfl

theorem asInARow_ok (state : PjsTarget × Nat) : AsInARow state .ok := by
  constructor
  · rintro ⟨up, down⟩
    rw [callTarget_ok_up up] at down
    exact absurd down up
  · rintro ⟨failed, _⟩
    cases failed

section Stale

variable {target : PjsTarget} {failures : Nat} {calls : List PjsCall}

theorem everyStep_of_few (up : target.alive ≠ 0) (fewer : failures ≤ target.errorCount)
    (few : target.errorCount + calls.count .fail < limitOf target) :
    EveryStep rowStep AsInARow (target, failures) calls := by
  induction calls generalizing target failures with
  | nil => trivial
  | cons call rest ih =>
      cases call with
      | ok =>
          refine ⟨asInARow_ok _, ?_⟩
          rw [rowStep, callTarget_ok_up up]
          exact ih up (Nat.zero_le _) (by simpa using few)
      | fail =>
          rw [List.count_cons_self] at few
          have early : target.errorCount + 1 < limitOf target := by omega
          have stays := callTarget_fail_early early
          refine ⟨?_, ?_⟩
          · rw [AsInARow, stays]
            constructor
            · rintro ⟨_, down⟩
              exact absurd down up
            · rintro ⟨_, _, enough⟩
              dsimp only at enough
              omega
          · rw [rowStep, stays]
            refine ih up (Nat.succ_le_succ fewer) ?_
            change target.errorCount + 1 + rest.count .fail < limitOf target
            omega

/-- Otherwise the target goes down before that many have failed in a row. -/
theorem not_everyStep_of_enough (up : target.alive ≠ 0) (fewer : failures < target.errorCount)
    (more : target.errorCount < limitOf target)
    (enough : limitOf target ≤ target.errorCount + calls.count .fail) :
    ¬ EveryStep rowStep AsInARow (target, failures) calls := by
  induction calls generalizing target failures with
  | nil =>
      rw [List.count_nil] at enough
      omega
  | cons call rest ih =>
      rintro ⟨now, later⟩
      cases call with
      | ok =>
          rw [rowStep, callTarget_ok_up up] at later
          exact ih up (Nat.zero_lt_of_lt fewer) more (by simpa using enough) later
      | fail =>
          rw [List.count_cons_self] at enough
          by_cases last : limitOf target ≤ target.errorCount + 1
          · obtain ⟨_, _, completes⟩ := now.mp ⟨up, callTarget_fail_limit up last⟩
            dsimp only at completes
            omega
          · have early : target.errorCount + 1 < limitOf target := not_le.mp last
            rw [rowStep, callTarget_fail_early early] at later
            refine @ih { target with errorCount := target.errorCount + 1 } (failures + 1) up
              (Nat.succ_lt_succ fewer) ?_ ?_ later
            · change target.errorCount + 1 < limitOf target
              omega
            · change limitOf target ≤ target.errorCount + 1 + rest.count .fail
              omega

theorem everyStep_stale_iff (up : target.alive ≠ 0) (fewer : failures < target.errorCount)
    (more : target.errorCount < limitOf target) :
    EveryStep rowStep AsInARow (target, failures) calls ↔
      target.errorCount + calls.count .fail < limitOf target := by
  constructor
  · intro every
    by_contra enough
    exact not_everyStep_of_enough up fewer more (not_lt.mp enough) every
  · exact everyStep_of_few up (Nat.le_of_lt fewer)

theorem fewLeft_of_few (up : target.alive ≠ 0)
    (few : target.errorCount + calls.count .fail < limitOf target) : FewLeft target calls := by
  induction calls generalizing target with
  | nil =>
      intro before after same
      exact absurd same.symm (by simp)
  | cons call rest ih =>
      rw [fewLeft_cons_iff]
      cases call with
      | ok =>
          have left : target.errorCount + rest.count .fail < limitOf target := by simpa using few
          rw [callTarget_ok_up up]
          exact ⟨fun _ _ _ => left, ih up left⟩
      | fail =>
          rw [List.count_cons_self] at few
          rw [callTarget_fail_early (by omega)]
          refine ⟨fun failed => absurd failed (by decide), @ih { target with errorCount := _ } up ?_⟩
          change target.errorCount + 1 + rest.count .fail < limitOf target
          omega

end Stale

/-- While the target is up the errors it has counted are failures in a row, and they are too few
to take it down; while it is down they were enough. -/
def CountsRow (target : PjsTarget) (failures : Nat) : Prop :=
  if target.alive = 0 then limitOf target ≤ failures
  else target.errorCount = failures ∧ failures < limitOf target

theorem asInARow_fail {target : PjsTarget} {failures : Nat} (counts : CountsRow target failures) :
    AsInARow (target, failures) .fail ∧
      CountsRow (callTarget target .fail) (failures + 1) := by
  unfold CountsRow at counts ⊢
  rw [limitOf_callTarget]
  by_cases down : target.alive = 0
  · rw [if_pos down] at counts
    rw [callTarget_fail_down down]
    refine ⟨?_, ?_⟩
    · constructor
      · exact fun both => absurd down both.1
      · rintro ⟨_, fewer, _⟩
        dsimp only at fewer
        omega
    · rw [if_pos down]
      omega
  · rw [if_neg down] at counts
    by_cases last : limitOf target ≤ target.errorCount + 1
    · have falls := callTarget_fail_limit down last
      refine ⟨⟨fun _ => ⟨rfl, counts.2, ?_⟩, fun _ => ⟨down, falls⟩⟩, ?_⟩
      · change limitOf target ≤ failures + 1
        omega
      · rw [if_pos falls]
        omega
    · have stays := callTarget_fail_early (not_le.mp last)
      refine ⟨?_, ?_⟩
      · rw [AsInARow, stays]
        constructor
        · exact fun both => absurd both.2 down
        · rintro ⟨_, _, completes⟩
          dsimp only at completes
          omega
      · rw [stays, if_neg down]
        change target.errorCount + 1 = failures + 1 ∧ _
        omega

theorem everyStep_iff_fewLeft {target : PjsTarget} {failures : Nat}
    (counts : CountsRow target failures) (limited : 0 < limitOf target) (calls : List PjsCall) :
    EveryStep rowStep AsInARow (target, failures) calls ↔ FewLeft target calls := by
  induction calls generalizing target failures with
  | nil => exact ⟨fun _ before after same => absurd same.symm (by simp), fun _ => trivial⟩
  | cons call rest ih =>
      rw [EveryStep, fewLeft_cons_iff]
      cases call with
      | fail =>
          obtain ⟨now, later⟩ := asInARow_fail counts
          have left := ih later (by rwa [limitOf_callTarget])
          exact ⟨fun both => ⟨fun failed => absurd failed (by decide), left.mp both.2⟩,
            fun both => ⟨now, left.mpr both.2⟩⟩
      | ok =>
          by_cases down : target.alive = 0
          · have counts : CountsRow (callTarget target .ok) 0 := by
              rw [CountsRow, limitOf_callTarget, callTarget, if_pos down]
              exact ⟨rfl, limited⟩
            have left := ih counts (by rwa [limitOf_callTarget])
            exact ⟨fun both => ⟨fun _ up => absurd down up, left.mp both.2⟩,
              fun both => ⟨asInARow_ok _, left.mpr both.2⟩⟩
          · rw [CountsRow, if_neg down] at counts
            change _ ∧ EveryStep rowStep AsInARow (callTarget target .ok, 0) rest ↔ _
            rw [callTarget_ok_up down]
            by_cases clear : target.errorCount = 0
            · have again : CountsRow target 0 := by
                rw [CountsRow, if_neg down]
                exact ⟨clear, limited⟩
              have left := ih again limited
              exact ⟨fun both => ⟨fun _ _ counted => absurd clear counted.ne', left.mp both.2⟩,
                fun both => ⟨asInARow_ok _, left.mpr both.2⟩⟩
            · -- the errors counted so far stay, although no failure is in a row any more
              have counted := Nat.pos_of_ne_zero clear
              have stale := @everyStep_stale_iff target 0 rest down counted (by omega)
              exact ⟨fun both => ⟨fun _ _ _ => stale.mp both.2, fewLeft_of_few down (stale.mp both.2)⟩,
                fun both => ⟨asInARow_ok _, stale.mpr (both.1 rfl down counted)⟩⟩

/-! The gateway. -/

theorem foldl_rowStep (target : PjsTarget) (calls : List PjsCall) :
    calls.foldl rowStep (target, 0) =
      (calls.foldl callTarget target, failuresInARow (calls.map PjsCall.passed)) := by
  induction calls using List.reverseRecOn with
  | nil => rfl
  | append_singleton calls call ih =>
      rw [List.foldl_append, ih, List.foldl_append, List.map_append, List.map_singleton,
        failuresInARow_concat]
      rfl

theorem completes_iff (target : PjsTarget) (failures : Nat) :
    Completes target.service.config.maxFails failures ↔
      failures < limitOf target ∧ limitOf target ≤ failures + 1 := by
  rw [Completes, limitOf, Nat.lt_ceil, Nat.ceil_le]

theorem limitOf_calls (target : PjsTarget) (calls : List PjsCall) :
    limitOf (calls.foldl callTarget target) = limitOf target := by
  refine @foldl_invariant _ _ callTarget (fun later => limitOf later = limitOf target) ?_ _ rfl calls
  exact fun later call same => (limitOf_callTarget later call).trans same

section Run

variable {debug : Bool} {key : String} {health : PjsHealth} {target : PjsTarget}

theorem downInARow_iff_everyStep (here : health.healthCheckTargets.get? key = some target)
    (calls : List PjsCall) :
    DownInARow debug key target.service.config.maxFails health calls ↔
      EveryStep rowStep AsInARow (target, 0) calls := by
  rw [everyStep_iff_split]
  refine forall_congr' fun before => forall_congr' fun call => forall_congr' fun after =>
    imp_congr_right fun _ => ?_
  rw [goesDown_iff (get?_calls here before), completes_iff, foldl_rowStep, AsInARow,
    limitOf_calls]

theorem tooFewToAddUp_iff_fewLeft (here : health.healthCheckTargets.get? key = some target)
    (calls : List PjsCall) :
    TooFewToAddUp debug key target.service.config.maxFails health calls ↔
      FewLeft target calls := by
  refine forall_congr' fun before => forall_congr' fun after => imp_congr_right fun _ => ?_
  rw [get?_calls here before]
  constructor
  · intro few up counted
    exact Nat.lt_ceil.mpr (few _ rfl up counted)
  · intro few record same up counted
    obtain rfl := Option.some.inj same
    exact Nat.lt_ceil.mp (few up counted)

/-- From a new target on, it goes down exactly at the failures that complete `maxFails` in a row
unless an `ok` leaves failures counted that later ones complete. -/
theorem downInARow_iff (debug : Bool) (here : health.healthCheckTargets.get? key = some target)
    (up : target.alive ≠ 0) (uncounted : target.errorCount = 0)
    (positive : 1 ≤ target.service.config.maxFails) (calls : List PjsCall) :
    DownInARow debug key target.service.config.maxFails health calls ↔
      TooFewToAddUp debug key target.service.config.maxFails health calls := by
  have limited : 0 < limitOf target := Nat.ceil_pos.mpr (lt_of_lt_of_le zero_lt_one positive)
  have counts : CountsRow target 0 := by
    rw [CountsRow, if_neg up]
    exact ⟨uncounted, limited⟩
  rw [downInARow_iff_everyStep here, tooFewToAddUp_iff_fewLeft here]
  exact everyStep_iff_fewLeft counts limited calls

end Run

/-! A service with one endpoint that may fail three times. -/

def threeFails : Table PjsServiceConfig :=
  Table.empty.set "web" ⟨some ⟨0, 3, 30, ""⟩, ["10.0.0.1:80"]⟩

def newEndpoint : PjsTarget := newTarget ⟨"web", ⟨0, 3, 30, ""⟩⟩ "10.0.0.1:80"

theorem newEndpoint_inARow :
    DownInARow false "10.0.0.1:80@web" 3 (start threeFails) [.fail, .fail, .fail] := by
  refine (downInARow_iff false (show (start threeFails).healthCheckTargets.get? "10.0.0.1:80@web" =
    some newEndpoint by rfl) (by decide) rfl (by decide) _).mpr ?_
  intro before after same
  have member : PjsCall.ok ∈ [PjsCall.fail, .fail, .fail] := by
    rw [same]
    exact List.mem_append_right _ List.mem_cons_self
  exact absurd member (by decide)

/-- The failure after the `ok` is the first in its row. -/
theorem separatedFailures_down :
    ¬ ∀ (debug : Bool) (key : String) (health : PjsHealth) (target : PjsTarget),
      health.healthCheckTargets.get? key = some target → target.alive ≠ 0 →
        target.errorCount = 0 → 1 ≤ target.service.config.maxFails → ∀ calls,
          DownInARow debug key target.service.config.maxFails health calls := by
  intro claimed
  have run := claimed false "10.0.0.1:80@web" (start threeFails) newEndpoint rfl (by decide) rfl
    (by decide) [.fail, .fail, .ok, .fail] [.fail, .fail, .ok] .fail [] rfl
  have down : GoesDown false "10.0.0.1:80@web"
      ([.fail, .fail, .ok].foldl (callStep false "10.0.0.1:80@web") (start threeFails)) .fail :=
    ⟨{ newEndpoint with errorCount := 2 }, rfl, by decide, { newEndpoint with
      alive := 0, errorCount := 3 }, rfl, rfl⟩
  exact absurd (run.mp down).2.2 (by decide +kernel)

end PjsHealth

end Fgw
