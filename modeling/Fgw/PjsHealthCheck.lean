import Fgw.Library.Runs
import Fgw.Library.Table
import Mathlib.Algebra.Order.Ring.Rat

/-!
The health checker of the pjs gateway: the records of all targets, the caches of unhealthy
addresses, and the calls of `ok` and `fail` that come from checks, forwarders and the timer.
-/

namespace Fgw

/-- Numbers that are not configured are 0, and so is a path that is not. -/
structure PjsHealthCheckConfig where
  interval : Rat
  maxFails : Rat
  failTimeout : Rat
  path : String

structure PjsServiceConfig where
  healthCheck : Option PjsHealthCheckConfig
  endpoints : List String

/-- What `makeHealthCheck` returns. -/
structure PjsHealthService where
  name : String
  config : PjsHealthCheckConfig

/-- `target` is the address. -/
structure PjsTarget where
  target : String
  service : PjsHealthService
  alive : Nat
  errorCount : Nat
  failTick : Nat
  tick : Nat

/-- A cache of `healthCheckServices` maps the unhealthy addresses of a service to `true`. -/
structure PjsHealth where
  healthCheckTargets : Table PjsTarget
  healthCheckServices : Table (Table Bool)

namespace PjsHealth

def targetKey (target name : String) : String := target ++ "@" ++ name

def newTarget (service : PjsHealthService) (target : String) : PjsTarget :=
  ⟨target, service, 1, 0, 0, 0⟩

def addTarget (service : PjsHealthService) (targets : Table PjsTarget) (target : String) :
    Table PjsTarget :=
  targets.set (targetKey target service.name) (newTarget service target)

def addService (targets : Table PjsTarget) (entry : String × PjsServiceConfig) :
    Table PjsTarget :=
  match entry.2.healthCheck with
  | none => targets
  | some config =>
      if 0 < config.maxFails ∧ (0 < config.interval ∨ 0 < config.failTimeout) then
        entry.2.endpoints.foldl (addTarget ⟨entry.1, config⟩) targets
      else targets

/-- The start of the pipeline, for `config.Services`. -/
def start (services : Table PjsServiceConfig) : PjsHealth :=
  ⟨services.entries.foldl addService Table.empty, Table.empty⟩

/-- `healthCheckServices[name]?.get(target)` -/
def unhealthy (health : PjsHealth) (name target : String) : Bool :=
  (((health.healthCheckServices.get? name).bind fun cache => cache.get? target).getD false)

def put (health : PjsHealth) (key : String) (target : PjsTarget) : PjsHealth :=
  { health with healthCheckTargets := health.healthCheckTargets.set key target }

/-- `healthCheckServices[name] && … get(target) && … remove(target)` -/
def removeUnhealthy (health : PjsHealth) (name target : String) : PjsHealth :=
  match health.healthCheckServices.get? name with
  | none => health
  | some cache =>
      if health.unhealthy name target then
        { health with
          healthCheckServices := health.healthCheckServices.set name (cache.erase target) }
      else health

/-- The cache of a service is made with its first unhealthy address. -/
def addUnhealthy (health : PjsHealth) (name target : String) : PjsHealth :=
  match health.healthCheckServices.get? name with
  | none =>
      { health with
        healthCheckServices :=
          health.healthCheckServices.set name (Table.empty.set target true) }
  | some cache =>
      if health.unhealthy name target then health
      else
        { health with
          healthCheckServices := health.healthCheckServices.set name (cache.set target true) }

/-- `target.service.ok(target)` -/
def ok (key : String) (target : PjsTarget) (health : PjsHealth) : PjsHealth :=
  if target.alive = 0 then
    (health.put key { target with alive := 1, errorCount := 0 }).removeUnhealthy
      target.service.name target.target
  else health

/-- `target.service.fail(target)` -/
def fail (key : String) (target : PjsTarget) (health : PjsHealth) : PjsHealth :=
  let errorCount := target.errorCount + 1
  if target.service.config.maxFails ≤ (errorCount : Rat) ∧ target.alive ≠ 0 then
    (health.put key
      { target with errorCount := errorCount, alive := 0, failTick := 0 }).addUnhealthy
      target.service.name target.target
  else health.put key { target with errorCount := errorCount }

/-- A tick of the active checks; what a check that it starts finds comes as a later event. -/
def checkTarget (health : PjsHealth) (key : String) : PjsHealth :=
  match health.healthCheckTargets.get? key with
  | none => health
  | some target =>
      if 0 < target.service.config.interval then
        if target.service.config.interval ≤ ((target.tick + 1 : Nat) : Rat) then
          health.put key { target with tick := 0 }
        else health.put key { target with tick := target.tick + 1 }
      else health

def checkTargets (health : PjsHealth) : PjsHealth :=
  health.healthCheckTargets.keys.foldl checkTarget health

def PjsTarget.recovers (target : PjsTarget) : Bool :=
  target.alive = 0 && 0 < target.service.config.failTimeout &&
    !(0 < target.service.config.interval : Bool)

/-- A tick of the passive recovery.  With debugging on, the line it logs names a variable that
does not exist, which ends the loop. -/
def recoverTargets (debug : Bool) : List String → PjsHealth → PjsHealth
  | [], health => health
  | key :: rest, health =>
      match health.healthCheckTargets.get? key with
      | none => recoverTargets debug rest health
      | some target =>
          if PjsTarget.recovers target then
            let ticked := { target with failTick := target.failTick + 1 }
            if target.service.config.failTimeout ≤ (ticked.failTick : Rat) then
              if debug then health.put key ticked
              else recoverTargets debug rest ((health.put key ticked).ok key ticked)
            else recoverTargets debug rest (health.put key ticked)
          else recoverTargets debug rest health

end PjsHealth

/-- The calls name the record by its key. -/
inductive PjsHealthEvent
  | ok (key : String)
  | fail (key : String)
  | check
  | recovery

namespace PjsHealth

def step (debug : Bool) (health : PjsHealth) : PjsHealthEvent → PjsHealth
  | .ok key =>
      match health.healthCheckTargets.get? key with
      | none => health
      | some target => health.ok key target
  | .fail key =>
      match health.healthCheckTargets.get? key with
      | none => health
      | some target => health.fail key target
  | .check => health.checkTargets
  | .recovery => recoverTargets debug health.healthCheckTargets.keys health

/-- Every record is filed under its address and service, and is down exactly while its address
is in the cache of its service. -/
structure Avoids (health : PjsHealth) : Prop where
  filed : ∀ key target, health.healthCheckTargets.get? key = some target →
    key = targetKey target.target target.service.name
  avoided : ∀ key target, health.healthCheckTargets.get? key = some target →
    (target.alive = 0 ↔ health.unhealthy target.service.name target.target = true)

theorem unhealthy_setCache (health : PjsHealth) (name : String) (cache : Table Bool)
    (otherName other : String) :
    PjsHealth.unhealthy ⟨health.healthCheckTargets, health.healthCheckServices.set name cache⟩
      otherName other =
        if otherName = name then (cache.get? other).getD false
        else health.unhealthy otherName other := by
  rw [unhealthy, Table.get?_set]
  by_cases same : otherName = name
  · subst otherName
    rw [if_pos rfl, if_pos rfl, Option.bind_some]
  · rw [if_neg (Ne.symm same), if_neg same, unhealthy]

theorem unhealthy_removeUnhealthy (health : PjsHealth) (name target otherName other : String) :
    (health.removeUnhealthy name target).unhealthy otherName other =
      if otherName = name ∧ other = target then false else health.unhealthy otherName other := by
  have absent (clear : health.unhealthy name target = false) :
      health.unhealthy otherName other =
        if otherName = name ∧ other = target then false else health.unhealthy otherName other := by
    split
    · rename_i same
      rw [same.1, same.2, clear]
    · rfl
  unfold removeUnhealthy
  cases found : health.healthCheckServices.get? name with
  | none => exact absent (by rw [unhealthy, found]; rfl)
  | some cache =>
      by_cases there : health.unhealthy name target = true
      · simp only [there, if_true]
        rw [unhealthy_setCache, Table.get?_erase]
        by_cases same : otherName = name
        · subst otherName
          by_cases self : other = target
          · simp [self]
          · simp [unhealthy, found, self, Ne.symm self]
        · simp [same]
      · simp only [there, Bool.false_eq_true, if_false]
        exact absent (Bool.eq_false_iff.mpr there)

theorem unhealthy_addUnhealthy (health : PjsHealth) (name target otherName other : String) :
    (health.addUnhealthy name target).unhealthy otherName other =
      if otherName = name ∧ other = target then true else health.unhealthy otherName other := by
  have added (cache : Table Bool)
      (old : ∀ other, (cache.get? other).getD false = health.unhealthy name other) :
      PjsHealth.unhealthy ⟨health.healthCheckTargets,
          health.healthCheckServices.set name (cache.set target true)⟩ otherName other =
        if otherName = name ∧ other = target then true else health.unhealthy otherName other := by
    rw [unhealthy_setCache, Table.get?_set]
    by_cases same : otherName = name
    · subst otherName
      by_cases self : other = target
      · simp [self]
      · simp [self, Ne.symm self, old]
    · simp [same]
  unfold addUnhealthy
  cases found : health.healthCheckServices.get? name with
  | none => exact added Table.empty fun other => by simp [unhealthy, found]
  | some cache =>
      by_cases there : health.unhealthy name target = true
      · simp only [there, if_true]
        by_cases same : otherName = name ∧ other = target
        · rw [if_pos same, same.1, same.2]
          exact there
        · rw [if_neg same]
      · simp only [there, Bool.false_eq_true, if_false]
        exact added cache fun other => by simp [unhealthy, found]

@[simp] theorem targets_put (health : PjsHealth) (key : String) (target : PjsTarget) :
    (health.put key target).healthCheckTargets = health.healthCheckTargets.set key target := rfl

@[simp] theorem targets_removeUnhealthy (health : PjsHealth) (name target : String) :
    (health.removeUnhealthy name target).healthCheckTargets = health.healthCheckTargets := by
  unfold removeUnhealthy
  split
  · rfl
  · split
    · rfl
    · rfl

@[simp] theorem targets_addUnhealthy (health : PjsHealth) (name target : String) :
    (health.addUnhealthy name target).healthCheckTargets = health.healthCheckTargets := by
  unfold addUnhealthy
  split
  · rfl
  · split
    · rfl
    · rfl

variable {health after : PjsHealth} {key : String} {old target : PjsTarget}

/-- Nothing but the record and its own address in the cache changes. -/
structure Changed (health after : PjsHealth) (key : String) (old target : PjsTarget) : Prop where
  address : target.target = old.target
  service : target.service = old.service
  targets : after.healthCheckTargets = health.healthCheckTargets.set key target
  others : ∀ name other, ¬(name = old.service.name ∧ other = old.target) →
    after.unhealthy name other = health.unhealthy name other
  avoided : target.alive = 0 ↔ after.unhealthy old.service.name old.target = true

theorem Avoids.changed (avoids : Avoids health)
    (here : health.healthCheckTargets.get? key = some old)
    (changed : Changed health after key old target) : Avoids after := by
  have filed := avoids.filed key old here
  refine ⟨?_, ?_⟩
  · intro other twin found
    rw [changed.targets, Table.get?_set] at found
    by_cases same : key = other
    · rw [if_pos same] at found
      cases found
      rw [← same, filed, changed.address, changed.service]
    · rw [if_neg same] at found
      exact avoids.filed other twin found
  · intro other twin found
    rw [changed.targets, Table.get?_set] at found
    by_cases same : key = other
    · rw [if_pos same] at found
      cases found
      rw [changed.address, changed.service]
      exact changed.avoided
    · rw [if_neg same] at found
      rw [avoids.avoided other twin found, changed.others]
      rintro ⟨name, address⟩
      apply same
      rw [filed, avoids.filed other twin found, name, address]

theorem Avoids.put (avoids : Avoids health)
    (here : health.healthCheckTargets.get? key = some old) (address : target.target = old.target)
    (service : target.service = old.service) (alive : target.alive = old.alive) :
    Avoids (health.put key target) := by
  have avoided : target.alive = 0 ↔ health.unhealthy old.service.name old.target = true := by
    rw [alive]
    exact avoids.avoided key old here
  exact avoids.changed here ⟨address, service, rfl, fun _ _ _ => rfl, avoided⟩

theorem Avoids.ok (avoids : Avoids health)
    (here : health.healthCheckTargets.get? key = some target) : Avoids (health.ok key target) := by
  unfold PjsHealth.ok
  by_cases down : target.alive = 0
  · rw [if_pos down]
    refine @Avoids.changed health _ key target { target with alive := 1, errorCount := 0 } avoids
      here ⟨rfl, rfl, targets_removeUnhealthy _ _ _, ?_, ?_⟩
    · intro name other different
      rw [unhealthy_removeUnhealthy, if_neg different]
      rfl
    · rw [unhealthy_removeUnhealthy]
      simp
  · rw [if_neg down]
    exact avoids

theorem Avoids.fail (avoids : Avoids health)
    (here : health.healthCheckTargets.get? key = some target) :
    Avoids (health.fail key target) := by
  unfold PjsHealth.fail
  dsimp only
  split
  · refine @Avoids.changed health _ key target
      { target with errorCount := target.errorCount + 1, alive := 0, failTick := 0 } avoids
      here ⟨rfl, rfl, targets_addUnhealthy _ _ _, ?_, ?_⟩
    · intro name other different
      rw [unhealthy_addUnhealthy, if_neg different]
      rfl
    · rw [unhealthy_addUnhealthy]
      simp
  · exact avoids.put here rfl rfl rfl

theorem Avoids.checkTargets (avoids : Avoids health) : Avoids health.checkTargets := by
  refine foldl_invariant ?_ avoids health.healthCheckTargets.keys
  intro health key avoids
  unfold checkTarget
  split
  · exact avoids
  · rename_i target here
    split
    · split
      · exact avoids.put here rfl rfl rfl
      · exact avoids.put here rfl rfl rfl
    · exact avoids

theorem Avoids.recoverTargets (avoids : Avoids health) (debug : Bool) (keys : List String) :
    Avoids (recoverTargets debug keys health) := by
  induction keys generalizing health with
  | nil => exact avoids
  | cons key rest ih =>
      unfold PjsHealth.recoverTargets
      split
      · exact ih avoids
      · rename_i target here
        have ticked : Avoids (health.put key { target with failTick := target.failTick + 1 }) :=
          avoids.put here rfl rfl rfl
        dsimp only
        split
        · split
          · split
            · exact ticked
            · exact ih (ticked.ok (Table.get?_set_self _ _ _))
          · exact ih ticked
        · exact ih avoids

theorem Avoids.step (avoids : Avoids health) (debug : Bool) (event : PjsHealthEvent) :
    Avoids (health.step debug event) := by
  unfold PjsHealth.step
  cases event with
  | ok key =>
      dsimp only
      split
      · exact avoids
      · rename_i target here
        exact avoids.ok here
  | fail key =>
      dsimp only
      split
      · exact avoids
      · rename_i target here
        exact avoids.fail here
  | check => exact avoids.checkTargets
  | recovery => exact avoids.recoverTargets debug _

/-- Each record is new and filed under its address and service. -/
def Fresh (targets : Table PjsTarget) : Prop :=
  ∀ key target, targets.get? key = some target →
    key = targetKey target.target target.service.name ∧ target.alive = 1

theorem fresh_addTarget (service : PjsHealthService) (targets : Table PjsTarget)
    (address : String) (fresh : Fresh targets) : Fresh (addTarget service targets address) := by
  intro key target found
  rw [addTarget, Table.get?_set] at found
  split at found
  · rename_i same
    cases found
    exact ⟨same.symm, rfl⟩
  · exact fresh key target found

theorem fresh_addService (targets : Table PjsTarget) (entry : String × PjsServiceConfig)
    (fresh : Fresh targets) : Fresh (addService targets entry) := by
  unfold addService
  split
  · exact fresh
  · split
    · exact foldl_invariant (fresh_addTarget _) fresh _
    · exact fresh

theorem avoids_start (services : Table PjsServiceConfig) : Avoids (start services) := by
  have none : Fresh Table.empty := fun _ _ found => nomatch found
  have fresh : Fresh (services.entries.foldl addService Table.empty) :=
    foldl_invariant fresh_addService none services.entries
  refine ⟨fun key target found => (fresh key target found).1, ?_⟩
  intro key target found
  rw [(fresh key target found).2]
  simp [start, unhealthy]

/-- In every run, a record is down exactly while the cache of its service has its address. -/
theorem down_iff_unhealthy (debug : Bool) (services : Table PjsServiceConfig)
    (events : List PjsHealthEvent) (key : String) (target : PjsTarget)
    (found : (events.foldl (step debug) (start services)).healthCheckTargets.get? key =
      some target) :
    target.alive = 0 ↔ (events.foldl (step debug) (start services)).unhealthy
      target.service.name target.target = true := by
  have avoids : Avoids (events.foldl (step debug) (start services)) :=
    foldl_invariant (fun _ event avoids => avoids.step debug event) (avoids_start services) events
  exact avoids.avoided key target found

/-! One service whose only endpoint goes down with its first failure. -/

def oneService : Table PjsServiceConfig :=
  Table.empty.set "web" ⟨some ⟨0, 1, 30, ""⟩, ["10.0.0.1:80"]⟩

def downTarget : PjsTarget := ⟨"10.0.0.1:80", ⟨"web", ⟨0, 1, 30, ""⟩⟩, 0, 1, 0, 0⟩

theorem failedTarget_avoided :
    downTarget.alive = 0 ↔
      ([PjsHealthEvent.fail "10.0.0.1:80@web"].foldl (step false) (start oneService)).unhealthy
        "web" "10.0.0.1:80" = true :=
  down_iff_unhealthy false oneService [.fail "10.0.0.1:80@web"] "10.0.0.1:80@web" downTarget
    (by rfl)

end PjsHealth

end Fgw
