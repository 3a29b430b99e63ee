import Fgw.Library.Runs
import Fgw.ModulesCore

/-!
Health checks on the main thread: the records of the targets that a policy checks, what a
probe or the timer does to them, and the set of unhealthy addresses that all threads share.
Times are in milliseconds.
-/

namespace Fgw

/-- What the closure of one target keeps. -/
structure TargetRecord where
  address : String
  healthCheck : Value
  isHealthy : Bool
  failCount : Nat
  failTime : Nat
  lastCheckTime : Nat

/-- The number comparisons of the checks: `count >= value` and `milliseconds / 1000 >= value`. -/
structure HealthEngine where
  modules : ModuleEngine
  lowerCase : String → String
  atLeast : Nat → Value → Bool
  elapsed : Int → Value → Bool

/-! Responses to probes. -/

/-- `body` is `res.body?.toString?.()`; header names are in lower case. -/
structure HealthResponse where
  status : Value
  body : Value
  headers : List (String × String)

def headerValue (res : HealthResponse) (name : String) : Value :=
  ((res.headers.lookup name).map Value.str).getD .undefined

def matchResponse (engine : HealthEngine) (res : HealthResponse) (m : Value) :
    Except Thrown Bool := do
  if (m.opt "statusCodes").truthy then
    return (← (m.opt "statusCodes").items "some").any fun code =>
      Value.looseEq engine.modules.toNumber code res.status
  else if (m.opt "body").truthy then return res.body.strictEq (m.opt "body")
  else if (m.opt "headers").truthy then
    return (entriesOf (m.opt "headers")).all fun header =>
      (headerValue res (engine.lowerCase header.1)).strictEq header.2
  else return true

def andStop (each : Value → Except Thrown Bool) : List Value → Except Thrown Bool
  | [] => .ok true
  | item :: rest => do
      if ← each item then andStop each rest else return false

/-- `!matches.some(f => !f(res))` -/
def responsePasses (engine : HealthEngine) (healthCheck : Value) (res : HealthResponse) :
    Except Thrown Bool := do
  andStop (matchResponse engine res) (← (healthCheck.opt "matches").items "map")

/-! Records. -/

namespace TargetRecord

def reset (target : TargetRecord) : TargetRecord :=
  { target with isHealthy := true, failCount := 0, failTime := 0 }

def fail (engine : HealthEngine) (now : Nat) (target : TargetRecord) : TargetRecord :=
  { target with
    failCount := target.failCount + 1
    failTime := now
    isHealthy := target.isHealthy &&
      !engine.atLeast (target.failCount + 1) (target.healthCheck.opt "maxFails") }

/-- The next failure marks the address as unhealthy. -/
def atLimit (engine : HealthEngine) (target : TargetRecord) : Bool :=
  engine.atLeast (target.failCount + 1) (target.healthCheck.opt "maxFails")

/-- Without an interval the timer resets an unhealthy target after a while. -/
def due (engine : HealthEngine) (now : Nat) (target : TargetRecord) : Bool :=
  !(target.healthCheck.opt "interval").truthy && !target.isHealthy &&
    engine.elapsed ((now : Int) - target.failTime) (target.healthCheck.opt "failTimeout")

/-- With an interval the timer starts a probe instead. -/
def probeDue (engine : HealthEngine) (now : Nat) (target : TargetRecord) : Bool :=
  (target.healthCheck.opt "interval").truthy &&
    engine.elapsed ((now : Int) - target.lastCheckTime) (target.healthCheck.opt "interval")

end TargetRecord

/-- The health check of one backend name.  `records` holds all targets made so far, also those
of earlier updates and of entries that have left the cache; `allTargets` are those of the
entry, and `loops` its pending iterations of `healthCheckAll`. -/
structure HealthState where
  records : List TargetRecord
  allTargets : List Nat
  healthCheckPolicy : Option Resource
  unhealthySet : Table Bool
  cached : Bool
  loops : Nat

namespace HealthState

def empty : HealthState := ⟨[], [], none, Table.empty, false, 0⟩

def change (state : HealthState) (ref : Nat) (f : TargetRecord → TargetRecord) : HealthState :=
  { state with records := state.records.modify ref f }

def reset (state : HealthState) (ref : Nat) (address : String) : HealthState :=
  { state.change ref TargetRecord.reset with
    unhealthySet := state.unhealthySet.erase address }

def fail (engine : HealthEngine) (now : Nat) (state : HealthState) (ref : Nat)
    (target : TargetRecord) : HealthState :=
  { state.change ref (TargetRecord.fail engine now) with
    unhealthySet :=
      if target.atLimit engine then state.unhealthySet.set target.address true
      else state.unhealthySet }

/-- `target.check(t)` -/
def check (engine : HealthEngine) (now : Nat) (state : HealthState) (ref : Nat) : HealthState :=
  match state.records[ref]? with
  | none => state
  | some target =>
      if target.probeDue engine now then
        state.change ref fun target => { target with lastCheckTime := now }
      else if target.due engine now then state.reset ref target.address
      else state

def checkAll (engine : HealthEngine) (now : Nat) (refs : List Nat) (state : HealthState) :
    HealthState :=
  refs.foldl (check engine now) state

/-- One iteration that is no longer pending: it checks the targets and waits for the next, or
ends without a policy. -/
def healthCheckAll (engine : HealthEngine) (now : Nat) (state : HealthState) : HealthState :=
  match state.healthCheckPolicy with
  | none => { state with loops := state.loops - 1 }
  | some _ => checkAll engine now state.allTargets state

/-- The response of a probe, handled by the target that sent it. -/
def answer (engine : HealthEngine) (now : Nat) (ref : Nat) (res : HealthResponse)
    (state : HealthState) : HealthState :=
  match state.records[ref]? with
  | none => state
  | some target =>
      match responsePasses engine target.healthCheck res with
      | .ok true => state.reset ref target.address
      | .ok false => state.fail engine now ref target
      | .error _ => state

end HealthState

/-! Updates. -/

/-- Targets that are pushed one after the other; those pushed before a throw stay. -/
abbrev PushM := EStateM Thrown (List TargetRecord)

def pushTarget (engine : HealthEngine) (now : Nat) (checkPort healthCheck target : Value) :
    PushM PUnit := do
  match ← MonadExcept.ofExcept (findTarget engine.modules checkPort healthCheck target) with
  | none => pure ⟨⟩
  | some address => modify fun made => made ++ [⟨address, healthCheck, true, 0, 0, now⟩]

def pushPort (engine : HealthEngine) (now : Nat) (targets entry : Value) : PushM PUnit := do
  let checkPort ← MonadExcept.ofExcept (entry.get "port")
  let items ← MonadExcept.ofExcept (targets.items "forEach")
  forM items (pushTarget engine now checkPort (entry.opt "healthCheck"))

def pushTargets (engine : HealthEngine) (now : Nat) (policy : Option Resource)
    (backendResource : Resource) : PushM PUnit := do
  match policy with
  | none => pure ⟨⟩
  | some policy => do
      let spec ← MonadExcept.ofExcept (backendResource.data.get "spec")
      let targets ← MonadExcept.ofExcept (spec.get "targets")
      let policySpec ← MonadExcept.ofExcept (policy.data.get "spec")
      let ports ← MonadExcept.ofExcept (policySpec.get "ports")
      let entries ← MonadExcept.ofExcept (ports.items "forEach")
      forM entries (pushPort engine now targets)

/-- `update` as far as it concerns one closure: its policy, and the targets that it pushes.
Without targets `allTargets` is left as it is. -/
structure UpdateResult where
  healthCheckPolicy : Option Resource
  pushed : Option (List TargetRecord)
  completed : Bool

def updateResult (engine : HealthEngine) (name : String) (store : Store) (now : Nat) :
    UpdateResult :=
  match store.find "Backend" name with
  | none => ⟨none, none, true⟩
  | some resource =>
      match findPolicies store "HealthCheckPolicy" (some resource) with
      | .error _ => ⟨none, none, false⟩
      | .ok policies =>
          match pushTargets engine now policies.head? resource [] with
          | .ok _ made => ⟨policies.head?, some made, true⟩
          | .error _ made => ⟨policies.head?, some made, false⟩

namespace HealthState

def update (engine : HealthEngine) (name : String) (store : Store) (now : Nat)
    (state : HealthState) : HealthState :=
  let result := updateResult engine name store now
  { state with
    healthCheckPolicy := result.healthCheckPolicy
    records := state.records ++ result.pushed.getD []
    allTargets := (result.pushed.map fun made =>
      List.range' state.records.length made.length).getD state.allTargets
    cached := state.cached && (store.find "Backend" name).isSome }

/-- A new entry on the main thread.  It goes into the cache if its first update returns. -/
def construct (engine : HealthEngine) (name : String) (store : Store) (now : Nat)
    (state : HealthState) : HealthState :=
  let updated := ({ state with allTargets := [] }).update engine name store now
  if (updateResult engine name store now).completed then
    healthCheckAll engine now { updated with cached := true, loops := 1 }
  else { updated with cached := false, loops := 0 }

end HealthState

/-- What happens while an entry is there.  A probe may be answered after the target that sent
it has been replaced, and entries that have left the cache still update and run their timers,
over targets of their own. -/
inductive LifeEvent
  | answered (ref now : Nat) (res : HealthResponse)
  | timer (now : Nat)
  | updated (store : Store) (now : Nat)
  | formerUpdated (store : Store) (now : Nat)
  | formerTimer (refs : List Nat) (now : Nat)

inductive HealthEvent
  | constructed (store : Store) (now : Nat)
  | life (event : LifeEvent)

def lifeStep (engine : HealthEngine) (name : String) (state : HealthState) :
    LifeEvent → HealthState
  | .answered ref now res => state.answer engine now ref res
  | .timer now => if state.loops = 0 then state else state.healthCheckAll engine now
  | .updated store now => state.update engine name store now
  | .formerUpdated store now =>
      { state with
        records := state.records ++ (updateResult engine name store now).pushed.getD []
        cached := state.cached && (store.find "Backend" name).isSome }
  | .formerTimer refs now =>
      state.checkAll engine now (refs.filter fun ref => ref ∉ state.allTargets)

def healthStep (engine : HealthEngine) (name : String) (state : HealthState) :
    HealthEvent → HealthState
  | .constructed store now => state.construct engine name store now
  | .life event => lifeStep engine name state event

end Fgw
