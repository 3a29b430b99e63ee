import Fgw.GatewayCore
import Fgw.RouterHttpCore
import Fgw.UpdatersCore

/-!
The modules behind a listener: routers, the backend targets that their rules select, the
backends and health checks these share, and the updaters that keep them up to date.
Requests are not modelled here, only what they would be forwarded to.
-/

namespace Fgw

structure Target where
  address : String
  protocol : Value
  weight : Value

/-- A backend that `makeBackend` has made.  `targets` is what its balancer was last provisioned
with. -/
structure Backend where
  name : String
  targets : List Target

structure HealthCheck where
  healthCheckPolicy : Option Resource
  allTargets : List String

/-- What a backend reference was resolved to.  `backend` is where its pipeline forwards
requests to; without one it answers them with an error. -/
structure BackendTarget where
  backendRef : Value
  backendResource : Option Resource
  backend : Option Nat

/-- A function made by `makeRouter`, with what it was made from. -/
structure BuiltRouter where
  listener : Value
  routeResources : List Resource
  targets : List BackendTarget

/-- The closure of a router module: `router` is the function that requests go through. -/
structure Router where
  kind : RouteModule
  gateway : Resource
  router : Option BuiltRouter

namespace Router

/-- The TLS module has handed its first router to `handleTLSClientHello` by value, so no request
goes through one that its closure is given later. -/
def Fixed (router : Router) : Prop := router.kind = .tls ∧ router.router.isSome

instance (router : Router) : Decidable router.Fixed :=
  inferInstanceAs (Decidable (_ ∧ _))

/-- `router = makeRouter(…)` in `update` -/
def install (built : BuiltRouter) (router : Router) : Router :=
  if router.Fixed then router else { router with router := some built }

variable {router : Router}

theorem install_fixed (built : BuiltRouter) (fixed : router.Fixed) :
    router.install built = router := if_pos fixed

theorem install_free (built : BuiltRouter) (free : ¬ router.Fixed) :
    router.install built = { router with router := some built } := if_neg free

@[simp] theorem kind_install (built : BuiltRouter) (router : Router) :
    (router.install built).kind = router.kind := by
  unfold install
  split <;> rfl

theorem isSome_install (built : BuiltRouter) (router : Router) :
    (router.install built).router.isSome := by
  unfold install
  split
  · rename_i fixed
    exact fixed.2
  · rfl

end Router

/-- The state of the modules.  Objects are referred to by their place in a list; the caches
are those of `backend.js` and `health-check.js`. -/
structure Modules where
  updaters : Updaters
  backends : List Backend
  backendCache : Table Nat
  healthChecks : List HealthCheck
  healthCheckCache : Table Nat
  routers : List Router

namespace Modules

def empty : Modules := ⟨Updaters.empty, [], Table.empty, [], Table.empty, []⟩

/-! The `watch` functions of the modules. -/

def watchRouter (routerKey : String) (ref : Nat) (modules : Modules) : Modules :=
  { modules with
    updaters := modules.updaters.setUpdater "Route" routerKey (.router ref routerKey)
      (router_home ref routerKey) }

def watchBackend (name : String) (ref : Nat) (modules : Modules) : Modules :=
  { modules with
    updaters := modules.updaters.addUpdater "Backend" name (.backend ref name)
      (backend_home ref name) }

def watchHealthCheck (name : String) (ref : Nat) (modules : Modules) : Modules :=
  { modules with
    updaters := (modules.updaters.setUpdater "HealthCheckPolicy" name (.healthCheck ref name)
      (healthCheck_home ref name).2).addUpdater "Backend" name (.healthCheck ref name)
      (healthCheck_home ref name).1 }

def addBackend (name : String) (targets : List Target) (modules : Modules) : Modules :=
  { modules with
    backends := modules.backends ++ [⟨name, targets⟩]
    backendCache := modules.backendCache.set name modules.backends.length }

/-- `balancer.provision(targets)` -/
def provision (ref : Nat) (targets : List Target) (modules : Modules) : Modules :=
  { modules with
    backends := modules.backends.modify ref fun backend => { backend with targets := targets } }

def setHealthCheck (ref : Nat) (change : HealthCheck → HealthCheck) (modules : Modules) :
    Modules :=
  { modules with healthChecks := modules.healthChecks.modify ref change }

def setRouter (ref : Nat) (router : Router) (modules : Modules) : Modules :=
  { modules with routers := modules.routers.set ref router }

end Modules

/-- The default export of a filter module. -/
inductive FilterModule
  | function (make : Value → Except Thrown (Option String))
  | notFunction

/-- What the modules take from Pipy, and the parts of them that touch no state: `make` of a
filter gives its output protocol, `hostKey` is `name.trim().toLowerCase()`, `prepareRule` and
`compileMatches` are what a rule selector computes apart from its backend selectors. -/
structure ModuleEngine where
  toNumber : String → String
  mainThread : Bool
  importFilter : String → Option FilterModule
  hostKey : Value → Except Thrown String
  prepareRule : RouteModule → Value → Except Thrown Unit
  compileMatches : RouteModule → Value → List Resource → Except Thrown Unit
  makeBackendTLS : Value → Resource → Option Resource → Store → Except Thrown Unit
  makeSessionPersistence : List Resource → Except Thrown Unit
  terminateTLS : Value → Store → Except Thrown Unit

abbrev ModuleM := EStateM Thrown Modules

/-! Filters. -/

def findFilter (engine : ModuleEngine) (protocol type : String) : Option FilterModule :=
  (engine.importFilter ("./config/filters/" ++ protocol ++ "/" ++ type ++ ".js")).or
    (engine.importFilter ("./filters/" ++ protocol ++ "/" ++ type ++ ".js"))

/-- One filter, given the protocol it reads; the result is the one it writes. -/
def makeFilter (engine : ModuleEngine) (protocol : String) (config : Value) :
    Except Thrown String := do
  let type := (← config.get "type").toKey
  match findFilter engine protocol type with
  | none => throw (.raised (protocol ++ " filter not found: " ++ type))
  | some .notFunction => throw (.raised ("filter " ++ type ++ " is not a function"))
  | some (.function make) => return (← make config).getD protocol

/-- `makeFilters(…).outputProtocol` -/
def makeFilters (engine : ModuleEngine) (protocol : String) (filters : Value) :
    Except Thrown String := do
  (← (filters.or (.arr [])).items "map").foldlM (makeFilter engine) protocol

/-! Backends. -/

def makeTarget (resource : Resource) (target : Value) : Except Thrown Target := do
  let port ← target.get "port"
  -- The source falls back to `backendRef.port`, and there is no `backendRef` here.
  if !port.truthy then throw (.referenceError "backendRef")
  return ⟨(target.opt "address").toKey ++ ":" ++ port.toKey,
    (target.opt "appProtocol").or ((resource.data.opt "spec").opt "appProtocol"),
    target.opt "weight"⟩

def getTargets (backendResource : Option Resource) : Except Thrown (List Target) :=
  match backendResource with
  | none => .ok []
  | some resource => do
      let targets := (resource.data.opt "spec").opt "targets"
      if !targets.truthy then return []
      (← targets.items "map").mapM (makeTarget resource)

/-- The test of `findPolicies` on one target reference. -/
def policyTargets (targetResource : Option Resource) (ref : Value) : Except Thrown Bool := do
  let kind ← ref.get "kind"
  let target := targetResource.elim Value.null Resource.data
  if !kind.strictEq (← target.get "kind") then return false
  return (ref.opt "name").strictEq (← (← target.get "metadata").get "name")

def findPolicies (store : Store) (kind : String) (targetResource : Option Resource) :
    Except Thrown (List Resource) :=
  (store.list kind).filterM fun policy => do
    (← (← (← policy.data.get "spec").get "targetRefs").items "some").anyM
      (policyTargets targetResource)

def backendCallback (store : Store) (ref : Nat) (backendName : String) : ModuleM Unit := do
  match store.find "Backend" backendName with
  | some resource =>
      let targets ← MonadExcept.ofExcept (getTargets (some resource))
      modify (Modules.provision ref targets)
      modify (Modules.watchBackend backendName ref)
  | none =>
      modify fun modules =>
        { modules with backendCache := modules.backendCache.erase backendName }

def makeBackend (store : Store) (name : String) : ModuleM Nat := do
  match (← get).backendCache.get? name with
  | some ref => return ref
  | none =>
      let backendResource := store.find "Backend" name
      let _ ← MonadExcept.ofExcept (findPolicies store "BackendLBPolicy" backendResource)
      let targets ← MonadExcept.ofExcept (getTargets backendResource)
      let ref := (← get).backends.length
      modify (Modules.addBackend name targets)
      modify (Modules.watchBackend name ref)
      return ref

/-! Health checks. -/

/-- The pipeline of a check, which is made at once.  Without a path it is made for
`checkAddress`, which is not defined. -/
def makeCheck (healthCheck : Value) : Except Thrown Unit := do
  let matchers ← (← healthCheck.get "matches").items "map"
  forM matchers fun m => do
    let _ ← m.get "statusCodes"
  if !(healthCheck.opt "path").truthy then throw (.referenceError "checkAddress")

def findTarget (engine : ModuleEngine) (checkPort healthCheck target : Value) :
    Except Thrown (Option String) := do
  let port ← target.get "port"
  if !Value.looseEq engine.toNumber port checkPort then return none
  makeCheck healthCheck
  return some ((target.opt "address").toKey ++ ":" ++ port.toKey)

def findTargets (engine : ModuleEngine) (policy backendResource : Resource) :
    Except Thrown (List String) := do
  let targets ← (← backendResource.data.get "spec").get "targets"
  let ports ← (← (← policy.data.get "spec").get "ports").items "forEach"
  List.flatten <$> ports.mapM fun entry => do
    let checkPort ← entry.get "port"
    let found ← (← targets.items "forEach").mapM
      (findTarget engine checkPort (entry.opt "healthCheck"))
    return found.filterMap id

def checkedTargets (engine : ModuleEngine) (policy : Option Resource)
    (backendResource : Resource) : Except Thrown (List String) :=
  match policy with
  | none => .ok []
  | some policy => findTargets engine policy backendResource

def healthCheckUpdate (engine : ModuleEngine) (store : Store) (ref : Nat)
    (backendName : String) : ModuleM Unit := do
  modify (Modules.setHealthCheck ref fun check => { check with healthCheckPolicy := none })
  match store.find "Backend" backendName with
  | some resource =>
      let policies ← MonadExcept.ofExcept
        (findPolicies store "HealthCheckPolicy" (some resource))
      modify (Modules.setHealthCheck ref fun _ => ⟨policies.head?, []⟩)
      let allTargets ← MonadExcept.ofExcept (checkedTargets engine policies.head? resource)
      modify (Modules.setHealthCheck ref fun check => { check with allTargets := allTargets })
      modify (Modules.watchHealthCheck backendName ref)
  | none =>
      modify fun modules =>
        { modules with healthCheckCache := modules.healthCheckCache.erase backendName }

def makeHealthCheck (engine : ModuleEngine) (store : Store) (name : String) : ModuleM Unit := do
  match (← get).healthCheckCache.get? name with
  | some _ => pure ()
  | none =>
      let ref := (← get).healthChecks.length
      modify fun modules =>
        { modules with healthChecks := modules.healthChecks ++ [⟨none, []⟩] }
      if engine.mainThread then healthCheckUpdate engine store ref name
      modify fun modules =>
        { modules with healthCheckCache := modules.healthCheckCache.set name ref }

/-! Backend targets and selectors. -/

def makeBalancer (engine : ModuleEngine) (store : Store) (gateway : Option Resource)
    (protocol : String) (backendRef : Value) (backendResource : Resource) : ModuleM Nat := do
  let name := (nameOf backendResource.data).toKey
  match protocol with
  | "http" =>
      let backend ← makeBackend store name
      makeHealthCheck engine store name
      MonadExcept.ofExcept (engine.makeBackendTLS backendRef backendResource gateway store)
      let policies ← MonadExcept.ofExcept
        (findPolicies store "BackendLBPolicy" (some backendResource))
      MonadExcept.ofExcept (engine.makeSessionPersistence policies)
      return backend
  | "tcp" =>
      let backend ← makeBackend store name
      MonadExcept.ofExcept (engine.makeBackendTLS backendRef backendResource gateway store)
      return backend
  | "udp" => makeBackend store name
  | "dubbo" =>
      let backend ← makeBackend store name
      makeHealthCheck engine store name
      return backend
  | protocol => throw (.raised ("Invalid protocol '" ++ protocol ++ "' for balancer"))

/-- The kind and name that a backend reference is looked up by. -/
def refTarget (backendRef : Value) : String × String :=
  (((backendRef.opt "kind").or (.str "Backend")).toKey, (backendRef.opt "name").toKey)

def findBackendResource (store : Store) (backendRef : Value) : Option Resource :=
  if backendRef.truthy then store.find (refTarget backendRef).1 (refTarget backendRef).2 else none

/-- A rule for which a router makes a backend selector, over the protocol of its listener. -/
structure SelectorCall where
  protocol : String
  rule : Value
  gateway : Option Resource

def makeBackendTarget (engine : ModuleEngine) (store : Store) (gateway : Option Resource)
    (protocol : String) (backendRef : Value) : ModuleM BackendTarget := do
  let backendResource := findBackendResource store backendRef
  let protocol ← MonadExcept.ofExcept (makeFilters engine protocol (backendRef.opt "filters"))
  match backendResource with
  | some resource =>
      let backend ← makeBalancer engine store gateway protocol backendRef resource
      return ⟨backendRef, some resource, some backend⟩
  | none => return ⟨backendRef, none, none⟩

/-- The references of a rule: all of them if there are several, else the first. -/
def selectorRefs (rule : Value) : Except Thrown (List Value) :=
  match (rule.opt "backendRefs").or (.arr []) with
  | .arr [] => .ok [.undefined]
  | .arr refs => .ok refs
  | .str text =>
      if text.length ≤ 1 then .ok [.str text]
      else .error (.typeError "map is not a function")
  | _ => .ok [.undefined]

def makeBackendSelector (engine : ModuleEngine) (store : Store) (listener : Value)
    (call : SelectorCall) (made : List BackendTarget) : ModuleM (List BackendTarget) := do
  let routeProtocol ← MonadExcept.ofExcept
    (makeFilters engine call.protocol (listener.opt "routeFilters"))
  let ruleProtocol ← MonadExcept.ofExcept
    (makeFilters engine routeProtocol (call.rule.opt "filters"))
  let refs ← MonadExcept.ofExcept (selectorRefs call.rule)
  refs.foldlM (fun made ref => do
    return made ++ [← makeBackendTarget engine store call.gateway ruleProtocol ref]) made

/-! Routers. -/

/-- One thing that `makeRouter` does, in order: a computation that can only throw, or a backend
selector. -/
inductive BuildStep
  | check (result : Except Thrown Unit)
  | selector (call : SelectorCall)

def ruleSteps (engine : ModuleEngine) (kind : RouteModule) (protocol : String)
    (gateway : Option Resource) (rule : Value) : List BuildStep :=
  [.check (engine.prepareRule kind rule), .selector ⟨protocol, rule, gateway⟩]

/-- The steps for the items of a list that is read first. -/
def stepsFor {α : Type} (read : Except Thrown (List α)) (each : α → List BuildStep) :
    List BuildStep :=
  match read with
  | .ok items => items.flatMap each
  | .error thrown => [.check (.error thrown)]

/-- `resource.spec.rules.map(…)` -/
def rulesOf (resource : Resource) : Except Thrown (List Value) := do
  (← (← resource.data.get "spec").get "rules").items "map"

/-- The routes of each hostname: full names in the order they come up, then the patterns, the
longest first. -/
structure HostGroups where
  fullnames : Table (List Resource)
  postfixes : Table (List Resource)

def pushRoute (groups : Table (List Resource)) (key : String) (route : Resource) :
    Table (List Resource) :=
  groups.set key ((groups.get? key).getD [] ++ [route])

def addHostname (engine : ModuleEngine) (route : Resource) (groups : HostGroups)
    (hostname : Value) : Except Thrown HostGroups := do
  let name ← engine.hostKey hostname
  match name.toList with
  | '*' :: rest =>
      return { groups with postfixes := pushRoute groups.postfixes (String.ofList rest) route }
  | _ => return { groups with fullnames := pushRoute groups.fullnames name route }

def hostnamesOf (route : Resource) : Except Thrown (List Value) := do
  ((← (← route.data.get "spec").get "hostnames").or (.arr [.str "*"])).items "forEach"

def groupRoutes (engine : ModuleEngine) (routeResources : List Resource) :
    Except Thrown (List (List Resource)) := do
  let groups ← routeResources.foldlM (fun groups route => do
    (← hostnamesOf route).foldlM (addHostname engine route) groups) ⟨Table.empty, Table.empty⟩
  return groups.fullnames.values ++ (groups.postfixes.entries.insertionSort fun left right =>
    jsLength right.1 ≤ jsLength left.1).map Prod.snd

/-- `makeRuleSelector` of the HTTP router.  The kind of the first route decides. -/
def httpSelectorSteps (engine : ModuleEngine) (gateway : Resource) (routes : List Resource) :
    List BuildStep :=
  let kind := routes.head?.elim Value.undefined fun route => kindOf route.data
  routes.flatMap (fun route =>
    stepsFor (rulesOf route) (ruleSteps engine .http "http" (some gateway))) ++
  [.check (match kind with
    | .str "HTTPRoute" => engine.compileMatches .http kind routes
    | .str "GRPCRoute" => engine.compileMatches .http kind routes
    | kind => .error (.raised ("route-http: unknown resource kind: '" ++ kind.toKey ++ "'")))]

def firstRule (route : Option Resource) : Value :=
  match ((route.elim Value.undefined Resource.data).opt "spec").opt "rules" with
  | .arr (rule :: _) => rule
  | _ => .undefined

/-- One selector for each hostname of a TLS route, made before the name is looked at. -/
def tlsHostSteps (engine : ModuleEngine) (gateway : Resource) (route : Resource)
    (hostname : Value) : List BuildStep :=
  [.selector ⟨"tcp", firstRule (some route), some gateway⟩,
    .check (do let _ ← engine.hostKey hostname)]

def buildSteps (engine : ModuleEngine) (kind : RouteModule) (gateway : Resource)
    (routeResources : List Resource) : List BuildStep :=
  match kind with
  | .http => stepsFor (groupRoutes engine routeResources) (httpSelectorSteps engine gateway)
  | .tcp => [.selector ⟨"tcp", firstRule routeResources.head?, some gateway⟩]
  | .udp => [.selector ⟨"udp", firstRule routeResources.head?, none⟩]
  | .tls => routeResources.flatMap fun route =>
      stepsFor (hostnamesOf route) (tlsHostSteps engine gateway route)
  | .dubbo => routeResources.flatMap (fun route =>
      stepsFor (rulesOf route) (ruleSteps engine .dubbo "dubbo" none)) ++
      [.check (engine.compileMatches .dubbo .undefined routeResources)]

def buildStep (engine : ModuleEngine) (store : Store) (listener : Value)
    (made : List BackendTarget) (step : BuildStep) : ModuleM (List BackendTarget) :=
  match step with
  | .check result => do
      MonadExcept.ofExcept result
      return made
  | .selector call => makeBackendSelector engine store listener call made

def makeRouter (engine : ModuleEngine) (store : Store) (kind : RouteModule) (gateway : Resource)
    (listener : Value) (routeResources : List Resource) : ModuleM BuiltRouter := do
  let targets ← (buildSteps engine kind gateway routeResources).foldlM
    (buildStep engine store listener) []
  return ⟨listener, routeResources, targets⟩

/-- `update` of a router module: the new router first, then the updater. -/
def routerUpdate (engine : ModuleEngine) (store : Store) (ref : Nat) (routerKey : String)
    (listener : Value) (routeResources : List Resource) : ModuleM Unit := do
  match (← get).routers[ref]? with
  | none => pure ()
  | some router =>
      let built ← makeRouter engine store router.kind router.gateway listener routeResources
      modify (Modules.setRouter ref (router.install built))
      modify (Modules.watchRouter routerKey ref)

/-- The default export of a router module. -/
def makeRoute (engine : ModuleEngine) (kind : RouteModule) (routerKey : String) (listener : Value)
    (routeResources : List Resource) (gateway : Resource) (store : Store) : ModuleM Unit := do
  let ref := (← get).routers.length
  modify fun modules => { modules with routers := modules.routers ++ [⟨kind, gateway, none⟩] }
  routerUpdate engine store ref routerKey listener routeResources

/-! Running updaters. -/

/-- What `runUpdaters` is called with: kind and key, the key `undefined` for all keys. -/
def UpdaterCall.target : UpdaterCall → String × Option String
  | backend backendName => ("Backend", some backendName.toKey)
  | route routerKey _ _ => ("Route", some routerKey)
  | policy kind refName =>
      (kind.toKey, match refName with
        | .undefined => none
        | name => some name.toKey)
  | resource kind _ _ => (kind.toKey, none)

/-- The arguments as a router takes them.  Two resources in place of a listener and its routes
are what updaters of all keys are given. -/
def routerArgs (kind : RouteModule) : UpdaterCall → Except Thrown (Value × List Resource)
  | .route _ listener routeResources => .ok (listener, routeResources)
  | .resource _ newResource (some _) =>
      if kind = .tcp ∨ kind = .udp then
        .ok (newResource.elim Value.undefined Resource.data, [])
      else .error (.typeError "not a function")
  | _ => .error (.typeError "cannot read property forEach")

def runCallback (engine : ModuleEngine) (store : Store) (call : UpdaterCall) (cb : Callback) :
    ModuleM Unit := do
  match cb with
  | .backend ref backendName => backendCallback store ref backendName
  | .healthCheck ref backendName => healthCheckUpdate engine store ref backendName
  | .router ref routerKey =>
      match (← get).routers[ref]? with
      | none => pure ()
      | some router =>
          let (listener, routeResources) ← MonadExcept.ofExcept (routerArgs router.kind call)
          routerUpdate engine store ref routerKey listener routeResources

/-- `runUpdaters` of `resources.js`: the callbacks are deleted first, then run in order. -/
def runUpdatersOf (engine : ModuleEngine) (call : UpdaterCall) (store : Store) :
    ModuleM Unit := do
  let updaters := (← get).updaters
  let (kind, key) := call.target
  modify fun modules => { modules with updaters := updaters.without kind key }
  forM (updaters.taken kind key) (runCallback engine store call)

/-- The controller over these modules. -/
def moduleRuntime (engine : ModuleEngine) : Runtime Modules where
  toNumber := engine.toNumber
  makeRoute := makeRoute engine
  terminateTLS listener store := MonadExcept.ofExcept (engine.terminateTLS listener store)
  makeFilters protocol filters _ := do
    let _ ← MonadExcept.ofExcept (makeFilters engine protocol filters)
  runUpdaters := runUpdatersOf engine

/-- An engine without filters, in which nothing else throws. -/
def plainEngine : ModuleEngine where
  toNumber text := text
  mainThread := true
  importFilter _ := none
  hostKey value := .ok value.toKey
  prepareRule _ _ := .ok ()
  compileMatches _ _ _ := .ok ()
  makeBackendTLS _ _ _ _ := .ok ()
  makeSessionPersistence _ := .ok ()
  terminateTLS _ _ := .ok ()

end Fgw
