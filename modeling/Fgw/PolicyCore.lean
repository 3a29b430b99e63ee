import Fgw.ModulesCore

/-!
What the modules take from backend policies, and when: the algorithm and the timeouts of a
backend when it is made, session persistence and TLS of a target when its router is built.
The modules themselves are those of `ModulesCore`, run together with what they have taken.
-/

namespace Fgw

/-- What the readers of policies take from Pipy.  A certificate or a key is represented by the
secret that it is made from. -/
structure PolicyEngine where
  modules : ModuleEngine
  ztm : Bool
  secrets : Value
  parseFloat : Value → String
  certificate : Value → Except Thrown Unit
  privateKey : Value → Except Thrown Unit

def PolicyEngine.secret (engine : PolicyEngine) (name : Value) : Value :=
  engine.secrets.opt name.toKey

/-- `policies.find(r => r.spec.name)?.spec?.name` -/
def firstSetting (policies : List Resource) (name : String) : Value :=
  (policies.find? fun policy => ((policy.data.opt "spec").opt name).truthy).elim .undefined
    fun policy => (policy.data.opt "spec").opt name

/-- Options of a connection; the times are in seconds, as printed. -/
structure ConnectOptions where
  connectTimeout : Option String
  idleTimeout : String
  readTimeout : Option String
  writeTimeout : Option String
  deriving DecidableEq, Repr

/-- `connect` holds the options of TCP and of UDP connections; a backend that is reached through
a mesh has none. -/
structure BackendSettings where
  algorithm : String
  connect : Option (ConnectOptions × ConnectOptions)
  deriving DecidableEq, Repr

def connectOptions (engine : PolicyEngine) (timeouts : Value) : ConnectOptions × ConnectOptions :=
  let given (name : String) : Option String :=
    if (timeouts.opt name).truthy then some (engine.parseFloat (timeouts.opt name)) else none
  (⟨given "connect", (given "idle").getD "0", given "read", given "write"⟩,
    ⟨none, (given "idle").getD "60", given "read", given "write"⟩)

def backendSettings (engine : PolicyEngine) (store : Store) (backendName : String) :
    Except Thrown BackendSettings := do
  let backendLBPolicies ← findPolicies store "BackendLBPolicy" (store.find "Backend" backendName)
  let algorithm := firstSetting backendLBPolicies "algorithm"
  let timeouts := firstSetting backendLBPolicies "timeouts"
  return ⟨if algorithm.strictEq (.str "LeastLoad") then "least-load" else "round-robin",
    if engine.ztm then none else some (connectOptions engine timeouts)⟩

inductive Verifier
  | altNames (names : List Value)
  | commonName (hostname : Value)

structure Validation where
  sni : Value
  trusted : Option (List Value)
  onVerify : Verifier

structure TLSConfig where
  certificate : Option (Value × Value)
  validation : Option Validation
  pqc : Option Value

def clientCertificate (engine : PolicyEngine) (config : Value) :
    Except Thrown (Option (Value × Value)) := do
  if !config.truthy then return none
  engine.certificate (engine.secret (config.opt "tls.crt"))
  engine.privateKey (engine.secret (config.opt "tls.key"))
  return some (engine.secret (config.opt "tls.crt"), engine.secret (config.opt "tls.key"))

def trustedCertificate (engine : PolicyEngine) (config : Value) : Except Thrown Value := do
  let name ← config.get "ca.crt"
  engine.certificate (engine.secret name)
  return engine.secret name

def altName (config : Value) : Except Thrown Value := do
  let type ← config.get "type"
  return if type.strictEq (.str "URI") then config.opt "uri" else config.opt "hostname"

def makeVerifier (config : Value) : Except Thrown Verifier := do
  let subjectAltNames := config.opt "subjectAltNames"
  if !subjectAltNames.truthy then return .commonName (config.opt "hostname")
  return .altNames (← (← subjectAltNames.items "map").mapM altName)

def makeValidation (engine : PolicyEngine) (config : Value) :
    Except Thrown (Option Validation) := do
  if !config.truthy then return none
  let trusted ← match ← (config.opt "caCertificates").optItems "map" with
    | some certificates => some <$> certificates.mapM (trustedCertificate engine)
    | none => pure none
  return some ⟨config.opt "hostname", trusted, ← makeVerifier config⟩

/-- The default export of `backend-tls.js`; nothing if connections are not encrypted. -/
def makeBackendTLS (engine : PolicyEngine) (store : Store) (gateway : Option Resource)
    (backendResource : Resource) : Except Thrown (Option TLSConfig) := do
  let backendTLSPolicies ← findPolicies store "BackendTLSPolicy" (some backendResource)
  let spec ← (gateway.elim .undefined Resource.data).get "spec"
  let tlsCertificate := (← spec.get "backendTLS").opt "clientCertificate"
  let tlsPQC := firstSetting backendTLSPolicies "pqc"
  let certificate ← clientCertificate engine tlsCertificate
  let validation ← makeValidation engine (firstSetting backendTLSPolicies "validation")
  if certificate.isNone && validation.isNone then
    -- There is no configuration yet that `pqc` could be set on.
    if tlsPQC.truthy then throw (.typeError "cannot set property pqc of null")
    return none
  return some ⟨certificate, validation, if tlsPQC.truthy then some tlsPQC else none⟩

/-- `sessionPersistence` is the configuration that `makeSessionPersistence` is called with, or a
falsy value. -/
structure TargetSettings where
  sessionPersistence : Value
  tls : Option TLSConfig

/-- What the balancer of this protocol takes from policies. -/
def targetSettings (engine : PolicyEngine) (store : Store) (gateway : Option Resource)
    (protocol : String) (backendResource : Resource) : Except Thrown TargetSettings :=
  match protocol with
  | "http" => do
      let tls ← makeBackendTLS engine store gateway backendResource
      let backendLBPolicies ← findPolicies store "BackendLBPolicy" (some backendResource)
      return ⟨firstSetting backendLBPolicies "sessionPersistence", tls⟩
  | "tcp" => do
      let tls ← makeBackendTLS engine store gateway backendResource
      return ⟨.undefined, tls⟩
  | _ => .ok ⟨.undefined, none⟩

structure MadeBackend where
  name : String
  settings : BackendSettings

/-- A target of a router, with what its balancer has taken; nothing without a backend. -/
structure MadeTarget where
  target : BackendTarget
  gateway : Option Resource
  protocol : String
  settings : Option TargetSettings

/-- `backends` and `routers` go by the places of those of `modules`. -/
structure PolicyModules where
  modules : Modules
  backends : List MadeBackend
  routers : List (List MadeTarget)

def PolicyModules.empty : PolicyModules := ⟨Modules.empty, [], []⟩

abbrev PolicyM := EStateM Thrown PolicyModules

/-- Runs what does not read backend policies. -/
def plainly {α : Type} (program : ModuleM α) : PolicyM α := fun state =>
  match program state.modules with
  | .ok value modules => .ok value { state with modules := modules }
  | .error thrown modules => .error thrown { state with modules := modules }

namespace InForce

def makeBackend (engine : PolicyEngine) (store : Store) (name : String) : PolicyM Nat := do
  match (← get).modules.backendCache.get? name with
  | some ref => return ref
  | none =>
      let settings ← MonadExcept.ofExcept (backendSettings engine store name)
      let ref ← plainly (Fgw.makeBackend store name)
      modify fun state => { state with backends := state.backends ++ [⟨name, settings⟩] }
      return ref

def makeBalancer (engine : PolicyEngine) (store : Store) (gateway : Option Resource)
    (protocol : String) (backendResource : Resource) : PolicyM (Nat × TargetSettings) := do
  if protocol ∉ ["http", "tcp", "udp", "dubbo"] then
    throw (.raised ("Invalid protocol '" ++ protocol ++ "' for balancer"))
  let name := (nameOf backendResource.data).toKey
  let backend ← makeBackend engine store name
  if protocol ∈ ["http", "dubbo"] then plainly (makeHealthCheck engine.modules store name)
  let settings ← MonadExcept.ofExcept
    (targetSettings engine store gateway protocol backendResource)
  return (backend, settings)

def makeBackendTarget (engine : PolicyEngine) (store : Store) (gateway : Option Resource)
    (protocol : String) (backendRef : Value) : PolicyM MadeTarget := do
  let backendResource := findBackendResource store backendRef
  let protocol ← MonadExcept.ofExcept
    (makeFilters engine.modules protocol (backendRef.opt "filters"))
  match backendResource with
  | some resource =>
      let (backend, settings) ← makeBalancer engine store gateway protocol resource
      return ⟨⟨backendRef, some resource, some backend⟩, gateway, protocol, some settings⟩
  | none => return ⟨⟨backendRef, none, none⟩, gateway, protocol, none⟩

def makeBackendSelector (engine : PolicyEngine) (store : Store) (listener : Value)
    (call : SelectorCall) (made : List MadeTarget) : PolicyM (List MadeTarget) := do
  let routeProtocol ← MonadExcept.ofExcept
    (makeFilters engine.modules call.protocol (listener.opt "routeFilters"))
  let ruleProtocol ← MonadExcept.ofExcept
    (makeFilters engine.modules routeProtocol (call.rule.opt "filters"))
  let refs ← MonadExcept.ofExcept (selectorRefs call.rule)
  refs.foldlM (fun made ref => do
    return made ++ [← makeBackendTarget engine store call.gateway ruleProtocol ref]) made

def buildStep (engine : PolicyEngine) (store : Store) (listener : Value)
    (made : List MadeTarget) (step : BuildStep) : PolicyM (List MadeTarget) :=
  match step with
  | .check result => do
      MonadExcept.ofExcept result
      return made
  | .selector call => makeBackendSelector engine store listener call made

def makeRouter (engine : PolicyEngine) (store : Store) (kind : RouteModule) (gateway : Resource)
    (listener : Value) (routeResources : List Resource) : PolicyM (List MadeTarget) :=
  (buildSteps engine.modules kind gateway routeResources).foldlM
    (buildStep engine store listener) []

/-- The router of this place, as built from a listener and its routes; what a router took that no
request goes through is not recorded. -/
def setRouter (ref : Nat) (router : Router) (listener : Value) (routeResources : List Resource)
    (targets : List MadeTarget) (state : PolicyModules) : PolicyModules :=
  { state with
    modules := state.modules.setRouter ref
      (router.install ⟨listener, routeResources, targets.map MadeTarget.target⟩)
    routers := if router.Fixed then state.routers else state.routers.set ref targets }

def routerUpdate (engine : PolicyEngine) (store : Store) (ref : Nat) (routerKey : String)
    (listener : Value) (routeResources : List Resource) : PolicyM Unit := do
  match (← get).modules.routers[ref]? with
  | none => pure ()
  | some router =>
      let targets ← makeRouter engine store router.kind router.gateway listener routeResources
      modify (setRouter ref router listener routeResources targets)
      modify fun state => { state with modules := state.modules.watchRouter routerKey ref }

/-- A router module has no router yet when it makes its first one. -/
def addRouter (kind : RouteModule) (gateway : Resource) (state : PolicyModules) : PolicyModules :=
  { state with
    modules := { state.modules with routers := state.modules.routers ++ [⟨kind, gateway, none⟩] }
    routers := state.routers ++ [[]] }

def makeRoute (engine : PolicyEngine) (kind : RouteModule) (routerKey : String) (listener : Value)
    (routeResources : List Resource) (gateway : Resource) (store : Store) : PolicyM Unit := do
  let ref := (← get).modules.routers.length
  modify (addRouter kind gateway)
  routerUpdate engine store ref routerKey listener routeResources

def runCallback (engine : PolicyEngine) (store : Store) (call : UpdaterCall) (cb : Callback) :
    PolicyM Unit := do
  match cb with
  | .backend ref backendName => plainly (backendCallback store ref backendName)
  | .healthCheck ref backendName =>
      plainly (healthCheckUpdate engine.modules store ref backendName)
  | .router ref routerKey =>
      match (← get).modules.routers[ref]? with
      | none => pure ()
      | some router =>
          let (listener, routeResources) ← MonadExcept.ofExcept (routerArgs router.kind call)
          routerUpdate engine store ref routerKey listener routeResources

def runUpdatersOf (engine : PolicyEngine) (call : UpdaterCall) (store : Store) :
    PolicyM Unit := do
  let updaters := (← get).modules.updaters
  let (kind, key) := call.target
  modify fun state => { state with
    modules := { state.modules with updaters := updaters.without kind key } }
  forM (updaters.taken kind key) (runCallback engine store call)

end InForce

def policyRuntime (engine : PolicyEngine) : Runtime PolicyModules where
  toNumber := engine.modules.toNumber
  makeRoute := InForce.makeRoute engine
  terminateTLS listener store := MonadExcept.ofExcept (engine.modules.terminateTLS listener store)
  makeFilters protocol filters _ := do
    let _ ← MonadExcept.ofExcept (makeFilters engine.modules protocol filters)
  runUpdaters := InForce.runUpdatersOf engine

end Fgw
