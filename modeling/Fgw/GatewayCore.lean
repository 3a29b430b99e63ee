import Fgw.Library.Effect
import Fgw.Library.Fallible
import Fgw.ResourcesCore
import Mathlib.Logic.Function.Basic

/-!
The gateway controller: listeners and the routes attached to them, the dirty lists that
change notifications fill, and the flush that works them off.  The modules it drives
(routers, balancers, filters and their updaters) run on a state of their own, `M`.
-/

namespace Fgw

/-- `[port, protocol]`, the port with its address. -/
structure ListenerKey where
  port : String
  protocol : String
  deriving DecidableEq, Repr

/-- The gateway and listener a listening pipeline was built for. -/
structure Pipeline where
  gateway : Resource
  listener : Value

/-- `[kind, name, port, sectionName]` of a parent reference. -/
structure DirtyRouter where
  kind : Value
  name : Value
  port : Value
  sectionName : Value

def DirtyRouter.isIdentical (left right : DirtyRouter) : Bool :=
  left.kind.strictEq right.kind && left.name.strictEq right.name &&
    left.port.strictEq right.port && left.sectionName.strictEq right.sectionName

structure DirtyPolicy where
  kind : Value
  refKind : Value
  refName : Value

def DirtyPolicy.isIdentical (left right : DirtyPolicy) : Bool :=
  left.kind.strictEq right.kind && left.refKind.strictEq right.refKind &&
    left.refName.strictEq right.refName

structure DirtyResource where
  kind : Value
  newResource : Option Resource
  oldResource : Option Resource

/-- A call of `runUpdaters`: its kind and key, and what the updaters are given. -/
inductive UpdaterCall
  | backend (backendName : Value)
  | route (routerKey : String) (listener : Value) (routeResources : List Resource)
  | policy (kind refName : Value)
  | resource (kind : Value) (newResource oldResource : Option Resource)

inductive RouteModule
  | http
  | tcp
  | tls
  | udp
  | dubbo
  deriving DecidableEq, Repr

/-- `ports` are the pipelines `pipy.listen` has installed.  `updaterCalls` records the calls
of `runUpdaters` for the statements about them; nothing reads it. -/
structure World (M : Type) where
  store : Store
  currentListeners : List ListenerKey
  dirtyGateways : List Value
  dirtyRouters : List DirtyRouter
  dirtyBackends : List Value
  dirtyPolicies : List DirtyPolicy
  dirtyResources : List DirtyResource
  dirtyTimeout : Bool
  watching : Bool
  ports : ListenerKey → Option Pipeline
  updaterCalls : List UpdaterCall
  modules : M

/-- What the controller calls: the engine's number conversion, the default exports of the
router and TLS modules, `makeFilters` and `runUpdaters`. -/
structure Runtime (M : Type) where
  toNumber : String → String
  makeRoute : RouteModule → String → Value → List Resource → Resource → Store →
    EStateM Thrown M Unit
  terminateTLS : Value → Store → EStateM Thrown M Unit
  makeFilters : String → Value → Store → EStateM Thrown M Unit
  runUpdaters : UpdaterCall → Store → EStateM Thrown M Unit

abbrev GatewayFilter := Option Resource → Except Thrown Bool

def makeListenerKey (listener : Value) : Except Thrown ListenerKey := do
  let address := (← listener.get "address").or (.str "0.0.0.0")
  let protocol := if (listener.opt "protocol").strictEq (.str "UDP") then "udp" else "tcp"
  let port := (listener.opt "port").toKey
  let bracketed ← match address with
    | .str text => pure (text.toList.contains ':')
    | .arr items => pure (items.any fun item => item.strictEq (.str ":"))
    | _ => throw (.typeError "address.indexOf is not a function")
  if bracketed then pure ⟨"[" ++ address.toKey ++ "]:" ++ port, protocol⟩
  else pure ⟨address.toKey ++ ":" ++ port, protocol⟩

def makeRouterKey (gateway : Value) (key : ListenerKey) : Except Thrown String := do
  let name ← (← gateway.get "metadata").get "name"
  pure (key.port ++ ":" ++ key.protocol ++ ":" ++ name.toKey)

def listenersOf (gateway : Resource) : List Value :=
  (((gateway.data.opt "spec").opt "listeners").array?).getD []

def allRouteKinds : List String :=
  ["HTTPRoute", "GRPCRoute", "TCPRoute", "TLSRoute", "UDPRoute", "DubboRoute"]

def allRouteResources (store : Store) : List Resource := allRouteKinds.flatMap store.list

/-- The kinds of route a listener takes. -/
def routeKinds (listener : Value) : List String :=
  match listener.opt "protocol" with
  | .str "HTTP" => ["HTTPRoute", "GRPCRoute"]
  | .str "HTTPS" => ["HTTPRoute", "GRPCRoute"]
  | .str "TLS" =>
      match (listener.opt "tls").opt "mode" with
      | .str "Terminate" => ["TCPRoute"]
      | .str "Passthrough" => ["TLSRoute"]
      | _ => []
  | .str "TCP" => ["TCPRoute"]
  | .str "UDP" => ["UDPRoute"]
  | .str "Dubbo" => ["DubboRoute"]
  | _ => []

/-- The test `findRouteResources` makes on one parent reference: the kind may be left out,
and the ports are compared loosely. -/
def refersTo (toNumber : String → String) (gateway listener ref : Value) :
    Except Thrown Bool := do
  let kind ← ref.get "kind"
  if kind.truthy && !kind.strictEq (.str "Gateway") then return false
  if !(ref.opt "name").strictEq (← (← gateway.get "metadata").get "name") then return false
  if (ref.opt "sectionName").strictEq (listener.opt "name") && (listener.opt "name").truthy then
    return true
  return Value.looseEq toNumber (ref.opt "port") (listener.opt "port")

def attached (toNumber : String → String) (gateway listener : Value) (route : Resource) :
    Except Thrown Bool :=
  match ((route.data.opt "spec").opt "parentRefs").array? with
  | some refs => refs.anyM (refersTo toNumber gateway listener)
  | none => .ok false

def findRouteResources (toNumber : String → String) (store : Store) (gateway listener : Value) :
    Except Thrown (List Resource) :=
  ((routeKinds listener).flatMap store.list).filterM (attached toNumber gateway listener)

/-- The router module of a listener and whether TLS is terminated before it. -/
def routeModule (listener : Value) : Except Thrown (RouteModule × Bool) :=
  match listener.opt "protocol" with
  | .str "HTTP" => .ok (.http, false)
  | .str "HTTPS" => .ok (.http, true)
  | .str "TLS" =>
      match (listener.opt "tls").opt "mode" with
      | .str "Terminate" => .ok (.tcp, true)
      | .str "Passthrough" => .ok (.tls, false)
      | mode => .error (.raised ("Listener: unknown TLS mode '" ++ mode.toKey ++ "'"))
  | .str "TCP" => .ok (.tcp, false)
  | .str "UDP" => .ok (.udp, false)
  | .str "Dubbo" => .ok (.dubbo, false)
  | protocol => .error (.raised ("Listener: unknown protocol '" ++ protocol.toKey ++ "'"))

section Controller

variable {M : Type}

def onModules (program : EStateM Thrown M Unit) : EStateM Thrown (World M) Unit :=
  fun world => match program world.modules with
    | .ok value modules => .ok value { world with modules := modules }
    | .error thrown modules => .error thrown { world with modules := modules }

theorem ends_onModules (program : EStateM Thrown M Unit) (world : World M)
    (returned : Unit → World M → Prop) (raised : Thrown → World M → Prop) :
    Ends (onModules program) world returned raised ↔ Ends program world.modules
      (fun value modules => returned value { world with modules := modules })
      (fun thrown modules => raised thrown { world with modules := modules }) := by
  simp only [Ends, onModules]
  cases program world.modules <;> rfl

def listen (key : ListenerKey) (pipeline : Option Pipeline) (world : World M) : World M :=
  { world with ports := Function.update world.ports key pipeline }

def terminateTLS (runtime : Runtime M) (termTLS : Bool) (listener : Value) (store : Store) :
    EStateM Thrown (World M) Unit :=
  if termTLS then onModules (runtime.terminateTLS listener store) else pure ()

def makeListenerFilters (runtime : Runtime M) (wireProto : String) (listener : Value)
    (store : Store) : EStateM Thrown (World M) Unit :=
  if (listener.opt "filters").truthy then
    onModules (runtime.makeFilters wireProto (listener.opt "filters") store)
  else pure ()

def makeListener (runtime : Runtime M) (gateway : Resource) (listener : Value) :
    EStateM Thrown (World M) ListenerKey := do
  let key ← MonadExcept.ofExcept (makeListenerKey listener)
  let (module, termTLS) ← MonadExcept.ofExcept (routeModule listener)
  let store := (← get).store
  let routeResources ← MonadExcept.ofExcept
    (findRouteResources runtime.toNumber store gateway.data listener)
  let routerKey ← MonadExcept.ofExcept (makeRouterKey gateway.data key)
  onModules (runtime.makeRoute module routerKey listener routeResources gateway store)
  terminateTLS runtime termTLS listener store
  makeListenerFilters runtime key.protocol listener store
  modify (listen key (some ⟨gateway, listener⟩))
  return key

def addKey (keys : List ListenerKey) (key : ListenerKey) : List ListenerKey :=
  if key ∈ keys then keys else keys ++ [key]

def startGateway (runtime : Runtime M) (gateway : Resource) :
    EStateM Thrown (World M) Unit := do
  let listeners ← MonadExcept.ofExcept (do
    (← (← gateway.data.get "spec").get "listeners").items "forEach")
  forM listeners fun listener => tryCatch
    (do
      let key ← makeListener runtime gateway listener
      modify fun world => { world with currentListeners := addKey world.currentListeners key })
    fun _ => pure ()

/-- The loop that starts the gateways, as in `main.ztm.js`; `main.js` has no filter. -/
def startGateways (runtime : Runtime M) (gatewayFilter : GatewayFilter) :
    EStateM Thrown (World M) Unit := do
  forM ((← get).store.list "Gateway") fun gateway => do
    if !(nameOf gateway.data).truthy then return
    if !(← MonadExcept.ofExcept (gatewayFilter (some gateway))) then return
    startGateway runtime gateway

/-! Change notifications. -/

def addDirtyGateway (name : Value) (world : World M) : World M :=
  if world.dirtyGateways.any name.strictEq then world
  else { world with
    dirtyGateways := world.dirtyGateways ++ [name]
    dirtyRouters := world.dirtyRouters.filter fun key =>
      !key.kind.strictEq (.str "Gateway") || !key.name.strictEq name }

def dirtyRouterOf (ref : Value) : Except Thrown DirtyRouter := do
  let kind ← ref.get "kind"
  pure ⟨kind, ref.opt "name", ref.opt "port", ref.opt "sectionName"⟩

def addDirtyRouter (key : DirtyRouter) (world : World M) : World M :=
  if world.dirtyRouters.any key.isIdentical then world
  else { world with dirtyRouters := world.dirtyRouters ++ [key] }

def addDirtyRouterRef (ref : Value) : EStateM Thrown (World M) Unit := do
  let key ← MonadExcept.ofExcept (dirtyRouterOf ref)
  modify (addDirtyRouter key)

def addDirtyRouters (refs : Value) : EStateM Thrown (World M) Unit :=
  match refs.array? with
  | some items => forM items addDirtyRouterRef
  | none => pure ()

def addDirtyBackend (name : Value) (world : World M) : World M :=
  if world.dirtyBackends.any name.strictEq then world
  else { world with dirtyBackends := world.dirtyBackends ++ [name] }

def targetedBackends (refs : Value) : Except Thrown (List String) := do
  let targets ← (← refs.items "filter").mapM fun ref => do
    let kind ← ref.get "kind"
    pure (if kind.strictEq (.str "Backend") then some (ref.opt "name").toKey else none)
  pure (targets.filterMap id)

def ruleBackendNames (rule : Value) : Except Thrown (List String) := do
  match ← (← rule.get "backendRefs").optItems "map" with
  | some refs => refs.mapM fun ref => Value.toKey <$> ref.get "name"
  | none => pure []

def routeBackendNames (route : Value) : Except Thrown (List String) := do
  match ← ((route.opt "spec").opt "rules").optItems "flatMap" with
  | some rules => List.flatten <$> rules.mapM ruleBackendNames
  | none => pure []

/-- The routers of one route, if one of its rules names a dirty backend. -/
def addDirtyRoute (dirtyBackendNames : List String) (route : Resource) :
    EStateM Thrown (World M) Unit := do
  let backendNames ← MonadExcept.ofExcept (routeBackendNames route.data)
  if backendNames.any fun name => dirtyBackendNames.contains name then
    addDirtyRouters ((route.data.opt "spec").opt "parentRefs")

def addDirtyRoutersByPolicy (refs : Value) : EStateM Thrown (World M) Unit := do
  let dirtyBackendNames ← MonadExcept.ofExcept (targetedBackends refs)
  forM (allRouteResources (← get).store) (addDirtyRoute dirtyBackendNames)

def addDirtyPolicyKey (key : DirtyPolicy) (world : World M) : World M :=
  if world.dirtyPolicies.any key.isIdentical then world
  else { world with dirtyPolicies := world.dirtyPolicies ++ [key] }

def addDirtyPolicyRef (policy : Resource) (ref : Value) : EStateM Thrown (World M) Unit := do
  let refKind ← MonadExcept.ofExcept (ref.get "kind")
  modify (addDirtyPolicyKey ⟨kindOf policy.data, refKind, ref.opt "name"⟩)

def addDirtyPolicy (policy : Resource) : EStateM Thrown (World M) Unit := do
  match ← MonadExcept.ofExcept
      (((policy.data.opt "spec").opt "targetRefs").optItems "forEach") with
  | some refs => forM refs (addDirtyPolicyRef policy)
  | none => pure ()

def addName (add : Value → World M → World M) (name : Value) (world : World M) : World M :=
  if name.truthy then add name world else world

/-- `add` on the new name and on the old name, where there is one. -/
def addNames (notification : Notification) (add : Value → World M → World M)
    (world : World M) : World M :=
  let newName := notification.newResource.elim .undefined fun resource => nameOf resource.data
  let oldName := notification.oldResource.elim .undefined fun resource => nameOf resource.data
  addName add oldName (addName add newName world)

inductive ResourceRole
  | gateway
  | route
  | backendPolicy
  | healthCheckPolicy
  | backend
  | other
  deriving DecidableEq, Repr

/-- The cases of the switch in `onResourceChange`. -/
def roleOf (kind : Value) : ResourceRole :=
  match kind with
  | .str "Gateway" => .gateway
  | .str "HTTPRoute" => .route
  | .str "GRPCRoute" => .route
  | .str "TCPRoute" => .route
  | .str "TLSRoute" => .route
  | .str "UDPRoute" => .route
  | .str "BackendLBPolicy" => .backendPolicy
  | .str "BackendTLSPolicy" => .backendPolicy
  | .str "HealthCheckPolicy" => .healthCheckPolicy
  | .str "Backend" => .backend
  | _ => .other

def addDirtyResource (notification : Notification) (world : World M) : World M :=
  { world with
    dirtyResources := world.dirtyResources ++
      [⟨notification.kind, notification.newResource, notification.oldResource⟩] }

def markDirty (notification : Notification) : EStateM Thrown (World M) Unit :=
  match roleOf notification.kind with
  | .gateway => modify (addNames notification addDirtyGateway)
  | .route => forM notification.versions fun route =>
      addDirtyRouters ((route.data.opt "spec").opt "parentRefs")
  | .backendPolicy => forM notification.versions fun policy =>
      addDirtyRoutersByPolicy ((policy.data.opt "spec").opt "targetRefs")
  | .healthCheckPolicy => forM notification.versions addDirtyPolicy
  | .backend => modify (addNames notification addDirtyBackend)
  | .other => modify (addDirtyResource notification)

def onResourceChange (notification : Notification) : EStateM Thrown (World M) Unit := do
  markDirty notification
  modify fun world => { world with dirtyTimeout := true }

/-- A changed file: the store first, then the notifications. -/
def fileChanged (pathname : String) (data : Value) : EStateM Thrown (World M) Unit := do
  let (store, notifications) := (← get).store.changeFile pathname data
  modify fun world => { world with store := store }
  forM notifications onResourceChange

/-- The callback of `pipy.watch`, with each changed file as read; it watches again once it
has gone through all of them. -/
def watchFired (files : List (String × Value)) : EStateM Thrown (World M) Unit := do
  modify fun world => { world with watching := false }
  forM files fun file => fileChanged file.1 file.2
  modify fun world => { world with watching := true }

/-! The flush. -/

def runUpdaters (runtime : Runtime M) (call : UpdaterCall) : EStateM Thrown (World M) Unit := do
  modify fun world => { world with updaterCalls := world.updaterCalls ++ [call] }
  onModules (runtime.runUpdaters call (← get).store)

/-- The test the flush makes on one listener: names as in `refersTo`, ports strictly. -/
def listenerMatches (key : DirtyRouter) (listener : Value) : Except Thrown Bool := do
  let name ← listener.get "name"
  return (name.strictEq key.sectionName && key.sectionName.truthy) ||
    (listener.opt "port").strictEq key.port

/-- The router update a dirty key leads to, if any: the first gateway of the name and its
first listener that matches. -/
def routerCall (toNumber : String → String) (gatewayFilter : GatewayFilter) (store : Store)
    (key : DirtyRouter) : Except Thrown (Option UpdaterCall) := do
  if !key.kind.strictEq (.str "Gateway") then return none
  let gateway := (store.list "Gateway").find? fun gateway =>
    (nameOf gateway.data).strictEq key.name
  if !(← gatewayFilter gateway) then return none
  match gateway with
  | none => return none
  | some gateway =>
      let some listeners ← ((gateway.data.opt "spec").opt "listeners").optItems "find"
        | return none
      let some listener ← listeners.findM? (listenerMatches key) | return none
      if !listener.truthy then return none
      let listenerKey ← makeListenerKey listener
      let routerKey ← makeRouterKey gateway.data listenerKey
      let routeResources ← findRouteResources toNumber store gateway.data listener
      return some (.route routerKey listener routeResources)

def updateRouter (runtime : Runtime M) (gatewayFilter : GatewayFilter) (key : DirtyRouter) :
    EStateM Thrown (World M) Unit := do
  match ← MonadExcept.ofExcept
      (routerCall runtime.toNumber gatewayFilter (← get).store key) with
  | some call => runUpdaters runtime call
  | none => pure ()

/-- One listener of the gateway phase: rebuilt if its gateway changed, else only its key. -/
def refreshListener (runtime : Runtime M) (gateway : Resource) (isUpdated : Bool)
    (updated : List ListenerKey) (listener : Value) :
    EStateM Thrown (World M) (List ListenerKey) :=
  tryCatch
    (do
      let key ← if isUpdated then makeListener runtime gateway listener
        else MonadExcept.ofExcept (makeListenerKey listener)
      return addKey updated key)
    fun _ => pure updated

def refreshGateway (runtime : Runtime M) (gatewayFilter : GatewayFilter)
    (dirtyGateways : List Value) (updated : List ListenerKey) (gateway : Resource) :
    EStateM Thrown (World M) (List ListenerKey) := do
  let name := nameOf gateway.data
  if !name.truthy then return updated
  if !(← MonadExcept.ofExcept (gatewayFilter (some gateway))) then return updated
  let isUpdated := dirtyGateways.any name.strictEq
  let listeners ← MonadExcept.ofExcept (do
    (← (← gateway.data.get "spec").get "listeners").items "forEach")
  listeners.foldlM (refreshListener runtime gateway isUpdated) updated

/-- Stops listening on what no gateway declares any more. -/
def closePorts (updated : List ListenerKey) (world : World M) : World M :=
  { world with
    ports := fun key =>
      if key ∈ world.currentListeners ∧ key ∉ updated then none else world.ports key
    currentListeners := updated }

def updateGateways (runtime : Runtime M) (gatewayFilter : GatewayFilter) :
    EStateM Thrown (World M) Unit := do
  let world ← get
  if world.dirtyGateways.isEmpty then return
  let updated ← (world.store.list "Gateway").foldlM
    (refreshGateway runtime gatewayFilter world.dirtyGateways) []
  modify (closePorts updated)

def clearDirty (world : World M) : World M :=
  { world with
    dirtyGateways := [], dirtyRouters := [], dirtyBackends := [], dirtyPolicies := []
    dirtyResources := [] }

def updateDirtyResources (runtime : Runtime M) (gatewayFilter : GatewayFilter) :
    EStateM Thrown (World M) Unit := do
  forM (← get).dirtyBackends fun name => runUpdaters runtime (.backend name)
  forM (← get).dirtyRouters (updateRouter runtime gatewayFilter)
  forM (← get).dirtyPolicies fun key => runUpdaters runtime (.policy key.kind key.refName)
  updateGateways runtime gatewayFilter
  forM (← get).dirtyResources fun change =>
    runUpdaters runtime (.resource change.kind change.newResource change.oldResource)
  modify clearDirty

end Controller

def acceptAll : GatewayFilter := fun _ => .ok true

def quietRuntime : Runtime Unit where
  toNumber text := text
  makeRoute _ _ _ _ _ _ := pure ()
  terminateTLS _ _ := pure ()
  makeFilters _ _ _ := pure ()
  runUpdaters _ _ := pure ()

end Fgw
