import Fgw.ModulesCore

/-!
What building a router can do to the modules: it makes backends and health checks, and
nothing else that stays.
-/

namespace Fgw

variable {engine : ModuleEngine} {store : Store}

theorem ends_ofExcept_bind {α β : Type} {result : Except Thrown α} {next : α → ModuleM β}
    {modules : Modules} {returned : β → Modules → Prop} {raised : Modules → Prop}
    (failed : raised modules) (rest : ∀ value, result = .ok value →
      Ends (next value) modules returned fun _ => raised) :
    Ends (MonadExcept.ofExcept result >>= next) modules returned fun _ => raised := by
  rw [ends_bind, ends_ofExcept]
  cases same : result with
  | ok value => exact rest value same
  | error thrown => exact failed

def Modules.backendName (modules : Modules) (ref : Nat) : Option String :=
  (modules.backends[ref]?).map Backend.name

@[simp] theorem backendName_provision (ref other : Nat) (targets : List Target)
    (modules : Modules) :
    (modules.provision ref targets).backendName other = modules.backendName other := by
  simp only [Modules.backendName, Modules.provision, List.getElem?_modify]
  cases modules.backends[other]? with
  | none => rfl
  | some backend => by_cases same : ref = other <;> simp [same]

theorem mem_registered_watchBackend (name : String) (ref : Nat) (modules : Modules)
    (kind key : String) (cb : Callback) :
    cb ∈ (modules.watchBackend name ref).updaters.registered kind key ↔
      cb ∈ modules.updaters.registered kind key ∨
        (kind = "Backend" ∧ key = name ∧ cb = .backend ref name) :=
  Updaters.mem_registered_addUpdater _ _ _ _ _ _ _ (backend_home ref name)

theorem mem_registered_watchHealthCheck (name : String) (ref : Nat) (modules : Modules)
    (key : String) (cb : Callback) :
    cb ∈ (modules.watchHealthCheck name ref).updaters.registered "Backend" key ↔
      cb ∈ modules.updaters.registered "Backend" key ∨
        (key = name ∧ cb = .healthCheck ref name) := by
  simp [Modules.watchHealthCheck, Updaters.mem_registered_addUpdater,
    Updaters.registered_setUpdater]

/-- What the update of this health check may change does not matter to `inv`. -/
structure UpdateFrame (ref : Nat) (name : String) (inv : Modules → Prop) : Prop where
  set : ∀ change modules, inv modules → inv (modules.setHealthCheck ref change)
  cache : ∀ modules cache, inv modules → inv { modules with healthCheckCache := cache }
  watch : ∀ modules, inv modules → inv (modules.watchHealthCheck name ref)

/-- Nor does what a new health check may change. -/
structure HealthFrame (inv : Modules → Prop) : Prop where
  update : ∀ ref name, UpdateFrame ref name inv
  new : ∀ healthCheck modules, inv modules →
    inv { modules with healthChecks := modules.healthChecks ++ [healthCheck] }

/-- What a health check reads of the Backend of this name can be read. -/
def Checkable (engine : ModuleEngine) (store : Store) (name : String) : Prop :=
  ∀ resource, store.find "Backend" name = some resource →
    ∃ policies, findPolicies store "HealthCheckPolicy" (some resource) = .ok policies ∧
      ∃ allTargets, checkedTargets engine policies.head? resource = .ok allTargets

theorem ends_healthCheckUpdate {ref : Nat} {name : String} {inv : Modules → Prop}
    (frame : UpdateFrame ref name inv) (modules : Modules) (holds : inv modules) :
    Ends (healthCheckUpdate engine store ref name) modules (fun _ => inv)
      fun _ after => inv after ∧ ¬ Checkable engine store name := by
  unfold healthCheckUpdate
  rw [ends_bind, ends_modify]
  have started := frame.set (fun check => { check with healthCheckPolicy := none }) modules holds
  cases found : store.find "Backend" name with
  | none => exact frame.cache _ _ started
  | some resource =>
  dsimp only
  rw [ends_bind, ends_ofExcept]
  cases policies : findPolicies store "HealthCheckPolicy" (some resource) with
  | error thrown =>
      refine ⟨started, fun checkable => ?_⟩
      obtain ⟨_, impossible, _⟩ := checkable resource found
      cases policies.symm.trans impossible
  | ok policies' =>
  dsimp only
  rw [ends_bind, ends_modify, ends_bind, ends_ofExcept]
  have emptied := frame.set (fun _ => ⟨policies'.head?, []⟩) _ started
  cases checked : checkedTargets engine policies'.head? resource with
  | error thrown =>
      refine ⟨emptied, fun checkable => ?_⟩
      obtain ⟨_, given, _, impossible⟩ := checkable resource found
      cases policies.symm.trans given
      cases checked.symm.trans impossible
  | ok allTargets =>
      exact frame.watch _ (frame.set (fun check => { check with allTargets := allTargets }) _
        emptied)

theorem keeps_makeHealthCheck {inv : Modules → Prop} (frame : HealthFrame inv) (name : String) :
    Keeps inv (makeHealthCheck engine store name) := by
  have updates (ref : Nat) : Keeps inv (healthCheckUpdate engine store ref name) :=
    fun modules holds => (ends_healthCheckUpdate (frame.update ref name) modules holds).mono
      (fun _ _ kept => kept) fun _ _ kept => kept.1
  unfold makeHealthCheck
  refine (keeps_get _).bind fun modules => ?_
  split
  · exact keeps_pure _ _
  refine (keeps_get _).bind fun modules => ?_
  refine (keeps_modify fun before holds => frame.new _ before holds).bind fun _ => ?_
  have remembers (ref : Nat) : Keeps inv (modify fun modules : Modules =>
      { modules with healthCheckCache := modules.healthCheckCache.set name ref } :
        ModuleM Unit) := keeps_modify fun before holds => (frame.update ref name).cache before _ holds
  dsimp only
  split
  · exact (updates _).bind fun _ => remembers _
  · exact remembers _

theorem ends_makeBalancer {before raised : Modules → Prop} {made : Nat → Modules → Prop}
    {name : String} (gateway : Option Resource) (protocol : String) (backendRef : Value)
    (backendResource : Resource) (named : (nameOf backendResource.data).toKey = name)
    (weaken : ∀ modules, before modules → raised modules)
    (given : ∀ ref modules, made ref modules → raised modules)
    (backend : ∀ modules, before modules →
      Ends (makeBackend store name) modules made fun _ => raised)
    (health : ∀ ref modules, made ref modules →
      Ends (makeHealthCheck engine store name) modules (fun _ => made ref) fun _ => raised)
    (modules : Modules) (holds : before modules) :
    Ends (makeBalancer engine store gateway protocol backendRef backendResource) modules made
      fun _ => raised := by
  unfold makeBalancer
  rw [named]
  dsimp only
  split
  · rw [ends_bind]
    refine (backend modules holds).mono (fun ref after kept => ?_) fun _ _ thrown => thrown
    rw [ends_bind]
    refine (health ref after kept).mono (fun _ checked still => ?_) fun _ _ thrown => thrown
    refine ends_ofExcept_bind (given ref checked still) fun _ _ => ?_
    refine ends_ofExcept_bind (given ref checked still) fun _ _ => ?_
    exact ends_ofExcept_bind (given ref checked still) fun _ _ => still
  · rw [ends_bind]
    refine (backend modules holds).mono (fun ref after kept => ?_) fun _ _ thrown => thrown
    exact ends_ofExcept_bind (given ref after kept) fun _ _ => kept
  · exact backend modules holds
  · rw [ends_bind]
    refine (backend modules holds).mono (fun ref after kept => ?_) fun _ _ thrown => thrown
    rw [ends_bind]
    exact (health ref after kept).mono (fun _ checked still => still) fun _ _ thrown => thrown
  · exact weaken modules holds

/-- What every backend target keeps, a router keeps: `inv` speaks of the targets made so far. -/
theorem ends_makeRouter {inv : List BackendTarget → Modules → Prop} {raised : Modules → Prop}
    (weaken : ∀ made modules, inv made modules → raised modules)
    (target : ∀ made gateway protocol backendRef modules, inv made modules →
      Ends (makeBackendTarget engine store gateway protocol backendRef) modules
        (fun one => inv (made ++ [one])) fun _ => raised)
    (kind : RouteModule) (gateway : Resource) (listener : Value) (routeResources : List Resource)
    (modules : Modules) (holds : inv [] modules) :
    Ends (makeRouter engine store kind gateway listener routeResources) modules
      (fun built after => inv built.targets after ∧ built.listener = listener ∧
        built.routeResources = routeResources) fun _ => raised := by
  unfold makeRouter
  rw [ends_bind]
  have loop : Ends ((buildSteps engine kind gateway routeResources).foldlM
      (buildStep engine store listener) []) modules inv fun _ => raised := by
    refine ends_foldlM (fun made before step _ kept => ?_) [] modules holds
    cases step with
    | check result => exact ends_ofExcept_bind (weaken made before kept) fun _ _ => kept
    | selector call =>
        unfold buildStep makeBackendSelector
        refine ends_ofExcept_bind (weaken made before kept) fun routeProtocol _ => ?_
        refine ends_ofExcept_bind (weaken made before kept) fun ruleProtocol _ => ?_
        refine ends_ofExcept_bind (weaken made before kept) fun refs _ => ?_
        refine ends_foldlM (fun made before ref _ kept => ?_) made before kept
        rw [ends_bind]
        exact target made call.gateway ruleProtocol ref before kept
  exact loop.mono (fun made after kept => ⟨kept, rfl, rfl⟩) fun _ _ thrown => thrown

theorem keeps_makeRouter {inv : Modules → Prop}
    (backend : ∀ name, Keeps inv (makeBackend store name)) (frame : HealthFrame inv)
    (kind : RouteModule) (gateway : Resource) (listener : Value) (routeResources : List Resource)
    (modules : Modules) (holds : inv modules) :
    Ends (makeRouter engine store kind gateway listener routeResources) modules
      (fun built after => inv after ∧ built.listener = listener ∧
        built.routeResources = routeResources) fun _ => inv := by
  refine @ends_makeRouter engine store (fun _ => inv) inv (fun _ _ kept => kept)
    (fun _ gateway protocol backendRef before kept => ?_) kind gateway listener routeResources
    modules holds
  unfold makeBackendTarget
  refine ends_ofExcept_bind kept fun protocol _ => ?_
  split
  · rename_i resource _
    rw [ends_bind]
    exact @ends_makeBalancer engine store inv inv (fun _ => inv) _ gateway protocol backendRef
      resource rfl (fun _ still => still) (fun _ _ still => still)
      (fun before still => backend _ before still)
      (fun _ before still => keeps_makeHealthCheck frame _ before still) before kept
  · exact kept

/-! Which of the routers there are follow their updates. -/

def Modules.routerKind (modules : Modules) (ref : Nat) : Option RouteModule :=
  modules.routers[ref]?.map Router.kind

/-- Requests go through what has been made for the router last. -/
def Modules.FollowsUpdates (modules : Modules) (ref : Nat) : Prop :=
  ∃ kind, modules.routerKind ref = some kind ∧ kind ≠ .tls

theorem Modules.FollowsUpdates.router {modules : Modules} {ref : Nat}
    (follows : modules.FollowsUpdates ref) : ∃ router, modules.routers[ref]? = some router := by
  obtain ⟨kind, there, _⟩ := follows
  obtain ⟨router, here, _⟩ := Option.map_eq_some_iff.mp there
  exact ⟨router, here⟩

theorem Modules.FollowsUpdates.congr {before after : Modules} {ref : Nat}
    (follows : before.FollowsUpdates ref) (same : after.routerKind ref = before.routerKind ref) :
    after.FollowsUpdates ref := by
  rwa [FollowsUpdates, same]

theorem Modules.FollowsUpdates.free {modules : Modules} {ref : Nat} {router : Router}
    (follows : modules.FollowsUpdates ref) (here : modules.routers[ref]? = some router) :
    ¬ router.Fixed := by
  obtain ⟨kind, there, notTls⟩ := follows
  rw [routerKind, here, Option.map_some] at there
  cases there
  exact fun fixed => notTls fixed.1

theorem routerKind_install {modules after : Modules} {ref : Nat} {router : Router}
    (here : modules.routers[ref]? = some router) {built : BuiltRouter}
    (installed : after.routers = modules.routers.set ref (router.install built)) (other : Nat) :
    after.routerKind other = modules.routerKind other := by
  rw [Modules.routerKind, installed, Modules.routerKind]
  by_cases same : ref = other
  · subst same
    obtain ⟨inside, rfl⟩ := List.getElem?_eq_some_iff.mp here
    simp [inside]
  · simp [same]

/-- The routers, and the callbacks under `Route`, are still the same. -/
structure RouteFrame (before after : Modules) : Prop where
  routers : after.routers = before.routers
  routes : ∀ key, after.updaters.registered "Route" key = before.updaters.registered "Route" key

theorem RouteFrame.refl (modules : Modules) : RouteFrame modules modules :=
  ⟨rfl, fun _ => rfl⟩

theorem RouteFrame.routerKind {before after : Modules} (frame : RouteFrame before after)
    (ref : Nat) : after.routerKind ref = before.routerKind ref := by
  rw [Modules.routerKind, frame.routers, Modules.routerKind]

theorem healthFrame_routeFrame (before : Modules) : HealthFrame (RouteFrame before) where
  new _ _ frame := ⟨frame.routers, frame.routes⟩
  update ref name := by
    refine ⟨fun _ _ frame => ⟨frame.routers, frame.routes⟩,
      fun _ _ frame => ⟨frame.routers, frame.routes⟩,
      fun _ frame => ⟨frame.routers, fun key => ?_⟩⟩
    rw [← frame.routes key]
    simp [Modules.watchHealthCheck, Updaters.registered_addUpdater,
      Updaters.registered_setUpdater]

theorem frame_makeBackend (name : String) (before : Modules) :
    Keeps (RouteFrame before) (makeBackend store name) := by
  unfold makeBackend
  refine (keeps_get _).bind fun modules => ?_
  split
  · exact keeps_pure _ _
  refine (keeps_ofExcept _ _).bind fun _ => (keeps_ofExcept _ _).bind fun targets =>
    (keeps_get _).bind fun modules => Keeps.bind ?_ fun _ => Keeps.bind ?_ fun _ => keeps_pure _ _
  · exact keeps_modify fun modules frame => ⟨frame.routers, frame.routes⟩
  · refine keeps_modify fun modules frame => ⟨frame.routers, fun key => ?_⟩
    rw [← frame.routes key]
    simp [Modules.watchBackend, Updaters.registered_addUpdater]

theorem ends_makeRouter_frame (kind : RouteModule) (gateway : Resource) (listener : Value)
    (routeResources : List Resource) (modules : Modules) :
    Ends (makeRouter engine store kind gateway listener routeResources) modules
      (fun built after => RouteFrame modules after ∧ built.listener = listener ∧
        built.routeResources = routeResources) fun _ => RouteFrame modules :=
  keeps_makeRouter (fun name => frame_makeBackend name modules) (healthFrame_routeFrame modules)
    kind gateway listener routeResources modules (RouteFrame.refl modules)

theorem runUpdatersOf_run (call : UpdaterCall) {kind : String} {key : Option String}
    (target : call.target = (kind, key)) (modules : Modules) :
    runUpdatersOf engine call store modules =
      forM (modules.updaters.taken kind key) (runCallback engine store call)
        { modules with updaters := modules.updaters.without kind key } := by
  unfold runUpdatersOf
  rw [target]
  rfl

end Fgw
