import Fgw.GatewayPorts
import Fgw.Library.Projection

/-!
The controller over modules that keep more state than others and otherwise do the same: its
runs are the same too, seen without what the modules keep.
-/

namespace Fgw

variable {M N : Type} {view : M → N}

def World.map (view : M → N) (world : World M) : World N :=
  { world with modules := view world.modules }

/-! What touches no modules. -/

theorem map_addDirtyGateway (name : Value) (world : World M) :
    addDirtyGateway name (world.map view) = (addDirtyGateway name world).map view := by
  rw [addDirtyGateway, addDirtyGateway, apply_ite (World.map view)]
  rfl

theorem map_addDirtyRouter (key : DirtyRouter) (world : World M) :
    addDirtyRouter key (world.map view) = (addDirtyRouter key world).map view := by
  rw [addDirtyRouter, addDirtyRouter, apply_ite (World.map view)]
  rfl

theorem map_addDirtyBackend (name : Value) (world : World M) :
    addDirtyBackend name (world.map view) = (addDirtyBackend name world).map view := by
  rw [addDirtyBackend, addDirtyBackend, apply_ite (World.map view)]
  rfl

theorem map_addDirtyPolicyKey (key : DirtyPolicy) (world : World M) :
    addDirtyPolicyKey key (world.map view) = (addDirtyPolicyKey key world).map view := by
  rw [addDirtyPolicyKey, addDirtyPolicyKey, apply_ite (World.map view)]
  rfl

theorem map_addNames (notification : Notification) {add : Value → World M → World M}
    {plain : Value → World N → World N}
    (same : ∀ name world, plain name (world.map view) = (add name world).map view)
    (world : World M) :
    addNames notification plain (world.map view) = (addNames notification add world).map view := by
  have one (name : Value) (world : World M) :
      addName plain name (world.map view) = (addName add name world).map view := by
    unfold addName
    by_cases named : name.truthy
    · rw [if_pos named, if_pos named, same]
    · rw [if_neg named, if_neg named]
  unfold addNames
  dsimp only
  rw [one, one]

theorem projects_addDirtyRouters (refs : Value) :
    Projects (World.map view) id (addDirtyRouters refs) (addDirtyRouters refs) := by
  unfold addDirtyRouters
  cases refs.array? with
  | none => exact projects_pure _
  | some items =>
      refine projects_forM items fun ref => (projects_ofExcept _).bind fun key => ?_
      exact projects_modify (map_addDirtyRouter key)

theorem projects_addDirtyRoutersByPolicy (refs : Value) :
    Projects (World.map view) id (addDirtyRoutersByPolicy refs) (addDirtyRoutersByPolicy refs) := by
  refine (projects_ofExcept _).bind fun names => projects_get.bind fun world => ?_
  refine projects_forM (allRouteResources world.store) fun route => ?_
  unfold addDirtyRoute
  refine (projects_ofExcept _).bind fun backendNames => ?_
  by_cases dirty : (backendNames.any fun name => names.contains name) = true
  · simp only [id, dirty, if_true]
    exact projects_addDirtyRouters _
  · simp only [id, dirty]
    exact projects_pure _

theorem projects_addDirtyPolicy (policy : Resource) :
    Projects (World.map view) id (addDirtyPolicy policy) (addDirtyPolicy policy) := by
  refine (projects_ofExcept _).bind fun refs => ?_
  cases refs with
  | none => exact projects_pure _
  | some items =>
      refine projects_forM items fun ref => (projects_ofExcept _).bind fun refKind => ?_
      exact projects_modify (map_addDirtyPolicyKey _)

theorem projects_markDirty (notification : Notification) :
    Projects (World.map view) id (markDirty notification) (markDirty notification) := by
  unfold markDirty
  cases roleOf notification.kind with
  | gateway => exact projects_modify (map_addNames notification map_addDirtyGateway)
  | route => exact projects_forM _ fun route => projects_addDirtyRouters _
  | backendPolicy => exact projects_forM _ fun policy => projects_addDirtyRoutersByPolicy _
  | healthCheckPolicy => exact projects_forM _ projects_addDirtyPolicy
  | backend => exact projects_modify (map_addNames notification map_addDirtyBackend)
  | other => exact projects_modify fun _ => rfl

theorem projects_fileChanged (pathname : String) (data : Value) :
    Projects (World.map view) id (fileChanged pathname data) (fileChanged pathname data) :=
  projects_get.bind fun _ => projects_modify_bind (fun _ => rfl) <|
    projects_forM _ fun notification => (projects_markDirty notification).bind fun _ =>
      projects_modify fun _ => rfl

/-! What runs the modules. -/

/-- Every operation of the first runtime is, seen through `view`, that of the second. -/
structure RuntimeProjects (view : M → N) (runtime : Runtime M) (plain : Runtime N) : Prop where
  toNumber : plain.toNumber = runtime.toNumber
  makeRoute : ∀ kind routerKey listener routeResources gateway store, Projects view id
    (runtime.makeRoute kind routerKey listener routeResources gateway store)
    (plain.makeRoute kind routerKey listener routeResources gateway store)
  terminateTLS : ∀ listener store, Projects view id (runtime.terminateTLS listener store)
    (plain.terminateTLS listener store)
  makeFilters : ∀ protocol filters store, Projects view id
    (runtime.makeFilters protocol filters store) (plain.makeFilters protocol filters store)
  runUpdaters : ∀ call store, Projects view id (runtime.runUpdaters call store)
    (plain.runUpdaters call store)

theorem projects_onModules {program : EStateM Thrown M Unit} {plain : EStateM Thrown N Unit}
    (same : Projects view id program plain) :
    Projects (World.map view) id (onModules program) (onModules plain) := by
  intro world
  have seen : (world.map view).modules = view world.modules := rfl
  rw [ends_onModules]
  refine (same world.modules).mono (fun value modules ran => ?_) fun thrown modules ran => ?_
  · rw [onModules, seen, ran]
    rfl
  · rw [onModules, seen, ran]
    rfl

variable {runtime : Runtime M} {plain : Runtime N} {gatewayFilter : GatewayFilter}
  (projects : RuntimeProjects view runtime plain)
include projects

theorem projects_makeListener (gateway : Resource) (listener : Value) :
    Projects (World.map view) id (makeListener runtime gateway listener)
      (makeListener plain gateway listener) := by
  have terminates (termTLS : Bool) (store : Store) : Projects (World.map view) id
      (terminateTLS runtime termTLS listener store) (terminateTLS plain termTLS listener store) := by
    cases termTLS with
    | true => exact projects_onModules (projects.terminateTLS listener store)
    | false => exact projects_pure _
  have filters (wireProto : String) (store : Store) : Projects (World.map view) id
      (makeListenerFilters runtime wireProto listener store)
      (makeListenerFilters plain wireProto listener store) := by
    unfold makeListenerFilters
    by_cases given : (listener.opt "filters").truthy
    · rw [if_pos given, if_pos given]
      exact projects_onModules (projects.makeFilters wireProto _ store)
    · rw [if_neg given, if_neg given]
      exact projects_pure _
  unfold makeListener
  rw [projects.toNumber]
  refine (projects_ofExcept _).bind fun key => (projects_ofExcept _).bind fun made => ?_
  refine projects_get.bind fun world => (projects_ofExcept _).bind fun routeResources => ?_
  refine (projects_ofExcept _).bind fun routerKey => ?_
  refine (projects_onModules (projects.makeRoute _ _ _ _ _ _)).bind fun _ => ?_
  refine (terminates made.2 world.store).bind fun _ => (filters key.protocol world.store).bind
    fun _ => ?_
  exact projects_modify_bind (fun _ => rfl) (projects_pure key)

theorem projects_runUpdaters (call : UpdaterCall) :
    Projects (World.map view) id (runUpdaters runtime call) (runUpdaters plain call) :=
  projects_modify_bind (fun _ => rfl) <| projects_get.bind fun world =>
    projects_onModules (projects.runUpdaters call world.store)

theorem projects_updateRouter (key : DirtyRouter) :
    Projects (World.map view) id (updateRouter runtime gatewayFilter key)
      (updateRouter plain gatewayFilter key) := by
  unfold updateRouter
  rw [projects.toNumber]
  refine projects_get.bind fun world => (projects_ofExcept _).bind fun target => ?_
  cases target with
  | none => exact projects_pure _
  | some call => exact projects_runUpdaters projects call

theorem projects_refreshGateway (dirtyGateways : List Value) (updated : List ListenerKey)
    (gateway : Resource) :
    Projects (World.map view) id (refreshGateway runtime gatewayFilter dirtyGateways updated gateway)
      (refreshGateway plain gatewayFilter dirtyGateways updated gateway) := by
  have refreshes (isUpdated : Bool) (updated : List ListenerKey) (listener : Value) :
      Projects (World.map view) id (refreshListener runtime gateway isUpdated updated listener)
        (refreshListener plain gateway isUpdated updated listener) := by
    refine Projects.tryCatch ?_ fun _ => projects_pure _
    cases isUpdated with
    | true => exact (projects_makeListener projects gateway listener).bind fun _ => projects_pure _
    | false => exact (projects_ofExcept _).bind fun _ => projects_pure _
  unfold refreshGateway
  by_cases named : (nameOf gateway.data).truthy
  · simp only [named]
    refine (projects_ofExcept _).bind fun accepted => ?_
    cases accepted with
    | true =>
        refine (projects_ofExcept _).bind fun listeners => ?_
        exact projects_foldlM listeners (refreshes _) updated
    | false => exact projects_pure _
  · simp only [named]
    exact projects_pure _

theorem projects_updateGateways :
    Projects (World.map view) id (updateGateways runtime gatewayFilter)
      (updateGateways plain gatewayFilter) := by
  refine projects_get.bind fun world => ?_
  by_cases clean : world.dirtyGateways.isEmpty
  · simp only [World.map, clean]
    exact projects_pure _
  · simp only [World.map, clean]
    exact (projects_foldlM _ (projects_refreshGateway projects world.dirtyGateways) []).bind
      fun _ => projects_modify fun _ => rfl

theorem projects_updateDirtyResources :
    Projects (World.map view) id (updateDirtyResources runtime gatewayFilter)
      (updateDirtyResources plain gatewayFilter) := by
  have run (call : UpdaterCall) := projects_runUpdaters projects call
  refine projects_get.bind fun _ => (projects_forM _ fun _ => run _).bind fun _ => ?_
  refine projects_get.bind fun _ =>
    (projects_forM _ (projects_updateRouter projects)).bind fun _ => ?_
  refine projects_get.bind fun _ => (projects_forM _ fun _ => run _).bind fun _ => ?_
  refine (projects_updateGateways projects).bind fun _ => ?_
  refine projects_get.bind fun _ => (projects_forM _ fun _ => run _).bind fun _ => ?_
  exact projects_modify fun _ => rfl

/-! Runs. -/

theorem map_run (events : List GatewayEvent) (world : World M) :
    (events.foldl (GatewayEvent.step runtime gatewayFilter) world).map view =
      events.foldl (GatewayEvent.step plain gatewayFilter) (world.map view) := by
  symm
  refine List.foldl_hom (World.map view) fun world event => ?_
  cases event with
  | change pathname data => exact ((projects_fileChanged pathname data).stateAfter world).symm
  | flush => exact ((projects_updateDirtyResources projects).stateAfter world).symm

omit projects

/-- Every operation of the runtime keeps the invariant of its modules. -/
structure RuntimeKeeps (inv : M → Prop) (runtime : Runtime M) : Prop where
  makeRoute : ∀ kind routerKey listener routeResources gateway store,
    Keeps inv (runtime.makeRoute kind routerKey listener routeResources gateway store)
  terminateTLS : ∀ listener store, Keeps inv (runtime.terminateTLS listener store)
  makeFilters : ∀ protocol filters store, Keeps inv (runtime.makeFilters protocol filters store)
  runUpdaters : ∀ call store, Keeps inv (runtime.runUpdaters call store)

variable {inv : M → Prop}

def restrictRuntime (keeps : RuntimeKeeps inv runtime) : Runtime {modules // inv modules} where
  toNumber := runtime.toNumber
  makeRoute kind routerKey listener routeResources gateway store :=
    restrict (keeps.makeRoute kind routerKey listener routeResources gateway store)
  terminateTLS listener store := restrict (keeps.terminateTLS listener store)
  makeFilters protocol filters store := restrict (keeps.makeFilters protocol filters store)
  runUpdaters call store := restrict (keeps.runUpdaters call store)

theorem restrictRuntime_projects (keeps : RuntimeKeeps inv runtime) :
    RuntimeProjects Subtype.val (restrictRuntime keeps) runtime where
  toNumber := rfl
  makeRoute kind routerKey listener routeResources gateway store :=
    projects_restrict (keeps.makeRoute kind routerKey listener routeResources gateway store)
  terminateTLS listener store := projects_restrict (keeps.terminateTLS listener store)
  makeFilters protocol filters store := projects_restrict (keeps.makeFilters protocol filters store)
  runUpdaters call store := projects_restrict (keeps.runUpdaters call store)

/-- What the operations keep holds of the modules in every state of every run. -/
theorem run_keeps (keeps : RuntimeKeeps inv runtime) (world : World M)
    (holds : inv world.modules) (events : List GatewayEvent) :
    inv (events.foldl (GatewayEvent.step runtime gatewayFilter) world).modules := by
  let restricted : World {modules // inv modules} :=
    { world with modules := ⟨world.modules, holds⟩ }
  have same : world = restricted.map Subtype.val := rfl
  rw [same, ← map_run (restrictRuntime_projects keeps)]
  exact Subtype.property _

end Fgw
