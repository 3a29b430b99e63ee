import Fgw.GatewayCore
import Fgw.Library.Runs
import Fgw.ResourcesReload

/-!
Who serves the open ports.  A flush rebuilds the listeners of changed gateways, and keeps a
port open for as long as any gateway declares it, whoever its pipeline was built for.
-/

namespace Fgw

variable {M : Type}

/-- What `makeListener` has been called with for an open port. -/
structure BuiltFor (gatewayFilter : GatewayFilter) (key : ListenerKey) (pipeline : Pipeline) :
    Prop where
  named : (nameOf pipeline.gateway.data).truthy = true
  accepted : gatewayFilter (some pipeline.gateway) = .ok true
  listener : pipeline.listener ∈ listenersOf pipeline.gateway
  key : makeListenerKey pipeline.listener = .ok key

/-- Every open port is served for a listener of a gateway that is in the store and accepted. -/
def Served (gatewayFilter : GatewayFilter) (world : World M) : Prop :=
  ∀ key pipeline, world.ports key = some pipeline →
    pipeline.gateway ∈ world.store.list "Gateway" ∧ BuiltFor gatewayFilter key pipeline

/-- A listener that the gateway phase of a flush comes to. -/
structure Visit where
  gateway : Resource
  isUpdated : Bool
  listener : Value

def visitsOf (gatewayFilter : GatewayFilter) (dirtyGateways : List Value) (gateway : Resource) :
    List Visit :=
  match (nameOf gateway.data).truthy, gatewayFilter (some gateway) with
  | true, .ok true => (listenersOf gateway).map fun listener =>
      ⟨gateway, dirtyGateways.any (nameOf gateway.data).strictEq, listener⟩
  | _, _ => []

def visits (gatewayFilter : GatewayFilter) (world : World M) : List Visit :=
  (world.store.list "Gateway").flatMap (visitsOf gatewayFilter world.dirtyGateways)

/-- The listener of a changed gateway is built for the key without a throw. -/
def Builds (runtime : Runtime M) (key : ListenerKey) (visit : Visit) (world : World M) : Prop :=
  visit.isUpdated = true ∧
    ∃ after, makeListener runtime visit.gateway visit.listener world = .ok key after

def afterVisit (runtime : Runtime M) (visit : Visit) (world : World M) : World M :=
  if visit.isUpdated then stateAfter (makeListener runtime visit.gateway visit.listener) world
  else world

/-- A changed gateway declares the key and builds its listener when its turn comes. -/
def Rebuilds (runtime : Runtime M) (key : ListenerKey) : List Visit → World M → Prop
  | [], _ => False
  | visit :: rest, world =>
      Builds runtime key visit world ∨ Rebuilds runtime key rest (afterVisit runtime visit world)

/-- A gateway that has not changed declares the key. -/
def Kept (key : ListenerKey) (visits : List Visit) : Prop :=
  ∃ visit ∈ visits, visit.isUpdated = false ∧ makeListenerKey visit.listener = .ok key

/-- No port is left to a gateway that is gone: a changed gateway takes the port over, or no
gateway that has not changed declares it and the controller knows it is open. -/
def HandsOver (runtime : Runtime M) (gatewayFilter : GatewayFilter) (world : World M) : Prop :=
  ∀ key pipeline, world.ports key = some pipeline →
    pipeline.gateway ∉ world.store.list "Gateway" →
      Rebuilds runtime key (visits gatewayFilter world) world ∨
        (key ∈ world.currentListeners ∧ ¬ Kept key (visits gatewayFilter world))

/-! The events of a run: changed gateway files, and flushes. -/

inductive GatewayEvent
  | change (pathname : String) (data : Value)
  | flush

namespace GatewayEvent

def step (runtime : Runtime M) (gatewayFilter : GatewayFilter) (world : World M) :
    GatewayEvent → World M
  | change pathname data => stateAfter (fileChanged pathname data) world
  | flush => stateAfter (updateDirtyResources runtime gatewayFilter) world

/-- A file that holds a resource of the kind, before and after; either may be missing. -/
def OnKind (kind : String) (world : World M) : GatewayEvent → Prop
  | change pathname data => (data.truthy = true → kindOf data = .str kind) ∧
      ∀ old, world.store.files.get? pathname = some old → kindOf old.data = .str kind
  | flush => True

/-- After a completed flush the open ports are served. -/
def LeavesServed (runtime : Runtime M) (gatewayFilter : GatewayFilter) (world : World M)
    (event : GatewayEvent) : Prop :=
  event = .flush → Returns (updateDirtyResources runtime gatewayFilter) world →
    Served gatewayFilter (event.step runtime gatewayFilter world)

def MeetsHandsOver (runtime : Runtime M) (gatewayFilter : GatewayFilter) (world : World M)
    (event : GatewayEvent) : Prop :=
  event = .flush → Returns (updateDirtyResources runtime gatewayFilter) world →
    HandsOver runtime gatewayFilter world

end GatewayEvent

/-- Nothing but gateways is dirty. -/
structure Clean (world : World M) : Prop where
  backends : world.dirtyBackends = []
  routers : world.dirtyRouters = []
  policies : world.dirtyPolicies = []
  resources : world.dirtyResources = []

theorem Clean.congr {world after : World M} (clean : Clean world)
    (backends : after.dirtyBackends = world.dirtyBackends)
    (routers : after.dirtyRouters = world.dirtyRouters)
    (policies : after.dirtyPolicies = world.dirtyPolicies)
    (resources : after.dirtyResources = world.dirtyResources) : Clean after where
  backends := backends.trans clean.backends
  routers := routers.trans clean.routers
  policies := policies.trans clean.policies
  resources := resources.trans clean.resources

/-- The invariant of a run: a pipeline whose gateway is gone waits for the next flush. -/
structure Owned (gatewayFilter : GatewayFilter) (world : World M) : Prop where
  tracks : Tracks world.store
  clean : Clean world
  built : ∀ key pipeline, world.ports key = some pipeline → BuiltFor gatewayFilter key pipeline
  told : ∀ key pipeline, world.ports key = some pipeline →
    pipeline.gateway ∈ world.store.list "Gateway" ∨ world.dirtyGateways ≠ []

/-! What building a listener does. -/

variable {runtime : Runtime M} {gatewayFilter : GatewayFilter}

/-- The program changes nothing but the modules. -/
def OnlyModules {α : Type} (program : EStateM Thrown (World M) α) : Prop :=
  ∀ world, Ends program world (fun _ after => ∃ modules, after = { world with modules := modules })
    (fun _ after => ∃ modules, after = { world with modules := modules })

theorem onlyModules_onModules (program : EStateM Thrown M Unit) :
    OnlyModules (onModules program) := by
  intro world
  rw [ends_onModules]
  exact (ends_iff_stateAfter _ _ _).mpr ⟨_, rfl⟩

theorem onlyModules_optional (wanted : Prop) [Decidable wanted] (program : EStateM Thrown M Unit) :
    OnlyModules (if wanted then onModules program else pure ()) := by
  split
  · exact onlyModules_onModules program
  · exact fun world => ⟨world.modules, rfl⟩

theorem ends_makeListener (gateway : Resource) (listener : Value) (world : World M) :
    Ends (makeListener runtime gateway listener) world
      (fun key after => makeListenerKey listener = .ok key ∧ ∃ modules,
        after = listen key (some ⟨gateway, listener⟩) { world with modules := modules })
      (fun _ after => ∃ modules, after = { world with modules := modules }) := by
  unfold makeListener terminateTLS makeListenerFilters
  rw [ends_bind, ends_ofExcept]
  cases keyed : makeListenerKey listener with
  | error thrown => exact ⟨world.modules, rfl⟩
  | ok key =>
  dsimp only
  rw [ends_bind, ends_ofExcept]
  cases routeModule listener with
  | error thrown => exact ⟨world.modules, rfl⟩
  | ok target =>
  dsimp only
  rw [ends_bind, ends_get, ends_bind, ends_ofExcept]
  cases findRouteResources runtime.toNumber world.store gateway.data listener with
  | error thrown => exact ⟨world.modules, rfl⟩
  | ok routes =>
  dsimp only
  rw [ends_bind, ends_ofExcept]
  cases makeRouterKey gateway.data key with
  | error thrown => exact ⟨world.modules, rfl⟩
  | ok routerKey =>
  dsimp only
  simp only [ends_bind]
  refine (onlyModules_onModules _ world).mono ?_ fun _ _ kept => kept
  rintro _ _ ⟨routed, rfl⟩
  refine (onlyModules_optional _ _ _).mono ?_ fun _ _ kept => kept
  rintro _ _ ⟨secured, rfl⟩
  refine (onlyModules_optional _ _ _).mono ?_ fun _ _ kept => kept
  rintro _ _ ⟨filtered, rfl⟩
  exact ⟨rfl, filtered, rfl⟩

theorem makeListener_cases (gateway : Resource) (listener : Value) (world : World M) :
    (∃ key modules, makeListenerKey listener = .ok key ∧
      makeListener runtime gateway listener world =
        .ok key (listen key (some ⟨gateway, listener⟩) { world with modules := modules })) ∨
      ∃ thrown modules, makeListener runtime gateway listener world =
        .error thrown { world with modules := modules } := by
  have ends := @ends_makeListener M runtime gateway listener world
  rw [Ends] at ends
  cases ran : makeListener runtime gateway listener world with
  | ok key after =>
      rw [ran] at ends
      obtain ⟨keyed, modules, rfl⟩ := ends
      exact Or.inl ⟨key, modules, keyed, rfl⟩
  | error thrown after =>
      rw [ran] at ends
      obtain ⟨modules, rfl⟩ := ends
      exact Or.inr ⟨thrown, modules, rfl⟩

/-! The gateway phase as one loop over its visits. -/

def visitListener (runtime : Runtime M) (updated : List ListenerKey) (visit : Visit) :
    EStateM Thrown (World M) (List ListenerKey) :=
  refreshListener runtime visit.gateway visit.isUpdated updated visit.listener

theorem listenersOf_eq {gateway : Resource} {listeners : List Value}
    (read : (do (← (← gateway.data.get "spec").get "listeners").items "forEach") =
      (.ok listeners : Except Thrown (List Value))) : listenersOf gateway = listeners := by
  obtain ⟨spec, specRead, read⟩ := (bind_eq_ok _ _ _).mp read
  obtain ⟨field, fieldRead, read⟩ := (bind_eq_ok _ _ _).mp read
  have same {value found : Value} {name : String} (got : value.get name = .ok found) :
      value.opt name = found := by
    unfold Value.get at got
    split at got
    · cases got
    · cases got
      rfl
  rw [listenersOf, same specRead, same fieldRead]
  cases field <;> cases read
  rfl

theorem refreshGateway_cases (dirtyGateways : List Value) (updated : List ListenerKey)
    (gateway : Resource) :
    (∃ thrown, ∀ world : World M, refreshGateway runtime gatewayFilter dirtyGateways updated
      gateway world = .error thrown world) ∨
    refreshGateway runtime gatewayFilter dirtyGateways updated gateway =
      (visitsOf gatewayFilter dirtyGateways gateway).foldlM (visitListener runtime) updated := by
  unfold refreshGateway visitsOf
  dsimp only
  by_cases named : (nameOf gateway.data).truthy = true
  · cases accepted : gatewayFilter (some gateway) with
    | error thrown => exact Or.inl ⟨thrown, fun _ => by simp [named]; rfl⟩
    | ok passed =>
        cases passed with
        | false =>
            refine Or.inr ?_
            simp only [named]
            rfl
        | true =>
            cases read : (do (← (← gateway.data.get "spec").get "listeners").items "forEach" :
                Except Thrown (List Value)) with
            | error thrown => exact Or.inl ⟨thrown, fun _ => by simp [named]; rfl⟩
            | ok listeners =>
                refine Or.inr ?_
                rw [listenersOf_eq read]
                simp only [named, List.foldlM_map]
                rfl
  · rw [Bool.not_eq_true] at named
    refine Or.inr ?_
    simp only [named]
    rfl

theorem gateways_visits (dirtyGateways : List Value) (gateways : List Resource)
    (updated reached : List ListenerKey) (world after : World M)
    (ran : gateways.foldlM (refreshGateway runtime gatewayFilter dirtyGateways) updated world =
      .ok reached after) :
    (gateways.flatMap (visitsOf gatewayFilter dirtyGateways)).foldlM (visitListener runtime)
      updated world = .ok reached after := by
  induction gateways generalizing updated world with
  | nil => exact ran
  | cons gateway rest ih =>
      rw [List.foldlM_cons] at ran
      rw [List.flatMap_cons, List.foldlM_append]
      rcases @refreshGateway_cases M runtime gatewayFilter dirtyGateways updated gateway with
        ⟨thrown, aborts⟩ | visited
      · rw [run_bind_error (aborts world)] at ran
        cases ran
      · rw [visited] at ran
        cases front : (visitsOf gatewayFilter dirtyGateways gateway).foldlM (visitListener runtime)
            updated world with
        | error thrown middle =>
            rw [run_bind_error front] at ran
            cases ran
        | ok keys middle =>
            rw [run_bind_ok front] at ran ⊢
            exact ih keys middle ran

/-- What the loop over some visits has done. -/
structure Refreshed (runtime : Runtime M) (visits : List Visit) (updated reached : List ListenerKey)
    (world after : World M) : Prop where
  frame : ∃ modules ports, after = { world with modules := modules, ports := ports }
  keys : ∀ key, key ∈ reached ↔ key ∈ updated ∨ Rebuilds runtime key visits world ∨ Kept key visits
  rebuilt : ∀ key, Rebuilds runtime key visits world → ∃ visit ∈ visits,
    makeListenerKey visit.listener = .ok key ∧
      after.ports key = some ⟨visit.gateway, visit.listener⟩
  untouched : ∀ key, ¬ Rebuilds runtime key visits world → after.ports key = world.ports key

theorem mem_addKey (keys : List ListenerKey) (key other : ListenerKey) :
    other ∈ addKey keys key ↔ other ∈ keys ∨ other = key := by
  unfold addKey
  split
  · rename_i present
    constructor
    · exact Or.inl
    · rintro (old | rfl)
      · exact old
      · exact present
  · simp

structure Visited (runtime : Runtime M) (visit : Visit) (updated reached : List ListenerKey)
    (world : World M) : Prop where
  ran : visitListener runtime updated visit world = .ok reached (afterVisit runtime visit world)
  frame : ∃ modules ports,
    afterVisit runtime visit world = { world with modules := modules, ports := ports }
  keys : ∀ key, key ∈ reached ↔ key ∈ updated ∨ Builds runtime key visit world ∨
    (visit.isUpdated = false ∧ makeListenerKey visit.listener = .ok key)
  built : ∀ key, Builds runtime key visit world → makeListenerKey visit.listener = .ok key ∧
    (afterVisit runtime visit world).ports key = some ⟨visit.gateway, visit.listener⟩
  untouched : ∀ key, ¬ Builds runtime key visit world →
    (afterVisit runtime visit world).ports key = world.ports key

theorem visited (visit : Visit) (updated : List ListenerKey) (world : World M) :
    ∃ reached, Visited runtime visit updated reached world := by
  by_cases changed : visit.isUpdated = true
  · rcases @makeListener_cases M runtime visit.gateway visit.listener world with
      ⟨key, modules, keyed, built⟩ | ⟨thrown, modules, failed⟩
    · have after : afterVisit runtime visit world =
          listen key (some ⟨visit.gateway, visit.listener⟩)
            { world with modules := modules } := by
        simp [afterVisit, changed, stateAfter, built]
      have builds (other : ListenerKey) : Builds runtime other visit world ↔ key = other := by
        simp [Builds, changed, built]
      refine ⟨addKey updated key, ?_, ⟨modules, _, by rw [after, listen]⟩, ?_, ?_, ?_⟩
      · rw [after]
        refine run_tryCatch_ok ?_ _
        rw [changed, if_pos rfl, run_bind_ok built]
        rfl
      · simp [mem_addKey, builds, changed, eq_comm]
      · intro other made
        rw [builds] at made
        subst other
        exact ⟨keyed, by simp [after, listen]⟩
      · intro other different
        rw [builds] at different
        simp [after, listen, Function.update, Ne.symm different]
    · have after : afterVisit runtime visit world = { world with modules := modules } := by
        simp [afterVisit, changed, stateAfter, failed]
      have builds (other : ListenerKey) : ¬ Builds runtime other visit world := by
        simp [Builds, failed]
      refine ⟨updated, ?_, ⟨modules, _, after⟩, ?_, ?_, ?_⟩
      · rw [after]
        rw [visitListener, refreshListener, changed, if_pos rfl]
        exact run_tryCatch_error (run_bind_error failed _) _
      · simp [builds, changed]
      · exact fun other made => (builds other made).elim
      · exact fun other _ => by rw [after]
  · have after : afterVisit runtime visit world = world := by simp [afterVisit, changed]
    have builds (other : ListenerKey) : ¬ Builds runtime other visit world := by
      simp [Builds, changed]
    rw [Bool.not_eq_true] at changed
    cases keyed : makeListenerKey visit.listener with
    | ok key =>
        refine ⟨addKey updated key, ?_, ⟨world.modules, world.ports, after⟩, ?_, ?_, ?_⟩
        · rw [after]
          simp only [visitListener, refreshListener, changed, keyed]
          rfl
        · simp [mem_addKey, builds, changed, keyed, eq_comm]
        · exact fun other made => (builds other made).elim
        · exact fun other _ => by rw [after]
    | error thrown =>
        refine ⟨updated, ?_, ⟨world.modules, world.ports, after⟩, ?_, ?_, ?_⟩
        · rw [after]
          simp only [visitListener, refreshListener, changed, keyed]
          rfl
        · simp [builds, keyed]
        · exact fun other made => (builds other made).elim
        · exact fun other _ => by rw [after]

theorem kept_cons (key : ListenerKey) (visit : Visit) (rest : List Visit) :
    Kept key (visit :: rest) ↔
      (visit.isUpdated = false ∧ makeListenerKey visit.listener = .ok key) ∨ Kept key rest := by
  simp [Kept]

theorem refreshed_visits (visits : List Visit) (updated : List ListenerKey) (world : World M) :
    ∃ reached after, visits.foldlM (visitListener runtime) updated world = .ok reached after ∧
      Refreshed runtime visits updated reached world after := by
  induction visits generalizing updated world with
  | nil =>
      refine ⟨updated, world, rfl, ⟨world.modules, world.ports, rfl⟩, fun key => ?_, ?_, ?_⟩
      · simp [Rebuilds, Kept]
      · exact fun key impossible => impossible.elim
      · exact fun _ _ => rfl
  | cons visit rest ih =>
      obtain ⟨keys, first⟩ := @visited M runtime visit updated world
      obtain ⟨reached, after, ran, later⟩ := ih keys (afterVisit runtime visit world)
      refine ⟨reached, after, ?_, ?_, fun key => ?_, fun key rebuilt => ?_, fun key skipped => ?_⟩
      · rw [List.foldlM_cons, run_bind_ok first.ran, ran]
      · obtain ⟨modules, ports, moved⟩ := first.frame
        obtain ⟨modules', ports', same⟩ := later.frame
        exact ⟨modules', ports', by rw [same, moved]⟩
      · rw [later.keys, first.keys, kept_cons, Rebuilds]
        tauto
      · by_cases again : Rebuilds runtime key rest (afterVisit runtime visit world)
        · obtain ⟨other, member, found⟩ := later.rebuilt key again
          exact ⟨other, List.mem_cons_of_mem visit member, found⟩
        · have built := first.built key (rebuilt.resolve_right again)
          exact ⟨visit, List.mem_cons_self, built.1, (later.untouched key again).trans built.2⟩
      · rw [Rebuilds, not_or] at skipped
        rw [later.untouched key skipped.2, first.untouched key skipped.1]

/-! The invariant over the controller's loops. -/

theorem Owned.onModules {world : World M} (owned : Owned gatewayFilter world) (modules : M) :
    Owned gatewayFilter { world with modules := modules } :=
  ⟨owned.tracks, owned.clean.congr rfl rfl rfl rfl, owned.built, owned.told⟩

theorem ports_listen (key other : ListenerKey) (pipeline : Option Pipeline) (world : World M) :
    (listen key pipeline world).ports other =
      if other = key then pipeline else world.ports other := by
  simp [listen, Function.update_apply]

theorem Owned.listen {world : World M} (owned : Owned gatewayFilter world) {key : ListenerKey}
    {pipeline : Pipeline} (live : pipeline.gateway ∈ world.store.list "Gateway")
    (built : BuiltFor gatewayFilter key pipeline) :
    Owned gatewayFilter (listen key (some pipeline) world) := by
  refine ⟨owned.tracks, owned.clean.congr rfl rfl rfl rfl, fun other installed isOpen => ?_,
    fun other installed isOpen => ?_⟩
  · rw [ports_listen] at isOpen
    by_cases same : other = key
    · rw [if_pos same, Option.some.injEq] at isOpen
      rw [same, ← isOpen]
      exact built
    · rw [if_neg same] at isOpen
      exact owned.built other installed isOpen
  · rw [ports_listen] at isOpen
    by_cases same : other = key
    · rw [if_pos same, Option.some.injEq] at isOpen
      rw [← isOpen]
      exact Or.inl live
    · rw [if_neg same] at isOpen
      exact owned.told other installed isOpen

def OwnedIn (gatewayFilter : GatewayFilter) (store : Store) (world : World M) : Prop :=
  Owned gatewayFilter world ∧ world.store = store

theorem keeps_makeListener_owned {store : Store} {gateway : Resource} {listener : Value}
    (live : gateway ∈ store.list "Gateway") (named : (nameOf gateway.data).truthy = true)
    (accepted : gatewayFilter (some gateway) = .ok true)
    (declared : listener ∈ listenersOf gateway) :
    Keeps (OwnedIn gatewayFilter store) (makeListener runtime gateway listener) := by
  rintro world ⟨owned, rfl⟩
  rcases @makeListener_cases M runtime gateway listener world with
    ⟨key, modules, keyed, built⟩ | ⟨thrown, modules, failed⟩
  · rw [Ends, built]
    exact ⟨(owned.onModules modules).listen live ⟨named, accepted, declared, keyed⟩, rfl⟩
  · rw [Ends, failed]
    exact ⟨owned.onModules modules, rfl⟩

theorem keeps_startGateway_owned {store : Store} {gateway : Resource}
    (live : gateway ∈ store.list "Gateway") (named : (nameOf gateway.data).truthy = true)
    (accepted : gatewayFilter (some gateway) = .ok true) :
    Keeps (OwnedIn gatewayFilter store) (startGateway (M := M) runtime gateway) := by
  unfold startGateway
  refine keeps_ofExcept_bind fun listeners read => keeps_forM fun listener member => ?_
  rw [← listenersOf_eq read] at member
  refine Keeps.tryCatch ?_ fun _ => keeps_pure _ _
  refine (keeps_makeListener_owned live named accepted member).bind fun key =>
    keeps_modify fun world owned => ?_
  exact ⟨⟨owned.1.tracks, owned.1.clean.congr rfl rfl rfl rfl, owned.1.built, owned.1.told⟩,
    owned.2⟩

theorem owned_startGateways {world : World M} (owned : Owned gatewayFilter world) :
    Owned gatewayFilter (stateAfter (startGateways runtime gatewayFilter) world) := by
  have loop : Keeps (OwnedIn gatewayFilter world.store)
      (forM (world.store.list "Gateway") fun gateway => (do
        if !(nameOf gateway.data).truthy then return
        if !(← MonadExcept.ofExcept (gatewayFilter (some gateway))) then return
        startGateway runtime gateway : EStateM Thrown (World M) Unit)) := by
    refine keeps_forM fun gateway live => ?_
    split
    · exact keeps_pure _ _
    rename_i named
    refine keeps_ofExcept_bind fun passed filtered => ?_
    cases passed with
    | false => exact keeps_pure _ _
    | true => exact keeps_startGateway_owned live (by simpa using named) filtered
  exact ((keeps_iff_stateAfter _ _).mp loop world ⟨owned, rfl⟩).1

theorem mem_visitsOf {dirtyGateways : List Value} {gateway : Resource} {visit : Visit}
    (member : visit ∈ visitsOf gatewayFilter dirtyGateways gateway) :
    visit.gateway = gateway ∧ (nameOf gateway.data).truthy = true ∧
      gatewayFilter (some gateway) = .ok true ∧ visit.listener ∈ listenersOf gateway := by
  unfold visitsOf at member
  split at member
  · rename_i named accepted
    obtain ⟨listener, declared, rfl⟩ := List.mem_map.mp member
    exact ⟨rfl, named, accepted, declared⟩
  · cases member

theorem keeps_refreshGateway_owned {store : Store} {gateway : Resource}
    (live : gateway ∈ store.list "Gateway") (dirtyGateways : List Value)
    (updated : List ListenerKey) : Keeps (OwnedIn gatewayFilter store)
      (refreshGateway runtime gatewayFilter dirtyGateways updated gateway) := by
  rcases @refreshGateway_cases M runtime gatewayFilter dirtyGateways updated gateway with
    ⟨thrown, aborts⟩ | visited
  · intro world owned
    rw [Ends, aborts]
    exact owned
  · rw [visited]
    refine keeps_foldlM (fun keys visit member => ?_) _
    obtain ⟨same, named, accepted, declared⟩ := mem_visitsOf member
    unfold visitListener refreshListener
    refine Keeps.tryCatch ?_ fun _ => keeps_pure _ _
    dsimp only
    rw [same]
    split
    · exact (keeps_makeListener_owned live named accepted declared).bind fun _ => keeps_pure _ _
    · exact (keeps_ofExcept _ _).bind fun _ => keeps_pure _ _

/-! One flush. -/

theorem updateGateways_cases {world : World M} (owned : Owned gatewayFilter world) :
    (world.dirtyGateways = [] ∧ updateGateways runtime gatewayFilter world = .ok () world) ∨
    (∃ thrown after, updateGateways runtime gatewayFilter world = .error thrown after ∧
      Owned gatewayFilter after) ∨
    ∃ reached after, updateGateways runtime gatewayFilter world =
      .ok () (closePorts reached after) ∧
      Refreshed runtime (visits gatewayFilter world) [] reached world after := by
  have unfolded : updateGateways runtime gatewayFilter world =
      (if world.dirtyGateways.isEmpty then pure ()
      else (world.store.list "Gateway").foldlM
        (refreshGateway runtime gatewayFilter world.dirtyGateways) [] >>= fun updated =>
          modify (closePorts updated) : EStateM Thrown (World M) Unit) world := rfl
  rw [unfolded]
  by_cases idle : world.dirtyGateways = []
  · exact Or.inl ⟨idle, by rw [idle]; rfl⟩
  rw [if_neg (by simpa using idle)]
  have kept : Keeps (OwnedIn gatewayFilter world.store) ((world.store.list "Gateway").foldlM
      (refreshGateway runtime gatewayFilter world.dirtyGateways) []) :=
    keeps_foldlM (fun updated gateway live =>
      keeps_refreshGateway_owned live world.dirtyGateways updated) []
  have still := (keeps_iff_stateAfter _ _).mp kept world ⟨owned, rfl⟩
  cases ran : (world.store.list "Gateway").foldlM
      (refreshGateway runtime gatewayFilter world.dirtyGateways) [] world with
  | error thrown after =>
      rw [stateAfter, ran] at still
      exact Or.inr (Or.inl ⟨thrown, after, run_bind_error ran _, still.1⟩)
  | ok updated after =>
      obtain ⟨reached, settled, looped, refreshed⟩ :=
        @refreshed_visits M runtime (visits gatewayFilter world) [] world
      cases (gateways_visits _ _ _ _ _ _ ran).symm.trans looped
      exact Or.inr (Or.inr ⟨updated, after, run_bind_ok ran _, refreshed⟩)

theorem flush_eq {world : World M} (owned : Owned gatewayFilter world) :
    updateDirtyResources runtime gatewayFilter world =
      match updateGateways runtime gatewayFilter world with
      | .ok _ after => .ok () (clearDirty after)
      | .error thrown after => .error thrown after := by
  have unfolded : updateDirtyResources runtime gatewayFilter world =
      (updateGateways runtime gatewayFilter >>= fun _ => do
        forM (← get).dirtyResources fun change =>
          runUpdaters runtime (.resource change.kind change.newResource change.oldResource)
        modify clearDirty) world := by
    rw [updateDirtyResources, run_get_bind, owned.clean.backends, List.forM_nil, run_pure_bind,
      run_get_bind, owned.clean.routers, List.forM_nil, run_pure_bind, run_get_bind,
      owned.clean.policies, List.forM_nil, run_pure_bind]
  rw [unfolded]
  have last {after : World M} (settled : after.dirtyResources = []) :
      (do
        forM (← get).dirtyResources fun change =>
          runUpdaters runtime (.resource change.kind change.newResource change.oldResource)
        modify clearDirty : EStateM Thrown (World M) Unit) after = .ok () (clearDirty after) := by
    rw [run_get_bind, settled, List.forM_nil, run_pure_bind]
    rfl
  rcases @updateGateways_cases M runtime gatewayFilter world owned with
    ⟨_, ran⟩ | ⟨thrown, after, ran, _⟩ | ⟨reached, after, ran, refreshed⟩
  · rw [run_bind_ok ran, ran, last owned.clean.resources]
  · rw [run_bind_error ran, ran]
  · rw [run_bind_ok ran, ran]
    apply last
    obtain ⟨modules, ports, rfl⟩ := refreshed.frame
    exact owned.clean.resources

theorem served_iff_handsOver {world after : World M} {reached : List ListenerKey}
    (owned : Owned gatewayFilter world)
    (refreshed : Refreshed runtime (visits gatewayFilter world) [] reached world after) :
    Served gatewayFilter (clearDirty (closePorts reached after)) ↔
      HandsOver runtime gatewayFilter world := by
  obtain ⟨modules, ports, same⟩ := refreshed.frame
  have store : (clearDirty (closePorts reached after)).store = world.store := by
    rw [same]
    rfl
  have closed (key : ListenerKey) : (clearDirty (closePorts reached after)).ports key =
      if key ∈ world.currentListeners ∧ key ∉ reached then none else after.ports key := by
    rw [same]
    rfl
  unfold Served HandsOver
  rw [store]
  simp only [closed]
  constructor
  · intro served key pipeline isOpen gone
    by_contra lost
    rw [not_or, not_and_not_right] at lost
    obtain ⟨passed, declared⟩ := lost
    have still : after.ports key = some pipeline := by
      rw [refreshed.untouched key passed, isOpen]
    have held : ¬ (key ∈ world.currentListeners ∧ key ∉ reached) := by
      rintro ⟨current, missing⟩
      exact missing ((refreshed.keys key).mpr (Or.inr (Or.inr (declared current))))
    exact gone (served key pipeline (by rw [if_neg held, still])).1
  · intro handsOver key pipeline isOpen
    split at isOpen
    · cases isOpen
    rename_i held
    by_cases rebuilt : Rebuilds runtime key (visits gatewayFilter world) world
    · obtain ⟨visit, member, keyed, installed⟩ := refreshed.rebuilt key rebuilt
      rw [installed, Option.some.injEq] at isOpen
      subst isOpen
      obtain ⟨gateway, live, visited⟩ := List.mem_flatMap.mp member
      obtain ⟨rfl, named, accepted, declared⟩ := mem_visitsOf visited
      exact ⟨live, named, accepted, declared, keyed⟩
    · rw [refreshed.untouched key rebuilt] at isOpen
      refine ⟨?_, owned.built key pipeline isOpen⟩
      by_contra gone
      rcases handsOver key pipeline isOpen gone with impossible | ⟨current, free⟩
      · exact rebuilt impossible
      · refine held ⟨current, fun present => ?_⟩
        rcases (refreshed.keys key).mp present with none | again | kept
        · cases none
        · exact rebuilt again
        · exact free kept

theorem flush_served_iff {world : World M} (owned : Owned gatewayFilter world)
    (completed : Returns (updateDirtyResources runtime gatewayFilter) world) :
    Served gatewayFilter (stateAfter (updateDirtyResources runtime gatewayFilter) world) ↔
      HandsOver runtime gatewayFilter world := by
  rw [returns_iff, flush_eq owned] at completed
  rw [stateAfter, flush_eq owned]
  rcases @updateGateways_cases M runtime gatewayFilter world owned with
    ⟨idle, ran⟩ | ⟨thrown, after, ran, _⟩ | ⟨reached, after, ran, refreshed⟩
  · rw [ran]
    have live : ∀ key pipeline, world.ports key = some pipeline →
        pipeline.gateway ∈ world.store.list "Gateway" :=
      fun key pipeline isOpen => (owned.told key pipeline isOpen).resolve_right (by simp [idle])
    exact iff_of_true
      (fun key pipeline isOpen => ⟨live key pipeline isOpen, owned.built key pipeline isOpen⟩)
      (fun key pipeline isOpen gone => (gone (live key pipeline isOpen)).elim)
  · rw [ran] at completed
    obtain ⟨_, _, impossible⟩ := completed
    cases impossible
  · rw [ran]
    exact served_iff_handsOver owned refreshed

theorem Owned.flush {world : World M} (owned : Owned gatewayFilter world)
    (served : Returns (updateDirtyResources runtime gatewayFilter) world →
      Served gatewayFilter (stateAfter (updateDirtyResources runtime gatewayFilter) world)) :
    Owned gatewayFilter (stateAfter (updateDirtyResources runtime gatewayFilter) world) := by
  rw [returns_iff, stateAfter, flush_eq owned] at *
  have cleared {after : World M} (tracks : Tracks after.store)
      (live : Served gatewayFilter (clearDirty after)) : Owned gatewayFilter (clearDirty after) :=
    ⟨tracks, ⟨rfl, rfl, rfl, rfl⟩, fun key pipeline isOpen => (live key pipeline isOpen).2,
      fun key pipeline isOpen => Or.inl (live key pipeline isOpen).1⟩
  rcases @updateGateways_cases M runtime gatewayFilter world owned with
    ⟨_, ran⟩ | ⟨thrown, after, ran, still⟩ | ⟨reached, after, ran, refreshed⟩
  · rw [ran] at served ⊢
    exact cleared owned.tracks (served ⟨_, _, rfl⟩)
  · rw [ran]
    exact still
  · rw [ran] at served ⊢
    refine cleared ?_ (served ⟨_, _, rfl⟩)
    obtain ⟨modules, ports, rfl⟩ := refreshed.frame
    exact owned.tracks

/-! A changed gateway file. -/

theorem addDirtyGateway_ne_nil (name : Value) (world : World M) :
    (addDirtyGateway name world).dirtyGateways ≠ [] := by
  unfold addDirtyGateway
  split
  · rename_i present
    intro none
    simp [none] at present
  · simp

/-- Nothing but the dirty gateways, of which there are not fewer. -/
structure OnlyDirtier (before after : World M) : Prop where
  store : after.store = before.store
  ports : after.ports = before.ports
  clean : Clean before → Clean after
  dirtier : before.dirtyGateways ≠ [] → after.dirtyGateways ≠ []

theorem OnlyDirtier.refl (world : World M) : OnlyDirtier world world :=
  ⟨rfl, rfl, id, id⟩

theorem OnlyDirtier.trans {first second third : World M} (left : OnlyDirtier first second)
    (right : OnlyDirtier second third) : OnlyDirtier first third :=
  ⟨right.store.trans left.store, right.ports.trans left.ports, right.clean ∘ left.clean,
    right.dirtier ∘ left.dirtier⟩

theorem onlyDirtier_addName (name : Value) (world : World M) :
    OnlyDirtier world (addName addDirtyGateway name world) := by
  unfold addName
  split
  · refine ⟨?_, ?_, fun clean => ?_, fun _ => addDirtyGateway_ne_nil name world⟩
    all_goals unfold addDirtyGateway; split
    · rfl
    · rfl
    · rfl
    · rfl
    · exact clean
    · exact ⟨clean.backends, by simp [clean.routers], clean.policies, clean.resources⟩
  · exact OnlyDirtier.refl world

theorem onResourceChange_gateway {notification : Notification}
    (gateway : notification.kind = .str "Gateway") (world : World M) :
    onResourceChange notification world = .ok ()
      { addNames notification addDirtyGateway world with dirtyTimeout := true } := by
  unfold onResourceChange markDirty
  rw [gateway]
  rfl

theorem notified_gateway {notification : Notification}
    (gateway : notification.kind = .str "Gateway") (world : World M) :
    ∃ after, onResourceChange notification world = .ok () after ∧ OnlyDirtier world after ∧
      (∀ old, notification.oldResource = some old → (nameOf old.data).truthy = true →
        after.dirtyGateways ≠ []) := by
  refine ⟨_, onResourceChange_gateway gateway world, ?_, fun old told named => ?_⟩
  · have both := (onlyDirtier_addName (notification.newResource.elim .undefined fun resource =>
      nameOf resource.data) world).trans (onlyDirtier_addName (notification.oldResource.elim
        .undefined fun resource => nameOf resource.data) _)
    exact ⟨both.store, both.ports, fun clean => ⟨(both.clean clean).backends,
      (both.clean clean).routers, (both.clean clean).policies, (both.clean clean).resources⟩,
      both.dirtier⟩
  · simp only [addNames, told, Option.elim_some, addName, named, if_true]
    exact addDirtyGateway_ne_nil _ _

theorem changeFile_sameKind {kind : String} (kinded : kind ≠ "") {store : Store}
    {pathname : String} {data : Value} (new : data.truthy = true → kindOf data = .str kind)
    (old : ∀ old, store.files.get? pathname = some old → kindOf old.data = .str kind) :
    ((store.changeFile pathname data).2 = [] ∧ data.truthy = false ∧
        store.files.get? pathname = none) ∨
      ∃ notification, (store.changeFile pathname data).2 = [notification] ∧
        notification.kind = .str kind ∧
        notification.newResource = (if data.truthy then some ⟨store.nextRef, data⟩ else none) ∧
        notification.oldResource = store.files.get? pathname := by
  simp only [Store.changeFile]
  by_cases present : data.truthy = true
  · have newKind := new present
    cases found : store.files.get? pathname with
    | none => exact Or.inr ⟨.create ⟨store.nextRef, data⟩, by simp [present,
        Store.changeNotifications], newKind, by simp [present, Notification.newResource], rfl⟩
    | some resource =>
        refine Or.inr ⟨.update ⟨store.nextRef, data⟩ resource, ?_, newKind,
          by simp [present, Notification.newResource], rfl⟩
        have truthy : (Value.str kind).truthy = true := by simp [Value.truthy, kinded]
        have strict : (Value.str kind).strictEq (.str kind) = true := by simp [Value.strictEq]
        simp only [present, if_true, Store.changeNotifications, newKind, old resource found,
          truthy, strict, Bool.and_self]
  · rw [Bool.not_eq_true] at present
    cases found : store.files.get? pathname with
    | none => exact Or.inl ⟨by simp [present, Store.changeNotifications], present, rfl⟩
    | some resource => exact Or.inr ⟨.delete resource, by simp [present,
        Store.changeNotifications], old resource found,
        by simp [present, Notification.newResource], rfl⟩

theorem Owned.change {world : World M} (owned : Owned gatewayFilter world) {pathname : String}
    {data : Value} (onGateway : (GatewayEvent.change pathname data).OnKind "Gateway" world) :
    Owned gatewayFilter (stateAfter (fileChanged pathname data) world) := by
  let changed : World M := { world with store := (world.store.changeFile pathname data).1 }
  have unfolded : stateAfter (fileChanged pathname data) world =
      stateAfter (forM (world.store.changeFile pathname data).2 onResourceChange) changed := rfl
  have tracks := owned.tracks.changeFile pathname data
  have told : ∃ after, stateAfter (fileChanged pathname data) world = after ∧
      OnlyDirtier changed after ∧ ∀ old, world.store.files.get? pathname = some old →
        (nameOf old.data).truthy = true → after.dirtyGateways ≠ [] := by
    rw [unfolded]
    rcases changeFile_sameKind (by decide) onGateway.1 onGateway.2 with
      ⟨silent, _, missing⟩ | ⟨notification, notified, gateway, _, replaced⟩
    · rw [silent, missing]
      exact ⟨changed, rfl, OnlyDirtier.refl changed, by simp⟩
    · obtain ⟨after, ran, dirtier, told⟩ := notified_gateway gateway changed
      rw [notified, ← replaced]
      exact ⟨after, by simp [stateAfter, ran, bind, EStateM.bind, pure, EStateM.pure], dirtier,
        told⟩
  obtain ⟨after, same, dirtier, told⟩ := told
  rw [same]
  have clean : Clean changed := owned.clean.congr rfl rfl rfl rfl
  refine ⟨dirtier.store ▸ tracks, dirtier.clean clean, fun key pipeline isOpen => ?_,
    fun key pipeline isOpen => ?_⟩
  · rw [dirtier.ports] at isOpen
    exact owned.built key pipeline isOpen
  rw [dirtier.ports] at isOpen
  rcases owned.told key pipeline isOpen with live | waiting
  · obtain ⟨other, present, kinded⟩ := (owned.tracks.listed _ _).mp live
    by_cases this : pathname = other
    · rw [← this] at present
      exact Or.inr (told pipeline.gateway present (owned.built key pipeline isOpen).named)
    · refine Or.inl ?_
      rw [dirtier.store]
      refine (tracks.listed _ _).mpr ⟨other, ?_, kinded⟩
      rw [Store.files_changeFile, if_neg this, present]
  · exact Or.inr (dirtier.dirtier waiting)

/-! The run. -/

def World.initial (store : Store) (modules : M) : World M :=
  ⟨store, [], [], [], [], [], [], false, true, fun _ => none, [], modules⟩

/-- The controller once the gateways of the initial files have been started. -/
def World.started (runtime : Runtime M) (gatewayFilter : GatewayFilter) (initial : Table Value)
    (modules : M) : World M :=
  stateAfter (startGateways runtime gatewayFilter)
    (World.initial (Store.init initial.entries) modules)

theorem owned_started (initial : Table Value) (modules : M) :
    Owned gatewayFilter (World.started runtime gatewayFilter initial modules) := by
  apply owned_startGateways
  exact ⟨(loaded_init initial).tracks, ⟨rfl, rfl, rfl, rfl⟩,
    (fun _ _ isOpen => by cases isOpen), (fun _ _ isOpen => by cases isOpen)⟩

/-- Over a run of changed Gateway files and flushes, every completed flush leaves the open
ports to live gateways exactly when every completed flush hands them over. -/
theorem openPorts_served_iff (runtime : Runtime M) (gatewayFilter : GatewayFilter)
    (initial : Table Value) (modules : M) (events : List GatewayEvent)
    (gateways : EveryStep (GatewayEvent.step runtime gatewayFilter)
      (GatewayEvent.OnKind "Gateway")
      (World.started runtime gatewayFilter initial modules) events) :
    EveryStep (GatewayEvent.step runtime gatewayFilter)
        (GatewayEvent.LeavesServed runtime gatewayFilter)
        (World.started runtime gatewayFilter initial modules) events ↔
      EveryStep (GatewayEvent.step runtime gatewayFilter)
        (GatewayEvent.MeetsHandsOver runtime gatewayFilter)
        (World.started runtime gatewayFilter initial modules) events := by
  have owned : Owned gatewayFilter (World.started runtime gatewayFilter initial modules) :=
    owned_started initial modules
  refine everyStep_congr ?_ ?_ _ owned events gateways
  · rintro world (_ | _) owned onGateway
    · exact iff_of_true (by rintro ⟨⟩) (by rintro ⟨⟩)
    · constructor
      · exact fun served _ completed => (flush_served_iff owned completed).mp (served rfl completed)
      · exact fun hands _ completed => (flush_served_iff owned completed).mpr (hands rfl completed)
  · rintro world (_ | _) owned onGateway served
    · exact owned.change onGateway
    · exact owned.flush (served rfl)

/-! Two gateways on one port, of which the one that serves it is deleted. -/

def portListener : Value := .obj [("port", .num "80"), ("protocol", .str "HTTP")]

def portGateway (name : String) : Value :=
  .obj [("kind", .str "Gateway"), ("metadata", .obj [("name", .str name)]),
    ("spec", .obj [("listeners", .arr [portListener])])]

def oneGateway : Table Value := Table.empty.set "one.json" (portGateway "one")

def twoGateways : Table Value := oneGateway.set "two.json" (portGateway "two")

def deleteFile (pathname : String) : List GatewayEvent := [.change pathname .undefined, .flush]

theorem sharedPort_not_served :
    ¬ ∀ (runtime : Runtime Unit) (gatewayFilter : GatewayFilter) (initial : Table Value)
      (modules : Unit) (events : List GatewayEvent)
      (_ : EveryStep (GatewayEvent.step runtime gatewayFilter)
        (GatewayEvent.OnKind "Gateway")
        (World.started runtime gatewayFilter initial modules) events),
      EveryStep (GatewayEvent.step runtime gatewayFilter)
        (GatewayEvent.LeavesServed runtime gatewayFilter)
        (World.started runtime gatewayFilter initial modules) events := by
  intro claimed
  have served := claimed quietRuntime acceptAll twoGateways () (deleteFile "two.json")
    ⟨⟨by simp [Value.truthy], by rintro old ⟨⟩; rfl⟩, trivial, trivial⟩
  have now := served.2.1 rfl trivial ⟨"0.0.0.0:80", "tcp"⟩
    ⟨⟨1, portGateway "two"⟩, portListener⟩ rfl
  have listed := List.mem_singleton.mp (show (⟨1, portGateway "two"⟩ : Resource) ∈
    [(⟨0, portGateway "one"⟩ : Resource)] from now.1)
  cases listed

theorem lastGateway_served :
    EveryStep (GatewayEvent.step quietRuntime acceptAll)
      (GatewayEvent.LeavesServed quietRuntime acceptAll)
      (World.started quietRuntime acceptAll oneGateway ()) (deleteFile "one.json") := by
  refine (openPorts_served_iff quietRuntime acceptAll oneGateway () (deleteFile "one.json")
    ⟨⟨by simp [Value.truthy], by rintro old ⟨⟩; rfl⟩, trivial, trivial⟩).mpr
    ⟨by rintro ⟨⟩, fun _ _ key pipeline isOpen _ => Or.inr ⟨?_, ?_⟩, trivial⟩
  · have opened : Function.update (fun _ => none) (⟨"0.0.0.0:80", "tcp"⟩ : ListenerKey)
        (some (⟨⟨0, portGateway "one"⟩, portListener⟩ : Pipeline)) key = some pipeline := isOpen
    by_cases same : key = ⟨"0.0.0.0:80", "tcp"⟩
    · exact List.mem_singleton.mpr same
    · rw [Function.update_of_ne same] at opened
      cases opened
  · rintro ⟨visit, member, _⟩
    cases member

end Fgw
