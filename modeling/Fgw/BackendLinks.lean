import Fgw.BackendCache
import Fgw.GatewayPorts
import Fgw.GatewayRouters

/-!
Whether routers follow the Backends in the store.  A backend reference is resolved when its
router is built and never again; what follows the store is the backend it was resolved to, for
as long as that is cached.
-/

namespace Fgw

variable {engine : ModuleEngine} {gatewayFilter : GatewayFilter} {store : Store}

/-- The targets that requests through the reference are balanced over. -/
def forwards (modules : Modules) (target : BackendTarget) : List Target :=
  (target.backend.bind fun ref => modules.backends[ref]?).elim [] Backend.targets

/-- Every reference of a live router to a Backend leads to the targets the Backend has in the
store, and nowhere if there is no such Backend. -/
def Follows (store : Store) (modules : Modules) : Prop :=
  ∀ target ∈ liveTargets modules.routers, ∀ name, target.Names name →
    match store.find "Backend" name with
    | some resource => getTargets (some resource) = .ok (forwards modules target)
    | none => forwards modules target = []

/-- The Backend of this name waits for a flush. -/
def IsDirty (world : World Modules) (name : String) : Prop :=
  ∃ value ∈ world.dirtyBackends, value.toKey = name

/-- The Backends that live references name and that are dirty are in the store if they were when
the reference was resolved, and the updaters of dirty Backends can read what they read. -/
structure KeepsLinks (engine : ModuleEngine) (world : World Modules) : Prop where
  presence : ∀ target ∈ liveTargets world.modules.routers, ∀ name, target.Names name →
    IsDirty world name →
    (world.store.find "Backend" name).isSome = target.backendResource.isSome
  readable : ∀ name, IsDirty world name →
    ∀ cb ∈ world.modules.updaters.registered "Backend" name, Readable engine world.store cb

namespace GatewayEvent

def MeetsLinks (engine : ModuleEngine) (world : World Modules) (event : GatewayEvent) : Prop :=
  event = .flush → KeepsLinks engine world

def LeavesFollowing (engine : ModuleEngine) (gatewayFilter : GatewayFilter)
    (world : World Modules) (event : GatewayEvent) : Prop :=
  event = .flush →
    Follows (event.step (moduleRuntime engine) gatewayFilter world).store
      (event.step (moduleRuntime engine) gatewayFilter world).modules

end GatewayEvent

theorem Linked.follows {modules : Modules} (linked : Linked store (fun _ => False) [] modules) :
    Follows store modules := by
  intro target live name names
  have links := linked.targets target (Or.inl live)
  have present := links.present name names id
  rw [← links.resolved] at present
  cases found : store.find "Backend" name with
  | none =>
      rw [found, Option.isSome_none, eq_comm, Option.isSome_eq_false_iff,
        Option.isNone_iff_eq_none] at present
      rw [forwards, present]
      rfl
  | some resource =>
      rw [found, Option.isSome_some, eq_comm, Option.isSome_iff_exists] at present
      obtain ⟨ref, leads⟩ := present
      have cached := links.cached name ref names leads
      obtain ⟨backend, here, _⟩ := Option.map_eq_some_iff.mp
        (linked.coherent.named name ref cached)
      have current := ((linked.coherent.refreshed name ref cached).resolve_left
        List.not_mem_nil).2 id backend resource here found
      rw [forwards, leads, Option.bind_some, here]
      exact current

/-! One flush. -/

theorem Coherent.mono {dirty larger : String → Prop} {pending : List Callback}
    {modules : Modules} (coherent : Coherent store dirty pending modules)
    (grows : ∀ name, dirty name → larger name) : Coherent store larger pending modules :=
  ⟨coherent.registered, coherent.named, fun name ref cached =>
    (coherent.refreshed name ref cached).imp_right fun ⟨registered, current⟩ =>
      ⟨registered, fun clean => current fun was => clean (grows name was)⟩⟩

theorem Coherent.drop {dirty : String → Prop} {modules : Modules}
    (coherent : Coherent store dirty [] modules) (name : String) :
    Coherent store (fun other => dirty other ∧ other ≠ name)
      (modules.updaters.registered "Backend" name)
      { modules with updaters := modules.updaters.drop "Backend" name } := by
  refine ⟨fun key ref member => ?_, coherent.named, fun key ref cached => ?_⟩
  · rw [Updaters.registered_drop] at member
    split at member
    · cases member
    · exact coherent.registered key ref member
  · have registered := (coherent.refreshed key ref cached).resolve_left List.not_mem_nil
    by_cases same : key = name
    · subst same
      exact Or.inl registered.1
    · refine Or.inr ⟨?_, fun clean => registered.2 fun was => clean ⟨was, same⟩⟩
      rw [Updaters.registered_drop, if_neg fun both => same both.2.symm]
      exact registered.1

theorem ends_backendUpdaters {dirty : String → Prop} {modules : Modules}
    (coherent : Coherent store dirty [] modules) (value : Value)
    (readable : ∀ cb ∈ modules.updaters.registered "Backend" value.toKey,
      Readable engine store cb) :
    Ends (runUpdatersOf engine (.backend value) store) modules
      (fun _ after => Coherent store (fun other => dirty other ∧ other ≠ value.toKey) [] after ∧
        CallbackFrame store [] modules after) fun _ _ => False := by
  have ran := @ends_callbacks engine store _ _ value.toKey (.backend value) _
    (coherent.drop value.toKey) (fun cb => modules.updaters.home "Backend" value.toKey cb)
    (fun ref member => coherent.registered value.toKey ref member) readable
  rw [Ends, runUpdatersOf_run (.backend value) rfl]
  refine ran.mono (fun _ after kept => ⟨kept.1, kept.2.routers, kept.2.backends, kept.2.cache,
    fun name cb member => ?_⟩) fun _ _ impossible => impossible
  rcases kept.2.registered name cb member with left | again
  · have before := (Updaters.registered_drop _ _ _ _ _) ▸ left
    split at before
    · cases before
    · exact Or.inl before
  · obtain rfl : value.toKey = name := home_unique
      (modules.updaters.home "Backend" value.toKey cb again)
      (Updaters.home _ "Backend" name cb member)
    exact Or.inl again

theorem runCalls_backends (values : List Value) {dirty : String → Prop} {modules : Modules}
    (waiting : ∀ name, dirty name → ∃ value ∈ values, value.toKey = name)
    (coherent : Coherent store dirty [] modules)
    (readable : ∀ value ∈ values, ∀ cb ∈ modules.updaters.registered "Backend" value.toKey,
      Readable engine store cb) :
    ∃ after, runCalls (moduleRuntime engine) store (values.map .backend) modules = some after ∧
      Coherent store (fun _ => False) [] after ∧ CallbackFrame store [] modules after := by
  induction values generalizing dirty modules with
  | nil =>
      refine ⟨modules, rfl, coherent.mono fun name was => ?_, CallbackFrame.refl store [] modules⟩
      obtain ⟨value, member, _⟩ := waiting name was
      exact List.not_mem_nil member
  | cons value rest ih =>
      have first := ends_backendUpdaters coherent value (readable value List.mem_cons_self)
      rw [Ends] at first
      rw [List.map_cons, runCalls]
      simp only [moduleRuntime]
      cases ran : runUpdatersOf engine (.backend value) store modules with
      | error thrown after =>
          rw [ran] at first
          exact first.elim
      | ok done middle =>
          rw [ran] at first
          have still : ∀ name, dirty name ∧ name ≠ value.toKey →
              ∃ other ∈ rest, other.toKey = name := by
            intro name was
            obtain ⟨other, member, same⟩ := waiting name was.1
            rcases List.mem_cons.mp member with rfl | later
            · exact (was.2 same.symm).elim
            · exact ⟨other, later, same⟩
          have frame := first.2
          obtain ⟨after, settled, clean, later⟩ := ih still first.1 fun other member cb again =>
            readable other (List.mem_cons_of_mem value member) cb
              ((frame.registered _ cb again).resolve_right List.not_mem_nil)
          refine ⟨after, settled, clean, later.routers.trans frame.routers,
            fun ref => (later.backends ref).trans (frame.backends ref),
            fun name present => (later.cache name present).trans (frame.cache name present),
            fun name cb member => ?_⟩
          exact frame.registered name cb
            ((later.registered name cb member).resolve_right List.not_mem_nil)

/-- Nothing but Backends is dirty. -/
structure OnlyBackends (world : World Modules) : Prop where
  gateways : world.dirtyGateways = []
  routers : world.dirtyRouters = []
  policies : world.dirtyPolicies = []
  resources : world.dirtyResources = []

theorem OnlyBackends.congr {world after : World Modules} (only : OnlyBackends world)
    (gateways : after.dirtyGateways = world.dirtyGateways)
    (routers : after.dirtyRouters = world.dirtyRouters)
    (policies : after.dirtyPolicies = world.dirtyPolicies)
    (resources : after.dirtyResources = world.dirtyResources) : OnlyBackends after where
  gateways := gateways.trans only.gateways
  routers := routers.trans only.routers
  policies := policies.trans only.policies
  resources := resources.trans only.resources

structure Linking (world : World Modules) : Prop where
  only : OnlyBackends world
  linked : Linked world.store (IsDirty world) [] world.modules

theorem afterBackends_idle {world : World Modules} (only : OnlyBackends world) :
    (do
      forM (← get).dirtyRouters (updateRouter (moduleRuntime engine) gatewayFilter)
      afterRouters (moduleRuntime engine) gatewayFilter : EStateM Thrown (World Modules) Unit)
      world = .ok () (clearDirty world) := by
  rw [run_get_bind, only.routers, List.forM_nil, run_pure_bind]
  exact afterRouters_idle only.policies only.gateways only.resources

theorem backendFlush_eq {world : World Modules} (only : OnlyBackends world) {after : Modules}
    (settled : runCalls (moduleRuntime engine) world.store (world.dirtyBackends.map .backend)
      world.modules = some after) :
    updateDirtyResources (moduleRuntime engine) gatewayFilter world = .ok () (clearDirty
      { world with
        updaterCalls := world.updaterCalls ++ world.dirtyBackends.map .backend
        modules := after }) := by
  have backends := @backends_run _ (moduleRuntime engine) world.dirtyBackends world
  rw [settled] at backends
  have unfolded : updateDirtyResources (moduleRuntime engine) gatewayFilter world =
      ((forM world.dirtyBackends fun name => runUpdaters (moduleRuntime engine) (.backend name)) >>=
        fun _ => do
          forM (← get).dirtyRouters (updateRouter (moduleRuntime engine) gatewayFilter)
          afterRouters (moduleRuntime engine) gatewayFilter) world := rfl
  rw [unfolded, run_bind_ok backends]
  exact afterBackends_idle ⟨only.gateways, only.routers, only.policies, only.resources⟩

theorem Linking.flush {world : World Modules} (linking : Linking world)
    (keeps : KeepsLinks engine world) :
    ∃ modules updaterCalls,
      stateAfter (updateDirtyResources (moduleRuntime engine) gatewayFilter) world =
        clearDirty { world with updaterCalls := updaterCalls, modules := modules } ∧
      Linked world.store (fun _ => False) [] modules := by
  obtain ⟨modules, settled, clean, frame⟩ := runCalls_backends world.dirtyBackends
    (fun _ was => was) linking.linked.coherent
    fun value member => keeps.readable value.toKey ⟨value, member, rfl⟩
  refine ⟨modules, _, by rw [stateAfter, backendFlush_eq linking.only settled], clean,
    fun target member => ?_⟩
  have live : target ∈ liveTargets world.modules.routers := by
    rw [← frame.routers]
    exact member.resolve_right List.not_mem_nil
  have links := linking.linked.targets target (Or.inl live)
  have present (name : String) (names : target.Names name) :
      (world.store.find "Backend" name).isSome = target.backendResource.isSome := by
    by_cases was : IsDirty world name
    · exact keeps.presence target live name names was
    · exact links.present name names was
  refine ⟨links.resolved, fun name ref names leads => ?_, fun name names _ => present name names⟩
  have there : world.store.find "Backend" name ≠ none := by
    rw [← Option.isSome_iff_ne_none, present name names, ← links.resolved, leads]
    rfl
  rw [frame.cache name there]
  exact links.cached name ref names leads

/-! A changed Backend file. -/

theorem isDirty_addName (name : Value) (world : World Modules) :
    ∃ dirtyBackends, addName addDirtyBackend name world =
        { world with dirtyBackends := dirtyBackends } ∧
      (∀ value ∈ world.dirtyBackends, value ∈ dirtyBackends) ∧
      (name.truthy = true → ∃ value ∈ dirtyBackends, value.toKey = name.toKey) := by
  unfold addName addDirtyBackend
  by_cases named : name.truthy = true
  · rw [if_pos named]
    split
    · rename_i present
      obtain ⟨value, member, same⟩ := List.any_eq_true.mp present
      exact ⟨_, rfl, fun _ member => member, fun _ =>
        ⟨value, member, by rw [Value.eq_of_strictEq same]⟩⟩
    · exact ⟨_, rfl, fun _ member => List.mem_append_left _ member, fun _ =>
        ⟨name, by simp, rfl⟩⟩
  · rw [if_neg named]
    exact ⟨_, rfl, fun _ member => member, fun impossible => (named impossible).elim⟩

theorem onResourceChange_backend {notification : Notification}
    (backend : notification.kind = .str "Backend") (world : World Modules) :
    ∃ dirtyBackends, stateAfter (onResourceChange notification) world =
        { world with dirtyBackends := dirtyBackends, dirtyTimeout := true } ∧
      (∀ value ∈ world.dirtyBackends, value ∈ dirtyBackends) ∧
      ∀ resource, notification.newResource = some resource ∨
        notification.oldResource = some resource → (nameOf resource.data).truthy = true →
          ∃ value ∈ dirtyBackends, value.toKey = (nameOf resource.data).toKey := by
  have unfolded : stateAfter (onResourceChange notification) world =
      { addNames notification addDirtyBackend world with dirtyTimeout := true } := by
    unfold onResourceChange markDirty
    rw [backend]
    rfl
  obtain ⟨first, firstSame, firstGrows, firstAdds⟩ := isDirty_addName
    (notification.newResource.elim .undefined fun resource => nameOf resource.data) world
  obtain ⟨second, secondSame, secondGrows, secondAdds⟩ := isDirty_addName
    (notification.oldResource.elim .undefined fun resource => nameOf resource.data)
    { world with dirtyBackends := first }
  refine ⟨second, ?_, fun value member => secondGrows value (firstGrows value member), ?_⟩
  · rw [unfolded, addNames, firstSame, secondSame]
  · rintro resource (new | old) named
    · rw [new] at firstAdds
      obtain ⟨value, member, same⟩ := firstAdds named
      exact ⟨value, secondGrows value member, same⟩
    · rw [old] at secondAdds
      exact secondAdds named

theorem find_changeFile_ne {pathname name : String} {data : Value}
    (changed : (store.changeFile pathname data).1.find "Backend" name ≠
      store.find "Backend" name) :
    (data.truthy = true ∧ indexKey data = some ("Backend", name)) ∨
      ∃ old, store.files.get? pathname = some old ∧
        indexKey old.data = some ("Backend", name) := by
  rw [Store.find_changeFile] at changed
  split at changed
  · rename_i new
    exact Or.inl new
  · refine Or.inr ?_
    unfold Store.withoutFile at changed
    cases found : store.files.get? pathname with
    | none => exact (changed (by rw [found]; rfl)).elim
    | some old =>
        rw [found, Option.elim_some, Store.find_removeResource] at changed
        split at changed
        · rename_i same
          exact ⟨old, rfl, same⟩
        · exact (changed rfl).elim

theorem name_of_indexKey {data : Value} {kind name : String}
    (keyed : indexKey data = some (kind, name)) :
    (nameOf data).truthy = true ∧ (nameOf data).toKey = name := by
  unfold indexKey at keyed
  split at keyed
  · rename_i both
    cases keyed
    exact ⟨(Bool.and_eq_true _ _ ▸ both).2, rfl⟩
  · cases keyed

theorem Linked.change {dirty larger : String → Prop} {modules : Modules} {changed : Store}
    (linked : Linked store dirty [] modules) (grows : ∀ name, dirty name → larger name)
    (same : ∀ name, ¬ larger name → changed.find "Backend" name = store.find "Backend" name) :
    Linked changed larger [] modules := by
  refine ⟨⟨linked.coherent.registered, linked.coherent.named, fun name ref cached => ?_⟩,
    fun target member => ?_⟩
  · refine (linked.coherent.refreshed name ref cached).imp_right fun settled =>
      ⟨settled.1, fun clean backend resource here found => ?_⟩
    rw [same name clean] at found
    exact settled.2 (fun was => clean (grows name was)) backend resource here found
  · have links := linked.targets target member
    refine ⟨links.resolved, links.cached, fun name names clean => ?_⟩
    rw [same name clean]
    exact links.present name names fun was => clean (grows name was)

theorem Linking.change {world : World Modules} (linking : Linking world) {pathname : String}
    {data : Value} (onBackend : (GatewayEvent.change pathname data).OnKind "Backend" world) :
    Linking (stateAfter (fileChanged pathname data) world) := by
  let changed : World Modules := { world with store := (world.store.changeFile pathname data).1 }
  have unfolded : stateAfter (fileChanged pathname data) world =
      stateAfter (forM (world.store.changeFile pathname data).2 onResourceChange) changed := rfl
  rw [unfolded]
  rcases changeFile_sameKind (by decide) onBackend.1 onBackend.2 with
    ⟨silent, absent, missing⟩ | ⟨notification, notified, backend, new, old⟩
  · rw [silent]
    refine ⟨linking.only.congr rfl rfl rfl rfl,
      linking.linked.change (fun _ was => was) fun name _ => ?_⟩
    by_contra other
    rcases find_changeFile_ne other with ⟨present, _⟩ | ⟨resource, found, _⟩
    · simp [absent] at present
    · cases missing.symm.trans found
  · obtain ⟨dirtyBackends, same, grows, told⟩ := onResourceChange_backend backend changed
    have once : stateAfter (forM [notification] onResourceChange) changed =
        stateAfter (onResourceChange notification) changed := by
      rw [List.forM_cons, List.forM_nil, bind_pure_unit]
    rw [notified, once, same]
    refine ⟨linking.only.congr rfl rfl rfl rfl,
      linking.linked.change ?_ fun name clean => ?_⟩
    · rintro name ⟨value, member, keyed⟩
      exact ⟨value, grows value member, keyed⟩
    · by_contra other
      apply clean
      rcases find_changeFile_ne other with ⟨present, keyed⟩ | ⟨resource, found, keyed⟩
      · obtain ⟨named, rfl⟩ := name_of_indexKey keyed
        rw [if_pos present] at new
        exact told _ (Or.inl new) named
      · obtain ⟨named, rfl⟩ := name_of_indexKey keyed
        exact told resource (Or.inr (old.trans found)) named

/-! The run. -/

/-- The invariant while the routers are built, when nothing is dirty. -/
structure Starting (store : Store) (world : World Modules) : Prop where
  same : world.store = store
  idle : world.dirtyBackends = []
  only : OnlyBackends world
  linked : Linked store (fun _ => False) [] world.modules

theorem keeps_onModules_starting {program : ModuleM Unit}
    (kept : Keeps (Linked store (fun _ => False) []) program) :
    Keeps (Starting store) (onModules program) := by
  intro world starting
  have back (modules : Modules) (linked : Linked store (fun _ => False) [] modules) :
      Starting store { world with modules := modules } :=
    ⟨starting.same, starting.idle, starting.only.congr rfl rfl rfl rfl, linked⟩
  rw [ends_onModules]
  exact (kept world.modules starting.linked).mono (fun _ => back) fun _ => back

theorem listenerFrame_starting (sound : FindsNamed store) :
    ListenerFrame (moduleRuntime engine) (Starting store) where
  makeRoute world starting kind routerKey listener routeResources gateway := by
    rw [starting.same]
    exact keeps_onModules_starting (keeps_makeRoute sound _ _ _ _ _)
  terminateTLS _ _ _ := keeps_onModules_starting (keeps_ofExcept _ _)
  makeFilters _ _ _ _ := keeps_onModules_starting
    ((keeps_ofExcept _ _).bind fun _ => keeps_pure _ _)
  ports _ _ _ starting :=
    ⟨starting.same, starting.idle, starting.only.congr rfl rfl rfl rfl, starting.linked⟩

theorem linking_started (initial : Table Value) :
    Linking (World.started (moduleRuntime engine) gatewayFilter initial Modules.empty) := by
  have sound : FindsNamed (Store.init initial.entries) := by
    intro name resource found
    obtain ⟨_, _, keyed⟩ := (loaded_init initial).indexed.sound "Backend" name resource found
    exact (name_of_indexKey keyed).2
  have kept : Keeps (Starting (Store.init initial.entries))
      (startGateways (moduleRuntime engine) gatewayFilter) :=
    keeps_startGateways (listenerFrame_starting sound) fun _ _ starting =>
      ⟨starting.same, starting.idle, starting.only.congr rfl rfl rfl rfl, starting.linked⟩
  have starting := (keeps_iff_stateAfter _ _).mp kept
    (World.initial (Store.init initial.entries) Modules.empty)
    ⟨rfl, rfl, ⟨rfl, rfl, rfl, rfl⟩, coherent_empty _ _, fun target member =>
      (member.resolve_left List.not_mem_nil |> List.not_mem_nil).elim⟩
  refine ⟨starting.only, starting.linked.change (fun _ impossible => impossible.elim)
    fun name _ => ?_⟩
  rw [World.started, starting.same]

/-- Over a run of changed Backend files and flushes in which every flush keeps the links, every
flush leaves the live routers following the Backends in the store. -/
theorem backendRun_follows (engine : ModuleEngine) (gatewayFilter : GatewayFilter)
    (initial : Table Value) (events : List GatewayEvent)
    (backends : EveryStep (GatewayEvent.step (moduleRuntime engine) gatewayFilter)
      (GatewayEvent.OnKind "Backend")
      (World.started (moduleRuntime engine) gatewayFilter initial Modules.empty) events)
    (keeps : EveryStep (GatewayEvent.step (moduleRuntime engine) gatewayFilter)
      (GatewayEvent.MeetsLinks engine)
      (World.started (moduleRuntime engine) gatewayFilter initial Modules.empty) events) :
    EveryStep (GatewayEvent.step (moduleRuntime engine) gatewayFilter)
      (GatewayEvent.LeavesFollowing engine gatewayFilter)
      (World.started (moduleRuntime engine) gatewayFilter initial Modules.empty) events := by
  refine @EveryStep.gives _ _ _ _ _ Linking _ _ (backends.and keeps) ?_ ?_
    (linking_started initial)
  · rintro world (_ | _) linking ⟨onBackend, meets⟩
    · exact linking.change onBackend
    · obtain ⟨modules, updaterCalls, same, linked⟩ := linking.flush (meets rfl)
      rw [GatewayEvent.step, same]
      exact ⟨⟨rfl, rfl, rfl, rfl⟩, linked.change (fun _ impossible => impossible.elim)
        fun _ _ => rfl⟩
  · rintro world (_ | _) linking ⟨onBackend, meets⟩ event
    · cases event
    · obtain ⟨modules, updaterCalls, same, linked⟩ := linking.flush (meets rfl)
      rw [GatewayEvent.step, same]
      exact linked.follows

/-! A Backend that is created after the route that refers to it, and one that was there. -/

def linkGateway : Value :=
  .obj [("kind", .str "Gateway"), ("metadata", .obj [("name", .str "gw")]),
    ("spec", .obj [("listeners", .arr [.obj [("port", .num "80"), ("protocol", .str "TCP")]])])]

def linkRoute : Value :=
  .obj [("kind", .str "TCPRoute"), ("metadata", .obj [("name", .str "route")]),
    ("spec", .obj [("parentRefs", .arr [.obj [("kind", .str "Gateway"), ("name", .str "gw"),
        ("port", .num "80")]]),
      ("rules", .arr [.obj [("backendRefs", .arr [.obj [("name", .str "b")]])]])])]

def linkBackend (address : String) : Value :=
  .obj [("kind", .str "Backend"), ("metadata", .obj [("name", .str "b")]),
    ("spec", .obj [("targets", .arr [.obj [("address", .str address), ("port", .num "8080")]])])]

def withoutBackend : Table Value :=
  (Table.empty.set "gateway.json" linkGateway).set "route.json" linkRoute

def withBackend : Table Value := withoutBackend.set "backend.json" (linkBackend "old")

def writeBackend (address : String) : List GatewayEvent :=
  [.change "backend.json" (linkBackend address), .flush]

theorem lateBackend_not_followed :
    ¬ ∀ (engine : ModuleEngine) (gatewayFilter : GatewayFilter) (initial : Table Value)
      (events : List GatewayEvent)
      (_ : EveryStep (GatewayEvent.step (moduleRuntime engine) gatewayFilter)
        (GatewayEvent.OnKind "Backend")
        (World.started (moduleRuntime engine) gatewayFilter initial Modules.empty) events),
      EveryStep (GatewayEvent.step (moduleRuntime engine) gatewayFilter)
        (GatewayEvent.LeavesFollowing engine gatewayFilter)
        (World.started (moduleRuntime engine) gatewayFilter initial Modules.empty) events := by
  intro claimed
  have follows := claimed plainEngine acceptAll withoutBackend (writeBackend "new")
    ⟨⟨fun _ => rfl, by rintro old ⟨⟩⟩, trivial, trivial⟩
  have balanced := follows.2.1 rfl ⟨.obj [("name", .str "b")], none, none⟩
    (List.mem_singleton.mpr rfl) "b" ⟨rfl, rfl⟩
  have impossible : (Except.ok [⟨"new:8080", .undefined, .undefined⟩] :
      Except Thrown (List Target)) = .ok [] := balanced
  cases impossible

theorem earlyBackend_followed :
    EveryStep (GatewayEvent.step (moduleRuntime plainEngine) acceptAll)
      (GatewayEvent.LeavesFollowing plainEngine acceptAll)
      (World.started (moduleRuntime plainEngine) acceptAll withBackend Modules.empty)
      (writeBackend "new") := by
  refine backendRun_follows plainEngine acceptAll withBackend (writeBackend "new")
    ⟨⟨fun _ => rfl, by rintro old ⟨⟩; rfl⟩, trivial, trivial⟩
    ⟨by rintro ⟨⟩, fun _ => ⟨fun target live name names _ => ?_, fun name dirty => ?_⟩, trivial⟩
  · have same : target = ⟨.obj [("name", .str "b")], some ⟨2, linkBackend "old"⟩, some 0⟩ :=
      List.mem_singleton.mp live
    subst same
    obtain ⟨_, named⟩ := names
    cases named
    rfl
  · obtain ⟨value, member, rfl⟩ := dirty
    obtain rfl : value = .str "b" := List.mem_singleton.mp member
    intro cb registered
    obtain rfl : cb = .backend 0 "b" := List.mem_singleton.mp registered
    intro resource found
    obtain rfl : ⟨3, linkBackend "new"⟩ = resource := Option.some.inj found
    exact ⟨_, rfl⟩

end Fgw
