import Fgw.RoutesInForce

/-!
Whether routers follow the Backends while routes change too.  A router that is built anew resolves
its references over the store of the flush, and one that is not keeps the links that it has.
-/

namespace Fgw

variable {engine : ModuleEngine} {gatewayFilter : GatewayFilter} {store : Store}

namespace GatewayEvent

/-- A file that holds routes of any kind, or a Backend, before and after; either may be missing. -/
def OnLinks (world : World Modules) : GatewayEvent → Prop
  | change pathname data => (change pathname data).OnKind "Backend" world ∨
      ∀ version, VersionOf world.store pathname data version →
        roleOf (kindOf version.data) = .route
  | flush => True

end GatewayEvent

/-- Between flushes. -/
structure Connecting (world : World Modules) : Prop where
  only : OnlyLinks world
  named : FindsNamed world.store
  linked : Linked world.store (IsDirty world) [] world.modules

/-- During a flush, once the Backends have been refreshed. -/
structure Connected (store : Store) (world : World Modules) : Prop where
  holds : world.store = store
  only : OnlyLinks world
  linked : Linked store (fun _ => False) [] world.modules

theorem Connected.connecting {world : World Modules} (connected : Connected store world)
    (named : FindsNamed store) : Connecting world := by
  obtain ⟨rfl, only, linked⟩ := connected
  exact ⟨only, named, linked.change (fun _ impossible => impossible.elim) fun _ _ => rfl⟩

/-! A changed file. -/

theorem FindsNamed.changeFile (named : FindsNamed store) (pathname : String) (data : Value) :
    FindsNamed (store.changeFile pathname data).1 := by
  intro name resource found
  by_cases same : (store.changeFile pathname data).1.find "Backend" name =
      store.find "Backend" name
  · rw [same] at found
    exact named name resource found
  · rw [Store.find_changeFile] at found
    split at found
    · rename_i new
      cases found
      exact (name_of_indexKey new.2).2
    · unfold Store.withoutFile at found
      cases held : store.files.get? pathname with
      | none =>
          rw [held, Option.elim_none] at found
          exact named name resource found
      | some old =>
          rw [held, Option.elim_some, Store.find_removeResource] at found
          split at found
          · cases found
          · exact named name resource found

theorem indexKey_route {data : Value} (route : roleOf (kindOf data) = .route) (name : String) :
    indexKey data ≠ some ("Backend", name) := by
  intro keyed
  unfold indexKey at keyed
  split at keyed
  · have kind : (kindOf data).toKey = "Backend" := congrArg Prod.fst (Option.some.inj keyed)
    unfold roleOf at route
    split at route
    all_goals first
      | exact absurd route (by decide)
      | rename_i same
        rw [same] at kind
        exact absurd kind (by decide)
  · cases keyed

theorem keeps_addDirtyRouterRef (ref : Value) :
    Keeps Connecting (addDirtyRouterRef ref : EStateM Thrown (World Modules) Unit) := by
  unfold addDirtyRouterRef
  refine (keeps_ofExcept _ _).bind fun key => keeps_modify fun world connecting => ?_
  unfold addDirtyRouter
  split
  · exact connecting
  · exact ⟨⟨connecting.only.1, connecting.only.2, connecting.only.3⟩, connecting.named,
      connecting.linked⟩

theorem keeps_routeNotice {notification : Notification}
    (route : roleOf notification.kind = .route) : Keeps Connecting
      (onResourceChange notification : EStateM Thrown (World Modules) Unit) := by
  unfold onResourceChange markDirty
  rw [route]
  simp only [addDirtyRouters_eq, forM_flatMap]
  refine (keeps_forM fun ref _ => keeps_addDirtyRouterRef ref).bind fun _ =>
    keeps_modify fun world connecting => ?_
  exact ⟨⟨connecting.only.1, connecting.only.2, connecting.only.3⟩, connecting.named,
    connecting.linked⟩

theorem Connecting.changeRoute {world : World Modules} (connecting : Connecting world)
    {pathname : String} {data : Value}
    (routes : ∀ version, VersionOf world.store pathname data version →
      roleOf (kindOf version.data) = .route) :
    Connecting (stateAfter (fileChanged pathname data) world) := by
  let changed : World Modules := { world with store := (world.store.changeFile pathname data).1 }
  have unfolded : stateAfter (fileChanged pathname data) world =
      stateAfter (forM (world.store.changeFile pathname data).2 onResourceChange) changed := rfl
  have begun : Connecting changed := by
    refine ⟨⟨connecting.only.1, connecting.only.2, connecting.only.3⟩,
      connecting.named.changeFile pathname data,
      connecting.linked.change (fun _ was => was) fun name _ => ?_⟩
    by_contra other
    rcases find_changeFile_ne other with ⟨present, keyed⟩ | ⟨old, found, keyed⟩
    · exact indexKey_route (routes _ (Or.inl ⟨present, rfl⟩)) name keyed
    · exact indexKey_route (routes old (Or.inr found)) name keyed
  rw [unfolded]
  refine (keeps_iff_stateAfter _ _).mp (keeps_forM fun notification member => ?_) changed begun
  exact keeps_routeNotice (routes notification.changed
    (versionOf_notified member (changed_mem_versions notification)))

theorem addNames_routers (notification : Notification) (world : World Modules) :
    addNames notification addDirtyBackend { world with dirtyRouters := [] } =
      { addNames notification addDirtyBackend world with dirtyRouters := [] } := by
  simp only [addNames, addName, addDirtyBackend]
  split_ifs <;> rfl

/-- What a changed Backend does does not depend on the routers that are dirty. -/
theorem stateAfter_withoutRouters {world : World Modules} {pathname : String} {data : Value}
    (onBackend : (GatewayEvent.change pathname data).OnKind "Backend" world) :
    stateAfter (fileChanged pathname data) { world with dirtyRouters := [] } =
      { stateAfter (fileChanged pathname data) world with dirtyRouters := [] } := by
  have unfolded (before : World Modules) : stateAfter (fileChanged pathname data) before =
      stateAfter (forM (before.store.changeFile pathname data).2 onResourceChange)
        { before with store := (before.store.changeFile pathname data).1 } := rfl
  rw [unfolded, unfolded]
  rcases changeFile_sameKind (by decide) onBackend.1 onBackend.2 with
    ⟨silent, _, _⟩ | ⟨notification, notified, backend, _, _⟩
  · dsimp only
    rw [silent]
    rfl
  · have marked (before : World Modules) : stateAfter (onResourceChange notification) before =
        { addNames notification addDirtyBackend before with dirtyTimeout := true } := by
      unfold onResourceChange markDirty
      rw [backend]
      rfl
    dsimp only
    rw [notified, List.forM_cons, List.forM_nil, bind_pure_unit, marked, marked]
    have same := addNames_routers notification
      { world with store := (world.store.changeFile pathname data).1 }
    dsimp only at same
    rw [same]

theorem Connecting.changeBackend {world : World Modules} (connecting : Connecting world)
    {pathname : String} {data : Value}
    (onBackend : (GatewayEvent.change pathname data).OnKind "Backend" world) :
    Connecting (stateAfter (fileChanged pathname data) world) := by
  have linking : Linking { world with dirtyRouters := [] } :=
    ⟨⟨connecting.only.1, rfl, connecting.only.2, connecting.only.3⟩, connecting.linked⟩
  have changed := linking.change onBackend
  rw [stateAfter_withoutRouters onBackend] at changed
  obtain ⟨dirtyBackends, dirtyTimeout, same⟩ := stateAfter_backendFile onBackend
  have named : FindsNamed (stateAfter (fileChanged pathname data) world).store := by
    rw [same]
    exact connecting.named.changeFile pathname data
  exact ⟨⟨changed.only.gateways, changed.only.policies, changed.only.resources⟩, named,
    changed.linked⟩

/-! A flush. -/

theorem Connecting.refreshed {world : World Modules} (connecting : Connecting world)
    (keeps : KeepsLinks engine world) :
    ∃ modules, runCalls (moduleRuntime engine) world.store (world.dirtyBackends.map .backend)
        world.modules = some modules ∧ Linked world.store (fun _ => False) [] modules := by
  have linking : Linking { world with dirtyRouters := [] } :=
    ⟨⟨connecting.only.1, rfl, connecting.only.2, connecting.only.3⟩, connecting.linked⟩
  obtain ⟨modules, settled, _⟩ := runCalls_backends world.dirtyBackends (fun _ was => was)
    connecting.linked.coherent fun value member => keeps.readable value.toKey ⟨value, member, rfl⟩
  obtain ⟨others, updaterCalls, same, linked⟩ :=
    @Linking.flush engine acceptAll { world with dirtyRouters := [] } linking
      ⟨keeps.presence, keeps.readable⟩
  have ran := @backendFlush_eq engine acceptAll { world with dirtyRouters := [] } linking.only
    modules settled
  rw [stateAfter, ran] at same
  have again : modules = others := congrArg World.modules same
  exact ⟨modules, settled, again ▸ linked⟩

theorem keeps_routeUpdaters (named : FindsNamed store) (routerKey : String) (listener : Value)
    (routes : List Resource) :
    Keeps (Linked store (fun _ => False) [])
      (runUpdatersOf engine (.route routerKey listener routes) store) := by
  intro modules linked
  have unfolded : runUpdatersOf engine (.route routerKey listener routes) store modules =
      forM (modules.updaters.registered "Route" routerKey)
        (runCallback engine store (.route routerKey listener routes))
        { modules with updaters := modules.updaters.drop "Route" routerKey } :=
    runUpdatersOf_run _ rfl modules
  have same (name : String) : (modules.updaters.drop "Route" routerKey).registered "Backend" name =
      modules.updaters.registered "Backend" name := by
    simp [Updaters.registered_drop]
  have dropped : Linked store (fun _ => False) []
      { modules with updaters := modules.updaters.drop "Route" routerKey } := by
    refine ⟨⟨fun name ref member => ?_, linked.coherent.named, fun name ref cached => ?_⟩,
      linked.targets⟩
    · rw [same] at member
      exact linked.coherent.registered name ref member
    · rw [same]
      exact linked.coherent.refreshed name ref cached
  rw [Ends, unfolded, ← Ends]
  refine keeps_forM (fun cb member => ?_) _ dropped
  have home := modules.updaters.home "Route" routerKey cb member
  cases cb with
  | backend ref name => simp [Callback.homes] at home
  | healthCheck ref name => simp [Callback.homes] at home
  | router ref key =>
      unfold runCallback
      refine keeps_get_bind fun before _ => ?_
      dsimp only
      split
      · exact keeps_pure _ _
      · exact (keeps_ofExcept _ _).bind fun args => keeps_routerUpdate named ref key _ _

theorem keeps_updateRouter_connected (named : FindsNamed store) (key : DirtyRouter) :
    Keeps (Connected store) (updateRouter (moduleRuntime engine) gatewayFilter key) := by
  rintro world ⟨rfl, only, linked⟩
  rw [Ends, updateRouter_run, ← Ends, ends_bind, ends_ofExcept]
  cases called : routerCall (moduleRuntime engine).toNumber gatewayFilter world.store key with
  | error thrown => exact ⟨rfl, only, linked⟩
  | ok target =>
      cases target with
      | none => exact ⟨rfl, only, linked⟩
      | some call =>
          obtain ⟨other, listener, routes, rfl, _⟩ := (routerCall_eq_some _ _ _ _ _).mp called
          dsimp only [Option.elim_some]
          rw [runUpdaters, ends_bind, ends_modify, ends_bind, ends_get, ends_onModules]
          have kept (after : Modules) (still : Linked world.store (fun _ => False) [] after) :
              Connected world.store { world with
                updaterCalls := world.updaterCalls ++ [.route other listener routes]
                modules := after } :=
            ⟨rfl, ⟨only.1, only.2, only.3⟩, still⟩
          exact (keeps_routeUpdaters named other listener routes world.modules linked).mono
            (fun _ => kept) fun _ => kept

theorem Connecting.flush {world : World Modules} (connecting : Connecting world)
    (keeps : KeepsLinks engine world) :
    Connected world.store
      (stateAfter (updateDirtyResources (moduleRuntime engine) gatewayFilter) world) := by
  obtain ⟨modules, settled, linked⟩ := connecting.refreshed keeps
  have backends := @backends_run _ (moduleRuntime engine) world.dirtyBackends world
  rw [settled] at backends
  have unfolded : updateDirtyResources (moduleRuntime engine) gatewayFilter world =
      ((forM world.dirtyBackends fun name => runUpdaters (moduleRuntime engine) (.backend name)) >>=
        fun _ => do
          forM (← get).dirtyRouters (updateRouter (moduleRuntime engine) gatewayFilter)
          afterRouters (moduleRuntime engine) gatewayFilter) world := rfl
  rw [stateAfter, unfolded, run_bind_ok backends, run_get_bind]
  have looped := (keeps_forM fun key (_ : key ∈ world.dirtyRouters) =>
    @keeps_updateRouter_connected engine gatewayFilter world.store connecting.named key)
    { world with
      updaterCalls := world.updaterCalls ++ world.dirtyBackends.map .backend, modules := modules }
    ⟨rfl, ⟨connecting.only.1, connecting.only.2, connecting.only.3⟩, linked⟩
  rw [Ends] at looped
  dsimp only
  cases ran : forM world.dirtyRouters (updateRouter (moduleRuntime engine) gatewayFilter)
      { world with
        updaterCalls := world.updaterCalls ++ world.dirtyBackends.map .backend
        modules := modules } with
  | error thrown after =>
      rw [ran] at looped
      rw [run_bind_error ran]
      exact looped
  | ok value after =>
      rw [ran] at looped
      rw [run_bind_ok ran, afterRouters_idle looped.only.policies looped.only.gateways
        looped.only.resources]
      exact ⟨looped.holds, ⟨rfl, rfl, rfl⟩, looped.linked⟩

/-! The run. -/

theorem connecting_started (initial : Table Value) :
    Connecting (World.started (moduleRuntime engine) gatewayFilter initial Modules.empty) := by
  have linking : Linking (World.started (moduleRuntime engine) gatewayFilter initial
    Modules.empty) := linking_started initial
  refine ⟨⟨linking.only.1, linking.only.3, linking.only.4⟩, fun name resource found => ?_,
    linking.linked⟩
  have started : StartedRouters engine gatewayFilter (Store.init initial.entries)
      (World.started (moduleRuntime engine) gatewayFilter initial Modules.empty) :=
    started_startGateways initial
  rw [started.holds] at found
  obtain ⟨_, _, keyed⟩ := (loaded_init initial).indexed.sound "Backend" name resource found
  exact (name_of_indexKey keyed).2

/-- Over a run of changed routes and Backends and of flushes that keep the links, every flush
leaves the live routers following the Backends in the store, also one that throws. -/
theorem linkRun_follows (engine : ModuleEngine) (gatewayFilter : GatewayFilter)
    (initial : Table Value) (events : List GatewayEvent)
    (files : EveryStep (GatewayEvent.step (moduleRuntime engine) gatewayFilter)
      GatewayEvent.OnLinks
      (World.started (moduleRuntime engine) gatewayFilter initial Modules.empty) events)
    (keeps : EveryStep (GatewayEvent.step (moduleRuntime engine) gatewayFilter)
      (GatewayEvent.MeetsLinks engine)
      (World.started (moduleRuntime engine) gatewayFilter initial Modules.empty) events) :
    EveryStep (GatewayEvent.step (moduleRuntime engine) gatewayFilter)
      (GatewayEvent.LeavesFollowing engine gatewayFilter)
      (World.started (moduleRuntime engine) gatewayFilter initial Modules.empty) events := by
  refine (files.and keeps).gives ?_ ?_ (connecting_started initial)
  · rintro before (_ | _) connecting ⟨onLinks, meets⟩
    · rcases onLinks with onBackend | routes
      · exact connecting.changeBackend onBackend
      · exact connecting.changeRoute routes
    · exact (connecting.flush (meets rfl)).connecting connecting.named
  · rintro before (_ | _) connecting ⟨_, meets⟩ event
    · cases event
    · have connected := @Connecting.flush engine gatewayFilter before connecting (meets rfl)
      have follows := connected.linked.follows
      rw [← connected.holds] at follows
      exact follows

/-! A route that moves to a Backend which is new. -/

def movedBackend : Value :=
  .obj [("kind", .str "Backend"), ("metadata", .obj [("name", .str "c")]),
    ("spec", .obj [("targets", .arr [.obj [("address", .str "new"), ("port", .num "8080")]])])]

theorem movedBackend_followed :
    EveryStep (GatewayEvent.step (moduleRuntime plainEngine) acceptAll)
      (GatewayEvent.LeavesFollowing plainEngine acceptAll)
      (World.started (moduleRuntime plainEngine) acceptAll withBackend Modules.empty)
      [.change "c.json" movedBackend, .change "route.json" movedRoute, .flush] := by
  refine linkRun_follows plainEngine acceptAll withBackend
    [.change "c.json" movedBackend, .change "route.json" movedRoute, .flush]
    ⟨Or.inl ⟨fun _ => rfl, by rintro old ⟨⟩⟩, Or.inr ?_, trivial, trivial⟩
    ⟨by rintro ⟨⟩, by rintro ⟨⟩, fun _ => ⟨fun target live name names dirty => ?_,
      fun name dirty => ?_⟩, trivial⟩
  · rintro version (⟨_, rfl⟩ | found)
    · rfl
    · cases found
      rfl
  · have same : target = ⟨.obj [("name", .str "b")], some ⟨2, linkBackend "old"⟩, some 0⟩ :=
      List.mem_singleton.mp live
    subst same
    obtain ⟨_, named⟩ := names
    cases named
    obtain ⟨value, member, same⟩ := dirty
    obtain rfl : value = .str "c" := List.mem_singleton.mp member
    exact absurd same (by decide)
  · obtain ⟨value, member, rfl⟩ := dirty
    obtain rfl : value = .str "c" := List.mem_singleton.mp member
    intro cb registered
    cases registered

end Fgw
