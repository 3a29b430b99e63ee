import Fgw.GatewayTimer
import Fgw.LinksInForce

/-!
Whether a gateway that has been running agrees with one that is started on the same directory.
The store keeps in step with the directory, the routers with the routes of the store and their
links with its Backends; what a flush leaves is then what a fresh load would give, but for the
order in which routes are listed.
-/

namespace Fgw

/-- The filter goes by what a gateway says. -/
def ReadsData (gatewayFilter : GatewayFilter) : Prop :=
  ∀ gateway other : Resource, gateway.data = other.data →
    gatewayFilter (some gateway) = gatewayFilter (some other)

/-- Each router key belongs to one listener. -/
def OneListener (gatewayFilter : GatewayFilter) (store : Store) : Prop :=
  ∀ routerKey gateway listener other twin, KeyOf gatewayFilter store routerKey gateway listener →
    KeyOf gatewayFilter store routerKey other twin → gateway.data = other.data ∧ listener = twin

/-- The stores hold the same documents, perhaps in another order. -/
structure Alike (left right : Store) : Prop where
  lists : ∀ kind, ((left.list kind).map Resource.data).Perm ((right.list kind).map Resource.data)
  finds : ∀ kind name, (left.find kind name).map Resource.data =
    (right.find kind name).map Resource.data

/-- The router goes by the routes that the store has for a listener of its key, in any order. -/
def Serves (toNumber : String → String) (gatewayFilter : GatewayFilter) (store : Store)
    (modules : Modules) (routerKey : String) (ref : Nat) : Prop :=
  ∃ gateway listener held routes, KeyOf gatewayFilter store routerKey gateway listener ∧
    MadeFor ref listener held modules ∧
    findRouteResources toNumber store gateway.data listener = .ok routes ∧
    (held.map Resource.data).Perm (routes.map Resource.data)

/-- Routers of one key are made for one listener and the same routes, and references to one
Backend lead to the same targets. -/
structure Agrees (running restarted : Modules) (watching : String → Nat → Prop) : Prop where
  routes : ∀ routerKey ref other, watching routerKey ref →
    .router other routerKey ∈ restarted.updaters.registered "Route" routerKey →
      ∃ listener held routes, MadeFor ref listener held running ∧
        MadeFor other listener routes restarted ∧
        (held.map Resource.data).Perm (routes.map Resource.data)
  targets : ∀ target ∈ liveTargets running.routers, ∀ twin ∈ liveTargets restarted.routers,
    ∀ name, target.Names name → twin.Names name → forwards running target = forwards restarted twin

/-- The running modules stand to a fresh load of the directory, as it lists its files, and to a
gateway started on it. -/
structure AsRestarted (engine : ModuleEngine) (gatewayFilter : GatewayFilter)
    (watching : String → Nat → Prop) (listing : Table Value) (running : Modules) : Prop where
  serves : ∀ routerKey ref, watching routerKey ref →
    Serves engine.toNumber gatewayFilter (Store.init listing.entries) running routerKey ref
  follows : Follows (Store.init listing.entries) running
  agrees : Agrees running
    (World.started (moduleRuntime engine) gatewayFilter listing Modules.empty).modules watching

variable {engine : ModuleEngine} {gatewayFilter : GatewayFilter} {left right : Store}
variable {watching : String → Nat → Prop}

/-! What is read from stores that are alike. -/

theorem Alike.symm (alike : Alike left right) : Alike right left :=
  ⟨fun kind => (alike.lists kind).symm, fun kind name => (alike.finds kind name).symm⟩

theorem Alike.listed (alike : Alike left right) {kind : String} {resource : Resource}
    (listed : resource ∈ left.list kind) :
    ∃ twin ∈ right.list kind, twin.data = resource.data := by
  have found := (alike.lists kind).subset (List.mem_map_of_mem listed)
  exact List.mem_map.mp found

theorem attached_data (toNumber : String → String) (gateway listener : Value)
    {route other : Resource} (same : route.data = other.data) :
    attached toNumber gateway listener route = attached toNumber gateway listener other := by
  rw [attached, attached, same]

theorem findRouteResources_alike {toNumber : String → String} (alike : Alike left right)
    {gateway listener : Value} {routes : List Resource}
    (collected : findRouteResources toNumber left gateway listener = .ok routes) :
    ∃ others, findRouteResources toNumber right gateway listener = .ok others ∧
      (routes.map Resource.data).Perm (others.map Resource.data) := by
  let test := attached toNumber gateway listener
  let accepts : Value → Bool := fun data => passes test ⟨0, data⟩
  have byData (store : Store) :
      (((routeKinds listener).flatMap store.list).filter (passes test)).map Resource.data =
        ((routeKinds listener).flatMap fun kind => (store.list kind).map Resource.data).filter
          accepts := by
    rw [← List.map_flatMap, List.filter_map]
    rfl
  unfold findRouteResources at collected ⊢
  rw [filterM_eq_ok] at collected
  obtain ⟨sound, rfl⟩ := collected
  refine ⟨_, (filterM_eq_ok _ _ _).mpr ⟨fun route member => ?_, rfl⟩, ?_⟩
  · obtain ⟨kind, taken, listed⟩ := List.mem_flatMap.mp member
    obtain ⟨twin, there, same⟩ := alike.symm.listed listed
    rw [← attached_data toNumber gateway listener same]
    exact sound twin (List.mem_flatMap.mpr ⟨kind, taken, there⟩)
  · rw [byData, byData]
    exact (List.Perm.flatMap_left _ fun kind _ => alike.lists kind).filter _

theorem KeyOf.alike (alike : Alike left right) (reads : ReadsData gatewayFilter)
    {routerKey : String} {gateway : Resource} {listener : Value}
    (keyOf : KeyOf gatewayFilter left routerKey gateway listener) :
    ∃ other, other.data = gateway.data ∧ KeyOf gatewayFilter right routerKey other listener := by
  obtain ⟨other, there, same⟩ := alike.listed keyOf.listed
  refine ⟨other, same, there, (reads other gateway same).trans keyOf.accepted, ?_, ?_⟩
  · rw [listenersOf, same]
    exact keyOf.declared
  · rw [same]
    exact keyOf.key

theorem OneListener.alike (alike : Alike left right) (reads : ReadsData gatewayFilter)
    (one : OneListener gatewayFilter left) : OneListener gatewayFilter right := by
  intro routerKey gateway listener other twin first second
  obtain ⟨_, sameFirst, first⟩ := first.alike alike.symm reads
  obtain ⟨_, sameSecond, second⟩ := second.alike alike.symm reads
  rw [← sameFirst, ← sameSecond]
  exact one routerKey _ listener _ twin first second

theorem getTargets_data {resource other : Resource} (same : resource.data = other.data) :
    getTargets (some resource) = getTargets (some other) := by
  have made : makeTarget resource = makeTarget other := by
    funext target
    rw [makeTarget, makeTarget, same]
  simp only [getTargets, same, made]

theorem Follows.alike {modules : Modules} (alike : Alike left right)
    (follows : Follows left modules) : Follows right modules := by
  intro target live name names
  have leads := follows target live name names
  have same := alike.finds "Backend" name
  cases here : left.find "Backend" name with
  | none =>
      rw [here] at leads same
      rw [Option.map_none, eq_comm, Option.map_eq_none_iff] at same
      rw [same]
      exact leads
  | some resource =>
      rw [here] at leads same
      obtain ⟨twin, there, data⟩ := Option.map_eq_some_iff.mp same.symm
      rw [there]
      exact (getTargets_data data).trans leads

theorem RouterFor.serves_alike {toNumber : String → String} {modules : Modules}
    {routerKey : String} {ref : Nat}
    (router : RouterFor toNumber gatewayFilter left [] modules routerKey ref)
    (alike : Alike left right) (reads : ReadsData gatewayFilter) :
    Serves toNumber gatewayFilter right modules routerKey ref := by
  obtain ⟨gateway, listener, held, keyOf, made, current⟩ := router.serves
  have collected := current.resolve_right fun ⟨_, member, _⟩ => List.not_mem_nil member
  obtain ⟨other, same, there⟩ := keyOf.alike alike reads
  obtain ⟨routes, others, perm⟩ := findRouteResources_alike alike collected
  exact ⟨other, listener, held, routes, there, made, same ▸ others, perm⟩

theorem Serves.agree {toNumber : String → String} {store : Store} {running restarted : Modules}
    {routerKey : String} {ref other : Nat} (one : OneListener gatewayFilter store)
    (here : Serves toNumber gatewayFilter store running routerKey ref)
    (there : Serves toNumber gatewayFilter store restarted routerKey other) :
    ∃ listener held routes, MadeFor ref listener held running ∧
      MadeFor other listener routes restarted ∧
      (held.map Resource.data).Perm (routes.map Resource.data) := by
  obtain ⟨gateway, listener, held, routes, keyOf, made, collected, perm⟩ := here
  obtain ⟨twin, twinListener, twinHeld, others, twinKey, twinMade, twinCollected, twinPerm⟩ := there
  obtain ⟨same, rfl⟩ := one routerKey gateway listener twin twinListener keyOf twinKey
  rw [same, twinCollected] at collected
  cases collected
  exact ⟨listener, held, twinHeld, made, twinMade, perm.trans twinPerm.symm⟩

theorem Follows.agree {store : Store} {running restarted : Modules}
    (here : Follows store running) (there : Follows store restarted) {target twin : BackendTarget}
    (live : target ∈ liveTargets running.routers) (twinLive : twin ∈ liveTargets restarted.routers)
    {name : String} (names : target.Names name) (twinNames : twin.Names name) :
    forwards running target = forwards restarted twin := by
  have leads := here target live name names
  have twinLeads := there twin twinLive name twinNames
  cases found : store.find "Backend" name with
  | none =>
      rw [found] at leads twinLeads
      exact leads.trans twinLeads.symm
  | some resource =>
      rw [found] at leads twinLeads
      exact Except.ok.inj (leads.symm.trans twinLeads)

/-! The run. -/

namespace GatewayEvent

/-- What the event writes to the directory. -/
def written : GatewayEvent → Option Change
  | change pathname data => some ⟨pathname, data⟩
  | flush => none

theorem OnRoutesOrBackends.onLinks {toNumber : String → String} {world : World Modules}
    {event : GatewayEvent} (on : event.OnRoutesOrBackends toNumber gatewayFilter world) :
    event.OnLinks world := by
  cases event with
  | flush => trivial
  | change pathname data =>
      rcases on with ⟨new, old⟩ | onBackend
      · refine Or.inr fun version one => ?_
        rcases one with ⟨present, rfl⟩ | found
        · exact (new present).kind
        · exact (old version found).kind
      · exact Or.inl onBackend

end GatewayEvent

/-- The directory after the events. -/
def directoryAfter (initial : Table Value) (events : List GatewayEvent) : Directory :=
  (Directory.start initial).run (events.filterMap GatewayEvent.written)

/-- The requirements on one event of the run. -/
structure Reloadable (engine : ModuleEngine) (gatewayFilter : GatewayFilter)
    (world : World Modules) (event : GatewayEvent) : Prop where
  files : event.OnRoutesOrBackends engine.toNumber gatewayFilter world
  completes : event.Completes (moduleRuntime engine) gatewayFilter world
  keeps : event.MeetsLinks engine world

/-- Between events. -/
structure Reloading (engine : ModuleEngine) (gatewayFilter : GatewayFilter)
    (watching : String → Nat → Prop) (world : World Modules) : Prop where
  routing : Routing engine gatewayFilter watching world
  connecting : Connecting world

theorem Reloading.step {world : World Modules}
    (reloading : Reloading engine gatewayFilter watching world) {event : GatewayEvent}
    (meets : Reloadable engine gatewayFilter world event) :
    Reloading engine gatewayFilter watching
        (event.step (moduleRuntime engine) gatewayFilter world) ∧
      (event.step (moduleRuntime engine) gatewayFilter world).store =
        event.written.elim world.store fun change =>
          (world.store.changeFile change.pathname change.data).1 := by
  obtain ⟨files, completes, keeps⟩ := meets
  cases event with
  | flush =>
      have connected := @Connecting.flush engine gatewayFilter world reloading.connecting
        (keeps rfl)
      exact ⟨⟨(reloading.routing.flush (completes rfl)).1,
        connected.connecting reloading.connecting.named⟩, connected.holds⟩
  | change pathname data =>
      refine ⟨⟨?_, ?_⟩, store_fileChanged pathname data world⟩
      · rcases files with onRoutes | onBackend
        · exact reloading.routing.change onRoutes
        · exact reloading.routing.changeBackend onBackend
      · rcases files.onLinks with onBackend | routes
        · exact reloading.connecting.changeBackend onBackend
        · exact reloading.connecting.changeRoute routes

theorem Reloading.run {world : World Modules} {directory : Directory}
    (reloading : Reloading engine gatewayFilter watching world)
    (stored : world.store = directory.store) {events : List GatewayEvent}
    (meets : EveryStep (GatewayEvent.step (moduleRuntime engine) gatewayFilter)
      (Reloadable engine gatewayFilter) world events) :
    Reloading engine gatewayFilter watching
        (events.foldl (GatewayEvent.step (moduleRuntime engine) gatewayFilter) world) ∧
      (events.foldl (GatewayEvent.step (moduleRuntime engine) gatewayFilter) world).store =
        (directory.run (events.filterMap GatewayEvent.written)).store := by
  induction events generalizing world directory with
  | nil => exact ⟨reloading, stored⟩
  | cons event rest ih =>
      obtain ⟨next, held⟩ := reloading.step meets.1
      cases event with
      | flush => exact ih next (held.trans stored) meets.2
      | change pathname data =>
          refine @ih _ (directory.change ⟨pathname, data⟩) next (held.trans ?_) meets.2
          rw [stored]
          rfl

theorem InStep.alike {directory : Directory} (inStep : InStep directory)
    (distinct : DistinctNames directory.disk) {listing : Table Value}
    (perm : listing.entries.Perm directory.disk.entries) :
    Alike directory.store (Store.init listing.entries) := by
  have same (pathname : String) :
      directory.disk.get? pathname = (Directory.start listing).disk.get? pathname := by
    apply Option.ext
    intro data
    rw [Table.get?_eq_some]
    exact perm.mem_iff.symm.trans (Table.get?_eq_some listing pathname data).symm
  have answers := inStep.answers_eq (inStep_start listing) same distinct
  exact ⟨answers.1, answers.2⟩

/-- A gateway that has been started has nothing to refresh. -/
theorem follows_started (initial : Table Value) :
    Follows (Store.init initial.entries)
      (World.started (moduleRuntime engine) gatewayFilter initial Modules.empty).modules := by
  let world := World.started (moduleRuntime engine) gatewayFilter initial Modules.empty
  have started : StartedRouters engine gatewayFilter (Store.init initial.entries) world :=
    started_startGateways initial
  have linking : Linking world := linking_started initial
  have idle (name : String) : ¬ IsDirty world name := by
    rintro ⟨value, member, _⟩
    rw [(settled_started initial Modules.empty).1.dirtyBackends] at member
    exact List.not_mem_nil member
  have linked : Linked world.store (fun _ => False) [] world.modules :=
    linking.linked.change (fun name dirty => idle name dirty) fun _ _ => rfl
  rw [started.holds] at linked
  exact linked.follows

/-- What a flush leaves, beside a gateway that is started on a directory of the same documents. -/
theorem Reloading.restarts {world : World Modules}
    (reloading : Reloading engine gatewayFilter watching world)
    (meets : Reloadable engine gatewayFilter world .flush) (reads : ReadsData gatewayFilter)
    (one : OneListener gatewayFilter world.store) (listing : Table Value)
    (alike : Alike world.store (Store.init listing.entries)) :
    AsRestarted engine gatewayFilter watching listing
      (GatewayEvent.flush.step (moduleRuntime engine) gatewayFilter world).modules := by
  let running := (GatewayEvent.flush.step (moduleRuntime engine) gatewayFilter world).modules
  let restarted := World.started (moduleRuntime engine) gatewayFilter listing Modules.empty
  obtain ⟨_, completes, keeps⟩ := meets
  have connected := @Connecting.flush engine gatewayFilter world reloading.connecting (keeps rfl)
  have serves (routerKey : String) (ref : Nat) (watched : watching routerKey ref) :
      Serves engine.toNumber gatewayFilter (Store.init listing.entries) running routerKey ref := by
    have inForce := (reloading.routing.flush (completes rfl)).2 routerKey ref watched
    rw [RouterInForce, GatewayEvent.step, connected.holds] at inForce
    exact inForce.serves_alike alike reads
  have follows : Follows (Store.init listing.entries) running :=
    connected.linked.follows.alike alike
  -- The restarted gateway stands to the store it has loaded as any gateway does after a flush.
  have started : StartedRouters engine gatewayFilter (Store.init listing.entries) restarted :=
    started_startGateways listing
  have itself : Alike (Store.init listing.entries) (Store.init listing.entries) :=
    ⟨fun _ => .refl _, fun _ _ => rfl⟩
  have again : Follows (Store.init listing.entries) restarted.modules :=
    follows_started listing
  exact ⟨serves, follows,
    fun routerKey ref other watched fresh => (serves routerKey ref watched).agree
      (one.alike alike reads) ((started.routers routerKey other fresh).serves_alike itself reads),
    fun _ live _ twinLive _ names twinNames => follows.agree again live twinLive names twinNames⟩

/-- Once a run of changed routes and Backends is over and flushed, the routers go by the routes, and
their references by the Backends, that a fresh load of the directory gives, however it is listed;
and a gateway that is started on the directory agrees with the one that has been running. -/
theorem hotReload_restarts (engine : ModuleEngine) (gatewayFilter : GatewayFilter)
    (reads : ReadsData gatewayFilter) (initial : Table Value) (events : List GatewayEvent)
    (meets : EveryStep (GatewayEvent.step (moduleRuntime engine) gatewayFilter)
      (Reloadable engine gatewayFilter)
      (World.started (moduleRuntime engine) gatewayFilter initial Modules.empty)
      (events ++ [GatewayEvent.flush]))
    (sound : ChangesSound (Directory.start initial) (events.filterMap GatewayEvent.written))
    (distinct : DistinctNames (directoryAfter initial events).disk)
    (one : OneListener gatewayFilter (directoryAfter initial events).store) (listing : Table Value)
    (perm : listing.entries.Perm (directoryAfter initial events).disk.entries) :
    AsRestarted engine gatewayFilter
      (WatchesRoutes (World.started (moduleRuntime engine) gatewayFilter initial Modules.empty))
      listing
      ((events ++ [GatewayEvent.flush]).foldl
        (GatewayEvent.step (moduleRuntime engine) gatewayFilter)
        (World.started (moduleRuntime engine) gatewayFilter initial Modules.empty)).modules := by
  let started := World.started (moduleRuntime engine) gatewayFilter initial Modules.empty
  obtain ⟨earlier, last, _⟩ := (everyStep_append _ _ _ _ _).mp meets
  have began : StartedRouters engine gatewayFilter (Store.init initial.entries) started :=
    started_startGateways initial
  have begun : Reloading engine gatewayFilter (WatchesRoutes started) started :=
    ⟨routing_started initial, connecting_started initial⟩
  have stored : started.store = (Directory.start initial).store := began.holds
  obtain ⟨reloading, kept⟩ := begun.run stored earlier
  have inStep : InStep (directoryAfter initial events) :=
    (inStep_start initial).run (events.filterMap GatewayEvent.written) sound
  rw [List.foldl_append]
  exact reloading.restarts last reads (kept ▸ one) listing (kept ▸ inStep.alike distinct perm)

/-! A route that moves to a Backend which is new. -/

theorem distinctNames_of_nodup {disk : Table Value}
    (nodup : (disk.entries.map fun file => indexKey file.2).Nodup) : DistinctNames disk := by
  intro pathname other data twin key present twinPresent _ _ keyed twinKeyed
  rw [Table.get?_eq_some] at present twinPresent
  have same := List.inj_on_of_nodup_map nodup present twinPresent (keyed.trans twinKeyed.symm)
  exact congrArg Prod.fst same

theorem unshared_of_nodup {store : Store}
    (nodup : (store.files.entries.map fun file => indexKey file.2.data).Nodup)
    (pathname : String) : Unshared store pathname := by
  intro old found key keyed other resource present shared
  rw [Table.get?_eq_some] at found present
  have same := List.inj_on_of_nodup_map nodup present found (shared.trans keyed.symm)
  exact congrArg Prod.fst same

def moveBackend : List GatewayEvent :=
  [.change "c.json" movedBackend, .change "route.json" movedRoute]

theorem movedGateways : (directoryAfter withBackend moveBackend).store.list "Gateway" =
    [⟨0, linkGateway⟩] := by rfl

theorem moveBackend_restarts :
    AsRestarted plainEngine acceptAll
      (WatchesRoutes
        (World.started (moduleRuntime plainEngine) acceptAll withBackend Modules.empty))
      (directoryAfter withBackend moveBackend).disk
      ((moveBackend ++ [GatewayEvent.flush]).foldl
        (GatewayEvent.step (moduleRuntime plainEngine) acceptAll)
        (World.started (moduleRuntime plainEngine) acceptAll withBackend
          Modules.empty)).modules := by
  refine hotReload_restarts plainEngine acceptAll (fun _ _ _ => rfl) withBackend moveBackend
    ⟨⟨Or.inr ⟨fun _ => rfl, by rintro old ⟨⟩⟩, by rintro ⟨⟩, by rintro ⟨⟩⟩,
      ⟨Or.inl ⟨fun _ => routeDocument_link rfl rfl rfl, ?_⟩, by rintro ⟨⟩, by rintro ⟨⟩⟩,
      ⟨Or.inl trivial, fun _ => trivial, fun _ => ⟨fun target live name names dirty => ?_,
        fun name dirty => ?_⟩⟩, trivial⟩
    ⟨⟨fun _ => by decide, unshared_of_nodup (by decide) _⟩,
      ⟨fun _ => by decide, unshared_of_nodup (by decide) _⟩, trivial⟩
    (distinctNames_of_nodup (by decide)) ?_ (directoryAfter withBackend moveBackend).disk (.refl _)
  · rintro old ⟨⟩
    exact routeDocument_link rfl rfl rfl
  · have same : target = ⟨.obj [("name", .str "b")], some ⟨2, linkBackend "old"⟩, some 0⟩ :=
      List.mem_singleton.mp live
    subst same
    obtain ⟨_, named⟩ := names
    cases named
    obtain ⟨value, member, same⟩ := dirty
    obtain rfl : value = .str "c" := List.mem_singleton.mp member
    exact absurd same (by decide)
  · obtain ⟨value, member, rfl⟩ := dirty
    obtain rfl : value = .str "c" := List.mem_singleton.mp member
    intro cb registered
    cases registered
  · rintro routerKey gateway listener other twin ⟨listed, _, declared, _⟩ ⟨twinListed, _, has, _⟩
    rw [movedGateways, List.mem_singleton] at listed twinListed
    subst listed twinListed
    exact ⟨rfl, (List.mem_singleton.mp declared).trans (List.mem_singleton.mp has).symm⟩

end Fgw
