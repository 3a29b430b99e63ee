import Fgw.BackendLinks
import Fgw.GatewayFlush
import Fgw.RouterUpdates

/-!
Whether routers go by the routes of the store.  A changed route leaves the keys of its parent
references for the flush, and where the references that attach routes to a listener also find it,
no router is left behind.
-/

namespace Fgw

/-- An accepted gateway has the listener, and this is its router key. -/
structure KeyOf (gatewayFilter : GatewayFilter) (store : Store) (routerKey : String)
    (gateway : Resource) (listener : Value) : Prop where
  listed : gateway ∈ store.list "Gateway"
  accepted : gatewayFilter (some gateway) = .ok true
  declared : listener ∈ listenersOf gateway
  key : ∃ listenerKey, makeListenerKey listener = .ok listenerKey ∧
    makeRouterKey gateway.data listenerKey = .ok routerKey

/-- The flush comes to the listener for this dirty key. -/
structure Finds (gatewayFilter : GatewayFilter) (store : Store) (key : DirtyRouter)
    (gateway : Resource) (listener : Value) : Prop where
  gatewayKind : key.kind = .str "Gateway"
  named : (store.list "Gateway").find? (fun gateway => (nameOf gateway.data).strictEq key.name) =
    some gateway
  listener : ∃ listeners front back, (gateway.data.opt "spec").opt "listeners" = .arr listeners ∧
    listeners = front ++ listener :: back ∧
    (∀ other ∈ front, listenerMatches key other = .ok false) ∧
    listenerMatches key listener = .ok true ∧ listener.truthy = true

/-- A route whose references to a listener find it. -/
structure RouteDocument (toNumber : String → String) (gatewayFilter : GatewayFilter)
    (store : Store) (route : Resource) : Prop where
  kind : roleOf (kindOf route.data) = .route
  present : ∀ ref ∈ parentRefs route, ref.nullish = false
  found : ∀ ref ∈ parentRefs route, ∀ gateway ∈ store.list "Gateway",
    gatewayFilter (some gateway) = .ok true → ∀ listener ∈ listenersOf gateway,
      refersTo toNumber gateway.data listener ref = .ok true →
        Finds gatewayFilter store (refKey ref) gateway listener

/-- The router is watching, and what it was made for is in force or a dirty key leads to it. -/
structure RouterFor (toNumber : String → String) (gatewayFilter : GatewayFilter) (store : Store)
    (dirty : List DirtyRouter) (modules : Modules) (routerKey : String) (ref : Nat) : Prop where
  watched : modules.updaters.registered "Route" routerKey = [.router ref routerKey]
  serves : ∃ gateway listener routes, KeyOf gatewayFilter store routerKey gateway listener ∧
    MadeFor ref listener routes modules ∧
    (findRouteResources toNumber store gateway.data listener = .ok routes ∨
      ∃ key ∈ dirty, Finds gatewayFilter store key gateway listener)

/-- The router is watching, and goes by exactly the routes of the store that are attached to a
listener of its key. -/
def RouterInForce (toNumber : String → String) (gatewayFilter : GatewayFilter)
    (world : World Modules) (routerKey : String) (ref : Nat) : Prop :=
  RouterFor toNumber gatewayFilter world.store [] world.modules routerKey ref

variable {engine : ModuleEngine} {gatewayFilter : GatewayFilter} {store : Store}

theorem listener_mem {gateway : Resource} {listener : Value} {listeners front back : List Value}
    (read : (gateway.data.opt "spec").opt "listeners" = .arr listeners)
    (placed : listeners = front ++ listener :: back) : listener ∈ listenersOf gateway := by
  rw [listenersOf, read]
  simp [Value.array?, placed]

theorem RoutesTo.keyOf {toNumber : String → String} {key : DirtyRouter} {routerKey : String}
    {listener : Value} {routes : List Resource}
    (leads : RoutesTo toNumber gatewayFilter store key routerKey listener routes) :
    ∃ gateway, KeyOf gatewayFilter store routerKey gateway listener ∧
      findRouteResources toNumber store gateway.data listener = .ok routes := by
  obtain ⟨_, gateway, listeners, front, back, listenerKey, named, accepted, read, placed, _, _, _,
    keyed, routed, collected⟩ := leads
  exact ⟨gateway, ⟨List.mem_of_find?_eq_some named, accepted, listener_mem read placed,
    listenerKey, keyed, routed⟩, collected⟩

/-- A dirty key that finds the listener updates its router, unless the flush throws. -/
theorem Finds.routesTo {toNumber : String → String} {key : DirtyRouter} {routerKey : String}
    {gateway : Resource} {listener : Value} (finds : Finds gatewayFilter store key gateway listener)
    (keyOf : KeyOf gatewayFilter store routerKey gateway listener) {target : Option UpdaterCall}
    (called : routerCall toNumber gatewayFilter store key = .ok target) :
    ∃ routes, target = some (.route routerKey listener routes) ∧
      findRouteResources toNumber store gateway.data listener = .ok routes := by
  obtain ⟨listeners, front, back, read, placed, before, here, present⟩ := finds.listener
  obtain ⟨listenerKey, keyed, routed⟩ := keyOf.key
  have matched := (findM?_eq_some listeners (listenerMatches key) listener).mpr
    ⟨front, back, placed, before, here⟩
  have kind : key.kind.strictEq (.str "Gateway") = true := by
    rw [finds.gatewayKind]
    simp [Value.strictEq]
  unfold routerCall at called
  rw [finds.named] at called
  simp only [kind, Bool.not_true, Bool.false_eq_true, if_false, keyOf.accepted, read,
    Value.optItems, matched, present, keyed, routed, bind, Except.bind] at called
  cases collected : findRouteResources toNumber store gateway.data listener with
  | error thrown =>
      rw [collected] at called
      cases called
  | ok routes =>
      rw [collected] at called
      cases called
      exact ⟨routes, rfl, rfl⟩

/-! A flush. -/

/-- Nothing but routers and Backends is dirty. -/
structure OnlyLinks (world : World Modules) : Prop where
  gateways : world.dirtyGateways = []
  policies : world.dirtyPolicies = []
  resources : world.dirtyResources = []

/-- A router is registered under one key. -/
def OneKey (modules : Modules) : Prop :=
  ∀ ref key other, .router ref key ∈ modules.updaters.registered "Route" key →
    .router ref other ∈ modules.updaters.registered "Route" other → key = other

/-- While the keys `dirty` are still to be worked off. -/
structure Flushed (engine : ModuleEngine) (gatewayFilter : GatewayFilter) (store : Store)
    (watching : String → Nat → Prop) (dirty : List DirtyRouter) (world : World Modules) :
    Prop where
  holds : world.store = store
  only : OnlyLinks world
  oneKey : OneKey world.modules
  follows : ∀ routerKey ref, watching routerKey ref → world.modules.FollowsUpdates ref
  routers : ∀ routerKey ref, watching routerKey ref →
    RouterFor engine.toNumber gatewayFilter store dirty world.modules routerKey ref

variable {watching : String → Nat → Prop} {dirty : List DirtyRouter}

theorem OneKey.updated {routerKey : String} {before after : Modules} (oneKey : OneKey before)
    (updated : RouteUpdated routerKey before after) : OneKey after := by
  have earlier (key : String) (cb : Callback)
      (member : cb ∈ after.updaters.registered "Route" key) :
      cb ∈ before.updaters.registered "Route" key := by
    by_cases own : routerKey = key
    · subst own
      exact updated.own cb member
    · rwa [updated.others key own] at member
  exact fun ref key other first second =>
    oneKey ref key other (earlier key _ first) (earlier other _ second)

theorem RouterFor.updated {key : DirtyRouter} {routerKey other : String} {ref : Nat}
    {listener : Value} {routes : List Resource} {before after : Modules}
    (router : RouterFor engine.toNumber gatewayFilter store (key :: dirty) before routerKey ref)
    (oneKey : OneKey before) (follows : before.FollowsUpdates ref)
    (called : routerCall engine.toNumber gatewayFilter store key =
      .ok (some (.route other listener routes)))
    (updated : RouteUpdated other before after)
    (own : ∀ ref, before.updaters.registered "Route" other = [.router ref other] →
      before.FollowsUpdates ref →
        after.updaters.registered "Route" other = [.router ref other] ∧
          MadeFor ref listener routes after) :
    RouterFor engine.toNumber gatewayFilter store dirty after routerKey ref := by
  obtain ⟨gateway, held, made, keyOf, madeFor, current⟩ := router.serves
  by_cases same : other = routerKey
  · subst same
    obtain ⟨_, _, _, ⟨⟩, leads⟩ := (routerCall_eq_some _ _ _ _ _).mp called
    obtain ⟨found, foundKey, collected⟩ := leads.keyOf
    obtain ⟨watched, now⟩ := own ref router.watched follows
    exact ⟨watched, found, listener, routes, foundKey, now, Or.inl collected⟩
  · have apart : .router ref other ∉ before.updaters.registered "Route" other := fun member =>
      same (oneKey ref other routerKey member (by rw [router.watched]; exact List.mem_cons_self))
    refine ⟨by rw [updated.others routerKey same, router.watched], gateway, held, made, keyOf,
      ?_, current.imp_right ?_⟩
    · rw [MadeFor, updated.routers ref apart]
      exact madeFor
    · rintro ⟨dirtyKey, member, finds⟩
      rcases List.mem_cons.mp member with rfl | later
      · obtain ⟨_, target, _⟩ := finds.routesTo keyOf called
        cases target
        exact absurd rfl same
      · exact ⟨dirtyKey, later, finds⟩

theorem RouterFor.older {routerKey : String} {ref : Nat} {before after : Modules}
    (router : RouterFor engine.toNumber gatewayFilter store dirty before routerKey ref)
    (routers : ∀ other, other < before.routers.length →
      after.routers[other]? = before.routers[other]?)
    (same : after.updaters.registered "Route" routerKey =
      before.updaters.registered "Route" routerKey) :
    RouterFor engine.toNumber gatewayFilter store dirty after routerKey ref := by
  obtain ⟨gateway, listener, routes, keyOf, made, current⟩ := router.serves
  refine ⟨same.trans router.watched, gateway, listener, routes, keyOf, ?_, current⟩
  rw [MadeFor, routers ref made.inside]
  exact made

theorem ends_updateRouter_flushed (key : DirtyRouter) (world : World Modules)
    (flushed : Flushed engine gatewayFilter store watching (key :: dirty) world) :
    Ends (updateRouter (moduleRuntime engine) gatewayFilter key) world
      (fun _ after => Flushed engine gatewayFilter store watching dirty after)
      fun _ _ => True := by
  rw [Ends, updateRouter_run, ← Ends, ends_bind, ends_ofExcept, flushed.holds]
  cases called : routerCall (moduleRuntime engine).toNumber gatewayFilter store key with
  | error thrown => trivial
  | ok target =>
      cases target with
      | none =>
          refine ⟨flushed.holds, flushed.only, flushed.oneKey, flushed.follows,
            fun routerKey ref watched => ?_⟩
          have router := flushed.routers routerKey ref watched
          obtain ⟨gateway, listener, routes, keyOf, made, current⟩ := router.serves
          refine ⟨router.watched, gateway, listener, routes, keyOf, made, current.imp_right ?_⟩
          rintro ⟨dirtyKey, member, finds⟩
          rcases List.mem_cons.mp member with rfl | later
          · obtain ⟨_, target, _⟩ := finds.routesTo keyOf called
            cases target
          · exact ⟨dirtyKey, later, finds⟩
      | some call =>
          obtain ⟨other, listener, routes, rfl, _⟩ := (routerCall_eq_some _ _ _ _ _).mp called
          dsimp only [Option.elim_some]
          rw [runUpdaters, ends_bind, ends_modify, ends_bind, ends_get, ends_onModules]
          refine (ends_routeUpdaters other listener routes world.modules).mono
            (fun _ after ended => ?_) fun _ _ _ => trivial
          exact ⟨flushed.holds, ⟨flushed.only.1, flushed.only.2, flushed.only.3⟩,
            flushed.oneKey.updated ended.1, fun routerKey ref watched =>
              (flushed.follows routerKey ref watched).congr (ended.1.kinds ref),
            fun routerKey ref watched => (flushed.routers routerKey ref watched).updated
              flushed.oneKey (flushed.follows routerKey ref watched) called ended.1 ended.2⟩

theorem ends_updateRouters_flushed (keys : List DirtyRouter) (world : World Modules)
    (flushed : Flushed engine gatewayFilter store watching keys world) :
    Ends (forM keys (updateRouter (moduleRuntime engine) gatewayFilter)) world
      (fun _ after => Flushed engine gatewayFilter store watching [] after) fun _ _ => True := by
  induction keys generalizing world with
  | nil => exact flushed
  | cons key rest ih =>
      rw [List.forM_cons, ends_bind]
      exact (ends_updateRouter_flushed key world flushed).mono (fun _ after kept => ih after kept)
        fun _ _ _ => trivial

theorem Flushed.framed {world : World Modules}
    (flushed : Flushed engine gatewayFilter store watching dirty world) {after : Modules}
    (frame : RouteFrame world.modules after) :
    Flushed engine gatewayFilter store watching dirty { world with modules := after } := by
  refine ⟨flushed.holds, ⟨flushed.only.1, flushed.only.2, flushed.only.3⟩,
    fun ref key other first second => ?_, fun routerKey ref watched =>
      (flushed.follows routerKey ref watched).congr (frame.routerKind ref),
    fun routerKey ref watched => ?_⟩
  · rw [frame.routes] at first second
    exact flushed.oneKey ref key other first second
  · exact (flushed.routers routerKey ref watched).older (fun _ _ => by rw [frame.routers])
      (frame.routes routerKey)

theorem keeps_backends_flushed (names : List Value) :
    Keeps (fun world => Flushed engine gatewayFilter store watching dirty world ∧
        world.dirtyRouters = dirty)
      (forM names fun name => runUpdaters (moduleRuntime engine) (.backend name)) := by
  refine keeps_forM fun name _ world kept => ?_
  rw [runUpdaters, ends_bind, ends_modify, ends_bind, ends_get, ends_onModules]
  have framed (after : Modules) (frame : RouteFrame world.modules after) :
      Flushed engine gatewayFilter store watching dirty { world with
        updaterCalls := world.updaterCalls ++ [.backend name], modules := after } := by
    have same := kept.1.framed frame
    exact ⟨same.holds, ⟨same.only.1, same.only.2, same.only.3⟩, same.oneKey,
      same.follows, same.routers⟩
  exact (frame_backendUpdaters name world.modules world.modules (RouteFrame.refl _)).mono
    (fun _ after frame => ⟨framed after frame, kept.2⟩)
    fun _ after frame => ⟨framed after frame, kept.2⟩

/-- A completed flush leaves every router that was watching in force. -/
theorem Flushed.flush {world : World Modules}
    (flushed : Flushed engine gatewayFilter store watching world.dirtyRouters world)
    (returns : Returns (updateDirtyResources (moduleRuntime engine) gatewayFilter) world) :
    Flushed engine gatewayFilter store watching []
        (stateAfter (updateDirtyResources (moduleRuntime engine) gatewayFilter) world) ∧
      (stateAfter (updateDirtyResources (moduleRuntime engine) gatewayFilter) world).dirtyRouters =
        [] := by
  have unfolded : updateDirtyResources (moduleRuntime engine) gatewayFilter world =
      ((forM world.dirtyBackends fun name => runUpdaters (moduleRuntime engine) (.backend name)) >>=
        fun _ => do
          forM (← get).dirtyRouters (updateRouter (moduleRuntime engine) gatewayFilter)
          afterRouters (moduleRuntime engine) gatewayFilter) world := rfl
  have refreshed := keeps_backends_flushed world.dirtyBackends world ⟨flushed, rfl⟩
  rw [returns_iff, unfolded] at returns
  rw [stateAfter, unfolded]
  rw [Ends] at refreshed
  cases backends : (forM world.dirtyBackends fun name =>
      runUpdaters (moduleRuntime engine) (.backend name)) world with
  | error thrown after =>
      rw [run_bind_error backends] at returns
      obtain ⟨_, _, ⟨⟩⟩ := returns
  | ok done middle =>
      rw [backends] at refreshed
      obtain ⟨kept, keys⟩ := refreshed
      have looped := ends_updateRouters_flushed world.dirtyRouters middle kept
      rw [run_bind_ok backends, run_get_bind, keys] at returns ⊢
      rw [Ends] at looped
      cases ran : forM world.dirtyRouters (updateRouter (moduleRuntime engine) gatewayFilter)
          middle with
      | error thrown after =>
          rw [run_bind_error ran] at returns
          obtain ⟨_, _, ⟨⟩⟩ := returns
      | ok value after =>
          rw [ran] at looped
          rw [run_bind_ok ran, afterRouters_idle looped.only.policies looped.only.gateways
            looped.only.resources]
          exact ⟨⟨looped.holds, ⟨rfl, rfl, rfl⟩, looped.oneKey, looped.follows, looped.routers⟩,
            rfl⟩

/-! The start. -/

/-- While the gateways are started, every router that is watching is in force. -/
structure StartedRouters (engine : ModuleEngine) (gatewayFilter : GatewayFilter) (store : Store)
    (world : World Modules) : Prop where
  holds : world.store = store
  only : OnlyLinks world
  clean : world.dirtyRouters = []
  routers : ∀ routerKey ref,
    .router ref routerKey ∈ world.modules.updaters.registered "Route" routerKey →
      RouterFor engine.toNumber gatewayFilter store [] world.modules routerKey ref
  oneKey : OneKey world.modules

theorem StartedRouters.fresh {world : World Modules}
    (started : StartedRouters engine gatewayFilter store world) {routerKey : String} {ref : Nat}
    (member : .router ref routerKey ∈ world.modules.updaters.registered "Route" routerKey) :
    ref < world.modules.routers.length := by
  obtain ⟨_, _, _, _, made, _⟩ := (started.routers routerKey ref member).serves
  exact made.inside

theorem keeps_makeRoute_started {gateway : Resource} {listener : Value} {routerKey : String}
    {routes : List Resource} (kind : RouteModule)
    (keyOf : KeyOf gatewayFilter store routerKey gateway listener)
    (collected : findRouteResources engine.toNumber store gateway.data listener = .ok routes) :
    Keeps (StartedRouters engine gatewayFilter store)
      (onModules (makeRoute engine kind routerKey listener routes gateway store)) := by
  intro world started
  rw [ends_onModules]
  refine (ends_makeRoute_router kind routerKey listener routes gateway world.modules).mono
    (fun _ after ended => ?_) fun _ after ended => ?_
  · obtain ⟨made, routers, registered⟩ := ended
    refine ⟨started.holds, ⟨started.only.1, started.only.2, started.only.3⟩,
      started.clean, fun other ref member => ?_, fun ref key other first second => ?_⟩
    · dsimp only at member ⊢
      rw [registered] at member
      split at member
      · rename_i same
        obtain ⟨rfl, rfl⟩ := Callback.router.inj (List.mem_singleton.mp member)
        refine ⟨by rw [registered, if_pos rfl], gateway, listener, routes, keyOf, made,
          Or.inl collected⟩
      · rename_i different
        exact (started.routers other ref member).older routers
          (by rw [registered, if_neg different])
    · dsimp only at first second
      rw [registered] at first second
      split at first <;> split at second
      · rename_i here there
        exact here.symm.trans there
      · obtain ⟨rfl, _⟩ := Callback.router.inj (List.mem_singleton.mp first)
        exact absurd (started.fresh second) (Nat.lt_irrefl _)
      · obtain ⟨rfl, _⟩ := Callback.router.inj (List.mem_singleton.mp second)
        exact absurd (started.fresh first) (Nat.lt_irrefl _)
      · exact started.oneKey ref key other first second
  · obtain ⟨routers, registered⟩ := ended
    refine ⟨started.holds, ⟨started.only.1, started.only.2, started.only.3⟩,
      started.clean, fun other ref member => ?_, fun ref key other first second => ?_⟩
    · dsimp only at member ⊢
      rw [registered] at member
      exact (started.routers other ref member).older routers (registered other)
    · dsimp only at first second
      rw [registered] at first second
      exact started.oneKey ref key other first second

theorem keeps_checks_started (result : Except Thrown Unit) :
    Keeps (StartedRouters engine gatewayFilter store)
      (onModules (MonadExcept.ofExcept result)) := by
  intro world started
  rw [ends_onModules, ends_ofExcept]
  cases result <;> exact started

theorem keeps_makeListener_started {gateway : Resource} {listener : Value}
    (live : gateway ∈ store.list "Gateway") (accepted : gatewayFilter (some gateway) = .ok true)
    (declared : listener ∈ listenersOf gateway) :
    Keeps (StartedRouters engine gatewayFilter store)
      (makeListener (moduleRuntime engine) gateway listener) := by
  unfold makeListener terminateTLS makeListenerFilters
  refine keeps_ofExcept_bind fun listenerKey keyed => keeps_ofExcept_bind fun target _ =>
    keeps_get_bind fun world started => ?_
  rw [started.holds]
  refine keeps_ofExcept_bind fun routes collected => keeps_ofExcept_bind fun routerKey routed => ?_
  refine Keeps.bind (keeps_makeRoute_started target.1
    ⟨live, accepted, declared, listenerKey, keyed, routed⟩ collected) fun _ => ?_
  refine Keeps.bind ?_ fun _ => Keeps.bind ?_ fun _ => Keeps.bind ?_ fun _ => keeps_pure _ _
  · split
    · exact keeps_checks_started _
    · exact keeps_pure _ _
  · split
    · have filters : (moduleRuntime engine).makeFilters listenerKey.protocol
          (listener.opt "filters") store = MonadExcept.ofExcept (do
            let _ ← makeFilters engine listenerKey.protocol (listener.opt "filters")) := by
        simp only [moduleRuntime]
        cases makeFilters engine listenerKey.protocol (listener.opt "filters") <;> rfl
      rw [filters]
      exact keeps_checks_started _
    · exact keeps_pure _ _
  · exact keeps_modify fun _ started => ⟨started.holds,
      ⟨started.only.1, started.only.2, started.only.3⟩, started.clean,
      started.routers, started.oneKey⟩

theorem started_startGateways (initial : Table Value) :
    StartedRouters engine gatewayFilter (Store.init initial.entries)
      (World.started (moduleRuntime engine) gatewayFilter initial Modules.empty) := by
  let world := World.initial (Store.init initial.entries) Modules.empty
  have loop : Keeps (StartedRouters engine gatewayFilter world.store)
      (forM (world.store.list "Gateway") fun gateway => (do
        if !(nameOf gateway.data).truthy then return
        if !(← MonadExcept.ofExcept (gatewayFilter (some gateway))) then return
        startGateway (moduleRuntime engine) gateway : EStateM Thrown (World Modules) Unit)) := by
    refine keeps_forM fun gateway live => ?_
    split
    · exact keeps_pure _ _
    refine keeps_ofExcept_bind fun passed accepted => ?_
    cases passed with
    | false => exact keeps_pure _ _
    | true =>
        unfold startGateway
        refine keeps_ofExcept_bind fun listeners read => keeps_forM fun listener member => ?_
        rw [← listenersOf_eq read] at member
        refine Keeps.tryCatch ?_ fun _ => keeps_pure _ _
        exact (keeps_makeListener_started live accepted member).bind fun key =>
          keeps_modify fun _ started => ⟨started.holds,
            ⟨started.only.1, started.only.2, started.only.3⟩, started.clean,
            started.routers, started.oneKey⟩
  exact (keeps_iff_stateAfter _ _).mp loop world ⟨rfl, ⟨rfl, rfl, rfl⟩, rfl,
    fun _ _ member => (List.not_mem_nil member).elim,
    fun _ _ _ member => (List.not_mem_nil member).elim⟩

/-! A changed route. -/

theorem mem_addRouterKey (keys : List DirtyRouter) (key other : DirtyRouter) :
    other ∈ addRouterKey keys key ↔ other ∈ keys ∨ other = key := by
  unfold addRouterKey
  split
  · rename_i known
    obtain ⟨same, member, identical⟩ := List.any_eq_true.mp known
    simp only [DirtyRouter.isIdentical, Bool.and_eq_true] at identical
    obtain rfl : key = same := by
      cases key
      cases same
      rw [DirtyRouter.mk.injEq]
      exact ⟨Value.eq_of_strictEq identical.1.1.1, Value.eq_of_strictEq identical.1.1.2,
        Value.eq_of_strictEq identical.1.2, Value.eq_of_strictEq identical.2⟩
    exact ⟨Or.inl, fun either => either.elim id fun same => same ▸ member⟩
  · simp

theorem mem_addRouterKeys (keys more : List DirtyRouter) (other : DirtyRouter) :
    other ∈ more.foldl addRouterKey keys ↔ other ∈ keys ∨ other ∈ more := by
  induction more generalizing keys with
  | nil => simp
  | cons key rest ih =>
      rw [List.foldl_cons, ih, mem_addRouterKey, List.mem_cons, or_assoc]

/-- The changed files hold routes whose references find the listeners they name. -/
def Documented (toNumber : String → String) (gatewayFilter : GatewayFilter) (store : Store)
    (notification : Notification) : Prop :=
  ∀ version ∈ notification.versions, RouteDocument toNumber gatewayFilter store version

theorem changed_mem_versions (notification : Notification) :
    notification.changed ∈ notification.versions := by
  cases notification <;> simp [Notification.versions, Notification.changed]

theorem documented_run {toNumber : String → String} {notification : Notification}
    (documented : Documented toNumber gatewayFilter store notification) (world : World Modules) :
    onResourceChange notification world = .ok () { world with
      dirtyRouters := ((notification.versions.flatMap parentRefs).map refKey).foldl addRouterKey
        world.dirtyRouters
      dirtyTimeout := true } := by
  have role : roleOf notification.kind = .route :=
    (documented notification.changed (changed_mem_versions notification)).kind
  have present : ∀ ref ∈ notification.versions.flatMap parentRefs, ref.nullish = false := by
    intro ref member
    obtain ⟨version, versioned, inside⟩ := List.mem_flatMap.mp member
    exact (documented version versioned).present ref inside
  have loop (refs : List Value) (all : ∀ ref ∈ refs, ref.nullish = false)
      (before : World Modules) : forM refs addDirtyRouterRef before =
      .ok () { before with
        dirtyRouters := (refs.map refKey).foldl addRouterKey before.dirtyRouters } := by
    induction refs generalizing before with
    | nil => rfl
    | cons ref rest ih =>
        rw [List.forall_mem_cons] at all
        rw [List.forM_cons, run_bind_ok (addDirtyRouterRef_ok all.1 before), ih all.2]
        unfold addDirtyRouter
        simp only [List.map_cons, List.foldl_cons, addRouterKey]
        split <;> rfl
  unfold onResourceChange markDirty
  rw [role]
  simp only [addDirtyRouters_eq, forM_flatMap]
  rw [run_bind_ok (loop _ present world)]
  rfl

/-- Dirty keys for all of these versions have been added, and nothing else has changed. -/
structure KeysAdded (versions : Resource → Prop) (before after : World Modules) : Prop where
  store : after.store = before.store
  modules : after.modules = before.modules
  gateways : after.dirtyGateways = before.dirtyGateways
  backends : after.dirtyBackends = before.dirtyBackends
  policies : after.dirtyPolicies = before.dirtyPolicies
  resources : after.dirtyResources = before.dirtyResources
  earlier : ∀ key ∈ before.dirtyRouters, key ∈ after.dirtyRouters
  added : ∀ version, versions version → ∀ ref ∈ parentRefs version,
    refKey ref ∈ after.dirtyRouters

theorem keysAdded_notices {toNumber : String → String} (notifications : List Notification)
    (documented : ∀ notification ∈ notifications,
      Documented toNumber gatewayFilter store notification) (world : World Modules) :
    KeysAdded (fun version => ∃ notification ∈ notifications, version ∈ notification.versions)
      world (stateAfter (forM notifications onResourceChange) world) := by
  induction notifications generalizing world with
  | nil => exact ⟨rfl, rfl, rfl, rfl, rfl, rfl, fun _ member => member, by simp⟩
  | cons notification rest ih =>
      rw [List.forall_mem_cons] at documented
      have ran := documented_run documented.1 world
      rw [List.forM_cons, stateAfter_bind_ok ran]
      have later := ih documented.2 { world with
        dirtyRouters := ((notification.versions.flatMap parentRefs).map refKey).foldl addRouterKey
          world.dirtyRouters
        dirtyTimeout := true }
      refine ⟨later.store, later.modules, later.gateways, later.backends, later.policies,
        later.resources, fun key member => later.earlier key ?_, ?_⟩
      · exact (mem_addRouterKeys _ _ _).mpr (Or.inl member)
      · rintro version ⟨other, listed, versioned⟩ ref member
        rcases List.mem_cons.mp listed with rfl | inside
        · refine later.earlier _ ((mem_addRouterKeys _ _ _).mpr (Or.inr ?_))
          exact List.mem_map_of_mem (List.mem_flatMap.mpr ⟨version, versioned, member⟩)
        · exact later.added version ⟨other, inside, versioned⟩ ref member

theorem kindKey_route {data : Value} (route : roleOf (kindOf data) = .route) :
    kindKey data ≠ some "Gateway" ∧ (kindOf data).truthy = true := by
  unfold roleOf at route
  split at route
  all_goals first
    | exact absurd route (by decide)
    | rename_i kind
      simp [kindKey, kind, Value.truthy, Value.toKey]

theorem versions_changed {cur old : Option Resource}
    (kinded : ∀ version, cur = some version ∨ old = some version →
      (kindOf version.data).truthy = true) (version : Resource)
    (changed : cur = some version ∨ old = some version) :
    ∃ notification ∈ Store.changeNotifications cur old, version ∈ notification.versions := by
  unfold Store.changeNotifications
  cases cur with
  | none =>
      obtain rfl := changed.resolve_left (by simp)
      exact ⟨_, List.mem_cons_self, List.mem_cons_self⟩
  | some new =>
      cases old with
      | none =>
          cases changed.resolve_right (by simp)
          exact ⟨_, List.mem_cons_self, List.mem_cons_self⟩
      | some earlier =>
          simp only [kinded new (Or.inl rfl), kinded earlier (Or.inr rfl), Bool.true_and,
            Bool.and_self, if_true]
          split
          · refine ⟨_, List.mem_cons_self, ?_⟩
            simpa [Notification.versions, eq_comm] using changed
          · rcases changed with same | same <;> cases same
            · exact ⟨.create version, by simp, List.mem_cons_self⟩
            · exact ⟨.delete version, by simp, List.mem_cons_self⟩

theorem version_of_changeNotifications {cur old : Option Resource} {notification : Notification}
    (member : notification ∈ Store.changeNotifications cur old) {version : Resource}
    (versioned : version ∈ notification.versions) : cur = some version ∨ old = some version := by
  unfold Store.changeNotifications at member
  split at member
  · dsimp only at member
    split at member
    · rw [List.mem_singleton.mp member] at versioned
      simpa [Notification.versions, eq_comm] using versioned
    · split at member
      · rcases List.mem_cons.mp member with rfl | later
        · exact Or.inr (congrArg some (List.mem_singleton.mp versioned).symm)
        · rw [List.mem_singleton.mp later] at versioned
          exact Or.inl (congrArg some (List.mem_singleton.mp versioned).symm)
      · rw [List.mem_singleton.mp member] at versioned
        exact Or.inl (congrArg some (List.mem_singleton.mp versioned).symm)
  · rw [List.mem_singleton.mp member] at versioned
    exact Or.inl (congrArg some (List.mem_singleton.mp versioned).symm)
  · rw [List.mem_singleton.mp member] at versioned
    exact Or.inr (congrArg some (List.mem_singleton.mp versioned).symm)
  · cases member

/-- What a file holds after the change, or held before. -/
def VersionOf (store : Store) (pathname : String) (data : Value) (version : Resource) : Prop :=
  (data.truthy = true ∧ version = ⟨store.nextRef, data⟩) ∨
    store.files.get? pathname = some version

theorem versionOf_iff (store : Store) (pathname : String) (data : Value) (version : Resource) :
    VersionOf store pathname data version ↔
      (if data.truthy = true then some (⟨store.nextRef, data⟩ : Resource) else none) =
        some version ∨ store.files.get? pathname = some version := by
  by_cases present : data.truthy = true <;> simp [VersionOf, present, eq_comm]

theorem versionOf_notified {store : Store} {pathname : String} {data : Value}
    {notification : Notification} (member : notification ∈ (store.changeFile pathname data).2)
    {version : Resource} (versioned : version ∈ notification.versions) :
    VersionOf store pathname data version :=
  (versionOf_iff _ _ _ _).mpr (version_of_changeNotifications member versioned)

theorem filter_eraseP_of_dropped {α : Type} (items : List α) (keep erased : α → Bool)
    (dropped : ∀ item ∈ items, erased item = true → keep item = false) :
    (items.eraseP erased).filter keep = items.filter keep := by
  induction items with
  | nil => rfl
  | cons item rest ih =>
      rw [List.forall_mem_cons] at dropped
      by_cases gone : erased item = true
      · rw [List.eraseP_cons_of_pos gone, List.filter_cons_of_neg (by simp [dropped.1 gone])]
      · rw [List.eraseP_cons_of_neg gone, List.filter_cons, List.filter_cons, ih dropped.2]

/-- A change that takes no attached route out of the lists, and puts none into them, changes
nothing for the listener. -/
theorem findRouteResources_changeFile {toNumber : String → String} (tracks : Tracks store)
    {pathname : String} {data : Value} {gateway listener : Value} {routes : List Resource}
    (collected : findRouteResources toNumber store gateway listener = .ok routes)
    (apart : ∀ version, VersionOf store pathname data version → ∀ kind ∈ routeKinds listener,
      kindKey version.data = some kind → attached toNumber gateway listener version = .ok false) :
    findRouteResources toNumber (store.changeFile pathname data).1 gateway listener =
      .ok routes := by
  unfold findRouteResources at collected ⊢
  rw [filterM_eq_ok] at collected ⊢
  obtain ⟨sound, rfl⟩ := collected
  have left (kind : String) : (store.withoutFile pathname).list kind ⊆ store.list kind := by
    unfold Store.withoutFile
    cases store.files.get? pathname with
    | none => exact fun _ member => member
    | some old =>
        simp only [Option.elim_some, Store.list_removeResource]
        split
        · exact List.eraseP_subset
        · exact fun _ member => member
  constructor
  · intro route member
    obtain ⟨kind, taken, listed⟩ := List.mem_flatMap.mp member
    rcases (Store.mem_list_changeFile _ _ _ _ _).mp listed with ⟨present, kinded, rfl⟩ | old
    · exact ⟨false, apart _ (Or.inl ⟨present, rfl⟩) kind taken kinded⟩
    · exact sound route (List.mem_flatMap.mpr ⟨kind, taken, left kind old⟩)
  · rw [List.filter_flatMap, List.filter_flatMap]
    refine List.flatMap_congr fun kind taken => ?_
    have without : ((store.withoutFile pathname).list kind).filter
        (passes (attached toNumber gateway listener)) = (store.list kind).filter
          (passes (attached toNumber gateway listener)) := by
      unfold Store.withoutFile
      cases found : store.files.get? pathname with
      | none => rfl
      | some old =>
          simp only [Option.elim_some, Store.list_removeResource]
          split
          · rename_i oldKind
            refine filter_eraseP_of_dropped _ _ _ fun route member same => ?_
            obtain ⟨other, present, _⟩ := (tracks.listed kind route).mp member
            obtain rfl := tracks.injective other pathname route old present found
              (by simpa using same)
            obtain rfl : old = route := Option.some.inj (found.symm.trans present)
            rw [passes, apart old (Or.inr found) kind taken oldKind]
          · rfl
    rw [Store.list_changeFile]
    split
    · rename_i new
      rw [List.filter_append, without, List.filter_cons_of_neg, List.filter_nil, List.append_nil]
      rw [passes, apart _ (Or.inl ⟨new.1, rfl⟩) kind taken new.2]
      exact Bool.false_ne_true
    · exact without.symm

theorem list_changeFile_other {pathname kind : String} {data : Value}
    (other : ∀ version, VersionOf store pathname data version →
      kindKey version.data ≠ some kind) :
    (store.changeFile pathname data).1.list kind = store.list kind := by
  rw [Store.list_changeFile, if_neg fun both => other _ (Or.inl ⟨both.1, rfl⟩) both.2]
  unfold Store.withoutFile
  cases found : store.files.get? pathname with
  | none => rfl
  | some version =>
      rw [Option.elim_some, Store.list_removeResource, if_neg (other version (Or.inr found))]

theorem KeyOf.congr {changed : Store} {routerKey : String} {gateway : Resource} {listener : Value}
    (keyOf : KeyOf gatewayFilter store routerKey gateway listener)
    (same : changed.list "Gateway" = store.list "Gateway") :
    KeyOf gatewayFilter changed routerKey gateway listener :=
  ⟨same ▸ keyOf.listed, keyOf.accepted, keyOf.declared, keyOf.key⟩

theorem Finds.congr {changed : Store} {key : DirtyRouter} {gateway : Resource} {listener : Value}
    (finds : Finds gatewayFilter store key gateway listener)
    (same : changed.list "Gateway" = store.list "Gateway") :
    Finds gatewayFilter changed key gateway listener :=
  ⟨finds.gatewayKind, same ▸ finds.named, finds.listener⟩

/-- An attached route has a reference that finds the listener; one that is not attached says so
without a throw. -/
theorem RouteDocument.attached_cases {toNumber : String → String} {route : Resource}
    (document : RouteDocument toNumber gatewayFilter store route) {routerKey : String}
    {gateway : Resource} {listener : Value}
    (keyOf : KeyOf gatewayFilter store routerKey gateway listener) :
    attached toNumber gateway.data listener route = .ok false ∨
      ∃ ref ∈ parentRefs route, Finds gatewayFilter store (refKey ref) gateway listener := by
  obtain ⟨listenerKey, _, routed⟩ := keyOf.key
  have gatewayPresent : gateway.data.nullish = false := by
    by_contra missing
    rw [Bool.not_eq_false] at missing
    simp [makeRouterKey, Value.get, missing, bind, Except.bind] at routed
  have metadata := (makeRouterKey_ok_iff gatewayPresent listenerKey).mp ⟨_, routed⟩
  obtain ⟨hit, tested⟩ : ∃ hit, attached toNumber gateway.data listener route = .ok hit := by
    refine (attached_ok_iff toNumber listener route gatewayPresent metadata).mpr
      fun refs read front ref back placed _ => document.present ref ?_
    simp [parentRefs, read, Value.array?, placed]
  cases hit with
  | false => exact Or.inl tested
  | true =>
      right
      unfold attached at tested
      unfold parentRefs
      cases read : ((route.data.opt "spec").opt "parentRefs").array? with
      | none =>
          rw [read] at tested
          cases tested
      | some refs =>
          rw [read] at tested
          obtain ⟨ref, member, refers⟩ := anyM_eq_true tested
          refine ⟨ref, member, document.found ref ?_ gateway keyOf.listed keyOf.accepted listener
            keyOf.declared refers⟩
          simpa [parentRefs, read] using member

namespace GatewayEvent

/-- A file that holds a route whose references find their listeners, before and after; either may
be missing. -/
def OnRoutes (toNumber : String → String) (gatewayFilter : GatewayFilter)
    (world : World Modules) : GatewayEvent → Prop
  | change pathname data =>
      (data.truthy = true →
        RouteDocument toNumber gatewayFilter world.store ⟨world.store.nextRef, data⟩) ∧
      ∀ version, world.store.files.get? pathname = some version →
        RouteDocument toNumber gatewayFilter world.store version
  | flush => True

/-- A route whose references find their listeners, or a Backend. -/
def OnRoutesOrBackends (toNumber : String → String) (gatewayFilter : GatewayFilter)
    (world : World Modules) (event : GatewayEvent) : Prop :=
  event.OnRoutes toNumber gatewayFilter world ∨ event.OnKind "Backend" world

def Completes {M : Type} (runtime : Runtime M) (gatewayFilter : GatewayFilter) (world : World M)
    (event : GatewayEvent) : Prop :=
  event = .flush → Returns (updateDirtyResources runtime gatewayFilter) world

/-- After a flush, all these routers are in force. -/
def LeavesInForce (engine : ModuleEngine) (gatewayFilter : GatewayFilter)
    (watching : String → Nat → Prop) (world : World Modules) (event : GatewayEvent) : Prop :=
  event = .flush → ∀ routerKey ref, watching routerKey ref →
    RouterInForce engine.toNumber gatewayFilter
      (event.step (moduleRuntime engine) gatewayFilter world) routerKey ref

end GatewayEvent

/-- Between flushes. -/
structure Routing (engine : ModuleEngine) (gatewayFilter : GatewayFilter)
    (watching : String → Nat → Prop) (world : World Modules) : Prop where
  tracks : Tracks world.store
  flushed : Flushed engine gatewayFilter world.store watching world.dirtyRouters world

theorem Routing.change {world : World Modules}
    (routing : Routing engine gatewayFilter watching world) {pathname : String} {data : Value}
    (onRoutes : GatewayEvent.OnRoutes engine.toNumber gatewayFilter world
      (.change pathname data)) :
    Routing engine gatewayFilter watching
      (GatewayEvent.step (moduleRuntime engine) gatewayFilter world (.change pathname data)) := by
  obtain ⟨new, old⟩ := onRoutes
  let changed : World Modules :=
    { world with store := (world.store.changeFile pathname data).1 }
  have document (version : Resource) (one : VersionOf world.store pathname data version) :
      RouteDocument engine.toNumber gatewayFilter world.store version := by
    rcases one with ⟨present, rfl⟩ | found
    · exact new present
    · exact old version found
  have told (notification : Notification)
      (member : notification ∈ (world.store.changeFile pathname data).2) :
      Documented engine.toNumber gatewayFilter world.store notification :=
    fun version versioned => document version (versionOf_notified member versioned)
  have added := keysAdded_notices (world.store.changeFile pathname data).2 told changed
  have gateways : (world.store.changeFile pathname data).1.list "Gateway" =
      world.store.list "Gateway" := list_changeFile_other fun version one =>
    (kindKey_route (document version one).kind).1
  have unfolded : GatewayEvent.step (moduleRuntime engine) gatewayFilter world
      (.change pathname data) =
    stateAfter (forM (world.store.changeFile pathname data).2 onResourceChange) changed := rfl
  rw [unfolded]
  refine ⟨added.store ▸ routing.tracks.changeFile pathname data, rfl, ⟨?_, ?_, ?_⟩,
    added.modules ▸ routing.flushed.oneKey, added.modules ▸ routing.flushed.follows,
    fun routerKey ref watched => ?_⟩
  · exact added.gateways.trans routing.flushed.only.gateways
  · exact added.policies.trans routing.flushed.only.policies
  · exact added.resources.trans routing.flushed.only.resources
  have router := routing.flushed.routers routerKey ref watched
  obtain ⟨gateway, listener, routes, keyOf, made, current⟩ := router.serves
  rw [added.store, added.modules]
  refine ⟨router.watched, gateway, listener, routes, keyOf.congr gateways, made, ?_⟩
  rcases current with collected | ⟨key, member, finds⟩
  · by_cases attaches : ∃ version, VersionOf world.store pathname data version ∧
        ∃ parent ∈ parentRefs version,
          Finds gatewayFilter world.store (refKey parent) gateway listener
    · obtain ⟨version, one, parent, member, finds⟩ := attaches
      refine Or.inr ⟨refKey parent, added.added version ?_ parent member, finds.congr gateways⟩
      refine versions_changed (fun other changed => ?_) version
        ((versionOf_iff _ _ _ _).mp one)
      exact (kindKey_route (document other ((versionOf_iff _ _ _ _).mpr changed)).kind).2
    · refine Or.inl (findRouteResources_changeFile routing.tracks collected
        fun version one kind _ _ => ?_)
      exact ((document version one).attached_cases keyOf).resolve_right fun ⟨parent, found⟩ =>
        attaches ⟨version, one, parent, found⟩
  · exact Or.inr ⟨key, added.earlier key member, finds.congr gateways⟩

theorem backend_notMem_routeKinds (listener : Value) : "Backend" ∉ routeKinds listener := by
  unfold routeKinds
  repeat' split
  all_goals decide

theorem stateAfter_backendFile {world : World Modules} {pathname : String} {data : Value}
    (onBackend : (GatewayEvent.change pathname data).OnKind "Backend" world) :
    ∃ dirtyBackends dirtyTimeout, stateAfter (fileChanged pathname data) world = { world with
      store := (world.store.changeFile pathname data).1
      dirtyBackends := dirtyBackends
      dirtyTimeout := dirtyTimeout } := by
  let changed : World Modules := { world with store := (world.store.changeFile pathname data).1 }
  have unfolded : stateAfter (fileChanged pathname data) world =
      stateAfter (forM (world.store.changeFile pathname data).2 onResourceChange) changed := rfl
  rw [unfolded]
  rcases changeFile_sameKind (by decide) onBackend.1 onBackend.2 with
    ⟨silent, _, _⟩ | ⟨notification, notified, backend, _, _⟩
  · rw [silent]
    exact ⟨world.dirtyBackends, world.dirtyTimeout, rfl⟩
  · obtain ⟨dirtyBackends, same, _⟩ := onResourceChange_backend backend changed
    rw [notified, List.forM_cons, List.forM_nil, bind_pure_unit, same]
    exact ⟨dirtyBackends, true, rfl⟩

/-- A changed Backend is no matter of the routers. -/
theorem Routing.changeBackend {world : World Modules}
    (routing : Routing engine gatewayFilter watching world) {pathname : String} {data : Value}
    (onBackend : (GatewayEvent.change pathname data).OnKind "Backend" world) :
    Routing engine gatewayFilter watching
      (GatewayEvent.step (moduleRuntime engine) gatewayFilter world (.change pathname data)) := by
  obtain ⟨dirtyBackends, dirtyTimeout, same⟩ := stateAfter_backendFile onBackend
  have kinded (version : Resource) (one : VersionOf world.store pathname data version) :
      kindKey version.data = some "Backend" := by
    have backend : kindOf version.data = .str "Backend" := by
      rcases one with ⟨present, rfl⟩ | found
      · exact onBackend.1 present
      · exact onBackend.2 version found
    rw [kindKey, backend]
    rfl
  have gateways : (world.store.changeFile pathname data).1.list "Gateway" =
      world.store.list "Gateway" := by
    refine list_changeFile_other fun version one => ?_
    rw [kinded version one]
    decide
  rw [GatewayEvent.step, same]
  refine ⟨routing.tracks.changeFile pathname data, rfl,
    ⟨routing.flushed.only.1, routing.flushed.only.2, routing.flushed.only.3⟩,
    routing.flushed.oneKey, routing.flushed.follows, fun routerKey ref watched => ?_⟩
  have router := routing.flushed.routers routerKey ref watched
  obtain ⟨gateway, listener, routes, keyOf, made, current⟩ := router.serves
  refine ⟨router.watched, gateway, listener, routes, keyOf.congr gateways, made, ?_⟩
  rcases current with collected | ⟨key, member, finds⟩
  · refine Or.inl (findRouteResources_changeFile routing.tracks collected
      fun version one kind taken keyed => absurd taken ?_)
    rw [kinded version one] at keyed
    cases keyed
    exact backend_notMem_routeKinds listener
  · exact Or.inr ⟨key, member, finds.congr gateways⟩

theorem Routing.flush {world : World Modules}
    (routing : Routing engine gatewayFilter watching world)
    (returns : Returns (updateDirtyResources (moduleRuntime engine) gatewayFilter) world) :
    Routing engine gatewayFilter watching
        (GatewayEvent.step (moduleRuntime engine) gatewayFilter world .flush) ∧
      ∀ routerKey ref, watching routerKey ref → RouterInForce engine.toNumber gatewayFilter
        (GatewayEvent.step (moduleRuntime engine) gatewayFilter world .flush) routerKey ref := by
  obtain ⟨flushed, clean⟩ := routing.flushed.flush returns
  refine ⟨⟨?_, ?_⟩, fun routerKey ref watched => ?_⟩
  · rw [GatewayEvent.step, flushed.holds]
    exact routing.tracks
  · rw [GatewayEvent.step, clean]
    exact ⟨rfl, flushed.only, flushed.oneKey, flushed.follows, flushed.holds ▸ flushed.routers⟩
  · rw [RouterInForce, GatewayEvent.step, flushed.holds]
    exact flushed.routers routerKey ref watched

/-- The routers that wait for updates and whose requests go through what an update makes, which
leaves out those of TLS listeners. -/
def WatchesRoutes (world : World Modules) (routerKey : String) (ref : Nat) : Prop :=
  .router ref routerKey ∈ world.modules.updaters.registered "Route" routerKey ∧
    world.modules.FollowsUpdates ref

theorem routing_started (initial : Table Value) :
    Routing engine gatewayFilter
      (WatchesRoutes (World.started (moduleRuntime engine) gatewayFilter initial Modules.empty))
      (World.started (moduleRuntime engine) gatewayFilter initial Modules.empty) := by
  have started : StartedRouters engine gatewayFilter (Store.init initial.entries)
      (World.started (moduleRuntime engine) gatewayFilter initial Modules.empty) :=
    started_startGateways initial
  refine ⟨?_, rfl, started.only, started.oneKey, fun _ _ watched => watched.2,
    fun routerKey ref watched => ?_⟩
  · rw [started.holds]
    exact (loaded_init initial).tracks
  · rw [started.holds, started.clean]
    exact started.routers routerKey ref watched.1

/-- Over a run of changed routes and Backends and of completed flushes, in which every reference
that attaches a changed route to a listener also finds that listener, each flush leaves every
router that was watching at the start in force, and still watching. -/
theorem routeRun_inForce (engine : ModuleEngine) (gatewayFilter : GatewayFilter)
    (initial : Table Value) (events : List GatewayEvent)
    (routes : EveryStep (GatewayEvent.step (moduleRuntime engine) gatewayFilter)
      (GatewayEvent.OnRoutesOrBackends engine.toNumber gatewayFilter)
      (World.started (moduleRuntime engine) gatewayFilter initial Modules.empty) events)
    (completes : EveryStep (GatewayEvent.step (moduleRuntime engine) gatewayFilter)
      (GatewayEvent.Completes (moduleRuntime engine) gatewayFilter)
      (World.started (moduleRuntime engine) gatewayFilter initial Modules.empty) events) :
    EveryStep (GatewayEvent.step (moduleRuntime engine) gatewayFilter)
      (GatewayEvent.LeavesInForce engine gatewayFilter
        (WatchesRoutes (World.started (moduleRuntime engine) gatewayFilter initial Modules.empty)))
      (World.started (moduleRuntime engine) gatewayFilter initial Modules.empty) events := by
  refine (routes.and completes).gives ?_ ?_ (routing_started initial)
  · rintro before (_ | _) routing ⟨onRoutes | onBackend, returns⟩
    · exact routing.change onRoutes
    · exact routing.changeBackend onBackend
    · exact (routing.flush (returns rfl)).1
    · exact (routing.flush (returns rfl)).1
  · rintro before (_ | _) routing ⟨_, returns⟩ event
    · cases event
    · exact (routing.flush (returns rfl)).2

/-! A route that goes to another Backend, and a Backend that changes with it. -/

def movedRoute : Value :=
  .obj [("kind", .str "TCPRoute"), ("metadata", .obj [("name", .str "route")]),
    ("spec", .obj [("parentRefs", .arr [.obj [("kind", .str "Gateway"), ("name", .str "gw"),
        ("port", .num "80")]]),
      ("rules", .arr [.obj [("backendRefs", .arr [.obj [("name", .str "c")]])]])])]

theorem routeDocument_link {store : Store} (gateways : store.list "Gateway" = [⟨0, linkGateway⟩])
    {route : Resource} (kind : kindOf route.data = .str "TCPRoute")
    (refs : parentRefs route = [.obj [("kind", .str "Gateway"), ("name", .str "gw"),
      ("port", .num "80")]]) :
    RouteDocument plainEngine.toNumber acceptAll store route := by
  refine ⟨by rw [kind]; rfl, fun ref member => ?_,
    fun ref member gateway live _ listener has _ => ?_⟩
  · rw [refs] at member
    obtain rfl := List.mem_singleton.mp member
    rfl
  · rw [refs] at member
    rw [gateways] at live
    obtain rfl := List.mem_singleton.mp member
    obtain rfl := List.mem_singleton.mp live
    obtain rfl := List.mem_singleton.mp has
    exact ⟨rfl, by rw [gateways]; rfl, _, [], [], rfl, rfl, by simp, rfl, rfl⟩

theorem movedRoute_inForce :
    EveryStep (GatewayEvent.step (moduleRuntime plainEngine) acceptAll)
      (GatewayEvent.LeavesInForce plainEngine acceptAll
        (WatchesRoutes
          (World.started (moduleRuntime plainEngine) acceptAll withBackend Modules.empty)))
      (World.started (moduleRuntime plainEngine) acceptAll withBackend Modules.empty)
      (.change "route.json" movedRoute :: writeBackend "new") := by
  refine routeRun_inForce plainEngine acceptAll withBackend
    (.change "route.json" movedRoute :: writeBackend "new")
    ⟨Or.inl ⟨fun _ => routeDocument_link rfl rfl rfl, ?_⟩,
      Or.inr ⟨fun _ => rfl, by rintro old ⟨⟩; rfl⟩, Or.inr trivial, trivial⟩
    ⟨by rintro ⟨⟩, by rintro ⟨⟩, fun _ => trivial, trivial⟩
  rintro old ⟨⟩
  exact routeDocument_link rfl rfl rfl

end Fgw
