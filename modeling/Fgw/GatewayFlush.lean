import Fgw.GatewayRouters

/-!
When a flush gets to its end.  With `isLocalGateway` as the filter a dirty key whose gateway is
not in the store throws, and the dirty lists are emptied only after everything else: what
threw once stays in them for the next flush.
-/

namespace Fgw

/-- `app.endpoint` -/
structure Endpoint where
  id : Value
  name : Value

def isLocalGateway (endpoint : Endpoint) : GatewayFilter := fun gateway => do
  let spec ← (gateway.elim .undefined Resource.data).get "spec"
  let assigned := (spec.opt "ztm").opt "endpoint"
  let id := assigned.opt "id"
  if id.truthy then return id.strictEq endpoint.id
  return (assigned.opt "name").strictEq endpoint.name

/-- A listener whose address has an `indexOf`, if it has one, and whose routes can be searched for
references to it. -/
structure ListenerSound (toNumber : String → String) (store : Store) (gateway listener : Value) :
    Prop where
  address : (listener.opt "address").truthy = true →
    (∃ text, listener.opt "address" = .str text) ∨ ∃ items, listener.opt "address" = .arr items
  metadata : (gateway.opt "metadata").nullish = false
  routes : ∀ route ∈ (routeKinds listener).flatMap store.list, ∀ refs,
    (route.data.opt "spec").opt "parentRefs" = .arr refs →
      UpToHit (refersTo toNumber gateway listener) (fun ref => ref.nullish = false) refs

/-- The listeners of a gateway, as far as `find` looks at them for a dirty key. -/
def ListenersSound (toNumber : String → String) (store : Store) (key : DirtyRouter)
    (gateway listeners : Value) : Prop :=
  match listeners with
  | .arr items => UpToHit (listenerMatches key) (fun listener => listener.nullish = false ∧
      (listenerMatches key listener = .ok true → listener.truthy = true →
        ListenerSound toNumber store gateway listener)) items
  | .obj fields => ((Value.obj fields).opt "find").nullish = true
  | _ => True

/-- A dirty key whose gateway is there, with sound listeners if it is a local one. -/
def RouterSound (toNumber : String → String) (endpoint : Endpoint) (store : Store)
    (key : DirtyRouter) : Prop :=
  key.kind = .str "Gateway" → ∃ gateway,
    (store.list "Gateway").find? (fun gateway => (nameOf gateway.data).strictEq key.name) =
      some gateway ∧ gateway.data.nullish = false ∧
    (isLocalGateway endpoint (some gateway) = .ok true →
      ListenersSound toNumber store key gateway.data
        ((gateway.data.opt "spec").opt "listeners"))

/-- A local gateway with a name has a list of listeners. -/
def GatewaySound (endpoint : Endpoint) (gateway : Resource) : Prop :=
  (nameOf gateway.data).truthy = true → isLocalGateway endpoint (some gateway) = .ok true →
    ∃ listeners, (gateway.data.opt "spec").opt "listeners" = .arr listeners

theorem isLocalGateway_ok_iff (endpoint : Endpoint) (gateway : Option Resource) :
    (∃ accepted, isLocalGateway endpoint gateway = .ok accepted) ↔
      ∃ found, gateway = some found ∧ found.data.nullish = false := by
  unfold isLocalGateway
  rw [exists_ok_bind]
  cases gateway with
  | none => simp [Value.get, Value.nullish]
  | some found =>
      simp only [get_eq_ok_iff, Option.elim_some, and_assoc, exists_and_left, exists_eq_left',
        Option.some.injEq]
      refine and_iff_left ?_
      split <;> exact ⟨_, rfl⟩

theorem makeListenerKey_ok_iff {listener : Value} (present : listener.nullish = false) :
    (∃ key, makeListenerKey listener = .ok key) ↔
      ((listener.opt "address").truthy = true → (∃ text, listener.opt "address" = .str text) ∨
        ∃ items, listener.opt "address" = .arr items) := by
  have read : listener.get "address" = .ok (listener.opt "address") :=
    (get_eq_ok_iff _ _ _).mpr ⟨present, rfl⟩
  have keyed (bracketed : Bool) (first second : ListenerKey) :
      ∃ key, (if bracketed = true then pure first else pure second : Except Thrown ListenerKey) =
        .ok key := by
    cases bracketed
    · exact ⟨second, rfl⟩
    · exact ⟨first, rfl⟩
  unfold makeListenerKey
  rw [read, exists_ok_bind]
  simp only [Except.ok.injEq, exists_eq_left']
  by_cases given : (listener.opt "address").truthy = true
  · rw [Value.or, if_pos given]
    cases same : listener.opt "address" with
    | str text => exact iff_of_true (keyed _ _ _) fun _ => Or.inl ⟨text, rfl⟩
    | arr items => exact iff_of_true (keyed _ _ _) fun _ => Or.inr ⟨items, rfl⟩
    | _ =>
        rw [same] at given
        simp [given, bind, Except.bind, throw, throwThe, MonadExceptOf.throw]
  · rw [Value.or, if_neg given]
    refine iff_of_true ?_ fun truthy => absurd truthy given
    simp only [pure_bind]
    exact keyed _ _ _

theorem makeRouterKey_ok_iff {gateway : Value} (present : gateway.nullish = false)
    (key : ListenerKey) :
    (∃ routerKey, makeRouterKey gateway key = .ok routerKey) ↔
      (gateway.opt "metadata").nullish = false := by
  unfold makeRouterKey
  simp only [exists_ok_bind, get_eq_ok_iff, present, true_and, exists_eq_left', and_assoc]
  simp [pure, Except.pure]

theorem refersTo_ok_iff (toNumber : String → String) {gateway : Value} (listener ref : Value)
    (present : gateway.nullish = false) (metadata : (gateway.opt "metadata").nullish = false) :
    (∃ hit, refersTo toNumber gateway listener ref = .ok hit) ↔ ref.nullish = false := by
  have metadataRead : gateway.get "metadata" = .ok (gateway.opt "metadata") :=
    (get_eq_ok_iff _ _ _).mpr ⟨present, rfl⟩
  have nameRead : (gateway.opt "metadata").get "name" = .ok (nameOf gateway) :=
    (get_eq_ok_iff _ _ _).mpr ⟨metadata, rfl⟩
  unfold refersTo
  rw [exists_ok_bind]
  simp only [get_eq_ok_iff, and_assoc, exists_and_left, exists_eq_left', metadataRead, nameRead,
    bind, Except.bind]
  refine and_iff_left ?_
  by_cases other : ((ref.opt "kind").truthy && !(ref.opt "kind").strictEq (.str "Gateway")) = true
  · exact ⟨false, by simp [other, pure, Except.pure]⟩
  · simp only [other, Bool.false_eq_true, if_false]
    by_cases named : (ref.opt "name").strictEq (nameOf gateway) = true
    · simp only [named, Bool.not_true, Bool.false_eq_true, if_false]
      split <;> exact ⟨_, rfl⟩
    · exact ⟨false, by simp [named, pure, Except.pure]⟩

theorem attached_ok_iff (toNumber : String → String) {gateway : Value} (listener : Value)
    (route : Resource) (present : gateway.nullish = false)
    (metadata : (gateway.opt "metadata").nullish = false) :
    (∃ hit, attached toNumber gateway listener route = .ok hit) ↔
      ∀ refs, (route.data.opt "spec").opt "parentRefs" = .arr refs →
        UpToHit (refersTo toNumber gateway listener) (fun ref => ref.nullish = false) refs := by
  unfold attached
  cases (route.data.opt "spec").opt "parentRefs" with
  | arr refs =>
      simp only [Value.array?, exists_ok_anyM, refersTo_ok_iff toNumber listener _ present metadata,
        Value.arr.injEq, forall_eq']
  | _ => simp [Value.array?]

theorem listener_ok_iff (toNumber : String → String) (store : Store) {gateway listener : Value}
    (present : gateway.nullish = false) (found : listener.nullish = false) :
    (∃ call, (do
        let listenerKey ← makeListenerKey listener
        let routerKey ← makeRouterKey gateway listenerKey
        let routeResources ← findRouteResources toNumber store gateway listener
        return some (.route routerKey listener routeResources) :
          Except Thrown (Option UpdaterCall)) = .ok call) ↔
      ListenerSound toNumber store gateway listener := by
  simp only [exists_ok_bind]
  constructor
  · rintro ⟨listenerKey, keyed, routerKey, routed, routes, collected, _⟩
    have metadata := (makeRouterKey_ok_iff present listenerKey).mp ⟨routerKey, routed⟩
    refine ⟨(makeListenerKey_ok_iff found).mp ⟨listenerKey, keyed⟩, metadata, ?_⟩
    intro route member
    rw [← attached_ok_iff toNumber listener route present metadata]
    exact (exists_ok_filterM _ _).mp ⟨routes, collected⟩ route member
  · rintro ⟨address, metadata, routes⟩
    obtain ⟨listenerKey, keyed⟩ := (makeListenerKey_ok_iff found).mpr address
    obtain ⟨routerKey, routed⟩ := (makeRouterKey_ok_iff present listenerKey).mpr metadata
    have readable : ∃ kept, findRouteResources toNumber store gateway listener = .ok kept := by
      refine (exists_ok_filterM _ _).mpr fun route member => ?_
      exact (attached_ok_iff toNumber listener route present metadata).mpr (routes route member)
    obtain ⟨kept, collected⟩ := readable
    exact ⟨listenerKey, keyed, routerKey, routed, kept, collected, _, rfl⟩

theorem listenerMatches_ok_iff (key : DirtyRouter) (listener : Value) :
    (∃ hit, listenerMatches key listener = .ok hit) ↔ listener.nullish = false := by
  unfold listenerMatches
  rw [exists_ok_bind, ← get_ok_iff listener "name"]
  simp [pure, Except.pure]

theorem listeners_ok_iff (toNumber : String → String) (store : Store) (key : DirtyRouter)
    {gateway : Value} (present : gateway.nullish = false) (listeners : Value) :
    (∃ call, (do
        let some items ← listeners.optItems "find" | return none
        let some listener ← items.findM? (listenerMatches key) | return none
        if !listener.truthy then return none
        let listenerKey ← makeListenerKey listener
        let routerKey ← makeRouterKey gateway listenerKey
        let routeResources ← findRouteResources toNumber store gateway listener
        return some (.route routerKey listener routeResources) :
          Except Thrown (Option UpdaterCall)) = .ok call) ↔
      ListenersSound toNumber store key gateway listeners := by
  cases listeners with
  | arr items =>
      simp only [Value.optItems, ListenersSound]
      rw [exists_ok_bind]
      simp only [Except.ok.injEq, exists_eq_left']
      refine (exists_ok_findM?_bind _ _ _ ?_).trans (upToHit_congr ?_ items)
      · exact ⟨none, rfl⟩
      intro listener
      rw [listenerMatches_ok_iff]
      refine and_congr_right fun found => imp_congr_right fun _ => ?_
      by_cases truthy : listener.truthy = true
      · simp only [truthy, Bool.not_true, Bool.false_eq_true, if_false, true_imp_iff]
        exact listener_ok_iff toNumber store present found
      · simp [truthy, pure, Except.pure]
  | obj fields =>
      by_cases missing : ((Value.obj fields).opt "find").nullish = true
      · simp [Value.optItems, ListenersSound, missing, bind, Except.bind, pure, Except.pure]
      · simp [Value.optItems, ListenersSound, missing, bind, Except.bind]
  | _ => simp [Value.optItems, ListenersSound, bind, Except.bind, pure, Except.pure]

theorem routerCall_ok_iff (toNumber : String → String) (endpoint : Endpoint) (store : Store)
    (key : DirtyRouter) :
    (∃ call, routerCall toNumber (isLocalGateway endpoint) store key = .ok call) ↔
      RouterSound toNumber endpoint store key := by
  unfold routerCall RouterSound
  by_cases kind : key.kind.strictEq (.str "Gateway") = true
  · rw [imp_iff_right (Value.eq_of_strictEq kind), kind]
    simp only [Bool.not_true, Bool.false_eq_true, if_false]
    rw [exists_ok_bind]
    constructor
    · rintro ⟨accepted, filtered, rest⟩
      obtain ⟨gateway, named, present⟩ := (isLocalGateway_ok_iff endpoint _).mp ⟨_, filtered⟩
      refine ⟨gateway, named, present, fun isLocal => ?_⟩
      rw [named] at filtered rest
      cases filtered.symm.trans isLocal
      exact (listeners_ok_iff toNumber store key present _).mp rest
    · rintro ⟨gateway, named, present, sound⟩
      rw [named]
      obtain ⟨accepted, filtered⟩ := (isLocalGateway_ok_iff endpoint (some gateway)).mpr
        ⟨gateway, rfl, present⟩
      refine ⟨accepted, filtered, ?_⟩
      cases accepted with
      | false => exact ⟨none, rfl⟩
      | true => exact (listeners_ok_iff toNumber store key present _).mpr (sound filtered)
  · refine iff_of_true ⟨none, by simp [kind, pure, Except.pure]⟩ fun gatewayKind => ?_
    simp [gatewayKind, Value.strictEq] at kind

theorem present_of_named {data : Value} (named : (nameOf data).truthy = true) :
    data.nullish = false := by
  cases data with
  | undefined => cases named
  | null => cases named
  | _ => rfl

theorem items_ok_iff (value : Value) (method : String) :
    (∃ items, value.items method = .ok items) ↔ ∃ items, value = .arr items := by
  cases value <;> simp [Value.items]

theorem listenersRead_ok_iff {gateway : Value} (present : gateway.nullish = false) :
    (∃ listeners, (do
        (← (← gateway.get "spec").get "listeners").items "forEach" : Except Thrown (List Value)) =
          .ok listeners) ↔ ∃ listeners, (gateway.opt "spec").opt "listeners" = .arr listeners := by
  simp only [exists_ok_bind, get_eq_ok_iff, present, true_and, exists_eq_left', and_assoc,
    exists_and_left, items_ok_iff]
  refine and_iff_right_of_imp fun listed => ?_
  obtain ⟨listeners, same⟩ := listed
  cases spec : gateway.opt "spec" with
  | undefined =>
      rw [spec] at same
      cases same
  | null =>
      rw [spec] at same
      cases same
  | _ => rfl

section Flush

variable {M : Type}

/-- A state of the flush that started in `start`: what it works from is still there. -/
structure Flushing (start before : World M) : Prop where
  store : before.store = start.store
  dirtyGateways : before.dirtyGateways = start.dirtyGateways
  dirtyRouters : before.dirtyRouters = start.dirtyRouters
  dirtyBackends : before.dirtyBackends = start.dirtyBackends
  dirtyPolicies : before.dirtyPolicies = start.dirtyPolicies
  dirtyResources : before.dirtyResources = start.dirtyResources
  recorded : ∃ made, before.updaterCalls = start.updaterCalls ++ made

theorem Flushing.refl (world : World M) : Flushing world world :=
  ⟨rfl, rfl, rfl, rfl, rfl, rfl, [], by simp⟩

theorem flushing_frame (start : World M) : GatewayFrame (Flushing start) where
  modules _ _ now := ⟨now.1, now.2, now.3, now.4, now.5, now.6, now.7⟩
  ports _ _ _ now := ⟨now.1, now.2, now.3, now.4, now.5, now.6, now.7⟩
  closed _ _ now := ⟨now.1, now.2, now.3, now.4, now.5, now.6, now.7⟩

/-- One of the updaters run since `start` throws. -/
def UpdaterThrows (runtime : Runtime M) (start after : World M) : Prop :=
  ∃ made, after.updaterCalls = start.updaterCalls ++ made ∧ ∃ call ∈ made, ∃ modules,
    ¬ Returns (runtime.runUpdaters call start.store) modules

variable {runtime : Runtime M} {endpoint : Endpoint} {start : World M}

theorem ends_runUpdaters (call : UpdaterCall) (before : World M) (now : Flushing start before) :
    Ends (runUpdaters runtime call) before (fun _ after => Flushing start after)
      (fun _ after => Flushing start after ∧ UpdaterThrows runtime start after) := by
  obtain ⟨made, recorded⟩ := now.recorded
  have recording : before.updaterCalls ++ [call] = start.updaterCalls ++ (made ++ [call]) := by
    rw [recorded, List.append_assoc]
  rw [Ends, runUpdaters_run]
  cases ran : runtime.runUpdaters call before.store before.modules with
  | ok value modules =>
      exact ⟨now.store, now.dirtyGateways, now.dirtyRouters, now.dirtyBackends, now.dirtyPolicies,
        now.dirtyResources, _, recording⟩
  | error thrown modules =>
      refine ⟨⟨now.store, now.dirtyGateways, now.dirtyRouters, now.dirtyBackends,
        now.dirtyPolicies, now.dirtyResources, _, recording⟩, _, recording, call, by simp,
        before.modules, ?_⟩
      rw [← now.store, returns_iff, ran]
      rintro ⟨_, _, returned⟩
      cases returned

theorem ends_updateRouter (key : DirtyRouter) (before : World M) (now : Flushing start before) :
    Ends (updateRouter runtime (isLocalGateway endpoint) key) before
      (fun _ after => Flushing start after ∧ RouterSound runtime.toNumber endpoint start.store key)
      (fun _ after => Flushing start after ∧
        (¬ RouterSound runtime.toNumber endpoint start.store key ∨
          UpdaterThrows runtime start after)) := by
  rw [Ends, updateRouter_run, now.store, ← Ends, ends_bind, ends_ofExcept,
    ← routerCall_ok_iff]
  cases called : routerCall runtime.toNumber (isLocalGateway endpoint) start.store key with
  | error thrown => exact ⟨now, Or.inl (by simp)⟩
  | ok target =>
      have sound : ∃ call, Except.ok target = (Except.ok call : Except Thrown _) := ⟨target, rfl⟩
      cases target with
      | none => exact ⟨now, sound⟩
      | some call =>
          exact (ends_runUpdaters call before now).mono (fun _ _ kept => ⟨kept, sound⟩)
            fun _ _ raised => ⟨raised.1, Or.inr raised.2⟩

theorem returns_refreshListeners (gateway : Resource) (isUpdated : Bool)
    (updated : List ListenerKey) (listeners : List Value) (before : World M) :
    Returns (listeners.foldlM (refreshListener runtime gateway isUpdated) updated) before := by
  refine (returns_foldlM_iff listeners _ (fun _ => True) (fun _ => True) (fun state item => ?_)
    (fun state item world _ => iff_of_true ?_ trivial) updated before trivial).mpr
    fun _ _ => trivial
  · exact (keeps_iff_stateAfter _ _).mpr fun _ _ => trivial
  · rw [refreshListener, Returns, ends_tryCatch]
    have ended := (ends_iff_stateAfter (do
      let key ← if isUpdated then makeListener runtime gateway item
        else MonadExcept.ofExcept (makeListenerKey item)
      return addKey state key) world fun _ => True).mpr trivial
    exact ended.mono (fun _ _ _ => trivial) (fun _ _ _ => trivial)

theorem refreshGateway_returns_iff (dirtyGateways : List Value) (updated : List ListenerKey)
    (gateway : Resource) (before : World M) :
    Returns (refreshGateway runtime (isLocalGateway endpoint) dirtyGateways updated gateway)
      before ↔ GatewaySound endpoint gateway := by
  unfold refreshGateway GatewaySound
  by_cases named : (nameOf gateway.data).truthy = true
  · have present := present_of_named named
    obtain ⟨accepted, filtered⟩ := (isLocalGateway_ok_iff endpoint (some gateway)).mpr
      ⟨gateway, rfl, present⟩
    simp only [named, Bool.not_true, Bool.false_eq_true, if_false, true_imp_iff,
      returns_ofExcept_bind, filtered, Except.ok.injEq, exists_eq_left']
    cases accepted with
    | false => exact iff_of_true (returns_pure _ _) fun isLocal => by cases isLocal
    | true =>
        simp only [Bool.not_true, Bool.false_eq_true, if_false, true_imp_iff]
        rw [returns_ofExcept_bind, ← listenersRead_ok_iff present]
        exact exists_congr fun listeners =>
          and_iff_left (returns_refreshListeners gateway _ updated listeners before)
  · simp only [named, Bool.not_false, if_true]
    exact iff_of_true (returns_pure _ _) fun absurd => by cases absurd

theorem ends_updateGateways (before : World M) (now : Flushing start before) :
    Ends (updateGateways runtime (isLocalGateway endpoint)) before
      (fun _ after => Flushing start after ∧ (start.dirtyGateways ≠ [] →
        ∀ gateway ∈ start.store.list "Gateway", GatewaySound endpoint gateway))
      (fun _ after => Flushing start after ∧ ¬ (start.dirtyGateways ≠ [] →
        ∀ gateway ∈ start.store.list "Gateway", GatewaySound endpoint gateway)) := by
  refine ends_of_returns_iff (keeps_updateGateways (flushing_frame start)) now ?_
  unfold updateGateways
  rw [Returns, ends_bind, ends_get, ← Returns, now.dirtyGateways, now.store]
  by_cases clean : start.dirtyGateways = []
  · rw [clean]
    exact iff_of_true (returns_pure _ _) fun dirty => absurd rfl dirty
  · rw [if_neg (by simpa using clean), returns_bind_modify, imp_iff_right clean]
    exact returns_foldlM_iff _ _ (Flushing start) (GatewaySound endpoint)
      (fun updated gateway => keeps_refreshGateway (flushing_frame start) _ updated gateway)
      (fun updated gateway world _ => refreshGateway_returns_iff _ updated gateway world) []
      before now

structure Settled (world : World M) : Prop where
  dirtyGateways : world.dirtyGateways = []
  dirtyRouters : world.dirtyRouters = []
  dirtyBackends : world.dirtyBackends = []
  dirtyPolicies : world.dirtyPolicies = []
  dirtyResources : world.dirtyResources = []

/-- What the dirty lists name can be looked up in the store. -/
structure FlushSound (toNumber : String → String) (endpoint : Endpoint) (world : World M) :
    Prop where
  routers : ∀ key ∈ world.dirtyRouters, RouterSound toNumber endpoint world.store key
  gateways : world.dirtyGateways ≠ [] →
    ∀ gateway ∈ world.store.list "Gateway", GatewaySound endpoint gateway

theorem ends_runAll {Item : Type} (items : List Item) (call : Item → UpdaterCall)
    (before : World M) (now : Flushing start before) :
    Ends (forM items fun item => runUpdaters runtime (call item)) before
      (fun _ after => Flushing start after)
      (fun _ after => Flushing start after ∧ UpdaterThrows runtime start after) := by
  have loop := @ends_forM Thrown (World M) Item (Flushing start) (fun _ => True)
    (fun _ after => UpdaterThrows runtime start after) items
    (fun item => runUpdaters runtime (call item))
    (fun item before now => (ends_runUpdaters (call item) before now).mono
      (fun _ _ kept => ⟨kept, trivial⟩) fun _ _ raised => ⟨raised.1, Or.inr raised.2⟩) before now
  refine loop.mono (fun _ _ kept => kept.1) fun _ _ raised => ⟨raised.1, ?_⟩
  exact raised.2.resolve_left fun unsound => unsound fun _ _ => trivial

theorem ends_updateDirtyResources (world : World M) :
    Ends (updateDirtyResources runtime (isLocalGateway endpoint)) world
      (fun _ after => Settled after ∧ FlushSound runtime.toNumber endpoint world)
      (fun _ after => Flushing world after ∧
        (¬ FlushSound runtime.toNumber endpoint world ∨ UpdaterThrows runtime world after)) := by
  unfold updateDirtyResources
  simp only [ends_bind, ends_get, ends_modify]
  refine (ends_runAll _ _ world (.refl world)).mono (fun _ backends now => ?_)
    fun _ _ raised => ⟨raised.1, Or.inr raised.2⟩
  rw [now.dirtyRouters]
  refine (ends_forM ends_updateRouter backends now).mono (fun _ routers now => ?_)
    fun _ _ raised => ⟨raised.1, raised.2.imp_left fun unsound sound => unsound sound.routers⟩
  obtain ⟨now, routersSound⟩ := now
  refine (ends_runAll _ _ routers now).mono (fun _ policies now => ?_)
    fun _ _ raised => ⟨raised.1, Or.inr raised.2⟩
  refine (ends_updateGateways policies now).mono (fun _ gateways now => ?_)
    fun _ _ raised => ⟨raised.1, Or.inl fun sound => raised.2 sound.gateways⟩
  obtain ⟨now, gatewaysSound⟩ := now
  refine (ends_runAll _ _ gateways now).mono (fun _ _ _ => ?_)
    fun _ _ raised => ⟨raised.1, Or.inr raised.2⟩
  exact ⟨⟨rfl, rfl, rfl, rfl, rfl⟩, routersSound, gatewaysSound⟩

def UpdatersReturn (runtime : Runtime M) (gatewayFilter : GatewayFilter) (world : World M) : Prop :=
  ∀ made, (stateAfter (updateDirtyResources runtime gatewayFilter) world).updaterCalls =
    world.updaterCalls ++ made → ∀ call ∈ made, ∀ modules,
      Returns (runtime.runUpdaters call world.store) modules

theorem flush_settles_iff (runtime : Runtime M) (endpoint : Endpoint) (world : World M)
    (updaters : UpdatersReturn runtime (isLocalGateway endpoint) world) :
    Ends (updateDirtyResources runtime (isLocalGateway endpoint)) world
        (fun _ after => Settled after) (fun _ _ => False) ↔
      FlushSound runtime.toNumber endpoint world := by
  have ended := @ends_updateDirtyResources M runtime endpoint world
  unfold UpdatersReturn stateAfter at updaters
  simp only [Ends] at ended ⊢
  cases ran : updateDirtyResources runtime (isLocalGateway endpoint) world with
  | ok value after =>
      rw [ran] at ended
      exact iff_of_true ended.1 ended.2
  | error thrown after =>
      rw [ran] at ended updaters
      refine iff_of_false id ?_
      rcases ended.2 with unsound | ⟨made, recorded, call, member, modules, throws⟩
      · exact unsound
      · exact absurd (updaters made recorded call member modules) throws

/-- One unsound entry makes this flush throw, and every later one over the same store. -/
theorem flush_stuck {world : World M}
    (unsound : ¬ FlushSound runtime.toNumber endpoint world) :
    ∃ thrown after, updateDirtyResources runtime (isLocalGateway endpoint) world =
      .error thrown after ∧ Flushing world after ∧
        ¬ FlushSound runtime.toNumber endpoint after := by
  have ended := @ends_updateDirtyResources M runtime endpoint world
  simp only [Ends] at ended
  cases ran : updateDirtyResources runtime (isLocalGateway endpoint) world with
  | ok value after =>
      rw [ran] at ended
      exact absurd ended.2 unsound
  | error thrown after =>
      rw [ran] at ended
      obtain ⟨kept, _⟩ := ended
      refine ⟨thrown, after, rfl, kept, fun sound => unsound ⟨?_, ?_⟩⟩
      · rw [← kept.dirtyRouters, ← kept.store]
        exact sound.routers
      · rw [← kept.dirtyGateways, ← kept.store]
        exact sound.gateways

end Flush

theorem quietRuntime_updatersReturn (gatewayFilter : GatewayFilter) (world : World Unit) :
    UpdatersReturn quietRuntime gatewayFilter world :=
  fun _ _ _ _ _ => returns_pure _ _

def thisEndpoint : Endpoint := ⟨.str "ep-1", .str "edge"⟩

theorem flush_settles_web :
    Ends (updateDirtyResources quietRuntime (isLocalGateway thisEndpoint))
        (stateAfter (onResourceChange (.create ⟨1, webRoute [gatewayRef]⟩))
          (webWorld (webRoute [gatewayRef])))
        (fun _ after => Settled after) (fun _ _ => False) ↔
      FlushSound quietRuntime.toNumber thisEndpoint
        (stateAfter (onResourceChange (.create ⟨1, webRoute [gatewayRef]⟩))
          (webWorld (webRoute [gatewayRef]))) :=
  flush_settles_iff quietRuntime thisEndpoint _ (quietRuntime_updatersReturn _ _)

/-! A route whose parent reference names a gateway that is not in the store. -/

def orphanRef : Value := .obj [("kind", .str "Gateway"), ("name", .str "missing")]

def orphanWorld : World Unit :=
  stateAfter (onResourceChange (.create ⟨1, webRoute [orphanRef]⟩))
    (webWorld (webRoute [orphanRef]))

theorem orphanRoute_wedges :
    ¬ ∀ (runtime : Runtime Unit) (endpoint : Endpoint) (world : World Unit),
      UpdatersReturn runtime (isLocalGateway endpoint) world →
        Ends (updateDirtyResources runtime (isLocalGateway endpoint)) world
          (fun _ after => Settled after) (fun _ _ => False) := by
  intro claimed
  exact claimed quietRuntime thisEndpoint orphanWorld (quietRuntime_updatersReturn _ _)

end Fgw
