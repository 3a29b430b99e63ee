import Fgw.GatewayNotify

/-!
Which router updaters a changed route gets run.  A notification turns the parent references
of the route into dirty keys; the flush looks up one listener for each key, in order, until
something throws.
-/

namespace Fgw

/-- What the flush looks up for a dirty key: the first gateway of its name, accepted, and that
gateway's first listener of its section name or of the very same port. -/
structure RoutesTo (toNumber : String → String) (gatewayFilter : GatewayFilter) (store : Store)
    (key : DirtyRouter) (routerKey : String) (listener : Value) (routes : List Resource) :
    Prop where
  gatewayKind : key.kind = .str "Gateway"
  found : ∃ gateway listeners front back listenerKey,
    (store.list "Gateway").find? (fun gateway => (nameOf gateway.data).strictEq key.name) =
      some gateway ∧
    gatewayFilter (some gateway) = .ok true ∧
    (gateway.data.opt "spec").opt "listeners" = .arr listeners ∧
    listeners = front ++ listener :: back ∧
    (∀ other ∈ front, listenerMatches key other = .ok false) ∧
    listenerMatches key listener = .ok true ∧ listener.truthy = true ∧
    makeListenerKey listener = .ok listenerKey ∧
    makeRouterKey gateway.data listenerKey = .ok routerKey ∧
    findRouteResources toNumber store gateway.data listener = .ok routes

theorem findM?_eq_some {α : Type} (items : List α) (test : α → Except Thrown Bool) (item : α) :
    items.findM? test = .ok (some item) ↔
      ∃ front back, items = front ++ item :: back ∧ (∀ other ∈ front, test other = .ok false) ∧
        test item = .ok true := by
  induction items with
  | nil => simp [List.findM?, pure, Except.pure]
  | cons head rest ih =>
      simp only [List.findM?, bind_eq_ok]
      constructor
      · rintro ⟨_ | _, tested, later⟩
        · obtain ⟨front, back, rfl, before, here⟩ := ih.mp later
          exact ⟨head :: front, back, rfl, List.forall_mem_cons.mpr ⟨tested, before⟩, here⟩
        · cases later
          exact ⟨[], rest, rfl, by simp, tested⟩
      · rintro ⟨_ | ⟨first, front⟩, back, same, before, here⟩
        · cases same
          exact ⟨true, here, rfl⟩
        · rw [List.cons_append, List.cons.injEq] at same
          obtain ⟨rfl, rfl⟩ := same
          rw [List.forall_mem_cons] at before
          exact ⟨false, before.1, ih.mpr ⟨front, back, rfl, before.2, here⟩⟩

theorem optItems_eq_some (value : Value) (method : String) (items : List Value) :
    value.optItems method = .ok (some items) ↔ value = .arr items := by
  cases value with
  | obj fields =>
      by_cases missing : ((Value.obj fields).opt method).nullish <;> simp [Value.optItems, missing]
  | _ => simp [Value.optItems]

theorem routerCall_eq_some (toNumber : String → String) (gatewayFilter : GatewayFilter)
    (store : Store) (key : DirtyRouter) (call : UpdaterCall) :
    routerCall toNumber gatewayFilter store key = .ok (some call) ↔
      ∃ routerKey listener routes, call = .route routerKey listener routes ∧
        RoutesTo toNumber gatewayFilter store key routerKey listener routes := by
  unfold routerCall
  by_cases kind : key.kind.strictEq (.str "Gateway") = true
  · simp only [kind, Bool.not_true, Bool.false_eq_true, if_false, bind_eq_ok]
    constructor
    · rintro ⟨_ | _, filtered, rest⟩
      · cases rest
      · simp only [Bool.not_true, Bool.false_eq_true, if_false] at rest
        split at rest
        · cases rest
        · rename_i gateway named
          rw [named] at filtered
          obtain ⟨_ | listeners, read, rest⟩ := (bind_eq_ok _ _ _).mp rest
          · cases rest
          obtain ⟨_ | listener, matched, rest⟩ := (bind_eq_ok _ _ _).mp rest
          · cases rest
          obtain ⟨front, back, placed, before, here⟩ := (findM?_eq_some _ _ _).mp matched
          by_cases present : listener.truthy = true
          · simp only [present, Bool.not_true, Bool.false_eq_true, if_false, bind_eq_ok] at rest
            obtain ⟨listenerKey, keyed, routerKey, routed, routes, collected, rest⟩ := rest
            cases rest
            exact ⟨routerKey, listener, routes, rfl, Value.eq_of_strictEq kind, gateway, listeners,
              front, back, listenerKey, named, filtered, (optItems_eq_some _ _ _).mp read, placed,
              before, here, present, keyed, routed, collected⟩
          · simp only [present, Bool.not_false, if_true] at rest
            cases rest
    · rintro ⟨routerKey, listener, routes, rfl, _, gateway, listeners, front, back, listenerKey,
        named, filtered, read, placed, before, here, present, keyed, routed, collected⟩
      have matched := (findM?_eq_some listeners (listenerMatches key) listener).mpr
        ⟨front, back, placed, before, here⟩
      rw [named]
      refine ⟨true, filtered, ?_⟩
      simp only [Bool.not_true, Bool.false_eq_true, if_false, read, Value.optItems, matched,
        present, keyed, routed, collected, bind, Except.bind, pure, Except.pure]
  · constructor
    · intro called
      simp [kind, pure, Except.pure] at called
    · rintro ⟨_, _, _, _, gatewayKind, _⟩
      simp [gatewayKind, Value.strictEq] at kind

section Flush

variable {M : Type}

def parentRefs (route : Resource) : List Value :=
  (((route.data.opt "spec").opt "parentRefs").array?).getD []

def refKey (ref : Value) : DirtyRouter :=
  ⟨ref.opt "kind", ref.opt "name", ref.opt "port", ref.opt "sectionName"⟩

def addRouterKey (keys : List DirtyRouter) (key : DirtyRouter) : List DirtyRouter :=
  if keys.any key.isIdentical then keys else keys ++ [key]

/-- The dirty keys once a changed route has added its own, each once: those of the references
of both versions, up to the first that is `null`, where the notification throws.  A DubboRoute
adds none. -/
def dirtyKeys (earlier : List DirtyRouter) (notification : Notification) : List DirtyRouter :=
  if roleOf notification.kind = .route then
    (((notification.versions.flatMap parentRefs).takeWhile fun ref => !ref.nullish).map
      refKey).foldl addRouterKey earlier
  else earlier

theorem addDirtyRouters_eq (route : Resource) :
    (addDirtyRouters ((route.data.opt "spec").opt "parentRefs") :
      EStateM Thrown (World M) Unit) = forM (parentRefs route) addDirtyRouterRef := by
  unfold addDirtyRouters parentRefs
  cases ((route.data.opt "spec").opt "parentRefs").array? <;> rfl

theorem forM_flatMap (versions : List Resource) :
    (forM versions fun route => forM (parentRefs route) addDirtyRouterRef :
      EStateM Thrown (World M) Unit) = forM (versions.flatMap parentRefs) addDirtyRouterRef := by
  induction versions with
  | nil => rfl
  | cons route rest ih =>
      rw [List.forM_cons, List.flatMap_cons, List.forM_append, ih]

theorem addDirtyRouterRef_ok {ref : Value} (present : ref.nullish = false) (world : World M) :
    addDirtyRouterRef ref world = .ok () (addDirtyRouter (refKey ref) world) := by
  have key : dirtyRouterOf ref = .ok (refKey ref) := by
    simp [dirtyRouterOf, Value.get, present, refKey, bind, Except.bind, pure, Except.pure]
  unfold addDirtyRouterRef
  rw [key]
  rfl

theorem addDirtyRouterRef_error {ref : Value} (missing : ref.nullish = true) (world : World M) :
    ∃ thrown, addDirtyRouterRef ref world = .error thrown world := by
  have key : dirtyRouterOf ref = .error (.typeError "cannot read property kind") := by
    simp [dirtyRouterOf, Value.get, missing, bind, Except.bind]
  unfold addDirtyRouterRef
  rw [key]
  exact ⟨_, rfl⟩

theorem stateAfter_refs (refs : List Value) (world : World M) :
    stateAfter (forM refs addDirtyRouterRef) world = { world with
      dirtyRouters := ((refs.takeWhile fun ref => !ref.nullish).map refKey).foldl addRouterKey
        world.dirtyRouters } := by
  induction refs generalizing world with
  | nil => rfl
  | cons ref rest ih =>
      rw [List.forM_cons]
      by_cases missing : ref.nullish = true
      · obtain ⟨thrown, ran⟩ := addDirtyRouterRef_error missing world
        rw [stateAfter_bind_error ran, List.takeWhile_cons_of_neg (by simp [missing])]
        rfl
      · rw [Bool.not_eq_true] at missing
        rw [stateAfter_bind_ok (addDirtyRouterRef_ok missing world), ih,
          List.takeWhile_cons_of_pos (by simp [missing]), List.map_cons, List.foldl_cons]
        unfold addDirtyRouter addRouterKey
        split <;> rfl

/-- What a changed route leaves for the flush: the dirty keys, and nothing else that matters
to routers. -/
structure RouteChange (before after : World M) (notification : Notification) : Prop where
  store : after.store = before.store
  modules : after.modules = before.modules
  dirtyRouters : after.dirtyRouters = dirtyKeys before.dirtyRouters notification
  dirtyBackends : after.dirtyBackends = before.dirtyBackends
  updaterCalls : after.updaterCalls = before.updaterCalls

theorem roleOf_routeKind {kind : String} (route : kind ∈ allRouteKinds) :
    roleOf (.str kind) = .route ∨ roleOf (.str kind) = .other := by
  simp only [allRouteKinds, List.mem_cons, List.not_mem_nil, or_false] at route
  rcases route with rfl | rfl | rfl | rfl | rfl | rfl <;> decide

theorem routeChange_onResourceChange (notification : Notification) (world : World M)
    {kind : String} (route : kind ∈ allRouteKinds) (sameKind : notification.kind = .str kind) :
    RouteChange world (stateAfter (onResourceChange notification) world) notification := by
  have marked : RouteChange world (stateAfter (markDirty notification) world) notification := by
    have keys : dirtyKeys world.dirtyRouters notification =
        if roleOf (.str kind) = .route then
          (((notification.versions.flatMap parentRefs).takeWhile fun ref => !ref.nullish).map
            refKey).foldl addRouterKey world.dirtyRouters
        else world.dirtyRouters := by
      rw [dirtyKeys, sameKind]
    unfold markDirty
    rw [sameKind]
    rcases roleOf_routeKind route with role | role
    · simp only [role, addDirtyRouters_eq, forM_flatMap, stateAfter_refs]
      exact ⟨rfl, rfl, by simp [keys, role], rfl, rfl⟩
    · simp only [role, stateAfter_modify, addDirtyResource]
      exact ⟨rfl, rfl, by simp [keys, role], rfl, rfl⟩
  unfold onResourceChange
  rcases stateAfter_bind_modify (markDirty notification)
    (fun world => { world with dirtyTimeout := true }) world with same | same
  · rw [same]
    exact ⟨marked.store, marked.modules, marked.dirtyRouters, marked.dirtyBackends,
      marked.updaterCalls⟩
  · rw [same]
    exact marked

variable (runtime : Runtime M) (gatewayFilter : GatewayFilter)

/-- A dirty key of the list whose call is made: nothing before it throws. -/
def Reached (keys : List DirtyRouter) (world : World M) (call : UpdaterCall) : Prop :=
  ∃ before key rest, keys = before ++ key :: rest ∧
    Returns (forM before (updateRouter runtime gatewayFilter)) world ∧
    routerCall runtime.toNumber gatewayFilter world.store key = .ok (some call)

variable {runtime gatewayFilter}

theorem runUpdaters_run (call : UpdaterCall) (world : World M) :
    runUpdaters runtime call world =
      match runtime.runUpdaters call world.store world.modules with
      | .ok _ modules => .ok () { world with
          updaterCalls := world.updaterCalls ++ [call], modules := modules }
      | .error thrown modules => .error thrown { world with
          updaterCalls := world.updaterCalls ++ [call], modules := modules } := by
  rfl

theorem stateAfter_runUpdaters (call : UpdaterCall) (world : World M) :
    stateAfter (runUpdaters runtime call) world = { world with
      updaterCalls := world.updaterCalls ++ [call]
      modules := stateAfter (runtime.runUpdaters call world.store) world.modules } := by
  rw [stateAfter, runUpdaters_run, stateAfter]
  cases runtime.runUpdaters call world.store world.modules <;> rfl

theorem updateRouter_run (key : DirtyRouter) (world : World M) :
    updateRouter runtime gatewayFilter key world =
      (MonadExcept.ofExcept (routerCall runtime.toNumber gatewayFilter world.store key) >>=
        fun called => called.elim (pure ()) (runUpdaters runtime) :
          EStateM Thrown (World M) Unit) world := by
  rw [updateRouter, run_get_bind]
  rcases routerCall runtime.toNumber gatewayFilter world.store key with thrown | _ | call
  · rfl
  · rfl
  · rfl

theorem stateAfter_updateRouter (key : DirtyRouter) (world : World M) :
    stateAfter (updateRouter runtime gatewayFilter key) world =
      match routerCall runtime.toNumber gatewayFilter world.store key with
      | .ok (some call) => stateAfter (runUpdaters runtime call) world
      | _ => world := by
  simp only [stateAfter, updateRouter_run]
  rcases routerCall runtime.toNumber gatewayFilter world.store key with thrown | _ | call <;> rfl

theorem keeps_updateRouter {inv : World M → Prop}
    (runs : ∀ call, Keeps inv (runUpdaters runtime call)) (key : DirtyRouter) :
    Keeps inv (updateRouter runtime gatewayFilter key) := by
  intro world holds
  rw [Ends, updateRouter_run, ← Ends]
  refine ((keeps_ofExcept _ _).bind fun called => ?_) world holds
  cases called with
  | none => exact keeps_pure _ _
  | some call => exact runs call

theorem updateRouter_step (key : DirtyRouter) (world : World M) :
    (stateAfter (updateRouter runtime gatewayFilter key) world).store = world.store ∧
      ∀ call, call ∈ (stateAfter (updateRouter runtime gatewayFilter key) world).updaterCalls ↔
        call ∈ world.updaterCalls ∨
          routerCall runtime.toNumber gatewayFilter world.store key = .ok (some call) := by
  rw [stateAfter_updateRouter]
  rcases routerCall runtime.toNumber gatewayFilter world.store key with thrown | _ | made
  · simp
  · simp
  · simp [stateAfter_runUpdaters, eq_comm]

theorem reached_cons (key : DirtyRouter) (rest : List DirtyRouter) (world : World M)
    (call : UpdaterCall) :
    Reached runtime gatewayFilter (key :: rest) world call ↔
      routerCall runtime.toNumber gatewayFilter world.store key = .ok (some call) ∨
      ∃ after, updateRouter runtime gatewayFilter key world = .ok () after ∧
        Reached runtime gatewayFilter rest after call := by
  have sameStore {after : World M}
      (ran : updateRouter runtime gatewayFilter key world = .ok () after) :
      after.store = world.store := by
    have step := (@updateRouter_step M runtime gatewayFilter key world).1
    simpa [stateAfter, ran] using step
  constructor
  · rintro ⟨before, first, later, same, returned, called⟩
    cases before with
    | nil =>
        cases same
        exact Or.inl called
    | cons head before =>
        rw [List.cons_append, List.cons.injEq] at same
        obtain ⟨rfl, rfl⟩ := same
        rw [List.forM_cons, returns_bind_iff] at returned
        obtain ⟨_, after, ran, returned⟩ := returned
        exact Or.inr ⟨after, ran, before, first, later, rfl, returned, by rwa [sameStore ran]⟩
  · rintro (called | ⟨after, ran, before, first, later, rfl, returned, called⟩)
    · exact ⟨[], key, rest, rfl, returns_pure _ _, called⟩
    · refine ⟨key :: before, first, later, rfl, ?_, by rwa [← sameStore ran]⟩
      rw [List.forM_cons, returns_bind_iff]
      exact ⟨(), after, ran, returned⟩

theorem stateAfter_updateRouters (keys : List DirtyRouter) (world : World M)
    (call : UpdaterCall) :
    call ∈ (stateAfter (forM keys (updateRouter runtime gatewayFilter)) world).updaterCalls ↔
      call ∈ world.updaterCalls ∨ Reached runtime gatewayFilter keys world call := by
  induction keys generalizing world with
  | nil =>
      have none : ¬ Reached runtime gatewayFilter [] world call := by
        rintro ⟨before, key, rest, same, _⟩
        simp at same
      simp [none]
  | cons key rest ih =>
      have step := (@updateRouter_step M runtime gatewayFilter key world).2 call
      rw [List.forM_cons, reached_cons]
      cases ran : updateRouter runtime gatewayFilter key world with
      | ok value after =>
          simp only [stateAfter, ran] at step
          rw [stateAfter_bind_ok ran, ih, step, or_assoc]
          simp only [EStateM.Result.ok.injEq, true_and, exists_eq_left']
      | error thrown after =>
          simp only [stateAfter, ran] at step
          rw [stateAfter_bind_error ran, step]
          simp only [reduceCtorEq, false_and, exists_false, or_false]

/-- What is done for a listener keeps `inv`. -/
structure ListenerFrame (runtime : Runtime M) (inv : World M → Prop) : Prop where
  makeRoute : ∀ world, inv world → ∀ module routerKey listener routes gateway, Keeps inv
    (onModules (runtime.makeRoute module routerKey listener routes gateway world.store))
  terminateTLS : ∀ world, inv world → ∀ listener,
    Keeps inv (onModules (runtime.terminateTLS listener world.store))
  makeFilters : ∀ world, inv world → ∀ protocol filters,
    Keeps inv (onModules (runtime.makeFilters protocol filters world.store))
  ports : ∀ world key pipeline, inv world → inv (listen key pipeline world)

theorem keeps_makeListener {inv : World M → Prop} (frame : ListenerFrame runtime inv)
    (gateway : Resource) (listener : Value) :
    Keeps inv (makeListener runtime gateway listener) := by
  unfold makeListener terminateTLS makeListenerFilters
  refine (keeps_ofExcept _ _).bind fun key => (keeps_ofExcept _ _).bind fun module =>
    keeps_get_bind fun world holds => (keeps_ofExcept _ _).bind fun routes =>
    (keeps_ofExcept _ _).bind fun routerKey =>
    (frame.makeRoute world holds _ _ _ _ _).bind fun _ => ?_
  have listens : Keeps inv (do modify (listen key (some ⟨gateway, listener⟩)); return key :
      EStateM Thrown (World M) ListenerKey) :=
    (keeps_modify fun before holds => frame.ports before _ _ holds).bind fun _ => keeps_pure _ _
  refine Keeps.bind ?_ fun _ => Keeps.bind ?_ fun _ => listens
  · split
    · exact frame.terminateTLS world holds _
    · exact keeps_pure _ _
  · split
    · exact frame.makeFilters world holds _ _
    · exact keeps_pure _ _

/-- What the gateway phase of a flush may change does not matter to `inv`. -/
structure GatewayFrame (inv : World M → Prop) : Prop where
  modules : ∀ world modules, inv world → inv { world with modules := modules }
  ports : ∀ world key pipeline, inv world → inv (listen key pipeline world)
  closed : ∀ world updated, inv world → inv (closePorts updated world)

theorem GatewayFrame.listener {inv : World M → Prop} (frame : GatewayFrame inv) :
    ListenerFrame runtime inv := by
  have modules (program : EStateM Thrown M Unit) : Keeps inv (onModules program) := by
    intro world holds
    rw [ends_onModules]
    exact (ends_iff_stateAfter _ _ fun modules => inv { world with modules := modules }).mpr
      (frame.modules world _ holds)
  exact ⟨fun _ _ _ _ _ _ _ => modules _, fun _ _ _ => modules _, fun _ _ _ _ => modules _,
    frame.ports⟩

theorem keeps_refreshGateway {inv : World M → Prop} (frame : GatewayFrame inv)
    (dirtyGateways : List Value) (updated : List ListenerKey) (gateway : Resource) :
    Keeps inv (refreshGateway runtime gatewayFilter dirtyGateways updated gateway) := by
  unfold refreshGateway
  dsimp only
  split
  · exact keeps_pure _ _
  refine (keeps_ofExcept _ _).bind fun accepted => ?_
  split
  · exact keeps_pure _ _
  refine (keeps_ofExcept _ _).bind fun listeners => keeps_foldlM (fun updated listener _ => ?_) _
  unfold refreshListener
  dsimp only
  refine Keeps.tryCatch ?_ fun _ => keeps_pure _ _
  split
  · exact (keeps_makeListener frame.listener gateway listener).bind fun key => keeps_pure _ _
  · exact (keeps_ofExcept _ _).bind fun key => keeps_pure _ _

theorem keeps_updateGateways {inv : World M → Prop} (frame : GatewayFrame inv) :
    Keeps inv (updateGateways runtime gatewayFilter) := by
  unfold updateGateways
  refine (keeps_get _).bind fun world => ?_
  split
  · exact keeps_pure _ _
  · exact (keeps_foldlM (fun updated gateway _ =>
      keeps_refreshGateway frame _ updated gateway) _).bind fun updated =>
        keeps_modify fun before holds => frame.closed before updated holds

theorem keeps_startGateways {inv : World M → Prop} (frame : ListenerFrame runtime inv)
    (opened : ∀ world keys, inv world → inv { world with currentListeners := keys }) :
    Keeps inv (startGateways runtime gatewayFilter) := by
  unfold startGateways
  refine (keeps_get _).bind fun world => keeps_forM fun gateway _ => ?_
  split
  · exact keeps_pure _ _
  refine (keeps_ofExcept _ _).bind fun accepted => ?_
  split
  · exact keeps_pure _ _
  unfold startGateway
  refine (keeps_ofExcept _ _).bind fun listeners => keeps_forM fun listener _ => ?_
  refine Keeps.tryCatch ?_ fun _ => keeps_pure _ _
  exact (keeps_makeListener frame gateway listener).bind fun key =>
    keeps_modify fun before holds => opened before _ holds

theorem keeps_otherCall (recorded : Prop) (call other : UpdaterCall) (different : call ≠ other) :
    Keeps (fun world : World M => call ∈ world.updaterCalls ↔ recorded)
      (runUpdaters runtime other) := by
  refine (keeps_iff_stateAfter _ _).mpr fun world holds => ?_
  rw [stateAfter_runUpdaters]
  simp [different, holds]

def afterRouters (runtime : Runtime M) (gatewayFilter : GatewayFilter) :
    EStateM Thrown (World M) Unit := do
  forM (← get).dirtyPolicies fun key => runUpdaters runtime (.policy key.kind key.refName)
  updateGateways runtime gatewayFilter
  forM (← get).dirtyResources fun change =>
    runUpdaters runtime (.resource change.kind change.newResource change.oldResource)
  modify clearDirty

theorem updateGateways_idle {world : World M} (clean : world.dirtyGateways = []) :
    updateGateways runtime gatewayFilter world = .ok () world := by
  rw [updateGateways, run_get_bind, clean]
  rfl

theorem afterRouters_idle {world : World M} (policies : world.dirtyPolicies = [])
    (gateways : world.dirtyGateways = []) (resources : world.dirtyResources = []) :
    afterRouters runtime gatewayFilter world = .ok () (clearDirty world) := by
  rw [afterRouters, run_get_bind, policies, List.forM_nil, run_pure_bind,
    run_bind_ok (updateGateways_idle gateways), run_get_bind, resources, List.forM_nil,
    run_pure_bind]
  rfl

theorem keeps_afterRouters (recorded : Prop) (routerKey : String) (listener : Value)
    (routes : List Resource) :
    Keeps (fun world : World M => .route routerKey listener routes ∈ world.updaterCalls ↔ recorded)
      (afterRouters runtime gatewayFilter) := by
  have frame : GatewayFrame fun world : World M =>
      .route routerKey listener routes ∈ world.updaterCalls ↔ recorded :=
    ⟨fun _ _ holds => holds, fun _ _ _ holds => holds, fun _ _ holds => holds⟩
  unfold afterRouters
  refine (keeps_get _).bind fun world => (keeps_forM fun key _ => ?_).bind fun _ =>
    (keeps_updateGateways frame).bind fun _ => (keeps_get _).bind fun settled =>
    (keeps_forM fun change _ => ?_).bind fun _ => keeps_modify fun _ holds => holds
  · exact keeps_otherCall _ _ _ (by simp)
  · exact keeps_otherCall _ _ _ (by simp)

variable (runtime gatewayFilter)

/-- Runs updaters one after another; nothing if one of them throws. -/
def runCalls (store : Store) : List UpdaterCall → M → Option M
  | [], modules => some modules
  | call :: rest, modules =>
      match runtime.runUpdaters call store modules with
      | .ok _ modules => runCalls store rest modules
      | .error _ _ => none

/-- No key of the list throws: not its lookups, nor the updaters that are run for it. -/
def Quiet (store : Store) : List DirtyRouter → M → Prop
  | [], _ => True
  | key :: rest, modules =>
      match routerCall runtime.toNumber gatewayFilter store key with
      | .error _ => False
      | .ok none => Quiet store rest modules
      | .ok (some call) =>
          match runtime.runUpdaters call store modules with
          | .ok _ modules => Quiet store rest modules
          | .error _ _ => False

variable {runtime gatewayFilter}

theorem returns_updateRouters_iff (keys : List DirtyRouter) (world : World M) :
    Returns (forM keys (updateRouter runtime gatewayFilter)) world ↔
      Quiet runtime gatewayFilter world.store keys world.modules := by
  induction keys generalizing world with
  | nil => exact iff_of_true (returns_pure _ _) trivial
  | cons key rest ih =>
      rw [List.forM_cons, returns_bind_iff, Quiet, updateRouter_run]
      cases called : routerCall runtime.toNumber gatewayFilter world.store key with
      | error thrown =>
          refine iff_of_false ?_ id
          rintro ⟨_, _, ran, _⟩
          cases ran
      | ok target =>
          cases target with
          | none =>
              constructor
              · rintro ⟨_, _, ran, returned⟩
                cases ran
                exact (ih world).mp returned
              · exact fun quiet => ⟨(), world, rfl, (ih world).mpr quiet⟩
          | some call =>
              have run := @runUpdaters_run M runtime call world
              dsimp only
              cases ran : runtime.runUpdaters call world.store world.modules with
              | error thrown modules =>
                  rw [ran] at run
                  refine iff_of_false ?_ id
                  rintro ⟨_, _, returned, _⟩
                  cases run.symm.trans returned
              | ok value modules =>
                  rw [ran] at run
                  constructor
                  · rintro ⟨_, after, returned, later⟩
                    cases run.symm.trans returned
                    exact (ih _).mp later
                  · exact fun quiet => ⟨(), _, run, (ih _).mpr quiet⟩

theorem backends_run (names : List Value) (world : World M) :
    match runCalls runtime world.store (names.map .backend) world.modules with
    | some modules => (forM names fun name => runUpdaters runtime (.backend name)) world =
        .ok () { world with
          updaterCalls := world.updaterCalls ++ names.map .backend, modules := modules }
    | none => ∃ thrown after,
        (forM names fun name => runUpdaters runtime (.backend name)) world =
          .error thrown after := by
  induction names generalizing world with
  | nil => simp [runCalls, pure, EStateM.pure]
  | cons name rest ih =>
      have run := @runUpdaters_run M runtime (.backend name) world
      rw [List.map_cons, runCalls, List.forM_cons]
      cases ran : runtime.runUpdaters (.backend name) world.store world.modules with
      | error thrown modules =>
          rw [ran] at run
          simp only [bind, EStateM.bind, run]
          exact ⟨_, _, rfl⟩
      | ok value modules =>
          rw [ran] at run
          have later := ih { world with
            updaterCalls := world.updaterCalls ++ [.backend name], modules := modules }
          simp only [bind, EStateM.bind, run]
          simpa using later

/-- `findRouteResources` takes this route for the listener. -/
def AttachedTo (toNumber : String → String) (gateway : Resource) (listener : Value)
    (route : Resource) : Prop :=
  (∃ kind ∈ routeKinds listener, kindOf route.data = .str kind) ∧
    attached toNumber gateway.data listener route = .ok true

/-- The Route updater of the listener's router key has been run for the listener. -/
def RouteUpdaterRan (after : World M) (gateway : Resource) (listener : Value) : Prop :=
  ∃ listenerKey routerKey routes, makeListenerKey listener = .ok listenerKey ∧
    makeRouterKey gateway.data listenerKey = .ok routerKey ∧
    .route routerKey listener routes ∈ after.updaterCalls

/-- A dirty key leads to the listener, and nothing that the flush does before it throws: the
updaters of dirty backends, and the dirty keys that come first. -/
def KeyedFor (runtime : Runtime M) (gatewayFilter : GatewayFilter) (world : World M)
    (notification : Notification) (gateway : Resource) (listener : Value) : Prop :=
  ∃ before key rest, dirtyKeys world.dirtyRouters notification = before ++ key :: rest ∧
    (∃ modules, runCalls runtime world.store (world.dirtyBackends.map .backend) world.modules =
      some modules ∧ Quiet runtime gatewayFilter world.store before modules) ∧
    ∃ listenerKey routerKey routes, makeListenerKey listener = .ok listenerKey ∧
      makeRouterKey gateway.data listenerKey = .ok routerKey ∧
      RoutesTo runtime.toNumber gatewayFilter world.store key routerKey listener routes

theorem stateAfter_routers (world : World M) (routerKey : String) (listener : Value)
    (routes : List Resource) :
    .route routerKey listener routes ∈ (stateAfter (do
        forM (← get).dirtyRouters (updateRouter runtime gatewayFilter)
        afterRouters runtime gatewayFilter) world).updaterCalls ↔
      .route routerKey listener routes ∈ world.updaterCalls ∨
        Reached runtime gatewayFilter world.dirtyRouters world
          (.route routerKey listener routes) := by
  have loop : stateAfter (do
      forM (← get).dirtyRouters (updateRouter runtime gatewayFilter)
      afterRouters runtime gatewayFilter) world =
      stateAfter (forM world.dirtyRouters (updateRouter runtime gatewayFilter) >>= fun _ =>
        afterRouters runtime gatewayFilter) world := rfl
  have updates := @stateAfter_updateRouters M runtime gatewayFilter world.dirtyRouters world
    (.route routerKey listener routes)
  rw [loop]
  cases ran : forM world.dirtyRouters (updateRouter runtime gatewayFilter) world with
  | error thrown after =>
      rw [stateAfter, ran] at updates
      rw [stateAfter_bind_error ran]
      exact updates
  | ok value after =>
      rw [stateAfter, ran] at updates
      rw [stateAfter_bind_ok ran]
      exact (keeps_iff_stateAfter _ _).mp (keeps_afterRouters _ routerKey listener routes) after
        updates

theorem route_mem_flush {before world : World M} {notification : Notification}
    (change : RouteChange before world notification) (recorded : before.updaterCalls = [])
    (routerKey : String) (listener : Value) (routes : List Resource) :
    .route routerKey listener routes ∈
        (stateAfter (updateDirtyResources runtime gatewayFilter) world).updaterCalls ↔
      ∃ first key rest, dirtyKeys before.dirtyRouters notification = first ++ key :: rest ∧
        (∃ modules, runCalls runtime before.store (before.dirtyBackends.map .backend)
          before.modules = some modules ∧
          Quiet runtime gatewayFilter before.store first modules) ∧
        RoutesTo runtime.toNumber gatewayFilter before.store key routerKey listener routes := by
  have silent : ¬ .route routerKey listener routes ∈ world.updaterCalls := by
    rw [change.updaterCalls, recorded]
    exact List.not_mem_nil
  rw [← change.store, ← change.modules, ← change.dirtyBackends, ← change.dirtyRouters]
  have backends := @backends_run M runtime world.dirtyBackends world
  have flush : stateAfter (updateDirtyResources runtime gatewayFilter) world = stateAfter
      ((forM world.dirtyBackends fun name => runUpdaters runtime (.backend name)) >>= fun _ => do
        forM (← get).dirtyRouters (updateRouter runtime gatewayFilter)
        afterRouters runtime gatewayFilter) world := rfl
  rw [flush]
  cases settled : runCalls runtime world.store (world.dirtyBackends.map .backend)
      world.modules with
  | none =>
      rw [settled] at backends
      obtain ⟨thrown, after, ran⟩ := backends
      have kept : Keeps (fun world : World M =>
          UpdaterCall.route routerKey listener routes ∈ world.updaterCalls ↔ False)
          (forM world.dirtyBackends fun name => runUpdaters runtime (.backend name)) :=
        keeps_forM fun name _ => keeps_otherCall _ _ _ (by simp)
      have still := (keeps_iff_stateAfter _ _).mp kept world (iff_false_intro silent)
      rw [stateAfter, ran] at still
      rw [stateAfter_bind_error ran]
      exact iff_of_false still.mp (by rintro ⟨_, _, _, _, ⟨_, absent, _⟩, _⟩; cases absent)
  | some modules =>
      rw [settled] at backends
      rw [stateAfter_bind_ok backends]
      have updates := @stateAfter_routers M runtime gatewayFilter { world with
        updaterCalls := world.updaterCalls ++ world.dirtyBackends.map .backend, modules := modules }
        routerKey listener routes
      rw [updates]
      simp only [List.mem_append, silent, List.mem_map, reduceCtorEq, and_false, exists_false,
        false_or, Reached, returns_updateRouters_iff, routerCall_eq_some, UpdaterCall.route.injEq]
      constructor
      · rintro ⟨first, key, rest, same, quiet, _, _, _, ⟨rfl, rfl, rfl⟩, leads⟩
        exact ⟨first, key, rest, same, ⟨modules, rfl, quiet⟩, leads⟩
      · rintro ⟨first, key, rest, same, ⟨_, ended, quiet⟩, leads⟩
        cases ended
        exact ⟨first, key, rest, same, quiet, _, _, _, ⟨rfl, rfl, rfl⟩, leads⟩

theorem routeUpdaterRan_iff {world : World M} (recorded : world.updaterCalls = [])
    {notification : Notification} {kind : String} (route : kind ∈ allRouteKinds)
    (sameKind : notification.kind = .str kind) (gateway : Resource) (listener : Value) :
    RouteUpdaterRan (stateAfter (updateDirtyResources runtime gatewayFilter)
        (stateAfter (onResourceChange notification) world)) gateway listener ↔
      KeyedFor runtime gatewayFilter world notification gateway listener := by
  have change := routeChange_onResourceChange notification world route sameKind
  unfold RouteUpdaterRan KeyedFor
  simp only [route_mem_flush change recorded]
  constructor
  · rintro ⟨listenerKey, routerKey, routes, keyed, routed, before, key, rest, same, quiet, leads⟩
    exact ⟨before, key, rest, same, quiet, listenerKey, routerKey, routes, keyed, routed, leads⟩
  · rintro ⟨before, key, rest, same, quiet, listenerKey, routerKey, routes, keyed, routed, leads⟩
    exact ⟨listenerKey, routerKey, routes, keyed, routed, before, key, rest, same, quiet, leads⟩

/-- A changed route reaches every accepted listener that takes its old or new version, at the
next flush, exactly when each of these listeners has a dirty key of its own.  The record of
updater calls is the model's own, and starts empty. -/
theorem routeChange_reaches_iff (runtime : Runtime M) (gatewayFilter : GatewayFilter)
    (world : World M) (recorded : world.updaterCalls = []) (notification : Notification)
    (kind : String) (route : kind ∈ allRouteKinds)
    (sameKind : ∀ version ∈ notification.versions, kindOf version.data = .str kind) :
    (∀ gateway ∈ world.store.list "Gateway", gatewayFilter (some gateway) = .ok true →
      ∀ listener ∈ listenersOf gateway, (∃ version ∈ notification.versions,
        AttachedTo runtime.toNumber gateway listener version) →
          RouteUpdaterRan (stateAfter (updateDirtyResources runtime gatewayFilter)
            (stateAfter (onResourceChange notification) world)) gateway listener) ↔
    (∀ gateway ∈ world.store.list "Gateway", gatewayFilter (some gateway) = .ok true →
      ∀ listener ∈ listenersOf gateway, (∃ version ∈ notification.versions,
        AttachedTo runtime.toNumber gateway listener version) →
          KeyedFor runtime gatewayFilter world notification gateway listener) := by
  have changed : notification.kind = .str kind := by
    apply sameKind
    cases notification <;> simp [Notification.versions, Notification.changed]
  simp only [routeUpdaterRan_iff recorded route changed]

end Flush

/-! A parent reference without a kind, which means a Gateway to `findRouteResources`. -/

def webListener : Value :=
  .obj [("name", .str "web"), ("port", .num "80"), ("protocol", .str "HTTP")]

def webGateway : Value :=
  .obj [("kind", .str "Gateway"), ("metadata", .obj [("name", .str "gw")]),
    ("spec", .obj [("listeners", .arr [webListener])])]

def webRoute (refs : List Value) : Value :=
  .obj [("kind", .str "HTTPRoute"), ("metadata", .obj [("name", .str "route")]),
    ("spec", .obj [("parentRefs", .arr refs)])]

def kindlessRef : Value := .obj [("name", .str "gw"), ("sectionName", .str "web")]

def gatewayRef : Value :=
  .obj [("kind", .str "Gateway"), ("name", .str "gw"), ("sectionName", .str "web")]

def webWorld (route : Value) : World Unit :=
  ⟨Store.init [("gateway.json", webGateway), ("route.json", route)], [], [], [], [], [], [], false,
    true, fun _ => none, [], ()⟩

theorem attachedTo_web (refs : List Value) (ref : Value) (first : refs = [ref])
    (refers : refersTo quietRuntime.toNumber webGateway webListener ref = .ok true) :
    AttachedTo quietRuntime.toNumber ⟨0, webGateway⟩ webListener ⟨1, webRoute refs⟩ := by
  subst first
  refine ⟨⟨"HTTPRoute", by decide, rfl⟩, ?_⟩
  change [ref].anyM (refersTo quietRuntime.toNumber webGateway webListener) = .ok true
  rw [List.anyM, refers]
  rfl

theorem kindlessRef_not_updated :
    ¬ ∀ (runtime : Runtime Unit) (gatewayFilter : GatewayFilter) (world : World Unit)
      (_ : world.updaterCalls = []) (notification : Notification) (kind : String)
      (_ : kind ∈ allRouteKinds)
      (_ : ∀ version ∈ notification.versions, kindOf version.data = .str kind),
      ∀ gateway ∈ world.store.list "Gateway", gatewayFilter (some gateway) = .ok true →
        ∀ listener ∈ listenersOf gateway, (∃ version ∈ notification.versions,
          AttachedTo runtime.toNumber gateway listener version) →
            RouteUpdaterRan (stateAfter (updateDirtyResources runtime gatewayFilter)
              (stateAfter (onResourceChange notification) world)) gateway listener := by
  intro claimed
  let route : Resource := ⟨1, webRoute [kindlessRef]⟩
  have ran := claimed quietRuntime acceptAll (webWorld route.data) rfl
    (.create route) "HTTPRoute" (by decide) (by
      intro version member
      rw [List.mem_singleton.mp member]
      rfl)
    ⟨0, webGateway⟩ (List.mem_singleton.mpr rfl) rfl webListener (List.mem_singleton.mpr rfl)
    ⟨route, List.mem_singleton.mpr rfl, attachedTo_web _ kindlessRef rfl rfl⟩
  obtain ⟨_, _, _, _, _, called⟩ := ran
  have silent : (stateAfter (updateDirtyResources quietRuntime acceptAll)
      (stateAfter (onResourceChange (.create route)) (webWorld route.data))).updaterCalls = [] := rfl
  rw [silent] at called
  cases called

theorem gatewayRef_updated :
    (∀ gateway ∈ (webWorld (webRoute [gatewayRef])).store.list "Gateway",
      acceptAll (some gateway) = .ok true → ∀ listener ∈ listenersOf gateway,
        (∃ version ∈ (Notification.create ⟨1, webRoute [gatewayRef]⟩).versions,
          AttachedTo quietRuntime.toNumber gateway listener version) →
        RouteUpdaterRan (stateAfter (updateDirtyResources quietRuntime acceptAll)
          (stateAfter (onResourceChange (.create ⟨1, webRoute [gatewayRef]⟩))
            (webWorld (webRoute [gatewayRef])))) gateway listener) ↔
    (∀ gateway ∈ (webWorld (webRoute [gatewayRef])).store.list "Gateway",
      acceptAll (some gateway) = .ok true → ∀ listener ∈ listenersOf gateway,
        (∃ version ∈ (Notification.create ⟨1, webRoute [gatewayRef]⟩).versions,
          AttachedTo quietRuntime.toNumber gateway listener version) →
        KeyedFor quietRuntime acceptAll (webWorld (webRoute [gatewayRef])) (.create
          ⟨1, webRoute [gatewayRef]⟩) gateway listener) :=
  routeChange_reaches_iff quietRuntime acceptAll (webWorld (webRoute [gatewayRef])) rfl
    (.create ⟨1, webRoute [gatewayRef]⟩) "HTTPRoute" (by decide) (by
      intro version member
      rw [List.mem_singleton.mp member]
      rfl)

end Fgw
