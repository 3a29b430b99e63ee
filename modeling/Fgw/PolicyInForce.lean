import Fgw.BackendLinks
import Fgw.PolicyBuild

/-!
Whether the policies in force are those of the store.  What a backend has taken is never taken
again; what a router has taken follows the store as far as changed policies lead to dirty keys
that reach it.
-/

namespace Fgw

variable {engine : PolicyEngine} {store : Store}

/-! One flush, when nothing but routers is dirty. -/

/-- The policies that connections through the routers in use go by are those of the store. -/
structure PoliciesInForce (engine : PolicyEngine) (inUse : Nat → Prop) (store : Store)
    (state : PolicyModules) : Prop where
  backends : BackendCurrent engine store state
  routers : ∀ ref, inUse ref → RouterCurrent engine store ref state

/-- A dirty key leads to the router, which is not that of a TLS listener, and neither its update nor
what comes before it throws. -/
def RouterKeyed (engine : PolicyEngine) (gatewayFilter : GatewayFilter)
    (world : World PolicyModules) (ref : Nat) : Prop :=
  ∃ routerKey before key rest listener routes, RouterWatched ref routerKey world.modules ∧
    world.dirtyRouters = before ++ key :: rest ∧
    Quiet (policyRuntime engine) gatewayFilter world.store (before ++ [key]) world.modules ∧
    RoutesTo engine.modules.toNumber gatewayFilter world.store key routerKey listener routes

/-- Nothing but routers is dirty. -/
structure OnlyRouters (world : World PolicyModules) : Prop where
  gateways : world.dirtyGateways = []
  backends : world.dirtyBackends = []
  policies : world.dirtyPolicies = []
  resources : world.dirtyResources = []

theorem OnlyRouters.congr {world after : World PolicyModules} (only : OnlyRouters world)
    (gateways : after.dirtyGateways = world.dirtyGateways)
    (backends : after.dirtyBackends = world.dirtyBackends)
    (policies : after.dirtyPolicies = world.dirtyPolicies)
    (resources : after.dirtyResources = world.dirtyResources) : OnlyRouters after where
  gateways := gateways.trans only.gateways
  backends := backends.trans only.backends
  policies := policies.trans only.policies
  resources := resources.trans only.resources

/-- What a router update can undo in the modules is not part of `inv`. -/
def Stable (engine : PolicyEngine) (store : Store) (inv : PolicyModules → Prop) : Prop :=
  ∀ before after, inv before → Updated engine store before after → inv after

theorem stable_backendCurrent : Stable engine store (BackendCurrent engine store) :=
  fun _ _ current updated made member => (updated.backends made member).elim (current made) id

theorem stable_routerCurrent (ref : Nat) :
    Stable engine store (RouterCurrent engine store ref) := by
  intro before after current updated
  rcases updated.routers ref with same | now
  · exact fun targets found => current targets (same ▸ found)
  · exact now

/-- The world of a flush over this store, with a property of its modules. -/
structure Over (store : Store) (inv : PolicyModules → Prop) (world : World PolicyModules) :
    Prop where
  store : world.store = store
  only : OnlyRouters world
  modules : inv world.modules

theorem keeps_runUpdaters_over {inv : PolicyModules → Prop} (stable : Stable engine store inv)
    (call : UpdaterCall) : Keeps (Over store inv) (runUpdaters (policyRuntime engine) call) := by
  refine (keeps_iff_stateAfter _ _).mpr fun world holding => ?_
  have updated := (ends_iff_stateAfter _ _ _).mp
    (@updated_runUpdatersOf engine world.store call world.modules)
  rw [stateAfter_runUpdaters]
  refine ⟨holding.store, holding.only.congr rfl rfl rfl rfl, stable _ _ holding.modules ?_⟩
  rw [← holding.store]
  exact updated

variable {gatewayFilter : GatewayFilter}

theorem policyFlush_eq {world : World PolicyModules} (only : OnlyRouters world) :
    updateDirtyResources (policyRuntime engine) gatewayFilter world =
      (forM world.dirtyRouters (updateRouter (policyRuntime engine) gatewayFilter) >>= fun _ =>
        afterRouters (policyRuntime engine) gatewayFilter) world := by
  have unfolded : updateDirtyResources (policyRuntime engine) gatewayFilter world =
      ((forM world.dirtyBackends fun name => runUpdaters (policyRuntime engine) (.backend name)) >>=
        fun _ => do
          forM (← get).dirtyRouters (updateRouter (policyRuntime engine) gatewayFilter)
          afterRouters (policyRuntime engine) gatewayFilter) world := rfl
  rw [unfolded, only.backends, List.forM_nil, run_pure_bind, run_get_bind]

theorem policyFlush_over {world : World PolicyModules} {inv : PolicyModules → Prop}
    (only : OnlyRouters world)
    (routers : Over world.store inv (stateAfter
      (forM world.dirtyRouters (updateRouter (policyRuntime engine) gatewayFilter)) world)) :
    Over world.store inv
      (stateAfter (updateDirtyResources (policyRuntime engine) gatewayFilter) world) := by
  rw [stateAfter, policyFlush_eq only, ← stateAfter]
  cases ran : forM world.dirtyRouters (updateRouter (policyRuntime engine) gatewayFilter) world with
  | error thrown after =>
      rw [stateAfter, ran] at routers
      rw [stateAfter_bind_error ran]
      exact routers
  | ok value after =>
      rw [stateAfter, ran] at routers
      rw [stateAfter_bind_ok ran, stateAfter, afterRouters_idle routers.only.policies
        routers.only.gateways routers.only.resources]
      exact ⟨routers.store, ⟨rfl, rfl, rfl, rfl⟩, routers.modules⟩

theorem keeps_updateRouters_over {inv : PolicyModules → Prop} (stable : Stable engine store inv)
    (keys : List DirtyRouter) : Keeps (Over store inv)
      (forM keys (updateRouter (policyRuntime engine) gatewayFilter)) :=
  keeps_forM fun key _ => keeps_updateRouter (keeps_runUpdaters_over stable) key

theorem stable_over {inv : PolicyModules → Prop} {world : World PolicyModules}
    (stable : Stable engine world.store inv) (only : OnlyRouters world)
    (holds : inv world.modules) : Over world.store inv (stateAfter
      (forM world.dirtyRouters (updateRouter (policyRuntime engine) gatewayFilter)) world) :=
  (keeps_iff_stateAfter _ _).mp (keeps_updateRouters_over stable _) world ⟨rfl, only, holds⟩

theorem ends_runUpdaters_modules {call : UpdaterCall} {world : World PolicyModules}
    {returned : PolicyModules → Prop}
    (ends : Ends (InForce.runUpdatersOf engine call world.store) world.modules
      (fun _ after => returned after) (fun _ _ => True)) :
    Ends (runUpdaters (policyRuntime engine) call) world
      (fun _ after => after.store = world.store ∧ returned after.modules) (fun _ _ => True) := by
  rw [runUpdaters, ends_bind, ends_modify, ends_bind, ends_get, ends_onModules]
  exact ends.mono (fun _ _ kept => ⟨rfl, kept⟩) fun _ _ _ => trivial

def LeadsTo (engine : PolicyEngine) (gatewayFilter : GatewayFilter) (store : Store)
    (key : DirtyRouter) (routerKey : String) : Prop :=
  ∃ listener routes,
    RoutesTo engine.modules.toNumber gatewayFilter store key routerKey listener routes

theorem watched_updateRouter {ref : Nat} {routerKey : String} (key : DirtyRouter)
    (world : World PolicyModules) (watched : RouterWatched ref routerKey world.modules) :
    Ends (updateRouter (policyRuntime engine) gatewayFilter key) world
      (fun _ after => after.store = world.store ∧ RouterWatched ref routerKey after.modules ∧
        (LeadsTo engine gatewayFilter world.store key routerKey →
          RouterCurrent engine world.store ref after.modules))
      (fun _ _ => True) := by
  rw [Ends, updateRouter_run, ← Ends, ends_bind, ends_ofExcept]
  cases called : routerCall (policyRuntime engine).toNumber gatewayFilter world.store key with
  | error thrown => trivial
  | ok target =>
      have leads {otherKey : String}
          (led : LeadsTo engine gatewayFilter world.store key otherKey) :
          ∃ listener routes, target = some (.route otherKey listener routes) := by
        obtain ⟨listener, routes, leads⟩ := led
        have same := (routerCall_eq_some _ _ _ _ _).mpr
          ⟨otherKey, listener, routes, rfl, leads⟩
        exact ⟨listener, routes, Except.ok.inj (called.symm.trans same)⟩
      cases target with
      | none =>
          refine ⟨rfl, watched, fun led => ?_⟩
          obtain ⟨_, _, same⟩ := leads led
          cases same
      | some call =>
          obtain ⟨otherKey, listener, routes, rfl, _⟩ := (routerCall_eq_some _ _ _ _ _).mp called
          by_cases own : otherKey = routerKey
          · subst own
            refine (ends_runUpdaters_modules (watched_ownUpdaters listener routes world.modules
              watched)).mono (fun _ after ended => ?_) fun _ _ _ => trivial
            exact ⟨ended.1, ended.2.1, fun _ => ended.2.2⟩
          · refine (ends_runUpdaters_modules (watched_otherUpdaters listener routes own
              world.modules watched)).mono (fun _ after ended => ?_) fun _ _ _ => trivial
            refine ⟨ended.1, ended.2, fun led => ?_⟩
            obtain ⟨_, _, same⟩ := leads led
            cases same
            exact absurd rfl own

theorem watched_updateRouters {ref : Nat} {routerKey : String} (keys : List DirtyRouter)
    (world : World PolicyModules) (watched : RouterWatched ref routerKey world.modules) :
    Ends (forM keys (updateRouter (policyRuntime engine) gatewayFilter)) world
      (fun _ after => after.store = world.store ∧ RouterWatched ref routerKey after.modules)
      (fun _ _ => True) := by
  refine @ends_forM_of_rounds _ _ _
    (fun state => state.store = world.store ∧ RouterWatched ref routerKey state.modules) _ keys _
    (fun key _ state now => ?_) world ⟨rfl, watched⟩
  exact (watched_updateRouter key state now.2).mono
    (fun _ _ ended => ⟨ended.1.trans now.1, ended.2.1⟩) fun _ _ _ => trivial

theorem keyed_updateRouters {world : World PolicyModules} {ref : Nat} (only : OnlyRouters world)
    (keyed : RouterKeyed engine gatewayFilter world ref) :
    Over world.store (RouterCurrent engine world.store ref) (stateAfter
      (forM world.dirtyRouters (updateRouter (policyRuntime engine) gatewayFilter)) world) := by
  obtain ⟨routerKey, front, key, back, listener, routes, watched, keys, quiet, leads⟩ := keyed
  have returns := (returns_updateRouters_iff _ world).mpr quiet
  rw [List.forM_append, List.forM_cons] at returns
  obtain ⟨_, middle, earlier, returns⟩ := (returns_bind_iff _ _ _).mp returns
  obtain ⟨_, after, ran, _⟩ := (returns_bind_iff _ _ _).mp returns
  have still := (watched_updateRouters front world watched).ok earlier
  have reached := (@watched_updateRouter engine gatewayFilter ref routerKey key middle
    still.2).ok ran
  rw [still.1] at reached
  have stable : Stable engine world.store fun _ => True := fun _ _ _ _ => trivial
  have settled := (keeps_updateRouters_over stable front world ⟨rfl, only, trivial⟩).ok earlier
  have kept := (keeps_updateRouter (keeps_runUpdaters_over stable) key middle settled).ok ran
  have holding : Over world.store (RouterCurrent engine world.store ref) after :=
    ⟨reached.1, kept.only, reached.2.2 ⟨listener, routes, leads⟩⟩
  rw [keys, List.forM_append, stateAfter_bind_ok earlier, List.forM_cons, stateAfter_bind_ok ran]
  exact (keeps_iff_stateAfter _ _).mp
    (keeps_updateRouters_over (stable_routerCurrent ref) back) after holding

/-- What a flush must find for each router in use, where `settled` is the store of the flush
before: a key that reaches the router, or nothing else to take. -/
structure Refreshes (engine : PolicyEngine) (gatewayFilter : GatewayFilter) (inUse : Nat → Prop)
    (settled : Store) (world : World PolicyModules) : Prop where
  backends : ∀ made ∈ world.modules.backends,
    backendSettings engine world.store made.name = backendSettings engine settled made.name
  routers : ∀ ref, inUse ref → RouterKeyed engine gatewayFilter world ref ∨
    ∀ targets, world.modules.routers[ref]? = some targets → ∀ made ∈ targets,
      made.derived engine world.store = made.derived engine settled

theorem PoliciesInForce.flush {inUse : Nat → Prop} {settled : Store} {world : World PolicyModules}
    (inForce : PoliciesInForce engine inUse settled world.modules) (only : OnlyRouters world)
    (refreshes : Refreshes engine gatewayFilter inUse settled world) :
    Over world.store (PoliciesInForce engine inUse world.store)
      (stateAfter (updateDirtyResources (policyRuntime engine) gatewayFilter) world) := by
  have backends := @stable_over engine gatewayFilter _ world stable_backendCurrent only
    fun made member => by
      rw [refreshes.backends made member]
      exact inForce.backends made member
  refine policyFlush_over only ⟨backends.store, backends.only, backends.modules, ?_⟩
  intro ref used
  rcases refreshes.routers ref used with keyed | same
  · exact (keyed_updateRouters only keyed).modules
  · refine (stable_over (stable_routerCurrent ref) only fun targets found made member => ?_).modules
    rw [same targets found made member]
    exact inForce.routers ref used targets found made member

/-- A flush leaves what a backend has taken as it is, and so can bring nothing of it into force. -/
theorem backends_unchanged_of_inForce {inUse : Nat → Prop} {settled : Store}
    {world : World PolicyModules} (inForce : PoliciesInForce engine inUse settled world.modules)
    (only : OnlyRouters world)
    (after : PoliciesInForce engine inUse world.store
      (stateAfter (updateDirtyResources (policyRuntime engine) gatewayFilter) world).modules) :
    ∀ made ∈ world.modules.backends,
      backendSettings engine world.store made.name = backendSettings engine settled made.name := by
  intro made member
  have stable : Stable engine world.store fun state => made ∈ state.backends :=
    fun _ _ taken updated => updated.kept made taken
  have still := (@policyFlush_over engine gatewayFilter world _ only
    (stable_over stable only member)).modules
  rw [after.backends made still, inForce.backends made member]

/-! The run. -/

/-- A run of changed policies; `settled` is the store of the last flush, or of the start. -/
structure PolicyRun where
  settled : Store
  world : World PolicyModules

def IsBackendPolicy (data : Value) : Prop :=
  kindOf data = .str "BackendLBPolicy" ∨ kindOf data = .str "BackendTLSPolicy"

namespace PolicyRun

def started (engine : PolicyEngine) (gatewayFilter : GatewayFilter) (initial : Table Value) :
    PolicyRun :=
  ⟨Store.init initial.entries,
    World.started (policyRuntime engine) gatewayFilter initial PolicyModules.empty⟩

def step (engine : PolicyEngine) (gatewayFilter : GatewayFilter) (run : PolicyRun)
    (event : GatewayEvent) : PolicyRun where
  settled := match event with
    | .change _ _ => run.settled
    | .flush => run.world.store
  world := event.step (policyRuntime engine) gatewayFilter run.world

/-- A file that holds a backend policy, before and after; either may be missing. -/
def OnPolicies (run : PolicyRun) : GatewayEvent → Prop
  | .change pathname data => (data.truthy = true → IsBackendPolicy data) ∧
      ∀ old, run.world.store.files.get? pathname = some old → IsBackendPolicy old.data
  | .flush => True

def MeetsRefreshes (engine : PolicyEngine) (gatewayFilter : GatewayFilter) (inUse : Nat → Prop)
    (run : PolicyRun) (event : GatewayEvent) : Prop :=
  event = .flush → Refreshes engine gatewayFilter inUse run.settled run.world

def LeavesInForce (engine : PolicyEngine) (gatewayFilter : GatewayFilter) (inUse : Nat → Prop)
    (run : PolicyRun) (event : GatewayEvent) : Prop :=
  event = .flush → PoliciesInForce engine inUse (run.step engine gatewayFilter event).world.store
    (run.step engine gatewayFilter event).world.modules

end PolicyRun

structure Policed (engine : PolicyEngine) (inUse : Nat → Prop) (run : PolicyRun) : Prop where
  only : OnlyRouters run.world
  inForce : PoliciesInForce engine inUse run.settled run.world.modules

variable {inUse : Nat → Prop}

theorem keeps_policyNotice {notification : Notification} (policy : IsBackendPolicy
    notification.changed.data) (modules : PolicyModules) :
    Keeps (fun world => OnlyRouters world ∧ world.modules = modules)
      (onResourceChange notification) := by
  have role : roleOf notification.kind = .backendPolicy := by
    rcases policy with kind | kind <;> rw [Notification.kind, kind] <;> rfl
  unfold onResourceChange markDirty
  rw [role]
  refine (keeps_forM fun version _ => keeps_addDirtyRoutersByPolicy
    (fun key before kept => ?_) _).bind fun _ =>
      keeps_modify fun before kept => ⟨kept.1.congr rfl rfl rfl rfl, kept.2⟩
  unfold addDirtyRouter
  split
  · exact kept
  · exact ⟨kept.1.congr rfl rfl rfl rfl, kept.2⟩

theorem Policed.change {run : PolicyRun} (policed : Policed engine inUse run) {pathname : String}
    {data : Value} (onPolicies : run.OnPolicies (.change pathname data)) :
    Policed engine inUse (run.step engine gatewayFilter (.change pathname data)) := by
  let changed : World PolicyModules :=
    { run.world with store := (run.world.store.changeFile pathname data).1 }
  have unfolded : (run.step engine gatewayFilter (.change pathname data)).world = stateAfter
      (forM (run.world.store.changeFile pathname data).2 onResourceChange) changed := rfl
  have kept : Keeps (fun world => OnlyRouters world ∧ world.modules = run.world.modules)
      (forM (run.world.store.changeFile pathname data).2 onResourceChange) := by
    refine keeps_forM fun notification member => keeps_policyNotice ?_ _
    rcases changed_of_changeNotifications member with new | old
    · split at new
      · rename_i present
        rw [← Option.some.inj new]
        exact onPolicies.1 present
      · cases new
    · exact onPolicies.2 _ old
  have after := (keeps_iff_stateAfter _ _).mp kept changed
    ⟨policed.only.congr rfl rfl rfl rfl, rfl⟩
  refine ⟨unfolded ▸ after.1, ?_⟩
  rw [unfolded, after.2]
  exact policed.inForce

theorem Policed.flush {run : PolicyRun} (policed : Policed engine inUse run)
    (refreshes : Refreshes engine gatewayFilter inUse run.settled run.world) :
    Policed engine inUse (run.step engine gatewayFilter .flush) ∧
      (run.step engine gatewayFilter .flush).world.store = run.world.store := by
  have holding := policed.inForce.flush policed.only refreshes
  exact ⟨⟨holding.only, holding.modules⟩, holding.store⟩

theorem keeps_onModules_over {inv : PolicyModules → Prop} (stable : Stable engine store inv)
    {program : PolicyM Unit} (updates : ∀ before, Ends program before
      (fun _ after => Updated engine store before after)
      (fun _ after => Updated engine store before after)) :
    Keeps (Over store inv) (onModules program) := by
  intro world holding
  have back (modules : PolicyModules) (updated : Updated engine store world.modules modules) :
      Over store inv { world with modules := modules } :=
    ⟨holding.store, holding.only.congr rfl rfl rfl rfl, stable _ _ holding.modules updated⟩
  rw [ends_onModules]
  exact (updates world.modules).mono (fun _ => back) fun _ => back

theorem listenerFrame_over {inv : PolicyModules → Prop} (stable : Stable engine store inv) :
    ListenerFrame (policyRuntime engine) (Over store inv) where
  makeRoute world holding kind routerKey listener routeResources gateway := by
    rw [holding.store]
    exact keeps_onModules_over stable fun before =>
      updated_makeRoute kind routerKey listener routeResources gateway before
  terminateTLS world _ listener := keeps_onModules_over stable fun before => by
    simp only [policyRuntime, ends_ofExcept]
    cases engine.modules.terminateTLS listener world.store <;> exact .refl before
  makeFilters _ _ protocol filters := keeps_onModules_over stable fun before => by
    simp only [policyRuntime, ends_bind, ends_ofExcept]
    cases makeFilters engine.modules protocol filters <;> exact .refl before
  ports _ _ _ holding := ⟨holding.store, holding.only.congr rfl rfl rfl rfl, holding.modules⟩

theorem policed_started (initial : Table Value) :
    Policed engine inUse (PolicyRun.started engine gatewayFilter initial) := by
  have stable : Stable engine (Store.init initial.entries)
      (PoliciesInForce engine inUse (Store.init initial.entries)) :=
    fun before after inForce updated =>
      ⟨stable_backendCurrent before after inForce.backends updated, fun ref used =>
        stable_routerCurrent ref before after (inForce.routers ref used) updated⟩
  have kept : Keeps (Over (Store.init initial.entries) (PoliciesInForce engine inUse _))
      (startGateways (policyRuntime engine) gatewayFilter) :=
    keeps_startGateways (listenerFrame_over stable) fun _ _ holding =>
      ⟨holding.store, holding.only.congr rfl rfl rfl rfl, holding.modules⟩
  have holding := (keeps_iff_stateAfter _ _).mp kept
    (World.initial (Store.init initial.entries) PolicyModules.empty)
    ⟨rfl, ⟨rfl, rfl, rfl, rfl⟩, by rintro made ⟨⟩, by rintro ref _ targets ⟨⟩⟩
  exact ⟨holding.only, holding.modules⟩

/-- Over a run of changed backend policies and flushes in which every flush refreshes the routers
in use, every flush leaves the policies of the store in force. -/
theorem policyRun_inForce (engine : PolicyEngine) (gatewayFilter : GatewayFilter)
    (initial : Table Value) (inUse : Nat → Prop) (events : List GatewayEvent)
    (policies : EveryStep (PolicyRun.step engine gatewayFilter) PolicyRun.OnPolicies
      (PolicyRun.started engine gatewayFilter initial) events)
    (refreshes : EveryStep (PolicyRun.step engine gatewayFilter)
      (PolicyRun.MeetsRefreshes engine gatewayFilter inUse)
      (PolicyRun.started engine gatewayFilter initial) events) :
    EveryStep (PolicyRun.step engine gatewayFilter)
      (PolicyRun.LeavesInForce engine gatewayFilter inUse)
      (PolicyRun.started engine gatewayFilter initial) events := by
  refine @EveryStep.gives _ _ _ _ _ (Policed engine inUse) _ _ (policies.and refreshes) ?_ ?_
    (policed_started initial)
  · rintro run (_ | _) policed ⟨onPolicies, meets⟩
    · exact policed.change onPolicies
    · exact (policed.flush (meets rfl)).1
  · rintro run (_ | _) policed ⟨onPolicies, meets⟩ event
    · cases event
    · obtain ⟨flushed, store⟩ := @Policed.flush engine gatewayFilter inUse run policed (meets rfl)
      rw [store]
      exact flushed.inForce

/-! A changed algorithm, and a changed TLS policy. -/

def plainPolicyEngine : PolicyEngine where
  modules := plainEngine
  ztm := false
  secrets := .obj []
  parseFloat value := value.toKey
  certificate _ := .ok ()
  privateKey _ := .ok ()

def policyFor (kind : String) (fields : List (String × Value)) : Value :=
  .obj [("kind", .str kind), ("metadata", .obj [("name", .str "policy")]),
    ("spec", .obj (("targetRefs", .arr [.obj [("kind", .str "Backend"), ("name", .str "b")]]) ::
      fields))]

def withPolicy (policy : Value) : Table Value := withBackend.set "policy.json" policy

def writePolicy (policy : Value) : List GatewayEvent := [.change "policy.json" policy, .flush]

def leastLoad : Value := policyFor "BackendLBPolicy" [("algorithm", .str "LeastLoad")]

def roundRobin : Value := policyFor "BackendLBPolicy" [("algorithm", .str "RoundRobin")]

theorem changedAlgorithm_not_inForce :
    ¬ ∀ (engine : PolicyEngine) (gatewayFilter : GatewayFilter) (initial : Table Value)
      (inUse : Nat → Prop) (events : List GatewayEvent),
      EveryStep (PolicyRun.step engine gatewayFilter) PolicyRun.OnPolicies
        (PolicyRun.started engine gatewayFilter initial) events →
      EveryStep (PolicyRun.step engine gatewayFilter)
        (PolicyRun.LeavesInForce engine gatewayFilter inUse)
        (PolicyRun.started engine gatewayFilter initial) events := by
  intro claimed
  have leaves := claimed plainPolicyEngine acceptAll (withPolicy leastLoad) (fun ref => ref = 0)
    (writePolicy roundRobin) ⟨⟨fun _ => Or.inl rfl, by rintro old ⟨⟩; exact Or.inl rfl⟩, trivial,
      trivial⟩
  have current := (leaves.2.1 rfl).backends
    ⟨"b", "least-load", some (⟨none, "0", none, none⟩, ⟨none, "60", none, none⟩)⟩
    (List.mem_singleton.mpr rfl)
  have impossible : (Except.ok ⟨"round-robin", some (⟨none, "0", none, none⟩,
      ⟨none, "60", none, none⟩)⟩ : Except Thrown BackendSettings) =
    .ok ⟨"least-load", some (⟨none, "0", none, none⟩, ⟨none, "60", none, none⟩)⟩ := current
  simp at impossible

def tlsPolicy (hostname keyExchange : String) : Value :=
  policyFor "BackendTLSPolicy" [("validation", .obj [("hostname", .str hostname)]),
    ("pqc", .obj [("keyExchange", .str keyExchange)])]

theorem changedTLS_inForce :
    EveryStep (PolicyRun.step plainPolicyEngine acceptAll)
      (PolicyRun.LeavesInForce plainPolicyEngine acceptAll fun ref => ref = 0)
      (PolicyRun.started plainPolicyEngine acceptAll
        (withPolicy (tlsPolicy "old.com" "ML-KEM-512")))
      (writePolicy (tlsPolicy "new.com" "ML-KEM-768")) := by
  refine policyRun_inForce plainPolicyEngine acceptAll
    (withPolicy (tlsPolicy "old.com" "ML-KEM-512")) (fun ref => ref = 0)
    (writePolicy (tlsPolicy "new.com" "ML-KEM-768"))
    ⟨⟨fun _ => Or.inr rfl, by rintro old ⟨⟩; exact Or.inr rfl⟩, trivial, trivial⟩
    ⟨by rintro ⟨⟩, fun _ => ⟨fun made member => ?_, fun ref used => Or.inl ?_⟩, trivial⟩
  · obtain rfl : made = ⟨"b", "round-robin", some (⟨none, "0", none, none⟩,
      ⟨none, "60", none, none⟩)⟩ := List.mem_singleton.mp member
    rfl
  · subst used
    refine ⟨"0.0.0.0:80:tcp:gw", [], ⟨.str "Gateway", .str "gw", .num "80", .undefined⟩, [],
      .obj [("port", .num "80"), ("protocol", .str "TCP")], [⟨1, linkRoute⟩],
      ⟨rfl, .tcp, rfl, by decide⟩, rfl,
      trivial, rfl, ⟨0, linkGateway⟩, [.obj [("port", .num "80"), ("protocol", .str "TCP")]], [],
      [], ⟨"0.0.0.0:80", "tcp"⟩, rfl, rfl, rfl, rfl, by simp, rfl, rfl, rfl, rfl, rfl⟩

end Fgw
