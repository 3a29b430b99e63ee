import Fgw.Library.Runs
import Fgw.ModulesBuild

/-!
What becomes of an updater that throws.  Callbacks are taken out before they run and register
themselves last, so a throw loses the one that threw and those after it.
-/

namespace Fgw

variable {engine : ModuleEngine} {store : Store}

/-! What a callback registers. -/

theorem registered_watchHealthCheck (name : String) (ref : Nat) (modules : Modules)
    (kind key : String) (cb : Callback)
    (member : cb ∈ (modules.watchHealthCheck name ref).updaters.registered kind key) :
    cb ∈ modules.updaters.registered kind key ∨ cb = .healthCheck ref name := by
  rcases (Updaters.mem_registered_addUpdater _ _ _ _ _ _ _ (healthCheck_home ref name).1).mp member
    with inner | ⟨_, _, same⟩
  · rw [Updaters.registered_setUpdater] at inner
    split at inner
    · exact Or.inr (List.mem_singleton.mp inner)
    · exact Or.inl inner
  · exact Or.inr same

/-- Nothing new under the kind, but for the callback itself once it is through. -/
def RegistersOnly (cb : Callback) (kind : String) (program : ModuleM Unit) : Prop :=
  ∀ modules, Ends program modules
    (fun _ after => ∀ key, ∀ other ∈ after.updaters.registered kind key,
      other ∈ modules.updaters.registered kind key ∨ other = cb)
    (fun _ after => ∀ key, ∀ other ∈ after.updaters.registered kind key,
      other ∈ modules.updaters.registered kind key)

theorem registersOnly_backendCallback (ref : Nat) (name kind : String) :
    RegistersOnly (.backend ref name) kind (backendCallback store ref name) := by
  intro modules
  unfold backendCallback
  split
  · refine ends_ofExcept_bind (fun key other old => old) fun targets _ => ?_
    intro key other member
    exact ((mem_registered_watchBackend _ _ _ _ _ _).mp member).imp_right fun same => same.2.2
  · exact fun key other old => Or.inl old

theorem registersOnly_healthCheckUpdate (ref : Nat) (name kind : String) :
    RegistersOnly (.healthCheck ref name) kind (healthCheckUpdate engine store ref name) := by
  intro modules
  unfold healthCheckUpdate
  rw [ends_bind, ends_modify]
  split
  · refine ends_ofExcept_bind (fun key other old => old) fun policies _ => ?_
    rw [ends_bind, ends_modify]
    refine ends_ofExcept_bind (fun key other old => old) fun allTargets _ => ?_
    intro key other member
    exact registered_watchHealthCheck _ _ _ _ _ _ member
  · exact fun key other old => Or.inl old

theorem registersOnly_runCallback (call : UpdaterCall) (cb : Callback) {kind key : String}
    (home : (kind, key) ∈ cb.homes) :
    RegistersOnly cb kind (runCallback engine store call cb) := by
  cases cb with
  | backend ref name => exact registersOnly_backendCallback ref name kind
  | healthCheck ref name => exact registersOnly_healthCheckUpdate ref name kind
  | router ref routerKey =>
      obtain ⟨rfl, rfl⟩ := Prod.mk.inj (List.mem_singleton.mp home)
      intro modules
      simp only [runCallback]
      rw [ends_bind, ends_get]
      split
      · exact fun key other old => Or.inl old
      refine ends_ofExcept_bind (fun key other old => old) fun args _ => ?_
      simp only [routerUpdate]
      rw [ends_bind, ends_get]
      split
      · exact fun key other old => Or.inl old
      rw [ends_bind]
      refine (ends_makeRouter_frame _ _ _ _ _).mono (fun built after made => ?_)
        fun thrown after frame key other member => by rwa [frame.routes key] at member
      intro key other member
      simp only [Modules.watchRouter, Modules.setRouter, Updaters.registered_setUpdater] at member
      split at member
      · exact Or.inr (List.mem_singleton.mp member)
      · rw [made.1.routes key] at member
        exact Or.inl member

/-- Of the callbacks that are run, one that throws is registered no longer. -/
theorem thrower_lost (call : UpdaterCall) (kind : String) (cbs : List Callback)
    (done : Callback → Prop) (distinct : cbs.Nodup) (fresh : ∀ cb ∈ cbs, ¬ done cb)
    (home : ∀ cb ∈ cbs, ∃ key, (kind, key) ∈ cb.homes) (modules : Modules)
    (only : ∀ key, ∀ cb ∈ modules.updaters.registered kind key, done cb) :
    Ends (forM cbs (runCallback engine store call)) modules (fun _ _ => True)
      fun _ after => ∃ cb ∈ cbs, ∀ key, cb ∉ after.updaters.registered kind key := by
  induction cbs generalizing done modules with
  | nil => trivial
  | cons cb rest ih =>
      rw [List.forM_cons, ends_bind]
      rw [List.nodup_cons] at distinct
      obtain ⟨here, homed⟩ := home cb List.mem_cons_self
      refine (registersOnly_runCallback call cb homed modules).mono
        (fun _ after registers => ?_) fun _ after registers => ?_
      · have later := ih (fun other => done other ∨ other = cb) distinct.2
          (fun other member => not_or.mpr ⟨fresh other (List.mem_cons_of_mem cb member),
            fun same => distinct.1 (same ▸ member)⟩)
          (fun other member => home other (List.mem_cons_of_mem cb member)) after
          (fun key other member => (registers key other member).imp_left (only key other))
        exact later.mono (fun _ _ _ => trivial) fun _ _ ⟨other, member, lost⟩ =>
          ⟨other, List.mem_cons_of_mem cb member, lost⟩
      · exact ⟨cb, List.mem_cons_self, fun key member =>
          fresh cb List.mem_cons_self (only key cb (registers key cb member))⟩

/-- Every callback that the call takes out is registered again where it was. -/
def Restores (engine : ModuleEngine) (store : Store) (call : UpdaterCall) (modules : Modules) :
    Prop :=
  ∀ key, Updaters.Covers call.target.2 key →
    ∀ cb ∈ modules.updaters.registered call.target.1 key,
      cb ∈ (stateAfter (runUpdatersOf engine call store) modules).updaters.registered
        call.target.1 key

theorem restores_iff_returns (call : UpdaterCall) (modules : Modules) :
    (¬ Returns (runUpdatersOf engine call store) modules → Restores engine store call modules) ↔
      Returns (runUpdatersOf engine call store) modules := by
  refine ⟨fun restores => ?_, fun returns threw => (threw returns).elim⟩
  by_contra threw
  have kept := restores threw
  have taken := Updaters.mem_taken modules.updaters call.target.1 call.target.2
  let left := modules.updaters.without call.target.1 call.target.2
  have lost := @thrower_lost engine store call call.target.1
    (modules.updaters.taken call.target.1 call.target.2)
    (fun cb => ∃ key, cb ∈ left.registered call.target.1 key)
    (Updaters.nodup_taken _ _ _)
    (by
      rintro cb member ⟨key, still⟩
      obtain ⟨name, covered, inside⟩ := (taken cb).mp member
      obtain ⟨old, uncovered⟩ := Updaters.mem_registered_of_without still
      exact uncovered (home_unique (modules.updaters.home _ _ cb inside)
        (modules.updaters.home _ _ cb old) ▸ covered))
    (by
      intro cb member
      obtain ⟨name, _, inside⟩ := (taken cb).mp member
      exact ⟨name, modules.updaters.home _ _ cb inside⟩)
    { modules with updaters := left } (fun key cb member => ⟨key, member⟩)
  unfold Restores stateAfter at kept
  have run := @runUpdatersOf_run engine store call call.target.1 call.target.2 rfl modules
  rw [returns_iff] at threw
  rw [run] at kept threw
  simp only [Ends] at lost
  cases ran : forM (modules.updaters.taken call.target.1 call.target.2)
      (runCallback engine store call) { modules with updaters := left } with
  | ok value after => exact threw ⟨value, after, ran⟩
  | error thrown after =>
      rw [ran] at lost kept
      obtain ⟨cb, member, missing⟩ := lost
      obtain ⟨name, covered, inside⟩ := (taken cb).mp member
      exact missing name (kept name covered cb inside)

/-! The versions that one router is given, one flush after another. -/

structure RouteVersion where
  store : Store
  listener : Value
  routeResources : List Resource

namespace RouteVersion

/-- The flush of a version: its updaters are run. -/
def step (engine : ModuleEngine) (routerKey : String) (modules : Modules)
    (version : RouteVersion) : Modules :=
  stateAfter (runUpdatersOf engine (.route routerKey version.listener version.routeResources)
    version.store) modules

/-- `makeRouter` does not throw on the version, once the updater is taken out. -/
def Valid (engine : ModuleEngine) (routerKey : String) (ref : Nat) (modules : Modules)
    (version : RouteVersion) : Prop :=
  ∀ router, modules.routers[ref]? = some router →
    Returns (makeRouter engine version.store router.kind router.gateway version.listener
      version.routeResources)
      { modules with updaters := modules.updaters.drop "Route" routerKey }

/-- The live router was built from the version. -/
def IsLive (ref : Nat) (modules : Modules) (version : RouteVersion) : Prop :=
  ∃ router built, modules.routers[ref]? = some router ∧ router.router = some built ∧
    built.listener = version.listener ∧ built.routeResources = version.routeResources

def LeavesLive (engine : ModuleEngine) (routerKey : String) (ref : Nat) (modules : Modules)
    (version : RouteVersion) : Prop :=
  version.Valid engine routerKey ref modules →
    version.IsLive ref (version.step engine routerKey modules)

/-- An update reaches the requests of the router, or the router needs no update. -/
def StillWatched (engine : ModuleEngine) (kind : RouteModule) (routerKey : String) (ref : Nat)
    (modules : Modules) (version : RouteVersion) : Prop :=
  version.Valid engine routerKey ref modules →
    (kind ≠ .tls ∧ modules.updaters.registered "Route" routerKey = [.router ref routerKey]) ∨
      version.IsLive ref modules

end RouteVersion

/-- The router has been made, and its updater is the only one under the key or there is none. -/
structure RouterAt (kind : RouteModule) (routerKey : String) (ref : Nat) (modules : Modules) :
    Prop where
  router : ∃ router, modules.routers[ref]? = some router ∧ router.kind = kind ∧
    router.router.isSome
  updaters : modules.updaters.registered "Route" routerKey = [.router ref routerKey] ∨
    modules.updaters.registered "Route" routerKey = []

variable {kind : RouteModule} {routerKey : String} {ref : Nat} {modules : Modules}

theorem version_run (version : RouteVersion) :
    runUpdatersOf engine (.route routerKey version.listener version.routeResources) version.store
        modules =
      forM (modules.updaters.registered "Route" routerKey) (runCallback engine version.store
        (.route routerKey version.listener version.routeResources))
        { modules with updaters := modules.updaters.drop "Route" routerKey } :=
  runUpdatersOf_run _ rfl _

theorem step_unwatched (missing : modules.updaters.registered "Route" routerKey = [])
    (version : RouteVersion) :
    version.step engine routerKey modules =
      { modules with updaters := modules.updaters.drop "Route" routerKey } := by
  rw [RouteVersion.step, stateAfter, version_run, missing]
  rfl

theorem routerUpdate_run {router : Router} (here : modules.routers[ref]? = some router)
    (routerKey : String) (listener : Value) (routeResources : List Resource) :
    routerUpdate engine store ref routerKey listener routeResources modules =
      (makeRouter engine store router.kind router.gateway listener routeResources >>= fun built =>
        do
          modify (Modules.setRouter ref (router.install built))
          modify (Modules.watchRouter routerKey ref)) modules := by
  unfold routerUpdate
  rw [run_get_bind, here]

theorem runCallback_router {router : Router} (here : modules.routers[ref]? = some router)
    (routerKey : String) (listener : Value) (routeResources : List Resource) :
    runCallback engine store (.route routerKey listener routeResources) (.router ref routerKey)
        modules =
      routerUpdate engine store ref routerKey listener routeResources modules := by
  simp only [runCallback]
  rw [run_get_bind, here]
  rfl

theorem step_watched
    (watched : modules.updaters.registered "Route" routerKey = [.router ref routerKey])
    {router : Router} (here : modules.routers[ref]? = some router) (version : RouteVersion) :
    (version.Valid engine routerKey ref modules ∧
      (version.step engine routerKey modules).updaters.registered "Route" routerKey =
        [.router ref routerKey] ∧
      ∃ built : BuiltRouter, built.listener = version.listener ∧
        built.routeResources = version.routeResources ∧
        (version.step engine routerKey modules).routers[ref]? = some (router.install built)) ∨
    (¬ version.Valid engine routerKey ref modules ∧
      (version.step engine routerKey modules).routers = modules.routers ∧
      (version.step engine routerKey modules).updaters.registered "Route" routerKey = []) := by
  let taken : Modules := { modules with updaters := modules.updaters.drop "Route" routerKey }
  have gone : taken.updaters.registered "Route" routerKey = [] := by
    simp [taken, Updaters.registered_drop]
  have unfolded : runUpdatersOf engine
      (.route routerKey version.listener version.routeResources) version.store modules =
      (makeRouter engine version.store router.kind router.gateway version.listener
        version.routeResources >>= fun built => do
          modify (Modules.setRouter ref (router.install built))
          modify (Modules.watchRouter routerKey ref)) taken := by
    have found : taken.routers[ref]? = some router := here
    rw [version_run, watched, List.forM_cons, List.forM_nil, bind_pure_unit]
    exact (runCallback_router found _ _ _).trans (routerUpdate_run found _ _ _)
  have built := @ends_makeRouter_frame engine version.store router.kind router.gateway
    version.listener version.routeResources taken
  have valid : version.Valid engine routerKey ref modules ↔
      Returns (makeRouter engine version.store router.kind router.gateway version.listener
        version.routeResources) taken :=
    ⟨fun all => all router here, fun returns other same => by
      obtain rfl : router = other := Option.some.inj (here.symm.trans same)
      exact returns⟩
  rw [valid, RouteVersion.step, stateAfter, unfolded, returns_iff]
  simp only [Ends] at built
  cases ran : makeRouter engine version.store router.kind router.gateway version.listener
      version.routeResources taken with
  | error thrown after =>
      rw [ran] at built
      rw [run_bind_error ran]
      refine Or.inr ⟨by simp, built.routers, ?_⟩
      exact (built.routes routerKey).trans gone
  | ok value after =>
      rw [ran] at built
      obtain ⟨frame, listener, routeResources⟩ := built
      rw [run_bind_ok ran]
      have inside : ref < after.routers.length := by
        rw [frame.routers]
        exact (List.getElem?_eq_some_iff.mp here).1
      have installed : ((after.setRouter ref (router.install value)).watchRouter
          routerKey ref).routers[ref]? = some (router.install value) := by
        simp [Modules.watchRouter, Modules.setRouter, inside]
      refine Or.inl ⟨⟨value, after, rfl⟩, ?_, value, listener, routeResources, installed⟩
      exact (Updaters.registered_setUpdater _ _ _ _ _ _ (router_home ref routerKey)).trans
        (by simp)

theorem RouterAt.step (routerAt : RouterAt kind routerKey ref modules) (version : RouteVersion) :
    RouterAt kind routerKey ref (version.step engine routerKey modules) := by
  obtain ⟨router, here, sameKind, made⟩ := routerAt.router
  rcases routerAt.updaters with watched | missing
  · rcases @step_watched engine routerKey ref modules watched router here version with
      ⟨_, again, built, _, _, installed⟩ | ⟨_, routers, lost⟩
    · exact ⟨⟨router.install built, installed, by simpa using sameKind,
        Router.isSome_install built router⟩, Or.inl again⟩
    · exact ⟨⟨router, by rw [routers, here], sameKind, made⟩, Or.inr lost⟩
  · rw [step_unwatched missing]
    exact ⟨⟨router, here, sameKind, made⟩, Or.inr (by simp [Updaters.registered_drop])⟩

theorem isLive_iff {router : Router} (here : modules.routers[ref]? = some router)
    (version : RouteVersion) :
    version.IsLive ref modules ↔ ∃ built, router.router = some built ∧
      built.listener = version.listener ∧ built.routeResources = version.routeResources := by
  refine ⟨fun ⟨other, built, there, live⟩ => ⟨built, ?_⟩, fun ⟨built, live⟩ =>
    ⟨router, built, here, live⟩⟩
  obtain rfl : router = other := Option.some.inj (here.symm.trans there)
  exact live

theorem leavesLive_iff_stillWatched (routerAt : RouterAt kind routerKey ref modules)
    (version : RouteVersion) :
    version.LeavesLive engine routerKey ref modules ↔
      version.StillWatched engine kind routerKey ref modules := by
  obtain ⟨router, here, rfl, made⟩ := routerAt.router
  unfold RouteVersion.LeavesLive RouteVersion.StillWatched
  refine imp_congr_right fun valid => ?_
  rcases routerAt.updaters with watched | missing
  · rcases @step_watched engine routerKey ref modules watched router here version with
      ⟨_, _, built, listener, routes, installed⟩ | ⟨invalid, _⟩
    · by_cases fixed : router.Fixed
      · -- What has been built goes nowhere: the first router is still the live one.
        rw [Router.install_fixed built fixed] at installed
        rw [isLive_iff installed, isLive_iff here]
        simp [fixed.1]
      · rw [Router.install_free built fixed] at installed
        have follows : router.kind ≠ .tls := fun tls => fixed ⟨tls, made⟩
        rw [isLive_iff installed]
        exact iff_of_true ⟨built, rfl, listener, routes⟩ (Or.inl ⟨follows, watched⟩)
    · exact (invalid valid).elim
  · rw [step_unwatched missing, missing]
    simp [RouteVersion.IsLive]

/-- The updater is there after a run of versions when none of them has thrown. -/
theorem watched_iff_valid (routerAt : RouterAt kind routerKey ref modules)
    (watched : modules.updaters.registered "Route" routerKey = [.router ref routerKey])
    (versions : List RouteVersion) :
    (versions.foldl (RouteVersion.step engine routerKey) modules).updaters.registered "Route"
        routerKey = [.router ref routerKey] ↔
      EveryStep (RouteVersion.step engine routerKey) (RouteVersion.Valid engine routerKey ref)
        modules versions := by
  have unwatched : ∀ (versions : List RouteVersion) (modules : Modules),
      modules.updaters.registered "Route" routerKey = [] →
      (versions.foldl (RouteVersion.step engine routerKey) modules).updaters.registered "Route"
        routerKey = [] := by
    intro versions
    induction versions with
    | nil => exact fun _ missing => missing
    | cons version rest ih =>
        intro modules missing
        refine ih _ ?_
        rw [step_unwatched missing]
        simp [Updaters.registered_drop]
  induction versions generalizing modules with
  | nil => exact iff_of_true watched trivial
  | cons version rest ih =>
      obtain ⟨router, here, _⟩ := routerAt.router
      rw [List.foldl_cons, EveryStep]
      rcases @step_watched engine routerKey ref modules watched router here version with
        ⟨valid, again, _⟩ | ⟨invalid, _, lost⟩
      · have later := ih (routerAt.step version) again
        exact later.trans ⟨fun all => ⟨valid, all⟩, And.right⟩
      · rw [unwatched rest _ lost]
        exact iff_of_false (by simp) fun all => invalid all.1

/-- No earlier version of the run makes `makeRouter` throw, and the router is not that of a TLS
listener; or a version that can be built is live already. -/
def NoneThrewBefore (engine : ModuleEngine) (kind : RouteModule) (routerKey : String) (ref : Nat)
    (modules : Modules) (versions : List RouteVersion) : Prop :=
  ∀ before version after, versions = before ++ version :: after →
    version.Valid engine routerKey ref (before.foldl (RouteVersion.step engine routerKey) modules) →
    (kind ≠ .tls ∧ EveryStep (RouteVersion.step engine routerKey)
      (RouteVersion.Valid engine routerKey ref) modules before) ∨
      version.IsLive ref (before.foldl (RouteVersion.step engine routerKey) modules)

theorem versionsLive_iff (routerAt : RouterAt kind routerKey ref modules)
    (watched : modules.updaters.registered "Route" routerKey = [.router ref routerKey])
    (versions : List RouteVersion) :
    EveryStep (RouteVersion.step engine routerKey) (RouteVersion.LeavesLive engine routerKey ref)
        modules versions ↔
      NoneThrewBefore engine kind routerKey ref modules versions := by
  have every : EveryStep (RouteVersion.step engine routerKey)
      (fun _ (_ : RouteVersion) => True) modules versions := by
    clear watched routerAt
    induction versions generalizing modules with
    | nil => trivial
    | cons version rest ih => exact ⟨trivial, ih⟩
  have agree := everyStep_congr
    (fun modules version (routerAt : RouterAt kind routerKey ref modules) _ =>
      @leavesLive_iff_stillWatched engine kind routerKey ref modules routerAt version)
    (fun modules version routerAt _ _ => routerAt.step version) modules routerAt versions every
  rw [agree, everyStep_iff_split]
  unfold NoneThrewBefore RouteVersion.StillWatched
  simp only [watched_iff_valid routerAt watched]

theorem ends_makeRoute (kind : RouteModule) (routerKey : String) (listener : Value)
    (routeResources : List Resource) (gateway : Resource) (modules : Modules) :
    Ends (makeRoute engine kind routerKey listener routeResources gateway store) modules
      (fun _ after => RouterAt kind routerKey modules.routers.length after ∧
        after.updaters.registered "Route" routerKey = [.router modules.routers.length routerKey])
      fun _ _ => True := by
  let router : Router := ⟨kind, gateway, none⟩
  let added : Modules := { modules with routers := modules.routers ++ [router] }
  have here : added.routers[modules.routers.length]? = some router := by simp [added]
  unfold makeRoute
  rw [ends_bind, ends_get]
  dsimp only
  rw [ends_bind, ends_modify]
  have run := @routerUpdate_run engine store modules.routers.length added router here routerKey
    listener routeResources
  have built := @ends_makeRouter_frame engine store kind gateway listener routeResources added
  simp only [Ends] at built ⊢
  rw [run]
  cases ran : makeRouter engine store kind gateway listener routeResources added with
  | error thrown after =>
      rw [run_bind_error ran]
      trivial
  | ok value after =>
      rw [ran] at built
      rw [run_bind_ok ran]
      have inside : modules.routers.length < after.routers.length := by
        rw [built.1.routers]
        simp [added]
      have watched : (((after.setRouter modules.routers.length
          (router.install value)).watchRouter routerKey
          modules.routers.length).updaters.registered "Route" routerKey) =
          [.router modules.routers.length routerKey] :=
        (Updaters.registered_setUpdater _ _ _ _ _ _ (router_home _ _)).trans (by simp)
      refine ⟨⟨⟨router.install value, ?_, Router.kind_install value router,
        Router.isSome_install value router⟩, Or.inl watched⟩, watched⟩
      simp [Modules.watchRouter, Modules.setRouter, inside]

/-- An updater that throws is not registered again.  So no version reaches a router after one
that makes `makeRouter` throw, and none a TLS router, unless the router already is what it would
become. -/
theorem throwingUpdater_lost_iff (engine : ModuleEngine) :
    (∀ (store : Store) (call : UpdaterCall) (modules : Modules),
      (¬ Returns (runUpdatersOf engine call store) modules →
        Restores engine store call modules) ↔
          Returns (runUpdatersOf engine call store) modules) ∧
    (∀ (kind : RouteModule) (routerKey : String) (listener : Value)
      (routeResources : List Resource) (gateway : Resource) (store : Store) (modules : Modules)
      (versions : List RouteVersion),
      Returns (makeRoute engine kind routerKey listener routeResources gateway store) modules →
      (EveryStep (RouteVersion.step engine routerKey)
        (RouteVersion.LeavesLive engine routerKey modules.routers.length)
        (stateAfter (makeRoute engine kind routerKey listener routeResources gateway store) modules)
        versions ↔
      NoneThrewBefore engine kind routerKey modules.routers.length
        (stateAfter (makeRoute engine kind routerKey listener routeResources gateway store) modules)
        versions)) := by
  refine ⟨fun store call modules => restores_iff_returns call modules, ?_⟩
  intro kind routerKey listener routeResources gateway store modules versions returns
  have made := @ends_makeRoute engine store kind routerKey listener routeResources gateway modules
  obtain ⟨value, after, ran⟩ := (returns_iff _ _).mp returns
  rw [Ends, ran] at made
  rw [stateAfter, ran]
  exact versionsLive_iff made.1 made.2 versions

/-! A route that gets an unknown filter, and then another version without it. -/

def filterRoute (ref : Nat) (filters : List Value) : Resource :=
  ⟨ref, .obj [("kind", .str "HTTPRoute"), ("metadata", .obj [("name", .str "route")]),
    ("spec", .obj [("rules", .arr [.obj [("filters", .arr filters)]])])]⟩

def unknownFilter : Value := .obj [("type", .str "Nope")]

def versionOf (route : Resource) : RouteVersion := ⟨Store.empty, .obj [], [route]⟩

def anyGateway : Resource := ⟨9, .obj []⟩

/-- The modules with a router for a route without filters. -/
def routerMade : Modules :=
  stateAfter (makeRoute plainEngine .http "k" (.obj []) [filterRoute 0 []] anyGateway Store.empty)
    Modules.empty

theorem unknownFilter_stops_updates :
    (¬ ∀ (engine : ModuleEngine) (store : Store) (call : UpdaterCall) (modules : Modules),
      ¬ Returns (runUpdatersOf engine call store) modules →
        Restores engine store call modules) ∧
    ¬ ∀ (engine : ModuleEngine) (kind : RouteModule) (routerKey : String) (listener : Value)
      (routeResources : List Resource) (gateway : Resource) (store : Store) (modules : Modules)
      (versions : List RouteVersion),
      Returns (makeRoute engine kind routerKey listener routeResources gateway store) modules →
      EveryStep (RouteVersion.step engine routerKey)
        (RouteVersion.LeavesLive engine routerKey modules.routers.length)
        (stateAfter (makeRoute engine kind routerKey listener routeResources gateway store) modules)
        versions := by
  refine ⟨fun claimed => ?_, fun claimed => ?_⟩
  · have kept := claimed plainEngine Store.empty
      (.route "k" (.obj []) [filterRoute 1 [unknownFilter]]) routerMade (fun returns => returns)
      "k" (Or.inr rfl) (.router 0 "k") (List.mem_singleton.mpr rfl)
    have gone : (stateAfter (runUpdatersOf plainEngine
        (.route "k" (.obj []) [filterRoute 1 [unknownFilter]]) Store.empty)
          routerMade).updaters.registered "Route" "k" = [] := rfl
    exact List.not_mem_nil (gone ▸ kept)
  · have live := (claimed plainEngine .http "k" (.obj []) [filterRoute 0 []] anyGateway Store.empty
      Modules.empty [versionOf (filterRoute 1 [unknownFilter]), versionOf (filterRoute 2 [])]
      trivial).2.1
    have valid : (versionOf (filterRoute 2 [])).Valid plainEngine "k" 0
        ((versionOf (filterRoute 1 [unknownFilter])).step plainEngine "k" routerMade) := by
      intro router here
      cases here
      trivial
    obtain ⟨router, built, here, installed, _, routes⟩ := live valid
    cases here
    cases installed
    simp [filterRoute, versionOf] at routes

/-- With the parts of the theorem taken at a route that keeps changing but never throws. -/
theorem plainRoute_keeps_updater :
    Returns (runUpdatersOf plainEngine (.route "k" (.obj []) [filterRoute 1 []]) Store.empty)
      routerMade ∧
    EveryStep (RouteVersion.step plainEngine "k") (RouteVersion.LeavesLive plainEngine "k" 0)
      routerMade [versionOf (filterRoute 1 []), versionOf (filterRoute 2 [])] := by
  refine ⟨((throwingUpdater_lost_iff plainEngine).1 Store.empty
    (.route "k" (.obj []) [filterRoute 1 []]) routerMade).mp
      (fun threw => (threw trivial).elim), ?_⟩
  refine ((throwingUpdater_lost_iff plainEngine).2 .http "k" (.obj []) [filterRoute 0 []] anyGateway
    Store.empty Modules.empty [versionOf (filterRoute 1 []), versionOf (filterRoute 2 [])]
    trivial).mpr ?_
  rintro (_ | ⟨first, _ | ⟨second, rest⟩⟩) version after same valid
  · exact Or.inl ⟨by decide, trivial⟩
  · cases same
    refine Or.inl ⟨by decide, fun router here => ?_, trivial⟩
    cases here
    trivial
  · simp at same

end Fgw
