import Fgw.PolicyCore
import Fgw.UpdatersLost

/-!
What builds and updates do to what has been taken from policies.  A backend keeps what it has
taken; a router takes anew with each build, which its updater makes and then waits for again.
-/

namespace Fgw

variable {engine : PolicyEngine} {store : Store}

/-- What a fresh build of the target would take. -/
def MadeTarget.derived (engine : PolicyEngine) (store : Store) (made : MadeTarget) :
    Except Thrown (Option TargetSettings) :=
  match made.target.backendResource with
  | some resource => some <$> targetSettings engine store made.gateway made.protocol resource
  | none => .ok none

def BackendCurrent (engine : PolicyEngine) (store : Store) (state : PolicyModules) : Prop :=
  ∀ made ∈ state.backends, backendSettings engine store made.name = .ok made.settings

def TargetsCurrent (engine : PolicyEngine) (store : Store) (targets : List MadeTarget) : Prop :=
  ∀ made ∈ targets, made.derived engine store = .ok made.settings

def RouterCurrent (engine : PolicyEngine) (store : Store) (ref : Nat) (state : PolicyModules) :
    Prop :=
  ∀ targets, state.routers[ref]? = some targets → TargetsCurrent engine store targets

/-! What a build leaves as it is. -/

/-- A part of a build: it may make backends, which take what the store has. -/
structure Building (engine : PolicyEngine) (store : Store) (start after : PolicyModules) :
    Prop where
  routes : RouteFrame start.modules after.modules
  routers : after.routers = start.routers
  kept : ∀ made ∈ start.backends, made ∈ after.backends
  backends : ∀ made ∈ after.backends, made ∈ start.backends ∨
    backendSettings engine store made.name = .ok made.settings

theorem Building.refl (state : PolicyModules) : Building engine store state state :=
  ⟨.refl _, rfl, fun _ member => member, fun _ member => Or.inl member⟩

theorem keeps_plainly {α : Type} {program : ModuleM α} (start : PolicyModules)
    (kept : Keeps (RouteFrame start.modules) program) :
    Keeps (Building engine store start) (plainly program) := by
  intro before building
  have frame := kept before.modules building.routes
  simp only [Ends] at frame
  simp only [Ends, plainly]
  cases ran : program before.modules with
  | ok value modules =>
      rw [ran] at frame
      exact ⟨frame, building.routers, building.kept, building.backends⟩
  | error thrown modules =>
      rw [ran] at frame
      exact ⟨frame, building.routers, building.kept, building.backends⟩

variable {start : PolicyModules}

theorem keeps_makeBackend_building (name : String) :
    Keeps (Building engine store start) (InForce.makeBackend engine store name) := by
  unfold InForce.makeBackend
  refine (keeps_get _).bind fun state => ?_
  split
  · exact keeps_pure _ _
  refine keeps_ofExcept_bind fun settings read => ?_
  refine (keeps_plainly start (frame_makeBackend name _)).bind fun ref => ?_
  refine (keeps_modify fun before building => ?_).bind fun _ => keeps_pure _ _
  refine ⟨building.routes, building.routers,
    fun made member => List.mem_append_left _ (building.kept made member), fun made member => ?_⟩
  rcases List.mem_append.mp member with old | new
  · exact building.backends made old
  · rw [List.mem_singleton.mp new]
    exact Or.inr read

theorem ends_makeBalancer_settings (gateway : Option Resource) (protocol : String)
    (backendResource : Resource) (before : PolicyModules)
    (building : Building engine store start before) :
    Ends (InForce.makeBalancer engine store gateway protocol backendResource) before
      (fun made after => Building engine store start after ∧
        targetSettings engine store gateway protocol backendResource = .ok made.2)
      (fun _ after => Building engine store start after) := by
  have reads (backend : Nat) (state : PolicyModules)
      (kept : Building engine store start state) :
      Ends (do
        let settings ← MonadExcept.ofExcept
          (targetSettings engine store gateway protocol backendResource)
        return (backend, settings) : PolicyM (Nat × TargetSettings)) state
        (fun made after => Building engine store start after ∧
          targetSettings engine store gateway protocol backendResource = .ok made.2)
        (fun _ after => Building engine store start after) := by
    rw [ends_bind, ends_ofExcept]
    cases targetSettings engine store gateway protocol backendResource with
    | ok settings => exact ⟨kept, rfl⟩
    | error thrown => exact kept
  unfold InForce.makeBalancer
  dsimp only
  by_cases known : protocol ∈ ["http", "tcp", "udp", "dubbo"]
  · rw [if_neg (not_not_intro known), ends_bind]
    refine (keeps_makeBackend_building _ before building).mono (fun backend made kept => ?_)
      fun _ _ kept => kept
    split
    · rw [ends_bind]
      have frame := healthFrame_routeFrame start.modules
      exact (keeps_plainly start (keeps_makeHealthCheck frame _) made kept).mono
        (fun _ checked still => reads backend checked still) fun _ _ still => still
    · exact reads backend made kept
  · rw [if_pos known]
    exact building

theorem ends_makeBackendTarget_settings (gateway : Option Resource) (protocol : String)
    (backendRef : Value) (before : PolicyModules)
    (building : Building engine store start before) :
    Ends (InForce.makeBackendTarget engine store gateway protocol backendRef) before
      (fun made after => Building engine store start after ∧
        made.derived engine store = .ok made.settings)
      (fun _ after => Building engine store start after) := by
  unfold InForce.makeBackendTarget
  dsimp only
  rw [ends_bind, ends_ofExcept]
  cases makeFilters engine.modules protocol (backendRef.opt "filters") with
  | error thrown => exact building
  | ok protocol =>
      dsimp only
      cases findBackendResource store backendRef with
      | none => exact ⟨building, rfl⟩
      | some resource =>
          dsimp only
          rw [ends_bind]
          refine (ends_makeBalancer_settings gateway protocol resource before building).mono
            (fun made after kept => ⟨kept.1, ?_⟩) fun _ _ kept => kept
          simp [MadeTarget.derived, kept.2, Functor.map, Except.map]

def Making (engine : PolicyEngine) (store : Store) (start : PolicyModules)
    (made : List MadeTarget) (state : PolicyModules) : Prop :=
  Building engine store start state ∧ TargetsCurrent engine store made

theorem ends_makeBackendSelector_settings (listener : Value) (call : SelectorCall)
    (made : List MadeTarget) (before : PolicyModules)
    (making : Making engine store start made before) :
    Ends (InForce.makeBackendSelector engine store listener call made) before
      (Making engine store start) (fun _ after => Building engine store start after) := by
  unfold InForce.makeBackendSelector
  rw [ends_bind, ends_ofExcept]
  cases makeFilters engine.modules call.protocol (listener.opt "routeFilters") with
  | error thrown => exact making.1
  | ok routeProtocol =>
  dsimp only
  rw [ends_bind, ends_ofExcept]
  cases makeFilters engine.modules routeProtocol (call.rule.opt "filters") with
  | error thrown => exact making.1
  | ok ruleProtocol =>
  dsimp only
  rw [ends_bind, ends_ofExcept]
  cases selectorRefs call.rule with
  | error thrown => exact making.1
  | ok refs =>
  refine ends_foldlM (fun made before ref _ making => ?_) made before making
  rw [ends_bind]
  refine (ends_makeBackendTarget_settings call.gateway ruleProtocol ref before making.1).mono
    (fun one after kept => ⟨kept.1, fun other member => ?_⟩) fun _ _ kept => kept
  rcases List.mem_append.mp member with old | new
  · exact making.2 other old
  · rw [List.mem_singleton.mp new]
    exact kept.2

theorem ends_makeRouter_settings (kind : RouteModule) (gateway : Resource) (listener : Value)
    (routeResources : List Resource) (before : PolicyModules)
    (building : Building engine store start before) :
    Ends (InForce.makeRouter engine store kind gateway listener routeResources) before
      (Making engine store start) (fun _ after => Building engine store start after) := by
  refine ends_foldlM (fun made before step _ making => ?_) [] before ⟨building, ?_⟩
  · cases step with
    | check result =>
        unfold InForce.buildStep
        dsimp only
        rw [ends_bind, ends_ofExcept]
        cases result with
        | ok value => exact making
        | error thrown => exact making.1
    | selector call => exact ends_makeBackendSelector_settings listener call made before making
  · intro made member
    cases member

/-! One update of a router. -/

/-- What an update may leave behind: backends that take what the store has, and other targets
for the router of this place, which do as well. -/
structure Updated (engine : PolicyEngine) (store : Store) (start after : PolicyModules) : Prop where
  kept : ∀ made ∈ start.backends, made ∈ after.backends
  backends : ∀ made ∈ after.backends, made ∈ start.backends ∨
    backendSettings engine store made.name = .ok made.settings
  routers : ∀ ref : Nat, after.routers[ref]? = start.routers[ref]? ∨
    RouterCurrent engine store ref after

theorem Updated.refl (state : PolicyModules) : Updated engine store state state :=
  ⟨fun _ member => member, fun _ member => Or.inl member, fun _ => Or.inl rfl⟩

theorem Building.updated {after : PolicyModules} (building : Building engine store start after) :
    Updated engine store start after :=
  ⟨building.kept, building.backends, fun ref => Or.inl (by rw [building.routers])⟩

theorem Updated.trans {middle after : PolicyModules} (first : Updated engine store start middle)
    (second : Updated engine store middle after) : Updated engine store start after := by
  refine ⟨fun made member => second.kept made (first.kept made member), fun made member => ?_,
    fun ref => ?_⟩
  · exact (second.backends made member).elim (first.backends made) Or.inr
  · rcases second.routers ref with same | current
    · rcases first.routers ref with old | current
      · exact Or.inl (same.trans old)
      · exact Or.inr fun targets found => current targets (same ▸ found)
    · exact Or.inr current

theorem updated_plainly {α : Type} (program : ModuleM α) (before : PolicyModules) :
    Ends (plainly program) before (fun _ after => Updated engine store before after)
      (fun _ after => Updated engine store before after) := by
  simp only [Ends, plainly]
  cases program before.modules <;>
    exact ⟨fun _ member => member, fun _ member => Or.inl member, fun _ => Or.inl rfl⟩

/-- The updater of the router is alone under its key, and what it builds is used. -/
structure RouterWatched (ref : Nat) (routerKey : String) (state : PolicyModules) : Prop where
  registered : state.modules.updaters.registered "Route" routerKey = [.router ref routerKey]
  follows : state.modules.FollowsUpdates ref

/-- What an update that returns does to the updaters. -/
structure Rewatched (ref : Nat) (routerKey : String) (start after : PolicyModules) : Prop where
  registered : ∀ key, after.modules.updaters.registered "Route" key =
    if routerKey = key then [.router ref routerKey]
    else start.modules.updaters.registered "Route" key
  kinds : ∀ ref, after.modules.routerKind ref = start.modules.routerKind ref

theorem updated_setRouter {before after : PolicyModules} (ref : Nat) (router : Router)
    (listener : Value) (routeResources : List Resource) {targets : List MadeTarget}
    (making : Making engine store before targets after) :
    Updated engine store before
        (InForce.setRouter ref router listener routeResources targets after) ∧
      (¬ router.Fixed → RouterCurrent engine store ref
        (InForce.setRouter ref router listener routeResources targets after)) := by
  obtain ⟨building, current⟩ := making
  by_cases fixed : router.Fixed
  · refine ⟨⟨building.kept, building.backends, fun other => Or.inl ?_⟩, fun free =>
      (free fixed).elim⟩
    rw [InForce.setRouter, if_pos fixed, building.routers]
  have here : RouterCurrent engine store ref
      (InForce.setRouter ref router listener routeResources targets after) := by
    intro found same
    rw [InForce.setRouter, if_neg fixed, List.getElem?_set_self'] at same
    obtain ⟨_, _, rfl⟩ := Option.map_eq_some_iff.mp same
    exact current
  refine ⟨⟨building.kept, building.backends, fun other => ?_⟩, fun _ => here⟩
  by_cases same : ref = other
  · exact Or.inr (same ▸ here)
  · refine Or.inl ?_
    rw [InForce.setRouter, if_neg fixed, List.getElem?_set_ne same, building.routers]

theorem ends_routerUpdate (ref : Nat) (routerKey : String) (listener : Value)
    (routeResources : List Resource) (before : PolicyModules) :
    Ends (InForce.routerUpdate engine store ref routerKey listener routeResources) before
      (fun _ after => Updated engine store before after ∧
        (before.modules.FollowsUpdates ref →
          RouterCurrent engine store ref after ∧ Rewatched ref routerKey before after) ∧
        (after = before ∨ Rewatched ref routerKey before after))
      (fun _ after => Updated engine store before after) := by
  unfold InForce.routerUpdate
  rw [ends_bind, ends_get]
  cases found : before.modules.routers[ref]? with
  | none =>
      refine ⟨.refl before, fun follows => ?_, Or.inl rfl⟩
      obtain ⟨kind, there, _⟩ := follows
      simp [Modules.routerKind, found] at there
  | some router =>
      dsimp only
      rw [ends_bind]
      refine (ends_makeRouter_settings router.kind router.gateway listener routeResources before
        (.refl before)).mono (fun targets after making => ?_) fun _ _ kept => kept.updated
      rw [ends_bind, ends_modify, ends_modify]
      obtain ⟨updated, current⟩ := updated_setRouter ref router listener routeResources making
      have rewatched : Rewatched ref routerKey before
          { InForce.setRouter ref router listener routeResources targets after with
            modules := (InForce.setRouter ref router listener routeResources targets
              after).modules.watchRouter routerKey ref } := by
        refine ⟨fun key => ?_, fun other => ?_⟩
        · rw [Modules.watchRouter, Updaters.registered_setUpdater]
          simp only [true_and]
          split
          · rfl
          · exact making.1.routes.routes key
        · exact (routerKind_install (making.1.routes.routers ▸ found) rfl other).trans
            (making.1.routes.routerKind other)
      exact ⟨⟨updated.kept, updated.backends, updated.routers⟩,
        fun follows => ⟨current (follows.free found), rewatched⟩, Or.inr rewatched⟩

theorem updated_runCallback (call : UpdaterCall) (cb : Callback) (before : PolicyModules) :
    Ends (InForce.runCallback engine store call cb) before
      (fun _ after => Updated engine store before after)
      (fun _ after => Updated engine store before after) := by
  cases cb with
  | backend ref backendName => exact updated_plainly _ before
  | healthCheck ref backendName => exact updated_plainly _ before
  | router ref routerKey =>
      unfold InForce.runCallback
      dsimp only
      rw [ends_bind, ends_get]
      cases before.modules.routers[ref]? with
      | none => exact .refl before
      | some router =>
          dsimp only
          rw [ends_bind, ends_ofExcept]
          cases routerArgs router.kind call with
          | error thrown => exact .refl before
          | ok args =>
              exact (ends_routerUpdate ref routerKey args.1 args.2 before).mono
                (fun _ _ ended => ended.1) fun _ _ ended => ended

theorem updated_runUpdatersOf (call : UpdaterCall) (before : PolicyModules) :
    Ends (InForce.runUpdatersOf engine call store) before
      (fun _ after => Updated engine store before after)
      (fun _ after => Updated engine store before after) := by
  unfold InForce.runUpdatersOf
  rw [ends_bind, ends_get]
  dsimp only
  rw [ends_bind, ends_modify]
  have rounds : Keeps (Updated engine store before)
      (forM (before.modules.updaters.taken call.target.1 call.target.2)
        (InForce.runCallback engine store call)) :=
    keeps_forM fun cb _ => fun state updated => (updated_runCallback call cb state).mono
      (fun _ _ later => updated.trans later) fun _ _ later => updated.trans later
  exact rounds _ ⟨fun _ member => member, fun _ member => Or.inl member, fun _ => Or.inl rfl⟩

theorem updated_makeRoute (kind : RouteModule) (routerKey : String) (listener : Value)
    (routeResources : List Resource) (gateway : Resource) (before : PolicyModules) :
    Ends (InForce.makeRoute engine kind routerKey listener routeResources gateway store) before
      (fun _ after => Updated engine store before after)
      (fun _ after => Updated engine store before after) := by
  unfold InForce.makeRoute
  rw [ends_bind, ends_get, ends_bind, ends_modify]
  have added : Updated engine store before (InForce.addRouter kind gateway before) := by
    refine ⟨fun _ member => member, fun _ member => Or.inl member, fun ref => ?_⟩
    by_cases old : ref < before.routers.length
    · exact Or.inl (List.getElem?_append_left old)
    · refine Or.inr fun targets found made member => ?_
      rw [InForce.addRouter, List.getElem?_append_right (by omega)] at found
      obtain rfl := List.mem_singleton.mp (List.mem_of_getElem? found)
      cases member
  exact (ends_routerUpdate _ routerKey listener routeResources _).mono
    (fun _ _ ended => added.trans ended.1) fun _ _ ended => added.trans ended

/-! A router update that reaches its router. -/

theorem RouterWatched.update {ref other : Nat} {routerKey otherKey : String}
    {before after : PolicyModules} (watched : RouterWatched ref routerKey before)
    (different : otherKey ≠ routerKey) (rewatched : Rewatched other otherKey before after) :
    RouterWatched ref routerKey after :=
  ⟨by rw [rewatched.registered, if_neg different, watched.registered],
    watched.follows.congr (rewatched.kinds ref)⟩

theorem ends_routerCallback (routerKey : String) (listener : Value)
    (routeResources : List Resource) (ref : Nat) (watchedKey : String) (before : PolicyModules) :
    Ends (InForce.runCallback engine store (.route routerKey listener routeResources)
        (.router ref watchedKey)) before
      (fun _ after => (before.modules.FollowsUpdates ref →
          RouterCurrent engine store ref after ∧ Rewatched ref watchedKey before after) ∧
        (after = before ∨ Rewatched ref watchedKey before after)) (fun _ _ => True) := by
  unfold InForce.runCallback
  dsimp only
  rw [ends_bind, ends_get]
  cases found : before.modules.routers[ref]? with
  | none =>
      refine ⟨fun follows => ?_, Or.inl rfl⟩
      obtain ⟨kind, there, _⟩ := follows
      simp [Modules.routerKind, found] at there
  | some router =>
      exact (ends_routerUpdate ref watchedKey listener routeResources before).mono
        (fun _ _ ended => ended.2) fun _ _ _ => trivial

theorem runUpdatersOf_route (routerKey : String) (listener : Value)
    (routeResources : List Resource) (before : PolicyModules) :
    InForce.runUpdatersOf engine (.route routerKey listener routeResources) store before =
      forM (before.modules.updaters.registered "Route" routerKey)
        (InForce.runCallback engine store (.route routerKey listener routeResources))
        { before with modules := { before.modules with
          updaters := before.modules.updaters.drop "Route" routerKey } } := rfl

theorem watched_otherUpdaters {ref : Nat} {routerKey otherKey : String} (listener : Value)
    (routeResources : List Resource) (different : otherKey ≠ routerKey) (before : PolicyModules)
    (watched : RouterWatched ref routerKey before) :
    Ends (InForce.runUpdatersOf engine (.route otherKey listener routeResources) store) before
      (fun _ after => RouterWatched ref routerKey after) (fun _ _ => True) := by
  rw [Ends, runUpdatersOf_route, ← Ends]
  refine ends_forM_of_rounds (fun cb member state now => ?_) _ ⟨?_, watched.follows⟩
  · have home := before.modules.updaters.home "Route" otherKey cb member
    cases cb with
    | backend other name => simp [Callback.homes] at home
    | healthCheck other name => simp [Callback.homes] at home
    | router other watchedKey =>
        obtain rfl : otherKey = watchedKey := by simpa [Callback.homes] using home
        refine (ends_routerCallback _ listener routeResources other otherKey state).mono
          (fun _ after ended => ?_) fun _ _ _ => trivial
        rcases ended.2 with rfl | rewatched
        · exact now
        · exact now.update different rewatched
  · rw [Updaters.registered_drop, if_neg fun both => different both.2]
    exact watched.registered

theorem watched_ownUpdaters {ref : Nat} {routerKey : String} (listener : Value)
    (routeResources : List Resource) (before : PolicyModules)
    (watched : RouterWatched ref routerKey before) :
    Ends (InForce.runUpdatersOf engine (.route routerKey listener routeResources) store) before
      (fun _ after => RouterWatched ref routerKey after ∧ RouterCurrent engine store ref after)
      (fun _ _ => True) := by
  rw [Ends, runUpdatersOf_route, ← Ends, watched.registered, List.forM_cons, ends_bind]
  refine (ends_routerCallback _ listener routeResources ref routerKey _).mono
    (fun _ after ended => ?_) fun _ _ _ => trivial
  obtain ⟨current, rewatched⟩ := ended.1 watched.follows
  exact ⟨⟨by rw [rewatched.registered, if_pos rfl], watched.follows.congr (rewatched.kinds ref)⟩,
    current⟩

end Fgw
