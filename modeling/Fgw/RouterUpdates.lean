import Fgw.UpdatersLost

/-!
What running the updaters of one router key does to the routers under it, and that it leaves all
others alone.
-/

namespace Fgw

variable {engine : ModuleEngine} {store : Store}

/-- The router passes requests to a function made for this listener and these routes. -/
def MadeFor (ref : Nat) (listener : Value) (routes : List Resource) (modules : Modules) : Prop :=
  ∃ router built, modules.routers[ref]? = some router ∧ router.router = some built ∧
    built.listener = listener ∧ built.routeResources = routes

/-- The updaters of the key have been run, or some of them. -/
structure RouteUpdated (routerKey : String) (before after : Modules) : Prop where
  others : ∀ key, routerKey ≠ key →
    after.updaters.registered "Route" key = before.updaters.registered "Route" key
  own : ∀ cb ∈ after.updaters.registered "Route" routerKey,
    cb ∈ before.updaters.registered "Route" routerKey
  routers : ∀ ref, .router ref routerKey ∉ before.updaters.registered "Route" routerKey →
    after.routers[ref]? = before.routers[ref]?
  kinds : ∀ ref, after.routerKind ref = before.routerKind ref

theorem ends_routerUpdate_made {ref : Nat} {router : Router} {modules : Modules}
    (here : modules.routers[ref]? = some router) (routerKey : String) (listener : Value)
    (routes : List Resource) :
    Ends (routerUpdate engine store ref routerKey listener routes) modules
      (fun _ after => (∃ built : BuiltRouter, built.listener = listener ∧
          built.routeResources = routes ∧
          after.routers = modules.routers.set ref (router.install built)) ∧
        ∀ key, after.updaters.registered "Route" key =
          if routerKey = key then [.router ref routerKey]
          else modules.updaters.registered "Route" key)
      fun _ after => RouteFrame modules after := by
  have run := @routerUpdate_run engine store ref modules router here routerKey listener routes
  have built := @ends_makeRouter_frame engine store router.kind router.gateway listener routes
    modules
  rw [Ends, run, ← Ends, ends_bind]
  refine built.mono (fun made after ended => ?_) fun _ _ frame => frame
  obtain ⟨frame, sameListener, sameRoutes⟩ := ended
  rw [ends_bind, ends_modify, ends_modify]
  refine ⟨⟨made, sameListener, sameRoutes, ?_⟩, fun key => ?_⟩
  · rw [← frame.routers]
    rfl
  · rw [← frame.routes key]
    exact (Updaters.registered_setUpdater _ _ _ _ _ _ (router_home ref routerKey)).trans
      (by simp [Modules.setRouter])

theorem keeps_routeCallbacks (routerKey : String) (listener : Value) (routes : List Resource)
    (before : Modules) (pending : List Callback)
    (registered : ∀ cb ∈ pending, cb ∈ before.updaters.registered "Route" routerKey) :
    Keeps (RouteUpdated routerKey before)
      (forM pending (runCallback engine store (.route routerKey listener routes))) := by
  refine keeps_forM fun cb member modules updated => ?_
  have home := before.updaters.home "Route" routerKey cb (registered cb member)
  cases cb with
  | backend ref name => simp [Callback.homes] at home
  | healthCheck ref name => simp [Callback.homes] at home
  | router ref key =>
      obtain rfl : routerKey = key := home_unique home (router_home ref key)
      cases here : modules.routers[ref]? with
      | none =>
          have skipped : runCallback engine store (.route routerKey listener routes)
              (.router ref routerKey) modules = .ok () modules := by
            rw [runCallback, run_get_bind, here]
            rfl
          rw [Ends, skipped]
          exact updated
      | some router =>
          have ran := @runCallback_router engine store ref modules router here routerKey listener
            routes
          rw [Ends, ran, ← Ends]
          refine (ends_routerUpdate_made here routerKey listener routes).mono
            (fun _ after ended => ?_) fun _ after frame => ⟨fun other different => ?_,
              fun cb watched => ?_, fun other missing => ?_, fun other => ?_⟩
          · obtain ⟨⟨built, _, _, installed⟩, again⟩ := ended
            refine ⟨fun other different => ?_, fun cb watched => ?_, fun other missing => ?_,
              fun other => ?_⟩
            · rw [again other, if_neg different, updated.others other different]
            · rw [again routerKey, if_pos rfl, List.mem_singleton] at watched
              exact watched ▸ registered _ member
            · have different : ref ≠ other := by
                rintro rfl
                exact missing (registered _ member)
              rw [installed, List.getElem?_set_ne different, updated.routers other missing]
            · rw [routerKind_install here installed, updated.kinds]
          · rw [frame.routes other, updated.others other different]
          · rw [frame.routes routerKey] at watched
            exact updated.own cb watched
          · rw [frame.routers, updated.routers other missing]
          · rw [frame.routerKind, updated.kinds]

theorem ends_routeUpdaters (routerKey : String) (listener : Value) (routes : List Resource)
    (modules : Modules) :
    Ends (runUpdatersOf engine (.route routerKey listener routes) store) modules
      (fun _ after => RouteUpdated routerKey modules after ∧
        ∀ ref, modules.updaters.registered "Route" routerKey = [.router ref routerKey] →
          modules.FollowsUpdates ref →
            after.updaters.registered "Route" routerKey = [.router ref routerKey] ∧
              MadeFor ref listener routes after)
      fun _ _ => True := by
  let taken : Modules := { modules with updaters := modules.updaters.drop "Route" routerKey }
  have unfolded : runUpdatersOf engine (.route routerKey listener routes) store modules =
      forM (modules.updaters.registered "Route" routerKey)
        (runCallback engine store (.route routerKey listener routes)) taken :=
    runUpdatersOf_run _ rfl modules
  have dropped : RouteUpdated routerKey modules taken := by
    refine ⟨fun key different => ?_, fun cb watched => ?_, fun _ _ => rfl, fun _ => rfl⟩
    · simp [taken, Updaters.registered_drop, different]
    · simp [taken, Updaters.registered_drop] at watched
  have kept := @keeps_routeCallbacks engine store routerKey listener routes modules
    (modules.updaters.registered "Route" routerKey) (fun _ member => member) taken dropped
  rw [Ends, unfolded]
  rw [Ends] at kept
  cases ran : forM (modules.updaters.registered "Route" routerKey)
      (runCallback engine store (.route routerKey listener routes)) taken with
  | error thrown after => trivial
  | ok value after =>
      rw [ran] at kept
      refine ⟨kept, fun ref watched follows => ?_⟩
      obtain ⟨router, here⟩ := follows.router
      rw [watched, List.forM_cons, List.forM_nil, bind_pure_unit] at ran
      have found : taken.routers[ref]? = some router := here
      have updated := @ends_routerUpdate_made engine store ref router taken found routerKey listener
        routes
      rw [Ends, ← runCallback_router found, ran] at updated
      obtain ⟨⟨built, sameListener, sameRoutes, installed⟩, again⟩ := updated
      rw [Router.install_free built (follows.free here)] at installed
      refine ⟨by rw [again routerKey, if_pos rfl], { router with router := some built }, built,
        ?_, rfl, sameListener, sameRoutes⟩
      rw [installed, List.getElem?_set_self (List.getElem?_eq_some_iff.mp here).1]

/-- A new router comes after those there are, and takes over its key if it can be made. -/
theorem ends_makeRoute_router (kind : RouteModule) (routerKey : String) (listener : Value)
    (routes : List Resource) (gateway : Resource) (modules : Modules) :
    Ends (makeRoute engine kind routerKey listener routes gateway store) modules
      (fun _ after => MadeFor modules.routers.length listener routes after ∧
        (∀ ref, ref < modules.routers.length → after.routers[ref]? = modules.routers[ref]?) ∧
        ∀ key, after.updaters.registered "Route" key =
          if routerKey = key then [.router modules.routers.length routerKey]
          else modules.updaters.registered "Route" key)
      fun _ after =>
        (∀ ref, ref < modules.routers.length → after.routers[ref]? = modules.routers[ref]?) ∧
        ∀ key, after.updaters.registered "Route" key = modules.updaters.registered "Route" key := by
  let added : Modules := { modules with routers := modules.routers ++ [⟨kind, gateway, none⟩] }
  have here : added.routers[modules.routers.length]? = some ⟨kind, gateway, none⟩ := by
    simp [added]
  have before (ref : Nat) (older : ref < modules.routers.length) :
      added.routers[ref]? = modules.routers[ref]? := by
    simp [added, List.getElem?_append_left older]
  unfold makeRoute
  rw [ends_bind, ends_get]
  dsimp only
  rw [ends_bind, ends_modify]
  refine (ends_routerUpdate_made here routerKey listener routes).mono (fun _ after ended => ?_)
    fun _ after frame => ⟨fun ref older => ?_, frame.routes⟩
  · obtain ⟨⟨built, sameListener, sameRoutes, installed⟩, again⟩ := ended
    have free : ¬ Router.Fixed ⟨kind, gateway, none⟩ := fun fixed => Bool.false_ne_true fixed.2
    rw [Router.install_free built free] at installed
    refine ⟨⟨⟨kind, gateway, some built⟩, built, ?_, rfl, sameListener, sameRoutes⟩,
      fun ref older => ?_, again⟩
    · rw [installed, List.getElem?_set_self (List.getElem?_eq_some_iff.mp here).1]
    · rw [installed, List.getElem?_set_ne (by omega), before ref older]
  · rw [frame.routers, before ref older]

/-- The updaters of a Backend leave all routers alone. -/
theorem frame_backendUpdaters (name : Value) (before : Modules) :
    Keeps (RouteFrame before) (runUpdatersOf engine (.backend name) store) := by
  intro modules frame
  let taken : Modules := { modules with updaters := modules.updaters.drop "Backend" name.toKey }
  have unfolded : runUpdatersOf engine (.backend name) store modules =
      forM (modules.updaters.registered "Backend" name.toKey)
        (runCallback engine store (.backend name)) taken := runUpdatersOf_run _ rfl modules
  have dropped : RouteFrame before taken := by
    refine ⟨frame.routers, fun key => ?_⟩
    rw [← frame.routes key]
    simp [taken, Updaters.registered_drop]
  rw [Ends, unfolded, ← Ends]
  refine keeps_forM (fun cb member => ?_) taken dropped
  have home := modules.updaters.home "Backend" name.toKey cb member
  cases cb with
  | router ref routerKey => simp [Callback.homes] at home
  | healthCheck ref key =>
      intro state kept
      exact (ends_healthCheckUpdate ((healthFrame_routeFrame before).update ref key) state
        kept).mono (fun _ _ still => still) fun _ _ still => still.1
  | backend ref key =>
      simp only [runCallback, backendCallback]
      split
      · refine (keeps_ofExcept _ _).bind fun targets => Keeps.bind ?_ fun _ => ?_
        · exact keeps_modify fun _ kept => ⟨kept.routers, kept.routes⟩
        · refine keeps_modify fun state kept => ⟨kept.routers, fun other => ?_⟩
          rw [← kept.routes other]
          simp [Modules.watchBackend, Updaters.registered_addUpdater]
      · exact keeps_modify fun _ kept => ⟨kept.routers, kept.routes⟩

theorem MadeFor.inside {ref : Nat} {listener : Value} {routes : List Resource} {modules : Modules}
    (made : MadeFor ref listener routes modules) : ref < modules.routers.length := by
  obtain ⟨router, _, here, _⟩ := made
  exact (List.getElem?_eq_some_iff.mp here).1

end Fgw
