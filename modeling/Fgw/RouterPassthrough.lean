import Fgw.GatewayProjection
import Fgw.LinksInForce
import Fgw.PolicyInForce

/-!
Listeners that pass TLS connections through.  The pipeline of one has been given its first router by
value, so what a run changes reaches its connections through the backends alone.
-/

namespace Fgw

variable {engine : PolicyEngine} {store : Store} {ref : Nat} {router : Router}
  {taken : List MadeTarget}

/-- The router is in its place, with what its targets have taken from policies. -/
structure PassesThrough (ref : Nat) (router : Router) (taken : List MadeTarget)
    (state : PolicyModules) : Prop where
  router : state.modules.routers[ref]? = some router
  taken : state.routers[ref]? = some taken

theorem passes_plainly {program : ModuleM Unit}
    (frame : ∀ routers, Keeps (fun modules => modules.routers = routers) program) :
    Keeps (PassesThrough ref router taken) (plainly program) := by
  intro state passes
  have same := frame state.modules.routers state.modules rfl
  cases ran : program state.modules with
  | ok value modules =>
      rw [Ends, plainly, ran]
      exact ⟨by rw [same.ok ran, passes.router], passes.taken⟩
  | error thrown modules =>
      rw [Ends, plainly, ran]
      exact ⟨by rw [same.error ran, passes.router], passes.taken⟩

theorem keeps_backendCallback_routers (routers : List Router) (backend : Nat) (name : String) :
    Keeps (fun modules => modules.routers = routers) (backendCallback store backend name) := by
  unfold backendCallback
  split
  · refine (keeps_ofExcept _ _).bind fun targets => Keeps.bind ?_ fun _ => ?_
    · exact keeps_modify fun _ same => same
    · exact keeps_modify fun _ same => same
  · exact keeps_modify fun _ same => same

theorem healthFrame_routers (routers : List Router) :
    HealthFrame fun modules => modules.routers = routers where
  update _ _ := ⟨fun _ _ same => same, fun _ _ same => same, fun _ same => same⟩
  new _ _ same := same

theorem keeps_healthCheckUpdate_routers (engine : ModuleEngine) (routers : List Router)
    (check : Nat) (name : String) : Keeps (fun modules => modules.routers = routers)
      (healthCheckUpdate engine store check name) := fun modules same =>
  (ends_healthCheckUpdate ((healthFrame_routers routers).update check name) modules same).mono
    (fun _ _ kept => kept) fun _ _ kept => kept.1

/-- An update builds a router in any case, and where the pipeline has its own leaves it there. -/
theorem passes_routerUpdate (fixed : router.Fixed) (other : Nat) (routerKey : String)
    (listener : Value) (routeResources : List Resource) :
    Keeps (PassesThrough ref router taken)
      (InForce.routerUpdate engine store other routerKey listener routeResources) := by
  intro state passes
  unfold InForce.routerUpdate
  rw [ends_bind, ends_get]
  cases found : state.modules.routers[other]? with
  | none => exact passes
  | some held =>
      dsimp only
      rw [ends_bind]
      have still (after : PolicyModules) (building : Building engine store state after) :
          PassesThrough ref router taken after :=
        ⟨by rw [building.routes.routers, passes.router], by rw [building.routers, passes.taken]⟩
      refine (ends_makeRouter_settings held.kind held.gateway listener routeResources state
        (.refl state)).mono (fun targets after making => ?_) fun _ after building =>
          still after building
      rw [ends_bind, ends_modify, ends_modify]
      obtain ⟨here, kept⟩ := still after making.1
      by_cases same : other = ref
      · subst same
        obtain rfl : held = router := Option.some.inj (found.symm.trans passes.router)
        have inside := (List.getElem?_eq_some_iff.mp here).1
        refine ⟨?_, by rw [InForce.setRouter, if_pos fixed, kept]⟩
        simp [InForce.setRouter, Modules.setRouter, Modules.watchRouter, inside,
          Router.install_fixed _ fixed]
      · refine ⟨?_, ?_⟩
        · simp [InForce.setRouter, Modules.setRouter, Modules.watchRouter, same, here]
        · simp only [InForce.setRouter]
          split
          · exact kept
          · rw [List.getElem?_set_ne same, kept]

theorem policyRuntime_passes (engine : PolicyEngine) (fixed : router.Fixed) :
    RuntimeKeeps (PassesThrough ref router taken) (policyRuntime engine) where
  makeRoute kind routerKey listener routeResources gateway store := by
    refine (keeps_get _).bind fun current => (keeps_modify fun state passes => ?_).bind fun _ =>
      passes_routerUpdate fixed _ routerKey listener routeResources
    obtain ⟨here, kept⟩ := passes
    have inside := (List.getElem?_eq_some_iff.mp here).1
    have recorded := (List.getElem?_eq_some_iff.mp kept).1
    exact ⟨(List.getElem?_append_left inside).trans here,
      (List.getElem?_append_left recorded).trans kept⟩
  terminateTLS _ _ := keeps_ofExcept _ _
  makeFilters _ _ _ := (keeps_ofExcept _ _).bind fun _ => keeps_pure _ _
  runUpdaters call store := by
    refine (keeps_get _).bind fun current => ?_
    refine (keeps_modify fun _ passes => ⟨passes.router, passes.taken⟩).bind fun _ => ?_
    refine keeps_forM fun cb _ => ?_
    cases cb with
    | backend backend name =>
        exact passes_plainly fun routers => keeps_backendCallback_routers routers backend name
    | healthCheck check name =>
        exact passes_plainly fun routers =>
          keeps_healthCheckUpdate_routers engine.modules routers check name
    | router other routerKey =>
        refine (keeps_get _).bind fun current => ?_
        split
        · exact keeps_pure _ _
        · exact (keeps_ofExcept _ _).bind fun args =>
            passes_routerUpdate fixed other routerKey args.1 args.2

/-! What reaches the connections all the same. -/

theorem keeps_routerUpdate_fixed {engine : ModuleEngine} (fixed : router.Fixed) (other : Nat)
    (routerKey : String) (listener : Value) (routeResources : List Resource) :
    Keeps (fun modules => modules.routers[ref]? = some router)
      (routerUpdate engine store other routerKey listener routeResources) := by
  intro modules here
  unfold routerUpdate
  rw [ends_bind, ends_get]
  cases found : modules.routers[other]? with
  | none => exact here
  | some held =>
      dsimp only
      rw [ends_bind]
      refine (ends_makeRouter_frame held.kind held.gateway listener routeResources modules).mono
        (fun built after made => ?_) fun _ after frame => by rw [frame.routers, here]
      have still : after.routers[ref]? = some router := by rw [made.1.routers, here]
      rw [ends_bind, ends_modify, ends_modify]
      by_cases same : other = ref
      · subst same
        obtain rfl : held = router := Option.some.inj (found.symm.trans here)
        have inside := (List.getElem?_eq_some_iff.mp still).1
        simp [Modules.setRouter, Modules.watchRouter, inside, Router.install_fixed _ fixed]
      · simp [Modules.setRouter, Modules.watchRouter, same, still]

theorem keeps_place {program : ModuleM Unit}
    (frame : ∀ routers, Keeps (fun modules => modules.routers = routers) program) :
    Keeps (fun modules => modules.routers[ref]? = some router) program := by
  intro modules here
  have place (after : Modules) (same : after.routers = modules.routers) :
      after.routers[ref]? = some router := by rw [same, here]
  exact (frame modules.routers modules rfl).mono (fun _ => place) fun _ => place

theorem moduleRuntime_passes (engine : ModuleEngine) (fixed : router.Fixed) :
    RuntimeKeeps (fun modules => modules.routers[ref]? = some router) (moduleRuntime engine) where
  makeRoute kind routerKey listener routeResources gateway store := by
    refine (keeps_get _).bind fun current => (keeps_modify fun modules here => ?_).bind fun _ =>
      keeps_routerUpdate_fixed fixed _ routerKey listener routeResources
    exact (List.getElem?_append_left (List.getElem?_eq_some_iff.mp here).1).trans here
  terminateTLS _ _ := keeps_ofExcept _ _
  makeFilters _ _ _ := (keeps_ofExcept _ _).bind fun _ => keeps_pure _ _
  runUpdaters call store := by
    refine (keeps_get _).bind fun current => ?_
    refine Keeps.bind (keeps_modify ?_) fun _ => keeps_forM fun cb _ => ?_
    · exact fun _ here => here
    cases cb with
    | backend backend name =>
        exact keeps_place fun routers => keeps_backendCallback_routers routers backend name
    | healthCheck check name =>
        exact keeps_place fun routers => keeps_healthCheckUpdate_routers engine routers check name
    | router other routerKey =>
        refine (keeps_get _).bind fun current => ?_
        split
        · exact keeps_pure _ _
        · exact (keeps_ofExcept _ _).bind fun args =>
            keeps_routerUpdate_fixed fixed other routerKey args.1 args.2

/-- The router is in its place, and each reference that it has resolved leads to what the store has
for its Backend. -/
structure ConnectsTo (ref : Nat) (router : Router) (store : Store) (modules : Modules) : Prop where
  place : modules.routers[ref]? = some router
  targets : ∀ built, router.router = some built → ∀ target ∈ built.targets, ∀ name,
    target.Names name → (store.find "Backend" name).elim (forwards modules target = [])
      fun resource => getTargets (some resource) = .ok (forwards modules target)

theorem Follows.connectsTo {modules : Modules} (follows : Follows store modules)
    (here : modules.routers[ref]? = some router) : ConnectsTo ref router store modules := by
  refine ⟨here, fun built made target member name names => ?_⟩
  have live : target ∈ liveTargets modules.routers :=
    List.mem_flatMap.mpr ⟨router, List.mem_of_getElem? here, by rw [made]; exact member⟩
  have leads := follows target live name names
  cases found : store.find "Backend" name with
  | none => simpa [found] using leads
  | some resource => simpa [found] using leads

namespace GatewayEvent

def LeavesConnected (engine : ModuleEngine) (gatewayFilter : GatewayFilter) (ref : Nat)
    (router : Router) (world : World Modules) (event : GatewayEvent) : Prop :=
  event = .flush → ConnectsTo ref router
    (event.step (moduleRuntime engine) gatewayFilter world).store
    (event.step (moduleRuntime engine) gatewayFilter world).modules

end GatewayEvent

def passGateway : Value :=
  .obj [("kind", .str "Gateway"), ("metadata", .obj [("name", .str "gw")]),
    ("spec", .obj [("listeners", .arr [.obj [("port", .num "443"), ("protocol", .str "TLS"),
      ("tls", .obj [("mode", .str "Passthrough")])]])])]

def passRoute (backend : String) : Value :=
  .obj [("kind", .str "TLSRoute"), ("metadata", .obj [("name", .str "route")]),
    ("spec", .obj [("parentRefs", .arr [.obj [("kind", .str "Gateway"), ("name", .str "gw"),
        ("port", .num "443")]]),
      ("rules", .arr [.obj [("backendRefs", .arr [.obj [("name", .str backend)]])]])])]

def passFiles : Table Value :=
  ((Table.empty.set "gateway.json" passGateway).set "route.json" (passRoute "b")).set "backend.json"
    (linkBackend "old")

def passTarget : BackendTarget :=
  ⟨.obj [("name", .str "b")], some ⟨2, linkBackend "old"⟩, some 0⟩

def passRouter : Router :=
  ⟨.tls, ⟨0, passGateway⟩, some ⟨.obj [("port", .num "443"), ("protocol", .str "TLS"),
    ("tls", .obj [("mode", .str "Passthrough")])], [⟨1, passRoute "b"⟩], [passTarget]⟩⟩

end Fgw
