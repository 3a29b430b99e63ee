import Fgw.GatewayFlush
import Fgw.RoutesInForce

/-!
What a route does that is attached to a gateway which is not there.  With `isLocalGateway` as the
filter its key throws in every flush, before policies and gateways have their turn, and the lists
that would drop it are emptied only at the end.
-/

namespace Fgw

variable {M : Type} {runtime : Runtime M} {endpoint : Endpoint} {start : World M}

theorem Value.strictEq_comm (left right : Value) : left.strictEq right = right.strictEq left := by
  cases left <;> cases right
  all_goals try rfl
  all_goals rw [Bool.eq_iff_iff]; simp only [strictEq, Bool.and_eq_true, decide_eq_true_eq]
  · exact eq_comm
  · constructor
    · rintro ⟨rfl, number⟩
      exact ⟨rfl, number⟩
    · rintro ⟨rfl, number⟩
      exact ⟨rfl, number⟩
  · exact eq_comm

/-- The calls that a flush makes first. -/
def UpdaterCall.Early : UpdaterCall → Prop
  | backend _ => True
  | route _ _ _ => True
  | _ => False

/-- No listener has been touched and no policy updated, and all that waits goes on waiting. -/
structure Held (start after : World M) : Prop where
  ports : after.ports = start.ports
  currentListeners : after.currentListeners = start.currentListeners
  dirtyGateways : start.dirtyGateways <+: after.dirtyGateways
  dirtyBackends : start.dirtyBackends <+: after.dirtyBackends
  dirtyPolicies : start.dirtyPolicies <+: after.dirtyPolicies
  dirtyResources : start.dirtyResources <+: after.dirtyResources
  calls : ∃ made, after.updaterCalls = start.updaterCalls ++ made ∧ ∀ call ∈ made, call.Early

theorem Held.refl (world : World M) : Held world world :=
  ⟨rfl, rfl, List.prefix_rfl, List.prefix_rfl, List.prefix_rfl, List.prefix_rfl, [], by simp⟩

/-- The key of a reference to a gateway, none of whose name is in the store, is pending. -/
structure Orphaned (key : DirtyRouter) (world : World M) : Prop where
  tracks : Tracks world.store
  pending : key ∈ world.dirtyRouters
  missing : ∀ gateway ∈ world.store.list "Gateway",
    key.name.strictEq (nameOf gateway.data) = false

/-! Notifications. -/

/-- What the notifications keep. -/
structure Holding (start : World M) (key : DirtyRouter) (world : World M) : Prop where
  held : Held start world
  pending : key ∈ world.dirtyRouters

variable {key : DirtyRouter}

theorem Holding.addDirtyRouter (other : DirtyRouter) (world : World M)
    (holding : Holding start key world) : Holding start key (addDirtyRouter other world) := by
  obtain ⟨held, pending⟩ := holding
  unfold Fgw.addDirtyRouter
  split
  · exact ⟨held, pending⟩
  · exact ⟨⟨held.1, held.2, held.3, held.4, held.5, held.6, held.7⟩,
      List.mem_append_left _ pending⟩

theorem Holding.addDirtyPolicyKey (policy : DirtyPolicy) (world : World M)
    (holding : Holding start key world) : Holding start key (addDirtyPolicyKey policy world) := by
  obtain ⟨held, pending⟩ := holding
  unfold Fgw.addDirtyPolicyKey
  split
  · exact ⟨held, pending⟩
  · exact ⟨⟨held.1, held.2, held.3, held.4, held.5.trans (List.prefix_append _ _), held.6, held.7⟩,
      pending⟩

theorem Holding.addDirtyBackend (name : Value) (world : World M)
    (holding : Holding start key world) : Holding start key (addDirtyBackend name world) := by
  obtain ⟨held, pending⟩ := holding
  unfold Fgw.addDirtyBackend
  split
  · exact ⟨held, pending⟩
  · exact ⟨⟨held.1, held.2, held.3, held.4.trans (List.prefix_append _ _), held.5, held.6, held.7⟩,
      pending⟩

/-- A gateway of another name leaves the key where it is. -/
theorem Holding.addDirtyGateway {name : Value} (other : key.name.strictEq name = false)
    (world : World M) (holding : Holding start key world) :
    Holding start key (addDirtyGateway name world) := by
  obtain ⟨held, pending⟩ := holding
  unfold Fgw.addDirtyGateway
  split
  · exact ⟨held, pending⟩
  · refine ⟨⟨held.1, held.2, held.3.trans (List.prefix_append _ _), held.4, held.5, held.6,
      held.7⟩, List.mem_filter.mpr ⟨pending, ?_⟩⟩
    rw [other, Bool.not_false, Bool.or_true]

theorem Holding.addName {add : Value → World M → World M} {name : Value}
    (added : ∀ world, Holding start key world → Holding start key (add name world))
    (world : World M) (holding : Holding start key world) :
    Holding start key (addName add name world) := by
  unfold Fgw.addName
  split
  · exact added world holding
  · exact holding

theorem keeps_addDirtyPolicy_holding (policy : Resource) :
    Keeps (Holding start key) (addDirtyPolicy policy : EStateM Thrown (World M) Unit) := by
  refine (keeps_ofExcept _ _).bind fun found => ?_
  split
  · exact keeps_forM fun ref _ => (keeps_ofExcept _ _).bind fun refKind =>
      keeps_modify (Holding.addDirtyPolicyKey _)
  · exact keeps_pure _ _

/-- The notification is about no gateway of the name that the key waits for. -/
def OtherGateway (key : DirtyRouter) (notification : Notification) : Prop :=
  roleOf notification.kind = .gateway →
    ∀ version ∈ notification.versions, key.name.strictEq (nameOf version.data) = false

theorem Holding.addDirtyGateways {notification : Notification}
    (other : ∀ version ∈ notification.versions, key.name.strictEq (nameOf version.data) = false)
    (world : World M) (holding : Holding start key world) :
    Holding start key (addNames notification Fgw.addDirtyGateway world) := by
  have unnamed (before : World M) : Fgw.addName Fgw.addDirtyGateway .undefined before = before :=
    rfl
  have named (resource : Resource) (versioned : resource ∈ notification.versions)
      (before : World M) (holds : Holding start key before) :
      Holding start key (Fgw.addName Fgw.addDirtyGateway (nameOf resource.data) before) :=
    Holding.addName (Holding.addDirtyGateway (other resource versioned)) before holds
  unfold addNames
  cases notification with
  | create resource =>
      exact named resource List.mem_cons_self world holding
  | delete resource =>
      exact named resource List.mem_cons_self world holding
  | update resource old =>
      exact named old (by simp [Notification.versions]) _
        (named resource List.mem_cons_self world holding)

theorem keeps_onResourceChange_holding {notification : Notification}
    (other : OtherGateway key notification) :
    Keeps (Holding start key) (onResourceChange notification) := by
  unfold onResourceChange markDirty
  refine Keeps.bind ?_ fun _ => keeps_modify fun world holding =>
    ⟨⟨holding.held.1, holding.held.2, holding.held.3, holding.held.4, holding.held.5,
      holding.held.6, holding.held.7⟩, holding.pending⟩
  split
  · rename_i gateway
    exact keeps_modify (Holding.addDirtyGateways (other gateway))
  · exact keeps_forM fun version _ => keeps_addDirtyRouters Holding.addDirtyRouter _
  · exact keeps_forM fun version _ => keeps_addDirtyRoutersByPolicy Holding.addDirtyRouter _
  · exact keeps_forM fun version _ => keeps_addDirtyPolicy_holding version
  · refine keeps_modify fun world holding => ?_
    exact Holding.addName (Holding.addDirtyBackend _) _
      (Holding.addName (Holding.addDirtyBackend _) _ holding)
  · refine keeps_modify fun world holding => ⟨⟨holding.held.1, holding.held.2, holding.held.3,
      holding.held.4, holding.held.5, ?_, holding.held.7⟩, holding.pending⟩
    exact holding.held.6.trans (List.prefix_append _ _)

/-! Changed files. -/

/-- A file that leaves the gateways of this name to themselves. -/
def GatewayEvent.LeavesMissing (key : DirtyRouter) : GatewayEvent → Prop
  | change _ data => kindKey data = some "Gateway" →
      key.name.strictEq (nameOf data) = false
  | flush => True

theorem kindKey_gateway {data : Value} (gateway : roleOf (kindOf data) = .gateway) :
    kindKey data = some "Gateway" := by
  have kind : kindOf data = .str "Gateway" := by
    unfold roleOf at gateway
    split at gateway
    all_goals first
      | assumption
      | cases gateway
  rw [kindKey, kind]
  rfl

/-- Both versions of a notification are of the kind it is told as. -/
theorem kindOf_version {cur old : Option Resource} {notification : Notification}
    (member : notification ∈ Store.changeNotifications cur old) {version : Resource}
    (versioned : version ∈ notification.versions) : kindOf version.data = notification.kind := by
  have only (resource : Resource) (inside : version ∈ [resource]) :
      kindOf version.data = kindOf resource.data := by
    rw [List.mem_singleton.mp inside]
  unfold Store.changeNotifications at member
  split at member
  · dsimp only at member
    split at member
    · rename_i same
      rw [Bool.and_eq_true] at same
      obtain rfl := List.mem_singleton.mp member
      rcases List.mem_cons.mp versioned with rfl | older
      · rfl
      · rw [only _ older]
        exact (Value.eq_of_strictEq same.2).symm
    · split at member
      · rcases List.mem_cons.mp member with rfl | later
        · exact only _ versioned
        · obtain rfl := List.mem_singleton.mp later
          exact only _ versioned
      · obtain rfl := List.mem_singleton.mp member
        exact only _ versioned
  · obtain rfl := List.mem_singleton.mp member
    exact only _ versioned
  · obtain rfl := List.mem_singleton.mp member
    exact only _ versioned
  · cases member

theorem Orphaned.otherGateway {world : World M} (orphaned : Orphaned key world)
    {pathname : String} {data : Value}
    (leaves : (GatewayEvent.change pathname data).LeavesMissing key) {notification : Notification}
    (member : notification ∈ (world.store.changeFile pathname data).2) :
    OtherGateway key notification := by
  intro gateway version versioned
  have kind := kindOf_version member versioned
  rw [← kind] at gateway
  rcases versionOf_notified member versioned with ⟨_, rfl⟩ | found
  · exact leaves (kindKey_gateway gateway)
  · exact orphaned.missing version ((orphaned.tracks.listed _ _).mpr
      ⟨pathname, found, kindKey_gateway gateway⟩)

theorem Orphaned.change {world : World M} (orphaned : Orphaned key world) (held : Held start world)
    {pathname : String} {data : Value}
    (leaves : (GatewayEvent.change pathname data).LeavesMissing key) :
    Orphaned key (stateAfter (fileChanged pathname data) world) ∧
      Held start (stateAfter (fileChanged pathname data) world) := by
  let changed : World M := { world with store := (world.store.changeFile pathname data).1 }
  have unfolded : stateAfter (fileChanged pathname data) world =
      stateAfter (forM (world.store.changeFile pathname data).2 onResourceChange) changed := rfl
  have stored : (stateAfter (fileChanged pathname data) world).store = changed.store :=
    store_fileChanged pathname data world
  have holding : Holding start key changed :=
    ⟨⟨held.1, held.2, held.3, held.4, held.5, held.6, held.7⟩, orphaned.pending⟩
  have kept := (keeps_iff_stateAfter _ _).mp (keeps_forM fun notification member =>
    keeps_onResourceChange_holding (orphaned.otherGateway leaves member)) changed holding
  rw [← unfolded] at kept
  refine ⟨⟨?_, kept.pending, ?_⟩, kept.held⟩
  · rw [stored]
    exact orphaned.tracks.changeFile pathname data
  · rw [stored]
    intro gateway listed
    rcases (Store.mem_list_changeFile _ _ _ _ _).mp listed with ⟨_, keyed, rfl⟩ | older
    · exact leaves keyed
    · obtain ⟨other, _, found, keyed⟩ :=
        (orphaned.tracks.listed_withoutFile pathname "Gateway" gateway).mp older
      exact orphaned.missing gateway ((orphaned.tracks.listed _ _).mpr ⟨other, found, keyed⟩)

/-! Flushes. -/

theorem Orphaned.unsound {world : World M} (orphaned : Orphaned key world)
    (gatewayKind : key.kind = .str "Gateway") :
    ¬ ∀ other ∈ world.dirtyRouters, RouterSound runtime.toNumber endpoint world.store other := by
  intro sound
  obtain ⟨gateway, found, _⟩ := sound key orphaned.pending gatewayKind
  have named := List.find?_some found
  rw [Value.strictEq_comm, orphaned.missing gateway (List.mem_of_find?_eq_some found)] at named
  cases named

theorem keeps_runUpdaters_held {call : UpdaterCall} (early : call.Early) :
    Keeps (Held start) (runUpdaters runtime call) := by
  rw [keeps_iff_stateAfter]
  intro world held
  rw [stateAfter_runUpdaters]
  obtain ⟨made, recorded, all⟩ := held.calls
  refine ⟨held.1, held.2, held.3, held.4, held.5, held.6, made ++ [call], ?_, ?_⟩
  · rw [recorded, List.append_assoc]
  · intro other member
    rcases List.mem_append.mp member with older | newest
    · exact all other older
    · rw [List.mem_singleton.mp newest]
      exact early

theorem keeps_updateRouter_held (other : DirtyRouter) :
    Keeps (Held start) (updateRouter runtime (isLocalGateway endpoint) other) := by
  intro world held
  rw [Ends, updateRouter_run, ← Ends, ends_bind, ends_ofExcept]
  cases called : routerCall runtime.toNumber (isLocalGateway endpoint) world.store other with
  | error thrown => exact held
  | ok target =>
      cases target with
      | none => exact held
      | some call =>
          obtain ⟨routerKey, listener, routes, rfl, _⟩ :=
            (routerCall_eq_some _ _ _ _ _).mp called
          have early : (UpdaterCall.route routerKey listener routes).Early := trivial
          exact keeps_runUpdaters_held early world held

/-- A flush throws at the latest when it comes to the key. -/
theorem flush_orphaned {world : World M} (orphaned : Orphaned key world)
    (gatewayKind : key.kind = .str "Gateway") (held : Held start world) :
    ∃ thrown after, updateDirtyResources runtime (isLocalGateway endpoint) world =
        .error thrown after ∧ Orphaned key after ∧ Held start after := by
  have backends : Keeps (Held start) (forM world.dirtyBackends fun name =>
      runUpdaters runtime (.backend name)) :=
    keeps_forM fun name _ => keeps_runUpdaters_held trivial
  have routers (keys : List DirtyRouter) : Keeps (Held start)
      (forM keys (updateRouter runtime (isLocalGateway endpoint))) :=
    keeps_forM fun other _ => keeps_updateRouter_held other
  have ended := @ends_runAll M runtime world _ world.dirtyBackends .backend world (.refl world)
  have first := backends world held
  have unfolded : updateDirtyResources runtime (isLocalGateway endpoint) world =
      ((forM world.dirtyBackends fun name => runUpdaters runtime (.backend name)) >>=
        fun _ => do
          forM (← get).dirtyRouters (updateRouter runtime (isLocalGateway endpoint))
          afterRouters runtime (isLocalGateway endpoint)) world := rfl
  have flushing (after : World M) (now : Flushing world after) : Orphaned key after := by
    refine ⟨?_, ?_, ?_⟩
    · rw [now.store]
      exact orphaned.tracks
    · rw [now.dirtyRouters]
      exact orphaned.pending
    · rw [now.store]
      exact orphaned.missing
  rw [unfolded]
  simp only [Ends] at ended first
  cases ran : (forM world.dirtyBackends fun name => runUpdaters runtime (.backend name) :
      EStateM Thrown (World M) Unit) world with
  | error thrown after =>
      rw [ran] at ended first
      exact ⟨thrown, after, run_bind_error ran _, flushing after ended.1, first⟩
  | ok value middle =>
      rw [ran] at ended first
      have looped := @ends_forM _ _ _ _ _ _ middle.dirtyRouters _
        (@ends_updateRouter M runtime endpoint world) middle ended
      have second := routers middle.dirtyRouters middle first
      rw [run_bind_ok ran, run_get_bind]
      simp only [Ends] at looped second
      cases followed : forM middle.dirtyRouters
          (updateRouter runtime (isLocalGateway endpoint)) middle with
      | error thrown after =>
          rw [followed] at looped second
          refine ⟨thrown, after, ?_, flushing after looped.1, second⟩
          exact run_bind_error followed _
      | ok value after =>
          rw [followed] at looped
          rw [ended.dirtyRouters] at looped
          exact absurd looped.2 (orphaned.unsound gatewayKind)

/-! The run. -/

namespace GatewayEvent

/-- A flush throws, and nothing has been done since `start` but for Backends and routers. -/
structure Wedged (runtime : Runtime M) (endpoint : Endpoint) (start : World M) (world : World M)
    (event : GatewayEvent) : Prop where
  throws : event = .flush →
    ¬ Returns (updateDirtyResources runtime (isLocalGateway endpoint)) world
  held : Held start (event.step runtime (isLocalGateway endpoint) world)

end GatewayEvent

/-- Once a key waits for a gateway that is not in the store, over any run that does not bring the
gateway no flush completes, no listener is opened or closed, no policy is updated, and nothing
that waits is taken off the lists. -/
theorem orphan_wedges (runtime : Runtime M) (endpoint : Endpoint) (world : World M)
    (key : DirtyRouter) (gatewayKind : key.kind = .str "Gateway") (orphaned : Orphaned key world)
    (events : List GatewayEvent) (leaves : ∀ event ∈ events, event.LeavesMissing key) :
    EveryStep (GatewayEvent.step runtime (isLocalGateway endpoint))
      (GatewayEvent.Wedged runtime endpoint world) world events := by
  have stepped (before : World M) (event : GatewayEvent)
      (holds : Orphaned key before ∧ Held world before) (meets : event.LeavesMissing key) :
      (Orphaned key (event.step runtime (isLocalGateway endpoint) before) ∧
        Held world (event.step runtime (isLocalGateway endpoint) before)) ∧
        (event = .flush →
          ¬ Returns (updateDirtyResources runtime (isLocalGateway endpoint)) before) := by
    cases event with
    | change pathname data =>
        exact ⟨holds.1.change holds.2 meets, fun flush => by cases flush⟩
    | flush =>
        obtain ⟨thrown, after, ran, orphaned, held⟩ :=
          @flush_orphaned M runtime endpoint world key before holds.1 gatewayKind holds.2
        refine ⟨?_, fun _ returned => ?_⟩
        · rw [GatewayEvent.step, stateAfter, ran]
          exact ⟨orphaned, held⟩
        · rw [Returns, Ends, ran] at returned
          exact returned
  refine EveryStep.gives (everyStep_of_forall leaves)
    (fun before event holds meets => (stepped before event holds meets).1)
    (fun before event holds meets => ?_) ⟨orphaned, .refl world⟩
  have done := stepped before event holds meets
  exact ⟨done.2, done.1.2⟩

/-! A new gateway and a policy after a route that is attached to a missing one. -/

def orphanedWorld : World Unit :=
  stateAfter (fileChanged "route.json" (webRoute [orphanRef]))
    (World.initial (Store.init Table.empty.entries) ())

def laterFiles : List GatewayEvent :=
  [.change "gateway.json" webGateway, .flush,
    .change "policy.json" (.obj [("kind", .str "HealthCheckPolicy"),
      ("spec", .obj [("targetRefs", .arr [gatewayRef])])]), .flush]

theorem laterFiles_wedged :
    EveryStep (GatewayEvent.step quietRuntime (isLocalGateway thisEndpoint))
      (GatewayEvent.Wedged quietRuntime thisEndpoint orphanedWorld) orphanedWorld laterFiles := by
  refine orphan_wedges quietRuntime thisEndpoint orphanedWorld (refKey orphanRef) rfl
    ⟨?_, ?_, ?_⟩ laterFiles ?_
  · exact (loaded_init Table.empty).tracks.changeFile "route.json" (webRoute [orphanRef])
  · exact List.mem_singleton.mpr rfl
  · intro gateway listed
    cases listed
  · intro event member
    simp only [laterFiles, List.mem_cons, List.not_mem_nil, or_false] at member
    rcases member with rfl | rfl | rfl | rfl
    · exact fun _ => by decide
    · trivial
    · exact fun keyed => absurd keyed (by decide)
    · trivial

end Fgw
