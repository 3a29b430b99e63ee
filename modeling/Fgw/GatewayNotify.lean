import Fgw.GatewayCore

/-!
When a change notification gets through.  A notification throws on its way over the
optional fields of the changed resource, or for a backend policy of any route, and the
throw unwinds the watch callback.  The conditions below say exactly when it does not.
-/

namespace Fgw

/-- A list of references that `addDirtyRouters` can walk. -/
def RefsSound (refs : Value) : Prop :=
  ∀ items, refs = .arr items → ∀ ref ∈ items, ref.nullish = false

/-- A list of references that `filter` can be called on. -/
def TargetsSound (refs : Value) : Prop :=
  ∃ items, refs = .arr items ∧ ∀ ref ∈ items, ref.nullish = false

/-- A value that `?.method?.(…)` can visit with an `each` that does not throw: an object
must not have a field of the method's name. -/
def Walkable (value : Value) (method : String) (each : Value → Prop) : Prop :=
  match value with
  | .arr items => ∀ item ∈ items, each item
  | .obj fields => ((Value.obj fields).opt method).nullish = true
  | _ => True

def RuleSound (rule : Value) : Prop :=
  rule.nullish = false ∧
    Walkable (rule.opt "backendRefs") "map" fun ref => ref.nullish = false

/-- A rule of the route has a backend reference with this name. -/
def NamesBackend (route : Value) (name : String) : Prop :=
  ∃ rules, (route.opt "spec").opt "rules" = .arr rules ∧ ∃ rule ∈ rules,
    ∃ refs, rule.opt "backendRefs" = .arr refs ∧ ∃ ref ∈ refs, (ref.opt "name").toKey = name

def TargetsBackend (targets : Value) (name : String) : Prop :=
  ∃ refs, targets = .arr refs ∧ ∃ ref ∈ refs,
    (ref.opt "kind").strictEq (.str "Backend") = true ∧ (ref.opt "name").toKey = name

/-- A route that a policy notification can walk over. -/
def RouteSound (targets : Value) (route : Value) : Prop :=
  Walkable ((route.opt "spec").opt "rules") "flatMap" RuleSound ∧
    ((∃ name, NamesBackend route name ∧ TargetsBackend targets name) →
      RefsSound ((route.opt "spec").opt "parentRefs"))

/-- A backend policy that names its targets, over routes that can be walked. -/
def BackendPolicySound (store : Store) (policy : Resource) : Prop :=
  TargetsSound ((policy.data.opt "spec").opt "targetRefs") ∧
    ∀ route ∈ allRouteResources store,
      RouteSound ((policy.data.opt "spec").opt "targetRefs") route.data

/-- What both versions of a changed resource must satisfy. -/
def VersionSound (store : Store) (role : ResourceRole) (resource : Resource) : Prop :=
  match role with
  | .route => RefsSound ((resource.data.opt "spec").opt "parentRefs")
  | .backendPolicy => BackendPolicySound store resource
  | .healthCheckPolicy =>
      Walkable ((resource.data.opt "spec").opt "targetRefs") "forEach" fun ref =>
        ref.nullish = false
  | _ => True

def NotificationSound (store : Store) (notification : Notification) : Prop :=
  ∀ version ∈ notification.versions,
    VersionSound store (roleOf notification.kind) version

section Conditions

variable {M : Type}

theorem get_eq_ok_iff (value : Value) (name : String) (result : Value) :
    value.get name = .ok result ↔ value.nullish = false ∧ value.opt name = result := by
  by_cases nullish : value.nullish <;> simp [Value.get, nullish]

theorem get_ok_iff (value : Value) (name : String) :
    (∃ result, value.get name = .ok result) ↔ value.nullish = false := by
  simp [get_eq_ok_iff]

theorem targetedBackends_ok_iff (refs : Value) :
    (∃ backends, targetedBackends refs = .ok backends) ↔ TargetsSound refs := by
  simp only [targetedBackends, exists_ok_bind, TargetsSound, pure, Except.pure]
  cases refs <;> simp [Value.items, exists_ok_bind, exists_ok_mapM, get_ok_iff]

theorem optItems_ok_iff {β : Type} (value : Value) (method : String) (each : Value → Prop)
    (next : Option (List Value) → Except Thrown β)
    (visited : ∀ items, (∃ result, next (some items) = .ok result) ↔ ∀ item ∈ items, each item)
    (skipped : ∃ result, next none = .ok result) :
    (∃ result, (value.optItems method >>= next) = .ok result) ↔ Walkable value method each := by
  cases value with
  | arr items => simpa [Value.optItems, Walkable, bind, Except.bind] using visited items
  | obj fields =>
      by_cases missing : ((Value.obj fields).opt method).nullish <;>
        simp [Value.optItems, Walkable, missing, bind, Except.bind, skipped]
  | _ => simpa [Value.optItems, Walkable, bind, Except.bind] using skipped

theorem ruleBackendNames_ok_iff (rule : Value) :
    (∃ names, ruleBackendNames rule = .ok names) ↔ RuleSound rule := by
  unfold ruleBackendNames RuleSound
  rw [exists_ok_bind]
  simp only [get_eq_ok_iff, and_assoc, exists_and_left, exists_eq_left']
  refine and_congr_right fun _ =>
    optItems_ok_iff _ "map" (fun ref => ref.nullish = false) _ (fun items => ?_) ⟨[], rfl⟩
  simp only [exists_ok_mapM, exists_ok_map, get_ok_iff]

theorem routeBackendNames_ok_iff (route : Value) :
    (∃ names, routeBackendNames route = .ok names) ↔
      Walkable ((route.opt "spec").opt "rules") "flatMap" RuleSound := by
  unfold routeBackendNames
  refine optItems_ok_iff _ "flatMap" RuleSound _ ?_ ⟨[], rfl⟩
  intro rules
  simp only [exists_ok_map, exists_ok_mapM, ruleBackendNames_ok_iff]

/-- What a notification leaves as it is. -/
structure Undisturbed (before after : World M) : Prop where
  store : after.store = before.store
  currentListeners : after.currentListeners = before.currentListeners
  watching : after.watching = before.watching
  ports : after.ports = before.ports
  updaterCalls : after.updaterCalls = before.updaterCalls
  modules : after.modules = before.modules

theorem Undisturbed.refl (world : World M) : Undisturbed world world :=
  ⟨rfl, rfl, rfl, rfl, rfl, rfl⟩

variable (start : World M)

theorem undisturbed_addDirtyRouter (key : DirtyRouter) (before : World M)
    (same : Undisturbed start before) : Undisturbed start (addDirtyRouter key before) := by
  unfold addDirtyRouter
  split
  · exact same
  · exact ⟨same.1, same.2, same.3, same.4, same.5, same.6⟩

theorem undisturbed_addDirtyPolicyKey (key : DirtyPolicy) (before : World M)
    (same : Undisturbed start before) : Undisturbed start (addDirtyPolicyKey key before) := by
  unfold addDirtyPolicyKey
  split
  · exact same
  · exact ⟨same.1, same.2, same.3, same.4, same.5, same.6⟩

theorem undisturbed_addDirtyGateway (name : Value) (before : World M)
    (same : Undisturbed start before) : Undisturbed start (addDirtyGateway name before) := by
  unfold addDirtyGateway
  split
  · exact same
  · exact ⟨same.1, same.2, same.3, same.4, same.5, same.6⟩

theorem undisturbed_addDirtyBackend (name : Value) (before : World M)
    (same : Undisturbed start before) : Undisturbed start (addDirtyBackend name before) := by
  unfold addDirtyBackend
  split
  · exact same
  · exact ⟨same.1, same.2, same.3, same.4, same.5, same.6⟩

theorem undisturbed_addNames (notification : Notification) (add : Value → World M → World M)
    (kept : ∀ name before, Undisturbed start before → Undisturbed start (add name before))
    (before : World M) (same : Undisturbed start before) :
    Undisturbed start (addNames notification add before) := by
  have one (name : Value) (world : World M) (sameWorld : Undisturbed start world) :
      Undisturbed start (addName add name world) := by
    unfold addName
    split
    · exact kept name world sameWorld
    · exact sameWorld
  exact one _ _ (one _ _ same)

theorem keeps_addDirtyRouters {inv : World M → Prop}
    (added : ∀ key before, inv before → inv (addDirtyRouter key before)) (refs : Value) :
    Keeps inv (addDirtyRouters refs) := by
  unfold addDirtyRouters
  split
  · exact keeps_forM fun ref _ => (keeps_ofExcept _ _).bind fun key => keeps_modify (added key)
  · exact keeps_pure _ _

theorem keeps_addDirtyRoute {inv : World M → Prop}
    (added : ∀ key before, inv before → inv (addDirtyRouter key before))
    (dirtyBackendNames : List String) (route : Resource) :
    Keeps inv (addDirtyRoute dirtyBackendNames route) := by
  refine (keeps_ofExcept _ _).bind fun names => ?_
  split
  · exact keeps_addDirtyRouters added _
  · exact keeps_pure _ _

theorem keeps_addDirtyRoutersByPolicy {inv : World M → Prop}
    (added : ∀ key before, inv before → inv (addDirtyRouter key before)) (refs : Value) :
    Keeps inv (addDirtyRoutersByPolicy refs) :=
  (keeps_ofExcept _ _).bind fun backends => (keeps_get _).bind fun _ =>
    keeps_forM fun route _ => keeps_addDirtyRoute added backends route

theorem keeps_addDirtyPolicy (policy : Resource) :
    Keeps (Undisturbed start) (addDirtyPolicy policy : EStateM Thrown (World M) Unit) := by
  refine (keeps_ofExcept _ _).bind fun found => ?_
  split
  · exact keeps_forM fun ref _ => (keeps_ofExcept _ _).bind fun refKind =>
      keeps_modify (undisturbed_addDirtyPolicyKey start _)
  · exact keeps_pure _ _

theorem keeps_markDirty (notification : Notification) :
    Keeps (Undisturbed start) (markDirty notification) := by
  unfold markDirty
  split
  · exact keeps_modify (undisturbed_addNames start notification _
      (undisturbed_addDirtyGateway start))
  · exact keeps_forM fun version _ =>
      keeps_addDirtyRouters (undisturbed_addDirtyRouter start) _
  · exact keeps_forM fun version _ =>
      keeps_addDirtyRoutersByPolicy (undisturbed_addDirtyRouter start) _
  · exact keeps_forM fun version _ => keeps_addDirtyPolicy start _
  · exact keeps_modify (undisturbed_addNames start notification _
      (undisturbed_addDirtyBackend start))
  · exact keeps_modify fun before same => ⟨same.1, same.2, same.3, same.4, same.5, same.6⟩

theorem keeps_onResourceChange (notification : Notification) :
    Keeps (Undisturbed start) (onResourceChange notification) :=
  (keeps_markDirty start notification).bind fun _ =>
    keeps_modify fun _ same => ⟨same.1, same.2, same.3, same.4, same.5, same.6⟩

theorem dirtyRouterOf_ok_iff (ref : Value) :
    (∃ key, dirtyRouterOf ref = .ok key) ↔ ref.nullish = false := by
  unfold dirtyRouterOf
  rw [exists_ok_bind, ← get_ok_iff ref "kind"]
  simp [pure, Except.pure]

theorem returns_addDirtyRouters_iff (refs : Value) (world : World M) :
    Returns (addDirtyRouters refs) world ↔ RefsSound refs := by
  cases refs with
  | arr items =>
      have loop : Returns (addDirtyRouters (.arr items)) world ↔
          ∀ ref ∈ items, ref.nullish = false := by
        refine returns_forM_iff items _ (fun _ => True) _ (fun ref => ?_) (fun ref state _ => ?_)
          world trivial
        · exact (keeps_ofExcept _ _).bind fun key => keeps_modify fun _ _ => trivial
        · unfold addDirtyRouterRef
          rw [returns_ofExcept_bind, ← dirtyRouterOf_ok_iff]
          simp [returns_modify]
      simpa [RefsSound] using loop
  | _ => exact iff_of_true (returns_pure _ _) (by simp [RefsSound])

theorem ruleBackendNames_mem {rule : Value} {names : List String}
    (found : ruleBackendNames rule = .ok names) (name : String) :
    name ∈ names ↔
      ∃ refs, rule.opt "backendRefs" = .arr refs ∧ ∃ ref ∈ refs, (ref.opt "name").toKey = name := by
  obtain ⟨sound, walked⟩ := (ruleBackendNames_ok_iff rule).mp ⟨names, found⟩
  have read : rule.get "backendRefs" = .ok (rule.opt "backendRefs") :=
    (get_eq_ok_iff _ _ _).mpr ⟨sound, rfl⟩
  simp only [ruleBackendNames, read, bind, Except.bind] at found
  cases refs : rule.opt "backendRefs" with
  | arr items =>
      rw [refs] at walked found
      rw [mem_of_mapM_ok found]
      constructor
      · rintro ⟨ref, member, named⟩
        refine ⟨items, rfl, ref, member, ?_⟩
        have present : ref.nullish = false := walked ref member
        simpa [Value.get, present, Functor.map, Except.map] using named
      · rintro ⟨_, ⟨⟩, ref, member, named⟩
        refine ⟨ref, member, ?_⟩
        have present : ref.nullish = false := walked ref member
        simp [Value.get, present, named, Functor.map, Except.map]
  | obj fields =>
      rw [refs] at walked found
      simp only [Walkable] at walked
      simp only [Value.optItems, walked, if_true, pure, Except.pure, Except.ok.injEq] at found
      simp [← found]
  | _ =>
      rw [refs] at found
      cases found
      simp

theorem routeBackendNames_mem {route : Value} {names : List String}
    (found : routeBackendNames route = .ok names) (name : String) :
    name ∈ names ↔ NamesBackend route name := by
  have walked := (routeBackendNames_ok_iff route).mp ⟨names, found⟩
  unfold routeBackendNames at found
  unfold NamesBackend
  cases rules : (route.opt "spec").opt "rules" with
  | arr items =>
      rw [rules] at walked found
      simp only [Value.optItems, bind, Except.bind] at found
      cases visited : items.mapM ruleBackendNames with
      | error thrown => simp [visited, Functor.map, Except.map] at found
      | ok lists =>
          simp only [visited, Functor.map, Except.map, Except.ok.injEq] at found
          subst found
          simp only [List.mem_flatten, mem_of_mapM_ok visited]
          constructor
          · rintro ⟨list, ⟨rule, member, read⟩, inside⟩
            exact ⟨items, rfl, rule, member, (ruleBackendNames_mem read name).mp inside⟩
          · rintro ⟨_, ⟨⟩, rule, member, named⟩
            obtain ⟨list, read⟩ := (ruleBackendNames_ok_iff rule).mpr (walked rule member)
            exact ⟨list, ⟨rule, member, read⟩, (ruleBackendNames_mem read name).mpr named⟩
  | obj fields =>
      rw [rules] at walked found
      simp only [Walkable] at walked
      simp only [Value.optItems, walked, if_true, bind, Except.bind, pure, Except.pure,
        Except.ok.injEq] at found
      simp [← found]
  | _ =>
      rw [rules] at found
      cases found
      simp

theorem targetedBackends_mem {refs : Value} {backends : List String}
    (found : targetedBackends refs = .ok backends) (name : String) :
    name ∈ backends ↔ TargetsBackend refs name := by
  obtain ⟨items, rfl, present⟩ := (targetedBackends_ok_iff refs).mp ⟨backends, found⟩
  simp only [targetedBackends, Value.items, bind, Except.bind] at found
  split at found
  · cases found
  · rename_i targets visited
    cases found
    unfold TargetsBackend
    simp only [List.mem_filterMap, id, mem_of_mapM_ok visited, Value.arr.injEq, exists_eq_left']
    constructor
    · rintro ⟨_, ⟨ref, member, read⟩, rfl⟩
      simp only [Value.get, present ref member, Bool.false_eq_true, if_false, pure, Except.pure,
        Except.ok.injEq] at read
      split at read
      · rename_i isBackend
        exact ⟨ref, member, isBackend, by simpa using read⟩
      · cases read
    · rintro ⟨ref, member, isBackend, named⟩
      exact ⟨some name, ⟨ref, member,
        by simp [Value.get, present ref member, isBackend, named, pure, Except.pure]⟩, rfl⟩

theorem returns_addDirtyRoute_iff {refs : Value} {backends : List String}
    (targeted : targetedBackends refs = .ok backends) (route : Resource) (world : World M) :
    Returns (addDirtyRoute backends route) world ↔ RouteSound refs route.data := by
  unfold addDirtyRoute RouteSound
  rw [returns_ofExcept_bind, ← routeBackendNames_ok_iff]
  have hit {names : List String} (found : routeBackendNames route.data = .ok names) :
      (names.any fun name => backends.contains name) = true ↔
        ∃ name, NamesBackend route.data name ∧ TargetsBackend refs name := by
    simp [routeBackendNames_mem found, targetedBackends_mem targeted]
  constructor
  · rintro ⟨names, found, returned⟩
    refine ⟨⟨names, found⟩, fun named => ?_⟩
    rw [if_pos ((hit found).mpr named)] at returned
    exact (returns_addDirtyRouters_iff _ world).mp returned
  · rintro ⟨⟨names, found⟩, rest⟩
    refine ⟨names, found, ?_⟩
    split
    · rename_i named
      exact (returns_addDirtyRouters_iff _ world).mpr (rest ((hit found).mp named))
    · exact returns_pure _ _

theorem returns_addDirtyRoutersByPolicy_iff (refs : Value) (world : World M) :
    Returns (addDirtyRoutersByPolicy refs) world ↔
      TargetsSound refs ∧ ∀ route ∈ allRouteResources world.store, RouteSound refs route.data := by
  unfold addDirtyRoutersByPolicy
  rw [returns_ofExcept_bind, ← targetedBackends_ok_iff]
  have walk {backends : List String} (targeted : targetedBackends refs = .ok backends) :
      Returns (forM (allRouteResources world.store) (addDirtyRoute backends)) world ↔
        ∀ route ∈ allRouteResources world.store, RouteSound refs route.data :=
    returns_forM_iff _ _ (Undisturbed world) _
      (keeps_addDirtyRoute (undisturbed_addDirtyRouter world) backends)
      (fun route state _ => returns_addDirtyRoute_iff targeted route state) world
      (Undisturbed.refl world)
  constructor
  · rintro ⟨backends, targeted, returned⟩
    exact ⟨⟨backends, targeted⟩, (walk targeted).mp returned⟩
  · rintro ⟨⟨backends, targeted⟩, sound⟩
    exact ⟨backends, targeted, (walk targeted).mpr sound⟩

theorem returns_addDirtyPolicy_iff (policy : Resource) (world : World M) :
    Returns (addDirtyPolicy policy) world ↔
      Walkable ((policy.data.opt "spec").opt "targetRefs") "forEach" fun ref =>
        ref.nullish = false := by
  have walk (items : List Value) : Returns (forM items (addDirtyPolicyRef policy)) world ↔
      ∀ ref ∈ items, ref.nullish = false := by
    refine returns_forM_iff items _ (fun _ => True) _ (fun ref => ?_) (fun ref state _ => ?_)
      world trivial
    · exact (keeps_ofExcept _ _).bind fun key => keeps_modify fun _ _ => trivial
    · unfold addDirtyPolicyRef
      rw [returns_ofExcept_bind, ← get_ok_iff ref "kind"]
      simp [returns_modify]
  unfold addDirtyPolicy
  rw [returns_ofExcept_bind]
  cases (policy.data.opt "spec").opt "targetRefs" with
  | arr items => simpa [Value.optItems, Walkable] using walk items
  | obj fields =>
      by_cases missing : ((Value.obj fields).opt "forEach").nullish <;>
        simp [Value.optItems, Walkable, missing, returns_pure]
  | _ => simp [Value.optItems, Walkable, returns_pure]

/-- A notification gets through exactly when the versions it carries can be walked. -/
theorem returns_onResourceChange_iff (notification : Notification) (world : World M) :
    Returns (onResourceChange notification) world ↔
      NotificationSound world.store notification := by
  unfold onResourceChange NotificationSound
  rw [returns_bind_modify]
  unfold markDirty
  cases role : roleOf notification.kind with
  | gateway => simp [VersionSound, returns_modify]
  | route =>
      exact returns_forM_iff _ _ (fun _ => True) _
        (fun version before _ => (keeps_addDirtyRouters (undisturbed_addDirtyRouter before) _ before
          (Undisturbed.refl before)).mono (fun _ _ _ => trivial) (fun _ _ _ => trivial))
        (fun version state _ => returns_addDirtyRouters_iff _ state) world trivial
  | backendPolicy =>
      refine returns_forM_iff _ _ (Undisturbed world) _
        (fun version => keeps_addDirtyRoutersByPolicy (undisturbed_addDirtyRouter world) _)
        (fun version state same => ?_)
        world (Undisturbed.refl world)
      rw [returns_addDirtyRoutersByPolicy_iff, same.store]
      rfl
  | healthCheckPolicy =>
      exact returns_forM_iff _ _ (Undisturbed world) _ (keeps_addDirtyPolicy world)
        (fun version state _ => returns_addDirtyPolicy_iff version state) world
        (Undisturbed.refl world)
  | backend => simp [VersionSound, returns_modify]
  | other => simp [VersionSound, returns_modify]

/-- Every notification of a batch of changed files gets through, each over the store as it
is when the notification is sent. -/
def BatchSound : Store → List (String × Value) → Prop
  | _, [] => True
  | store, (pathname, data) :: rest =>
      (∀ notification ∈ (store.changeFile pathname data).2,
        NotificationSound (store.changeFile pathname data).1 notification) ∧
      BatchSound (store.changeFile pathname data).1 rest

theorem ends_fileChanged (pathname : String) (data : Value) (world : World M) :
    Ends (fileChanged pathname data) world
      (fun _ after => after.store = (world.store.changeFile pathname data).1)
      (fun _ _ => True) := by
  simp only [fileChanged, ends_bind, ends_get, ends_modify]
  let changed : World M := { world with store := (world.store.changeFile pathname data).1 }
  exact (keeps_forM (fun notification _ => keeps_onResourceChange changed notification) changed
    (Undisturbed.refl changed)).mono (fun _ _ same => same.store) (fun _ _ _ => trivial)

theorem store_fileChanged (pathname : String) (data : Value) (world : World M) :
    (stateAfter (fileChanged pathname data) world).store =
      (world.store.changeFile pathname data).1 := by
  let changed : World M := { world with store := (world.store.changeFile pathname data).1 }
  have unfolded : stateAfter (fileChanged pathname data) world =
      stateAfter (forM (world.store.changeFile pathname data).2 onResourceChange) changed := rfl
  rw [unfolded]
  exact ((keeps_iff_stateAfter _ _).mp (keeps_forM fun notification _ =>
    keeps_onResourceChange changed notification) changed (Undisturbed.refl changed)).store

theorem returns_fileChanged_iff (pathname : String) (data : Value) (world : World M) :
    Returns (fileChanged pathname data) world ↔
      ∀ notification ∈ (world.store.changeFile pathname data).2,
        NotificationSound (world.store.changeFile pathname data).1 notification := by
  let changed : World M := { world with store := (world.store.changeFile pathname data).1 }
  have loop : Returns (forM (world.store.changeFile pathname data).2 onResourceChange) changed ↔
      ∀ notification ∈ (world.store.changeFile pathname data).2,
        NotificationSound changed.store notification := by
    refine returns_forM_iff _ _ (Undisturbed changed) _ (keeps_onResourceChange changed) ?_ changed
      (Undisturbed.refl changed)
    intro notification state same
    rw [returns_onResourceChange_iff, same.store]
  exact loop

def changeFiles (store : Store) (batch : List (String × Value)) : Store :=
  batch.foldl (fun current file => (current.changeFile file.1 file.2).1) store

theorem ends_files_iff (batch : List (String × Value)) (world : World M) :
    Ends (forM batch fun file => fileChanged file.1 file.2) world
      (fun _ after => after.store = changeFiles world.store batch) (fun _ _ => False) ↔
      BatchSound world.store batch := by
  induction batch generalizing world with
  | nil => simp [BatchSound, changeFiles]
  | cons file rest ih =>
      have first := ends_fileChanged file.1 file.2 world
      have decided := returns_fileChanged_iff file.1 file.2 world
      rw [List.forM_cons, ends_bind]
      simp only [BatchSound]
      rw [← decided]
      simp only [Returns, Ends] at first ⊢
      cases run : fileChanged file.1 file.2 world with
      | ok value after =>
          rw [run] at first
          have later := ih after
          simp only [Ends, first] at later
          simpa [changeFiles] using later
      | error thrown after => simp

/-- The watch callback goes through its whole batch and watches again exactly when every
notification of the batch can be walked. -/
theorem watchFired_rearms_iff (batch : List (String × Value)) (world : World M) :
    Ends (watchFired batch) world
      (fun _ after => after.watching = true ∧ after.store = changeFiles world.store batch)
      (fun _ _ => False) ↔ BatchSound world.store batch := by
  rw [← ends_files_iff batch ({ world with watching := false } : World M)]
  simp only [watchFired, ends_bind, ends_modify, true_and]

/-! A policy without a spec, as in an empty document that names only its kind. -/

def bareLBPolicy : Value := .obj [("kind", .str "BackendLBPolicy")]

theorem bareLBPolicy_stops_watching :
    ¬ ∀ (batch : List (String × Value)) (world : World Unit),
      Ends (watchFired batch) world
        (fun _ after => after.watching = true ∧ after.store = changeFiles world.store batch)
        (fun _ _ => False) := by
  intro claimed
  exact claimed [("policy.json", bareLBPolicy)]
    ⟨Store.empty, [], [], [], [], [], [], false, true, fun _ => none, [], ()⟩

end Conditions

end Fgw
