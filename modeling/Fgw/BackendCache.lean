import Fgw.ModulesBuild

/-!
The cache of backends and their updaters.  A cached backend is registered under its name and
balances over the targets that the store had when it was last refreshed; a callback that a
flush has taken out is pending until it has run.
-/

namespace Fgw

variable {engine : ModuleEngine} {store : Store}

/-- The targets of the backend are those of the Backend of this name, if there is one. -/
def IsCurrent (store : Store) (name : String) (ref : Nat) (modules : Modules) : Prop :=
  ∀ backend resource, modules.backends[ref]? = some backend →
    store.find "Backend" name = some resource → getTargets (some resource) = .ok backend.targets

/-- The invariant of the cache, where the names that satisfy `dirty` wait for a flush. -/
structure Coherent (store : Store) (dirty : String → Prop) (pending : List Callback)
    (modules : Modules) : Prop where
  registered : ∀ name ref, .backend ref name ∈ modules.updaters.registered "Backend" name →
    modules.backendName ref = some name
  named : ∀ name ref, modules.backendCache.get? name = some ref →
    modules.backendName ref = some name
  refreshed : ∀ name ref, modules.backendCache.get? name = some ref →
    .backend ref name ∈ pending ∨
      (.backend ref name ∈ modules.updaters.registered "Backend" name ∧
        (¬ dirty name → IsCurrent store name ref modules))

theorem coherent_empty (store : Store) (dirty : String → Prop) :
    Coherent store dirty [] Modules.empty :=
  ⟨fun _ _ member => (List.not_mem_nil member).elim, fun _ _ cached => (nomatch cached),
    fun _ _ cached => (nomatch cached)⟩

theorem Coherent.pending {dirty : String → Prop} {pending fewer : List Callback}
    {modules : Modules} (coherent : Coherent store dirty pending modules)
    (same : ∀ ref name, .backend ref name ∈ pending → .backend ref name ∈ fewer) :
    Coherent store dirty fewer modules :=
  ⟨coherent.registered, coherent.named, fun name ref cached =>
    (coherent.refreshed name ref cached).imp_left (same ref name)⟩

theorem backend_mem_watchHealthCheck (name key : String) (ref other : Nat) (modules : Modules) :
    .backend other key ∈ (modules.watchHealthCheck name ref).updaters.registered "Backend" key ↔
      .backend other key ∈ modules.updaters.registered "Backend" key := by
  simp [mem_registered_watchHealthCheck]

theorem updateFrame_coherent (dirty : String → Prop) (pending : List Callback) (ref : Nat)
    (name : String) : UpdateFrame ref name (Coherent store dirty pending) where
  set _ _ coherent := ⟨coherent.registered, coherent.named, coherent.refreshed⟩
  cache _ _ coherent := ⟨coherent.registered, coherent.named, coherent.refreshed⟩
  watch modules coherent := by
    refine ⟨fun key other member => ?_, coherent.named, fun key other cached => ?_⟩
    · exact coherent.registered key other ((backend_mem_watchHealthCheck _ _ _ _ _).mp member)
    · exact (coherent.refreshed key other cached).imp_right fun ⟨registered, current⟩ =>
        ⟨(backend_mem_watchHealthCheck _ _ _ _ _).mpr registered, current⟩

/-! Backends that are made. -/

theorem backendName_addBackend (name : String) (targets : List Target) (modules : Modules)
    {ref : Nat} {other : String} (here : modules.backendName ref = some other) :
    (modules.addBackend name targets).backendName ref = some other := by
  obtain ⟨backend, found, _⟩ := Option.map_eq_some_iff.mp here
  have inside : ref < modules.backends.length := (List.getElem?_eq_some_iff.mp found).1
  rw [← here]
  simp only [Modules.backendName, Modules.addBackend, List.getElem?_append_left inside]

theorem Coherent.addBackend {dirty : String → Prop} {pending : List Callback} {modules : Modules}
    (coherent : Coherent store dirty pending modules) {name : String} {targets : List Target}
    (new : modules.backendCache.get? name = none)
    (read : getTargets (store.find "Backend" name) = .ok targets) :
    Coherent store dirty pending
      ((modules.addBackend name targets).watchBackend name modules.backends.length) := by
  have last : (modules.addBackend name targets).backends[modules.backends.length]? =
      some ⟨name, targets⟩ := by
    simp [Modules.addBackend]
  have cached (key : String) (ref : Nat)
      (found : (modules.addBackend name targets).backendCache.get? key = some ref) :
      (key = name ∧ ref = modules.backends.length) ∨
        (modules.backendCache.get? key = some ref) := by
    rw [Modules.addBackend, Table.get?_set] at found
    split at found
    · rename_i same
      exact Or.inl ⟨same.symm, (Option.some.inj found).symm⟩
    · exact Or.inr found
  refine ⟨fun key ref member => ?_, fun key ref found => ?_, fun key ref found => ?_⟩
  · rcases (mem_registered_watchBackend _ _ _ _ _ _).mp member with old | ⟨_, rfl, same⟩
    · exact backendName_addBackend name targets modules (coherent.registered key ref old)
    · obtain rfl : ref = modules.backends.length := (Callback.backend.inj same).1
      exact Option.map_eq_some_iff.mpr ⟨_, last, rfl⟩
  · rcases cached key ref found with ⟨rfl, rfl⟩ | old
    · exact Option.map_eq_some_iff.mpr ⟨_, last, rfl⟩
    · exact backendName_addBackend name targets modules (coherent.named key ref old)
  · rcases cached key ref found with ⟨rfl, rfl⟩ | old
    · refine Or.inr ⟨(mem_registered_watchBackend _ _ _ _ _ _).mpr (Or.inr ⟨rfl, rfl, rfl⟩),
        fun _ backend resource here stored => ?_⟩
      rw [stored] at read
      cases last.symm.trans here
      exact read
    · refine (coherent.refreshed key ref old).imp_right fun ⟨registered, current⟩ =>
        ⟨(mem_registered_watchBackend _ _ _ _ _ _).mpr (Or.inl registered),
          fun clean backend resource here stored => current clean backend resource ?_ stored⟩
      obtain ⟨other, there, _⟩ := Option.map_eq_some_iff.mp (coherent.named key ref old)
      rw [← here]
      exact (List.getElem?_append_left (List.getElem?_eq_some_iff.mp there).1).symm

/-! References that are resolved while a router is built. -/

/-- The reference is to the Backend of this name. -/
def BackendTarget.Names (target : BackendTarget) (name : String) : Prop :=
  target.backendRef.truthy = true ∧ refTarget target.backendRef = ("Backend", name)

/-- The references of the live routers, as they were resolved. -/
def liveTargets (routers : List Router) : List BackendTarget :=
  routers.flatMap fun router => router.router.elim [] BuiltRouter.targets

/-- The reference leads to the cached backend if the Backend is in the store, and to no backend
otherwise. -/
structure LinkedTo (store : Store) (dirty : String → Prop) (cache : Table Nat)
    (target : BackendTarget) : Prop where
  resolved : target.backend.isSome = target.backendResource.isSome
  cached : ∀ name ref, target.Names name → target.backend = some ref →
    cache.get? name = some ref
  present : ∀ name, target.Names name → ¬ dirty name →
    (store.find "Backend" name).isSome = target.backendResource.isSome

theorem LinkedTo.grow {dirty : String → Prop} {cache larger : Table Nat} {target : BackendTarget}
    (linked : LinkedTo store dirty cache target)
    (grows : ∀ name ref, cache.get? name = some ref → larger.get? name = some ref) :
    LinkedTo store dirty larger target :=
  ⟨linked.resolved, fun name ref names leads => grows name ref (linked.cached name ref names leads),
    linked.present⟩

/-- The invariant of the modules, with the references that are resolved but not yet live. -/
structure Linked (store : Store) (dirty : String → Prop) (made : List BackendTarget)
    (modules : Modules) : Prop where
  coherent : Coherent store dirty [] modules
  targets : ∀ target, target ∈ liveTargets modules.routers ∨ target ∈ made →
    LinkedTo store dirty modules.backendCache target

theorem Linked.forget {dirty : String → Prop} {made : List BackendTarget} {modules : Modules}
    (linked : Linked store dirty made modules) : Linked store dirty [] modules :=
  ⟨linked.coherent, fun target member => linked.targets target (Or.inl (by simpa using member))⟩

theorem healthFrame_linked (dirty : String → Prop) (made : List BackendTarget) (name : String)
    (ref : Nat) : HealthFrame fun modules => Linked store dirty made modules ∧
      modules.backendCache.get? name = some ref where
  new _ _ kept := ⟨⟨⟨kept.1.coherent.registered, kept.1.coherent.named,
    kept.1.coherent.refreshed⟩, kept.1.targets⟩, kept.2⟩
  update other key := by
    have frame := @updateFrame_coherent store dirty [] other key
    exact ⟨fun _ _ kept => ⟨⟨frame.set _ _ kept.1.coherent, kept.1.targets⟩, kept.2⟩,
      fun _ _ kept => ⟨⟨frame.cache _ _ kept.1.coherent, kept.1.targets⟩, kept.2⟩,
      fun _ kept => ⟨⟨frame.watch _ kept.1.coherent, kept.1.targets⟩, kept.2⟩⟩

theorem ends_makeBackend (dirty : String → Prop) (made : List BackendTarget) (name : String)
    (modules : Modules) (linked : Linked store dirty made modules) :
    Ends (makeBackend store name) modules
      (fun ref after => Linked store dirty made after ∧ after.backendCache.get? name = some ref)
      fun _ => Linked store dirty made := by
  unfold makeBackend
  rw [ends_bind, ends_get]
  cases found : modules.backendCache.get? name with
  | some ref => exact ⟨linked, found⟩
  | none =>
  refine ends_ofExcept_bind linked fun policies _ => ends_ofExcept_bind linked fun targets read => ?_
  rw [ends_bind, ends_get, ends_bind, ends_modify, ends_bind, ends_modify]
  have grows (other : String) (ref : Nat) (old : modules.backendCache.get? other = some ref) :
      (modules.addBackend name targets).backendCache.get? other = some ref := by
    have different : name ≠ other := by
      rintro rfl
      rw [found] at old
      cases old
    exact (Table.get?_set_ne _ _ different).trans old
  exact ⟨⟨linked.coherent.addBackend found read,
    fun target member => (linked.targets target member).grow grows⟩, Table.get?_set_self _ _ _⟩

/-- Whatever the store answers for a name has that name. -/
def FindsNamed (store : Store) : Prop :=
  ∀ name resource, store.find "Backend" name = some resource →
    (nameOf resource.data).toKey = name

theorem ends_makeBackendTarget (sound : FindsNamed store) (made : List BackendTarget)
    (gateway : Option Resource) (protocol : String) (backendRef : Value) (modules : Modules)
    (linked : Linked store (fun _ => False) made modules) :
    Ends (makeBackendTarget engine store gateway protocol backendRef) modules
      (fun target => Linked store (fun _ => False) (made ++ [target]))
      fun _ => Linked store (fun _ => False) made := by
  have resolves {name : String} (names : backendRef.truthy = true ∧
      refTarget backendRef = ("Backend", name)) :
      findBackendResource store backendRef = store.find "Backend" name := by
    rw [findBackendResource, if_pos names.1, names.2]
  have extend {target : BackendTarget} {after : Modules}
      (kept : Linked store (fun _ => False) made after)
      (new : LinkedTo store (fun _ => False) after.backendCache target) :
      Linked store (fun _ => False) (made ++ [target]) after := by
    refine ⟨kept.coherent, fun other member => ?_⟩
    rw [List.mem_append, List.mem_singleton, ← or_assoc] at member
    rcases member with old | rfl
    · exact kept.targets other old
    · exact new
  unfold makeBackendTarget
  dsimp only
  refine ends_ofExcept_bind linked fun ruleProtocol _ => ?_
  cases found : findBackendResource store backendRef with
  | none =>
      refine extend linked ⟨rfl, fun _ _ _ leads => (nomatch leads), fun name names _ => ?_⟩
      rw [← resolves names, found]
  | some resource =>
      dsimp only
      rw [ends_bind]
      refine (ends_makeBalancer gateway ruleProtocol backendRef resource rfl
        (fun _ kept => kept) (fun _ _ kept => kept.1)
        (fun before kept => ends_makeBackend _ made _ before kept)
        (fun ref before kept => ?_) modules linked).mono (fun ref after kept => ?_)
        fun _ _ kept => kept
      · exact (keeps_makeHealthCheck (healthFrame_linked _ made _ ref) _ before kept).mono
          (fun _ _ still => still) fun _ _ still => still.1
      · refine extend kept.1 ⟨rfl, fun name other names leads => ?_, fun name names _ => ?_⟩
        · cases leads
          rw [resolves names] at found
          rw [← sound name resource found]
          exact kept.2
        · rw [← resolves names, found]

/-! Routers. -/

theorem mem_liveTargets_set {routers : List Router} {ref : Nat} {router : Router}
    {target : BackendTarget} (member : target ∈ liveTargets (routers.set ref router)) :
    target ∈ liveTargets routers ∨ target ∈ router.router.elim [] BuiltRouter.targets := by
  obtain ⟨other, inside, live⟩ := List.mem_flatMap.mp member
  rcases List.mem_or_eq_of_mem_set inside with old | rfl
  · exact Or.inl (List.mem_flatMap.mpr ⟨other, old, live⟩)
  · exact Or.inr live

theorem Coherent.watchRouter {dirty : String → Prop} {pending : List Callback}
    {modules : Modules} (coherent : Coherent store dirty pending modules) (routerKey : String)
    (ref : Nat) : Coherent store dirty pending (modules.watchRouter routerKey ref) := by
  have same (name : String) : (modules.watchRouter routerKey ref).updaters.registered "Backend"
      name = modules.updaters.registered "Backend" name := by
    simp [Modules.watchRouter, Updaters.registered_setUpdater]
  refine ⟨fun name other member => ?_, coherent.named, fun name other cached => ?_⟩
  · rw [same] at member
    exact coherent.registered name other member
  · rw [same]
    exact coherent.refreshed name other cached

theorem keeps_routerUpdate (sound : FindsNamed store) (ref : Nat) (routerKey : String)
    (listener : Value) (routeResources : List Resource) :
    Keeps (Linked store (fun _ => False) [])
      (routerUpdate engine store ref routerKey listener routeResources) := by
  intro modules linked
  unfold routerUpdate
  rw [ends_bind, ends_get]
  cases here : modules.routers[ref]? with
  | none => exact linked
  | some router =>
  dsimp only
  rw [ends_bind]
  have target (made : List BackendTarget) (gateway : Option Resource) (protocol : String)
      (backendRef : Value) (before : Modules) (kept : Linked store (fun _ => False) made before) :
      Ends (makeBackendTarget engine store gateway protocol backendRef) before
        (fun one => Linked store (fun _ => False) (made ++ [one]))
        fun _ => Linked store (fun _ => False) [] :=
    (ends_makeBackendTarget sound made gateway protocol backendRef before kept).mono
      (fun _ _ still => still) fun _ _ still => still.forget
  refine ((ends_makeRouter (fun _ _ kept => kept.forget) target router.kind router.gateway listener
    routeResources modules linked).and (ends_makeRouter_frame _ _ _ _ modules)).mono
      (fun built after ended => ?_) fun _ _ still => still.1
  obtain ⟨kept, frame, _⟩ := ended
  rw [ends_bind, ends_modify, ends_modify]
  have live (target : BackendTarget) (held : target ∈ (router.install built).router.elim []
      BuiltRouter.targets) : target ∈ liveTargets after.routers ∨ target ∈ built.targets := by
    by_cases fixed : router.Fixed
    · rw [Router.install_fixed built fixed] at held
      exact Or.inl (List.mem_flatMap.mpr ⟨router, frame.routers ▸ List.mem_of_getElem? here, held⟩)
    · rw [Router.install_free built fixed] at held
      exact Or.inr held
  have set : Linked store (fun _ => False) [] (after.setRouter ref (router.install built)) :=
    ⟨⟨kept.1.coherent.registered, kept.1.coherent.named, kept.1.coherent.refreshed⟩,
      fun target member => kept.1.targets target
        ((mem_liveTargets_set (member.resolve_right List.not_mem_nil)).elim Or.inl (live target))⟩
  exact ⟨set.coherent.watchRouter _ _, set.targets⟩

theorem keeps_makeRoute (sound : FindsNamed store) (kind : RouteModule) (routerKey : String)
    (listener : Value) (routeResources : List Resource) (gateway : Resource) :
    Keeps (Linked store (fun _ => False) [])
      (makeRoute engine kind routerKey listener routeResources gateway store) := by
  unfold makeRoute
  refine (keeps_get _).bind fun before => (keeps_modify fun modules linked => ?_).bind fun _ =>
    keeps_routerUpdate sound _ _ _ _
  refine ⟨⟨linked.coherent.registered, linked.coherent.named, linked.coherent.refreshed⟩,
    fun target member => linked.targets target ?_⟩
  simpa [liveTargets] using member

/-! Callbacks that are run. -/

/-- What the callback reads of the Backend of its name can be read. -/
def Readable (engine : ModuleEngine) (store : Store) : Callback → Prop
  | .router _ _ => True
  | .backend _ name => ∀ resource, store.find "Backend" name = some resource →
      ∃ targets, getTargets (some resource) = .ok targets
  | .healthCheck _ name => Checkable engine store name

/-- What the pending callbacks of a Backend leave as it is. -/
structure CallbackFrame (store : Store) (pending : List Callback) (before after : Modules) :
    Prop where
  routers : after.routers = before.routers
  backends : ∀ ref, after.backendName ref = before.backendName ref
  cache : ∀ name, store.find "Backend" name ≠ none →
    after.backendCache.get? name = before.backendCache.get? name
  registered : ∀ name, ∀ cb ∈ after.updaters.registered "Backend" name,
    cb ∈ before.updaters.registered "Backend" name ∨ cb ∈ pending

theorem CallbackFrame.refl (store : Store) (pending : List Callback) (modules : Modules) :
    CallbackFrame store pending modules modules :=
  ⟨rfl, fun _ => rfl, fun _ _ => rfl, fun _ _ => Or.inl⟩

theorem CallbackFrame.trans {cb : Callback} {rest : List Callback} {first second third : Modules}
    (left : CallbackFrame store [cb] first second)
    (right : CallbackFrame store rest second third) :
    CallbackFrame store (cb :: rest) first third := by
  refine ⟨right.routers.trans left.routers,
    fun ref => (right.backends ref).trans (left.backends ref),
    fun name present => (right.cache name present).trans (left.cache name present),
    fun name other member => ?_⟩
  rcases right.registered name other member with middle | later
  · exact (left.registered name other middle).imp_right fun same =>
      List.mem_cons.mpr (Or.inl (List.mem_singleton.mp same))
  · exact Or.inr (List.mem_cons_of_mem cb later)

variable {dirty : String → Prop} {rest : List Callback} {modules : Modules} {name : String}
  {ref : Nat}

theorem Coherent.refresh (coherent : Coherent store dirty (.backend ref name :: rest) modules)
    (made : modules.backendName ref = some name) {resource : Resource}
    (found : store.find "Backend" name = some resource) {targets : List Target}
    (read : getTargets (some resource) = .ok targets) :
    Coherent store dirty rest ((modules.provision ref targets).watchBackend name ref) := by
  refine ⟨fun key other member => ?_, fun key other cached => ?_, fun key other cached => ?_⟩
  · rcases (mem_registered_watchBackend _ _ _ _ _ _).mp member with old | ⟨_, rfl, same⟩
    · exact (backendName_provision _ _ _ _).trans (coherent.registered key other old)
    · obtain rfl : other = ref := (Callback.backend.inj same).1
      exact (backendName_provision _ _ _ _).trans made
  · exact (backendName_provision _ _ _ _).trans (coherent.named key other cached)
  · by_cases this : other = ref
    · subst other
      obtain rfl : name = key := Option.some.inj (made.symm.trans (coherent.named key ref cached))
      refine Or.inr ⟨(mem_registered_watchBackend _ _ _ _ _ _).mpr (Or.inr ⟨rfl, rfl, rfl⟩),
        fun _ backend stored here present => ?_⟩
      obtain rfl : resource = stored := Option.some.inj (found.symm.trans present)
      simp only [Modules.watchBackend, Modules.provision, List.getElem?_modify] at here
      obtain ⟨old, _, rfl⟩ := Option.map_eq_some_iff.mp here
      simpa using read
    · rcases coherent.refreshed key other cached with waiting | ⟨registered, current⟩
      · exact Or.inl (by simpa [this] using waiting)
      · refine Or.inr ⟨(mem_registered_watchBackend _ _ _ _ _ _).mpr (Or.inl registered),
          fun clean backend stored here present => current clean backend stored ?_ present⟩
        simpa [Modules.watchBackend, Modules.provision, List.getElem?_modify, Ne.symm this]
          using here

theorem Coherent.evict (coherent : Coherent store dirty (.backend ref name :: rest) modules) :
    Coherent store dirty rest
      { modules with backendCache := modules.backendCache.erase name } := by
  have cached {key : String} {other : Nat}
      (still : (modules.backendCache.erase name).get? key = some other) :
      name ≠ key ∧ modules.backendCache.get? key = some other := by
    rw [Table.get?_erase] at still
    split at still
    · cases still
    · rename_i different
      exact ⟨different, still⟩
  refine ⟨coherent.registered, fun key other still => coherent.named key other (cached still).2,
    fun key other still => ?_⟩
  obtain ⟨different, old⟩ := cached still
  refine (coherent.refreshed key other old).imp_left fun waiting => ?_
  rcases List.mem_cons.mp waiting with same | later
  · exact (different (Callback.backend.inj same).2.symm).elim
  · exact later

theorem ends_backendCallback (coherent : Coherent store dirty (.backend ref name :: rest) modules)
    (made : modules.backendName ref = some name)
    (readable : Readable engine store (.backend ref name)) :
    Ends (backendCallback store ref name) modules
      (fun _ after => Coherent store dirty rest after ∧
        CallbackFrame store [.backend ref name] modules after) fun _ _ => False := by
  unfold backendCallback
  cases found : store.find "Backend" name with
  | none =>
      refine ⟨coherent.evict, rfl, fun _ => rfl, fun key present => ?_, fun _ _ => Or.inl⟩
      refine Table.get?_erase_ne _ ?_
      rintro rfl
      exact present found
  | some resource =>
      obtain ⟨targets, read⟩ := readable resource found
      dsimp only
      rw [read]
      refine ⟨coherent.refresh made found read, rfl, fun _ => backendName_provision _ _ _ _,
        fun _ _ => rfl, fun key cb member => ?_⟩
      exact ((mem_registered_watchBackend _ _ _ _ _ _).mp member).imp_right fun same =>
        List.mem_singleton.mpr same.2.2

theorem ends_runCallback {cb : Callback} (coherent : Coherent store dirty (cb :: rest) modules)
    (home : ("Backend", name) ∈ cb.homes)
    (made : ∀ ref, cb = .backend ref name → modules.backendName ref = some name)
    (readable : Readable engine store cb) (call : UpdaterCall) :
    Ends (runCallback engine store call cb) modules
      (fun _ after => Coherent store dirty rest after ∧ CallbackFrame store [cb] modules after)
      fun _ _ => False := by
  cases cb with
  | router ref routerKey => simp [Callback.homes] at home
  | backend ref backendName =>
      obtain rfl : name = backendName := home_unique home (backend_home ref backendName)
      exact ends_backendCallback coherent (made ref rfl) readable
  | healthCheck ref backendName =>
      have frame : UpdateFrame ref backendName fun after => Coherent store dirty rest after ∧
          CallbackFrame store [.healthCheck ref backendName] modules after := by
        have inner := @updateFrame_coherent store dirty rest ref backendName
        refine ⟨fun change after kept => ⟨inner.set _ _ kept.1, kept.2.routers, kept.2.backends,
            kept.2.cache, kept.2.registered⟩,
          fun after cache kept => ⟨inner.cache _ _ kept.1, kept.2.routers, kept.2.backends,
            kept.2.cache, kept.2.registered⟩,
          fun after kept => ⟨inner.watch _ kept.1, kept.2.routers, kept.2.backends,
            kept.2.cache, fun key other member => ?_⟩⟩
        rcases (mem_registered_watchHealthCheck _ _ _ _ _).mp member with old | ⟨_, same⟩
        · exact kept.2.registered key other old
        · exact Or.inr (List.mem_singleton.mpr same)
      have waiting : Coherent store dirty rest modules :=
        coherent.pending fun other key member => by simpa using member
      exact (ends_healthCheckUpdate frame modules ⟨waiting, CallbackFrame.refl store _ modules⟩).mono
        (fun _ _ kept => kept) fun _ _ stuck => stuck.2 readable

theorem ends_callbacks (call : UpdaterCall) (pending : List Callback)
    (coherent : Coherent store dirty pending modules)
    (home : ∀ cb ∈ pending, ("Backend", name) ∈ cb.homes)
    (made : ∀ ref, .backend ref name ∈ pending → modules.backendName ref = some name)
    (readable : ∀ cb ∈ pending, Readable engine store cb) :
    Ends (forM pending (runCallback engine store call)) modules
      (fun _ after => Coherent store dirty [] after ∧ CallbackFrame store pending modules after)
      fun _ _ => False := by
  induction pending generalizing modules with
  | nil => exact ⟨coherent, CallbackFrame.refl store [] modules⟩
  | cons cb rest ih =>
      rw [List.forM_cons, ends_bind]
      refine (ends_runCallback coherent (home cb List.mem_cons_self)
        (fun ref same => made ref (same ▸ List.mem_cons_self)) (readable cb List.mem_cons_self)
        call).mono (fun _ after kept => ?_) fun _ _ impossible => impossible
      have later := ih kept.1 (fun other member => home other (List.mem_cons_of_mem cb member))
        (fun ref member => (kept.2.backends ref).trans (made ref (List.mem_cons_of_mem cb member)))
        fun other member => readable other (List.mem_cons_of_mem cb member)
      exact later.mono (fun _ _ still => ⟨still.1, kept.2.trans still.2⟩)
        fun _ _ impossible => impossible

end Fgw
