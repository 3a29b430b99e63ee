import Fgw.GatewayFlush
import Fgw.GatewayPorts
import Fgw.Library.Debounce

/-!
When the flush runs.  Each notification puts it off until nothing has changed for five seconds,
and meanwhile the changes collect in the dirty lists.
-/

namespace Fgw

/-- `new Timeout(5)`, in milliseconds. -/
def flushDelay : Nat := 5000

/-- `flushed` has the resources that the last completed flush worked from; nothing reads it. -/
structure Watcher (M : Type) where
  world : World M
  flushed : Table KindMap

variable {M : Type}

namespace Watcher

/-- The batch of one call of the watch callback, and whether it has started the timer again. -/
def filesChanged (watcher : Watcher M) (batch : List (String × Value)) : Watcher M × Bool :=
  if watcher.world.watching then
    let world := stateAfter (watchFired batch) { watcher.world with dirtyTimeout := false }
    (⟨world, watcher.flushed⟩, world.dirtyTimeout)
  else (watcher, false)

def flush (runtime : Runtime M) (gatewayFilter : GatewayFilter) (watcher : Watcher M) :
    Watcher M :=
  match updateDirtyResources runtime gatewayFilter watcher.world with
  | .ok _ world => ⟨world, world.store.resourceMap⟩
  | .error _ world => ⟨world, watcher.flushed⟩

def step (runtime : Runtime M) (gatewayFilter : GatewayFilter) :
    Debounced (Watcher M) → TimedEvent (List (String × Value)) → Debounced (Watcher M) :=
  Debounced.step flushDelay filesChanged (flush runtime gatewayFilter)

end Watcher

/-- The notifications that a batch of changed files should send, file after file. -/
def notices : Store → List (String × Value) → List Notification
  | _, [] => []
  | store, (pathname, data) :: rest =>
      (store.changeFile pathname data).2 ++ notices (store.changeFile pathname data).1 rest

/-- A watcher beside what it has been sent: `arrived` is what all files that have come make of the
store, and `sinceChange` has the ticks since the last batch that changed a resource. -/
structure TimedRun (M : Type) where
  now : Debounced (Watcher M)
  arrived : Store
  sinceChange : Option Nat

namespace TimedRun

def start (world : World M) : TimedRun M :=
  ⟨.start ⟨world, world.store.resourceMap⟩, world.store, none⟩

def step (runtime : Runtime M) (gatewayFilter : GatewayFilter) (run : TimedRun M)
    (event : TimedEvent (List (String × Value))) : TimedRun M where
  now := Watcher.step runtime gatewayFilter run.now event
  arrived := match event with
    | .act batch => changeFiles run.arrived batch
    | .tick => run.arrived
  sinceChange := match event with
    | .act batch => if (notices run.arrived batch).isEmpty then run.sinceChange else some 0
    | .tick => run.sinceChange.map (· + 1)

/-- The watcher has taken in all that has come, its flush is due when it should be, and if none is
due a completed flush has gone over everything. -/
structure InTime (run : TimedRun M) : Prop where
  watching : run.now.state.world.watching = true
  store : run.now.state.world.store = run.arrived
  due : run.now.countdown = remaining flushDelay run.sinceChange
  flushed : run.now.countdown = none →
    Settled run.now.state.world ∧ run.now.state.flushed = run.arrived.resourceMap

/-- Every notification gets through, and so does every flush. -/
def MeetsSound (runtime : Runtime M) (gatewayFilter : GatewayFilter) (run : TimedRun M) :
    TimedEvent (List (String × Value)) → Prop
  | .act batch => BatchSound run.arrived batch
  | .tick => run.now.Fires (.tick : TimedEvent (List (String × Value))) →
      Returns (updateDirtyResources runtime gatewayFilter) run.now.state.world

end TimedRun

/-! A batch of changed files. -/

theorem keeps_markDirty_timer (timer : Bool) (notification : Notification) :
    Keeps (fun world : World M => world.dirtyTimeout = timer) (markDirty notification) := by
  have router (key : DirtyRouter) (world : World M) (same : world.dirtyTimeout = timer) :
      (addDirtyRouter key world).dirtyTimeout = timer := by
    unfold addDirtyRouter
    split <;> exact same
  have names (add : Value → World M → World M) (added : ∀ name (world : World M),
      world.dirtyTimeout = timer → (add name world).dirtyTimeout = timer) (world : World M)
      (same : world.dirtyTimeout = timer) :
      (addNames notification add world).dirtyTimeout = timer := by
    have one (name : Value) (before : World M) (same : before.dirtyTimeout = timer) :
        (addName add name before).dirtyTimeout = timer := by
      unfold addName
      split
      · exact added name before same
      · exact same
    exact one _ _ (one _ _ same)
  unfold markDirty
  split
  · refine keeps_modify (names _ fun name world same => ?_)
    unfold addDirtyGateway
    split <;> exact same
  · exact keeps_forM fun version _ => keeps_addDirtyRouters router _
  · exact keeps_forM fun version _ => keeps_addDirtyRoutersByPolicy router _
  · refine keeps_forM fun version _ => (keeps_ofExcept _ _).bind fun found => ?_
    split
    · refine keeps_forM fun ref _ => (keeps_ofExcept _ _).bind fun refKind =>
        keeps_modify fun world same => ?_
      unfold addDirtyPolicyKey
      split <;> exact same
    · exact keeps_pure _ _
  · refine keeps_modify (names _ fun name world same => ?_)
    unfold addDirtyBackend
    split <;> exact same
  · exact keeps_modify fun world same => same

theorem ends_onResourceChange (notification : Notification) (world : World M) :
    Ends (onResourceChange notification) world
      (fun _ after => after.store = world.store ∧ after.dirtyTimeout = true ∧
        NotificationSound world.store notification)
      (fun _ after => after.store = world.store ∧ after.dirtyTimeout = world.dirtyTimeout ∧
        ¬ NotificationSound world.store notification) := by
  have decided := returns_onResourceChange_iff notification world
  have kept := keeps_markDirty world notification world (.refl world)
  have timer := keeps_markDirty_timer world.dirtyTimeout notification world rfl
  simp only [onResourceChange, Returns, ends_bind, ends_modify] at decided ⊢
  simp only [Ends] at decided kept timer ⊢
  cases ran : markDirty notification world with
  | ok value after =>
      rw [ran] at decided kept
      exact ⟨kept.store, trivial, decided.mp trivial⟩
  | error thrown after =>
      rw [ran] at decided kept timer
      exact ⟨kept.store, timer, decided.mpr⟩

theorem fileChanged_run (file : String × Value) (world : World M) :
    fileChanged file.1 file.2 world =
      forM (world.store.changeFile file.1 file.2).2 onResourceChange
        ({ world with store := (world.store.changeFile file.1 file.2).1 } : World M) := rfl

theorem keeps_fileChanged_timed (file : String × Value) :
    Keeps (fun world : World M => world.dirtyTimeout = true) (fileChanged file.1 file.2) := by
  intro world asked
  rw [Ends, fileChanged_run, ← Ends]
  refine keeps_forM (fun notification _ => ?_) _ asked
  exact (keeps_markDirty_timer true notification).bind fun _ => keeps_modify fun _ _ => rfl

theorem changeFile_quiet {store : Store} {pathname : String} {data : Value}
    (quiet : (store.changeFile pathname data).2 = []) :
    (store.changeFile pathname data).1.resourceMap = store.resourceMap := by
  unfold Store.changeFile Store.changeNotifications at quiet
  unfold Store.changeFile
  by_cases present : data.truthy = true
  · simp only [present, if_true] at quiet
    split at quiet
    · split at quiet
      · cases quiet
      · split at quiet <;> cases quiet
    · cases quiet
    · rename_i missing _
      cases missing
    · rename_i missing _
      cases missing
  · simp only [present, Bool.false_eq_true, if_false] at quiet ⊢
    cases old : store.files.get? pathname with
    | none => rfl
    | some resource =>
        rw [old] at quiet
        cases quiet

/-- A file that sends a notification starts the timer, if it gets through. -/
theorem ends_fileChanged_timed (file : String × Value) (world : World M)
    (loud : (world.store.changeFile file.1 file.2).2 ≠ []) :
    Ends (fileChanged file.1 file.2) world (fun _ after => after.dirtyTimeout = true)
      fun _ _ => True := by
  obtain ⟨notification, rest, notices⟩ := List.exists_cons_of_ne_nil loud
  rw [Ends, fileChanged_run, ← Ends, notices, List.forM_cons, ends_bind]
  refine (ends_onResourceChange notification _).mono (fun _ asked got => ?_) fun _ _ _ => trivial
  have timed : Keeps (fun world : World M => world.dirtyTimeout = true)
      (forM rest onResourceChange) := keeps_forM fun later _ =>
    (keeps_markDirty_timer true later).bind fun _ => keeps_modify fun _ _ => rfl
  exact (timed asked got.2.1).mono (fun _ _ kept => kept) fun _ _ _ => trivial

theorem quiet_batch (batch : List (String × Value)) (world : World M)
    (quiet : notices world.store batch = []) :
    forM batch (fun file => fileChanged file.1 file.2) world =
        .ok () { world with store := changeFiles world.store batch } ∧
      (changeFiles world.store batch).resourceMap = world.store.resourceMap := by
  induction batch generalizing world with
  | nil => exact ⟨rfl, rfl⟩
  | cons file rest ih =>
      obtain ⟨silent, later⟩ := List.append_eq_nil_iff.mp quiet
      let next : World M := { world with store := (world.store.changeFile file.1 file.2).1 }
      have ran : fileChanged file.1 file.2 world = .ok () next := by
        rw [fileChanged_run, silent]
        rfl
      obtain ⟨through, kept⟩ := ih next later
      refine ⟨?_, kept.trans (changeFile_quiet silent)⟩
      rw [List.forM_cons, run_bind_ok ran, through]
      rfl

theorem ends_batch_timed (batch : List (String × Value)) (world : World M)
    (loud : notices world.store batch ≠ []) :
    Ends (forM batch fun file => fileChanged file.1 file.2) world
      (fun _ after => after.dirtyTimeout = true) fun _ _ => True := by
  induction batch generalizing world with
  | nil => exact absurd rfl loud
  | cons file rest ih =>
      rw [List.forM_cons, ends_bind]
      by_cases silent : (world.store.changeFile file.1 file.2).2 = []
      · let next : World M := { world with store := (world.store.changeFile file.1 file.2).1 }
        have ran : fileChanged file.1 file.2 world = .ok () next := by
          rw [fileChanged_run, silent]
          rfl
        rw [Ends, ran]
        refine ih next fun quiet => loud ?_
        exact List.append_eq_nil_iff.mpr ⟨silent, quiet⟩
      · refine (ends_fileChanged_timed file world silent).mono (fun _ after asked => ?_)
          fun _ _ _ => trivial
        have timed : Keeps (fun world : World M => world.dirtyTimeout = true)
            (forM rest fun file => fileChanged file.1 file.2) :=
          keeps_forM fun later _ => keeps_fileChanged_timed later
        exact (timed after asked).mono (fun _ _ kept => kept) fun _ _ _ => trivial

theorem keeps_fileChanged_watching (watching : Bool) (file : String × Value) :
    Keeps (fun world : World M => world.watching = watching) (fileChanged file.1 file.2) := by
  intro world same
  let changed : World M := { world with store := (world.store.changeFile file.1 file.2).1 }
  have kept : Keeps (Undisturbed changed)
      (forM (world.store.changeFile file.1 file.2).2 onResourceChange) :=
    keeps_forM fun notification _ => keeps_onResourceChange changed notification
  rw [Ends, fileChanged_run, ← Ends]
  exact (kept changed (.refl changed)).mono (fun _ _ after => after.watching.trans same)
    fun _ _ after => after.watching.trans same

theorem ends_files_store (batch : List (String × Value)) (world : World M) :
    Ends (forM batch fun file => fileChanged file.1 file.2) world
      (fun _ after => after.store = changeFiles world.store batch) fun _ _ => True := by
  induction batch generalizing world with
  | nil => rfl
  | cons file rest ih =>
      rw [List.forM_cons, ends_bind]
      refine (ends_fileChanged file.1 file.2 world).mono (fun _ after first => ?_) fun _ _ _ => trivial
      refine (ih after).mono (fun _ _ same => same.trans ?_) fun _ _ _ => trivial
      rw [first]
      rfl

/-- What a batch comes to: all of it is taken in, or the watcher stops. -/
inductive BatchEnds (watcher : Watcher M) (batch : List (String × Value))
    (changed : Watcher M × Bool) : Prop
  | taken (sound : BatchSound watcher.world.store batch)
      (watching : changed.1.world.watching = true)
      (store : changed.1.world.store = changeFiles watcher.world.store batch)
      (flushed : changed.1.flushed = watcher.flushed)
      (timer : changed.2 = !(notices watcher.world.store batch).isEmpty)
      (quiet : notices watcher.world.store batch = [] →
        changed.1.world.store.resourceMap = watcher.world.store.resourceMap ∧
          (Settled watcher.world → Settled changed.1.world))
  | stopped (unsound : ¬ BatchSound watcher.world.store batch)
      (watching : changed.1.world.watching = false)

theorem filesChanged_ends {watcher : Watcher M} (watching : watcher.world.watching = true)
    (batch : List (String × Value)) : BatchEnds watcher batch (watcher.filesChanged batch) := by
  let begun : World M := { watcher.world with dirtyTimeout := false, watching := false }
  let ran : EStateM Thrown (World M) Unit :=
    (forM batch fun file => fileChanged file.1 file.2) >>= fun _ =>
      modify fun world => { world with watching := true }
  have changed : watcher.filesChanged batch =
      (⟨stateAfter ran begun, watcher.flushed⟩, (stateAfter ran begun).dirtyTimeout) :=
    if_pos watching
  have decided := ends_files_iff batch begun
  rw [changed]
  cases visited : forM batch (fun file => fileChanged file.1 file.2) begun with
  | error thrown after =>
      have kept : Keeps (fun world : World M => world.watching = false)
          (forM batch fun file => fileChanged file.1 file.2) :=
        keeps_forM fun file _ => keeps_fileChanged_watching false file
      have still := Ends.error (kept begun rfl) visited
      rw [show stateAfter ran begun = _ from stateAfter_bind_error visited _]
      refine .stopped (fun sound => ?_) still
      have through := decided.mpr sound
      rw [Ends, visited] at through
      exact through
  | ok value after =>
      have stored := (ends_files_store batch begun).ok visited
      have sound : BatchSound watcher.world.store batch := by
        refine decided.mp ?_
        rw [Ends, visited]
        exact stored
      rw [show stateAfter ran begun = _ from stateAfter_bind_ok visited _]
      by_cases silent : notices watcher.world.store batch = []
      · obtain ⟨through, kept⟩ := quiet_batch batch begun silent
        cases visited.symm.trans through
        refine .taken sound rfl rfl rfl ?_ fun _ => ⟨kept, fun settled =>
          ⟨settled.1, settled.2, settled.3, settled.4, settled.5⟩⟩
        rw [silent]
        rfl
      · refine .taken sound rfl stored rfl ?_ fun quiet => absurd quiet silent
        rw [List.isEmpty_eq_false_iff.mpr silent]
        have asked := (ends_batch_timed batch begun silent).ok visited
        exact asked

/-! A flush. -/

variable {runtime : Runtime M} {gatewayFilter : GatewayFilter}

theorem keeps_runUpdaters_flushing (start : World M) (call : UpdaterCall) :
    Keeps (Flushing start) (runUpdaters runtime call) := by
  intro before now
  exact (ends_runUpdaters call before now).mono (fun _ _ kept => kept) fun _ _ raised => raised.1

theorem ends_flush (world : World M) :
    Ends (updateDirtyResources runtime gatewayFilter) world
      (fun _ after => Settled after ∧ after.store = world.store)
      (fun _ after => Flushing world after) := by
  have runs {Item : Type} (items : List Item) (call : Item → UpdaterCall) :
      Keeps (Flushing world) (forM items fun item => runUpdaters runtime (call item)) :=
    keeps_forM fun item _ => keeps_runUpdaters_flushing world (call item)
  have routers (keys : List DirtyRouter) :
      Keeps (Flushing world) (forM keys (updateRouter runtime gatewayFilter)) :=
    keeps_forM fun key _ => keeps_updateRouter (keeps_runUpdaters_flushing world) key
  unfold updateDirtyResources
  simp only [ends_bind, ends_get, ends_modify]
  refine (runs _ _ world (.refl world)).mono (fun _ _ now => ?_) fun _ _ thrown => thrown
  refine (routers _ _ now).mono (fun _ _ now => ?_) fun _ _ thrown => thrown
  refine (runs _ _ _ now).mono (fun _ _ now => ?_) fun _ _ thrown => thrown
  refine (keeps_updateGateways (flushing_frame world) _ now).mono (fun _ _ now => ?_)
    fun _ _ thrown => thrown
  refine (runs _ _ _ now).mono (fun _ _ now => ?_) fun _ _ thrown => thrown
  exact ⟨⟨rfl, rfl, rfl, rfl, rfl⟩, now.store⟩

theorem returns_flush_settled {world : World M} (settled : Settled world) :
    Returns (updateDirtyResources runtime gatewayFilter) world := by
  have unfolded : updateDirtyResources runtime gatewayFilter world =
      ((forM world.dirtyBackends fun name => runUpdaters runtime (.backend name)) >>=
        fun _ => do
          forM (← get).dirtyRouters (updateRouter runtime gatewayFilter)
          afterRouters runtime gatewayFilter) world := rfl
  rw [returns_iff, unfolded, settled.dirtyBackends, List.forM_nil, run_pure_bind, run_get_bind,
    settled.dirtyRouters, List.forM_nil, run_pure_bind,
    afterRouters_idle settled.dirtyPolicies settled.dirtyGateways settled.dirtyResources]
  exact ⟨_, _, rfl⟩

theorem keeps_flush_watching (watching : Bool) :
    Keeps (fun world : World M => world.watching = watching)
      (updateDirtyResources runtime gatewayFilter) := by
  have run (call : UpdaterCall) :
      Keeps (fun world : World M => world.watching = watching) (runUpdaters runtime call) := by
    intro world same
    rw [Ends, runUpdaters_run]
    cases runtime.runUpdaters call world.store world.modules <;> exact same
  have frame : GatewayFrame fun world : World M => world.watching = watching :=
    ⟨fun _ _ same => same, fun _ _ _ same => same, fun _ _ same => same⟩
  unfold updateDirtyResources
  refine (keeps_get _).bind fun _ => (keeps_forM fun name _ => run _).bind fun _ => ?_
  refine (keeps_get _).bind fun _ => (keeps_forM fun key _ => keeps_updateRouter run key).bind
    fun _ => ?_
  refine (keeps_get _).bind fun _ => (keeps_forM fun key _ => run _).bind fun _ => ?_
  refine (keeps_updateGateways frame).bind fun _ => (keeps_get _).bind fun _ => ?_
  exact (keeps_forM fun key _ => run _).bind fun _ => keeps_modify fun _ same => same

theorem flush_settled_iff (watcher : Watcher M) :
    (Settled (watcher.flush runtime gatewayFilter).world ∧
        (watcher.flush runtime gatewayFilter).flushed =
          (watcher.flush runtime gatewayFilter).world.store.resourceMap) ↔
      Returns (updateDirtyResources runtime gatewayFilter) watcher.world := by
  have ended := @ends_flush M runtime gatewayFilter watcher.world
  rw [returns_iff]
  rw [Ends] at ended
  unfold Watcher.flush
  cases ran : updateDirtyResources runtime gatewayFilter watcher.world with
  | ok value after =>
      rw [ran] at ended
      exact iff_of_true ⟨ended.1, rfl⟩ ⟨value, after, rfl⟩
  | error thrown after =>
      rw [ran] at ended
      refine iff_of_false (fun caughtUp => ?_) (by rintro ⟨_, _, ⟨⟩⟩)
      -- The dirty lists are as they were, and a flush of empty lists cannot throw.
      have settled : Settled watcher.world :=
        ⟨ended.dirtyGateways ▸ caughtUp.1.dirtyGateways,
          ended.dirtyRouters ▸ caughtUp.1.dirtyRouters,
          ended.dirtyBackends ▸ caughtUp.1.dirtyBackends,
          ended.dirtyPolicies ▸ caughtUp.1.dirtyPolicies,
          ended.dirtyResources ▸ caughtUp.1.dirtyResources⟩
      obtain ⟨_, _, returned⟩ := (returns_iff _ _).mp
        (@returns_flush_settled M runtime gatewayFilter watcher.world settled)
      rw [ran] at returned
      cases returned

theorem flush_frame (watcher : Watcher M) :
    (watcher.flush runtime gatewayFilter).world.watching = watcher.world.watching ∧
      (watcher.flush runtime gatewayFilter).world.store = watcher.world.store := by
  have ended := @ends_flush M runtime gatewayFilter watcher.world
  have watching := @keeps_flush_watching M runtime gatewayFilter watcher.world.watching
    watcher.world rfl
  rw [Ends] at ended watching
  unfold Watcher.flush
  cases ran : updateDirtyResources runtime gatewayFilter watcher.world with
  | ok value after =>
      rw [ran] at ended watching
      exact ⟨watching, ended.2⟩
  | error thrown after =>
      rw [ran] at ended watching
      exact ⟨watching, ended.store⟩

/-! The run. -/

namespace TimedRun

theorem act_inTime_iff {run : TimedRun M} (inTime : run.InTime) (batch : List (String × Value)) :
    (run.step runtime gatewayFilter (.act batch)).InTime ↔ BatchSound run.arrived batch := by
  have same := inTime.store
  have due := @Debounced.act_due _ _ flushDelay Watcher.filesChanged
    (Watcher.flush runtime gatewayFilter) run.now run.sinceChange (by decide) inTime.due batch
  rw [step, Watcher.step]
  cases filesChanged_ends inTime.watching batch with
  | stopped unsound watching =>
      rw [same] at unsound
      refine iff_of_false (fun after => ?_) unsound
      have still := after.watching
      rw [Debounced.step_act] at still
      split at still <;> simp [watching] at still
  | taken sound watching store flushed timer quiet =>
      rw [same] at sound store timer quiet
      refine iff_of_true ?_ sound
      rw [Debounced.step_act] at due ⊢
      by_cases silent : notices run.arrived batch = []
      · obtain ⟨kept, settled⟩ := quiet silent
        have unasked : ¬ (run.now.state.filesChanged batch).2 = true := by simp [timer, silent]
        rw [if_neg unasked, if_neg unasked] at due
        rw [if_neg unasked]
        refine ⟨watching, store, ?_, fun idle => ?_⟩
        · simpa [silent] using due
        · obtain ⟨before, resources⟩ := inTime.flushed idle
          exact ⟨settled before, by rw [flushed, resources, ← kept, store]⟩
      · have asked : (run.now.state.filesChanged batch).2 = true := by simp [timer, silent]
        rw [if_pos asked, if_pos asked] at due
        rw [if_pos asked]
        refine ⟨watching, store, ?_, by rintro ⟨⟩⟩
        simpa [silent] using due

theorem tick_inTime_iff {run : TimedRun M} (inTime : run.InTime) :
    (run.step runtime gatewayFilter .tick).InTime ↔ run.MeetsSound runtime gatewayFilter .tick := by
  have due := @Debounced.tick_due _ _ flushDelay Watcher.filesChanged
    (Watcher.flush runtime gatewayFilter) run.now run.sinceChange inTime.due
  rw [step, Watcher.step]
  cases running : run.now.countdown with
  | none =>
      rw [Debounced.step_idle running] at due ⊢
      refine iff_of_true ⟨inTime.watching, inTime.store, due, inTime.flushed⟩ ?_
      rintro ⟨_, left, _, waits⟩
      rw [running] at waits
      cases waits
  | some left =>
      by_cases last : left ≤ 1
      · obtain ⟨watching, store⟩ := @flush_frame M runtime gatewayFilter run.now.state
        have settled := @flush_settled_iff M runtime gatewayFilter run.now.state
        rw [store, inTime.store] at settled
        rw [Debounced.step_fires running last] at due ⊢
        refine ⟨fun after _ => settled.mp (after.flushed rfl), fun meets => ?_⟩
        exact ⟨watching.trans inTime.watching, store.trans inTime.store, due,
          fun _ => settled.mpr (meets ⟨rfl, left, last, running⟩)⟩
      · rw [Debounced.step_waits running last] at due ⊢
        refine iff_of_true ⟨inTime.watching, inTime.store, due, by rintro ⟨⟩⟩ ?_
        rintro ⟨_, other, least, waits⟩
        rw [running] at waits
        cases waits
        exact absurd least last

theorem step_inTime_iff (run : TimedRun M) (event : TimedEvent (List (String × Value)))
    (inTime : run.InTime) :
    (run.step runtime gatewayFilter event).InTime ↔ run.MeetsSound runtime gatewayFilter event := by
  cases event with
  | act batch => exact act_inTime_iff inTime batch
  | tick => exact tick_inTime_iff inTime

end TimedRun

theorem settled_started (initial : Table Value) (modules : M) :
    Settled (World.started runtime gatewayFilter initial modules) ∧
      Tracks (World.started runtime gatewayFilter initial modules).store := by
  have frame : GatewayFrame fun world : World M => Settled world ∧ Tracks world.store :=
    ⟨fun _ _ idle => ⟨⟨idle.1.1, idle.1.2, idle.1.3, idle.1.4, idle.1.5⟩, idle.2⟩,
      fun _ _ _ idle => ⟨⟨idle.1.1, idle.1.2, idle.1.3, idle.1.4, idle.1.5⟩, idle.2⟩,
      fun _ _ idle => ⟨⟨idle.1.1, idle.1.2, idle.1.3, idle.1.4, idle.1.5⟩, idle.2⟩⟩
  have kept : Keeps (fun world : World M => Settled world ∧ Tracks world.store)
      (startGateways runtime gatewayFilter) :=
    keeps_startGateways frame.listener fun _ _ idle =>
      ⟨⟨idle.1.1, idle.1.2, idle.1.3, idle.1.4, idle.1.5⟩, idle.2⟩
  exact (keeps_iff_stateAfter _ _).mp kept _ ⟨⟨rfl, rfl, rfl, rfl, rfl⟩,
    (loaded_init initial).tracks⟩

theorem inTime_started (initial : Table Value) (modules : M) :
    (TimedRun.start (World.started runtime gatewayFilter initial modules)).InTime := by
  have frame : GatewayFrame fun world : World M => world.watching = true :=
    ⟨fun _ _ same => same, fun _ _ _ same => same, fun _ _ same => same⟩
  have kept : Keeps (fun world : World M => world.watching = true)
      (startGateways runtime gatewayFilter) :=
    keeps_startGateways frame.listener fun _ _ same => same
  exact ⟨(keeps_iff_stateAfter _ _).mp kept _ rfl, rfl, rfl,
    fun _ => ⟨(settled_started initial modules).1, rfl⟩⟩

/-- The watcher takes in every batch, its flush is due five seconds after the last one that changed
a resource, and whenever none is due a completed flush has worked from all that has come, exactly
if every notification gets through and every flush gets to its end. -/
theorem changes_flushed_iff (runtime : Runtime M) (gatewayFilter : GatewayFilter)
    (initial : Table Value) (modules : M) (events : List (TimedEvent (List (String × Value)))) :
    (∀ before after, events = before ++ after →
        (before.foldl (TimedRun.step runtime gatewayFilter)
          (TimedRun.start (World.started runtime gatewayFilter initial modules))).InTime) ↔
      EveryStep (TimedRun.step runtime gatewayFilter) (TimedRun.MeetsSound runtime gatewayFilter)
        (TimedRun.start (World.started runtime gatewayFilter initial modules)) events :=
  everyState_iff (fun run event inTime => TimedRun.step_inTime_iff run event inTime)
    (inTime_started initial modules) events

end Fgw
