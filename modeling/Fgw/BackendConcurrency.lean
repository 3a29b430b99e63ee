import Fgw.Library.Places
import Fgw.Library.Runs
import Fgw.ModulesCore

/-!
The connections of one backend: what its `connect` pipelines count when they start and end,
while updates replace the target objects of the balancer.
-/

namespace Fgw

/-- A target object, shared by the balancer and the connections that were started on it. -/
structure TargetObject where
  target : Target
  concurrency : Int

/-- The closure of one backend.  Target objects are named by their place among all that were ever
made, `targets` are those that the balancer has, and `connections` has the `$target` of each
connect pipeline that has started and not ended. -/
structure ConnectBackend where
  backendResource : Option Resource
  objects : List TargetObject
  targets : List Nat
  concurrency : Int
  connections : List Nat
  watching : Bool

inductive ConnectEvent
  /-- A pipeline starts on a target object that the balancer has handed out, now or earlier. -/
  | started (target : Nat)
  /-- An open pipeline ends, named by its place. -/
  | ended (place : Nat)
  /-- The updaters of the backend run, and this is what `findBackendResource` answers. -/
  | updated (found : Option Resource)

namespace ConnectBackend

def newObjects (targets : List Target) : List TargetObject :=
  targets.map fun target => ⟨target, 0⟩

def make (backendResource : Option Resource) : Except Thrown ConnectBackend := do
  let targets ← getTargets backendResource
  return ⟨backendResource, newObjects targets, List.range targets.length, 0, [], true⟩

/-- `balancer.provision(targets)` with new target objects. -/
def provision (backend : ConnectBackend) (targets : List Target) : ConnectBackend :=
  { backend with
    objects := backend.objects ++ newObjects targets
    targets := List.range' backend.objects.length targets.length }

/-- `backend.concurrency` and `target.concurrency`, both changed by one connection. -/
def addConcurrency (backend : ConnectBackend) (target : Nat) (change : Int) : ConnectBackend :=
  { backend with
    concurrency := backend.concurrency + change
    objects := backend.objects.modify target fun object =>
      { object with concurrency := object.concurrency + change } }

def onStart (backend : ConnectBackend) (target : Nat) : ConnectBackend :=
  { backend.addConcurrency target 1 with connections := backend.connections ++ [target] }

def onEnd (backend : ConnectBackend) (place target : Nat) : ConnectBackend :=
  { backend.addConcurrency target (-1) with connections := backend.connections.eraseIdx place }

/-- The callback of `watch`.  It is taken out before it runs, and only a backend that is found,
with targets that can be read, is watched again. -/
def update (backend : ConnectBackend) (found : Option Resource) : ConnectBackend :=
  let forgotten := { backend with backendResource := found, watching := false }
  match found with
  | none => forgotten
  | some resource =>
      match getTargets (some resource) with
      | .error _ => forgotten
      | .ok targets => { forgotten.provision targets with watching := true }

def step (backend : ConnectBackend) : ConnectEvent → ConnectBackend
  | .started target =>
      if target < backend.objects.length then backend.onStart target else backend
  | .ended place =>
      match backend.connections[place]? with
      | none => backend
      | some target => backend.onEnd place target
  | .updated found => if backend.watching then backend.update found else backend

/-- The open connections that were started on a target object. -/
def openOn (backend : ConnectBackend) (target : Nat) : Nat :=
  backend.connections.countP (· = target)

/-- The counters are the numbers of open connections, for the replaced objects too. -/
structure Counted (backend : ConnectBackend) : Prop where
  all : backend.concurrency = backend.connections.length
  each : ∀ (target : Nat) (object : TargetObject), backend.objects[target]? = some object →
    object.concurrency = backend.openOn target
  known : ∀ target ∈ backend.connections, target < backend.objects.length

variable {backend : ConnectBackend}

theorem getElem?_newObjects {targets : List Target} {place : Nat} {object : TargetObject}
    (here : (newObjects targets)[place]? = some object) : object.concurrency = 0 := by
  simp only [newObjects, List.getElem?_map, Option.map_eq_some_iff] at here
  obtain ⟨target, _, rfl⟩ := here
  rfl

theorem counted_make {backendResource : Option Resource} {made : ConnectBackend}
    (constructed : make backendResource = .ok made) : made.Counted := by
  cases read : getTargets backendResource with
  | error thrown =>
      rw [make, read] at constructed
      cases constructed
  | ok targets =>
      rw [make, read] at constructed
      cases constructed
      refine ⟨rfl, ?_, ?_⟩
      · intro target object here
        exact getElem?_newObjects here
      · intro target member
        exact absurd member List.not_mem_nil

theorem getElem?_addConcurrency {target other : Nat} {change : Int} {object : TargetObject}
    (here : (backend.addConcurrency target change).objects[other]? = some object) :
    ∃ before, backend.objects[other]? = some before ∧
      object.concurrency = before.concurrency + if target = other then change else 0 := by
  simp only [addConcurrency, List.getElem?_modify] at here
  obtain ⟨before, found, rfl⟩ := Option.map_eq_some_iff.mp here
  refine ⟨before, found, ?_⟩
  by_cases touched : target = other
  · simp [touched]
  · simp [touched]

theorem length_addConcurrency (target : Nat) (change : Int) :
    (backend.addConcurrency target change).objects.length = backend.objects.length := by
  simp [addConcurrency]

theorem counted_started (counted : backend.Counted) {target : Nat}
    (known : target < backend.objects.length) : (backend.onStart target).Counted := by
  have all := counted.all
  refine ⟨?_, ?_, ?_⟩
  · simp only [onStart, addConcurrency, List.length_append, List.length_singleton]
    omega
  · intro other object here
    obtain ⟨before, found, changed⟩ := getElem?_addConcurrency here
    have each := counted.each other before found
    rw [changed, each]
    simp only [openOn, onStart, List.countP_append, List.countP_singleton, decide_eq_true_eq]
    by_cases touched : target = other
    · simp [touched]
    · simp [touched]
  · intro other member
    simp only [onStart, List.mem_append, List.mem_singleton] at member
    rw [onStart, length_addConcurrency]
    rcases member with earlier | rfl
    · exact counted.known other earlier
    · exact known

theorem counted_ended (counted : backend.Counted) {place target : Nat}
    (here : backend.connections[place]? = some target) : (backend.onEnd place target).Counted := by
  have all := counted.all
  refine ⟨?_, ?_, ?_⟩
  · obtain ⟨below, _⟩ := List.getElem?_eq_some_iff.mp here
    simp only [onEnd, addConcurrency, List.length_eraseIdx, if_pos below]
    omega
  · intro other object there
    obtain ⟨before, found, changed⟩ := getElem?_addConcurrency there
    have each := counted.each other before found
    have erased := countP_eraseIdx_add (fun opened => decide (opened = other)) here
    rw [changed, each]
    simp only [openOn, onEnd]
    by_cases touched : target = other
    · simp only [touched, decide_true, Bool.toNat_true] at erased
      simp only [if_pos touched]
      omega
    · simp only [touched, decide_false, Bool.toNat_false] at erased
      simp only [if_neg touched]
      omega
  · intro other member
    rw [onEnd, length_addConcurrency]
    exact counted.known other (List.mem_of_mem_eraseIdx member)

@[simp] theorem openOn_provision (targets : List Target) (target : Nat) :
    (backend.provision targets).openOn target = backend.openOn target := rfl

theorem counted_provision (counted : backend.Counted) (targets : List Target) :
    (backend.provision targets).Counted := by
  refine ⟨counted.all, ?_, ?_⟩
  · intro target object here
    rw [openOn_provision]
    simp only [provision] at here
    by_cases replaced : target < backend.objects.length
    · rw [List.getElem?_append_left replaced] at here
      exact counted.each target object here
    · rw [List.getElem?_append_right (by omega)] at here
      have unused : backend.openOn target = 0 := by
        rw [openOn, List.countP_eq_zero]
        intro opened member same
        have known := counted.known opened member
        simp only [decide_eq_true_eq] at same
        omega
      rw [getElem?_newObjects here, unused]
      rfl
  · intro target member
    have known := counted.known target member
    simp only [provision, List.length_append]
    omega

theorem counted_update (counted : backend.Counted) (found : Option Resource) :
    (backend.update found).Counted := by
  have forgotten : Counted { backend with backendResource := found, watching := false } :=
    ⟨counted.all, counted.each, counted.known⟩
  unfold update
  cases found with
  | none => exact forgotten
  | some resource =>
      cases read : getTargets (some resource) with
      | error thrown => simpa only [read] using forgotten
      | ok targets =>
          have provisioned := counted_provision forgotten targets
          simp only [read]
          exact ⟨provisioned.all, provisioned.each, provisioned.known⟩

theorem counted_step (backend : ConnectBackend) (event : ConnectEvent)
    (counted : backend.Counted) : (backend.step event).Counted := by
  cases event with
  | started target =>
      simp only [step]
      split
      · rename_i known
        exact counted_started counted known
      · exact counted
  | ended place =>
      simp only [step]
      cases here : backend.connections[place]? with
      | none => exact counted
      | some target => exact counted_ended counted here
  | updated found =>
      simp only [step]
      split
      · exact counted_update counted found
      · exact counted

theorem Counted.nonneg (counted : backend.Counted) :
    0 ≤ backend.concurrency ∧ ∀ object ∈ backend.objects, 0 ≤ object.concurrency := by
  constructor
  · have all := counted.all
    omega
  · intro object member
    obtain ⟨target, here⟩ := List.getElem?_of_mem member
    have each := counted.each target object here
    omega

/-- Over every interleaving of connections and updates the counters are exact. -/
theorem connections_counted {backendResource : Option Resource} {made : ConnectBackend}
    (constructed : make backendResource = .ok made) (events : List ConnectEvent) :
    let backend := events.foldl step made
    backend.concurrency = backend.connections.length ∧
      (∀ (target : Nat) (object : TargetObject), backend.objects[target]? = some object →
        object.concurrency = backend.openOn target) ∧
      0 ≤ backend.concurrency ∧ ∀ object ∈ backend.objects, 0 ≤ object.concurrency := by
  have counted : (events.foldl step made).Counted :=
    foldl_invariant counted_step (counted_make constructed) events
  exact ⟨counted.all, counted.each, counted.nonneg⟩

/-! A connection whose target an update replaces. -/

def oneTarget (address : String) : Resource :=
  ⟨0, .obj [("spec", .obj [("targets",
    .arr [.obj [("address", .str address), ("port", .num "80")]])])]⟩

def oldBackend : ConnectBackend :=
  ⟨some (oneTarget "old"), [⟨⟨"old:80", .undefined, .undefined⟩, 0⟩], [0], 0, [], true⟩

theorem connections_counted_replaced :
    let backend := [ConnectEvent.started 0, .updated (some (oneTarget "new")), .started 1,
      .ended 0].foldl step oldBackend
    backend.concurrency = backend.connections.length ∧
      (∀ (target : Nat) (object : TargetObject), backend.objects[target]? = some object →
        object.concurrency = backend.openOn target) ∧
      0 ≤ backend.concurrency ∧ ∀ object ∈ backend.objects, 0 ≤ object.concurrency :=
  connections_counted (show make (some (oneTarget "old")) = .ok oldBackend from rfl) _

end ConnectBackend

end Fgw
