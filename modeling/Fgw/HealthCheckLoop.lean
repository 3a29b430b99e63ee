import Fgw.HealthCheckSet

/-!
Who checks, and who decides.  The loop of an entry starts when the entry is made and ends at
the first iteration without a policy; the policy that `isHealthy` asks for is only read on the
main thread.
-/

namespace Fgw

section Loop

variable (engine : HealthEngine) (name : String)

theorem check_frame (now : Nat) (state : HealthState) (ref : Nat) :
    (state.check engine now ref).healthCheckPolicy = state.healthCheckPolicy ∧
      (state.check engine now ref).cached = state.cached ∧
        (state.check engine now ref).loops = state.loops := by
  rcases check_cases engine now state ref with
    ⟨same, _⟩ | ⟨_, _, _, probed⟩ | ⟨_, _, _, cleared⟩
  · rw [same]
    exact ⟨rfl, rfl, rfl⟩
  · rw [probed]
    exact ⟨rfl, rfl, rfl⟩
  · rw [cleared]
    exact ⟨rfl, rfl, rfl⟩

theorem checkAll_frame (now : Nat) (refs : List Nat) (state : HealthState) :
    (state.checkAll engine now refs).healthCheckPolicy = state.healthCheckPolicy ∧
      (state.checkAll engine now refs).cached = state.cached ∧
        (state.checkAll engine now refs).loops = state.loops := by
  induction refs generalizing state with
  | nil => exact ⟨rfl, rfl, rfl⟩
  | cons ref rest ih =>
      obtain ⟨policy, cached, loops⟩ := check_frame engine now state ref
      have later := ih (state.check engine now ref)
      rw [policy, cached, loops] at later
      exact later

theorem answer_frame (now ref : Nat) (res : HealthResponse) (state : HealthState) :
    (state.answer engine now ref res).healthCheckPolicy = state.healthCheckPolicy ∧
      (state.answer engine now ref res).cached = state.cached ∧
        (state.answer engine now ref res).loops = state.loops := by
  rcases answer_cases engine now ref res state with same | ⟨_, _, ⟨_, later⟩ | ⟨_, later⟩⟩
  · rw [same]
    exact ⟨rfl, rfl, rfl⟩
  · rw [later]
    exact ⟨rfl, rfl, rfl⟩
  · rw [later]
    exact ⟨rfl, rfl, rfl⟩

/-- An iteration that finds a policy. -/
def FindsPolicy (state : HealthState) (event : LifeEvent) : Prop :=
  ∀ now, event = .timer now → state.healthCheckPolicy ≠ none

/-- A pending iteration stays pending unless it finds no policy, and an ended loop stays
ended. -/
theorem life_loops (state : HealthState) (event : LifeEvent) :
    (state.loops = 0 → (lifeStep engine name state event).loops = 0) ∧
      (state.loops = 1 → ((lifeStep engine name state event).loops = 1 ∧
          FindsPolicy state event) ∨
        ((lifeStep engine name state event).loops = 0 ∧ ¬ FindsPolicy state event)) := by
  have kept (same : (lifeStep engine name state event).loops = state.loops)
      (finds : FindsPolicy state event) :
      (state.loops = 0 → (lifeStep engine name state event).loops = 0) ∧
        (state.loops = 1 → ((lifeStep engine name state event).loops = 1 ∧
            FindsPolicy state event) ∨
          ((lifeStep engine name state event).loops = 0 ∧ ¬ FindsPolicy state event)) := by
    rw [same]
    exact ⟨id, fun one => Or.inl ⟨one, finds⟩⟩
  cases event with
  | answered ref now res =>
      exact kept (answer_frame engine now ref res state).2.2 fun _ other => (nomatch other)
  | updated store now => exact kept rfl fun _ other => (nomatch other)
  | formerUpdated store now => exact kept rfl fun _ other => (nomatch other)
  | formerTimer refs now =>
      exact kept (checkAll_frame engine now _ state).2.2 fun _ other => (nomatch other)
  | timer now =>
      by_cases idle : state.loops = 0
      · have stays : lifeStep engine name state (.timer now) = state := by simp [lifeStep, idle]
        rw [stays]
        exact ⟨id, fun one => absurd one (by omega)⟩
      · cases policy : state.healthCheckPolicy with
        | none =>
            have ends : (lifeStep engine name state (.timer now)).loops = state.loops - 1 := by
              simp [lifeStep, idle, HealthState.healthCheckAll, policy]
            refine ⟨fun zero => absurd zero idle, fun one => Or.inr ⟨by omega, ?_⟩⟩
            exact fun finds => finds now rfl policy
        | some found =>
            refine kept ?_ fun _ _ => by simp [policy]
            have runs : lifeStep engine name state (.timer now) =
                state.checkAll engine now state.allTargets := by
              simp [lifeStep, idle, HealthState.healthCheckAll, policy]
            rw [runs]
            exact (checkAll_frame engine now _ state).2.2

theorem lives_loops (life : List LifeEvent) (state : HealthState) :
    (state.loops = 0 → (life.foldl (lifeStep engine name) state).loops = 0) ∧
      (state.loops = 1 → ((life.foldl (lifeStep engine name) state).loops = 1 ↔
        EveryStep (lifeStep engine name) FindsPolicy state life)) := by
  induction life generalizing state with
  | nil => exact ⟨id, fun one => ⟨fun _ => trivial, fun _ => one⟩⟩
  | cons event rest ih =>
      obtain ⟨stopped, pending⟩ := life_loops engine name state event
      obtain ⟨laterStopped, laterPending⟩ := ih (lifeStep engine name state event)
      refine ⟨fun zero => laterStopped (stopped zero), fun one => ?_⟩
      rw [List.foldl_cons, EveryStep]
      rcases pending one with ⟨still, finds⟩ | ⟨ended, lost⟩
      · rw [laterPending still]
        exact ⟨fun later => ⟨finds, later⟩, fun both => both.2⟩
      · rw [laterStopped ended]
        exact ⟨fun impossible => absurd impossible (by simp), fun both => (lost both.1).elim⟩

theorem lives_cached (life : List LifeEvent) (state : HealthState) (uncached : state.cached = false) :
    (life.foldl (lifeStep engine name) state).cached = false := by
  induction life generalizing state with
  | nil => exact uncached
  | cons event rest ih =>
      refine ih _ ?_
      cases event with
      | answered ref now res => exact (answer_frame engine now ref res state).2.1.trans uncached
      | updated store now => simp [lifeStep, HealthState.update, uncached]
      | formerUpdated store now => simp [lifeStep, uncached]
      | formerTimer refs now => exact (checkAll_frame engine now _ state).2.1.trans uncached
      | timer now =>
          simp only [lifeStep, HealthState.healthCheckAll]
          split
          · exact uncached
          · split
            · exact uncached
            · exact (checkAll_frame engine now _ state).2.1.trans uncached

theorem construct_loops (store : Store) (now : Nat) (state : HealthState) :
    (state.construct engine name store now).cached = false ∨
      (state.construct engine name store now).loops =
        if (updateResult engine name store now).healthCheckPolicy = none then 0 else 1 := by
  unfold HealthState.construct
  dsimp only
  split
  · right
    unfold HealthState.healthCheckAll
    simp only [HealthState.update]
    cases policy : (updateResult engine name store now).healthCheckPolicy with
    | none => rfl
    | some found => exact (checkAll_frame engine now _ _).2.2.trans (by simp)
  · exact Or.inl rfl

/-- After an update of an entry that is cached, a policy in force is checked by one loop
exactly if the entry was made with a policy and each iteration since then found one. -/
theorem policy_checked_iff (state : HealthState) (store₀ : Store) (now₀ : Nat)
    (life : List LifeEvent) (store : Store) (now : Nat) :
    let built := state.construct engine name store₀ now₀
    let before := life.foldl (lifeStep engine name) built
    let after := lifeStep engine name before (.updated store now)
    (after.cached = true → after.healthCheckPolicy ≠ none → after.loops = 1) ↔
      (before.cached = true → (updateResult engine name store now).healthCheckPolicy ≠ none →
        (updateResult engine name store₀ now₀).healthCheckPolicy ≠ none ∧
          EveryStep (lifeStep engine name) FindsPolicy built life) := by
  intro built before after
  have cached : after.cached = (before.cached && (store.find "Backend" name).isSome) := rfl
  have policy : after.healthCheckPolicy = (updateResult engine name store now).healthCheckPolicy :=
    rfl
  have loops : after.loops = before.loops := rfl
  have found (inForce : (updateResult engine name store now).healthCheckPolicy ≠ none) :
      (store.find "Backend" name).isSome = true := by
    cases resource : store.find "Backend" name with
    | none => simp [updateResult, resource] at inForce
    | some resource => rfl
  obtain ⟨stopped, pending⟩ := lives_loops engine name life built
  rw [cached, policy, loops, Bool.and_eq_true]
  rcases construct_loops engine name store₀ now₀ state with uncached | made
  · have gone : before.cached = false := lives_cached engine name life built uncached
    simp [gone]
  · have looping : before.loops = 1 ↔
        (updateResult engine name store₀ now₀).healthCheckPolicy ≠ none ∧
          EveryStep (lifeStep engine name) FindsPolicy built life := by
      by_cases first : (updateResult engine name store₀ now₀).healthCheckPolicy = none
      · rw [if_pos first] at made
        have none_left : before.loops = 0 := stopped made
        simp [none_left, first]
      · rw [if_neg first] at made
        exact (pending made).trans ⟨fun every => ⟨first, every⟩, fun both => both.2⟩
    rw [looping]
    exact ⟨fun all here inForce => all ⟨here, found inForce⟩ inForce,
      fun all here inForce => all here.1 inForce⟩

end Loop

def policyless : Store := Store.init [("b.json", healthBackend)]

/-- A policy that comes after the entry was made is never checked. -/
theorem latePolicy_unchecked :
    ¬ ∀ (engine : HealthEngine) (name : String) (state : HealthState) (store₀ : Store) (now₀ : Nat)
      (life : List LifeEvent) (store : Store) (now : Nat),
      let built := state.construct engine name store₀ now₀
      let after := lifeStep engine name (life.foldl (lifeStep engine name) built)
        (.updated store now)
      after.cached = true → after.healthCheckPolicy ≠ none → after.loops = 1 := by
  intro claimed
  have checked := claimed plainHealth "b" HealthState.empty policyless 0 [] (healthStore "10") 1000
  dsimp only at checked
  have cached : (lifeStep plainHealth "b" (HealthState.empty.construct plainHealth "b" policyless 0)
      (.updated (healthStore "10") 1000)).cached = true := by decide +kernel
  have inForce : (lifeStep plainHealth "b" (HealthState.empty.construct plainHealth "b" policyless 0)
      (.updated (healthStore "10") 1000)).healthCheckPolicy.isSome = true := by decide +kernel
  have loops : (lifeStep plainHealth "b" (HealthState.empty.construct plainHealth "b" policyless 0)
      (.updated (healthStore "10") 1000)).loops = 0 := by decide +kernel
  have one := checked cached (Option.isSome_iff_ne_none.mp inForce)
  exact absurd (loops.symm.trans one) (by simp)

/-! Threads. -/

section Threads

/-- The main thread, and `healthCheckPolicy` of the entries of the other threads. -/
structure ThreadsState where
  main : HealthState
  policies : Nat → Option Resource

/-- An entry is made on each thread; only the main thread updates it and starts the loop. -/
def startThread (engine : HealthEngine) (name : String) (store : Store) (now : Nat)
    (state : ThreadsState) (thread : Nat) : ThreadsState :=
  if thread = 0 then { state with main := state.main.construct engine name store now }
  else { state with policies := Function.update state.policies thread none }

def startThreads (engine : HealthEngine) (name : String) (store : Store) (now threads : Nat) :
    ThreadsState :=
  (List.range threads).foldl (startThread engine name store now) ⟨HealthState.empty, fun _ => none⟩

def policyOf (state : ThreadsState) (thread : Nat) : Option Resource :=
  if thread = 0 then state.main.healthCheckPolicy else state.policies thread

def isHealthy (state : ThreadsState) (thread : Nat) (address : String) : Bool :=
  (policyOf state thread).isNone || (state.main.unhealthySet.get? address).isNone

/-- A response to a probe, or an iteration of the loop. -/
inductive ProbeEvent
  | answered (ref now : Nat) (res : HealthResponse)
  | timer (now : Nat)

def ProbeEvent.life : ProbeEvent → LifeEvent
  | answered ref now res => .answered ref now res
  | timer now => .timer now

def threadsStep (engine : HealthEngine) (name : String) (state : ThreadsState)
    (event : ProbeEvent) : ThreadsState :=
  { state with main := lifeStep engine name state.main event.life }

/-- Every thread excludes the addresses in the set and no others. -/
def ThreadsAgree (threads : Nat) (state : ThreadsState) : Prop :=
  ∀ thread < threads, ∀ address,
    isHealthy state thread address = false ↔ Marked state.main address

/-- The failure that puts an address into the set. -/
def MarksDown (engine : HealthEngine) (state : ThreadsState) : ProbeEvent → Prop
  | .answered ref _ res => ∃ target, state.main.records[ref]? = some target ∧
      responsePasses engine target.healthCheck res = .ok false ∧ target.atLimit engine = true
  | .timer _ => False

variable {engine : HealthEngine} {name : String}

theorem threadsAgree_iff {threads : Nat} (present : 0 < threads) {state : ThreadsState}
    (inForce : state.main.healthCheckPolicy ≠ none)
    (others : ∀ thread, state.policies thread = none) :
    ThreadsAgree threads state ↔ threads = 1 ∨ ∀ address, ¬ Marked state.main address := by
  have main (address : String) : isHealthy state 0 address = false ↔ Marked state.main address := by
    obtain ⟨policy, found⟩ := Option.ne_none_iff_exists'.mp inForce
    simp [isHealthy, policyOf, found, Marked]
  have other (thread : Nat) (notMain : thread ≠ 0) (address : String) :
      isHealthy state thread address = true := by
    simp [isHealthy, policyOf, notMain, others]
  constructor
  · intro agree
    by_cases single : threads = 1
    · exact Or.inl single
    · right
      intro address marked
      have excluded := (agree 1 (by omega) address).mpr marked
      rw [other 1 (by omega)] at excluded
      cases excluded
  · rintro agreed thread below address
    by_cases isMain : thread = 0
    · rw [isMain]
      exact main address
    · have unmarked : ¬ Marked state.main address := by
        rcases agreed with single | none
        · omega
        · exact none address
      rw [other thread isMain]
      simp [unmarked]

theorem startThreads_others (store : Store) (now : Nat) (threads : List Nat)
    (notMain : ∀ thread ∈ threads, thread ≠ 0) (state : ThreadsState)
    (unset : ∀ thread, state.policies thread = none) :
    (threads.foldl (startThread engine name store now) state).main = state.main ∧
      ∀ thread, (threads.foldl (startThread engine name store now) state).policies thread =
        none := by
  induction threads generalizing state with
  | nil => exact ⟨rfl, unset⟩
  | cons thread rest ih =>
      have started : startThread engine name store now state thread =
          { state with policies := Function.update state.policies thread none } :=
        if_neg (notMain thread List.mem_cons_self)
      have later := ih (fun other member => notMain other (List.mem_cons_of_mem _ member))
        (startThread engine name store now state thread) (by
          intro other
          rw [started]
          by_cases same : other = thread
          · simp [same]
          · simp [same, unset])
      rw [started] at later
      rw [List.foldl_cons, started]
      exact later

theorem startThreads_eq (store : Store) (now : Nat) {threads : Nat} (present : 0 < threads) :
    (startThreads engine name store now threads).main =
        HealthState.empty.construct engine name store now ∧
      ∀ thread, (startThreads engine name store now threads).policies thread = none := by
  obtain ⟨rest, rfl⟩ := Nat.exists_eq_succ_of_ne_zero (Nat.pos_iff_ne_zero.mp present)
  unfold startThreads
  rw [Nat.succ_eq_add_one, List.range_succ_eq_map, List.foldl_cons]
  have others := @startThreads_others engine name store now ((List.range rest).map Nat.succ)
    (fun thread member => by
      obtain ⟨_, _, rfl⟩ := List.mem_map.mp member
      exact Nat.succ_ne_zero _)
    (startThread engine name store now ⟨HealthState.empty, fun _ => none⟩ 0) (fun _ => rfl)
  exact others

theorem construct_policy (store : Store) (now : Nat) (state : HealthState) :
    (state.construct engine name store now).healthCheckPolicy =
      (updateResult engine name store now).healthCheckPolicy := by
  unfold HealthState.construct
  dsimp only
  split
  · unfold HealthState.healthCheckAll
    split
    · rfl
    · exact (checkAll_frame engine now _ _).1
  · rfl

theorem construct_unmarked (store : Store) (now : Nat) {state : HealthState}
    (unmarked : ∀ address, ¬ Marked state address) (address : String) :
    ¬ Marked (state.construct engine name store now) address := by
  unfold HealthState.construct
  dsimp only
  split
  · unfold HealthState.healthCheckAll
    split
    · exact unmarked address
    · exact fun marked => unmarked address
        (((checkAll_clears engine now _ _).marked address).mp marked).1
  · exact unmarked address

theorem probe_policy (state : ThreadsState) (event : ProbeEvent) :
    (threadsStep engine name state event).main.healthCheckPolicy =
      state.main.healthCheckPolicy := by
  cases event with
  | answered ref now res => exact (answer_frame engine now ref res state.main).1
  | timer now =>
      simp only [threadsStep, ProbeEvent.life, lifeStep, HealthState.healthCheckAll]
      split
      · rfl
      · split
        · rename_i none
          exact none.symm ▸ rfl
        · exact (checkAll_frame engine now _ state.main).1

theorem probe_unmarked_iff {state : ThreadsState} (unmarked : ∀ address, ¬ Marked state.main address)
    (event : ProbeEvent) :
    (∀ address, ¬ Marked (threadsStep engine name state event).main address) ↔
      ¬ MarksDown engine state event := by
  cases event with
  | answered ref now res =>
      simp only [threadsStep, ProbeEvent.life, lifeStep, HealthState.answer, MarksDown]
      cases here : state.main.records[ref]? with
      | none => simpa using unmarked
      | some target =>
          simp only [Option.some.injEq, exists_eq_left']
          cases responsePasses engine target.healthCheck res with
          | error thrown => simpa using unmarked
          | ok passed =>
              cases passed with
              | true =>
                  have kept (address : String) :
                      ¬ Marked (state.main.reset ref target.address) address := fun marked =>
                    unmarked address (((clears_reset here).marked address).mp marked).1
                  simpa using kept
              | false =>
                  simp only [true_and, marked_fail]
                  constructor
                  · intro none limit
                    exact none target.address (Or.inr ⟨limit, rfl⟩)
                  · rintro below address (marked | ⟨limit, _⟩)
                    · exact unmarked address marked
                    · exact below limit
  | timer now =>
      simp only [MarksDown, not_false_eq_true, iff_true]
      intro address
      simp only [threadsStep, ProbeEvent.life, lifeStep, HealthState.healthCheckAll]
      split
      · exact unmarked address
      · split
        · exact unmarked address
        · exact fun marked => unmarked address
            (((checkAll_clears engine now _ state.main).marked address).mp marked).1

/-- While a policy targets the backend, all threads exclude the same addresses in every state
of a run exactly if there is one thread or no failure marks an address. -/
theorem threads_agree_iff (engine : HealthEngine) (name : String) (store : Store) (now : Nat)
    (resource policy : Resource) (policies : List Resource)
    (found : store.find "Backend" name = some resource)
    (read : findPolicies store "HealthCheckPolicy" (some resource) = .ok (policy :: policies))
    (threads : Nat) (present : 0 < threads) (events : List ProbeEvent) :
    (∀ before after, events = before ++ after → ThreadsAgree threads
        (before.foldl (threadsStep engine name) (startThreads engine name store now threads))) ↔
      threads = 1 ∨ EveryStep (threadsStep engine name)
        (fun state event => ¬ MarksDown engine state event)
        (startThreads engine name store now threads) events := by
  obtain ⟨main, others⟩ := @startThreads_eq engine name store now threads present
  have inForce : (startThreads engine name store now threads).main.healthCheckPolicy ≠ none := by
    obtain ⟨made, result, _⟩ := @updateResult_pushed engine now _ _ _ _ found read
    rw [main, construct_policy, result]
    simp
  have unmarked : ∀ address,
      ¬ Marked (startThreads engine name store now threads).main address := by
    rw [main]
    exact construct_unmarked store now fun address marked => by
      simp [Marked, HealthState.empty] at marked
  have agree (before : List ProbeEvent) :
      ThreadsAgree threads (before.foldl (threadsStep engine name)
          (startThreads engine name store now threads)) ↔
        threads = 1 ∨ ∀ address, ¬ Marked (before.foldl (threadsStep engine name)
          (startThreads engine name store now threads)).main address := by
    obtain ⟨policyKept, othersKept⟩ := @foldl_invariant _ _ (threadsStep engine name)
      (fun state => state.main.healthCheckPolicy ≠ none ∧ ∀ thread, state.policies thread = none)
      (fun state event holds => ⟨by rw [probe_policy]; exact holds.1, holds.2⟩) _
      ⟨inForce, others⟩ before
    exact threadsAgree_iff present policyKept othersKept
  simp only [agree]
  have quiet := @everyState_iff _ _ (threadsStep engine name)
    (fun state => ∀ address, ¬ Marked state.main address)
    (fun state event => ¬ MarksDown engine state event)
    (fun state event none => probe_unmarked_iff none event) _ unmarked events
  rw [← quiet]
  by_cases single : threads = 1
  · simp [single]
  · simp [single]

end Threads

theorem healthStore_backend :
    (healthStore "10").find "Backend" "b" = some ⟨0, healthBackend⟩ := rfl

theorem healthStore_policies :
    findPolicies (healthStore "10") "HealthCheckPolicy" (some ⟨0, healthBackend⟩) =
      .ok [⟨1, healthPolicy "10"⟩] := rfl

/-- On the second thread the failed target still counts as healthy. -/
theorem secondThread_disagrees :
    ¬ ∀ (engine : HealthEngine) (name : String) (store : Store) (now : Nat)
      (resource policy : Resource) (policies : List Resource),
      store.find "Backend" name = some resource →
      findPolicies store "HealthCheckPolicy" (some resource) = .ok (policy :: policies) →
      ∀ (threads : Nat), 0 < threads → ∀ (events before after : List ProbeEvent),
        events = before ++ after → ThreadsAgree threads (before.foldl (threadsStep engine name)
          (startThreads engine name store now threads)) := by
  intro claimed
  let state := threadsStep plainHealth "b" (startThreads plainHealth "b" (healthStore "10") 0 2)
    (.answered 0 1000 failedProbe)
  have agree : ThreadsAgree 2 state := claimed plainHealth "b" (healthStore "10") 0 _ _ []
    healthStore_backend healthStore_policies 2 (by decide) [.answered 0 1000 failedProbe]
    [.answered 0 1000 failedProbe] [] rfl
  have marked : ((state.main.unhealthySet.get? "a:80")).isSome = true := by decide +kernel
  have healthy : isHealthy state 1 "a:80" = true := by decide +kernel
  rw [(agree 1 (by decide) "a:80").mpr marked] at healthy
  cases healthy

def passedProbe : HealthResponse := ⟨.num "200", .str "", []⟩

def passedProbes : List ProbeEvent := [.answered 0 1000 passedProbe, .timer 2000]

/-- Two threads, and no failure that marks an address. -/
theorem twoThreads_agree :
    ThreadsAgree 2 (passedProbes.foldl (threadsStep plainHealth "b")
      (startThreads plainHealth "b" (healthStore "10") 0 2)) := by
  have quiet : EveryStep (threadsStep plainHealth "b")
      (fun state event => ¬ MarksDown plainHealth state event)
      (startThreads plainHealth "b" (healthStore "10") 0 2) passedProbes := by
    refine ⟨?_, id, trivial⟩
    rintro ⟨target, here, failed, _⟩
    cases here
    cases failed
  exact (threads_agree_iff plainHealth "b" (healthStore "10") 0 _ _ [] healthStore_backend
    healthStore_policies 2 (by decide) passedProbes).mpr (.inr quiet) passedProbes [] rfl

end Fgw
