import Fgw.Library.Runs
import Fgw.RouterDubboCore

/-!
The cache of the Dubbo router against a router without one.  A request that hits leaves the
matched route and rule unset and shares the selection of the request that filled the entry;
without hits the two routers run alike, and each stream frees an allocation of its own.
-/

namespace Fgw

section Transparency

variable {β : Type} {engine : DubboEngine β} {matchers : List DubboMatcher}

theorem selectDubbo_selection (engine : DubboEngine β) (matchers : List DubboMatcher)
    (body : DubboBody) (state : Balancing β)
    (selected : (dubboContext (selectDubbo engine matchers body state).1).selection ≠ none) :
    (dubboContext (selectDubbo engine matchers body state).1).routeResource ≠ none := by
  unfold dubboContext at selected ⊢
  unfold selectDubbo at selected ⊢
  split at selected
  · split at selected
    · rename_i chosen
      simp [chosen]
    · exact (selected rfl).elim
  · exact (selected rfl).elim

/-- The cache holds no selection for the key of a request. -/
def MissesCache (engine : DubboEngine β) (state : SelectionCache × Balancing β)
    (event : DubboEvent) : Prop :=
  match event with
  | .request now body => cached engine state.1 now (cacheKey body) = none
  | .ended _ => True

theorem cachedStep_output_iff (cache : SelectionCache) (state : Balancing β) (event : DubboEvent) :
    (cachedStep engine matchers (cache, state) event).1 = (plainStep engine matchers state event).1 ↔
      MissesCache engine (cache, state) event := by
  cases event with
  | request now body =>
      simp only [cachedStep, plainStep, routeDubbo, MissesCache]
      cases found : cached engine cache now (cacheKey body) with
      | none => simp
      | some selection =>
          simp only [reduceCtorEq, iff_false, DubboOutput.context.injEq]
          intro same
          have routed := selectDubbo_selection engine matchers body state
          rw [← same] at routed
          exact routed (by simp [dubboContext]) (by simp [dubboContext])
  | ended stream => simp [cachedStep, plainStep, MissesCache]

theorem cachedStep_follows (cache : SelectionCache) (state : Balancing β) (event : DubboEvent)
    (missed : MissesCache engine (cache, state) event) :
    (cachedStep engine matchers (cache, state) event).2.2 =
      (plainStep engine matchers state event).2 := by
  cases event with
  | request now body =>
      have none : cached engine cache now (cacheKey body) = none := missed
      simp [cachedStep, plainStep, routeDubbo, none]
  | ended stream => rfl

theorem cachedRun_eq_plain_iff (cache : SelectionCache) (state : Balancing β)
    (events : List DubboEvent) :
    outputs (cachedStep engine matchers) (cache, state) events =
        outputs (plainStep engine matchers) state events ↔
      EveryStep (fun state event => (cachedStep engine matchers state event).2)
        (MissesCache engine) (cache, state) events := by
  refine outputs_eq_iff (fun cachedState plainState => cachedState.2 = plainState) ?_ ?_ rfl events
  · rintro ⟨cache, state⟩ _ event rfl
    exact cachedStep_output_iff cache state event
  · rintro ⟨cache, state⟩ _ event rfl missed
    exact cachedStep_follows cache state event missed

/-! Allocations without the cache. -/

def Selection.id? : Selection → Option Nat
  | single _ => none
  | allocated _ _ id => some id

/-- The allocation that the output of an event names: the one taken, or the one freed. -/
def DubboOutput.taken? : DubboOutput → Option Nat
  | context described => described.selection.bind Selection.id?
  | freed _ => none

def DubboOutput.freed? : DubboOutput → Option Nat
  | context _ => none
  | freed selection => selection.bind Selection.id?

def heldBy (streams : List (Nat × Selection)) : List Nat :=
  streams.filterMap fun one => one.2.id?

/-- The allocations of the open streams. -/
def Balancing.held (state : Balancing β) : List Nat := heldBy state.live

structure Balancing.Sound (state : Balancing β) : Prop where
  nodup : state.held.Nodup
  below : ∀ id ∈ state.held, id < state.allocations

/-- What a request without the cache does to the allocations: it takes the next one and holds
it, or takes none. -/
theorem plainStep_request (engine : DubboEngine β) (matchers : List DubboMatcher) (now : Nat)
    (body : DubboBody) (state : Balancing β) :
    ((plainStep engine matchers state (.request now body)).1.taken? = some state.allocations ∧
        (plainStep engine matchers state (.request now body)).2.held =
          state.allocations :: state.held ∧
        (plainStep engine matchers state (.request now body)).2.allocations =
          state.allocations + 1) ∨
      ((plainStep engine matchers state (.request now body)).1.taken? = none ∧
        (plainStep engine matchers state (.request now body)).2.held = state.held ∧
        (plainStep engine matchers state (.request now body)).2.allocations =
          state.allocations) := by
  simp only [plainStep, selectDubbo]
  cases matchers.find? fun one => one.matchFunc body with
  | none => exact Or.inr ⟨rfl, rfl, rfl⟩
  | some one =>
      simp only [selectBackend]
      by_cases several : one.entry.rule.backendRefs.length > 1
      · rw [if_pos several]
        rcases engine.allocate (state.balancers one.entry.selector) with ⟨_ | target, after⟩
        · exact Or.inr ⟨rfl, rfl, rfl⟩
        · exact Or.inl ⟨rfl, rfl, rfl⟩
      · rw [if_neg several]
        exact Or.inr ⟨rfl, rfl, rfl⟩

theorem freeSelection_frame (engine : DubboEngine β) (selection : Selection) (state : Balancing β) :
    (freeSelection engine selection state).held = state.held ∧
      (freeSelection engine selection state).allocations = state.allocations := by
  cases selection <;> exact ⟨rfl, rfl⟩

theorem heldBy_cons (one : Nat × Selection) (rest : List (Nat × Selection)) :
    heldBy (one :: rest) = one.2.id?.toList ++ heldBy rest := by
  cases named : one.2.id? <;> simp [heldBy, named]

theorem heldBy_filter_sublist (streams : List (Nat × Selection)) (keep : Nat × Selection → Bool) :
    (heldBy (streams.filter keep)).Sublist (heldBy streams) :=
  List.filter_sublist.filterMap _

theorem heldBy_filter (streams : List (Nat × Selection)) (stream : Nat) {selection : Selection}
    (found : streams.lookup stream = some selection) (once : (heldBy streams).Nodup) {id : Nat}
    (named : selection.id? = some id) :
    id ∈ heldBy streams ∧ id ∉ heldBy (streams.filter fun one => one.1 ≠ stream) := by
  induction streams with
  | nil => cases found
  | cons one rest ih =>
      obtain ⟨number, kept⟩ := one
      rw [heldBy_cons] at once ⊢
      obtain ⟨_, onceRest, apart⟩ := List.nodup_append.mp once
      by_cases same : stream = number
      · subst number
        rw [List.lookup_cons_self, Option.some.injEq] at found
        subst kept
        simp only [named, Option.toList_some] at apart ⊢
        rw [List.filter_cons_of_neg (by simp)]
        exact ⟨List.mem_append_left _ List.mem_cons_self, fun later =>
          apart id List.mem_cons_self id ((heldBy_filter_sublist rest _).subset later) rfl⟩
      · rw [List.lookup_cons, beq_false_of_ne same] at found
        obtain ⟨inside, outside⟩ := ih found onceRest
        rw [List.filter_cons_of_pos (by simpa using Ne.symm same), heldBy_cons, List.mem_append,
          List.mem_append]
        refine ⟨Or.inr inside, ?_⟩
        rintro (here | later)
        · exact apart id here id inside rfl
        · exact outside later

theorem plainStep_idle {state : Balancing β} {stream : Nat}
    (found : state.live.lookup stream = none) :
    plainStep engine matchers state (.ended stream) = (.freed none, state) := by
  simp [plainStep, endStream, found]

theorem plainStep_ended {state : Balancing β} {stream : Nat} {selection : Selection}
    (found : state.live.lookup stream = some selection) :
    (plainStep engine matchers state (.ended stream)).1 = .freed (some selection) ∧
      (plainStep engine matchers state (.ended stream)).2.held =
        heldBy (state.live.filter fun one => one.1 ≠ stream) ∧
      (plainStep engine matchers state (.ended stream)).2.allocations = state.allocations := by
  simp only [plainStep, endStream, found]
  exact ⟨trivial, freeSelection_frame _ _ _⟩

/-! One step without the cache. -/

theorem plainStep_sound {state : Balancing β} (sound : state.Sound) (event : DubboEvent) :
    (plainStep engine matchers state event).2.Sound := by
  cases event with
  | request now body =>
      rcases plainStep_request engine matchers now body state with
        ⟨_, held, allocations⟩ | ⟨_, held, allocations⟩
      · constructor
        · rw [held, List.nodup_cons]
          exact ⟨fun inside => Nat.lt_irrefl _ (sound.below _ inside), sound.nodup⟩
        · rw [held, allocations]
          intro id inside
          rcases List.mem_cons.mp inside with rfl | before
          · exact Nat.lt_succ_self _
          · exact Nat.lt_succ_of_lt (sound.below id before)
      · exact ⟨held ▸ sound.nodup, by rw [held, allocations]; exact sound.below⟩
  | ended stream =>
      cases found : state.live.lookup stream with
      | none =>
          rw [plainStep_idle found]
          exact sound
      | some selection =>
          obtain ⟨_, held, allocations⟩ := @plainStep_ended _ engine matchers _ _ _ found
          have fewer := heldBy_filter_sublist state.live fun one => one.1 ≠ stream
          constructor
          · rw [held]
            exact sound.nodup.sublist fewer
          · rw [held, allocations]
            exact fun id inside => sound.below id (fewer.subset inside)

theorem plainStep_taken (state : Balancing β) (event : DubboEvent) :
    ((plainStep engine matchers state event).1.taken? = some state.allocations ∧
        (plainStep engine matchers state event).2.allocations = state.allocations + 1) ∨
      ((plainStep engine matchers state event).1.taken? = none ∧
        (plainStep engine matchers state event).2.allocations = state.allocations) := by
  cases event with
  | request now body =>
      rcases plainStep_request engine matchers now body state with
        ⟨took, _, allocations⟩ | ⟨took, _, allocations⟩
      · exact Or.inl ⟨took, allocations⟩
      · exact Or.inr ⟨took, allocations⟩
  | ended stream =>
      right
      cases found : state.live.lookup stream with
      | none =>
          rw [plainStep_idle found]
          exact ⟨rfl, rfl⟩
      | some selection =>
          obtain ⟨answer, _, allocations⟩ := @plainStep_ended _ engine matchers _ _ _ found
          exact ⟨by rw [answer]; rfl, allocations⟩

theorem plainStep_held {state : Balancing β} {event : DubboEvent} {id : Nat}
    (inside : id ∈ (plainStep engine matchers state event).2.held) :
    id ∈ state.held ∨ (plainStep engine matchers state event).1.taken? = some id := by
  cases event with
  | request now body =>
      rcases plainStep_request engine matchers now body state with ⟨took, held, _⟩ | ⟨_, held, _⟩
      · rw [held] at inside
        rcases List.mem_cons.mp inside with rfl | before
        · exact Or.inr took
        · exact Or.inl before
      · rw [held] at inside
        exact Or.inl inside
  | ended stream =>
      left
      cases found : state.live.lookup stream with
      | none =>
          rw [plainStep_idle found] at inside
          exact inside
      | some selection =>
          rw [(plainStep_ended found).2.1] at inside
          exact (heldBy_filter_sublist state.live _).subset inside

theorem plainStep_freed {state : Balancing β} (sound : state.Sound) {event : DubboEvent} {id : Nat}
    (freed : (plainStep engine matchers state event).1.freed? = some id) :
    id ∈ state.held ∧ id ∉ (plainStep engine matchers state event).2.held ∧
      id < (plainStep engine matchers state event).2.allocations := by
  cases event with
  | request now body => cases freed
  | ended stream =>
      cases found : state.live.lookup stream with
      | none =>
          rw [plainStep_idle found] at freed
          cases freed
      | some selection =>
          obtain ⟨answer, held, allocations⟩ := @plainStep_ended _ engine matchers _ _ _ found
          rw [answer] at freed
          rw [held, allocations]
          obtain ⟨inside, outside⟩ := heldBy_filter state.live stream found sound.nodup freed
          exact ⟨inside, outside, sound.below id inside⟩

/-! Runs without the cache. -/

/-- The allocations that the requests of a run take without the cache. -/
def takenIn (engine : DubboEngine β) (matchers : List DubboMatcher) (state : Balancing β)
    (events : List DubboEvent) : List Nat :=
  (outputs (plainStep engine matchers) state events).filterMap DubboOutput.taken?

def freedIn (engine : DubboEngine β) (matchers : List DubboMatcher) (state : Balancing β)
    (events : List DubboEvent) : List Nat :=
  (outputs (plainStep engine matchers) state events).filterMap DubboOutput.freed?

theorem takenIn_cons (state : Balancing β) (event : DubboEvent) (rest : List DubboEvent) :
    takenIn engine matchers state (event :: rest) =
      (plainStep engine matchers state event).1.taken?.toList ++
        takenIn engine matchers (plainStep engine matchers state event).2 rest := by
  cases took : (plainStep engine matchers state event).1.taken? <;> simp [takenIn, outputs, took]

theorem freedIn_cons (state : Balancing β) (event : DubboEvent) (rest : List DubboEvent) :
    freedIn engine matchers state (event :: rest) =
      (plainStep engine matchers state event).1.freed?.toList ++
        freedIn engine matchers (plainStep engine matchers state event).2 rest := by
  cases freed : (plainStep engine matchers state event).1.freed? <;>
    simp [freedIn, outputs, freed]

theorem takenIn_nodup (events : List DubboEvent) (state : Balancing β) :
    (takenIn engine matchers state events).Nodup ∧
      ∀ id ∈ takenIn engine matchers state events, state.allocations ≤ id := by
  induction events generalizing state with
  | nil => simp [takenIn, outputs]
  | cons event rest ih =>
      obtain ⟨once, later⟩ := ih (plainStep engine matchers state event).2
      rw [takenIn_cons]
      rcases @plainStep_taken _ engine matchers state event with
        ⟨took, allocations⟩ | ⟨took, allocations⟩
      · rw [allocations] at later
        rw [took, Option.toList_some, List.singleton_append]
        refine ⟨List.nodup_cons.mpr ⟨fun again => ?_, once⟩, fun id member => ?_⟩
        · exact Nat.lt_irrefl _ (later _ again)
        · rcases List.mem_cons.mp member with rfl | inside
          · exact Nat.le_refl _
          · exact Nat.le_of_succ_le (later id inside)
      · rw [allocations] at later
        rw [took, Option.toList_none, List.nil_append]
        exact ⟨once, later⟩

theorem freedIn_nodup (events : List DubboEvent) (state : Balancing β) (sound : state.Sound) :
    (freedIn engine matchers state events).Nodup ∧
      ∀ id ∈ freedIn engine matchers state events,
        id ∈ state.held ∨ id ∈ takenIn engine matchers state events := by
  induction events generalizing state with
  | nil => simp [freedIn, outputs]
  | cons event rest ih =>
      obtain ⟨once, source⟩ := ih (plainStep engine matchers state event).2
        (plainStep_sound sound event)
      rw [freedIn_cons, takenIn_cons]
      have later : ∀ id ∈ freedIn engine matchers (plainStep engine matchers state event).2 rest,
          id ∈ state.held ∨ id ∈ (plainStep engine matchers state event).1.taken?.toList ++
            takenIn engine matchers (plainStep engine matchers state event).2 rest := by
        intro id member
        rcases source id member with inside | taken
        · refine (plainStep_held inside).imp_right fun took => ?_
          exact List.mem_append_left _ (Option.mem_toList.mpr took)
        · exact Or.inr (List.mem_append_right _ taken)
      cases freed : (plainStep engine matchers state event).1.freed? with
      | none => exact ⟨once, later⟩
      | some id =>
          obtain ⟨inside, outside, below⟩ := plainStep_freed sound freed
          rw [Option.toList_some, List.singleton_append]
          refine ⟨List.nodup_cons.mpr ⟨fun again => ?_, once⟩, fun other member => ?_⟩
          · rcases source id again with still | taken
            · exact outside still
            · have above := (takenIn_nodup rest (plainStep engine matchers state event).2).2 id taken
              exact Nat.not_lt.mpr above below
          · rcases List.mem_cons.mp member with rfl | rest
            · exact Or.inl inside
            · exact later other rest

theorem startBalancing_sound (engine : DubboEngine β) (resources : List DubboRoute) :
    (startBalancing engine resources).Sound :=
  ⟨List.nodup_nil, fun _ inside => (nomatch inside)⟩

/-- In a run without a hit every request takes an allocation of its own, and each is freed at
most once. -/
theorem missedRun_own (resources : List DubboRoute) (events : List DubboEvent)
    (missed : EveryStep (fun state event => (cachedStep engine matchers state event).2)
      (MissesCache engine) (Table.empty, startBalancing engine resources) events) :
    let answers := outputs (cachedStep engine matchers)
      (Table.empty, startBalancing engine resources) events
    (answers.filterMap DubboOutput.taken?).Nodup ∧ (answers.filterMap DubboOutput.freed?).Nodup ∧
      ∀ id ∈ answers.filterMap DubboOutput.freed?, id ∈ answers.filterMap DubboOutput.taken? := by
  have same := (cachedRun_eq_plain_iff Table.empty (startBalancing engine resources) events).mpr
    missed
  dsimp only
  rw [same]
  obtain ⟨once, source⟩ : (freedIn engine matchers _ events).Nodup ∧ _ :=
    freedIn_nodup events _ (startBalancing_sound engine resources)
  exact ⟨(takenIn_nodup events _).1, once, fun id member =>
    (source id member).resolve_left fun held => (nomatch held)⟩

/-- The cache goes unnoticed exactly in the runs without a hit. -/
theorem dubboCache_transparent_iff (engine : DubboEngine β) (resources : List DubboRoute)
    (matchers : List DubboMatcher)
    (_ : RouterDubbo.makeRuleSelector engine resources = .ok matchers) (events : List DubboEvent) :
    outputs (cachedStep engine matchers) (Table.empty, startBalancing engine resources) events =
        outputs (plainStep engine matchers) (startBalancing engine resources) events ↔
      EveryStep (fun state event => (cachedStep engine matchers state event).2)
        (MissesCache engine) (Table.empty, startBalancing engine resources) events :=
  cachedRun_eq_plain_iff Table.empty (startBalancing engine resources) events

end Transparency

/-! The same call twice, and two different calls. -/

/-- Pipy as documented: entries expire, and targets are allocated in turn. -/
def documentedDubbo : DubboEngine Nat where
  regExp pattern := .ok fun text => text.toList.tails.any fun tail => pattern.toList.isPrefixOf tail
  expired at_ now := at_ + 3600 ≤ now
  balancer _ := 0
  allocate turn := (some (turn % 2), turn + 1)
  free turn _ := turn

def dubboRoute : DubboRoute :=
  ⟨[⟨none, [.obj [("name", .str "a")], .obj [("name", .str "b")]]⟩]⟩

def dubboMatchers : List DubboMatcher :=
  (listDubboMatches (listDubboRules [dubboRoute])).map fun entry => ⟨entry, fun _ => true⟩

theorem dubboMatchers_made :
    RouterDubbo.makeRuleSelector documentedDubbo [dubboRoute] = .ok dubboMatchers := rfl

def dubboCall (method : String) : DubboBody := ⟨"svc", "1.0", method, "()"⟩

/-- The second request of the same call has no route in its context. -/
theorem repeatedCall_noticed :
    ¬ ∀ (resources : List DubboRoute) (matchers : List DubboMatcher) (events : List DubboEvent),
      RouterDubbo.makeRuleSelector documentedDubbo resources = .ok matchers →
      outputs (cachedStep documentedDubbo matchers)
          (Table.empty, startBalancing documentedDubbo resources) events =
        outputs (plainStep documentedDubbo matchers) (startBalancing documentedDubbo resources)
          events := by
  intro claimed
  have same := claimed [dubboRoute] dubboMatchers
    [.request 0 (dubboCall "m"), .request 1 (dubboCall "m")] dubboMatchers_made
  have second := congrArg (fun answers => answers[1]?) same
  have unset : (outputs (cachedStep documentedDubbo dubboMatchers)
      (Table.empty, startBalancing documentedDubbo [dubboRoute])
      [.request 0 (dubboCall "m"), .request 1 (dubboCall "m")])[1]? =
      some (.context ⟨none, none, some (.allocated 0 0 0)⟩) := rfl
  have own : (outputs (plainStep documentedDubbo dubboMatchers)
      (startBalancing documentedDubbo [dubboRoute])
      [.request 0 (dubboCall "m"), .request 1 (dubboCall "m")])[1]? =
      some (.context ⟨some dubboRoute, dubboRoute.rules.head?, some (.allocated 0 1 1)⟩) := rfl
  simp only [unset, own, Option.some.injEq, DubboOutput.context.injEq,
    DubboContext.mk.injEq] at second
  exact absurd second.1 (by simp)

def distinctCalls : List DubboEvent :=
  [.request 0 (dubboCall "m"), .request 1 (dubboCall "n"), .ended 1, .ended 0, .ended 1]

/-- Each of the two calls takes an allocation of its own and frees it once. -/
theorem distinctCalls_unnoticed :
    let answers := outputs (cachedStep documentedDubbo dubboMatchers)
      (Table.empty, startBalancing documentedDubbo [dubboRoute]) distinctCalls
    answers = outputs (plainStep documentedDubbo dubboMatchers)
        (startBalancing documentedDubbo [dubboRoute]) distinctCalls ∧
      (answers.filterMap DubboOutput.taken?).Nodup ∧
        (answers.filterMap DubboOutput.freed?).Nodup := by
  have missed : EveryStep (fun state event => (cachedStep documentedDubbo dubboMatchers state
      event).2) (MissesCache documentedDubbo)
      (Table.empty, startBalancing documentedDubbo [dubboRoute]) distinctCalls :=
    ⟨rfl, rfl, trivial, trivial, trivial, trivial⟩
  obtain ⟨taken, freed, _⟩ := missedRun_own [dubboRoute] distinctCalls missed
  exact ⟨(dubboCache_transparent_iff documentedDubbo [dubboRoute] dubboMatchers
    dubboMatchers_made distinctCalls).mpr missed, taken, freed⟩

end Fgw
