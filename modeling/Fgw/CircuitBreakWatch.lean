import Fgw.Library.Runs
import Fgw.CircuitBreakCore

/-!
The circuit breaker under watch: the arrivals of the responses behind its counters, and the
times at which it tripped.
-/

namespace Fgw

/-- The arrivals of the responses that `total` and `error` count, oldest first. -/
structure Counted where
  total : List Nat
  error : List Nat

namespace Counted

def add (config : BreakConfig) (t requestTime : Nat) (counted : Counted) : Counted :=
  ⟨counted.total ++ [t],
    if SharedStates.slow config t requestTime then counted.error ++ [t] else counted.error⟩

def check (engine : BreakEngine) (config : BreakConfig) (t requestTime : Nat)
    (states : SharedStates) (counted : Counted) : Counted :=
  if states.trips engine config t requestTime || states.windowOver config t then ⟨[], []⟩
  else counted.add config t requestTime

end Counted

structure WatchedBreak where
  system : BreakSystem
  counted : Counted
  trips : List Nat
  clock : Nat

namespace WatchedBreak

def countedAfter (engine : BreakEngine) (watched : WatchedBreak) : BreakEvent → Counted
  | .responded ref now =>
      match watched.system.waiting[ref]? with
      | none => watched.counted
      | some request =>
          watched.counted.check engine request.config now request.requestTime
            (respondedStates watched.system)
  | .recreated _ => ⟨[], []⟩
  | _ => watched.counted

def tripsAfter (engine : BreakEngine) (watched : WatchedBreak) : BreakEvent → List Nat
  | .responded ref now =>
      match watched.system.waiting[ref]? with
      | none => watched.trips
      | some request =>
          if (respondedStates watched.system).trips engine request.config now request.requestTime
          then watched.trips ++ [now]
          else watched.trips
  | _ => watched.trips

end WatchedBreak

def watchStep (engine : BreakEngine) (watched : WatchedBreak) (event : BreakEvent) :
    WatchedBreak :=
  ⟨breakStep engine watched.system event, watched.countedAfter engine event,
    watched.tripsAfter engine event, event.time⟩

def startWatched : WatchedBreak := ⟨startSystem, ⟨[], []⟩, [], 0⟩

theorem watched_system (engine : BreakEngine) (events : List BreakEvent)
    (watched : WatchedBreak) :
    (events.foldl (watchStep engine) watched).system =
      events.foldl (breakStep engine) watched.system := by
  induction events generalizing watched with
  | nil => rfl
  | cons event rest ih => exact ih (watchStep engine watched event)

def InOrder (events : List BreakEvent) : Prop := (events.map BreakEvent.time).Pairwise (· ≤ ·)

instance (events : List BreakEvent) : Decidable (InOrder events) :=
  inferInstanceAs (Decidable ((events.map BreakEvent.time).Pairwise (· ≤ ·)))

theorem InOrder.everyStep {events : List BreakEvent} (inOrder : InOrder events)
    (engine : BreakEngine) {watched : WatchedBreak}
    (later : ∀ event ∈ events, watched.clock ≤ event.time) :
    EveryStep (watchStep engine) (fun watched event => watched.clock ≤ event.time) watched
      events := by
  induction events generalizing watched with
  | nil => trivial
  | cons event rest ih =>
      rw [InOrder, List.map_cons, List.pairwise_cons] at inOrder
      refine ⟨later event List.mem_cons_self, ih inOrder.2 fun other member => ?_⟩
      exact inOrder.1 other.time (List.mem_map_of_mem member)

theorem InOrder.fromStart {events : List BreakEvent} (inOrder : InOrder events)
    (engine : BreakEngine) :
    EveryStep (watchStep engine) (fun watched event => watched.clock ≤ event.time) startWatched
      events :=
  inOrder.everyStep engine fun event _ => Nat.zero_le event.time

/-! What the counters count. -/

structure CountersTrack (states : SharedStates) (counted : Counted) (clock : Nat) : Prop where
  total : states.total = counted.total.length
  error : states.error = counted.error.length
  among : counted.error.Sublist counted.total
  ordered : counted.total.Pairwise (· ≤ ·)
  past : ∀ arrival ∈ counted.total, arrival ≤ clock

theorem CountersTrack.later {states : SharedStates} {counted : Counted} {clock t : Nat}
    (tracks : CountersTrack states counted clock) (le : clock ≤ t) :
    CountersTrack states counted t :=
  { tracks with past := fun arrival member => (tracks.past arrival member).trans le }

theorem countersTrack_empty {states : SharedStates} (total : states.total = 0)
    (error : states.error = 0) (clock : Nat) : CountersTrack states ⟨[], []⟩ clock :=
  ⟨total, error, .slnil, .nil, fun _ member => absurd member List.not_mem_nil⟩

theorem CountersTrack.add {states : SharedStates} {counted : Counted} {t : Nat}
    (tracks : CountersTrack states counted t) (config : BreakConfig) (requestTime : Nat) :
    CountersTrack (states.count config t requestTime) (counted.add config t requestTime) t where
  total := by simp [SharedStates.count, Counted.add, tracks.total]
  error := by
    simp only [SharedStates.count, Counted.add]
    split
    · simp [tracks.error]
    · exact tracks.error
  among := by
    simp only [Counted.add]
    split
    · exact tracks.among.append (List.Sublist.refl [t])
    · exact tracks.among.trans (List.sublist_append_left counted.total [t])
  ordered := by
    refine List.pairwise_append.mpr ⟨tracks.ordered, List.pairwise_singleton _ t, ?_⟩
    intro arrival member last same
    rw [List.mem_singleton.mp same]
    exact tracks.past arrival member
  past := by
    intro arrival member
    rcases List.mem_append.mp member with old | new
    · exact tracks.past arrival old
    · exact (List.mem_singleton.mp new).le

theorem CountersTrack.check {states : SharedStates} {counted : Counted} {t : Nat}
    (tracks : CountersTrack states counted t) (engine : BreakEngine) (config : BreakConfig)
    (requestTime : Nat) :
    CountersTrack (states.check engine config t requestTime)
      (counted.check engine config t requestTime states) t := by
  unfold SharedStates.check Counted.check
  dsimp only
  by_cases trips : states.trips engine config t requestTime
  · rw [if_pos trips, trips, Bool.true_or, if_pos rfl]
    exact countersTrack_empty rfl rfl t
  · rw [if_neg trips, Bool.eq_false_of_not_eq_true trips, Bool.false_or]
    by_cases isOver : states.windowOver config t
    · rw [if_pos isOver, if_pos isOver]
      exact countersTrack_empty rfl rfl t
    · rw [if_neg isOver, if_neg isOver]
      exact { tracks.add config requestTime with }

/-- The watched responses are those behind the counters. -/
def WatchedBreak.Tracked (watched : WatchedBreak) : Prop :=
  CountersTrack watched.system.shared watched.counted watched.clock

theorem watchStep_tracked (engine : BreakEngine) (watched : WatchedBreak)
    (tracked : watched.Tracked) (event : BreakEvent) (later : watched.clock ≤ event.time) :
    (watchStep engine watched event).Tracked := by
  have tracks := CountersTrack.later tracked later
  cases event with
  | started config now =>
      simp only [WatchedBreak.Tracked, watchStep, breakStep, startRequest,
        WatchedBreak.countedAfter]
      split
      · exact tracks
      · exact { tracks with }
  | responded ref now =>
      simp only [WatchedBreak.Tracked, watchStep, breakStep, WatchedBreak.countedAfter]
      cases watched.system.waiting[ref]? with
      | none => exact tracks
      | some request =>
          have responded : CountersTrack (respondedStates watched.system) watched.counted now :=
            { tracks with }
          exact responded.check engine request.config request.requestTime
  | aborted ref now => exact tracks
  | recreated now => exact countersTrack_empty rfl rfl now

theorem startWatched_tracked : startWatched.Tracked := countersTrack_empty rfl rfl 0

end Fgw
