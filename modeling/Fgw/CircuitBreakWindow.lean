import Mathlib.Data.Rat.Cast.Order
import Fgw.CircuitBreakWatch

/-!
The age of what the circuit breaker counts.  The start of the window moves with every response,
so that only a pause empties the counters.
-/

namespace Fgw

/-- After a check that does not trip, what is counted arrived within the interval; no error
behind a trip is older than the interval. -/
def Counted.Windowed (engine : BreakEngine) (config : BreakConfig) (t requestTime : Nat)
    (states : SharedStates) (counted : Counted) : Prop :=
  if states.trips engine config t requestTime then
    ∀ arrival ∈ (counted.add config t requestTime).error,
      ¬ config.checkInterval.passedBy ((t : Rat) - arrival)
  else
    (∀ arrival ∈ (counted.check engine config t requestTime states).total,
        config.checkInterval.above ((t : Rat) - arrival)) ∧
      ∀ arrival ∈ (counted.check engine config t requestTime states).error,
        config.checkInterval.above ((t : Rat) - arrival)

/-- The response comes after a pause, or within the interval of the first response that is
counted; if it trips, it comes within the interval of the first error. -/
def Counted.InBurst (engine : BreakEngine) (config : BreakConfig) (t requestTime : Nat)
    (states : SharedStates) (counted : Counted) : Prop :=
  if states.trips engine config t requestTime then
    ∀ first ∈ (counted.add config t requestTime).error.head?,
      ¬ config.checkInterval.passedBy ((t : Rat) - first)
  else
    states.windowOver config t ∨
      ∀ first ∈ (counted.add config t requestTime).total.head?,
        config.checkInterval.above ((t : Rat) - first)

instance (engine : BreakEngine) (config : BreakConfig) (t requestTime : Nat)
    (states : SharedStates) (counted : Counted) :
    Decidable (counted.InBurst engine config t requestTime states) := by
  delta Counted.InBurst
  infer_instance

theorem forall_mem_iff_head {α : Type} {before : α → α → Prop} {holds : α → Prop}
    (passes : ∀ first later, before first later → holds first → holds later) {list : List α}
    (ordered : list.Pairwise before) :
    (∀ element ∈ list, holds element) ↔ ∀ first ∈ list.head?, holds first := by
  cases list with
  | nil => simp
  | cons head rest =>
      rw [List.pairwise_cons] at ordered
      simp only [List.forall_mem_cons, List.head?_cons, Option.mem_some_iff, forall_eq',
        and_iff_left_iff_imp]
      intro now later member
      exact passes head later (ordered.1 later member) now

theorem age_le {t first later : Nat} (le : first ≤ later) : (t : Rat) - later ≤ t - first :=
  sub_le_sub_left (Nat.cast_le.mpr le) (t : Rat)

theorem windowed_iff {states : SharedStates} {counted : Counted} {t : Nat}
    (tracks : CountersTrack states counted t) (engine : BreakEngine) (config : BreakConfig)
    (requestTime : Nat) :
    counted.Windowed engine config t requestTime states ↔
      counted.InBurst engine config t requestTime states := by
  have added := tracks.add config requestTime
  unfold Counted.Windowed Counted.InBurst
  by_cases trips : states.trips engine config t requestTime
  · rw [if_pos trips, if_pos trips]
    exact forall_mem_iff_head (fun _ _ le => mt (JsNumber.passedBy_of_le (age_le le)))
      (added.ordered.sublist added.among)
  · rw [if_neg trips, if_neg trips]
    unfold Counted.check
    rw [Bool.eq_false_of_not_eq_true trips, Bool.false_or]
    by_cases isOver : states.windowOver config t
    · simp [isOver]
    · rw [if_neg isOver, or_iff_right isOver, ← forall_mem_iff_head
        (fun _ _ le => JsNumber.above_of_le (age_le le)) added.ordered]
      refine and_iff_left_of_imp fun recent arrival member => ?_
      exact recent arrival (added.among.subset member)

/-! Runs. -/

/-- What holds of the checks of a response, with what is counted before it. -/
def AtCheck (property : BreakConfig → Nat → Nat → SharedStates → Counted → Prop)
    (watched : WatchedBreak) : BreakEvent → Prop
  | .responded ref now =>
      ∀ request ∈ watched.system.waiting[ref]?,
        property request.config now request.requestTime (respondedStates watched.system)
          watched.counted
  | _ => True

instance decidableAtCheck
    {property : BreakConfig → Nat → Nat → SharedStates → Counted → Prop}
    [∀ config t requestTime states counted,
      Decidable (property config t requestTime states counted)]
    (watched : WatchedBreak) : ∀ event, Decidable (AtCheck property watched event)
  | .responded ref now => inferInstanceAs (Decidable (∀ request ∈ watched.system.waiting[ref]?,
      property request.config now request.requestTime (respondedStates watched.system)
        watched.counted))
  | .started _ _ => isTrue trivial
  | .aborted _ _ => isTrue trivial
  | .recreated _ => isTrue trivial

theorem atCheck_windowed_iff (engine : BreakEngine) {watched : WatchedBreak}
    (tracked : watched.Tracked) {event : BreakEvent} (later : watched.clock ≤ event.time) :
    AtCheck (Counted.Windowed engine) watched event ↔
      AtCheck (Counted.InBurst engine) watched event := by
  cases event with
  | responded ref now =>
      refine forall₂_congr fun request _ => ?_
      have tracks : CountersTrack (respondedStates watched.system) watched.counted now :=
        { CountersTrack.later tracked later with }
      exact windowed_iff tracks engine request.config request.requestTime
  | started config now => exact Iff.rfl
  | aborted ref now => exact Iff.rfl
  | recreated now => exact Iff.rfl

/-- Over every run the checks keep to the window exactly if each response is in its burst. -/
theorem statistics_windowed_iff (engine : BreakEngine) (events : List BreakEvent)
    (inOrder : InOrder events) :
    (∀ before event after, events = before ++ event :: after →
        AtCheck (Counted.Windowed engine) (before.foldl (watchStep engine) startWatched) event) ↔
      EveryStep (watchStep engine) (AtCheck (Counted.InBurst engine)) startWatched events := by
  rw [← everyStep_iff_split]
  exact everyStep_congr
    (fun watched event tracked later => atCheck_windowed_iff engine tracked later)
    (fun watched event tracked later _ => watchStep_tracked engine watched tracked event later)
    startWatched startWatched_tracked events (inOrder.fromStart engine)

/-- Two slow responses and a fast one. -/
def threeResponses : List BreakEvent :=
  [.started xyzBreak 100, .started xyzBreak 200, .responded 0 600, .started xyzBreak 900,
    .responded 0 950, .responded 0 1000]

theorem threeResponses_windowed :
    (∀ before event after, threeResponses = before ++ event :: after →
      AtCheck (Counted.Windowed plainBreak)
        (before.foldl (watchStep plainBreak) startWatched) event) ∧
      (threeResponses.foldl (breakStep plainBreak) startSystem).shared =
        ⟨1000, 0, 3, 2, .fin 0⟩ := by
  refine ⟨(statistics_windowed_iff plainBreak threeResponses (by decide)).mpr
    (by decide +kernel), ?_⟩
  have watched : _ = (threeResponses.foldl (breakStep plainBreak) startSystem) :=
    watched_system plainBreak threeResponses startWatched
  rw [← watched]
  decide +kernel

def spacedErrors : List BreakEvent :=
  [.started xyzBreak 100, .responded 0 600, .started xyzBreak 4100, .responded 0 4600,
    .started xyzBreak 8100]

theorem oldError_trips :
    ¬ ∀ (engine : BreakEngine) (events : List BreakEvent), InOrder events →
      ∀ before event after, events = before ++ event :: after →
        AtCheck (Counted.Windowed engine) (before.foldl (watchStep engine) startWatched) event := by
  intro claimed
  have atTrip := claimed plainBreak (spacedErrors ++ [.responded 0 8600]) (by decide)
    spacedErrors (.responded 0 8600) [] rfl ⟨xyzBreak, 8100⟩ (by decide +kernel)
  have trips : SharedStates.trips plainBreak xyzBreak 8600 8100
      (respondedStates (spacedErrors.foldl (watchStep plainBreak) startWatched).system) := by
    decide +kernel
  rw [Counted.Windowed, if_pos trips] at atTrip
  exact atTrip 600 (by decide +kernel) (by decide +kernel)

end Fgw
