import Mathlib.Data.Rat.Cast.Order
import Mathlib.Tactic.Linarith
import Fgw.CircuitBreakWatch

/-!
How long one circuit breaker stays open.
-/

namespace Fgw

/-- An event of the one instance with this configuration, which is not created again. -/
def BreakEvent.Of (config : BreakConfig) : BreakEvent → Prop
  | .started other _ => other = config
  | .responded _ _ => True
  | .aborted _ _ => True
  | .recreated _ => False

/-- What `brokenBefore` is after these trips. -/
def openUntil (interval : Rat) (trips : List Nat) : JsNumber :=
  match trips.getLast? with
  | none => .fin 0
  | some trip => .fin (trip + interval)

structure OpenBy (config : BreakConfig) (interval : Rat) (watched : WatchedBreak) : Prop where
  waiting : ∀ request ∈ watched.system.waiting, request.config = config
  ordered : watched.trips.Pairwise (· ≤ ·)
  past : ∀ trip ∈ watched.trips, trip ≤ watched.clock
  broken : watched.system.shared.brokenBefore = openUntil interval watched.trips

theorem startWatched_openBy (config : BreakConfig) (interval : Rat) :
    OpenBy config interval startWatched :=
  ⟨fun _ member => absurd member List.not_mem_nil, .nil,
    fun _ member => absurd member List.not_mem_nil, rfl⟩

theorem check_brokenBefore (engine : BreakEngine) (config : BreakConfig) (t requestTime : Nat)
    (states : SharedStates) :
    (states.check engine config t requestTime).brokenBefore =
      if states.trips engine config t requestTime then config.breakInterval.plus t
      else states.brokenBefore := by
  unfold SharedStates.check
  dsimp only
  by_cases trips : states.trips engine config t requestTime
  · rw [if_pos trips, if_pos trips]
  · rw [if_neg trips, if_neg trips]
    split
    · rfl
    · rfl

theorem openUntil_append (interval : Rat) (trips : List Nat) (trip : Nat) :
    openUntil interval (trips ++ [trip]) = .fin (trip + interval) := by
  simp [openUntil]

theorem respond_openBy (engine : BreakEngine) {config : BreakConfig} {interval : Rat}
    (finite : config.breakInterval = .fin interval) {watched : WatchedBreak}
    (isOpen : OpenBy config interval watched) (ref now : Nat) (later : watched.clock ≤ now) :
    OpenBy config interval (watchStep engine watched (.responded ref now)) := by
  have past : ∀ trip ∈ watched.trips, trip ≤ now :=
    fun trip member => (isOpen.past trip member).trans later
  simp only [watchStep, breakStep, WatchedBreak.tripsAfter]
  cases here : watched.system.waiting[ref]? with
  | none => exact ⟨isOpen.waiting, isOpen.ordered, past, isOpen.broken⟩
  | some request =>
      have config_eq := isOpen.waiting request (List.mem_of_getElem? here)
      have waiting : ∀ request ∈ watched.system.waiting.eraseIdx ref, request.config = config :=
        fun other member => isOpen.waiting other (List.mem_of_mem_eraseIdx member)
      by_cases trips : (respondedStates watched.system).trips engine request.config now
          request.requestTime
      · simp only [trips, ↓reduceIte]
        refine ⟨waiting, ?_, ?_, ?_⟩
        · refine List.pairwise_append.mpr ⟨isOpen.ordered, List.pairwise_singleton _ now, ?_⟩
          intro trip member last same
          rw [List.mem_singleton.mp same]
          exact past trip member
        · intro trip member
          rcases List.mem_append.mp member with old | new
          · exact past trip old
          · exact (List.mem_singleton.mp new).le
        · rw [check_brokenBefore, if_pos trips, config_eq, finite, openUntil_append]
          rfl
      · simp only [trips]
        refine ⟨waiting, isOpen.ordered, past, ?_⟩
        rw [check_brokenBefore, if_neg trips]
        exact isOpen.broken

theorem watchStep_openBy (engine : BreakEngine) {config : BreakConfig} {interval : Rat}
    (finite : config.breakInterval = .fin interval) {watched : WatchedBreak}
    (isOpen : OpenBy config interval watched) (event : BreakEvent)
    (later : watched.clock ≤ event.time) (ours : event.Of config) :
    OpenBy config interval (watchStep engine watched event) := by
  have past : ∀ trip ∈ watched.trips, trip ≤ event.time :=
    fun trip member => (isOpen.past trip member).trans later
  cases event with
  | responded ref now => exact respond_openBy engine finite isOpen ref now later
  | started other now =>
      refine ⟨?_, isOpen.ordered, past, ?_⟩
      · simp only [watchStep, breakStep, startRequest]
        split
        · exact isOpen.waiting
        · intro request member
          rcases List.mem_append.mp member with old | new
          · exact isOpen.waiting request old
          · rw [List.mem_singleton.mp new]
            exact ours
      · simp only [watchStep, breakStep, startRequest]
        split
        · exact isOpen.broken
        · exact isOpen.broken
  | aborted ref now =>
      exact ⟨fun request member => isOpen.waiting request (List.mem_of_mem_eraseIdx member),
        isOpen.ordered, past, isOpen.broken⟩
  | recreated now => exact ours.elim

theorem isBroken_fin {states : SharedStates} {value : Rat}
    (broken : states.brokenBefore = .fin value) (now : Nat) :
    states.isBroken now ↔ (now : Rat) < value := by
  simp only [SharedStates.isBroken, broken, JsNumber.truthy, JsNumber.above, Bool.and_eq_true,
    decide_eq_true_eq, and_iff_right_iff_imp]
  rintro below rfl
  exact absurd below (not_lt.mpr (Nat.cast_nonneg now))

theorem OpenBy.isBroken_iff {config : BreakConfig} {interval : Rat} {watched : WatchedBreak}
    (isOpen : OpenBy config interval watched) {now : Nat} (later : watched.clock ≤ now) :
    watched.system.shared.isBroken now ↔
      ∃ trip ∈ watched.trips, trip ≤ now ∧ (now : Rat) < trip + interval := by
  have broken := isOpen.broken
  rcases List.eq_nil_or_concat watched.trips with none | ⟨earlier, last, trips⟩
  · rw [none] at broken
    rw [isBroken_fin broken, none]
    simp
  · rw [List.concat_eq_append] at trips
    rw [trips, openUntil_append] at broken
    rw [isBroken_fin broken]
    have ordered := isOpen.ordered
    rw [trips, List.pairwise_append] at ordered
    constructor
    · intro below
      have member : last ∈ watched.trips := by simp [trips]
      exact ⟨last, member, (isOpen.past last member).trans later, below⟩
    · rintro ⟨trip, member, -, below⟩
      have le : trip ≤ last := by
        rw [trips] at member
        rcases List.mem_append.mp member with old | new
        · exact ordered.2.2 trip old last List.mem_cons_self
        · exact (List.mem_singleton.mp new).le
      have le_cast : (trip : Rat) ≤ last := Nat.cast_le.mpr le
      linarith

/-- The breaker trips at 1700 and is open until 4200. -/
def slowStart : List BreakEvent :=
  [.started xyzBreak 100, .started xyzBreak 100, .started xyzBreak 100,
    .responded 0 1500, .responded 0 1600, .responded 0 1700]

end Fgw
