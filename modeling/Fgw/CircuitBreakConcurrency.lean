import Fgw.Library.Runs
import Fgw.CircuitBreakCore

/-!
The shared concurrency against the requests that wait for a response.
-/

namespace Fgw

/-- The concurrency is the number of waiting requests. -/
def Conserved (system : BreakSystem) : Prop := system.shared.concurrency = system.waiting.length

/-- No waiting request ends without a response, and the filter is created again only when
nothing is waiting. -/
def KeepsCount (system : BreakSystem) : BreakEvent → Prop
  | .aborted ref _ => system.waiting.length ≤ ref
  | .recreated _ => system.waiting = []
  | _ => True

theorem check_concurrency (engine : BreakEngine) (config : BreakConfig) (t requestTime : Nat)
    (states : SharedStates) :
    (states.check engine config t requestTime).concurrency = states.concurrency := by
  unfold SharedStates.check
  dsimp only
  split
  · rfl
  · split <;> rfl

theorem step_conserved_iff (engine : BreakEngine) (system : BreakSystem)
    (conserved : Conserved system) (event : BreakEvent) :
    Conserved (breakStep engine system event) ↔ KeepsCount system event := by
  unfold Conserved at conserved ⊢
  cases event with
  | started config now =>
      simp only [breakStep, startRequest, KeepsCount, iff_true]
      split
      · exact conserved
      · simp [conserved]
  | responded ref now =>
      simp only [breakStep, KeepsCount, iff_true]
      cases here : system.waiting[ref]? with
      | none => exact conserved
      | some request =>
          obtain ⟨below, _⟩ := List.getElem?_eq_some_iff.mp here
          simp only [check_concurrency, respondedStates, List.length_eraseIdx, if_pos below]
          omega
  | aborted ref now =>
      simp only [breakStep, KeepsCount, List.length_eraseIdx]
      split
      · omega
      · omega
  | recreated now =>
      simp only [breakStep, KeepsCount, SharedStates.fresh]
      rw [← List.length_eq_zero_iff]
      omega

/-- Over every run the concurrency is conserved exactly if every step keeps the count. -/
theorem concurrency_conserved_iff (engine : BreakEngine) (events : List BreakEvent) :
    (∀ before after, events = before ++ after →
        Conserved (before.foldl (breakStep engine) startSystem)) ↔
      EveryStep (breakStep engine) KeepsCount startSystem events :=
  everyState_iff (fun system event conserved => step_conserved_iff engine system conserved event)
    (rfl : Conserved startSystem) events

/-! A client that goes away. -/

theorem abortedRequest_stays_counted :
    ¬ ∀ (engine : BreakEngine) (events before after : List BreakEvent),
      events = before ++ after → Conserved (before.foldl (breakStep engine) startSystem) := by
  intro claimed
  have conserved := claimed plainBreak [.started xyzBreak 1, .aborted 0 2]
    [.started xyzBreak 1, .aborted 0 2] [] rfl
  unfold Conserved at conserved
  exact absurd conserved (by decide +kernel)

end Fgw
