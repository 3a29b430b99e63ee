import Mathlib.Data.List.Basic

/-!
Runs of a transition function over a list of events, with properties of their steps.
-/

namespace Fgw

universe u v

variable {State : Type u} {Event : Type v}

/-- Each event of the run meets the property in the state it happens in. -/
def EveryStep (step : State → Event → State) (meets : State → Event → Prop) :
    State → List Event → Prop
  | _, [] => True
  | state, event :: rest => meets state event ∧ EveryStep step meets (step state event) rest

instance decidableEveryStep {step : State → Event → State} {meets : State → Event → Prop}
    [∀ state event, Decidable (meets state event)] :
    ∀ state events, Decidable (EveryStep step meets state events)
  | _, [] => isTrue trivial
  | state, event :: rest =>
      have : Decidable (EveryStep step meets (step state event) rest) :=
        decidableEveryStep (step state event) rest
      inferInstanceAs (Decidable (_ ∧ _))

theorem everyStep_iff_split (step : State → Event → State) (meets : State → Event → Prop)
    (state : State) (events : List Event) :
    EveryStep step meets state events ↔ ∀ before event after, events = before ++ event :: after →
      meets (before.foldl step state) event := by
  induction events generalizing state with
  | nil => simp [EveryStep]
  | cons first rest ih =>
      rw [EveryStep, ih]
      constructor
      · rintro ⟨now, later⟩ (_ | ⟨head, before⟩) event after same
        · cases same
          exact now
        · rw [List.cons_append, List.cons.injEq] at same
          obtain ⟨rfl, rfl⟩ := same
          exact later before event after rfl
      · intro all
        exact ⟨all [] first rest rfl, fun before event after same =>
          all (first :: before) event after (by rw [same, List.cons_append])⟩

theorem everyStep_of_forall {step : State → Event → State} {meets : Event → Prop} {state : State}
    {events : List Event} (all : ∀ event ∈ events, meets event) :
    EveryStep step (fun _ event => meets event) state events := by
  induction events generalizing state with
  | nil => trivial
  | cons event rest ih =>
      exact ⟨all event List.mem_cons_self, ih fun other member =>
        all other (List.mem_cons_of_mem event member)⟩

theorem everyStep_append (step : State → Event → State) (meets : State → Event → Prop)
    (state : State) (first second : List Event) :
    EveryStep step meets state (first ++ second) ↔
      EveryStep step meets state first ∧ EveryStep step meets (first.foldl step state) second := by
  induction first generalizing state with
  | nil => simp [EveryStep]
  | cons event rest ih =>
      rw [List.cons_append, EveryStep, EveryStep, ih, and_assoc]
      rfl

theorem EveryStep.and {step : State → Event → State} {left right : State → Event → Prop}
    {state : State} {events : List Event} (first : EveryStep step left state events)
    (second : EveryStep step right state events) :
    EveryStep step (fun state event => left state event ∧ right state event) state events := by
  induction events generalizing state with
  | nil => trivial
  | cons event rest ih => exact ⟨⟨first.1, second.1⟩, ih first.2 second.2⟩

/-- What every step keeps, the run keeps. -/
theorem EveryStep.invariant {step : State → Event → State} {meets : State → Event → Prop}
    {inv : State → Prop} {state : State} {events : List Event}
    (every : EveryStep step meets state events)
    (keeps : ∀ state event, inv state → meets state event → inv (step state event))
    (holds : inv state) : inv (events.foldl step state) := by
  induction events generalizing state with
  | nil => exact holds
  | cons event rest ih => exact ih every.2 (keeps state event holds every.1)

/-- What a step gives under the invariant, every step of the run gives. -/
theorem EveryStep.gives {step : State → Event → State} {meets given : State → Event → Prop}
    {inv : State → Prop} {state : State} {events : List Event}
    (every : EveryStep step meets state events)
    (keeps : ∀ state event, inv state → meets state event → inv (step state event))
    (gives : ∀ state event, inv state → meets state event → given state event)
    (holds : inv state) : EveryStep step given state events := by
  induction events generalizing state with
  | nil => trivial
  | cons event rest ih =>
      exact ⟨gives state event holds every.1, ih every.2 (keeps state event holds every.1)⟩

/-- Two properties of steps are the same over runs if they agree under an invariant that the
steps with either property keep. -/
theorem everyStep_congr {step : State → Event → State} {inv : State → Prop}
    {domain left right : State → Event → Prop}
    (agree : ∀ state event, inv state → domain state event →
      (left state event ↔ right state event))
    (keeps : ∀ state event, inv state → domain state event → left state event →
      inv (step state event))
    (state : State) (holds : inv state) (events : List Event)
    (within : EveryStep step domain state events) :
    EveryStep step left state events ↔ EveryStep step right state events := by
  induction events generalizing state with
  | nil => exact Iff.rfl
  | cons event rest ih =>
      rw [EveryStep, EveryStep, ← agree state event holds within.1]
      exact and_congr_right fun now =>
        ih (step state event) (keeps state event holds within.1 now) within.2

/-- A property of states holds throughout a run if the steps that keep it are those that meet a
condition. -/
theorem everyState_iff {step : State → Event → State} {good : State → Prop}
    {meets : State → Event → Prop}
    (agree : ∀ state event, good state → (good (step state event) ↔ meets state event))
    {state : State} (start : good state) (events : List Event) :
    (∀ before after, events = before ++ after → good (before.foldl step state)) ↔
      EveryStep step meets state events := by
  induction events generalizing state with
  | nil =>
      refine ⟨fun _ => trivial, fun _ before after same => ?_⟩
      obtain rfl := (List.append_eq_nil_iff.mp same.symm).1
      exact start
  | cons event rest ih =>
      constructor
      · intro all
        have now := all [event] rest rfl
        refine ⟨(agree state event start).mp now, (ih now).mp fun before after same => ?_⟩
        exact all (event :: before) after (by rw [same, List.cons_append])
      · rintro ⟨now, later⟩ (_ | ⟨first, before⟩) after same
        · exact start
        · rw [List.cons_append, List.cons.injEq] at same
          obtain ⟨rfl, rfl⟩ := same
          exact (ih ((agree state event start).mpr now)).mpr later before after rfl

theorem foldl_invariant {step : State → Event → State} {inv : State → Prop}
    (keeps : ∀ state event, inv state → inv (step state event)) {state : State}
    (start : inv state) (events : List Event) : inv (events.foldl step state) := by
  induction events generalizing state with
  | nil => exact start
  | cons event rest ih => exact ih (keeps state event start)

/-- The counted form: the invariant says how many rounds are over. -/
theorem foldl_range_invariant {step : State → Nat → State} (inv : Nat → State → Prop)
    {count : Nat} (keeps : ∀ round < count, ∀ state, inv round state →
      inv (round + 1) (step state round)) {state : State} (start : inv 0 state) :
    inv count ((List.range count).foldl step state) := by
  induction count with
  | zero => exact start
  | succ count ih =>
      rw [List.range_succ, List.foldl_append, List.foldl_cons, List.foldl_nil]
      exact keeps count (by omega) _ (ih fun round below => keeps round (by omega))

/-! Runs that answer each event. -/

variable {Other : Type u} {Output : Type v}

def outputs (step : State → Event → Output × State) : State → List Event → List Output
  | _, [] => []
  | state, event :: rest => (step state event).1 :: outputs step (step state event).2 rest

/-- Two machines in related states answer a run alike exactly if every step is good, where a
good step is one that is answered alike, and keeps the states related. -/
theorem outputs_eq_iff {step : State → Event → Output × State}
    {other : Other → Event → Output × Other} (related : State → Other → Prop)
    {good : State → Event → Prop}
    (agree : ∀ state twin event, related state twin →
      ((step state event).1 = (other twin event).1 ↔ good state event))
    (follows : ∀ state twin event, related state twin → good state event →
      related (step state event).2 (other twin event).2)
    {state : State} {twin : Other} (start : related state twin) (events : List Event) :
    outputs step state events = outputs other twin events ↔
      EveryStep (fun state event => (step state event).2) good state events := by
  induction events generalizing state twin with
  | nil => simp [outputs, EveryStep]
  | cons event rest ih =>
      rw [outputs, outputs, EveryStep, List.cons.injEq, agree state twin event start]
      exact and_congr_right fun now => ih (follows state twin event start now)

end Fgw
