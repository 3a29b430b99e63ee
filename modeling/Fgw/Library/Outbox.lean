import Fgw.Library.Runs
import Mathlib.Logic.Function.Basic

/-!
Store and forward.  An entry stays where it was put until a copy of it that has arrived is
acknowledged; copies may be sent again, and may get lost.
-/

namespace Fgw

universe u v

/-- A copy on its way. -/
structure Flight (Key : Type u) (Content : Type v) where
  key : Key
  content : Content
  arrived : Bool

/-- `accepted` has all that was ever put; nothing else reads it. -/
structure Outbox (Key : Type u) (Content : Type v) where
  stored : Key → Option Content
  flights : List (Flight Key Content)
  received : List Content
  accepted : List (Key × Content)

inductive OutboxEvent (Key : Type u) (Content : Type v)
  | put (key : Key) (content : Content)
  | send (keys : List Key)
  | arrive (index : Nat)
  | acknowledge (index : Nat)
  | drop (index : Nat)
  | restart

namespace Outbox

variable {Key : Type u} {Content : Type v} [DecidableEq Key]

def flightOf (box : Outbox Key Content) (key : Key) : Option (Flight Key Content) :=
  (box.stored key).map fun content => ⟨key, content, false⟩

def step (box : Outbox Key Content) : OutboxEvent Key Content → Outbox Key Content
  | .put key content => { box with
      stored := Function.update box.stored key (some content)
      accepted := box.accepted ++ [(key, content)] }
  | .send keys => { box with flights := box.flights ++ keys.filterMap box.flightOf }
  | .arrive index =>
      match box.flights[index]? with
      | some flight => { box with
          flights := box.flights.set index { flight with arrived := true }
          received := box.received ++ [flight.content] }
      | none => box
  | .acknowledge index =>
      match box.flights[index]? with
      | some flight =>
          if flight.arrived then { box with
            stored := Function.update box.stored flight.key none
            flights := box.flights.eraseIdx index }
          else box
      | none => box
  | .drop index => { box with flights := box.flights.eraseIdx index }
  | .restart => { box with flights := [] }

/-- A key is used once. -/
def Fresh (box : Outbox Key Content) : OutboxEvent Key Content → Prop
  | .put key _ => ∀ content, (key, content) ∉ box.accepted
  | _ => True

structure Safe (box : Outbox Key Content) : Prop where
  kept : ∀ entry ∈ box.accepted,
    box.stored entry.1 = some entry.2 ∨ (box.stored entry.1 = none ∧ entry.2 ∈ box.received)
  stored : ∀ key content, box.stored key = some content → (key, content) ∈ box.accepted
  flown : ∀ flight ∈ box.flights, (flight.key, flight.content) ∈ box.accepted
  arrived : ∀ flight ∈ box.flights, flight.arrived = true → flight.content ∈ box.received
  received : ∀ content ∈ box.received, ∃ key, (key, content) ∈ box.accepted
  once : ∀ key first second, (key, first) ∈ box.accepted → (key, second) ∈ box.accepted →
    first = second

theorem Safe.put {box : Outbox Key Content} (safe : Safe box) {key : Key} {content : Content}
    (fresh : box.Fresh (.put key content)) : Safe (box.step (.put key content)) := by
  have known (other : Key) (value : Content) : (other, value) ∈ box.accepted ++ [(key, content)] ↔
      (other, value) ∈ box.accepted ∨ (other = key ∧ value = content) := by
    simp
  refine ⟨fun entry member => ?_, fun other value found => ?_,
    fun flight member => (known _ _).mpr (Or.inl (safe.flown flight member)), safe.arrived,
    fun value member => ?_, fun other first second one two => ?_⟩
  · rcases (known entry.1 entry.2).mp member with old | ⟨same, rfl⟩
    · have different : entry.1 ≠ key := by
        intro same
        exact fresh entry.2 (by rw [← same]; exact old)
      simpa [step, Function.update_of_ne different] using safe.kept entry old
    · left
      simp [step, same]
  · refine (known other value).mpr ?_
    by_cases same : other = key
    · subst same
      simp only [step, Function.update_self, Option.some.injEq] at found
      exact Or.inr ⟨rfl, found.symm⟩
    · simp only [step, Function.update_of_ne same] at found
      exact Or.inl (safe.stored other value found)
  · obtain ⟨other, old⟩ := safe.received value member
    exact ⟨other, (known _ _).mpr (Or.inl old)⟩
  · rcases (known other first).mp one with old | ⟨same, rfl⟩ <;>
      rcases (known other second).mp two with also | ⟨too, rfl⟩
    · exact safe.once other first second old also
    · exact absurd (too ▸ old) (fresh first)
    · exact absurd (same ▸ also) (fresh second)
    · rfl

theorem Safe.send {box : Outbox Key Content} (safe : Safe box) (keys : List Key) :
    Safe (box.step (.send keys)) := by
  have sent {flight : Flight Key Content} (member : flight ∈ keys.filterMap box.flightOf) :
      box.stored flight.key = some flight.content ∧ flight.arrived = false := by
    obtain ⟨key, _, made⟩ := List.mem_filterMap.mp member
    obtain ⟨content, found, rfl⟩ := Option.map_eq_some_iff.mp made
    exact ⟨found, rfl⟩
  refine ⟨safe.kept, safe.stored, fun flight member => ?_, fun flight member landed => ?_,
    safe.received, safe.once⟩
  · rcases List.mem_append.mp member with old | new
    · exact safe.flown flight old
    · exact safe.stored _ _ (sent new).1
  · rcases List.mem_append.mp member with old | new
    · exact safe.arrived flight old landed
    · rw [(sent new).2] at landed
      cases landed

theorem Safe.arrive {box : Outbox Key Content} (safe : Safe box) (index : Nat) :
    Safe (box.step (.arrive index)) := by
  simp only [step]
  split
  · rename_i flight here
    have inside : flight ∈ box.flights := List.mem_of_getElem? here
    refine ⟨fun entry member => (safe.kept entry member).imp_right fun gone =>
        ⟨gone.1, List.mem_append_left _ gone.2⟩, safe.stored, fun other member => ?_,
      fun other member landed => ?_, fun content member => ?_, safe.once⟩
    · rcases List.mem_or_eq_of_mem_set member with old | rfl
      · exact safe.flown other old
      · exact safe.flown flight inside
    · rcases List.mem_or_eq_of_mem_set member with old | rfl
      · exact List.mem_append_left _ (safe.arrived other old landed)
      · exact List.mem_append_right _ (List.mem_singleton.mpr rfl)
    · rcases List.mem_append.mp member with old | new
      · exact safe.received content old
      · rw [List.mem_singleton.mp new]
        exact ⟨flight.key, safe.flown flight inside⟩
  · exact safe

theorem Safe.acknowledge {box : Outbox Key Content} (safe : Safe box) (index : Nat) :
    Safe (box.step (.acknowledge index)) := by
  simp only [step]
  split
  · rename_i flight here
    have inside : flight ∈ box.flights := List.mem_of_getElem? here
    split
    · rename_i landed
      refine ⟨fun entry member => ?_, fun other value found => ?_,
        fun other member => safe.flown other (List.mem_of_mem_eraseIdx member),
        fun other member => safe.arrived other (List.mem_of_mem_eraseIdx member), safe.received,
        safe.once⟩
      · by_cases same : entry.1 = flight.key
        · right
          have content : entry.2 = flight.content := safe.once flight.key entry.2 flight.content
            (by rw [← same]; exact member) (safe.flown flight inside)
          rw [content]
          exact ⟨by simp [same], safe.arrived flight inside landed⟩
        · simpa [Function.update_of_ne same] using safe.kept entry member
      · by_cases same : other = flight.key
        · simp [same] at found
        · simp only [Function.update_of_ne same] at found
          exact safe.stored other value found
    · exact safe
  · exact safe

theorem safe_step (box : Outbox Key Content) (event : OutboxEvent Key Content) (safe : Safe box)
    (fresh : box.Fresh event) : Safe (box.step event) := by
  cases event with
  | put key content => exact safe.put fresh
  | send keys => exact safe.send keys
  | arrive index => exact safe.arrive index
  | acknowledge index => exact safe.acknowledge index
  | drop index =>
      exact ⟨safe.kept, safe.stored,
        fun other member => safe.flown other (List.mem_of_mem_eraseIdx member),
        fun other member => safe.arrived other (List.mem_of_mem_eraseIdx member), safe.received,
        safe.once⟩
  | restart =>
      exact ⟨safe.kept, safe.stored, fun _ member => (List.not_mem_nil member).elim,
        fun _ member => (List.not_mem_nil member).elim, safe.received, safe.once⟩

theorem safe_run {box : Outbox Key Content} (safe : Safe box)
    (events : List (OutboxEvent Key Content)) (fresh : EveryStep step Fresh box events) :
    Safe (events.foldl step box) :=
  fresh.invariant safe_step safe

end Outbox

end Fgw
