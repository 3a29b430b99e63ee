import Fgw.Library.Runs
import Mathlib.Logic.Function.Basic

/-!
Functions that are remembered by a part of their input.
-/

namespace Fgw

universe u v w

variable {Key : Type u} {Input : Type v} {Output : Type w} [DecidableEq Key]

/-- One call: a remembered answer, or a computed one that is remembered for the key. -/
def memoStep (key : Input → Key) (compute : Input → Output) (cache : Key → Option Output)
    (input : Input) : Output × (Key → Option Output) :=
  match cache (key input) with
  | some answer => (answer, cache)
  | none => (compute input, Function.update cache (key input) (some (compute input)))

def memoAnswers (key : Input → Key) (compute : Input → Output) (cache : Key → Option Output) :
    List Input → List Output
  | [] => []
  | input :: rest =>
      let called := memoStep key compute cache input
      called.1 :: memoAnswers key compute called.2 rest

variable {key : Input → Key} {compute : Input → Output}

theorem memoStep_hit {cache : Key → Option Output} {input : Input} {answer : Output}
    (hit : cache (key input) = some answer) :
    memoStep key compute cache input = (answer, cache) := by
  simp only [memoStep, hit]

theorem memoStep_miss {cache : Key → Option Output} {input : Input}
    (miss : cache (key input) = none) :
    memoStep key compute cache input =
      (compute input, Function.update cache (key input) (some (compute input))) := by
  simp only [memoStep, miss]

/-- What the cache has for an input is its answer. -/
def Remembers (key : Input → Key) (compute : Input → Output) (cache : Key → Option Output)
    (inputs : List Input) : Prop :=
  ∀ input ∈ inputs, ∀ answer, cache (key input) = some answer → answer = compute input

def KeyDecides (key : Input → Key) (compute : Input → Output) (inputs : List Input) : Prop :=
  ∀ first ∈ inputs, ∀ second ∈ inputs, key first = key second → compute first = compute second

omit [DecidableEq Key] in
theorem memoAnswers_hit_iff {cache : Key → Option Output} {input : Input} {rest : List Input}
    {answer : Output} (hit : cache (key input) = some answer) :
    (answer = compute input ∧ Remembers key compute cache rest ∧ KeyDecides key compute rest) ↔
      Remembers key compute cache (input :: rest) ∧ KeyDecides key compute (input :: rest) := by
  constructor
  · rintro ⟨right, remembers, decides⟩
    have shared : ∀ other ∈ rest, key input = key other → compute input = compute other := by
      intro other member same
      rw [← right]
      exact remembers other member answer (same ▸ hit)
    refine ⟨List.forall_mem_cons.mpr ⟨fun found stored => ?_, remembers⟩, ?_⟩
    · rw [hit] at stored
      rw [← Option.some.inj stored]
      exact right
    · intro first firstInside second secondInside same
      rcases List.mem_cons.mp firstInside with rfl | firstLater
      · rcases List.mem_cons.mp secondInside with rfl | secondLater
        · rfl
        · exact shared second secondLater same
      · rcases List.mem_cons.mp secondInside with rfl | secondLater
        · exact (shared first firstLater same.symm).symm
        · exact decides first firstLater second secondLater same
  · rintro ⟨remembers, decides⟩
    refine ⟨remembers input List.mem_cons_self answer hit, ?_, ?_⟩
    · exact fun other member => remembers other (List.mem_cons_of_mem input member)
    · exact fun first firstInside second secondInside => decides first
        (List.mem_cons_of_mem input firstInside) second (List.mem_cons_of_mem input secondInside)

theorem memoAnswers_miss_iff {cache : Key → Option Output} {input : Input} {rest : List Input}
    (miss : cache (key input) = none) :
    (Remembers key compute (Function.update cache (key input) (some (compute input))) rest ∧
        KeyDecides key compute rest) ↔
      Remembers key compute cache (input :: rest) ∧ KeyDecides key compute (input :: rest) := by
  have stored : Function.update cache (key input) (some (compute input)) (key input) =
      some (compute input) := Function.update_self _ _ _
  have whole := @memoAnswers_hit_iff _ _ _ key compute _ input rest _ stored
  rw [and_iff_right rfl] at whole
  refine whole.trans (and_congr_left fun decides => forall₂_congr fun other member => ?_)
  by_cases same : key other = key input
  · rw [same, stored, miss]
    simp only [Option.some.injEq, forall_eq', reduceCtorEq, false_imp_iff, implies_true, iff_true]
    exact decides input List.mem_cons_self other member same.symm
  · rw [Function.update_of_ne same]

/-- From any cache, the answers are right exactly if what it has is right for the inputs to
come, and inputs with one key have one answer. -/
theorem memoAnswers_eq_iff (cache : Key → Option Output) (inputs : List Input) :
    memoAnswers key compute cache inputs = inputs.map compute ↔
      Remembers key compute cache inputs ∧ KeyDecides key compute inputs := by
  induction inputs generalizing cache with
  | nil => simp [memoAnswers, Remembers, KeyDecides]
  | cons input rest ih =>
      rw [memoAnswers, List.map_cons, List.cons.injEq]
      cases found : cache (key input) with
      | some answer =>
          rw [memoStep_hit found, ih]
          exact memoAnswers_hit_iff found
      | none =>
          rw [memoStep_miss found, ih, and_iff_right rfl]
          exact memoAnswers_miss_iff found

theorem memoAnswers_new_iff (inputs : List Input) :
    memoAnswers key compute (fun _ => none) inputs = inputs.map compute ↔
      KeyDecides key compute inputs := by
  rw [memoAnswers_eq_iff]
  exact and_iff_right fun _ _ _ stored => nomatch stored

/-! Functions that are remembered by the whole of their input. -/

/-- The cache has nothing but what it would compute. -/
def Faithful {Input : Type v} (compute : Input → Output) (cache : Input → Option Output) : Prop :=
  ∀ input answer, cache input = some answer → answer = compute input

theorem faithful_new {Input : Type v} (compute : Input → Output) :
    Faithful compute fun _ => none := fun _ _ stored => nomatch stored

theorem Faithful.memoStep {Input : Type v} [DecidableEq Input] {compute : Input → Output}
    {cache : Input → Option Output} (faithful : Faithful compute cache) (input : Input) :
    (memoStep id compute cache input).1 = compute input ∧
      Faithful compute (memoStep id compute cache input).2 := by
  unfold Fgw.memoStep
  cases found : cache (id input) with
  | some answer => exact ⟨faithful input answer found, faithful⟩
  | none =>
      refine ⟨rfl, fun other answer stored => ?_⟩
      dsimp only at stored
      rw [Function.update_apply] at stored
      split at stored
      · rename_i same
        rw [same]
        exact (Option.some.inj stored).symm
      · exact faithful other answer stored

/-! Functions that may fail; a failure is not remembered. -/

def memoTry {ε : Type u} {Input : Type v} [DecidableEq Input] (compute : Input → Except ε Output)
    (cache : Input → Option Output) (input : Input) :
    Except ε Output × (Input → Option Output) :=
  match cache input with
  | some answer => (.ok answer, cache)
  | none =>
      match compute input with
      | .ok answer => (.ok answer, Function.update cache input (some answer))
      | .error failure => (.error failure, cache)

/-- The cache has nothing but what it would compute without a failure. -/
def FaithfulTry {ε : Type u} {Input : Type v} (compute : Input → Except ε Output)
    (cache : Input → Option Output) : Prop :=
  ∀ input answer, cache input = some answer → compute input = .ok answer

theorem FaithfulTry.update {ε : Type u} {Input : Type v} [DecidableEq Input]
    {compute : Input → Except ε Output} {cache : Input → Option Output}
    (faithful : FaithfulTry compute cache) {input : Input} {answer : Output}
    (computed : compute input = .ok answer) :
    FaithfulTry compute (Function.update cache input (some answer)) := by
  intro other found stored
  rw [Function.update_apply] at stored
  split at stored
  · rename_i same
    rw [same, computed, Option.some.inj stored]
  · exact faithful other found stored

theorem FaithfulTry.memoTry {ε : Type u} {Input : Type v} [DecidableEq Input]
    {compute : Input → Except ε Output} {cache : Input → Option Output}
    (faithful : FaithfulTry compute cache) (input : Input) :
    (memoTry compute cache input).1 = compute input ∧
      FaithfulTry compute (memoTry compute cache input).2 := by
  unfold Fgw.memoTry
  cases found : cache input with
  | some answer => exact ⟨(faithful input answer found).symm, faithful⟩
  | none =>
      cases computed : compute input with
      | error failure => exact ⟨rfl, faithful⟩
      | ok answer => exact ⟨rfl, faithful.update computed⟩

/-! Functions whose answers are forgotten from time to time. -/

inductive MemoEvent (Key : Type u) (Input : Type v)
  | call (input : Input)
  | forget (key : Key)

def forgetfulStep (key : Input → Key) (compute : Input → Output) (cache : Key → Option Output) :
    MemoEvent Key Input → Option Output × (Key → Option Output)
  | .call input =>
      let called := memoStep key compute cache input
      (some called.1, called.2)
  | .forget gone => (none, Function.update cache gone none)

def forgetfulAnswers (key : Input → Key) (compute : Input → Output) (cache : Key → Option Output) :
    List (MemoEvent Key Input) → List (Option Output)
  | [] => []
  | event :: rest =>
      let called := forgetfulStep key compute cache event
      called.1 :: forgetfulAnswers key compute called.2 rest

def MemoEvent.answer (compute : Input → Output) : MemoEvent Key Input → Option Output
  | call input => some (compute input)
  | forget _ => none

/-- What the cache has for an input is its answer, unless it is forgotten before. -/
def RemembersUntil (key : Input → Key) (compute : Input → Output) (cache : Key → Option Output)
    (events : List (MemoEvent Key Input)) : Prop :=
  ∀ before input after, events = before ++ .call input :: after → .forget (key input) ∉ before →
    ∀ answer, cache (key input) = some answer → answer = compute input

/-- Inputs with one key have the answer of this one until it is forgotten. -/
def AgreesUntil (key : Input → Key) (compute : Input → Output) (input : Input)
    (events : List (MemoEvent Key Input)) : Prop :=
  ∀ before other after, events = before ++ .call other :: after → .forget (key other) ∉ before →
    key input = key other → compute input = compute other

/-- Inputs with one key have one answer, as long as nothing is forgotten between them. -/
def KeyDecidesUntil (key : Input → Key) (compute : Input → Output)
    (events : List (MemoEvent Key Input)) : Prop :=
  ∀ before input after, events = before ++ .call input :: after →
    AgreesUntil key compute input after

omit [DecidableEq Key] in
theorem remembersUntil_call {cache : Key → Option Output} {input : Input}
    {rest : List (MemoEvent Key Input)} :
    RemembersUntil key compute cache (.call input :: rest) ↔
      (∀ answer, cache (key input) = some answer → answer = compute input) ∧
        RemembersUntil key compute cache rest := by
  constructor
  · intro remembers
    refine ⟨remembers [] input rest rfl List.not_mem_nil, fun before other after same kept => ?_⟩
    refine remembers (.call input :: before) other after (by rw [same, List.cons_append]) ?_
    intro forgotten
    exact kept ((List.mem_cons.mp forgotten).resolve_left (by simp))
  · rintro ⟨first, later⟩ (_ | ⟨event, before⟩) other after same kept
    · cases same
      exact first
    · rw [List.cons_append, List.cons.injEq] at same
      exact later before other after same.2 fun forgotten =>
        kept (List.mem_cons_of_mem _ forgotten)

theorem remembersUntil_forget {cache : Key → Option Output} {gone : Key}
    {rest : List (MemoEvent Key Input)} :
    RemembersUntil key compute cache (.forget gone :: rest) ↔
      RemembersUntil key compute (Function.update cache gone none) rest := by
  constructor
  · intro remembers before input after same kept answer stored
    rw [Function.update_apply] at stored
    split at stored
    · cases stored
    · rename_i different
      refine remembers (.forget gone :: before) input after (by rw [same, List.cons_append]) ?_
        answer stored
      intro forgotten
      rcases List.mem_cons.mp forgotten with now | later
      · exact different (MemoEvent.forget.inj now)
      · exact kept later
  · rintro remembers (_ | ⟨event, before⟩) input after same kept answer stored
    · cases same
    · rw [List.cons_append, List.cons.injEq] at same
      obtain ⟨rfl, same⟩ := same
      have different : key input ≠ gone := by
        rintro rfl
        exact kept List.mem_cons_self
      refine remembers before input after same
        (fun forgotten => kept (List.mem_cons_of_mem _ forgotten)) answer ?_
      rw [Function.update_of_ne different]
      exact stored

omit [DecidableEq Key] in
theorem keyDecidesUntil_call {input : Input} {rest : List (MemoEvent Key Input)} :
    KeyDecidesUntil key compute (.call input :: rest) ↔
      AgreesUntil key compute input rest ∧ KeyDecidesUntil key compute rest := by
  constructor
  · intro decides
    exact ⟨decides [] input rest rfl, fun before other after same =>
      decides (.call input :: before) other after (by rw [same, List.cons_append])⟩
  · rintro ⟨first, later⟩ (_ | ⟨event, before⟩) other after same
    · cases same
      exact first
    · rw [List.cons_append, List.cons.injEq] at same
      exact later before other after same.2

omit [DecidableEq Key] in
theorem keyDecidesUntil_forget {gone : Key} {rest : List (MemoEvent Key Input)} :
    KeyDecidesUntil key compute (.forget gone :: rest) ↔ KeyDecidesUntil key compute rest := by
  constructor
  · intro decides before other after same
    exact decides (.forget gone :: before) other after (by rw [same, List.cons_append])
  · rintro decides (_ | ⟨event, before⟩) other after same
    · cases same
    · rw [List.cons_append, List.cons.injEq] at same
      exact decides before other after same.2

omit [DecidableEq Key] in
theorem forgetful_hit_iff {cache : Key → Option Output} {input : Input}
    {rest : List (MemoEvent Key Input)} {answer : Output}
    (hit : cache (key input) = some answer) :
    (answer = compute input ∧ RemembersUntil key compute cache rest ∧
        KeyDecidesUntil key compute rest) ↔
      RemembersUntil key compute cache (.call input :: rest) ∧
        KeyDecidesUntil key compute (.call input :: rest) := by
  rw [remembersUntil_call, keyDecidesUntil_call, hit]
  simp only [Option.some.injEq, forall_eq']
  constructor
  · rintro ⟨right, remembers, decides⟩
    refine ⟨⟨right, remembers⟩, fun before other after same kept equal => ?_, decides⟩
    rw [← right]
    exact remembers before other after same kept answer (equal ▸ hit)
  · rintro ⟨⟨right, remembers⟩, _, decides⟩
    exact ⟨right, remembers, decides⟩

theorem forgetful_miss_iff {cache : Key → Option Output} {input : Input}
    {rest : List (MemoEvent Key Input)} (miss : cache (key input) = none) :
    (RemembersUntil key compute (Function.update cache (key input) (some (compute input))) rest ∧
        KeyDecidesUntil key compute rest) ↔
      RemembersUntil key compute cache (.call input :: rest) ∧
        KeyDecidesUntil key compute (.call input :: rest) := by
  have stored : Function.update cache (key input) (some (compute input)) (key input) =
      some (compute input) := Function.update_self _ _ _
  have whole := @forgetful_hit_iff _ _ _ key compute _ input rest _ stored
  rw [and_iff_right rfl] at whole
  rw [whole, remembersUntil_call, remembersUntil_call, keyDecidesUntil_call, stored, miss]
  simp only [Option.some.injEq, forall_eq', reduceCtorEq, false_imp_iff, implies_true, true_and]
  refine and_congr_left fun decides => forall₄_congr fun before other after same =>
    forall_congr' fun kept => ?_
  by_cases equal : key other = key input
  · rw [equal, stored, miss]
    simp only [Option.some.injEq, forall_eq', reduceCtorEq, false_imp_iff, implies_true, iff_true]
    exact decides.1 before other after same kept equal.symm
  · rw [Function.update_of_ne equal]

/-- The answers are right exactly if inputs with one key have one answer, as long as it is not
forgotten between them. -/
theorem forgetful_eq_iff (cache : Key → Option Output) (events : List (MemoEvent Key Input)) :
    forgetfulAnswers key compute cache events = events.map (MemoEvent.answer compute) ↔
      RemembersUntil key compute cache events ∧ KeyDecidesUntil key compute events := by
  induction events generalizing cache with
  | nil => simp [forgetfulAnswers, RemembersUntil, KeyDecidesUntil]
  | cons event rest ih =>
      rw [forgetfulAnswers, List.map_cons, List.cons.injEq, ih]
      cases event with
      | call input =>
          rw [forgetfulStep, MemoEvent.answer]
          dsimp only
          rw [Option.some.injEq]
          cases found : cache (key input) with
          | some answer =>
              rw [memoStep_hit found]
              exact forgetful_hit_iff found
          | none =>
              rw [memoStep_miss found, and_iff_right rfl]
              exact forgetful_miss_iff found
      | forget gone =>
          rw [remembersUntil_forget, keyDecidesUntil_forget]
          exact and_iff_right rfl

theorem forgetful_new_iff (events : List (MemoEvent Key Input)) :
    forgetfulAnswers key compute (fun _ => none) events =
        events.map (MemoEvent.answer compute) ↔ KeyDecidesUntil key compute events := by
  rw [forgetful_eq_iff]
  exact and_iff_right fun _ _ _ _ _ _ stored => nomatch stored

end Fgw
