import Fgw.ScriptValue
import Mathlib.Algebra.Order.Floor.Semiring
import Mathlib.Data.ENat.Lattice
import Mathlib.Data.List.TakeWhile
import Mathlib.Data.Rat.Floor

/-!
The retry pipeline of a rule of the HTTP router: which statuses are retried, and the loop that
sends the request again until a response is passed to the client.
-/

namespace Fgw

def parseDecimal (text : List Char) : Option Nat :=
  let digits := text.takeWhile Char.isDigit
  if digits = [] then none else some (Nat.ofDigitChars 10 digits 0)

def hexDigit (c : Char) : Option Nat :=
  if c.isDigit then some (c.toNat - '0'.toNat)
  else if 'a' ≤ c ∧ c ≤ 'f' then some (c.toNat - 'a'.toNat + 10)
  else if 'A' ≤ c ∧ c ≤ 'F' then some (c.toNat - 'A'.toNat + 10)
  else none

def parseHex (text : List Char) : Option Nat :=
  let digits := (text.map hexDigit).takeWhile Option.isSome
  if digits = [] then none
  else some (digits.foldl (fun sofar digit => 16 * sofar + digit.getD 0) 0)

def parseMagnitude : List Char → Option Nat
  | '0' :: 'x' :: rest => parseHex rest
  | '0' :: 'X' :: rest => parseHex rest
  | rest => parseDecimal rest

/-- `Number.parseInt`, where `none` is `NaN`. -/
def parseInt (text : List Char) : Option Int :=
  match text.dropWhile fun c => isSpaceCode c.toNat with
  | '-' :: rest => (parseMagnitude rest).map fun magnitude => -(magnitude : Int)
  | '+' :: rest => (parseMagnitude rest).map Int.ofNat
  | rest => (parseMagnitude rest).map Int.ofNat

inductive RetryCode
  | text (written : String)
  | number (value : Nat)
  deriving DecidableEq

/-- `code.toString()` -/
def RetryCode.print : RetryCode → List Char
  | .text written => written.toList
  | .number value => (toString value).toList

/-- A configuration without `attempts` compares the counter with `undefined`, which is never
larger: it is one with 0 attempts. -/
structure RetryConfig where
  codes : Option (List RetryCode)
  attempts : Rat
  backoff : Rat

/-- The keys that one code adds to `retryCodes`. -/
def RetryCode.keys (code : RetryCode) : List (Option Int) :=
  if code.print.drop 1 = ['x', 'x'] then
    let base := parseInt (code.print.take 1 ++ ['0', '0'])
    (List.range 100).map fun i => base.map (· + Int.ofNat i)
  else [parseInt code.print]

def RetryConfig.listCodes (config : RetryConfig) : List RetryCode :=
  config.codes.getD [.text "5xx"]

def RetryConfig.retryCodes (config : RetryConfig) : List (Option Int) :=
  config.listCodes.flatMap RetryCode.keys

/-- `status in retryCodes` -/
def RetryConfig.needRetry (config : RetryConfig) (status : Nat) : Bool :=
  some (status : Int) ∈ config.retryCodes

/-- The head of a response, with `$ctx.target` at that time. -/
structure UpstreamResponse (Target : Type) where
  status : Nat
  target : Target
  deriving DecidableEq

/-- An entry of `$ctx.retries`. -/
structure Retry (Target : Type) where
  target : Target
  succeeded : Bool
  deriving DecidableEq

inductive RetryAnswer
  | retry
  | conclude
  deriving DecidableEq

/-- `$retryCounter` and `$ctx.retries`. -/
structure RetryState (Target : Type) where
  retryCounter : Nat
  retries : List (Retry Target)

namespace RetryState

variable {Target : Type}

def logged (state : RetryState Target) (response : UpstreamResponse Target) (needRetry : Bool) :
    List (Retry Target) :=
  if 0 < state.retryCounter then state.retries ++ [⟨response.target, !needRetry⟩]
  else state.retries

/-- The function that picks the branch for the head of a response. -/
def branch (config : RetryConfig) (state : RetryState Target)
    (response : UpstreamResponse Target) : RetryAnswer × RetryState Target :=
  let needRetry := config.needRetry response.status
  let retries := state.logged response needRetry
  if needRetry then
    if ((state.retryCounter + 1 : Nat) : Rat) < config.attempts then
      (.retry, ⟨state.retryCounter + 1, retries⟩)
    else (.conclude, ⟨0, retries⟩)
  else (.conclude, ⟨state.retryCounter, retries⟩)

/-- The callback of `repeat`: the wait before the next iteration, if it asks for one. -/
def again (config : RetryConfig) (state : RetryState Target) : Option Rat :=
  if 0 < state.retryCounter then some (config.backoff * 2 ^ (state.retryCounter - 1)) else none

end RetryState

/-- The loop of one request.  `requests` counts what was sent upstream and `passed` holds the
responses that the client gets. -/
structure RetryLoop (Target : Type) where
  state : RetryState Target
  requests : Nat
  passed : List (UpstreamResponse Target)
  running : Bool

namespace RetryLoop

variable {Target : Type}

def start : RetryLoop Target := ⟨⟨0, []⟩, 0, [], true⟩

/-- The branch `retry` replaces the response by the end of the stream. -/
def iterate (config : RetryConfig) (loop : RetryLoop Target)
    (response : UpstreamResponse Target) : RetryLoop Target :=
  if loop.running then
    let answered := loop.state.branch config response
    { state := answered.2
      requests := loop.requests + 1
      passed := if answered.1 = .conclude then loop.passed ++ [response] else loop.passed
      running := (answered.2.again config).isSome }
  else loop

def after (config : RetryConfig) (responses : Nat → UpstreamResponse Target) :
    Nat → RetryLoop Target
  | 0 => start
  | count + 1 => (after config responses count).iterate config (responses count)

end RetryLoop

/-! Codes as they are written in configurations. -/

def RetryCode.Documented : RetryCode → Prop
  | .text written =>
      (∃ digit < 10, written = toString digit ++ "xx") ∨ ∃ value : Nat, written = toString value
  | .number _ => True

/-- A class `Nxx` covers a hundred statuses, a number covers itself. -/
def RetryCode.Covers (status : Nat) : RetryCode → Prop
  | .text written =>
      (∃ digit < 10, written = toString digit ++ "xx" ∧ status / 100 = digit) ∨
        written = toString status
  | .number value => status = value

def RetryConfig.Covered (config : RetryConfig) (status : Nat) : Prop :=
  ∃ code ∈ config.listCodes, code.Covers status

theorem parseMagnitude_digits {digits : List Char} (nonempty : digits ≠ [])
    (all : ∀ c ∈ digits, c.isDigit = true) :
    parseMagnitude digits = some (Nat.ofDigitChars 10 digits 0) := by
  unfold parseMagnitude
  split
  · exact absurd (all 'x' (by simp)) (by decide)
  · exact absurd (all 'X' (by simp)) (by decide)
  · have taken : digits.takeWhile Char.isDigit = digits := List.takeWhile_eq_self_iff.mpr all
    simp [parseDecimal, taken, nonempty]

theorem parseInt_digits {digits : List Char} (nonempty : digits ≠ [])
    (all : ∀ c ∈ digits, c.isDigit = true) :
    parseInt digits = some (Int.ofNat (Nat.ofDigitChars 10 digits 0)) := by
  have kept : (digits.dropWhile fun c => isSpaceCode c.toNat) = digits := by
    cases digits with
    | nil => rfl
    | cons c rest =>
        rw [List.dropWhile_cons_of_neg]
        rw [isSpaceCode_digit (all c List.mem_cons_self)]
        exact Bool.false_ne_true
  rw [parseInt, kept]
  split
  · exact absurd (all '-' (by simp)) (by decide)
  · exact absurd (all '+' (by simp)) (by decide)
  · rw [parseMagnitude_digits nonempty all]
    rfl

theorem parseInt_toString (n : Nat) : parseInt (toString n).toList = some (Int.ofNat n) := by
  have printed : (toString n).toList = Nat.toDigits 10 n := by simp
  rw [printed, parseInt_digits Nat.toDigits_ne_nil fun c member =>
    Nat.isDigit_of_mem_toDigits (by decide) (by decide) member, Nat.ofDigitChars_ten_toDigits]

theorem keys_number {code : RetryCode} {value : Nat}
    (printed : code.print = (toString value).toList) : code.keys = [some (Int.ofNat value)] := by
  rw [RetryCode.keys, if_neg, printed, parseInt_toString]
  rw [printed]
  intro shape
  have member : 'x' ∈ (toString value).toList := List.mem_of_mem_drop (shape ▸ List.mem_cons_self)
  have digit : 'x'.isDigit = true :=
    Nat.isDigit_of_mem_toDigits (b := 10) (n := value) (by decide) (by decide) (by simpa using member)
  exact absurd digit (by decide)

theorem keys_class {code : RetryCode} {digit : Nat} (below : digit < 10)
    (printed : code.print = (toString digit ++ "xx").toList) :
    code.keys = (List.range 100).map fun i => some (Int.ofNat (100 * digit + i)) := by
  have shown : (toString digit).toList = [Nat.digitChar digit] := by
    simp [Nat.toDigits_of_lt_base below]
  have digits : ∀ c ∈ [Nat.digitChar digit, '0', '0'], c.isDigit = true := by
    intro c member
    rcases List.mem_cons.mp member with rfl | zero
    · rw [Nat.isDigit_digitChar, decide_eq_true below]
    · simp only [List.mem_cons, List.not_mem_nil, or_false, or_self] at zero
      rw [zero]
      rfl
  have base : parseInt [Nat.digitChar digit, '0', '0'] = some (Int.ofNat (100 * digit)) := by
    rw [parseInt_digits (List.cons_ne_nil _ _) digits, Nat.ofDigitChars_cons_digitChar_of_lt_ten below]
    congr 2
    simp [Nat.ofDigitChars_cons]
    omega
  have spelled : code.print = [Nat.digitChar digit, 'x', 'x'] := by
    rw [printed, String.toList_append, shown]
    rfl
  rw [RetryCode.keys, spelled, List.drop_one, List.tail_cons, if_pos rfl]
  simp [base]

theorem mem_keys_of_covers {code : RetryCode} {status : Nat} (covers : code.Covers status) :
    some (status : Int) ∈ code.keys := by
  cases code with
  | text written =>
      rcases covers with ⟨digit, below, rfl, hundreds⟩ | rfl
      · rw [keys_class below rfl, List.mem_map]
        exact ⟨status % 100, List.mem_range.mpr (Nat.mod_lt _ (by decide)), by
          rw [← hundreds, Nat.div_add_mod]
          rfl⟩
      · rw [keys_number rfl]
        exact List.mem_singleton_self _
  | number value =>
      rw [keys_number rfl, show status = value from covers]
      exact List.mem_singleton_self _

theorem mem_keys_iff {code : RetryCode} (documented : code.Documented) (status : Nat) :
    some (status : Int) ∈ code.keys ↔ code.Covers status := by
  refine ⟨?_, mem_keys_of_covers⟩
  intro member
  cases code with
  | text written =>
      rcases documented with ⟨digit, below, rfl⟩ | ⟨value, rfl⟩
      · rw [keys_class below rfl, List.mem_map] at member
        obtain ⟨i, within, same⟩ := member
        have equal : 100 * digit + i = status := Int.ofNat.inj (Option.some.inj same)
        exact .inl ⟨digit, below, rfl, by have := List.mem_range.mp within; omega⟩
      · rw [keys_number rfl, List.mem_singleton] at member
        have equal : status = value := by simpa using member
        exact .inr (by rw [equal])
  | number value =>
      rw [keys_number rfl, List.mem_singleton] at member
      simpa [RetryCode.Covers] using member

theorem needRetry_iff {config : RetryConfig}
    (documented : ∀ code ∈ config.listCodes, code.Documented) (status : Nat) :
    config.needRetry status = true ↔ config.Covered status := by
  simp only [RetryConfig.needRetry, RetryConfig.retryCodes, decide_eq_true_eq, List.mem_flatMap]
  constructor
  · rintro ⟨code, listed, member⟩
    exact ⟨code, listed, (mem_keys_iff (documented code listed) status).mp member⟩
  · rintro ⟨code, listed, covers⟩
    exact ⟨code, listed, mem_keys_of_covers covers⟩

/-! The loop, from the first response to the one that concludes it. -/

/-- The most requests that one request of a client is turned into. -/
def RetryConfig.limit (config : RetryConfig) : Nat := max 1 ⌈config.attempts⌉₊

theorem lt_attempts_iff (config : RetryConfig) (count : Nat) :
    ((count + 1 : Nat) : Rat) < config.attempts ↔ count + 1 < config.limit := by
  rw [← Nat.lt_ceil, RetryConfig.limit]
  omega

namespace RetryState

variable {Target : Type} {config : RetryConfig} {state : RetryState Target}
  {response : UpstreamResponse Target}

theorem branch_retry (covered : config.needRetry response.status = true)
    (below : state.retryCounter + 1 < config.limit) :
    state.branch config response =
      (.retry, ⟨state.retryCounter + 1, state.logged response true⟩) := by
  simp only [branch, covered, if_true, (lt_attempts_iff config state.retryCounter).mpr below]

theorem branch_giveUp (covered : config.needRetry response.status = true)
    (reached : config.limit ≤ state.retryCounter + 1) :
    state.branch config response = (.conclude, ⟨0, state.logged response true⟩) := by
  have spent : ¬ ((state.retryCounter + 1 : Nat) : Rat) < config.attempts := by
    rw [lt_attempts_iff]
    omega
  simp only [branch, covered, if_true, spent, if_false]

theorem branch_success (uncovered : config.needRetry response.status = false) :
    state.branch config response =
      (.conclude, ⟨state.retryCounter, state.logged response false⟩) := by
  simp only [branch, uncovered, Bool.false_eq_true, if_false]

end RetryState

namespace RetryLoop

variable {Target : Type} {config : RetryConfig} {responses : Nat → UpstreamResponse Target}

/-- The record of the first `count` responses after the first one. -/
def recorded (config : RetryConfig) (responses : Nat → UpstreamResponse Target) (count : Nat) :
    List (Retry Target) :=
  (List.range count).map fun i =>
    ⟨(responses (i + 1)).target, !config.needRetry (responses (i + 1)).status⟩

theorem logged_recorded (count : Nat) :
    RetryState.logged ⟨count, recorded config responses (count - 1)⟩ (responses count)
      (config.needRetry (responses count).status) = recorded config responses count := by
  cases count with
  | zero => rfl
  | succ count => simp [RetryState.logged, recorded, List.range_succ]

theorem after_retrying {count : Nat} (below : count < config.limit)
    (covered : ∀ i < count, config.needRetry (responses i).status = true) :
    after config responses count =
      ⟨⟨count, recorded config responses (count - 1)⟩, count, [], true⟩ := by
  induction count with
  | zero => rfl
  | succ count ih =>
      have now := covered count (by omega)
      have logged := @logged_recorded _ config responses count
      rw [now] at logged
      rw [after, ih (by omega) fun i before => covered i (by omega), iterate, if_pos rfl,
        RetryState.branch_retry now below, logged]
      rfl

theorem after_success {count : Nat} (below : count < config.limit)
    (covered : ∀ i < count, config.needRetry (responses i).status = true)
    (uncovered : config.needRetry (responses count).status = false) :
    after config responses (count + 1) =
      ⟨⟨count, recorded config responses count⟩, count + 1, [responses count],
        decide (0 < count)⟩ := by
  have logged := @logged_recorded _ config responses count
  rw [uncovered] at logged
  rw [after, after_retrying below covered, iterate, if_pos rfl,
    RetryState.branch_success uncovered, logged]
  cases count with
  | zero => rfl
  | succ count => rfl

theorem after_giveUp {count : Nat} (last : count + 1 = config.limit)
    (covered : ∀ i ≤ count, config.needRetry (responses i).status = true) :
    after config responses (count + 1) =
      ⟨⟨0, recorded config responses count⟩, count + 1, [responses count], false⟩ := by
  have now := covered count (Nat.le_refl count)
  have logged := @logged_recorded _ config responses count
  rw [now] at logged
  rw [after, after_retrying (by omega) fun i before => covered i (by omega), iterate, if_pos rfl,
    RetryState.branch_giveUp now (Nat.le_of_eq last.symm), logged]
  rfl

/-- The response at which the loop concludes: the first that is not covered, or the last that is
allowed. -/
theorem exists_concluding (config : RetryConfig) (responses : Nat → UpstreamResponse Target) :
    ∃ count < config.limit, (∀ i < count, config.needRetry (responses i).status = true) ∧
      (config.needRetry (responses count).status = false ∨ count + 1 = config.limit) := by
  have positive : 1 ≤ config.limit := Nat.le_max_left 1 _
  have ends : ∃ count, config.needRetry (responses count).status = false ∨
      count + 1 = config.limit := ⟨config.limit - 1, .inr (by omega)⟩
  refine ⟨Nat.find ends, ?_, ?_, Nat.find_spec ends⟩
  · have first := @Nat.find_min' _ _ ends (config.limit - 1) (.inr (by omega))
    omega
  · intro i before
    have goes := Nat.find_min ends before
    simpa using fun uncovered => goes (.inl uncovered)

theorem after_stopped {stop count : Nat} (stopped : (after config responses stop).running = false)
    (le : stop ≤ count) : after config responses count = after config responses stop := by
  induction count, le using Nat.le_induction with
  | base => rfl
  | succ count le ih => rw [after, ih, iterate, stopped, if_neg Bool.false_ne_true]

/-- The callback asks for no iteration after `conclude` and for one after `retry`, and nothing is
sent after a response was passed. -/
def StopsOnceConcluded (config : RetryConfig) (responses : Nat → UpstreamResponse Target) : Prop :=
  (∀ count, (after config responses count).running = true →
    let answered := (after config responses count).state.branch config (responses count)
    (answered.1 = .conclude → answered.2.again config = none) ∧
      (answered.1 = .retry → answered.2.again config = some (config.backoff * 2 ^ count))) ∧
  ∀ count later, (after config responses count).passed ≠ [] → count ≤ later →
    (after config responses later).requests = (after config responses count).requests

theorem lt_of_running {count stop : Nat} (stopped : (after config responses stop).running = false)
    (running : (after config responses count).running = true) : count < stop := by
  by_contra reached
  rw [after_stopped stopped (by omega), stopped] at running
  exact Bool.false_ne_true running

theorem stopsOnceConcluded_of_stopped {concluding : Nat} (below : concluding < config.limit)
    (covered : ∀ i < concluding, config.needRetry (responses i).status = true)
    (ends : config.needRetry (responses concluding).status = false ∨
      concluding + 1 = config.limit)
    (stopped : (after config responses (concluding + 1)).running = false) :
    StopsOnceConcluded config responses := by
  have retrying : ∀ count ≤ concluding, after config responses count =
      ⟨⟨count, recorded config responses (count - 1)⟩, count, [], true⟩ := by
    intro count le
    exact after_retrying (by omega) fun i before => covered i (by omega)
  constructor
  · intro count running
    have le := lt_of_running stopped running
    simp only [retrying count (by omega)]
    by_cases now : config.needRetry (responses count).status = true
    · by_cases last : count + 1 = config.limit
      · rw [RetryState.branch_giveUp now (Nat.le_of_eq last.symm)]
        exact ⟨fun _ => rfl, nofun⟩
      · have before : count + 1 < config.limit := by omega
        rw [RetryState.branch_retry now before]
        exact ⟨nofun, fun _ => rfl⟩
    · have uncovered : config.needRetry (responses count).status = false := by simpa using now
      have reached : count = concluding := by
        by_contra other
        exact now (covered count (by omega))
      subst reached
      rw [after_success below covered uncovered] at stopped
      have first : count = 0 := by simpa using stopped
      rw [RetryState.branch_success uncovered, first]
      exact ⟨fun _ => rfl, nofun⟩
  · intro count later passed le
    have reached : concluding + 1 ≤ count := by
      by_contra before
      rw [retrying count (by omega)] at passed
      exact passed rfl
    rw [after_stopped stopped reached, after_stopped stopped (by omega)]

/-- The loop stops with the response that it passes exactly if the first response is passed, or
none of the allowed ones is a success. -/
theorem stopsOnceConcluded_iff (config : RetryConfig)
    (responses : Nat → UpstreamResponse Target) :
    StopsOnceConcluded config responses ↔
      config.needRetry (responses 0).status = false ∨
        ∀ count < max 1 ⌈config.attempts⌉₊, config.needRetry (responses count).status = true := by
  obtain ⟨concluding, below, covered, ends⟩ := exists_concluding config responses
  rw [← RetryConfig.limit]
  constructor
  · intro stops
    by_contra neither
    simp only [not_or, not_forall, Bool.not_eq_false, Bool.not_eq_true] at neither
    obtain ⟨retried, later, within, passed⟩ := neither
    have between : concluding ≤ later := by
      by_contra beyond
      rw [covered later (by omega)] at passed
      exact Bool.false_ne_true passed.symm
    have uncovered : config.needRetry (responses concluding).status = false := by
      rcases ends with uncovered | last
      · exact uncovered
      · rwa [show concluding = later by omega]
    have positive : 0 < concluding := by
      by_contra first
      rw [show concluding = 0 by omega, retried] at uncovered
      exact Bool.false_ne_true uncovered.symm
    -- The counter is left alone by the success, so the callback asks for another request.
    have success := after_success below covered uncovered
    have sent := stops.2 (concluding + 1) (concluding + 2) (by rw [success]; exact nofun) (by omega)
    rw [after, success, iterate, if_pos (decide_eq_true positive)] at sent
    exact absurd sent (Nat.succ_ne_self _)
  · intro safe
    apply stopsOnceConcluded_of_stopped below covered ends
    rcases safe with uncovered | all
    · have first : concluding = 0 := by
        by_contra later
        rw [covered 0 (by omega)] at uncovered
        exact Bool.false_ne_true uncovered.symm
      subst first
      rw [after_success below covered uncovered]
      rfl
    · have last : concluding + 1 = config.limit := by
        rcases ends with uncovered | last
        · rw [all concluding below] at uncovered
          exact absurd uncovered.symm Bool.false_ne_true
        · exact last
      rw [after_giveUp last fun i le => all i (by omega)]

/-- The position of the first response whose status is not covered. -/
noncomputable def firstUncovered (config : RetryConfig)
    (responses : Nat → UpstreamResponse Target) : ℕ∞ :=
  ⨅ (i : Nat) (_ : ¬ config.Covered (responses i).status), ((i + 1 : Nat) : ℕ∞)

theorem min_firstUncovered {concluding most : Nat} (below : concluding < most)
    (covered : ∀ i < concluding, config.Covered (responses i).status)
    (ends : ¬ config.Covered (responses concluding).status ∨ concluding + 1 = most) :
    min (firstUncovered config responses) (most : ℕ∞) = ((concluding + 1 : Nat) : ℕ∞) := by
  have least : ((concluding + 1 : Nat) : ℕ∞) ≤ firstUncovered config responses := by
    apply le_iInf₂
    intro i uncovered
    have le : concluding ≤ i := by
      by_contra before
      exact uncovered (covered i (by omega))
    exact_mod_cast Nat.succ_le_succ le
  apply le_antisymm
  · rcases ends with uncovered | last
    · exact (min_le_left _ _).trans (iInf₂_le concluding uncovered)
    · rw [last]
      exact min_le_right _ _
  · exact le_min least (by exact_mod_cast below)

/-- The response number `requests` is the first that concludes, with the record of all of them. -/
structure ConcludedWith (config : RetryConfig) (responses : Nat → UpstreamResponse Target)
    (requests : Nat) : Prop where
  before : ∀ count < requests, (after config responses count).passed = []
  sent : (after config responses requests).requests = requests
  passed : (after config responses requests).passed = [responses (requests - 1)]
  targets : (after config responses requests).state.retries.map Retry.target =
    (List.range (requests - 1)).map fun i => (responses (i + 1)).target
  failed : ∀ retry ∈ (after config responses requests).state.retries.dropLast,
    retry.succeeded = false
  last : ∀ retry ∈ (after config responses requests).state.retries.getLast?,
    (retry.succeeded = true ↔ ¬ config.Covered (responses (requests - 1)).status)

theorem after_concluding {concluding : Nat} (below : concluding < config.limit)
    (covered : ∀ i < concluding, config.needRetry (responses i).status = true)
    (ends : config.needRetry (responses concluding).status = false ∨
      concluding + 1 = config.limit) :
    ∃ counter running, after config responses (concluding + 1) =
      ⟨⟨counter, recorded config responses concluding⟩, concluding + 1, [responses concluding],
        running⟩ := by
  by_cases last : config.needRetry (responses concluding).status = true
  · have spent : concluding + 1 = config.limit := by
      rcases ends with uncovered | spent
      · rw [last] at uncovered
        exact absurd uncovered.symm Bool.false_ne_true
      · exact spent
    refine ⟨0, false, after_giveUp spent ?_⟩
    intro i le
    rcases Nat.lt_or_eq_of_le le with before | rfl
    · exact covered i before
    · exact last
  · exact ⟨_, _, after_success below covered (by simpa using last)⟩

theorem recorded_dropLast (count : Nat) :
    (recorded config responses count).dropLast = recorded config responses (count - 1) := by
  cases count with
  | zero => rfl
  | succ count => simp [recorded, List.range_succ]

theorem recorded_getLast? (count : Nat) : ∀ retry ∈ (recorded config responses count).getLast?,
    retry.succeeded = !config.needRetry (responses count).status := by
  intro retry last
  cases count with
  | zero => exact absurd last (by simp [recorded])
  | succ count =>
      rw [recorded, List.range_succ, List.map_append, List.map_singleton,
        List.getLast?_concat] at last
      exact congrArg Retry.succeeded (Option.some.inj last).symm

theorem retries_exact (config : RetryConfig)
    (documented : ∀ code ∈ config.listCodes, code.Documented)
    (responses : Nat → UpstreamResponse Target) :
    ∃ requests : Nat, (requests : ℕ∞) =
        min (firstUncovered config responses) ((max 1 ⌈config.attempts⌉₊ : Nat) : ℕ∞) ∧
      ConcludedWith config responses requests := by
  obtain ⟨concluding, below, covered, ends⟩ := exists_concluding config responses
  obtain ⟨counter, running, concluded⟩ := after_concluding below covered ends
  have uncovered_iff : config.needRetry (responses concluding).status = false ↔
      ¬ config.Covered (responses concluding).status := by
    rw [← needRetry_iff documented, Bool.not_eq_true]
  refine ⟨concluding + 1, ?_, ?_⟩
  · rw [uncovered_iff] at ends
    exact (min_firstUncovered below
      (fun i before => (needRetry_iff documented _).mp (covered i before)) ends).symm
  · constructor
    · intro count before
      rw [after_retrying (by omega) fun i less => covered i (by omega)]
    · rw [concluded]
    · rw [concluded]
      rfl
    · rw [concluded, recorded, List.map_map]
      rfl
    · intro retry member
      rw [concluded, recorded_dropLast, recorded] at member
      obtain ⟨i, within, rfl⟩ := List.mem_map.mp member
      rw [List.mem_range] at within
      rw [covered (i + 1) (by omega)]
      rfl
    · intro retry member
      rw [concluded] at member
      rw [recorded_getLast? concluding retry member, Nat.add_sub_cancel, ← uncovered_iff]
      cases config.needRetry (responses concluding).status
      · exact iff_of_true rfl rfl
      · exact iff_of_false Bool.false_ne_true (Ne.symm Bool.false_ne_true)

end RetryLoop

/-- What one request adds to the counters of retries. -/
structure RetryMetrics where
  retry : Nat
  retrySuccess : Nat
  retryLimitExceeded : Nat
  retryBackoffExponential : Nat

def retryMetrics {Target : Type} (retries : List (Retry Target)) : RetryMetrics :=
  match retries.getLast? with
  | none => ⟨0, 0, 0, 0⟩
  | some last =>
      ⟨1, last.succeeded.toNat, (!last.succeeded).toNat, if 1 < retries.length then 1 else 0⟩

theorem retryMetrics_concluded {Target : Type} {config : RetryConfig}
    {responses : Nat → UpstreamResponse Target} {requests : Nat}
    (concluded : RetryLoop.ConcludedWith config responses requests) :
    let counted := retryMetrics (RetryLoop.after config responses requests).state.retries
    (counted.retry = 1 ↔ 1 < requests) ∧
      (counted.retrySuccess = 1 ↔
        1 < requests ∧ ¬ config.Covered (responses (requests - 1)).status) ∧
      (counted.retryLimitExceeded = 1 ↔
        1 < requests ∧ config.Covered (responses (requests - 1)).status) ∧
      (counted.retryBackoffExponential = 1 ↔ 2 < requests) := by
  have length := congrArg List.length concluded.targets
  rw [List.length_map, List.length_map, List.length_range] at length
  unfold retryMetrics
  cases ends : (RetryLoop.after config responses requests).state.retries.getLast? with
  | none =>
      rw [List.getLast?_eq_none_iff.mp ends, List.length_nil] at length
      have few : ¬ 1 < requests := by omega
      have fewer : ¬ 2 < requests := by omega
      simp [few, fewer]
  | some last =>
      have several : 0 < (RetryLoop.after config responses requests).state.retries.length := by
        rw [List.length_pos_iff_ne_nil]
        intro empty
        rw [empty] at ends
        cases ends
      have verdict := concluded.last last ends
      rw [length] at several ⊢
      have many : 1 < requests := by omega
      have more : 1 < requests - 1 ↔ 2 < requests := by omega
      cases succeeded : last.succeeded
      · rw [succeeded] at verdict
        simp_all
      · rw [succeeded] at verdict
        simp_all

/-! The configuration of the test. -/

def testRetry : RetryConfig := ⟨some [.text "5xx", .number 403], 3, 1 / 10⟩

def answers (statuses : List Nat) (rest : Nat) (request : Nat) : UpstreamResponse Nat :=
  ⟨statuses.getD request rest, request⟩

theorem retries_exact_test : ∃ requests : Nat, (requests : ℕ∞) =
      min (RetryLoop.firstUncovered testRetry (answers [503, 403] 200))
        ((max 1 ⌈testRetry.attempts⌉₊ : Nat) : ℕ∞) ∧
    RetryLoop.ConcludedWith testRetry (answers [503, 403] 200) requests := by
  apply RetryLoop.retries_exact
  intro code member
  rcases List.mem_pair.mp member with rfl | rfl
  · exact .inl ⟨5, by decide, rfl⟩
  · trivial

theorem retried_after_success :
    ¬ ∀ (config : RetryConfig) (responses : Nat → UpstreamResponse Nat),
      RetryLoop.StopsOnceConcluded config responses := by
  intro claimed
  have concluded := ((claimed testRetry (answers [503] 200)).1 1 (by decide +kernel)).1
    (by decide +kernel)
  exact absurd concluded (by decide +kernel)

end Fgw
