import Fgw.Library.Table
import Fgw.Library.WeightedChoice
import Fgw.RouterHttpRetry

/-!
The shares of requests that a configuration gives to backends, mirrors and tracing, and the
weights that the balancers are made with.
-/

namespace Fgw

namespace Shares

/-! The backends of a rule. -/

structure BackendRef where
  name : String
  weight : Option ℚ
  deriving DecidableEq

structure SelectorTarget where
  id : Option String
  backendRef : Option BackendRef
  weight : ℚ
  deriving DecidableEq

def makeBackendTarget (backendRef : Option BackendRef) : SelectorTarget where
  id := backendRef.map BackendRef.name
  backendRef := backendRef
  weight := orNumber (backendRef.bind BackendRef.weight) 1

def selectorTargets (refs : List BackendRef) : List SelectorTarget :=
  refs.map fun ref => makeBackendTarget (some ref)

def selections (balancers : Balancers) (refs : List BackendRef) (calls : List BalancerCall) :
    List (Option SelectorTarget) :=
  if 1 < refs.length then
    balancers.answers
      (balancers.make (selectorTargets refs) SelectorTarget.id SelectorTarget.weight) calls
  else
    calls.map fun call =>
      match call with
      | .allocate _ => some (makeBackendTarget refs.head?)
      | .free _ => none

def BackendRef.share (ref : BackendRef) : ℚ := ref.weight.getD 1

structure SelectorShares (balancers : Balancers) (refs : List BackendRef) : Prop where
  weights : ∀ ref ∈ refs, (makeBackendTarget (some ref)).weight = ref.share
  unselected : ∀ idle ∈ refs, idle.share = 0 → ∀ other ∈ refs, 0 < other.share →
    ∀ calls, some (makeBackendTarget (some idle)) ∉ selections balancers refs calls

/-! Mirrored requests. -/

structure Fraction where
  numerator : ℚ
  denominator : ℚ
  deriving DecidableEq

/-- `config.requestMirror`, with the first target of its backend if there is one. -/
structure MirrorConfig where
  target : Option String
  percent : Option ℚ
  fraction : Option Fraction

/-- The weights of a bypassed and of a mirrored request, if a sampler is made. -/
def MirrorConfig.sampler (config : MirrorConfig) : Option (ℚ × ℚ) :=
  match config.percent.filter fun percent => percent ≠ 0, config.fraction with
  | some percent, _ => some (100 - percent, percent)
  | none, some fraction => some (fraction.denominator - fraction.numerator, fraction.numerator)
  | none, none => none

/-- Two targets, of which the true one is weighted by the share. -/
def makeSampler (balancers : Balancers) (weight0 weight1 : ℚ) : balancers.State Bool :=
  balancers.make [true, false] (fun _ => none) fun target => if target then weight1 else weight0

/-- For each of a number of requests, whether it is mirrored.  There is no answer where the
sampler allocates nothing, and the script throws. -/
def mirrored (balancers : Balancers) (config : MirrorConfig) (requests : Nat) :
    List (Option Bool) :=
  match config.target, config.sampler with
  | none, _ => List.replicate requests (some false)
  | some _, none => List.replicate requests (some true)
  | some _, some (weight0, weight1) =>
      balancers.answers (makeSampler balancers weight0 weight1)
        (List.replicate requests (.allocate none))

def MirrorConfig.shares (config : MirrorConfig) : Option (ℚ × ℚ) :=
  match config.percent, config.fraction with
  | some percent, _ => some (100 - percent, percent)
  | none, some fraction => some (fraction.denominator - fraction.numerator, fraction.numerator)
  | none, none => none

structure MirrorShares (balancers : Balancers) (config : MirrorConfig) : Prop where
  weights : ∀ made, config.sampler = some made → config.shares = some made
  unmirrored : ∀ bypassed, config.shares = some (bypassed, 0) → 0 < bypassed →
    ∀ requests, some true ∉ mirrored balancers config requests

/-! Sampled traces. -/

/-- A percentage and the text it becomes; a whole number is written in digits. -/
structure Percentage where
  value : ℚ
  written : String
  lower : 0 ≤ value
  upper : value ≤ 100
  digits : ∀ n : Nat, value = n → written = toString n

/-- `Number.parseInt(config.zipkin.samplePercentage) || 100` -/
def samplePercentage (configured : Option Percentage) : Int :=
  orNumber (configured.bind fun percentage => parseInt percentage.written.toList) 100

def sampleWeight (configured : Option Percentage) (target : Bool) : ℚ :=
  if target then samplePercentage configured else 100 - samplePercentage configured

/-- The headers of a request after the handler, given what the decider has allocated. -/
def zipkinHeaders (randomId : String) (allocated : Bool) (headers : Table Value) : Table Value :=
  let read (name : String) := (headers.get? name).getD .undefined
  let traceId := read "x-b3-traceid"
  let spanId := read "x-b3-spanid"
  let sampled := read "x-b3-sampled"
  let headers := if spanId.truthy then headers.set "x-b3-parentspanid" spanId else headers
  let headers := if traceId.truthy then headers else headers.set "x-b3-traceid" (.str randomId)
  let headers := if sampled.truthy then headers
    else headers.set "x-b3-sampled" (.num (if allocated then "1" else "0"))
  headers.set "x-b3-spanid" (.str (String.ofList (randomId.toList.drop 16)))

/-- A request that no one before has decided on. -/
def undecided (headers : Table Value) : Bool :=
  !((headers.get? "x-b3-sampled").getD .undefined).truthy

/-- The headers of a run of requests, each with its random identifier.  The decider is asked
only for undecided ones. -/
def traced (balancers : Balancers) :
    balancers.State Bool → List (String × Table Value) → List (Option (Table Value))
  | _, [] => []
  | decider, (randomId, headers) :: rest =>
      if undecided headers then
        (balancers.call decider (.allocate none)).1.map (zipkinHeaders randomId · headers) ::
          traced balancers (balancers.call decider (.allocate none)).2 rest
      else some (zipkinHeaders randomId false headers) :: traced balancers decider rest

def makeDecider (balancers : Balancers) (configured : Option Percentage) :
    balancers.State Bool :=
  balancers.make [true, false] (fun _ => none) (sampleWeight configured)

def sampleShare (configured : Option Percentage) : ℚ := (configured.map Percentage.value).getD 100

structure SampleShares (balancers : Balancers) (configured : Option Percentage) : Prop where
  weights : sampleWeight configured true = sampleShare configured ∧
    sampleWeight configured false = 100 - sampleShare configured
  unsampled : sampleShare configured = 0 → ∀ requests : List (String × Table Value),
    ∀ pair ∈ requests.zip (traced balancers (makeDecider balancers configured) requests),
      undecided pair.1.2 = true →
        ∀ headers ∈ pair.2, headers.get? "x-b3-sampled" = some (.num "0")

section Laws

variable {balancers : Balancers}

theorem orNumber_eq_getD_iff {α : Type} [OfNat α 0] [DecidableEq α] {configured : Option α}
    {fallback : α} (filled : fallback ≠ 0) :
    orNumber configured fallback = configured.getD fallback ↔ configured ≠ some 0 := by
  cases configured with
  | none => simp [orNumber]
  | some value =>
      by_cases zero : value = 0
      · simp [orNumber, zero, filled]
      · simp [orNumber, zero]

theorem makeBackendTarget_weight_iff (ref : BackendRef) :
    (makeBackendTarget (some ref)).weight = ref.share ↔ ref.weight ≠ some 0 :=
  orNumber_eq_getD_iff one_ne_zero

theorem mem_selectorTargets {refs : List BackendRef} {ref : BackendRef} (member : ref ∈ refs) :
    makeBackendTarget (some ref) ∈ selectorTargets refs :=
  List.mem_map_of_mem member

theorem selectorShares_of_weights (byWeight : balancers.ByWeight) {refs : List BackendRef}
    (several : 1 < refs.length)
    (weights : ∀ ref ∈ refs, (makeBackendTarget (some ref)).weight = ref.share) :
    SelectorShares balancers refs := by
  refine ⟨weights, ?_⟩
  intro idle inside unshared other member busy calls
  rw [selections, if_pos several]
  refine byWeight.unallocated ?_ (mem_selectorTargets member) ?_ calls
  · rw [weights idle inside, unshared]
  · rw [weights other member]
    exact busy

theorem selectorShares_iff (byWeight : balancers.ByWeight) (refs : List BackendRef)
    (several : 1 < refs.length) :
    SelectorShares balancers refs ↔ ∀ ref ∈ refs, ref.weight ≠ some 0 := by
  constructor
  · intro kept ref member
    exact (makeBackendTarget_weight_iff ref).mp (kept.weights ref member)
  · intro explicit
    apply selectorShares_of_weights byWeight several
    intro ref member
    exact (makeBackendTarget_weight_iff ref).mpr (explicit ref member)

theorem unmirrored_of_weights (byWeight : balancers.ByWeight) {bypassed : ℚ}
    (passes : 0 < bypassed) (requests : Nat) :
    some true ∉ balancers.answers (makeSampler balancers bypassed 0)
      (List.replicate requests (.allocate none)) := by
  have inside : false ∈ [true, false] := by decide
  exact @Balancers.ByWeight.unallocated balancers byWeight Bool [true, false] (fun _ => none)
    (fun target => if target then 0 else bypassed) true false (if_pos rfl) inside
    (by rw [if_neg Bool.false_ne_true]; exact passes) _

/-- An explicit percentage of zero is kept only where nothing can be mirrored anyway, or the
fraction asks for nothing of a hundred. -/
def MirrorConfig.Kept (config : MirrorConfig) : Prop :=
  config.percent = some 0 →
    config.target = none ∧ config.fraction = none ∨ config.fraction = some ⟨0, 100⟩

theorem mirrorShares_of_sampler (byWeight : balancers.ByWeight) {config : MirrorConfig}
    (same : config.sampler = config.shares) : MirrorShares balancers config := by
  constructor
  · intro made sampler
    exact same.symm.trans sampler
  · intro bypassed shares passes requests
    rw [mirrored, same, shares]
    cases config.target with
    | none => simp
    | some target => exact unmirrored_of_weights byWeight passes requests

theorem sampler_of_ne_zero {config : MirrorConfig} (nonzero : config.percent ≠ some 0) :
    config.sampler = config.shares := by
  obtain ⟨target, percent, fraction⟩ := config
  cases percent with
  | none => rfl
  | some percent =>
      have kept : percent ≠ 0 := fun zero => nonzero (congrArg some zero)
      rw [MirrorConfig.sampler, Option.filter_some_pos (by simpa using kept)]
      rfl

/-- With a percentage of zero, the sampler is made of the fraction alone. -/
theorem sampler_of_zero {config : MirrorConfig} (zero : config.percent = some 0) :
    config.sampler = config.fraction.map fun fraction =>
      (fraction.denominator - fraction.numerator, fraction.numerator) := by
  have dropped : (some (0 : ℚ)).filter (fun percent => percent ≠ 0) = none := by
    rw [Option.filter_some_neg (by simp)]
  rw [MirrorConfig.sampler, zero, dropped]
  cases config.fraction with
  | none => rfl
  | some fraction => rfl

theorem shares_of_zero {config : MirrorConfig} (zero : config.percent = some 0) :
    config.shares = some (100, 0) := by
  rw [MirrorConfig.shares, zero]
  norm_num

theorem kept_of_mirrorShares {config : MirrorConfig} (kept : MirrorShares balancers config)
    (zero : config.percent = some 0) :
    config.target = none ∧ config.fraction = none ∨ config.fraction = some ⟨0, 100⟩ := by
  have sampler := sampler_of_zero zero
  have shares := shares_of_zero zero
  cases given : config.fraction with
  | some fraction =>
      rw [given, Option.map_some] at sampler
      have same := kept.weights _ sampler
      rw [shares, Option.some.injEq, Prod.mk.injEq] at same
      obtain ⟨rest, zeroed⟩ := same
      rw [← zeroed, sub_zero] at rest
      refine .inr (congrArg some ?_)
      rw [Fraction.mk.injEq]
      exact ⟨zeroed.symm, rest.symm⟩
  | none =>
      refine .inl ⟨?_, rfl⟩
      cases aimed : config.target with
      | none => rfl
      | some target =>
          have never := kept.unmirrored 100 shares (by norm_num) 1
          rw [mirrored, aimed, sampler, given] at never
          exact absurd (List.mem_cons_self) never

theorem mirrorShares_iff (byWeight : balancers.ByWeight) (config : MirrorConfig) :
    MirrorShares balancers config ↔ config.Kept := by
  constructor
  · intro kept zero
    exact kept_of_mirrorShares kept zero
  · intro kept
    by_cases zero : config.percent = some 0
    · rcases kept zero with ⟨aimless, unfractioned⟩ | whole
      · constructor
        · intro made sampler
          rw [sampler_of_zero zero, unfractioned] at sampler
          cases sampler
        · intro bypassed _ _ requests
          rw [mirrored, aimless]
          simp
      · apply mirrorShares_of_sampler byWeight
        rw [sampler_of_zero zero, shares_of_zero zero, whole]
        norm_num
    · exact mirrorShares_of_sampler byWeight (sampler_of_ne_zero zero)

theorem traced_cases {requests : List (String × Table Value)} {decider : balancers.State Bool}
    {pair : (String × Table Value) × Option (Table Value)}
    (member : pair ∈ requests.zip (traced balancers decider requests))
    (unset : undecided pair.1.2 = true) :
    ∃ asked, ∃ answer ∈ balancers.answers decider (List.replicate asked (.allocate none)),
      pair.2 = answer.map (zipkinHeaders pair.1.1 · pair.1.2) := by
  induction requests generalizing decider with
  | nil => cases member
  | cons request rest ih =>
      obtain ⟨randomId, headers⟩ := request
      rw [traced] at member
      by_cases decided : undecided headers = true
      · rw [if_pos decided, List.zip_cons_cons, List.mem_cons] at member
        rcases member with rfl | later
        · exact ⟨1, _, List.mem_cons_self, rfl⟩
        · obtain ⟨asked, answer, given, same⟩ := ih later
          exact ⟨asked + 1, answer, List.mem_cons_of_mem _ given, same⟩
      · rw [if_neg decided, List.zip_cons_cons, List.mem_cons] at member
        rcases member with rfl | later
        · exact absurd unset decided
        · exact ih later

theorem get?_zipkinHeaders {randomId : String} {allocated : Bool} {headers : Table Value}
    (unset : undecided headers = true) :
    (zipkinHeaders randomId allocated headers).get? "x-b3-sampled" =
      some (.num (if allocated then "1" else "0")) := by
  have untrue : ((headers.get? "x-b3-sampled").getD .undefined).truthy = false := by
    simpa [undecided] using unset
  dsimp only [zipkinHeaders]
  rw [Table.get?_set_ne _ _ (by decide), untrue, if_neg Bool.false_ne_true, Table.get?_set_self]

theorem sampleShares_of_weights (byWeight : balancers.ByWeight) {configured : Option Percentage}
    (weights : ∀ target, sampleWeight configured target =
      if target then sampleShare configured else 100 - sampleShare configured) :
    SampleShares balancers configured := by
  refine ⟨⟨weights true, weights false⟩, ?_⟩
  intro unshared requests pair member unset headers own
  obtain ⟨asked, answer, given, same⟩ := traced_cases member unset
  have inside : false ∈ [true, false] := by decide
  have never := @Balancers.ByWeight.unallocated balancers byWeight Bool [true, false]
    (fun _ => none) (sampleWeight configured) true false
    (by rw [weights, if_pos rfl, unshared]) inside (by rw [weights, unshared]; norm_num)
    (List.replicate asked (.allocate none))
  cases answer with
  | none =>
      rw [same] at own
      cases own
  | some allocated =>
      cases allocated with
      | true => exact absurd given never
      | false =>
          rw [same] at own
          cases own
          exact get?_zipkinHeaders unset

theorem samplePercentage_eq_iff (percentage : Percentage) :
    (samplePercentage (some percentage) : ℚ) = percentage.value ↔
      ∃ n : Nat, percentage.value = n ∧ n ≠ 0 := by
  have whole (n : Nat) (value : percentage.value = n) :
      samplePercentage (some percentage) = if n = 0 then 100 else (n : Int) := by
    rw [samplePercentage, Option.bind_some, percentage.digits n value, parseInt_toString, orNumber]
    simp
  constructor
  · intro same
    have lower : (0 : ℚ) ≤ samplePercentage (some percentage) := by
      rw [same]
      exact percentage.lower
    obtain ⟨n, natural⟩ := Int.eq_ofNat_of_zero_le (Int.cast_nonneg_iff.mp lower)
    have value : percentage.value = n := by
      rw [← same, natural]
      norm_cast
    refine ⟨n, value, ?_⟩
    rintro rfl
    rw [whole 0 value] at natural
    cases natural
  · rintro ⟨n, value, nonzero⟩
    rw [whole n value, if_neg nonzero, value]
    norm_cast

theorem sampleShares_iff (byWeight : balancers.ByWeight) (configured : Option Percentage) :
    SampleShares balancers configured ↔
      ∀ percentage ∈ configured, ∃ n : Nat, percentage.value = n ∧ n ≠ 0 := by
  constructor
  · rintro kept percentage rfl
    exact (samplePercentage_eq_iff percentage).mp kept.weights.1
  · intro whole
    have same : (samplePercentage configured : ℚ) = sampleShare configured := by
      cases configured with
      | none => rfl
      | some percentage => exact (samplePercentage_eq_iff percentage).mpr (whole percentage rfl)
    apply sampleShares_of_weights byWeight
    intro target
    rw [sampleWeight, same]

end Laws

/-- Every share is kept exactly if no reference has an explicit weight of zero, a percentage of
mirrored requests is not zero unless nothing else makes a difference, and a percentage of sampled
requests is a whole number other than zero. -/
theorem shares_kept_iff (balancers : Balancers) (byWeight : balancers.ByWeight) :
    (∀ refs, 1 < refs.length →
      (SelectorShares balancers refs ↔ ∀ ref ∈ refs, ref.weight ≠ some 0)) ∧
    (∀ config, MirrorShares balancers config ↔ config.Kept) ∧
    ∀ configured, SampleShares balancers configured ↔
      ∀ percentage ∈ configured, ∃ n : Nat, percentage.value = n ∧ n ≠ 0 :=
  ⟨selectorShares_iff byWeight, mirrorShares_iff byWeight, sampleShares_iff byWeight⟩

theorem shares_kept_inTurn :
    (∀ refs, 1 < refs.length →
      (SelectorShares Balancers.inTurn refs ↔ ∀ ref ∈ refs, ref.weight ≠ some 0)) ∧
    (∀ config, MirrorShares Balancers.inTurn config ↔ config.Kept) ∧
    ∀ configured, SampleShares Balancers.inTurn configured ↔
      ∀ percentage ∈ configured, ∃ n : Nat, percentage.value = n ∧ n ≠ 0 :=
  shares_kept_iff Balancers.inTurn Balancers.inTurn_byWeight

/-! A rule whose first backend is to get nothing. -/

def drained : BackendRef := ⟨"old", some 0⟩

def serving : BackendRef := ⟨"new", some 5⟩

theorem drained_selected :
    ¬ ∀ (balancers : Balancers), balancers.ByWeight →
      (∀ refs, 1 < refs.length → SelectorShares balancers refs) ∧
        (∀ config, MirrorShares balancers config) ∧
          ∀ configured, SampleShares balancers configured := by
  intro claimed
  have never := ((claimed Balancers.inTurn Balancers.inTurn_byWeight).1 [drained, serving]
    (by decide)).unselected drained (by decide) rfl serving (by decide) (by decide) [.allocate none]
  exact never (by decide)

end Shares

end Fgw
