import Fgw.Library.Places
import Fgw.Library.Runs

/-!
The throttles of the pjs gateway, for a route and for a domain: the count that all streams of
one `RateLimit` object share, and the counter of each stream.
-/

namespace Fgw

/-- `ref` is the identity of the object. -/
structure RateLimitObject where
  ref : Nat
  backlog : Option Int
  deriving DecidableEq

structure PjsRouteConfig where
  rateLimit : Option RateLimitObject

structure PjsRoute where
  config : Option PjsRouteConfig

structure PjsDomain where
  rateLimit : Option RateLimitObject

/-- What a stream finds in `__route` and `__domain`. -/
structure ThrottleContext where
  route : Option PjsRoute
  domain : Option PjsDomain

inductive ThrottleModule
  | throttleRoute
  | throttleDomain

/-- `__route?.config?.RateLimit` or `__domain?.RateLimit` -/
def ThrottleModule.rateLimit (context : ThrottleContext) :
    ThrottleModule → Option RateLimitObject
  | throttleRoute => (context.route.bind PjsRoute.config).bind PjsRouteConfig.rateLimit
  | throttleDomain => context.domain.bind PjsDomain.rateLimit

/-- The fields of a cached `_rateLimit` that the accounting uses. -/
structure RateLimitRecord where
  count : Int
  backlog : Int

def initRateLimit (rateLimit : RateLimitObject) : RateLimitRecord :=
  ⟨0, rateLimit.backlog.getD 0⟩

inductive ThrottleBranch
  | chained
  | rejected
  | admitted (rateLimit : RateLimitObject)
  deriving DecidableEq

/-- `n` is `_localWaitCounter.n`; the flags record what has happened to the stream. -/
structure ThrottleStream where
  branch : ThrottleBranch
  n : Int
  started : Bool
  responded : Bool
  deriving DecidableEq

structure Throttle where
  rateLimitCache : RateLimitObject → Option RateLimitRecord
  streams : List ThrottleStream

/-- Streams are named by their place.  `granted` is what `quota.consume(1) === 1` answers, which
only a stream without a backlog asks. -/
inductive ThrottleEvent
  | arrived (context : ThrottleContext) (granted : Bool)
  | messageStart (place : Nat)
  | response (place : Nat)
  | ended (place : Nat)

namespace Throttle

def start : Throttle := ⟨fun _ => none, []⟩

/-- `rateLimitCache.get(rateLimit)` -/
def get (throttle : Throttle) (rateLimit : RateLimitObject) : RateLimitRecord :=
  (throttle.rateLimitCache rateLimit).getD (initRateLimit rateLimit)

def branch (throttle : Throttle) (rateLimit : Option RateLimitObject) (granted : Bool) :
    ThrottleBranch :=
  match rateLimit with
  | none => .chained
  | some rateLimit =>
      if 0 < (throttle.get rateLimit).backlog then
        if (throttle.get rateLimit).backlog < (throttle.get rateLimit).count then .rejected
        else .admitted rateLimit
      else if granted then .chained
      else .rejected

/-- `_rateLimit.count += change` -/
def addCount (throttle : Throttle) (rateLimit : RateLimitObject) (change : Int) : Throttle :=
  let record := throttle.get rateLimit
  { throttle with
    rateLimitCache := fun other =>
      if other = rateLimit then some { record with count := record.count + change }
      else throttle.rateLimitCache other }

/-- A stream that is not admitted has no handlers for its heads. -/
def changeStream (throttle : Throttle) (place : Nat) (stream : ThrottleStream) (change : Int) :
    Throttle :=
  match stream.branch with
  | .admitted rateLimit =>
      { throttle.addCount rateLimit change with
        streams := throttle.streams.set place { stream with n := stream.n + change } }
  | _ => { throttle with streams := throttle.streams.set place stream }

def endStream (throttle : Throttle) (place : Nat) (stream : ThrottleStream) : Throttle :=
  match stream.branch with
  | .admitted rateLimit =>
      { throttle.addCount rateLimit (-stream.n) with streams := throttle.streams.eraseIdx place }
  | _ => { throttle with streams := throttle.streams.eraseIdx place }

def step (kind : ThrottleModule) (throttle : Throttle) : ThrottleEvent → Throttle
  | .arrived context granted =>
      let branch := throttle.branch (kind.rateLimit context) granted
      { throttle with streams := throttle.streams ++ [⟨branch, 0, false, false⟩] }
  | .messageStart place =>
      match throttle.streams[place]? with
      | none => throttle
      | some stream => throttle.changeStream place { stream with started := true } 1
  | .response place =>
      match throttle.streams[place]? with
      | none => throttle
      | some stream => throttle.changeStream place { stream with responded := true } (-1)
  | .ended place =>
      match throttle.streams[place]? with
      | none => throttle
      | some stream => throttle.endStream place stream

end Throttle

/-! The accounting. -/

namespace ThrottleStream

def waits (stream : ThrottleStream) : Bool := stream.started && !stream.responded

def waitsFor (rateLimit : RateLimitObject) (stream : ThrottleStream) : Bool :=
  stream.branch = .admitted rateLimit && stream.waits

def Exact (stream : ThrottleStream) : Prop :=
  ∀ rateLimit, stream.branch = .admitted rateLimit → stream.n = stream.waits.toNat

end ThrottleStream

namespace Throttle

/-- The admitted requests that have started and have no response yet. -/
def waiting (throttle : Throttle) (rateLimit : RateLimitObject) : Nat :=
  throttle.streams.countP (ThrottleStream.waitsFor rateLimit)

/-- A stream has one message, and its response comes later. -/
def OneMessage (throttle : Throttle) : ThrottleEvent → Prop
  | .messageStart place => ∀ stream, throttle.streams[place]? = some stream →
      stream.started = false ∧ stream.responded = false
  | .response place => ∀ stream, throttle.streams[place]? = some stream →
      stream.started = true ∧ stream.responded = false
  | _ => True

structure Exact (throttle : Throttle) : Prop where
  streams : ∀ stream ∈ throttle.streams, stream.Exact
  count : ∀ rateLimit, (throttle.get rateLimit).count = throttle.waiting rateLimit
  backlog : ∀ rateLimit, (throttle.get rateLimit).backlog = (initRateLimit rateLimit).backlog

theorem get_addCount (throttle : Throttle) (rateLimit other : RateLimitObject) (change : Int) :
    (throttle.addCount rateLimit change).get other =
      if other = rateLimit then
        { throttle.get other with count := (throttle.get other).count + change }
      else throttle.get other := by
  unfold addCount
  by_cases same : other = rateLimit
  · subst other
    simp only [get, if_true, Option.getD_some]
  · simp only [get, same, if_false]

theorem exact_start : Exact start :=
  ⟨fun _ member => absurd member List.not_mem_nil, fun _ => rfl, fun _ => rfl⟩

variable {throttle : Throttle}

theorem Exact.arrived (accounts : Exact throttle) (branch : ThrottleBranch) :
    Exact { throttle with streams := throttle.streams ++ [⟨branch, 0, false, false⟩] } where
  streams := by
    intro stream member
    rcases List.mem_append.mp member with older | newest
    · exact accounts.streams stream older
    · rw [List.mem_singleton.mp newest]
      intro rateLimit _
      rfl
  count := by
    intro rateLimit
    have counted := accounts.count rateLimit
    simpa [waiting, ThrottleStream.waitsFor, ThrottleStream.waits, get] using counted
  backlog := accounts.backlog

theorem get_changeStream (throttle : Throttle) (place : Nat) (stream : ThrottleStream)
    (change : Int) (other : RateLimitObject) :
    (throttle.changeStream place stream change).get other =
      if stream.branch = .admitted other then
        { throttle.get other with count := (throttle.get other).count + change }
      else throttle.get other := by
  unfold changeStream
  cases stream.branch with
  | admitted rateLimit =>
      simp only [ThrottleBranch.admitted.injEq, eq_comm (a := rateLimit)]
      exact get_addCount throttle rateLimit other change
  | chained => rfl
  | rejected => rfl

theorem get_endStream (throttle : Throttle) (place : Nat) (stream : ThrottleStream)
    (other : RateLimitObject) :
    (throttle.endStream place stream).get other =
      if stream.branch = .admitted other then
        { throttle.get other with count := (throttle.get other).count + -stream.n }
      else throttle.get other := by
  unfold endStream
  cases stream.branch with
  | admitted rateLimit =>
      simp only [ThrottleBranch.admitted.injEq, eq_comm (a := rateLimit)]
      exact get_addCount throttle rateLimit other (-stream.n)
  | chained => rfl
  | rejected => rfl

theorem streams_endStream (throttle : Throttle) (place : Nat) (stream : ThrottleStream) :
    (throttle.endStream place stream).streams = throttle.streams.eraseIdx place := by
  unfold endStream
  split
  · rfl
  · rfl

theorem streams_changeStream (throttle : Throttle) (place : Nat) (stream : ThrottleStream)
    (change : Int) : ∃ n, (throttle.changeStream place stream change).streams =
      throttle.streams.set place { stream with n := n } ∧
        ((∃ rateLimit, stream.branch = .admitted rateLimit) → n = stream.n + change) := by
  unfold changeStream
  split
  · exact ⟨stream.n + change, rfl, fun _ => rfl⟩
  · rename_i unlimited
    refine ⟨stream.n, rfl, ?_⟩
    rintro ⟨rateLimit, admitted⟩
    exact absurd admitted (unlimited rateLimit)

theorem Exact.changeStream (accounts : Exact throttle) {place : Nat} {old stream : ThrottleStream}
    {change : Int} (here : throttle.streams[place]? = some old)
    (branch : stream.branch = old.branch) (n : stream.n = old.n)
    (changes : (stream.waits.toNat : Int) = old.waits.toNat + change) :
    Exact (throttle.changeStream place stream change) := by
  obtain ⟨after, streams, changed⟩ := streams_changeStream throttle place stream change
  refine ⟨?_, ?_, ?_⟩
  · intro other member rateLimit admitted
    rw [streams] at member
    rcases List.mem_or_eq_of_mem_set member with older | rfl
    · exact accounts.streams other older rateLimit admitted
    · have before := accounts.streams old (List.mem_of_getElem? here) rateLimit (branch ▸ admitted)
      have added := changed ⟨rateLimit, admitted⟩
      change after = (stream.waits.toNat : Int)
      omega
  · intro rateLimit
    have counted := countP_set_add (ThrottleStream.waitsFor rateLimit) here
      { stream with n := after }
    have shared := accounts.count rateLimit
    rw [get_changeStream]
    simp only [waiting, streams] at shared ⊢
    by_cases admitted : stream.branch = .admitted rateLimit
    · have oldWaits : old.waitsFor rateLimit = old.waits := by
        simp [ThrottleStream.waitsFor, ← branch, admitted]
      have newWaits : ({ stream with n := after } : ThrottleStream).waitsFor rateLimit =
          stream.waits := by
        simp [ThrottleStream.waitsFor, ThrottleStream.waits, admitted]
      rw [oldWaits, newWaits] at counted
      rw [if_pos admitted]
      dsimp only
      omega
    · have oldIdle : old.waitsFor rateLimit = false := by
        simp [ThrottleStream.waitsFor, ← branch, admitted]
      have newIdle : ({ stream with n := after } : ThrottleStream).waitsFor rateLimit = false := by
        simp [ThrottleStream.waitsFor, admitted]
      rw [oldIdle, newIdle] at counted
      rw [if_neg admitted]
      omega
  · intro rateLimit
    rw [get_changeStream]
    split
    · exact accounts.backlog rateLimit
    · exact accounts.backlog rateLimit

theorem Exact.endStream (accounts : Exact throttle) {place : Nat} {stream : ThrottleStream}
    (here : throttle.streams[place]? = some stream) : Exact (throttle.endStream place stream) := by
  refine ⟨?_, ?_, ?_⟩
  · intro other member
    rw [streams_endStream] at member
    exact accounts.streams other (List.mem_of_mem_eraseIdx member)
  · intro rateLimit
    have counted := countP_eraseIdx_add (ThrottleStream.waitsFor rateLimit) here
    have shared := accounts.count rateLimit
    rw [get_endStream]
    simp only [waiting, streams_endStream] at shared ⊢
    by_cases admitted : stream.branch = .admitted rateLimit
    · have own := accounts.streams stream (List.mem_of_getElem? here) rateLimit admitted
      have waits : stream.waitsFor rateLimit = stream.waits := by
        simp [ThrottleStream.waitsFor, admitted]
      rw [waits] at counted
      rw [if_pos admitted]
      dsimp only
      omega
    · have idle : stream.waitsFor rateLimit = false := by
        simp [ThrottleStream.waitsFor, admitted]
      rw [idle] at counted
      rw [if_neg admitted, shared, ← counted]
      rfl
  · intro rateLimit
    rw [get_endStream]
    split
    · exact accounts.backlog rateLimit
    · exact accounts.backlog rateLimit

theorem Exact.step (accounts : Exact throttle) (kind : ThrottleModule) (event : ThrottleEvent)
    (once : OneMessage throttle event) : Exact (throttle.step kind event) := by
  unfold Throttle.step
  cases event with
  | arrived context granted => exact accounts.arrived _
  | messageStart place =>
      dsimp only
      split
      · exact accounts
      · rename_i stream here
        obtain ⟨started, responded⟩ := once stream here
        refine @Exact.changeStream throttle accounts place stream _ 1 here rfl rfl ?_
        simp [ThrottleStream.waits, started, responded]
  | response place =>
      dsimp only
      split
      · exact accounts
      · rename_i stream here
        obtain ⟨started, responded⟩ := once stream here
        refine @Exact.changeStream throttle accounts place stream _ (-1) here rfl rfl ?_
        simp [ThrottleStream.waits, started, responded]
  | ended place =>
      dsimp only
      split
      · exact accounts
      · rename_i stream here
        exact accounts.endStream here

theorem exact_run (kind : ThrottleModule) (events : List ThrottleEvent)
    (once : EveryStep (step kind) OneMessage start events) :
    Exact (events.foldl (step kind) start) :=
  once.invariant (fun _ event accounts oneMessage => accounts.step kind event oneMessage) exact_start

theorem Exact.rejected_iff (accounts : Exact throttle) {rateLimit : RateLimitObject}
    (positive : 0 < (initRateLimit rateLimit).backlog) (granted : Bool) :
    throttle.branch (some rateLimit) granted = .rejected ↔
      (initRateLimit rateLimit).backlog < throttle.waiting rateLimit := by
  simp only [branch, accounts.backlog, accounts.count, positive, if_true]
  by_cases full : (initRateLimit rateLimit).backlog < throttle.waiting rateLimit
  · simp [full]
  · simp [full]

/-- In both modules, over every run of streams with one message each. -/
theorem throttle_exact (kind : ThrottleModule) (rateLimit : RateLimitObject)
    (positive : 0 < (initRateLimit rateLimit).backlog) (events : List ThrottleEvent)
    (once : EveryStep (step kind) OneMessage start events) :
    let throttle := events.foldl (step kind) start
    (throttle.get rateLimit).count = throttle.waiting rateLimit ∧
      0 ≤ (throttle.get rateLimit).count ∧
      (throttle.streams = [] → (throttle.get rateLimit).count = 0) ∧
      ∀ context granted, kind.rateLimit context = some rateLimit →
        (throttle.branch (kind.rateLimit context) granted = .rejected ↔
          (initRateLimit rateLimit).backlog < throttle.waiting rateLimit) := by
  intro throttle
  have accounts : Exact throttle := exact_run kind events once
  have counted := accounts.count rateLimit
  refine ⟨counted, ?_, ?_, ?_⟩
  · omega
  · intro none
    simp only [waiting, none, List.countP_nil] at counted
    exact counted
  · intro context granted limited
    rw [limited]
    exact accounts.rejected_iff positive granted

/-! Streams of a route with a backlog of 1: the third is rejected, and the second still waits. -/

def limitedRoute : ThrottleContext := ⟨some ⟨some ⟨some ⟨0, some 1⟩⟩⟩, none⟩

def threeStreams : List ThrottleEvent :=
  [.arrived limitedRoute false, .arrived limitedRoute false, .messageStart 0, .messageStart 1,
    .arrived limitedRoute false, .response 0, .ended 2, .ended 0]

theorem threeStreams_oneMessage :
    EveryStep (step .throttleRoute) OneMessage start threeStreams := by
  refine ⟨trivial, trivial, ?_, ?_, trivial, ?_, trivial, trivial, trivial⟩
  all_goals
    intro stream here
    cases Option.some.inj here
    exact ⟨rfl, rfl⟩

theorem throttle_exact_threeStreams :
    let throttle := threeStreams.foldl (step .throttleRoute) start
    ((threeStreams.take 5).foldl (step .throttleRoute) start).streams.map ThrottleStream.branch =
      [.admitted ⟨0, some 1⟩, .admitted ⟨0, some 1⟩, .rejected] ∧
    throttle.waiting ⟨0, some 1⟩ = 1 ∧ (throttle.get ⟨0, some 1⟩).count = 1 ∧
      ∀ context granted, ThrottleModule.throttleRoute.rateLimit context = some ⟨0, some 1⟩ →
        (throttle.branch (ThrottleModule.throttleRoute.rateLimit context) granted = .rejected ↔
          (initRateLimit ⟨0, some 1⟩).backlog < 1) := by
  have waits : (threeStreams.foldl (step .throttleRoute) start).waiting ⟨0, some 1⟩ = 1 := by
    decide
  obtain ⟨count, _, _, rejects⟩ := throttle_exact .throttleRoute ⟨0, some 1⟩ (by decide)
    threeStreams threeStreams_oneMessage
  rw [waits] at count rejects
  exact ⟨by decide, waits, count, rejects⟩

end Throttle

end Fgw
