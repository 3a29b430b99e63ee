import Fgw.CircuitBreakCore
import Fgw.Library.Memo
import Fgw.ScriptValue
import Mathlib.Data.Nat.Cast.Order.Basic

/-!
The largest body that the pjs gateway takes from a client.  A body comes in pieces, each of which
is counted and let through or dropped; the message is handed on once it is whole.
-/

namespace Fgw

namespace JsNumber

/-- `number * factor`, for a positive factor.  The product is exact: a script rounds that of a
fraction to the next double. -/
def scaled (factor : Rat) : JsNumber → JsNumber
  | fin value => fin (value * factor)
  | number => number

/-- `number >= 0` -/
def nonNegative : JsNumber → Bool
  | nan => false
  | negInf => false
  | fin value => 0 ≤ value
  | posInf => true

end JsNumber

namespace PjsBody

/-- `toNumber` converts a text. -/
structure BodyEngine where
  toNumber : String → JsNumber
  lowerCase : String → String

section Limit

variable (engine : BodyEngine)

/-- `+num` -/
def convert : Value → JsNumber
  | .undefined => .nan
  | .null => .fin 0
  | .bool value => .fin (if value then 1 else 0)
  | num => engine.toNumber num.toKey

/-- `+str.substring(0, str.length - 1) * factor` -/
def withUnit (factor : Rat) (str : String) : JsNumber :=
  (engine.toNumber (String.ofList str.toList.dropLast)).scaled factor

def getNonNegativeNumber (num : Value) : JsNumber :=
  let str := engine.lowerCase num.toKey
  let n :=
    if str.toList.getLast? = some 'm' then withUnit engine 1000000 str
    else if str.toList.getLast? = some 'k' then withUnit engine 1000 str
    else convert engine num
  if n.nonNegative then n else .fin 0

/-- `clientMaxBodySize` is undefined where there is none; the routes are given by their own. -/
structure Domain where
  routeType : Value
  clientMaxBodySize : Value
  routes : List Value

structure Config where
  clientMaxBodySize : Value
  domains : List Domain

/-- The places of a domain and of a route in it. -/
abbrev RouteRef : Type := Nat × Nat

/-- `__domain`, and the size configured for `__route`. -/
def Config.routeAt (config : Config) (route : RouteRef) : Option (Domain × Value) :=
  config.domains[route.1]?.bind fun domain => domain.routes[route.2]?.map (domain, ·)

def isUndefined : Value → Bool
  | .undefined => true
  | _ => false

def maxBodySize (config : Config) (domain : Domain) (routeSize : Value) : JsNumber :=
  if !isUndefined routeSize then getNonNegativeNumber engine routeSize
  else if !isUndefined domain.clientMaxBodySize then
    getNonNegativeNumber engine domain.clientMaxBodySize
  else if !isUndefined config.clientMaxBodySize then
    getNonNegativeNumber engine config.clientMaxBodySize
  else .fin 1000000

end Limit

/-! The stream of a request. -/

variable {Head Tail : Type}

/-- `tail` is missing where the stream ends before the message does. -/
structure Request (Head Tail : Type) where
  route : Option RouteRef
  head : Head
  chunks : List (List UInt8)
  tail : Option Tail

def Request.body (request : Request Head Tail) : List UInt8 := request.chunks.flatten

/-- What the next module gets, or what the client is answered. -/
inductive Outcome (Head Tail : Type)
  | chained (head : Head) (body : List UInt8) (tail : Option Tail)
  | replied (status : Nat) (body : String)
  | nothing

/-- `_clientBodySize`, `_continue`, and what `replaceMessage` has collected. -/
structure Context where
  clientBodySize : Nat
  goesOn : Bool
  collected : List UInt8

def Context.start : Context := ⟨0, true, []⟩

/-- The handler of `replaceData`. -/
def Context.replaceData (clientMaxBodySize : JsNumber) (context : Context) (dat : List UInt8) :
    Context :=
  let clientBodySize := context.clientBodySize + dat.length
  if clientMaxBodySize.passedBy clientBodySize then
    { context with clientBodySize := clientBodySize, goesOn := false }
  else
    { context with
      clientBodySize := clientBodySize
      collected := context.collected ++ dat }

def entityTooLarge : Outcome Head Tail := .replied 413 "Request Entity Too Large"

/-- The branches after the head, which has set the limit. -/
def limitBody (clientMaxBodySize : JsNumber) (request : Request Head Tail) :
    Outcome Head Tail :=
  if clientMaxBodySize.above 0 then
    let context := request.chunks.foldl (Context.replaceData clientMaxBodySize) .start
    match request.tail with
    | none => .nothing
    | some tail =>
        if context.goesOn then .chained request.head context.collected (some tail)
        else entityTooLarge
  else .chained request.head request.body request.tail

/-- `clientMaxBodySizeCache` -/
abbrev SizeCache : Type := RouteRef → Option JsNumber

def sizeOf (engine : BodyEngine) (config : Config) (route : RouteRef) : JsNumber :=
  (config.routeAt route).elim (.fin 0) fun found => maxBodySize engine config found.1 found.2

/-- `_clientMaxBodySize` once the head has come, and the cache after it. -/
def handleMessageStart (engine : BodyEngine) (config : Config) (sizes : SizeCache)
    (request : Request Head Tail) : JsNumber × SizeCache :=
  match request.route with
  | none => (.fin 0, sizes)
  | some route =>
      match config.routeAt route with
      | none => (.fin 0, sizes)
      | some (domain, _) =>
          if domain.routeType.strictEq (.str "HTTP") then
            memoStep id (sizeOf engine config) sizes route
          else (.fin 0, sizes)

def step (engine : BodyEngine) (config : Config) (sizes : SizeCache)
    (request : Request Head Tail) : Outcome Head Tail × SizeCache :=
  let started := handleMessageStart engine config sizes request
  (limitBody started.1 request, started.2)

/-! What each request is owed. -/

/-- The configured size for a request, without the cache. -/
def configuredSize (engine : BodyEngine) (config : Config) (request : Request Head Tail) :
    Option JsNumber :=
  (request.route.bind config.routeAt).bind fun found =>
    if found.1.routeType.strictEq (.str "HTTP") then
      some (maxBodySize engine config found.1 found.2)
    else none

/-- Only a positive size is a limit, and it is the whole body that counts. -/
def expected (engine : BodyEngine) (config : Config) (request : Request Head Tail) :
    Outcome Head Tail :=
  match (configuredSize engine config request).filter (JsNumber.above 0), request.tail with
  | none, tail => .chained request.head request.body tail
  | some _, none => .nothing
  | some limit, some tail =>
      if limit.passedBy request.body.length then entityTooLarge
      else .chained request.head request.body (some tail)

/-! The pieces. -/

/-- The context once these bytes have come. -/
structure Counted (limit : JsNumber) (taken : List UInt8) (context : Context) : Prop where
  size : context.clientBodySize = taken.length
  goesOn : context.goesOn = !limit.passedBy taken.length
  collected : context.goesOn = true → context.collected = taken

theorem Counted.replaceData {limit : JsNumber} {taken : List UInt8} {context : Context}
    (counted : Counted limit taken context) (dat : List UInt8) :
    Counted limit (taken ++ dat) (context.replaceData limit dat) := by
  have total : context.clientBodySize + dat.length = (taken ++ dat).length := by
    rw [counted.size, List.length_append]
  unfold Context.replaceData
  by_cases passed : limit.passedBy ((context.clientBodySize + dat.length : Nat) : Rat) = true
  · rw [if_pos passed]
    rw [total] at passed
    exact ⟨total, by rw [passed, Bool.not_true], fun goesOn => by cases goesOn⟩
  · rw [if_neg passed]
    rw [total] at passed
    have before : limit.passedBy (taken.length : Rat) = false := by
      rw [← Bool.not_eq_true]
      intro already
      refine passed (JsNumber.passedBy_of_le ?_ already)
      rw [List.length_append]
      exact_mod_cast Nat.le_add_right _ _
    rw [Bool.not_eq_true] at passed
    have goesOn : context.goesOn = true := by rw [counted.goesOn, before, Bool.not_false]
    exact ⟨total, by rw [passed, Bool.not_false]; exact goesOn, fun _ => by
      rw [counted.collected goesOn]⟩

theorem counted_chunks {limit : JsNumber} (chunks : List (List UInt8)) {taken : List UInt8}
    {context : Context} (counted : Counted limit taken context) :
    Counted limit (taken ++ chunks.flatten)
      (chunks.foldl (Context.replaceData limit) context) := by
  induction chunks generalizing taken context with
  | nil =>
      rw [List.flatten_nil, List.append_nil]
      exact counted
  | cons dat rest ih =>
      rw [List.flatten_cons, ← List.append_assoc]
      exact ih (counted.replaceData dat)

/-- However the body is cut into pieces. -/
theorem limitBody_eq (limit : JsNumber) (request : Request Head Tail) :
    limitBody limit request =
      match (some limit).filter (JsNumber.above 0), request.tail with
      | none, tail => .chained request.head request.body tail
      | some _, none => .nothing
      | some limit, some tail =>
          if limit.passedBy request.body.length then entityTooLarge
          else .chained request.head request.body (some tail) := by
  unfold limitBody
  by_cases limited : limit.above 0 = true
  · rw [if_pos limited, Option.filter_some, if_pos limited]
    cases request.tail with
    | none => rfl
    | some tail =>
        have unpassed : limit.passedBy 0 = false := by
          cases limit with
          | fin value =>
              simp only [JsNumber.above, JsNumber.passedBy, decide_eq_true_eq,
                decide_eq_false_iff_not] at limited ⊢
              exact not_lt_of_gt limited
          | _ => first
            | rfl
            | cases limited
        have started : Counted limit [] .start :=
          ⟨rfl, by simp [Context.start, unpassed], fun _ => rfl⟩
        have counted := counted_chunks request.chunks started
        rw [List.nil_append] at counted
        dsimp only
        by_cases passed : limit.passedBy (request.body.length : Rat) = true
        · have stops := counted.goesOn
          rw [show (request.chunks.flatten.length : Rat) = request.body.length from rfl, passed]
            at stops
          rw [if_pos passed, stops, Bool.not_true, if_neg Bool.false_ne_true]
        · rw [Bool.not_eq_true] at passed
          have goesOn := counted.goesOn
          rw [show (request.chunks.flatten.length : Rat) = request.body.length from rfl, passed]
            at goesOn
          rw [passed, goesOn, if_pos Bool.not_false, if_neg Bool.false_ne_true,
            counted.collected goesOn]
          rfl
  · rw [if_neg limited, Option.filter_some, if_neg limited]

/-! The run. -/

theorem step_expected {engine : BodyEngine} {config : Config} {sizes : SizeCache}
    (faithful : Faithful (sizeOf engine config) sizes) (request : Request Head Tail) :
    (step engine config sizes request).1 = expected engine config request ∧
      Faithful (sizeOf engine config) (step engine config sizes request).2 := by
  have unlimited : limitBody (.fin 0) request =
      .chained request.head request.body request.tail :=
    if_neg (by simp [JsNumber.above])
  unfold step handleMessageStart expected configuredSize
  cases routed : request.route with
  | none => exact ⟨unlimited, faithful⟩
  | some route =>
      dsimp only
      rw [Option.bind_some]
      cases placed : config.routeAt route with
      | none => exact ⟨unlimited, faithful⟩
      | some found =>
          dsimp only
          rw [Option.bind_some]
          by_cases http : found.1.routeType.strictEq (.str "HTTP") = true
          · obtain ⟨size, later⟩ := faithful.memoStep route
            have sized : sizeOf engine config route =
                maxBodySize engine config found.1 found.2 := by
              rw [sizeOf, placed, Option.elim_some]
            rw [if_pos http, if_pos http, size, sized]
            exact ⟨limitBody_eq _ request, later⟩
          · rw [if_neg http, if_neg http]
            exact ⟨unlimited, faithful⟩

/-- In every run of requests, each message is handed on whole, or answered with 413 if it is
longer than its own limit, however it is cut into pieces. -/
theorem bodies_limited (engine : BodyEngine) (config : Config)
    (requests : List (Request Head Tail)) :
    outputs (step engine config) (fun _ => none) requests =
      requests.map (expected engine config) := by
  have general (sizes : SizeCache) (faithful : Faithful (sizeOf engine config) sizes) :
      outputs (step engine config) sizes requests = requests.map (expected engine config) := by
    induction requests generalizing sizes with
    | nil => rfl
    | cons request rest ih =>
        obtain ⟨answered, later⟩ := step_expected faithful request
        rw [outputs, List.map_cons, answered, ih _ later]
  exact general _ (faithful_new _)

end PjsBody

end Fgw
