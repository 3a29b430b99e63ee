import Fgw.Library.Table
import Fgw.Library.Fallible
import Fgw.RouterHttpCore

/-!
The Dubbo router: the matches of all rules in the order of their ranks, the selector that
takes a backend from the first match that accepts a request, and the cache of selections
around it.
-/

namespace Fgw

structure DubboMatch where
  type : Option MatchType
  service : Option String
  version : Option String
  method : Option String
  signature : Option String
  deriving DecidableEq, Repr

def DubboMatch.any : DubboMatch := ⟨none, none, none, none, none⟩

structure DubboRule where
  ruleMatches : Option (List DubboMatch)
  backendRefs : List Value

structure DubboRoute where
  rules : List DubboRule

/-- `body[1]` to `body[4]`. -/
structure DubboBody where
  service : String
  version : String
  method : String
  signature : String

/-- What the router takes from Pipy: regular expressions, when `algo.Cache` lets an entry
expire, and the load balancer of a rule with several backends, which answers with the index
of a target. -/
structure DubboEngine (β : Type) where
  regExp : String → Except Thrown (String → Bool)
  expired : Nat → Nat → Bool
  balancer : DubboRule → β
  allocate : β → Option Nat × β
  free : β → Nat → β

/-! Ranks. -/

inductive Rank
  | number (value : Nat)
  | text (value : String)
  deriving DecidableEq, Repr

/-- `left > right`.  A number and a text never meet at one place of two ranks. -/
def Rank.above : Rank → Rank → Bool
  | number left, number right => right < left
  | text left, text right => utf16 right < utf16 left
  | _, _ => false

def DubboMatch.parts (m : DubboMatch) : List (Option String) :=
  [m.service, m.version, m.method, m.signature]

def DubboMatch.getMatchPriority (m : DubboMatch) : List Rank :=
  match m.type with
  | some .exact => .number 3 :: m.parts.map fun part => .text (part.getD "")
  | some .regularExpression =>
      .number 1 :: m.parts.map fun part => .number ((part.map jsLength).getD 0)
  | _ => List.replicate 5 (.number 0)

/-- The comparison of the sort is not positive: the first difference, if any, is upwards. -/
def ranksFirst : List Rank → List Rank → Bool
  | left :: lefts, right :: rights =>
      if left = right then ranksFirst lefts rights else left.above right
  | _, _ => true

/-! The rule selector. -/

structure DubboEntry where
  m : DubboMatch
  selector : Nat
  rule : DubboRule
  resource : DubboRoute

structure DubboMatcher where
  entry : DubboEntry
  matchFunc : DubboBody → Bool

def listDubboRules (resources : List DubboRoute) : List (DubboRule × DubboRoute) :=
  resources.flatMap fun resource => resource.rules.map fun rule => (rule, resource)

/-- `selector` numbers the backend selectors, one for each rule. -/
def listDubboMatches (rules : List (DubboRule × DubboRoute)) : List DubboEntry :=
  rules.zipIdx.flatMap fun ((rule, resource), selector) =>
    (rule.ruleMatches.getD [.any]).map fun m => ⟨m, selector, rule, resource⟩

def sortDubboMatches (entries : List DubboEntry) : List DubboEntry :=
  entries.insertionSort fun first second =>
    ranksFirst first.m.getMatchPriority second.m.getMatchPriority

section Router

variable {β : Type} (engine : DubboEngine β)

/-- A match whose type is not given checks nothing. -/
def makeStringMatcher (type : Option MatchType) (str : Option String) :
    Except Thrown (Option (String → Bool)) :=
  match str.filter fun text => text ≠ "", type with
  | some wanted, some .exact => .ok (some fun text => text = wanted)
  | some wanted, some .regularExpression => some <$> engine.regExp wanted
  | _, _ => .ok none

def compileDubbo (entry : DubboEntry) : Except Thrown DubboMatcher := do
  let matchService ← makeStringMatcher engine entry.m.type entry.m.service
  let matchVersion ← makeStringMatcher engine entry.m.type entry.m.version
  let matchMethod ← makeStringMatcher engine entry.m.type entry.m.method
  let matchSignature ← makeStringMatcher engine entry.m.type entry.m.signature
  return ⟨entry, fun body =>
    (matchService.all fun check => check body.service) &&
      (matchVersion.all fun check => check body.version) &&
      (matchMethod.all fun check => check body.method) &&
      matchSignature.all fun check => check body.signature⟩

def RouterDubbo.makeRuleSelector (resources : List DubboRoute) :
    Except Thrown (List DubboMatcher) :=
  (sortDubboMatches (listDubboMatches (listDubboRules resources))).mapM (compileDubbo engine)

/-- `$selection`: the one selection of a rule with at most one backend, or the object that
the `id`-th allocation returned. -/
inductive Selection
  | single (selector : Nat)
  | allocated (selector target id : Nat)
  deriving DecidableEq, Repr

/-- The load balancers, the number of allocations so far, the number of streams so far, and
the selections of the streams that are open. -/
structure Balancing (β : Type) where
  balancers : Nat → β
  allocations : Nat
  streams : Nat
  live : List (Nat × Selection)

/-- `$matchedRoute`, `$matchedRule` and `$selection`. -/
structure DubboVars where
  matchedRoute : Option DubboRoute
  matchedRule : Option DubboRule
  selection : Option Selection

/-- The function that `makeBackendSelector` returns. -/
def selectBackend (entry : DubboEntry) (state : Balancing β) : Option Selection × Balancing β :=
  if entry.rule.backendRefs.length > 1 then
    match engine.allocate (state.balancers entry.selector) with
    | (some target, after) =>
        (some (.allocated entry.selector target state.allocations),
          { state with
            balancers := Function.update state.balancers entry.selector after
            allocations := state.allocations + 1 })
    | (none, after) =>
        (none, { state with balancers := Function.update state.balancers entry.selector after })
  else (some (.single entry.selector), state)

/-- `selector(body)` -/
def selectDubbo (matchers : List DubboMatcher) (body : DubboBody) (state : Balancing β) :
    DubboVars × Balancing β :=
  match matchers.find? fun one => one.matchFunc body with
  | some one =>
      let selected := selectBackend engine one.entry state
      (⟨some one.entry.resource, some one.entry.rule, selected.1⟩, selected.2)
  | none => (⟨none, none, none⟩, state)

abbrev SelectionCache := Table (Option Selection × Nat)

def cacheKey (body : DubboBody) : String :=
  " ".intercalate [body.service, body.version, body.method, body.signature]

/-- `cache.get(key)`, if it is truthy. -/
def cached (cache : SelectionCache) (now : Nat) (key : String) : Option Selection :=
  (cache.get? key).bind fun entry => if engine.expired entry.2 now then none else entry.1

/-- The function that `makeRouter` returns. -/
def routeDubbo (matchers : List DubboMatcher) (now : Nat) (body : DubboBody)
    (state : SelectionCache × Balancing β) : DubboVars × SelectionCache × Balancing β :=
  match cached engine state.1 now (cacheKey body) with
  | some selection => (⟨none, none, some selection⟩, state)
  | none =>
      let selected := selectDubbo engine matchers body state.2
      (selected.1, state.1.set (cacheKey body) (selected.1.selection, now), selected.2)

/-! Streams. -/

/-- `routeResource` and `routeRule` of the context, with the selection whose pipeline the
request goes to. -/
structure DubboContext where
  routeResource : Option DubboRoute
  routeRule : Option DubboRule
  selection : Option Selection

def dubboContext (vars : DubboVars) : DubboContext :=
  if vars.selection.isSome then ⟨vars.matchedRoute, vars.matchedRule, vars.selection⟩
  else ⟨none, none, none⟩

inductive DubboEvent
  | request (now : Nat) (body : DubboBody)
  | ended (stream : Nat)

inductive DubboOutput
  | context (context : DubboContext)
  | freed (selection : Option Selection)

def openStream (vars : DubboVars) (state : Balancing β) : Balancing β :=
  { state with
    streams := state.streams + 1
    live := (vars.selection.map fun selection => (state.streams, selection)).toList ++ state.live }

/-- `$selection.free?.()` -/
def freeSelection (selection : Selection) (state : Balancing β) : Balancing β :=
  match selection with
  | .single _ => state
  | .allocated selector target _ =>
      { state with
        balancers := Function.update state.balancers selector
          (engine.free (state.balancers selector) target) }

def endStream (stream : Nat) (state : Balancing β) : DubboOutput × Balancing β :=
  match state.live.lookup stream with
  | some selection =>
      (.freed (some selection), freeSelection engine selection
        { state with live := state.live.filter fun open_ => open_.1 ≠ stream })
  | none => (.freed none, state)

def cachedStep (matchers : List DubboMatcher) (state : SelectionCache × Balancing β)
    (event : DubboEvent) : DubboOutput × SelectionCache × Balancing β :=
  match event with
  | .request now body =>
      let routed := routeDubbo engine matchers now body state
      (.context (dubboContext routed.1), routed.2.1, openStream routed.1 routed.2.2)
  | .ended stream => ((endStream engine stream state.2).1, state.1, (endStream engine stream state.2).2)

/-- The same service with `selector(body)` evaluated for every request. -/
def plainStep (matchers : List DubboMatcher) (state : Balancing β) (event : DubboEvent) :
    DubboOutput × Balancing β :=
  match event with
  | .request _ body =>
      let selected := selectDubbo engine matchers body state
      (.context (dubboContext selected.1), openStream selected.1 selected.2)
  | .ended stream => endStream engine stream state

/-- The balancers that a router starts with, each made for its rule. -/
def startBalancing (resources : List DubboRoute) : Balancing β where
  balancers selector :=
    engine.balancer (((listDubboRules resources)[selector]?.map Prod.fst).getD ⟨none, []⟩)
  allocations := 0
  streams := 0
  live := []

end Router

end Fgw
