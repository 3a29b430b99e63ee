import Fgw.Library.Memo
import Fgw.PjsDomains
import Fgw.PjsRoute

/-!
The routing of the pjs gateway: which domain takes a request, and which of its matches.  Matchers,
match lists and host handlers are kept from the first request that asks for them.
-/

namespace Fgw

namespace PjsRouting

open PjsRoute

/-- `Method` of an element of `Matches`. -/
structure GrpcMethod where
  type : Option String
  service : Option String
  method : Option String

/-- An element of `Matches`, with what either kind of route reads of it. -/
structure MatchRule where
  http : HttpRule
  method : Option GrpcMethod

structure DomainRules where
  routeType : Value
  rules : List MatchRule

/-- `routeRules` as the file has it, in the order of its keys. -/
structure Config where
  routeRules : List (String × List (String × DomainRules))
  stripAnyHostPort : Bool

structure RouteEngine where
  lowerCase : String → String
  regExp : String → Except Thrown (String → Bool)

/-- `sni` is that of `__consumer`. -/
structure Request where
  port : String
  head : Head
  sni : Option String

/-- `!wanted || wanted === part` -/
def unlessMissing (wanted part : Option String) : Bool :=
  match wanted.filter fun text => text ≠ "" with
  | none => true
  | some text => part = some text

def matchGrpcMethod (method : GrpcMethod) (path : String) : Bool :=
  let grpc := pathSegments path
  "/grpc.reflection.".toList.isPrefixOf path.toList ||
    (unlessMissing method.service grpc[1]? && unlessMissing method.method grpc[2]?)

section Matches

variable (regExp : String → Except Thrown (String → Bool))

/-- The `match` of what `makeGrpcMatches` returns. -/
def makeGrpcMatches (rule : MatchRule) : Except Thrown (Head → Bool) := do
  let matchHeaders ← makeDictionaryMatches regExp rule.http.headers
  let matchMethod :=
    (rule.method.filter fun method => method.type = some "Exact").map matchGrpcMethod
  return fun head =>
    PjsRoute.passes matchHeaders head.header && PjsRoute.passes matchMethod head.path

/-- `matches`, each as its test. -/
def makeMatches (routeTypeMatches : Option DomainRules) : Except Thrown (List (Head → Bool)) :=
  match routeTypeMatches with
  | none => .ok []
  | some domain =>
      if !domain.routeType.truthy || domain.routeType.strictEq (.str "HTTP") ||
          domain.routeType.strictEq (.str "HTTP2") then
        domain.rules.mapM fun rule => HttpMatches.accepts <$> makeHttpMatches regExp rule.http
      else if domain.routeType.strictEq (.str "GRPC") then
        domain.rules.mapM (makeGrpcMatches regExp)
      else .ok []

end Matches

/-- The place of the match in `matches`. -/
def firstMatch (tests : List (Head → Bool)) (message : Head) : Option Nat :=
  tests.findIdx? fun test => test message

/-- The rules of a port, with the place of their object. -/
def Config.rulesOf (config : Config) (port : String) :
    Option (Nat × List (String × DomainRules)) :=
  ((expandHosts (config.routeRules.map Prod.fst)).get? port).bind fun place =>
    config.routeRules[place]?.map fun entry => (place, entry.2)

/-- `domain` is a place in the rules of the port. -/
structure HostHandler where
  domain : Option Nat
  tests : List (Head → Bool)

/-- `matchDomainHandlers` by the object of the rules, `routeMatchesHandlers` by that of the domain,
which may be undefined, and the caches in `portCache`. -/
structure Caches where
  matchDomain : Nat → Option DomainMatcher
  routeMatches : Option (Nat × Nat) → Option (List (Head → Bool))
  hosts : String × String → Option HostHandler

def Caches.empty : Caches := ⟨fun _ => none, fun _ => none, fun _ => none⟩

section Handlers

variable (engine : RouteEngine) (config : Config)

/-- The hosts of the rules at a place. -/
def Config.hostsAt (place : Nat) : List String :=
  (config.routeRules[place]?.map fun entry => entry.2.map Prod.fst).getD []

def makeMatcher (place : Nat) : DomainMatcher :=
  makeMatchDomainHandler engine.lowerCase (expandHosts (config.hostsAt place))

def Config.domainAt (domain : Option (Nat × Nat)) : Option DomainRules :=
  domain.bind fun domain => (config.routeRules[domain.1]?.bind fun entry =>
    entry.2[domain.2]?).map Prod.snd

def makeRouteMatchesHandler (domain : Option (Nat × Nat)) : Except Thrown (List (Head → Bool)) :=
  makeMatches engine.regExp (config.domainAt domain)

/-- `hostHandlers.get(host)` for a port with rules. -/
def hostHandler (caches : Caches) (port : String) (place : Nat) (host : String) :
    Except Thrown HostHandler × Caches :=
  match caches.hosts (port, host) with
  | some handler => (.ok handler, caches)
  | none =>
      let matcher := memoStep id (makeMatcher engine config) caches.matchDomain place
      let domain := matcher.1.find (engine.lowerCase host)
      let tests := memoTry (makeRouteMatchesHandler engine config) caches.routeMatches
        (domain.map fun domain => (place, domain))
      let caches := { caches with matchDomain := matcher.2, routeMatches := tests.2 }
      match tests.1 with
      | .error thrown => (.error thrown, caches)
      | .ok tests =>
          let handler : HostHandler := ⟨domain, tests⟩
          (.ok handler, { caches with
            hosts := Function.update caches.hosts (port, host) (some handler) })

/-- `__domain` and `__route`, by their places. -/
structure Routed where
  domain : Option (Nat × Nat)
  route : Option Nat

def handleMessage (caches : Caches) (request : Request) (host : Option String) (routed : Routed) :
    Except Thrown Routed × Caches :=
  match host.filter fun host => host ≠ "" with
  | none => (.ok routed, caches)
  | some host =>
      match config.rulesOf request.port with
      | none => (.ok routed, caches)
      | some (place, _) =>
          let got := hostHandler engine config caches request.port place host
          (got.1.map fun handler =>
            ⟨handler.domain.map fun domain => (place, domain),
              firstMatch handler.tests request.head⟩, got.2)

/-- The names that a request may be routed by, in turn. -/
def names (request : Request) : List (Option String) :=
  let host := request.head.header "host"
  [host, request.sni, if config.stripAnyHostPort then
    host.map fun host => String.ofList ((host.toList.splitOn ':').headD []) else none]

/-- The handler of the message start. -/
def handleNames (request : Request) :
    List (Option String) → Caches → Routed → Except Thrown Routed × Caches
  | [], caches, routed => (.ok routed, caches)
  | name :: rest, caches, routed =>
      if routed.domain.isSome then (.ok routed, caches)
      else
        match handleMessage engine config caches request name routed with
        | (.error thrown, caches) => (.error thrown, caches)
        | (.ok routed, caches) => handleNames request rest caches routed

def step (caches : Caches) (request : Request) : Except Thrown Routed × Caches :=
  handleNames engine config request (names config request) caches ⟨none, none⟩

/-! Without caches. -/

def givenNames (request : Request) : List String :=
  ((names config request).filterMap id).filter fun name => name ≠ ""

/-- The domain of the first name that has one, and the first of its matches that accepts the
request. -/
def routedTo (request : Request) : Except Thrown Routed :=
  match config.rulesOf request.port with
  | none => .ok ⟨none, none⟩
  | some (place, rules) =>
      match (givenNames config request).findSome? fun name =>
          findDomain engine.lowerCase (rules.map Prod.fst) (engine.lowerCase name) with
      | none => .ok ⟨none, none⟩
      | some domain => do
          let tests ← makeMatches engine.regExp ((rules[domain]?).map Prod.snd)
          return ⟨some (place, domain), firstMatch tests request.head⟩

/-- The handler of a host, made anew. -/
def makeHostHandler (place : Nat) (host : String) : Except Thrown HostHandler := do
  let domain := (makeMatcher engine config place).find (engine.lowerCase host)
  let tests ← makeRouteMatchesHandler engine config (domain.map fun domain => (place, domain))
  return ⟨domain, tests⟩

/-- The caches hold what would be made anew. -/
structure Sound (caches : Caches) : Prop where
  matchDomain : Faithful (makeMatcher engine config) caches.matchDomain
  routeMatches : FaithfulTry (makeRouteMatchesHandler engine config) caches.routeMatches
  hosts : ∀ port host handler, caches.hosts (port, host) = some handler →
    ∃ place rules, config.rulesOf port = some (place, rules) ∧
      makeHostHandler engine config place host = .ok handler

variable {engine config}

theorem sound_empty : Sound engine config Caches.empty :=
  ⟨faithful_new _, fun _ _ stored => (nomatch stored), fun _ _ _ stored => (nomatch stored)⟩

theorem hostHandler_made {caches : Caches} (sound : Sound engine config caches) {port : String}
    {place : Nat} {rules : List (String × DomainRules)}
    (ported : config.rulesOf port = some (place, rules)) (host : String) :
    (hostHandler engine config caches port place host).1 =
        makeHostHandler engine config place host ∧
      Sound engine config (hostHandler engine config caches port place host).2 := by
  unfold hostHandler
  cases kept : caches.hosts (port, host) with
  | some handler =>
      obtain ⟨other, others, again, made⟩ := sound.hosts port host handler kept
      rw [ported, Option.some.injEq, Prod.mk.injEq] at again
      obtain ⟨rfl, rfl⟩ := again
      exact ⟨made.symm, sound⟩
  | none =>
      obtain ⟨matched, matchers⟩ := sound.matchDomain.memoStep place
      dsimp only
      rw [matched]
      have made : makeHostHandler engine config place host = (do
        let tests ← makeRouteMatchesHandler engine config
          (((makeMatcher engine config place).find (engine.lowerCase host)).map
            fun domain => (place, domain))
        return ⟨(makeMatcher engine config place).find (engine.lowerCase host), tests⟩) := rfl
      obtain ⟨tested, handlers⟩ := sound.routeMatches.memoTry
        (((makeMatcher engine config place).find (engine.lowerCase host)).map
          fun domain => (place, domain))
      rw [tested]
      cases tests : makeRouteMatchesHandler engine config
          (((makeMatcher engine config place).find (engine.lowerCase host)).map
            fun domain => (place, domain)) with
      | error thrown =>
          rw [tests] at made
          exact ⟨made.symm, matchers, handlers, sound.hosts⟩
      | ok tests' =>
          rw [tests] at made
          refine ⟨made.symm, matchers, handlers, fun other name handler stored => ?_⟩
          dsimp only at stored
          rw [Function.update_apply] at stored
          split at stored
          · rename_i same
            obtain ⟨rfl, rfl⟩ := Prod.mk.inj same
            exact ⟨place, rules, ported, made.trans (congrArg _ (Option.some.inj stored))⟩
          · exact sound.hosts other name handler stored

theorem rulesOf_at {port : String} {place : Nat} {rules : List (String × DomainRules)}
    (ported : config.rulesOf port = some (place, rules)) :
    config.hostsAt place = rules.map Prod.fst ∧
      ∀ domain, config.domainAt (some (place, domain)) = rules[domain]?.map Prod.snd := by
  obtain ⟨_, _, found⟩ := Option.bind_eq_some_iff.mp ported
  obtain ⟨entry, here, same⟩ := Option.map_eq_some_iff.mp found
  obtain ⟨rfl, rfl⟩ := Prod.mk.inj same
  refine ⟨?_, fun domain => ?_⟩
  · rw [Config.hostsAt, here]
    rfl
  · rw [Config.domainAt, Option.bind_some, here]
    rfl

/-- The domain of a name among the rules of a port. -/
def domainOf (engine : RouteEngine) (rules : List (String × DomainRules)) (name : String) :
    Option Nat :=
  findDomain engine.lowerCase (rules.map Prod.fst) (engine.lowerCase name)

theorem makeHostHandler_eq {port : String} {place : Nat} {rules : List (String × DomainRules)}
    (ported : config.rulesOf port = some (place, rules)) (host : String) :
    makeHostHandler engine config place host =
      match domainOf engine rules host with
      | none => .ok ⟨none, []⟩
      | some domain => do
          let tests ← makeMatches engine.regExp ((rules[domain]?).map Prod.snd)
          return ⟨some domain, tests⟩ := by
  obtain ⟨hosts, domains⟩ := rulesOf_at ported
  have found : (makeMatcher engine config place).find (engine.lowerCase host) =
      domainOf engine rules host := by
    rw [makeMatcher, hosts]
    rfl
  rw [makeHostHandler, found]
  cases domainOf engine rules host with
  | none => rfl
  | some domain => rw [Option.map_some, makeRouteMatchesHandler, domains]

theorem handleNames_done (request : Request) (names : List (Option String)) (caches : Caches)
    {routed : Routed} (found : routed.domain.isSome = true) :
    handleNames engine config request names caches routed = (.ok routed, caches) := by
  cases names with
  | nil => rfl
  | cons name rest => rw [handleNames, if_pos found]

/-- What the names that are left come to. -/
theorem handleNames_routed {request : Request} {place : Nat}
    {rules : List (String × DomainRules)}
    (ported : config.rulesOf request.port = some (place, rules)) (names : List (Option String))
    {caches : Caches} (sound : Sound engine config caches) :
    (handleNames engine config request names caches ⟨none, none⟩).1 =
        (match ((names.filterMap id).filter fun name => name ≠ "").findSome?
            (domainOf engine rules) with
          | none => .ok ⟨none, none⟩
          | some domain => do
              let tests ← makeMatches engine.regExp ((rules[domain]?).map Prod.snd)
              return ⟨some (place, domain), firstMatch tests request.head⟩) ∧
      Sound engine config (handleNames engine config request names caches ⟨none, none⟩).2 := by
  induction names generalizing caches with
  | nil => exact ⟨rfl, sound⟩
  | cons name rest ih =>
      rw [handleNames, if_neg (by simp), handleMessage]
      cases given : name.filter fun host => host ≠ "" with
      | none =>
          have skipped : ((name :: rest).filterMap id).filter (fun name => name ≠ "") =
              (rest.filterMap id).filter fun name => name ≠ "" := by
            cases name with
            | none => rfl
            | some text =>
                have empty : text = "" := by simpa using given
                simp [empty]
          rw [skipped]
          exact ih sound
      | some host =>
          obtain ⟨rfl, present⟩ := Option.filter_eq_some_iff.mp given
          have listed : ((some host :: rest).filterMap id).filter (fun name => name ≠ "") =
              host :: (rest.filterMap id).filter fun name => name ≠ "" := by
            have kept : (some host :: rest).filterMap id = host :: rest.filterMap id := rfl
            rw [kept, List.filter_cons, if_pos present]
          obtain ⟨made, kept⟩ := hostHandler_made sound ported host
          rw [listed, List.findSome?_cons, ported]
          dsimp only
          rw [made, makeHostHandler_eq ported]
          cases domainOf engine rules host with
          | none => exact ih kept
          | some domain =>
              dsimp only
              cases makeMatches engine.regExp ((rules[domain]?).map Prod.snd) with
              | error thrown => exact ⟨rfl, kept⟩
              | ok tests =>
                  have done := @handleNames_done engine config request rest
                    (hostHandler engine config caches request.port place host).2
                    ⟨some (place, domain), firstMatch tests request.head⟩ rfl
                  exact ⟨congrArg Prod.fst done, (congrArg Prod.snd done).symm ▸ kept⟩

theorem handleNames_unported {request : Request} (unported : config.rulesOf request.port = none)
    (names : List (Option String)) (caches : Caches) :
    handleNames engine config request names caches ⟨none, none⟩ = (.ok ⟨none, none⟩, caches) := by
  induction names with
  | nil => rfl
  | cons name rest ih =>
      rw [handleNames, if_neg (by simp), handleMessage, unported]
      cases name.filter fun host => host ≠ "" with
      | none => exact ih
      | some host => exact ih

/-- Every request of a run goes to the domain of the first of its names that has one on its port,
the Host header, the server name of TLS and the host without its port, and to the first match of it
that accepts the request. -/
theorem requests_routed (engine : RouteEngine) (config : Config) (requests : List Request) :
    outputs (step engine config) Caches.empty requests = requests.map (routedTo engine config) := by
  have general (caches : Caches) (sound : Sound engine config caches) :
      outputs (step engine config) caches requests = requests.map (routedTo engine config) := by
    induction requests generalizing caches with
    | nil => rfl
    | cons request rest ih =>
        have routed : (step engine config caches request).1 = routedTo engine config request ∧
            Sound engine config (step engine config caches request).2 := by
          unfold step routedTo
          cases ported : config.rulesOf request.port with
          | none =>
              rw [handleNames_unported ported]
              exact ⟨rfl, sound⟩
          | some found => exact handleNames_routed ported _ sound
        rw [outputs, List.map_cons, routed.1, ih _ routed.2]
  exact general _ sound_empty

end Handlers

end PjsRouting

end Fgw
