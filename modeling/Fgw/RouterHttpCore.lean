import Fgw.Library.Table
import Fgw.ScriptValue
import Mathlib.Algebra.GroupWithZero.Nat
import Mathlib.Data.List.Sort

/-!
The HTTP router: matches with their priority, the functions that check a request against
one match, the buckets of the fast path, and the rule selector of one hostname.
-/

namespace Fgw

inductive PathType
  | exact
  | pathPrefix
  | regularExpression
  | other (text : String)
  deriving DecidableEq, Repr

inductive MatchType
  | exact
  | regularExpression
  | other (text : String)
  deriving DecidableEq, Repr

structure PathMatch where
  type : Option PathType
  value : String
  deriving DecidableEq, Repr

/-- A condition on a header or a query parameter. -/
structure ObjectMatch where
  type : Option MatchType
  name : String
  value : String
  deriving DecidableEq, Repr

/-- The `method` of a match: a verb in an HTTPRoute, an object in a GRPCRoute. -/
inductive MethodMatch
  | verb (name : String)
  | call (type : Option MatchType) (service method : Option String)
  deriving DecidableEq, Repr

structure RouteMatch where
  path : Option PathMatch
  method : Option MethodMatch
  headers : List ObjectMatch
  queryParams : List ObjectMatch
  deriving DecidableEq, Repr

/-- The match of a rule without matches. -/
def RouteMatch.any : RouteMatch := ⟨none, none, [], []⟩

/-- `data` is what the backend selector of the rule is made from. -/
structure Rule where
  ruleMatches : Option (List RouteMatch)
  data : Value

structure RouteResource where
  kind : String
  hostnames : Option (List String)
  rules : List Rule

/-- Header names are in lower case, as the decoder stores them. -/
structure Head where
  method : String
  path : String
  headers : List (String × String)

def Head.header (head : Head) (name : String) : Option String := head.headers.lookup name

/-- `$basePath`, `$matchedRoute` and `$matchedRule`. -/
structure RouteVars where
  basePath : Option String
  matchedRoute : Option RouteResource
  matchedRule : Option Rule

/-- What the router takes from the script engine and from Pipy.  `findPattern` is
`algo.URLRouter`: the registered pattern whose value `find` returns.  `backendSelector` is
the part of `makeBackendSelectorForRule` that can throw. -/
structure HttpEngine where
  regExp : String → Except Thrown (String → Bool)
  lowerCase : String → String
  findPattern : List String → String → Option String
  joinPath : String → String → String
  searchParam : String → String → Option String
  backendSelector : Rule → Bool → Except Thrown Unit

/-- A function made by `makeBackendSelectorForRule`.  `ref` is its identity. -/
structure BackendSelector where
  ref : Nat
  rule : Rule
  isHTTP2 : Bool

/-- `[m, backendSelector, resource, rule, priority]`, with the place of the match in list
order. -/
structure Entry where
  m : RouteMatch
  backendSelector : BackendSelector
  resource : RouteResource
  rule : Rule
  index : Nat
  priority : String

/-! Priorities. -/

/-- `text.length`, in UTF-16 units. -/
def jsLength (text : String) : Nat :=
  (text.toList.map fun c => if c.toNat < 0x10000 then 1 else 2).sum

/-- `n.toString().padStart(width, '0')` -/
def padStart (n width : Nat) : String :=
  String.ofList (List.replicate (width - (Nat.repr n).length) '0' ++ (Nat.repr n).toList)

def MethodMatch.truthy : MethodMatch → Bool
  | verb name => name ≠ ""
  | call _ _ _ => true

/-- A method used as a property key. -/
def MethodMatch.toKey : MethodMatch → String
  | verb name => name
  | call _ _ _ => "[object Object]"

/-- The method, if the match has one that is truthy. -/
def RouteMatch.methodKey (m : RouteMatch) : Option String :=
  (m.method.filter MethodMatch.truthy).map MethodMatch.toKey

def pathRanks (m : RouteMatch) : String × String :=
  match m.path with
  | some ⟨some .exact, _⟩ => ("3", "000")
  | some ⟨some .pathPrefix, value⟩ => ("2", padStart (jsLength value) 3)
  | some ⟨some .regularExpression, value⟩ => ("1", padStart (jsLength value) 3)
  | _ => ("0", "000")

def getMatchPriority (m : RouteMatch) (index : Nat) : String :=
  "/".intercalate [
    (pathRanks m).1,
    (pathRanks m).2,
    if m.methodKey.isSome then "1" else "0",
    padStart m.headers.length 3,
    padStart m.queryParams.length 3,
    padStart index 6]

/-! Conditions on one part of a request. -/

def makeMethodMatcher (fast : Bool) (method : Option MethodMatch) : Option (String → Bool) :=
  if fast then none
  else (method.filter MethodMatch.truthy).map fun wanted name => wanted = .verb name

/-- The prefix without a trailing slash. -/
def pathBase (value : String) : String :=
  let trimmed :=
    if value.toList.getLast? = some '/' then String.ofList value.toList.dropLast else value
  if trimmed = "" then "/" else trimmed

/-- A check that may set `$basePath`, whether or not the match is chosen in the end. -/
abbrev PathMatcher := String → RouteVars → Bool × RouteVars

def makePathMatcher (engine : HttpEngine) (fast : Bool) (path : Option PathMatch) :
    Except Thrown (Option PathMatcher) :=
  match path with
  | none => .ok none
  | some ⟨type, value⟩ =>
      match type.getD .exact with
      | .exact =>
          if fast then .ok none
          else .ok (some fun text vars => ((engine.findPattern [value] text).isSome, vars))
      | .pathPrefix =>
          let base := pathBase value
          if fast then .ok (some fun _ vars => (true, { vars with basePath := some base }))
          else .ok (some fun text vars =>
            if (engine.findPattern [base, base ++ "/*"] text).isSome then
              (true, { vars with basePath := some base })
            else (false, vars))
      | .regularExpression => do
          let re ← engine.regExp value
          return some fun text vars => (re text, vars)
      | .other _ => .ok (some fun _ vars => (false, vars))

/-- `obj[k] || ''` -/
def fieldText (obj : String → Option String) (name : String) : String := (obj name).getD ""

def makeObjectMatcher (engine : HttpEngine) (items : List ObjectMatch) :
    Except Thrown (Option ((String → Option String) → Bool)) := do
  if items.isEmpty then return none
  let exact := (items.filter fun item => item.type = some .exact || item.type = none).map
    fun item => (engine.lowerCase item.name, item.value)
  let regex ← (items.filter fun item => item.type = some .regularExpression).mapM fun item => do
    return (engine.lowerCase item.name, ← engine.regExp item.value)
  return some fun obj =>
    (exact.all fun item => item.2 = fieldText obj item.1) &&
      regex.all fun item => item.2 (fieldText obj item.1)

def pathSegments (path : String) : List String := (path.toList.splitOn '/').map String.ofList

def grpcPath (check : String → String → Bool) (path : String) : Bool :=
  if path.toList.head? ≠ some '/' then false
  else
    match (pathSegments path)[1]?, (pathSegments path)[2]? with
    | some service, some method => service ≠ "" && method ≠ "" && check service method
    | _, _ => false

/-- `type`, `service` and `method` of a method match.  A verb has none of them. -/
def MethodMatch.parts : MethodMatch → Option MatchType × Option String × Option String
  | verb _ => (none, none, none)
  | call type service method => (type, service, method)

/-- `value && new RegExp(value)` -/
def optionalRegExp (engine : HttpEngine) (value : Option String) :
    Except Thrown (Option (String → Bool)) :=
  match value.filter fun text => text ≠ "" with
  | some pattern => some <$> engine.regExp pattern
  | none => .ok none

def makeGRPCMethodMatcher (engine : HttpEngine) (method : Option MethodMatch) :
    Except Thrown (Option (String → Bool)) :=
  match method.filter MethodMatch.truthy with
  | none => .ok none
  | some wanted =>
      match wanted.parts with
      | (type, service, method) =>
          match type.getD .exact with
          | .exact => .ok (some (grpcPath fun s m =>
              ((service.filter fun text => text ≠ "").all fun text => text = s) &&
                (method.filter fun text => text ≠ "").all fun text => text = m))
          | .regularExpression => do
              let reService ← optionalRegExp engine service
              let reMethod ← optionalRegExp engine method
              return some (grpcPath fun s m =>
                (reService.all fun re => re s) && reMethod.all fun re => re m)
          | .other _ => .ok (some fun _ => false)

/-! Conditions on a request. -/

abbrev MatchFunc := Head → RouteVars → Bool × RouteVars

/-- `[matchFunc, backendSelector, m]`, the last two in the entry. -/
structure CompiledMatch where
  entry : Entry
  matchFunc : MatchFunc

def checkPath (matchPath : Option PathMatcher) : PathMatcher :=
  matchPath.getD fun _ vars => (true, vars)

def httpMatchFunc (engine : HttpEngine) (entry : Entry) (matchMethod : Option (String → Bool))
    (matchPath : Option PathMatcher)
    (matchHeaders matchParams : Option ((String → Option String) → Bool)) : MatchFunc :=
  fun head vars =>
    if !matchMethod.all fun check => check head.method then (false, vars)
    else
      match checkPath matchPath head.path vars with
      | (false, vars) => (false, vars)
      | (true, vars) =>
          if !matchHeaders.all fun check => check head.header then (false, vars)
          else if !matchParams.all fun check => check (engine.searchParam head.path) then
            (false, vars)
          else
            (true, { vars with matchedRoute := some entry.resource, matchedRule := some entry.rule })

def compileHTTP (engine : HttpEngine) (fast : Bool) (entry : Entry) :
    Except Thrown CompiledMatch := do
  let matchMethod := makeMethodMatcher fast entry.m.method
  let matchPath ← makePathMatcher engine fast entry.m.path
  let matchHeaders ← makeObjectMatcher engine entry.m.headers
  let matchParams ← makeObjectMatcher engine entry.m.queryParams
  return ⟨entry, httpMatchFunc engine entry matchMethod matchPath matchHeaders matchParams⟩

def grpcMatchFunc (matchMethod : Option (String → Bool))
    (matchHeaders : Option ((String → Option String) → Bool)) : MatchFunc :=
  fun head vars =>
    if !matchMethod.all fun check => check head.path then (false, vars)
    else if !matchHeaders.all fun check => check head.header then (false, vars)
    else (true, vars)

def compileGRPC (engine : HttpEngine) (entry : Entry) : Except Thrown CompiledMatch := do
  let matchMethod ← makeGRPCMethodMatcher engine entry.m.method
  let matchHeaders ← makeObjectMatcher engine entry.m.headers
  return ⟨entry, grpcMatchFunc matchMethod matchHeaders⟩

/-! The rule selector. -/

def listRules (resources : List RouteResource) : List (Rule × RouteResource) :=
  resources.flatMap fun resource => resource.rules.map fun rule => (rule, resource)

def makeBackendSelectorForRule (engine : HttpEngine) (isHTTP2 : Bool)
    (rule : (Rule × RouteResource) × Nat) :
    Except Thrown (Rule × BackendSelector × RouteResource) := do
  engine.backendSelector rule.1.1 isHTTP2
  return (rule.1.1, ⟨rule.2, rule.1.1, isHTTP2⟩, rule.1.2)

def listMatches (rules : List (Rule × BackendSelector × RouteResource)) : List Entry :=
  (rules.flatMap fun rule => (rule.1.ruleMatches.getD [.any]).map fun m => (m, rule)).zipIdx.map
    fun ((m, rule, backendSelector, resource), index) =>
      ⟨m, backendSelector, resource, rule, index, getMatchPriority m index⟩

/-- Higher priorities first. -/
def sortMatches (entries : List Entry) : List Entry :=
  entries.insertionSort fun first second => first.priority > second.priority

def compileMatches (engine : HttpEngine) (fast : Bool) (kind : String) (entries : List Entry) :
    Except Thrown (List CompiledMatch) :=
  match kind with
  | "HTTPRoute" => entries.mapM (compileHTTP engine fast)
  | "GRPCRoute" => entries.mapM (compileGRPC engine)
  | kind => .error (.raised ("route-http: unknown resource kind: '" ++ kind ++ "'"))

/-- The lists of the fast path. -/
structure Buckets where
  pathMatches : Table (Table (List CompiledMatch))
  methodMatches : Table (List CompiledMatch)
  slowMatches : List CompiledMatch

def pushMatch (lists : Table (List CompiledMatch)) (key : String) (compiled : CompiledMatch) :
    Table (List CompiledMatch) :=
  lists.set key ((lists.get? key).getD [] ++ [compiled])

/-- The pattern under which the fast path registers a match. -/
def pathKey (engine : HttpEngine) (m : RouteMatch) : Option String :=
  match m.path with
  | some ⟨some .exact, value⟩ => some value
  | some ⟨some .pathPrefix, value⟩ => some (engine.joinPath value "*")
  | _ => none

-- The source asks for PathPrefix a second time after Exact and PathPrefix; that branch is
-- never taken.
def addMatch (engine : HttpEngine) (buckets : Buckets) (compiled : CompiledMatch) : Buckets :=
  match pathKey engine compiled.entry.m, compiled.entry.m.methodKey with
  | some path, method =>
      let methods := (buckets.pathMatches.get? path).getD Table.empty
      { buckets with
        pathMatches :=
          buckets.pathMatches.set path (pushMatch methods (method.getD "*") compiled) }
  | none, some method =>
      { buckets with methodMatches := pushMatch buckets.methodMatches method compiled }
  | none, none => { buckets with slowMatches := buckets.slowMatches ++ [compiled] }

def makeBuckets (engine : HttpEngine) (compiled : List CompiledMatch) : Buckets :=
  compiled.foldl (addMatch engine) ⟨Table.empty, Table.empty, []⟩

/-- `checks.find(([matchFunc]) => matchFunc(head))` -/
def findMatch (head : Head) : List CompiledMatch → RouteVars → Option CompiledMatch × RouteVars
  | [], vars => (none, vars)
  | compiled :: rest, vars =>
      match compiled.matchFunc head vars with
      | (true, vars) => (some compiled, vars)
      | (false, vars) => findMatch head rest vars

def pathChecks (engine : HttpEngine) (buckets : Buckets) (head : Head) : List CompiledMatch :=
  match (engine.findPattern buckets.pathMatches.keys head.path).bind buckets.pathMatches.get? with
  | some methods => ((methods.get? head.method).or (methods.get? "*")).getD []
  | none => []

/-- A selector answers with the match it found, whose backend selector is then called. -/
abbrev RuleSelector := Head → RouteVars → Option Entry × RouteVars

def fastSelector (engine : HttpEngine) (buckets : Buckets) : RuleSelector := fun head vars =>
  match findMatch head (pathChecks engine buckets head) vars with
  | (some compiled, vars) => (some compiled.entry, vars)
  | (none, vars) =>
      match findMatch head ((buckets.methodMatches.get? head.method).getD []) vars with
      | (some compiled, vars) => (some compiled.entry, vars)
      | (none, vars) =>
          match findMatch head buckets.slowMatches vars with
          | (some compiled, vars) => (some compiled.entry, vars)
          | (none, vars) => (none, vars)

def plainSelector (compiled : List CompiledMatch) : RuleSelector := fun head vars =>
  match findMatch head compiled vars with
  | (some compiled, vars) => (some compiled.entry, vars)
  | (none, vars) => (none, vars)

/-- The selector of one hostname.  `fast` is `USE_FAST_MATCH`, `true` in the source. -/
def makeRuleSelector (engine : HttpEngine) (fast : Bool) (resources : List RouteResource) :
    Except Thrown RuleSelector :=
  match resources with
  | [] => .error (.typeError "cannot read property kind")
  | first :: _ => do
      let kind := first.kind
      let rules ← (listRules resources).zipIdx.mapM
        (makeBackendSelectorForRule engine (kind = "GRPCRoute"))
      let entries := sortMatches (listMatches rules)
      let compiled ← compileMatches engine fast kind entries
      if fast && kind = "HTTPRoute" then
        return fastSelector engine (makeBuckets engine compiled)
      else
        return plainSelector compiled

/-! The engine as documented, for routes whose regular expressions are plain text. -/

def withoutQuery (path : String) : List Char := path.toList.takeWhile (· ≠ '?')

/-- `p/*` covers `p` and everything below it. -/
def covers (pattern path : String) : Bool :=
  let chars := pattern.toList
  if chars.drop (chars.length - 2) = ['/', '*'] then
    let base := chars.take (chars.length - 2)
    let folder := if base.getLast? = some '/' then base else base ++ ['/']
    withoutQuery path = base || folder.isPrefixOf (withoutQuery path)
  else withoutQuery path = chars

/-- An exact pattern is more specific than a wildcard, and a long one than a short one. -/
def specificity (pattern : String) : Nat :=
  let chars := pattern.toList
  if chars.drop (chars.length - 2) = ['/', '*'] then 2 * (chars.length - 2)
  else 2 * chars.length + 1

def mostSpecific (patterns : List String) (path : String) : Option String :=
  (patterns.filter fun pattern => covers pattern path).foldl
    (fun best pattern => match best with
      | none => some pattern
      | some other => if specificity other < specificity pattern then some pattern else best) none

def queryValue (path name : String) : Option String :=
  let query := (path.toList.dropWhile (· ≠ '?')).drop 1
  let pairs := (query.splitOn '&').map fun pair =>
    (String.ofList (pair.takeWhile (· ≠ '=')), String.ofList ((pair.dropWhile (· ≠ '=')).drop 1))
  pairs.lookup name

def documentedEngine : HttpEngine where
  regExp pattern := .ok fun text => text.toList.tails.any fun tail => pattern.toList.isPrefixOf tail
  lowerCase text := String.ofList (text.toList.map Char.toLower)
  findPattern := mostSpecific
  joinPath left right :=
    if left.toList.getLast? = some '/' then left ++ right else left ++ "/" ++ right
  searchParam := queryValue
  backendSelector _ _ := .ok ()

end Fgw
