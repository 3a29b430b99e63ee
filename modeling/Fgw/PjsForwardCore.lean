import Fgw.HeaderModifier
import Fgw.ScriptValue
import Mathlib.Algebra.Order.Ring.Rat

/-!
The forwarding of HTTP requests in the pjs gateway: the endpoint that an attempt goes to, the
sticky cookie that names it, and the replays of a request on other endpoints.
-/

namespace Fgw

/-- The name of a sticky cookie is a token. -/
structure CookieName where
  text : String
  named : text ≠ ""
  plain : '=' ∉ text.toList
  whole : ';' ∉ text.toList
  trimmed : trimText text = text

/-- What the forwarding of a service is configured with: the weights of the endpoints,
`StickyCookieName`, `StickyCookieExpires`, `Retry.NumRetries` and `Retry.RetryOn`. -/
structure ServiceSettings where
  endpoints : Table (Option Rat)
  stickyCookieName : Option CookieName
  stickyCookieExpires : Option Nat
  numRetries : Option Nat
  retryOn : Option String

namespace PjsForward

/-- `algo.hash(k)`, and `code | 0`. -/
structure Engine where
  hash : String → Nat
  toInt : String → Int

structure StickyCookie where
  name : CookieName
  expires : Nat
  hashTable : Table String

structure ServiceConfig where
  /-- The hashes in `endpointAttributes`. -/
  hashes : Table Nat
  stickyCookie : Option StickyCookie
  /-- Whether there is a balancer for the endpoints of weight zero. -/
  failover : Bool
  needRetry : Bool
  numRetries : Option Nat
  retryStatusCodes : List Int

section Config

variable (engine : Engine)

/-- The statuses that one code of `RetryOn` stands for. -/
def codeKeys (code : List Char) : List Int :=
  if ['x', 'x'].isSuffixOf code then
    (List.range 100).map fun i => engine.toInt (String.ofList (code.take 1)) * 100 + i
  else [engine.toInt (String.ofList code)]

def retryStatusCodes (retryOn : Option String) : List Int :=
  (((retryOn.filter fun codes => codes ≠ "").getD "5xx").toList.splitOn ',').flatMap
    (codeKeys engine)

/-- The endpoints under their hashes, which are property keys. -/
def hashTable (names : List String) : Table String :=
  (names.map fun k => (toString (engine.hash k), k)).foldl
    (fun table entry => table.set entry.1 entry.2) Table.empty

def makeServiceConfig (settings : ServiceSettings) : ServiceConfig where
  hashes := (settings.endpoints.keys.map fun k => (k, engine.hash k)).foldl
    (fun table entry => table.set entry.1 entry.2) Table.empty
  stickyCookie := settings.stickyCookieName.map fun name =>
    ⟨name, orNumber settings.stickyCookieExpires 3600, hashTable engine settings.endpoints.keys⟩
  failover := settings.endpoints.values.any fun weight => weight = some 0
  needRetry := settings.numRetries.any fun count => count ≠ 0
  numRetries := settings.numRetries
  retryStatusCodes := retryStatusCodes engine settings.retryOn

end Config

/-! Sticky cookies. -/

/-- `cookies[kv[0].trim()] = kv[1].trim()` for a piece with an equals sign. -/
def cookieEntry (piece : List Char) : Option (String × String) :=
  match piece.splitOn '=' with
  | name :: value :: _ => some (trimText (String.ofList name), trimText (String.ofList value))
  | _ => none

def getCookies (cookie : String) : Table String :=
  ((cookie.toList.splitOn ';').filterMap cookieEntry).foldl
    (fun cookies entry => cookies.set entry.1 entry.2) Table.empty

/-- The endpoint that a request asks for by its sticky cookie, unless it is unhealthy. -/
def stickyTarget (sticky : StickyCookie) (unhealthy : String → Bool) (cookie : Option String) :
    Option String :=
  let presented := (cookie.filter fun cookie => cookie ≠ "").bind fun cookie =>
    (getCookies cookie).get? sticky.name.text
  let chosen := (presented.filter fun value => value ≠ "").bind sticky.hashTable.get?
  chosen.filter fun id => id ≠ "" && !unhealthy id

def cookieText (sticky : StickyCookie) (hash : Nat) (date : String) : String :=
  sticky.name.text ++ "=" ++ toString hash ++ "; path=/; expires=" ++ date ++
    "; max-age=" ++ toString sticky.expires

def addCookie (headers : HeaderMap) (cookie : String) : HeaderMap :=
  headers.set "set-cookie" (.list
    (match headers.get? "set-cookie" with
    | none => [cookie]
    | some (.text value) => if value = "" then [cookie] else [value, cookie]
    | some (.list values) => values ++ [cookie]))

/-! The attempts of one request. -/

structure RetryCounters where
  retry : Nat
  backoff : Nat
  limit : Nat
  success : Nat

/-- The variables of a request.  `onFailover` tells which balancer `_targetBalancer` is. -/
structure ForwardVars where
  retryCount : Nat
  failoverBalancer : Bool
  onFailover : Bool
  target : Option String
  cookieId : Option String
  isRetry : Bool
  counters : RetryCounters

/-- What one attempt meets: the endpoint that the balancer lends, the endpoints that are marked
unhealthy, the date at which a cookie of that time expires, and the response. -/
structure Attempt where
  borrowed : Option String
  unhealthy : String → Bool
  date : String
  status : Option Nat
  headers : HeaderMap

def ForwardVars.hasTarget (vars : ForwardVars) : Bool := vars.target.any fun id => id ≠ ""

def startVars (config : ServiceConfig) (counters : RetryCounters) : ForwardVars where
  retryCount := 0
  failoverBalancer := config.failover
  onFailover := false
  target := none
  cookieId := none
  isRetry := false
  counters := counters

/-- The incoming `_cookieId`. -/
def incomingCookie (config : ServiceConfig) (cookie : Option String) (attempt : Attempt)
    (vars : ForwardVars) : Option String :=
  match config.stickyCookie with
  | none => vars.cookieId
  | some sticky => if vars.isRetry then none else stickyTarget sticky attempt.unhealthy cookie

/-- The outgoing `_cookieId` of an endpoint that was not chosen by a cookie. -/
def outgoingCookie (config : ServiceConfig) (attempt : Attempt) (id : String) : Option String :=
  match config.stickyCookie, config.hashes.get? id with
  | some sticky, some hash => if hash = 0 then none else some (cookieText sticky hash attempt.date)
  | _, _ => none

/-- The handler for the start of a request, which sets `__target` and `_cookieId`. -/
def selectTarget (config : ServiceConfig) (cookie : Option String) (attempt : Attempt)
    (vars : ForwardVars) : ForwardVars :=
  match incomingCookie config cookie attempt vars with
  | some id => { vars with target := some id, cookieId := none }
  | none =>
      let vars := { vars with target := attempt.borrowed.or vars.target, cookieId := none }
      if vars.hasTarget then
        { vars with cookieId := vars.target.bind (outgoingCookie config attempt) }
      else vars

inductive Replay
  | retry
  | failover
  | noTarget
  deriving DecidableEq, Repr

/-- `again`, and what is counted to find it. -/
def countRetry (config : ServiceConfig) (vars : ForwardVars) (statusCode : Option Nat) :
    Bool × ForwardVars :=
  let counters := vars.counters
  if statusCode.any fun status : Nat => Int.ofNat status ∈ config.retryStatusCodes then
    if config.numRetries.any fun count => vars.retryCount < count then
      (true, { vars with
        retryCount := vars.retryCount + 1
        counters := { counters with
          retry := counters.retry + 1
          backoff := counters.backoff + 1 } })
    else (false, { vars with counters := { counters with limit := counters.limit + 1 } })
  else if 0 < vars.retryCount then
    (false, { vars with counters := { counters with success := counters.success + 1 } })
  else (false, vars)

/-- `shouldRetry(statusCode)`, with the kind of a replay. -/
def shouldRetry (config : ServiceConfig) (vars : ForwardVars) (statusCode : Option Nat) :
    Option Replay × ForwardVars :=
  let counted := countRetry config vars statusCode
  let again := counted.1
  let vars := counted.2
  if !again && vars.failoverBalancer &&
      (orNumber statusCode 0 = 0 || 499 < orNumber statusCode 0) then
    (some .failover, { vars with onFailover := true, failoverBalancer := false, retryCount := 0 })
  else if again then (some .retry, vars)
  else (none, vars)

/-- All that the count of a retry changes. -/
structure Counted (config : ServiceConfig) (statusCode : Option Nat) (vars : ForwardVars)
    (again : Bool) (after : ForwardVars) : Prop where
  target : after.target = vars.target
  failoverBalancer : after.failoverBalancer = vars.failoverBalancer
  retried : again = true → (∃ status, statusCode = some status ∧
    Int.ofNat status ∈ config.retryStatusCodes) ∧
      vars.retryCount < config.numRetries.getD 0 ∧ after.retryCount = vars.retryCount + 1

theorem counted_countRetry (config : ServiceConfig) (vars : ForwardVars)
    (statusCode : Option Nat) :
    Counted config statusCode vars (countRetry config vars statusCode).1
      (countRetry config vars statusCode).2 := by
  dsimp only [countRetry]
  split
  · rename_i listed
    split
    · rename_i below
      obtain ⟨status, same, member⟩ := (Option.any_eq_true _ _).mp listed
      obtain ⟨count, bound, less⟩ := (Option.any_eq_true _ _).mp below
      refine ⟨rfl, rfl, fun _ => ⟨⟨status, same, of_decide_eq_true member⟩, ?_, rfl⟩⟩
      rw [bound]
      exact of_decide_eq_true less
    · exact ⟨rfl, rfl, fun again => by cases again⟩
  · split
    · exact ⟨rfl, rfl, fun again => by cases again⟩
    · exact ⟨rfl, rfl, fun again => by cases again⟩

/-- What a request ends with.  `served` is the `__target` of the last attempt. -/
structure Outcome where
  served : Option String
  issued : Option String
  status : Option Nat
  headers : HeaderMap

/-- The response of an attempt, or of the rest of the chain where there is no target. -/
def respond (vars : ForwardVars) (attempt : Attempt) : Outcome :=
  if vars.hasTarget then
    ⟨vars.target, vars.cookieId, attempt.status,
      match vars.cookieId with
      | some cookie => addCookie attempt.headers cookie
      | none => attempt.headers⟩
  else ⟨none, none, attempt.status, attempt.headers⟩

inductive Turned
  | replayed (replay : Replay) (vars : ForwardVars)
  | answered (outcome : Outcome)

def forwardTurn (config : ServiceConfig) (cookie : Option String) (replaying : Bool)
    (attempt : Attempt) (vars : ForwardVars) : Turned :=
  let vars := selectTarget config cookie attempt vars
  if !vars.hasTarget && vars.failoverBalancer then
    .replayed .noTarget { vars with onFailover := true, failoverBalancer := false, isRetry := true }
  else if replaying then
    match shouldRetry config vars attempt.status with
    | (some replay, vars) => .replayed replay { vars with isRetry := true }
    | (none, _) => .answered (respond vars attempt)
  else .answered (respond vars attempt)

/-- An attempt after which the request was replayed, with the variables once its endpoint was
chosen. -/
structure Turn where
  attempt : Attempt
  vars : ForwardVars
  replay : Replay

/-- The turns of a request that were replayed, and the outcome if an attempt was answered. -/
def exchange (config : ServiceConfig) (cookie : Option String) (replaying : Bool) :
    ForwardVars → List Attempt → List Turn × Option Outcome
  | _, [] => ([], none)
  | vars, attempt :: rest =>
      match forwardTurn config cookie replaying attempt vars with
      | .answered outcome => ([], some outcome)
      | .replayed replay next =>
          let later := exchange config cookie replaying next rest
          (⟨attempt, selectTarget config cookie attempt vars, replay⟩ :: later.1, later.2)

/-- A request with a `cookie` header, through as many attempts as it takes. -/
def forward (config : ServiceConfig) (counters : RetryCounters) (cookie : Option String)
    (attempts : List Attempt) : List Turn × Option Outcome :=
  let vars := startVars config counters
  exchange config cookie (config.needRetry || vars.failoverBalancer) vars attempts

/-! Runs. -/

/-- What an attempt comes to, with the variables once its endpoint was chosen. -/
inductive Turns (config : ServiceConfig) (attempt : Attempt) (vars : ForwardVars) : Turned → Prop
  | noTarget : vars.hasTarget = false → vars.failoverBalancer = true →
      Turns config attempt vars (.replayed .noTarget
        { vars with onFailover := true, failoverBalancer := false, isRetry := true })
  | asked {replay : Replay} {after : ForwardVars} :
      shouldRetry config vars attempt.status = (some replay, after) →
        Turns config attempt vars (.replayed replay { after with isRetry := true })
  | answered : Turns config attempt vars (.answered (respond vars attempt))

theorem turns_forwardTurn (config : ServiceConfig) (cookie : Option String) (replaying : Bool)
    (attempt : Attempt) (vars : ForwardVars) :
    Turns config attempt (selectTarget config cookie attempt vars)
      (forwardTurn config cookie replaying attempt vars) := by
  dsimp only [forwardTurn]
  split
  · rename_i missing
    rw [Bool.and_eq_true, Bool.not_eq_true'] at missing
    exact .noTarget missing.1 missing.2
  · split
    · cases asked : shouldRetry config (selectTarget config cookie attempt vars) attempt.status with
      | mk answer after =>
          cases answer with
          | none => exact .answered
          | some replay => exact .asked asked
    · exact .answered

/-- The course of a request: its replays, and the outcome if it has ended. -/
inductive Course (config : ServiceConfig) (cookie : Option String) :
    ForwardVars → List Attempt → List Turn → Option Outcome → Prop
  | waiting (vars : ForwardVars) : Course config cookie vars [] [] none
  | answered (vars : ForwardVars) (attempt : Attempt) (rest : List Attempt) :
      Course config cookie vars (attempt :: rest) []
        (some (respond (selectTarget config cookie attempt vars) attempt))
  | replayed {vars next : ForwardVars} {attempt : Attempt} {rest : List Attempt} {replay : Replay}
      {turns : List Turn} {ended : Option Outcome} :
      Turns config attempt (selectTarget config cookie attempt vars) (.replayed replay next) →
        Course config cookie next rest turns ended →
          Course config cookie vars (attempt :: rest)
            (⟨attempt, selectTarget config cookie attempt vars, replay⟩ :: turns) ended

theorem course_exchange (config : ServiceConfig) (cookie : Option String) (replaying : Bool)
    (vars : ForwardVars) (attempts : List Attempt) :
    Course config cookie vars attempts (exchange config cookie replaying vars attempts).1
      (exchange config cookie replaying vars attempts).2 := by
  induction attempts generalizing vars with
  | nil => exact .waiting vars
  | cons attempt rest ih =>
      have turns := turns_forwardTurn config cookie replaying attempt vars
      rw [exchange]
      cases turned : forwardTurn config cookie replaying attempt vars with
      | answered outcome =>
          rw [turned] at turns
          cases turns
          exact .answered vars attempt rest
      | replayed replay next =>
          rw [turned] at turns
          exact .replayed turns (ih next)

end PjsForward

end Fgw
