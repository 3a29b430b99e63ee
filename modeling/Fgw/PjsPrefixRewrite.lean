import Fgw.PjsRoute

/-!
Prefix replacement in the pjs gateway: the filters that rewrite a URL or redirect to another one.
-/

namespace Fgw

namespace PjsRewrite

/-- `config?.Path?.Path || '/'` -/
def rulePath (path : Option String) : String :=
  match path.filter fun text => text ≠ "" with
  | none => "/"
  | some text => text

def replacePrefix (vars : PjsVariables) (path replacement headPath : String) : String :=
  if jsLength path < jsLength headPath then
    resolvPath vars replacement ++ String.ofList (substringFrom (jsLength path) headPath.toList)
  else resolvPath vars replacement

def replaceFull (vars : PjsVariables) (full headPath : String) : String :=
  let cut := String.ofList ((headPath.toList.splitOn '?').headD [])
  resolvPath vars full ++ String.ofList (substringFrom (jsLength cut) headPath.toList)

/-- `makeHeadHandler` of url-rewrite.js -/
def makeHeadHandler (vars : PjsVariables) (path : String) (cfg : UrlRewrite) :
    Option (Head → Head) :=
  match cfg.path with
  | .replacePrefixMatch replacement => some fun head =>
      setHost cfg.hostname { head with path := replacePrefix vars path replacement head.path }
  | .replaceFullPath full => some fun head =>
      setHost cfg.hostname { head with path := replaceFull vars full head.path }
  | .other => (cfg.hostname.filter fun name => name ≠ "").map fun _ => setHost cfg.hostname

/-- `RequestRedirect` -/
structure RedirectConfig where
  statusCode : Option Nat
  scheme : Option String
  hostname : Option String
  port : Option Nat
  path : PathRewrite

structure RedirectMessage where
  status : Nat
  location : String
  deriving DecidableEq

/-- `makePathHandle` of request-redirect.js -/
def makePathHandle (vars : PjsVariables) (path : String) (cfg : RedirectConfig) :
    Option (Head → Head) :=
  match cfg.path with
  | .replacePrefixMatch replacement => some fun head =>
      { head with path := replacePrefix vars path replacement head.path }
  | .replaceFullPath full => some fun head =>
      { head with path := replaceFull vars full head.path }
  | .other => none

/-- `first || second` for texts that may be absent. -/
def orText (first second : Option String) : Option String :=
  (first.filter fun text => text ≠ "").orElse fun _ => second

/-- `scheme + '://' + hostname` -/
def locationBase (cfg : RedirectConfig) (scheme : Option String) (head : Head) : String :=
  let hostname := orText cfg.hostname (head.header "host")
  let hostname := match cfg.port.filter fun port => port ≠ 0,
      hostname.filter fun text => text ≠ "" with
    | some port, some name =>
        some (String.ofList ((name.toList.splitOn ':').headD []) ++ ":" ++ toString port)
    | _, _ => hostname
  (orText (orText cfg.scheme scheme) (some "http")).getD "http" ++ "://" ++
    hostname.getD "undefined"

/-- The function that `makeRedirectHandler` returns, for a request of the given scheme.  Without a
path to replace, `pathHandle` is no function. -/
def redirect (vars : PjsVariables) (path : String) (cfg : RedirectConfig) (scheme : Option String)
    (head : Head) : Except Thrown (Option RedirectMessage) :=
  match cfg.statusCode.filter fun status => status ≠ 0 with
  | none => .ok none
  | some status =>
      match makePathHandle vars path cfg with
      | none => .error (.typeError "pathHandle")
      | some pathHandle =>
          .ok (some ⟨status, locationBase cfg scheme head ++ (pathHandle head).path⟩)

/-! What is wanted of the junction. -/

/-- The replacement and what follows the prefix, with one slash between them unless nothing or only
a query follows. -/
def junction (resolved : String) (rest : List Char) : String :=
  if rest = [] ∨ rest.head? = some '?' then resolved ++ String.ofList rest
  else String.ofList (oneSlash resolved.toList rest)

def restOf (path : String) (head : Head) : List Char := head.path.toList.drop path.toList.length

/-- Both filters give the wanted path. -/
structure JoinsOnce (vars : PjsVariables) (path replacement : String) (hostname : Option String)
    (cfg : RedirectConfig) (scheme : Option String) (head : Head) : Prop where
  rewritten : ∃ handler,
    makeHeadHandler vars path ⟨hostname, .replacePrefixMatch replacement⟩ = some handler ∧
      (handler head).path = junction (resolvPath vars replacement) (restOf path head)
  redirected : ∀ status, cfg.statusCode = some status → status ≠ 0 →
    redirect vars path { cfg with path := .replacePrefixMatch replacement } scheme head =
      .ok (some ⟨status, locationBase cfg scheme head ++
        junction (resolvPath vars replacement) (restOf path head)⟩)

/-- One slash stands at the junction as it is. -/
def OneSlashThere (resolved : String) (rest : List Char) : Prop :=
  rest = [] ∨ rest.head? = some '?' ∨
    (resolved.toList.rtakeWhile (· = '/')).length + (rest.takeWhile (· = '/')).length = 1

theorem rdropWhile_append_rtakeWhile {α : Type} (p : α → Bool) (items : List α) :
    items.rdropWhile p ++ items.rtakeWhile p = items := by
  rw [List.rdropWhile, List.rtakeWhile, ← List.reverse_append, List.takeWhile_append_dropWhile,
    List.reverse_reverse]

theorem eq_slashes (chars : List Char) (all : ∀ c ∈ chars, c = '/') :
    chars = List.replicate chars.length '/' :=
  List.eq_replicate_iff.mpr ⟨rfl, all⟩

theorem append_eq_oneSlash_iff (left rest : List Char) :
    left ++ rest = oneSlash left rest ↔
      (left.rtakeWhile (· = '/')).length + (rest.takeWhile (· = '/')).length = 1 := by
  have trailing := eq_slashes (left.rtakeWhile (· = '/')) fun c member => by
    simpa using List.mem_rtakeWhile_imp member
  have leading := eq_slashes (rest.takeWhile (· = '/')) fun c member => by
    simpa using List.mem_takeWhile_imp member
  have whole : left ++ rest = left.rdropWhile (· = '/') ++
      (List.replicate ((left.rtakeWhile (· = '/')).length + (rest.takeWhile (· = '/')).length) '/'
        ++ rest.dropWhile (· = '/')) := by
    rw [← List.replicate_append_replicate, ← trailing, ← leading, List.append_assoc,
      List.takeWhile_append_dropWhile, ← List.append_assoc, rdropWhile_append_rtakeWhile]
  rw [whole, oneSlash, List.append_right_inj]
  constructor
  · intro same
    have lengths := congrArg List.length same
    simp only [List.length_append, List.length_replicate, List.length_cons] at lengths
    omega
  · intro one
    rw [one]
    rfl

theorem append_eq_junction_iff (resolved : String) (rest : List Char) :
    resolved ++ String.ofList rest = junction resolved rest ↔ OneSlashThere resolved rest := by
  rw [junction, OneSlashThere, ← or_assoc]
  by_cases free : rest = [] ∨ rest.head? = some '?'
  · rw [if_pos free]
    exact iff_of_true rfl (.inl free)
  · rw [if_neg free, or_iff_right free, ← append_eq_oneSlash_iff, eq_ofList_iff,
      String.toList_append, String.toList_ofList]

/-- A path that the prefix accepts is the prefix and what follows it. -/
theorem path_eq_append {path : String} {head : Head}
    (accepted : PjsRoute.pathPrefix (PjsRoute.pathOf head) path = true) :
    head.path.toList = path.toList ++ restOf path head := by
  obtain ⟨more, whole, _⟩ := (PjsRoute.pathPrefix_iff _ _).mp accepted
  rw [PjsRoute.pathOf_toList] at whole
  have spelled : head.path.toList = path.toList ++ (more ++ queryOf head.path) := by
    rw [← List.append_assoc, ← whole, withoutQuery_append_queryOf]
  rw [restOf, spelled, List.drop_left]

theorem replacePrefix_eq (vars : PjsVariables) {path : String} (replacement : String) {head : Head}
    (accepted : PjsRoute.pathPrefix (PjsRoute.pathOf head) path = true) :
    replacePrefix vars path replacement head.path =
      resolvPath vars replacement ++ String.ofList (restOf path head) := by
  have spelled := path_eq_append accepted
  rw [replacePrefix]
  by_cases longer : jsLength path < jsLength head.path
  · have cut := substringFrom_jsLength path.toList (restOf path head)
    rw [String.ofList_toList] at cut
    rw [if_pos longer, spelled, cut]
  · rw [if_neg longer]
    have texts : head.path = path ++ String.ofList (restOf path head) := by
      rw [← String.toList_inj, String.toList_append, String.toList_ofList, spelled]
    rw [texts, jsLength_append] at longer
    by_cases empty : String.ofList (restOf path head) = ""
    · rw [empty, String.append_empty]
    · have := jsLength_pos empty
      omega

theorem rewritten_iff (vars : PjsVariables) (path replacement : String) (hostname : Option String)
    (head : Head) (wanted : String) :
    (∃ handler, makeHeadHandler vars path ⟨hostname, .replacePrefixMatch replacement⟩ =
        some handler ∧ (handler head).path = wanted) ↔
      replacePrefix vars path replacement head.path = wanted := by
  simp only [makeHeadHandler, Option.some.injEq, exists_eq_left', setHost_path]

theorem joinsOnce_iff (vars : PjsVariables) {path : String} (replacement : String)
    (hostname : Option String) (cfg : RedirectConfig) (scheme : Option String) {head : Head}
    (accepted : PjsRoute.pathPrefix (PjsRoute.pathOf head) path = true) :
    JoinsOnce vars path replacement hostname cfg scheme head ↔
      OneSlashThere (resolvPath vars replacement) (restOf path head) := by
  have made := replacePrefix_eq vars replacement accepted
  constructor
  · intro joins
    have joined := (rewritten_iff _ _ _ _ _ _).mp joins.rewritten
    rw [made] at joined
    exact (append_eq_junction_iff _ _).mp joined
  · intro one
    have joined := made.trans ((append_eq_junction_iff _ _).mpr one)
    refine ⟨(rewritten_iff _ _ _ _ _ _).mpr joined, ?_⟩
    intro status set nonzero
    have kept : cfg.statusCode.filter (fun status => status ≠ 0) = some status := by
      rw [set]
      exact Option.filter_some_pos (by simp [nonzero])
    rw [redirect]
    dsimp only
    rw [kept, ← joined]
    rfl

example : replacePrefix noPjsVariables "/" "/xyz/" "/xyz/123" = "/xyz/xyz/123" := by decide

def belowFolder : Head := ⟨"GET", "/a/c?x=1", [("host", "h")]⟩

theorem belowFolder_joined :
    JoinsOnce noPjsVariables "/a" "/b" none ⟨some 301, none, none, none, .other⟩ none
      belowFolder :=
  (joinsOnce_iff noPjsVariables "/b" none ⟨some 301, none, none, none, .other⟩ none
    (show PjsRoute.pathPrefix (PjsRoute.pathOf belowFolder) "/a" = true by decide)).mpr
    (.inr (.inr (by decide)))

/-- The prefix of the rule ends in a slash, which the replacement does not. -/
theorem rootPrefix_joinedWithoutSlash :
    ¬ ∀ (vars : PjsVariables) (path : Option String) (replacement : String)
      (hostname : Option String) (cfg : RedirectConfig) (scheme : Option String) (head : Head),
      replacement.toList.head? = some '/' →
        PjsRoute.pathPrefix (PjsRoute.pathOf head) (rulePath path) = true →
        JoinsOnce vars (rulePath path) replacement hostname cfg scheme head := by
  intro claimed
  have joins := claimed noPjsVariables none "/xyz" none ⟨some 301, none, none, none, .other⟩ none
    ⟨"GET", "/abc", []⟩ rfl (by decide)
  exact absurd ((rewritten_iff _ _ _ _ _ _).mp joins.rewritten) (by decide)

end PjsRewrite

end Fgw
