import Fgw.RouterHttpCore
import Mathlib.Data.List.DropRight

/-!
The URLRewrite filters.  The newer one works on the path and its query as one text; the one of the
pjs gateway takes the query off first.
-/

namespace Fgw

inductive PathRewrite
  | replaceFullPath (path : String)
  | replacePrefixMatch (replacement : String)
  | other

structure UrlRewrite where
  hostname : Option String
  path : PathRewrite

/-- `text.substring(start)`, where `start` counts UTF-16 units. -/
def substringFrom : Nat → List Char → List Char
  | 0, text => text
  | _ + 1, [] => []
  | start + 1, c :: rest => substringFrom (start + 1 - (if c.toNat < 0x10000 then 1 else 2)) rest

/-- `text || '/'` -/
def orSlash (text : String) : String := if text = "" then "/" else text

/-- `basePath` is that of the context; it is empty where there is none. -/
def rewritePath (joinPath : String → String → String) (basePath : String) (rewrite : PathRewrite)
    (path : String) : String :=
  match rewrite with
  | .replaceFullPath full => full
  | .replacePrefixMatch replacement =>
      if basePath ≠ "" then
        orSlash (joinPath replacement
          (String.ofList (substringFrom (jsLength basePath) path.toList)))
      else path
  | .other => path

/-- `headers[name] = value` -/
def setHeader (headers : List (String × String)) (name value : String) : List (String × String) :=
  if (headers.lookup name).isSome then
    headers.map fun header => if header.1 = name then (name, value) else header
  else headers ++ [(name, value)]

def setHost (hostname : Option String) (head : Head) : Head :=
  match hostname.filter fun name => name ≠ "" with
  | none => head
  | some name => { head with headers := setHeader head.headers "host" name }

def urlRewrite (joinPath : String → String → String) (basePath : String) (config : UrlRewrite)
    (head : Head) : Head :=
  let named := setHost config.hostname head
  { named with path := rewritePath joinPath basePath config.path named.path }

/-! The pjs filter. -/

/-- The truthy texts that a variable may stand for. -/
structure PjsVariables where
  httpHeader : String → Option String
  httpField : String → Option String
  consumerField : String → Option String

def resolvVar (vars : PjsVariables) (val : String) : String :=
  if val.toList.head? = some '$' then
    let name := String.ofList ((val.toList.takeWhile (· ≠ '_')).drop 1)
    let member := String.ofList ((val.toList.dropWhile (· ≠ '_')).drop 1)
    if '_' ∈ val.toList then
      if name = "http" then
        (vars.httpHeader member).getD ((vars.httpField member).getD val)
      else if name = "consumer" then (vars.consumerField member).getD val
      else val
    else val
  else val

def resolvPath (vars : PjsVariables) (path : String) : String :=
  "/".intercalate ((pathSegments path).map (resolvVar vars))

/-- `makeHeadHandler` for a full path. -/
def pjsReplaceFullPath (vars : PjsVariables) (hostname : Option String) (full : String)
    (head : Head) : Head :=
  let cut := String.ofList (head.path.toList.takeWhile (· ≠ '?'))
  let suffix := String.ofList (substringFrom (jsLength cut) head.path.toList)
  setHost hostname { head with path := resolvPath vars full ++ suffix }

/-! Paths and queries. -/

def queryOf (path : String) : List Char := path.toList.dropWhile (· ≠ '?')

theorem withoutQuery_append_queryOf (path : String) :
    withoutQuery path ++ queryOf path = path.toList := List.takeWhile_append_dropWhile

def oneSlash (left right : List Char) : List Char :=
  left.rdropWhile (· = '/') ++ '/' :: right.dropWhile (· = '/')

def remainingPath (basePath path : String) : List Char :=
  (withoutQuery path).drop basePath.toList.length

def wantedPath (basePath : String) (rewrite : PathRewrite) (path : String) : List Char :=
  match rewrite with
  | .replaceFullPath full => full.toList ++ queryOf path
  | .replacePrefixMatch replacement =>
      (if remainingPath basePath path = [] then replacement.toList
        else oneSlash replacement.toList (remainingPath basePath path)) ++ queryOf path
  | .other => path.toList

theorem jsLength_pos {text : String} (filled : text ≠ "") : 0 < jsLength text := by
  obtain ⟨c, rest, spelled⟩ := List.exists_cons_of_ne_nil fun none =>
    filled (String.toList_eq_nil_iff.mp none)
  rw [jsLength, spelled, List.map_cons, List.sum_cons]
  split
  · omega
  · omega

theorem jsLength_append (left right : String) :
    jsLength (left ++ right) = jsLength left + jsLength right := by
  rw [jsLength, String.toList_append, List.map_append, List.sum_append, jsLength, jsLength]

theorem substringFrom_jsLength (text rest : List Char) :
    substringFrom (jsLength (String.ofList text)) (text ++ rest) = rest := by
  induction text with
  | nil => simp [jsLength, substringFrom]
  | cons c text ih =>
      have longer : jsLength (String.ofList (c :: text)) =
          (if c.toNat < 0x10000 then 1 else 2) + jsLength (String.ofList text) := by
        simp only [jsLength, String.toList_ofList, List.map_cons, List.sum_cons]
      obtain ⟨start, more⟩ : ∃ start, jsLength (String.ofList (c :: text)) = start + 1 := by
        refine Nat.exists_eq_succ_of_ne_zero ?_
        rw [longer]
        split <;> omega
      rw [more, List.cons_append, substringFrom, ← more, longer, Nat.add_sub_cancel_left]
      exact ih

theorem dropWhile_slash_append (rest : List Char) {query : List Char}
    (noSlash : query.head? ≠ some '/') :
    (rest ++ query).dropWhile (· = '/') = rest.dropWhile (· = '/') ++ query := by
  induction rest with
  | nil =>
      cases query with
      | nil => rfl
      | cons c query =>
          rw [List.nil_append, List.dropWhile_cons_of_neg]
          · rfl
          · simpa using noSlash
  | cons c rest ih =>
      by_cases slash : c = '/'
      · rw [List.cons_append, List.dropWhile_cons_of_pos (by simp [slash]), ih,
          List.dropWhile_cons_of_pos (by simp [slash])]
      · rw [List.cons_append, List.dropWhile_cons_of_neg (by simp [slash]),
          List.dropWhile_cons_of_neg (by simp [slash]), List.cons_append]

theorem queryOf_head (path : String) : (queryOf path).head? ≠ some '/' := by
  rw [queryOf]
  intro slash
  have marked := List.head?_dropWhile_not (fun c => decide (c ≠ '?')) path.toList
  rw [slash] at marked
  simp at marked

theorem oneSlash_append (left rest : List Char) (path : String) :
    oneSlash left (rest ++ queryOf path) = oneSlash left rest ++ queryOf path := by
  rw [oneSlash, dropWhile_slash_append rest (queryOf_head path), oneSlash, List.append_assoc,
    List.cons_append]

theorem queryOf_eq_nil_iff (path : String) : queryOf path = [] ↔ '?' ∉ path.toList := by
  rw [queryOf, List.dropWhile_eq_nil_iff]
  constructor
  · intro none member
    simpa using none '?' member
  · intro none c member
    exact decide_eq_true fun same => none (same ▸ member)

theorem withoutQuery_of_covers {basePath path : String}
    (covered : covers (basePath ++ "/*") path = true) :
    withoutQuery path = basePath.toList ++ remainingPath basePath path := by
  have chars : (basePath ++ "/*").toList = basePath.toList ++ ['/', '*'] := String.toList_append
  have count : (basePath.toList ++ ['/', '*']).length - 2 = basePath.toList.length := by simp
  rw [covers, chars] at covered
  simp only [count, List.drop_left, List.take_left, if_true, Bool.or_eq_true, decide_eq_true_eq,
    List.isPrefixOf_iff_prefix] at covered
  have below : basePath.toList <+: withoutQuery path := by
    rcases covered with same | folder
    · exact ⟨[], (List.append_nil _).trans same.symm⟩
    · refine List.IsPrefix.trans ?_ folder
      split
      · exact List.prefix_refl _
      · exact List.prefix_append _ _
  exact (List.prefix_iff_eq_append.mp below).symm

theorem pathBase_ne_empty (value : String) : pathBase value ≠ "" := by
  unfold pathBase
  dsimp only
  generalize (if value.toList.getLast? = some '/' then _ else _) = trimmed
  by_cases empty : trimmed = ""
  · rw [if_pos empty]
    decide
  · rw [if_neg empty]
    exact empty

/-! What the filters touch. -/

/-- The head apart from a configured host name is as before, but for the path. -/
def RewritesOnlyPath (joinPath : String → String → String) (vars : PjsVariables) (basePath : String)
    (config : UrlRewrite) (head : Head) : Prop :=
  urlRewrite joinPath basePath config head = { setHost config.hostname head with
      path := String.ofList (wantedPath basePath config.path head.path) } ∧
    ∀ full, config.path = .replaceFullPath full →
      pjsReplaceFullPath vars config.hostname full head = { setHost config.hostname head with
        path := resolvPath vars full ++ String.ofList (queryOf head.path) }

/-- There is no query to lose, and no slash too many after a path that is the prefix itself. -/
def RewriteFits (basePath : String) (rewrite : PathRewrite) (path : String) : Prop :=
  match rewrite with
  | .replaceFullPath _ => '?' ∉ path.toList
  | .replacePrefixMatch replacement =>
      remainingPath basePath path = [] →
        replacement.toList = replacement.toList.rdropWhile (· = '/') ++ ['/']
  | .other => True

theorem setHost_path (hostname : Option String) (head : Head) :
    (setHost hostname head).path = head.path := by
  unfold setHost
  split <;> rfl

theorem setHost_withPath (hostname : Option String) (head : Head) (path : String) :
    setHost hostname { head with path } = { setHost hostname head with path } := by
  unfold setHost
  split <;> rfl

/-- The older filter keeps the query of a full path. -/
theorem pjsReplaceFullPath_eq (vars : PjsVariables) (hostname : Option String) (full : String)
    (head : Head) :
    pjsReplaceFullPath vars hostname full head = { setHost hostname head with
      path := resolvPath vars full ++ String.ofList (queryOf head.path) } := by
  have suffix := substringFrom_jsLength (withoutQuery head.path) (queryOf head.path)
  rw [withoutQuery_append_queryOf, withoutQuery] at suffix
  rw [pjsReplaceFullPath, suffix]
  exact setHost_withPath hostname head _

theorem urlRewrite_eq_iff {joinPath : String → String → String} {basePath wanted : String}
    {config : UrlRewrite} {head : Head} :
    urlRewrite joinPath basePath config head =
        { setHost config.hostname head with path := wanted } ↔
      rewritePath joinPath basePath config.path head.path = wanted := by
  rw [urlRewrite]
  dsimp only
  rw [setHost_path]
  exact ⟨fun same => congrArg Head.path same, fun same => by rw [same]⟩

/-- The prefix of a path is cut off as a text, and the join adds its slash to what is left. -/
theorem rewritePath_cut {joinPath : String → String → String}
    (joins : ∀ left right, (joinPath left right).toList = oneSlash left.toList right.toList)
    {basePath path : String} (based : basePath ≠ "")
    (covered : covers (basePath ++ "/*") path = true) (replacement : String) :
    (rewritePath joinPath basePath (.replacePrefixMatch replacement) path).toList =
      oneSlash replacement.toList (remainingPath basePath path) ++ queryOf path := by
  have cut := substringFrom_jsLength basePath.toList (remainingPath basePath path ++ queryOf path)
  rw [String.ofList_toList, ← List.append_assoc, ← withoutQuery_of_covers covered,
    withoutQuery_append_queryOf] at cut
  rw [rewritePath, if_pos based, cut]
  have joined := joins replacement
    (String.ofList (remainingPath basePath path ++ queryOf path))
  rw [String.toList_ofList, oneSlash_append] at joined
  rw [orSlash, if_neg, joined]
  intro empty
  rw [empty] at joined
  simp [oneSlash] at joined

theorem eq_ofList_iff {text : String} {chars : List Char} :
    text = String.ofList chars ↔ text.toList = chars := by
  rw [← String.toList_inj, String.toList_ofList]

/-- The newer filter does so exactly where its rewrite fits the path and the query. -/
theorem rewritesOnlyPath_iff {joinPath : String → String → String}
    (joins : ∀ left right, (joinPath left right).toList = oneSlash left.toList right.toList)
    (vars : PjsVariables) {basePath : String} {config : UrlRewrite} {head : Head}
    (selected : ∀ replacement, config.path = .replacePrefixMatch replacement →
      ∃ value, basePath = pathBase value ∧ covers (basePath ++ "/*") head.path = true) :
    RewritesOnlyPath joinPath vars basePath config head ↔
      RewriteFits basePath config.path head.path := by
  have older : ∀ full, config.path = .replaceFullPath full → _ :=
    fun full _ => pjsReplaceFullPath_eq vars config.hostname full head
  rw [RewritesOnlyPath, urlRewrite_eq_iff, and_iff_left older]
  rw [eq_ofList_iff]
  cases rewrite : config.path with
  | other => exact ⟨fun _ => trivial, fun _ => rfl⟩
  | replaceFullPath full =>
      rw [rewritePath, wantedPath, RewriteFits, ← queryOf_eq_nil_iff]
      exact List.self_eq_append_right
  | replacePrefixMatch replacement =>
      obtain ⟨value, rfl, covered⟩ := selected replacement rewrite
      rw [rewritePath_cut joins (pathBase_ne_empty value) covered, wantedPath, RewriteFits]
      by_cases exact_ : remainingPath (pathBase value) head.path = []
      · rw [if_pos exact_, List.append_left_inj, exact_]
        exact ⟨fun same _ => same.symm, fun fits => (fits rfl).symm⟩
      · rw [if_neg exact_]
        exact ⟨fun _ left => absurd left exact_, fun _ => rfl⟩

/-! Documented joins. -/

def plainJoin (left right : String) : String :=
  String.ofList (oneSlash left.toList right.toList)

def noPjsVariables : PjsVariables := ⟨fun _ => none, fun _ => none, fun _ => none⟩

def belowPrefix : Head := ⟨"GET", "/a/c?x=1", [("host", "h")]⟩

theorem belowPrefix_rewritten :
    (urlRewrite plainJoin "/a" ⟨none, .replacePrefixMatch "/b"⟩ belowPrefix).path =
      "/b/c?x=1" := by
  have selected : ∀ replacement, PathRewrite.replacePrefixMatch "/b" =
      .replacePrefixMatch replacement → ∃ value, "/a" = pathBase value ∧
        covers ("/a" ++ "/*") belowPrefix.path = true :=
    fun _ _ => ⟨"/a", by decide, by decide⟩
  have rewritten : RewritesOnlyPath plainJoin noPjsVariables "/a"
      ⟨none, .replacePrefixMatch "/b"⟩ belowPrefix :=
    (rewritesOnlyPath_iff (fun _ _ => String.toList_ofList) noPjsVariables selected).mpr
      fun remaining => absurd remaining (by decide)
  rw [rewritten.1]
  decide

/-- The configured path takes the place of the query as well. -/
theorem fullPath_losesQuery :
    ¬ ∀ (joinPath : String → String → String) (vars : PjsVariables) (basePath : String)
      (config : UrlRewrite) (head : Head),
      (∀ left right, (joinPath left right).toList = oneSlash left.toList right.toList) →
        (∀ replacement, config.path = .replacePrefixMatch replacement →
          ∃ value, basePath = pathBase value ∧ covers (basePath ++ "/*") head.path = true) →
          RewritesOnlyPath joinPath vars basePath config head := by
  intro claimed
  have same := (claimed plainJoin noPjsVariables "/" ⟨none, .replaceFullPath "/new"⟩
    ⟨"GET", "/old?x=1", []⟩ (fun left right => String.toList_ofList)
    (fun _ prefixed => nomatch prefixed)).1
  exact absurd (congrArg Head.path same) (by decide)

end Fgw
