import Fgw.Library.Fallible
import Fgw.Library.Segments
import Fgw.UrlRewrite

/-!
The route table of the pjs gateway: what the matches of a domain look at in a request.
-/

namespace Fgw

namespace PjsRoute

inductive PathRuleType
  | regex
  | exact
  | leading
  | other

/-- `Path` of a rule; `leading` is the type `Prefix`. -/
structure PathRule where
  type : Option PathRuleType
  path : String

inductive DictionaryType
  | exact
  | regex
  | other

/-- `Path`, `Methods`, `Headers` and `QueryParams` of an element of `Matches`. -/
structure HttpRule where
  path : Option PathRule
  methods : Option (List String)
  headers : List (DictionaryType × List (String × String))
  queryParams : List (DictionaryType × List (String × String))

/-- What `makeHttpMatches` returns. -/
structure HttpMatches where
  config : HttpRule
  accepts : Head → Bool

/-- A value that a text holds under a name, if it holds one that is not undefined. -/
abbrev Lookup : Type := String → Option String

/-- `text || undefined` -/
def orNone (text : List Char) : Option (List Char) := if text = [] then none else some text

/-- `params[kv[0]] = kv[1]`, where the value is undefined if there is no second component. -/
def parameterEntry (pair : List Char) : String × Option String :=
  let kv := pair.splitOn '='
  (String.ofList (kv.headD []), kv[1]?.map String.ofList)

def getParameters (path : String) : Table (Option String) :=
  match ((path.toList.splitOn '?')[1]?).bind orNone with
  | none => Table.empty
  | some qsa =>
      match (qsa.splitOn '#').head?.bind orNone with
      | none => Table.empty
      | some qs =>
          ((qs.splitOn '&').map parameterEntry).foldl
            (fun params entry => params.set entry.1 entry.2) Table.empty

def dictionaryTests (regExp : String → Except Thrown (String → Bool)) :
    DictionaryType × List (String × String) → Except Thrown (List (Lookup → Bool))
  | (.exact, dict) => .ok (dict.map fun entry obj => decide (obj entry.1 = some entry.2))
  | (.regex, dict) => dict.mapM fun entry => do
      let regex ← regExp entry.2
      return fun obj => regex ((obj entry.1).getD "")
  | (.other, _) => .ok [fun _ => false]

def makeDictionaryMatches (regExp : String → Except Thrown (String → Bool))
    (dictionary : List (DictionaryType × List (String × String))) :
    Except Thrown (Option (Lookup → Bool)) := do
  let tests ← dictionary.mapM (dictionaryTests regExp)
  return if tests.isEmpty then none else some fun obj => tests.all fun a => a.all fun f => f obj

/-- `text.charAt(index)` -/
def charAt (text : String) (index : Nat) : Option Char := (substringFrom index text.toList).head?

def endsInSlash (text : String) : Bool := text.toList.getLast? = some '/'

def pathPrefix (path start : String) : Bool :=
  start.toList.isPrefixOf path.toList && (endsInSlash start ||
    (let lastChar := charAt path (jsLength start)
    lastChar = none || lastChar = some '/'))

/-- `head.path.split('?')[0]` -/
def pathOf (head : Head) : String := String.ofList ((head.path.toList.splitOn '?').headD [])

def makePathMatch (regExp : String → Except Thrown (String → Bool)) (path : Option PathRule) :
    Except Thrown (Option (String → Bool)) :=
  match path with
  | none => .ok none
  | some rule =>
      match rule.type with
      | none => .ok none
      | some .regex => do
          let regex ← regExp rule.path
          return some regex
      | some .exact => .ok (some fun path => path = rule.path)
      | some .leading => .ok (some fun path => pathPrefix path rule.path)
      | some .other => .ok (some fun _ => false)

def passes {α : Type} (test : Option (α → Bool)) (input : α) : Bool :=
  match test with
  | none => true
  | some test => test input

def makeHttpMatches (regExp : String → Except Thrown (String → Bool)) (rule : HttpRule) :
    Except Thrown HttpMatches := do
  let matchPath ← makePathMatch regExp rule.path
  let matchHeaders ← makeDictionaryMatches regExp rule.headers
  let matchMethod := rule.methods.map fun methods method => decide (method ∈ methods)
  let matchParams ← makeDictionaryMatches regExp rule.queryParams
  return ⟨rule, fun head => passes matchMethod head.method && (passes matchPath (pathOf head) &&
    (passes matchHeaders head.header &&
      passes matchParams fun name => ((getParameters head.path).get? name).join))⟩

/-- `makeRouteMatchesHandler` for the route types `HTTP` and `HTTP2`. -/
def makeRouteMatchesHandler (regExp : String → Except Thrown (String → Bool))
    (rules : List HttpRule) : Except Thrown (Head → Option HttpMatches) := do
  let compiled ← rules.mapM (makeHttpMatches regExp)
  return fun message => compiled.find? fun m => m.accepts message

/-! Prefixes and segments. -/

theorem pathOf_toList (head : Head) : (pathOf head).toList = withoutQuery head.path := by
  rw [pathOf, String.toList_ofList, List.headD_eq_head?_getD, head?_splitOn, Option.getD_some,
    withoutQuery]

theorem charAt_append (start more : List Char) :
    charAt (String.ofList (start ++ more)) (jsLength (String.ofList start)) = more.head? := by
  rw [charAt, String.toList_ofList, substringFrom_jsLength]

theorem pathPrefix_iff (path start : String) :
    pathPrefix path start = true ↔ ∃ more, path.toList = start.toList ++ more ∧
      (endsInSlash start = true ∨ more = [] ∨ more.head? = some '/') := by
  rw [pathPrefix, Bool.and_eq_true, List.isPrefixOf_iff_prefix]
  constructor
  · rintro ⟨⟨more, whole⟩, boundary⟩
    refine ⟨more, whole.symm, ?_⟩
    have atEnd : charAt path (jsLength start) = more.head? := by
      rw [← charAt_append start.toList more, whole, String.ofList_toList, String.ofList_toList]
    simpa [atEnd] using boundary
  · rintro ⟨more, whole, boundary⟩
    have atEnd : charAt path (jsLength start) = more.head? := by
      rw [← charAt_append start.toList more, ← whole, String.ofList_toList, String.ofList_toList]
    exact ⟨⟨more, whole.symm⟩, by simpa [atEnd] using boundary⟩

theorem pathSegments_prefix_iff (path start : String) :
    pathSegments start <+: pathSegments path ↔
      path = start ∨ start.toList ++ ['/'] <+: path.toList := by
  rw [pathSegments, pathSegments, List.prefix_map_iff_of_injective, splitOn_prefix_iff,
    String.toList_inj]
  exact fun left right same => by simpa using congrArg String.toList same

theorem pathPrefix_iff_segments {path start : String} (plain : endsInSlash start = false) :
    pathPrefix path start = true ↔ pathSegments start <+: pathSegments path := by
  rw [pathPrefix_iff, pathSegments_prefix_iff]
  constructor
  · rintro ⟨more, whole, slash | rfl | starts⟩
    · rw [plain] at slash
      cases slash
    · left
      rw [List.append_nil] at whole
      exact String.toList_inj.mp whole
    · right
      obtain ⟨rest, rfl⟩ := List.head?_eq_some_iff.mp starts
      rw [whole]
      exact ⟨rest, by simp⟩
  · rintro (rfl | ⟨rest, whole⟩)
    · exact ⟨[], by simp, by simp⟩
    · exact ⟨'/' :: rest, by simp [← whole], by simp⟩

theorem pathPrefix_iff_starts {path start : String} (slash : endsInSlash start = true) :
    pathPrefix path start = true ↔ start.toList <+: path.toList := by
  rw [pathPrefix_iff]
  constructor
  · rintro ⟨more, whole, _⟩
    exact ⟨more, whole.symm⟩
  · rintro ⟨more, whole⟩
    exact ⟨more, whole.symm, .inl slash⟩

theorem of_makeHttpMatches {regExp : String → Except Thrown (String → Bool)} {rule : HttpRule}
    {made : HttpMatches} (compiled : makeHttpMatches regExp rule = .ok made) :
    made.config = rule ∧ ∃ matchPath, makePathMatch regExp rule.path = .ok matchPath ∧
      ∀ head, made.accepts head = true → passes matchPath (pathOf head) = true := by
  rw [makeHttpMatches, bind_eq_ok] at compiled
  obtain ⟨matchPath, first, compiled⟩ := compiled
  obtain ⟨matchHeaders, _, compiled⟩ := (bind_eq_ok _ _ _).mp compiled
  obtain ⟨matchParams, _, compiled⟩ := (bind_eq_ok _ _ _).mp compiled
  cases compiled
  refine ⟨rfl, matchPath, first, ?_⟩
  intro head accepted
  simp only [Bool.and_eq_true] at accepted
  exact accepted.2.1

/-- A rule of type `Prefix` captures only what `pathPrefix` accepts. -/
theorem pathPrefix_of_accepts {regExp : String → Except Thrown (String → Bool)} {rule : HttpRule}
    {made : HttpMatches} {start : String} {head : Head}
    (compiled : makeHttpMatches regExp rule = .ok made)
    (leading : rule.path = some ⟨some .leading, start⟩) (accepted : made.accepts head = true) :
    pathPrefix (pathOf head) start = true := by
  obtain ⟨_, matchPath, tested, passed⟩ := of_makeHttpMatches compiled
  rw [leading] at tested
  cases tested
  exact passed head accepted

theorem prefixRules_segmentwise :
    (∀ path start, endsInSlash start = false →
      (pathPrefix path start = true ↔ pathSegments start <+: pathSegments path)) ∧
    (∀ path start, endsInSlash start = true →
      (pathPrefix path start = true ↔ start.toList <+: path.toList)) ∧
    ∀ regExp rules handler message made start, makeRouteMatchesHandler regExp rules = .ok handler →
      handler message = some made → made.config.path = some ⟨some .leading, start⟩ →
      endsInSlash start = false → pathSegments start <+: pathSegments (pathOf message) := by
  refine ⟨fun path start => pathPrefix_iff_segments, fun path start => pathPrefix_iff_starts, ?_⟩
  intro regExp rules handler message made start built found leading plain
  obtain ⟨compiled, listed, rest⟩ := (bind_eq_ok _ _ _).mp built
  cases rest
  obtain ⟨rule, _, ran⟩ := (mem_of_mapM_ok listed made).mp (List.mem_of_find?_eq_some found)
  have accepted : made.accepts message = true :=
    List.find?_some (p := fun m : HttpMatches => m.accepts message) found
  obtain ⟨same, _⟩ := of_makeHttpMatches ran
  rw [same] at leading
  exact (pathPrefix_iff_segments plain).mp (pathPrefix_of_accepts ran leading accepted)

def folderRule : HttpRule := ⟨some ⟨some .leading, "/a"⟩, none, [], []⟩

theorem folderRule_segmentwise :
    pathPrefix "/ab" "/a" = false ∧ pathPrefix "/a/b" "/a/" = true ∧
      pathSegments "/a" <+: pathSegments "/a/b" := by
  refine ⟨?_, (prefixRules_segmentwise.2.1 "/a/b" "/a/" (by decide)).mpr ⟨['b'], rfl⟩, ?_⟩
  · rw [Bool.eq_false_iff]
    intro accepted
    exact absurd ((prefixRules_segmentwise.1 "/ab" "/a" (by decide)).mp accepted) (by decide)
  · exact prefixRules_segmentwise.2.2 documentedEngine.regExp [folderRule] _ ⟨"GET", "/a/b?x=1", []⟩
      _ "/a" rfl rfl rfl (by decide)

end PjsRoute

end Fgw
