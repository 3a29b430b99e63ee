import Fgw.Library.Fallible
import Fgw.Library.FirstMatch
import Fgw.RouterHttpCore
import Mathlib.Data.List.Induction

/-!
What a rule selector computes, without its tables and its variables: a first-match search
over the ranked matches, or on the fast path over the lists that the request is looked up in.
-/

namespace Fgw

/-! Conditions as tests of the request alone. -/

def regexTest (engine : HttpEngine) (pattern text : String) : Bool :=
  match engine.regExp pattern with
  | .ok re => re text
  | .error _ => false

def methodPasses (fast : Bool) (method : Option MethodMatch) (name : String) : Bool :=
  fast || (method.filter MethodMatch.truthy).all fun wanted => wanted = .verb name

def pathPasses (engine : HttpEngine) (fast : Bool) (path : Option PathMatch) (text : String) :
    Bool :=
  match path with
  | none => true
  | some ⟨type, value⟩ =>
      match type.getD .exact with
      | .exact => fast || (engine.findPattern [value] text).isSome
      | .pathPrefix =>
          fast || (engine.findPattern [pathBase value, pathBase value ++ "/*"] text).isSome
      | .regularExpression => regexTest engine value text
      | .other _ => false

/-- An item of another type is not looked at. -/
def itemPasses (engine : HttpEngine) (obj : String → Option String) (item : ObjectMatch) : Bool :=
  match item.type.getD .exact with
  | .exact => item.value = fieldText obj (engine.lowerCase item.name)
  | .regularExpression =>
      regexTest engine item.value (fieldText obj (engine.lowerCase item.name))
  | .other _ => true

def objectPasses (engine : HttpEngine) (items : List ObjectMatch) (obj : String → Option String) :
    Bool :=
  items.all (itemPasses engine obj)

/-- The checks an HTTPRoute match makes itself; without `fast` all of its conditions. -/
def httpPasses (engine : HttpEngine) (fast : Bool) (m : RouteMatch) (head : Head) : Bool :=
  methodPasses fast m.method head.method && pathPasses engine fast m.path head.path &&
    objectPasses engine m.headers head.header &&
    objectPasses engine m.queryParams (engine.searchParam head.path)

def optionalTest (engine : HttpEngine) (pattern : Option String) (text : String) : Bool :=
  (pattern.filter fun pattern => pattern ≠ "").all fun pattern => regexTest engine pattern text

def grpcMethodPasses (engine : HttpEngine) (method : Option MethodMatch) (path : String) : Bool :=
  match method.filter MethodMatch.truthy with
  | none => true
  | some wanted =>
      match wanted.parts with
      | (type, service, method) =>
          match type.getD .exact with
          | .exact => grpcPath (fun s m =>
              ((service.filter fun text => text ≠ "").all fun text => text = s) &&
                (method.filter fun text => text ≠ "").all fun text => text = m) path
          | .regularExpression =>
              grpcPath (fun s m => optionalTest engine service s && optionalTest engine method m) path
          | .other _ => false

def grpcPasses (engine : HttpEngine) (m : RouteMatch) (head : Head) : Bool :=
  grpcMethodPasses engine m.method head.path && objectPasses engine m.headers head.header

def matchPasses (engine : HttpEngine) (fast : Bool) (kind : String) (m : RouteMatch)
    (head : Head) : Bool :=
  if kind = "HTTPRoute" then httpPasses engine fast m head else grpcPasses engine m head

section Matchers

variable {engine : HttpEngine} {fast : Bool}

theorem regexTest_of_ok {pattern : String} {re : String → Bool}
    (compiled : engine.regExp pattern = .ok re) (text : String) :
    regexTest engine pattern text = re text := by
  simp [regexTest, compiled]

theorem makeMethodMatcher_eq (method : Option MethodMatch) (name : String) :
    ((makeMethodMatcher fast method).all fun check => check name) = methodPasses fast method name := by
  cases fast with
  | true => simp [makeMethodMatcher, methodPasses]
  | false => cases found : method.filter MethodMatch.truthy <;>
      simp [makeMethodMatcher, methodPasses, found]

theorem makePathMatcher_eq {path : Option PathMatch} {matcher : Option PathMatcher}
    (made : makePathMatcher engine fast path = .ok matcher) (text : String) (vars : RouteVars) :
    (checkPath matcher text vars).1 = pathPasses engine fast path text := by
  cases path with
  | none =>
      cases made
      rfl
  | some path =>
      obtain ⟨type, value⟩ := path
      simp only [makePathMatcher, pathPasses] at made ⊢
      cases kind : type.getD .exact with
      | exact =>
          simp only [kind] at made ⊢
          cases fast <;> cases made <;> simp [checkPath]
      | pathPrefix =>
          simp only [kind] at made ⊢
          cases fast with
          | true =>
              cases made
              rfl
          | false =>
              cases made
              by_cases found : (engine.findPattern [pathBase value, pathBase value ++ "/*"]
                text).isSome <;> simp [checkPath, found]
      | regularExpression =>
          simp only [kind, bind_eq_ok] at made
          obtain ⟨re, compiled, rest⟩ := made
          cases rest
          simp [checkPath, regexTest_of_ok compiled]
      | other other =>
          simp only [kind] at made
          cases made
          rfl

theorem exactItems_all (items : List ObjectMatch) (obj : String → Option String) :
    (((items.filter fun item => item.type = some .exact || item.type = none).map fun item =>
        (engine.lowerCase item.name, item.value)).all
      fun item => item.2 = fieldText obj item.1) =
    items.all fun item => item.type.getD .exact ≠ .exact || itemPasses engine obj item := by
  rw [List.all_map, List.all_filter]
  congr 1
  funext item
  cases kind : item.type with
  | none => simp [kind, itemPasses]
  | some type => cases type <;> simp [kind, itemPasses]

theorem regexItems_all {items : List ObjectMatch} {regex : List (String × (String → Bool))}
    (compiled : (items.filter fun item => item.type = some .regularExpression).mapM
      (fun item => do return (engine.lowerCase item.name, ← engine.regExp item.value)) =
        Except.ok regex) (obj : String → Option String) :
    (regex.all fun item => item.2 (fieldText obj item.1)) =
      items.all fun item =>
        item.type ≠ some .regularExpression || itemPasses engine obj item := by
  have tests := map_of_mapM_ok compiled (fun item => item.2 (fieldText obj item.1))
    (itemPasses engine obj) (by
      intro item member result ran
      obtain ⟨re, parsed, rest⟩ := (bind_eq_ok _ _ _).mp ran
      cases rest
      have regular : item.type = some .regularExpression := by
        simpa using (List.mem_filter.mp member).2
      simp [itemPasses, regular, regexTest_of_ok parsed])
  calc (regex.all fun item => item.2 (fieldText obj item.1))
      = (regex.map fun item => item.2 (fieldText obj item.1)).all id := by
        rw [List.all_map]; rfl
    _ = _ := by
        rw [tests, List.all_map, List.all_filter]
        congr 1
        funext item
        by_cases regular : item.type = some .regularExpression <;> simp [regular]

theorem makeObjectMatcher_eq {items : List ObjectMatch}
    {matcher : Option ((String → Option String) → Bool)}
    (made : makeObjectMatcher engine items = .ok matcher) (obj : String → Option String) :
    (matcher.all fun check => check obj) = objectPasses engine items obj := by
  unfold makeObjectMatcher at made
  by_cases empty : items.isEmpty
  · rw [if_pos empty] at made
    cases made
    simp [objectPasses, List.isEmpty_iff.mp empty]
  · rw [if_neg empty, bind_eq_ok] at made
    obtain ⟨regex, compiled, rest⟩ := made
    cases rest
    simp only [Option.all_some, exactItems_all, regexItems_all compiled, objectPasses]
    rw [Bool.eq_iff_iff, Bool.and_eq_true]
    simp only [List.all_eq_true, Bool.or_eq_true, decide_eq_true_eq]
    constructor
    · rintro ⟨exact, regex⟩ item member
      cases kind : item.type with
      | none => exact (exact item member).resolve_left (by simp [kind])
      | some type =>
          cases type with
          | exact => exact (exact item member).resolve_left (by simp [kind])
          | regularExpression => exact (regex item member).resolve_left (by simp [kind])
          | other text => simp [itemPasses, kind]
    · intro all
      exact ⟨fun item member => Or.inr (all item member),
        fun item member => Or.inr (all item member)⟩

theorem optionalRegExp_eq {pattern : Option String} {matcher : Option (String → Bool)}
    (made : optionalRegExp engine pattern = .ok matcher) (text : String) :
    (matcher.all fun re => re text) = optionalTest engine pattern text := by
  unfold optionalRegExp at made
  unfold optionalTest
  split at made
  · rename_i found
    obtain ⟨re, compiled, rfl⟩ := (map_eq_ok _ _ _).mp made
    rw [found, Option.all_some, Option.all_some, regexTest_of_ok compiled]
  · rename_i found
    cases made
    rw [found]
    rfl

theorem makeGRPCMethodMatcher_eq {method : Option MethodMatch} {matcher : Option (String → Bool)}
    (made : makeGRPCMethodMatcher engine method = .ok matcher) (path : String) :
    (matcher.all fun check => check path) = grpcMethodPasses engine method path := by
  unfold makeGRPCMethodMatcher at made
  unfold grpcMethodPasses
  cases found : method.filter MethodMatch.truthy with
  | none =>
      rw [found] at made
      cases made
      rfl
  | some wanted =>
      rcases parts : wanted.parts with ⟨type, service, method⟩
      simp only [found, parts] at made ⊢
      cases kind : type.getD .exact with
      | exact =>
          simp only [kind] at made ⊢
          cases made
          rfl
      | regularExpression =>
          simp only [kind, bind_eq_ok] at made ⊢
          obtain ⟨reService, serviceMade, reMethod, methodMade, rest⟩ := made
          cases rest
          simp only [Option.all_some, optionalRegExp_eq serviceMade, optionalRegExp_eq methodMade]
      | other text =>
          simp only [kind] at made ⊢
          cases made
          rfl

/-- A compiled match answers as `check` does on its match, and sets the matched route and
rule to its own if `records`. -/
structure CompiledMatch.Sound (check : RouteMatch → Head → Bool) (records : Prop)
    (compiled : CompiledMatch) : Prop where
  answer : ∀ head vars, (compiled.matchFunc head vars).1 = check compiled.entry.m head
  matched : records → ∀ head vars, (compiled.matchFunc head vars).1 = true →
    (compiled.matchFunc head vars).2.matchedRoute = some compiled.entry.resource ∧
      (compiled.matchFunc head vars).2.matchedRule = some compiled.entry.rule

theorem compileHTTP_sound {entry : Entry} {compiled : CompiledMatch}
    (made : compileHTTP engine fast entry = .ok compiled) :
    compiled.entry = entry ∧ compiled.Sound (httpPasses engine fast) True := by
  simp only [compileHTTP, bind_eq_ok] at made
  obtain ⟨matchPath, pathMade, matchHeaders, headersMade, matchParams, paramsMade, rest⟩ := made
  cases rest
  have method (name : String) := @makeMethodMatcher_eq fast entry.m.method name
  refine ⟨rfl, ⟨fun head vars => ?_, fun _ head vars => ?_⟩⟩
  · have path := makePathMatcher_eq pathMade head.path vars
    simp only [httpMatchFunc, httpPasses, ← path, ← method head.method,
      ← makeObjectMatcher_eq headersMade, ← makeObjectMatcher_eq paramsMade]
    by_cases onMethod : (makeMethodMatcher fast entry.m.method).all fun check => check head.method
    · rcases checkPath matchPath head.path vars with ⟨_ | _, vars'⟩
      · simp [onMethod]
      · simp only [onMethod, Bool.not_true, Bool.false_eq_true, if_false, Bool.true_and]
        by_cases onHeaders : matchHeaders.all fun check => check head.header
        · by_cases onParams : matchParams.all fun check => check (engine.searchParam head.path)
          · simp [onHeaders, onParams]
          · simp [onHeaders, onParams]
        · simp [onHeaders]
    · simp [onMethod]
  · change (httpMatchFunc engine entry _ _ _ _ head vars).1 = true →
      (httpMatchFunc engine entry _ _ _ _ head vars).2.matchedRoute = some entry.resource ∧
        (httpMatchFunc engine entry _ _ _ _ head vars).2.matchedRule = some entry.rule
    unfold httpMatchFunc
    split
    · simp
    · split
      · simp
      · split
        · simp
        · split <;> simp

theorem compileGRPC_sound {entry : Entry} {compiled : CompiledMatch}
    (made : compileGRPC engine entry = .ok compiled) :
    compiled.entry = entry ∧ compiled.Sound (grpcPasses engine) False := by
  simp only [compileGRPC, bind_eq_ok] at made
  obtain ⟨matchMethod, methodMade, matchHeaders, headersMade, rest⟩ := made
  cases rest
  refine ⟨rfl, ⟨fun head vars => ?_, False.elim⟩⟩
  simp only [grpcMatchFunc, grpcPasses, ← makeGRPCMethodMatcher_eq methodMade,
    ← makeObjectMatcher_eq headersMade]
  by_cases onMethod : matchMethod.all fun check => check head.path
  · by_cases onHeaders : matchHeaders.all fun check => check head.header
    · simp [onMethod, onHeaders]
    · simp [onMethod, onHeaders]
  · simp [onMethod]

theorem compileMatches_sound {kind : String} {entries : List Entry} {compiled : List CompiledMatch}
    (made : compileMatches engine fast kind entries = .ok compiled) :
    compiled.map CompiledMatch.entry = entries ∧
      ∀ one ∈ compiled, one.Sound (matchPasses engine fast kind) (kind = "HTTPRoute") := by
  unfold compileMatches at made
  split at made
  · refine ⟨?_, fun one member => ?_⟩
    · simpa using map_of_mapM_ok made CompiledMatch.entry id fun entry _ _ ran =>
        (compileHTTP_sound ran).1
    · obtain ⟨entry, _, ran⟩ := (mem_of_mapM_ok made one).mp member
      have sound := (compileHTTP_sound ran).2
      exact ⟨sound.answer, fun _ => sound.matched trivial⟩
  · refine ⟨?_, fun one member => ?_⟩
    · simpa using map_of_mapM_ok made CompiledMatch.entry id fun entry _ _ ran =>
        (compileGRPC_sound ran).1
    · obtain ⟨entry, _, ran⟩ := (mem_of_mapM_ok made one).mp member
      exact ⟨(compileGRPC_sound ran).2.answer, fun isHTTP => by simp at isHTTP⟩
  · cases made

theorem findMatch_eq {check : RouteMatch → Head → Bool} {records : Prop}
    {list : List CompiledMatch} (sound : ∀ one ∈ list, one.Sound check records) (head : Head)
    (vars : RouteVars) :
    (findMatch head list vars).1 = list.find? fun one => check one.entry.m head := by
  induction list generalizing vars with
  | nil => rfl
  | cons one rest ih =>
      have answer := (sound one List.mem_cons_self).answer head vars
      have later := ih fun other member => sound other (List.mem_cons_of_mem _ member)
      unfold findMatch
      split
      · rename_i ran
        rw [ran] at answer
        simp [← answer]
      · rename_i ran
        rw [ran] at answer
        simp [← answer, later]

theorem findMatch_matched {check : RouteMatch → Head → Bool} {records : Prop} (recorded : records)
    {list : List CompiledMatch} (sound : ∀ one ∈ list, one.Sound check records) (head : Head)
    (vars : RouteVars) {found : CompiledMatch} (picked : (findMatch head list vars).1 = some found) :
    (findMatch head list vars).2.matchedRoute = some found.entry.resource ∧
      (findMatch head list vars).2.matchedRule = some found.entry.rule := by
  induction list generalizing vars with
  | nil => cases picked
  | cons one rest ih =>
      have matched := (sound one List.mem_cons_self).matched recorded head vars
      have later := ih fun other member => sound other (List.mem_cons_of_mem _ member)
      unfold findMatch at picked ⊢
      split at picked
      · rename_i ran
        rw [ran] at matched
        cases picked
        simpa [ran] using matched rfl
      · rename_i ran
        simpa [ran] using later _ picked

end Matchers

/-! The buckets as filters of the ranked matches. -/

def nonEmpty {α : Type} (items : List α) : Option (List α) :=
  if items.isEmpty then none else some items

def placedUnder (engine : HttpEngine) (path method : String) (m : RouteMatch) : Bool :=
  pathKey engine m = some path && m.methodKey.getD "*" = method

def placedByMethod (engine : HttpEngine) (method : String) (m : RouteMatch) : Bool :=
  pathKey engine m = none && m.methodKey = some method

def placedLast (engine : HttpEngine) (m : RouteMatch) : Bool :=
  pathKey engine m = none && m.methodKey = none

def addPattern (patterns : List String) (pattern : String) : List String :=
  if pattern ∈ patterns then patterns else patterns ++ [pattern]

/-- The patterns that the fast path registers, each once. -/
def registeredPatterns (engine : HttpEngine) (entries : List Entry) : List String :=
  (entries.filterMap fun entry => pathKey engine entry.m).foldl addPattern []

/-- What `makeBuckets` has built from a list of matches. -/
structure BucketsOf (engine : HttpEngine) (list : List CompiledMatch) (buckets : Buckets) :
    Prop where
  slow : buckets.slowMatches = list.filter fun one => placedLast engine one.entry.m
  byMethod : ∀ method, (buckets.methodMatches.get? method).getD [] =
    list.filter fun one => placedByMethod engine method one.entry.m
  byPath : ∀ path method,
    ((buckets.pathMatches.get? path).bind fun methods => methods.get? method) =
      nonEmpty (list.filter fun one => placedUnder engine path method one.entry.m)
  patterns : buckets.pathMatches.keys = registeredPatterns engine (list.map CompiledMatch.entry)

theorem nonEmpty_append_singleton {α : Type} (items : List α) (item : α) :
    nonEmpty (items ++ [item]) = some (items ++ [item]) := by
  simp [nonEmpty]

theorem getD_nonEmpty {α : Type} (items : List α) : (nonEmpty items).getD [] = items := by
  cases items <;> rfl

theorem get?_pushMatch (lists : Table (List CompiledMatch)) (key other : String)
    (one : CompiledMatch) :
    (pushMatch lists key one).get? other =
      if key = other then some ((lists.get? key).getD [] ++ [one]) else lists.get? other :=
  Table.get?_set lists key other _

theorem get?_pushPath (lists : Table (Table (List CompiledMatch)))
    (path key other verb : String) (one : CompiledMatch) :
    (((lists.set path (pushMatch ((lists.get? path).getD Table.empty) key one)).get? other).bind
        fun methods => methods.get? verb) =
      if path = other ∧ key = verb then
        some (((lists.get? other).bind fun methods => methods.get? verb).getD [] ++ [one])
      else (lists.get? other).bind fun methods => methods.get? verb := by
  have current (name : String) : ((lists.get? path).getD Table.empty).get? name =
      (lists.get? path).bind fun methods => methods.get? name := by
    cases lists.get? path <;> rfl
  rw [Table.get?_set]
  by_cases here : path = other
  · subst other
    rw [if_pos rfl, Option.bind_some, get?_pushMatch, current, current]
    by_cases same : key = verb
    · simp [same]
    · simp [same]
  · simp [here]

theorem bucketsOf_addMatch {engine : HttpEngine} {list : List CompiledMatch} {buckets : Buckets}
    (built : BucketsOf engine list buckets) (one : CompiledMatch) :
    BucketsOf engine (list ++ [one]) (addMatch engine buckets one) := by
  have patterns (path : String) (placed : pathKey engine one.entry.m = some path) :
      registeredPatterns engine ((list ++ [one]).map CompiledMatch.entry) =
        addPattern (registeredPatterns engine (list.map CompiledMatch.entry)) path := by
    simp [registeredPatterns, placed]
  have samePatterns (placed : pathKey engine one.entry.m = none) :
      registeredPatterns engine ((list ++ [one]).map CompiledMatch.entry) =
        registeredPatterns engine (list.map CompiledMatch.entry) := by
    simp [registeredPatterns, placed]
  cases placed : pathKey engine one.entry.m with
  | some path =>
      have added : addMatch engine buckets one = { buckets with
          pathMatches := buckets.pathMatches.set path
            (pushMatch ((buckets.pathMatches.get? path).getD Table.empty)
              (one.entry.m.methodKey.getD "*") one) } := by
        simp [addMatch, placed]
      rw [added]
      refine ⟨?_, ?_, ?_, ?_⟩
      · simp [built.slow, List.filter_append, placedLast, placed]
      · intro other
        simp [built.byMethod, List.filter_append, placedByMethod, placed]
      · intro other verb
        rw [get?_pushPath, built.byPath other verb, getD_nonEmpty, List.filter_append]
        by_cases here : path = other ∧ one.entry.m.methodKey.getD "*" = verb
        · simp [placedUnder, placed, here, nonEmpty_append_singleton]
        · rw [if_neg here]
          simp [placedUnder, placed, here]
      · rw [patterns path placed, ← built.patterns]
        exact Table.keys_set buckets.pathMatches path _
  | none =>
      cases keyed : one.entry.m.methodKey with
      | some method =>
          have added : addMatch engine buckets one = { buckets with
              methodMatches := pushMatch buckets.methodMatches method one } := by
            simp [addMatch, placed, keyed]
          rw [added]
          refine ⟨?_, ?_, ?_, ?_⟩
          · simp [built.slow, List.filter_append, placedLast, placed, keyed]
          · intro other
            rw [get?_pushMatch, List.filter_append, ← built.byMethod other]
            by_cases same : method = other
            · simp [same, placedByMethod, placed, keyed]
            · simp [same, placedByMethod, placed, keyed]
          · intro other verb
            simp [built.byPath, List.filter_append, placedUnder, placed]
          · rw [samePatterns placed, built.patterns]
      | none =>
          have added : addMatch engine buckets one = { buckets with
              slowMatches := buckets.slowMatches ++ [one] } := by
            simp [addMatch, placed, keyed]
          rw [added]
          refine ⟨?_, ?_, ?_, ?_⟩
          · simp [built.slow, List.filter_append, placedLast, placed, keyed]
          · intro other
            simp [built.byMethod, List.filter_append, placedByMethod, placed, keyed]
          · intro other verb
            simp [built.byPath, List.filter_append, placedUnder, placed]
          · rw [samePatterns placed, built.patterns]

theorem bucketsOf_makeBuckets (engine : HttpEngine) (list : List CompiledMatch) :
    BucketsOf engine list (makeBuckets engine list) := by
  induction list using List.reverseRecOn with
  | nil => exact ⟨rfl, fun _ => rfl, fun _ _ => rfl, rfl⟩
  | append_singleton list one ih =>
      have step := bucketsOf_addMatch ih one
      simpa [makeBuckets] using step

/-! The lists that a request is looked up in. -/

/-- The method list of a path bucket: the one of the request's method if there is one. -/
def bucketMethod (engine : HttpEngine) (entries : List Entry) (path method : String) : String :=
  if entries.any fun entry => placedUnder engine path method entry.m then method else "*"

def inPathList (engine : HttpEngine) (entries : List Entry) (head : Head) (m : RouteMatch) : Bool :=
  (engine.findPattern (registeredPatterns engine entries) head.path).any fun path =>
    placedUnder engine path (bucketMethod engine entries path head.method) m

/-- The ranked matches that the fast path goes through for a request, in its order. -/
def consulted (engine : HttpEngine) (entries : List Entry) (head : Head) : List Entry :=
  (entries.filter fun entry => inPathList engine entries head entry.m) ++
    (entries.filter fun entry => placedByMethod engine head.method entry.m) ++
    entries.filter fun entry => placedLast engine entry.m

theorem map_filter_entry (list : List CompiledMatch) (keep : RouteMatch → Bool) :
    (list.filter fun one => keep one.entry.m).map CompiledMatch.entry =
      (list.map CompiledMatch.entry).filter fun entry => keep entry.m := by
  rw [List.filter_map]
  rfl

theorem pathChecks_eq {engine : HttpEngine} {list : List CompiledMatch} {buckets : Buckets}
    (built : BucketsOf engine list buckets) (head : Head) :
    pathChecks engine buckets head =
      list.filter fun one =>
        inPathList engine (list.map CompiledMatch.entry) head one.entry.m := by
  unfold pathChecks inPathList
  rw [built.patterns]
  cases found : engine.findPattern
      (registeredPatterns engine (list.map CompiledMatch.entry)) head.path with
  | none => simp
  | some path =>
      have bucket := built.byPath path
      simp only [Option.bind_some, Option.any_some]
      have named : (list.map CompiledMatch.entry).any
          (fun entry => placedUnder engine path head.method entry.m) =
          !(list.filter fun one => placedUnder engine path head.method one.entry.m).isEmpty := by
        rw [List.any_map, Bool.eq_iff_iff]
        simp
      cases methods : buckets.pathMatches.get? path with
      | none =>
          have none : nonEmpty (list.filter fun one => placedUnder engine path
              (bucketMethod engine (list.map CompiledMatch.entry) path head.method) one.entry.m) =
              none := by
            rw [← bucket, methods, Option.bind_none]
          rw [← getD_nonEmpty (list.filter _), none]
          rfl
      | some methods =>
          simp only [methods, Option.bind_some] at bucket
          simp only [bucket, bucketMethod, named]
          by_cases empty :
              (list.filter fun one => placedUnder engine path head.method one.entry.m).isEmpty
          · simp only [nonEmpty, empty, if_true, Option.none_or, Bool.not_true, Bool.false_eq_true,
              if_false]
            exact getD_nonEmpty _
          · simp [nonEmpty, empty]

theorem findMatch_append (head : Head) (left right : List CompiledMatch) (vars : RouteVars) :
    findMatch head (left ++ right) vars =
      match findMatch head left vars with
      | (some one, vars) => (some one, vars)
      | (none, vars) => findMatch head right vars := by
  induction left generalizing vars with
  | nil => rfl
  | cons one rest ih =>
      simp only [List.cons_append, findMatch]
      split
      · rfl
      · exact ih _

theorem fastSelector_eq_plain (engine : HttpEngine) (buckets : Buckets) (head : Head)
    (vars : RouteVars) :
    fastSelector engine buckets head vars =
      plainSelector (pathChecks engine buckets head ++
        (buckets.methodMatches.get? head.method).getD [] ++ buckets.slowMatches) head vars := by
  simp only [fastSelector, plainSelector, findMatch_append]
  rcases findMatch head (pathChecks engine buckets head) vars with ⟨_ | one, after⟩
  · dsimp only
    rcases findMatch head ((buckets.methodMatches.get? head.method).getD []) after
      with ⟨_ | one, later⟩ <;> rfl
  · rfl

/-- What a search over the ranked matches selects, and the route and rule it records. -/
structure Selects (found : Option Entry) (records : Prop) (result : Option Entry × RouteVars) :
    Prop where
  selected : result.1 = found
  matched : records → ∀ entry, found = some entry →
    result.2.matchedRoute = some entry.resource ∧ result.2.matchedRule = some entry.rule

theorem selects_plain {check : RouteMatch → Head → Bool} {records : Prop}
    {list : List CompiledMatch} (sound : ∀ one ∈ list, one.Sound check records) (head : Head)
    (vars : RouteVars) :
    Selects ((list.map CompiledMatch.entry).find? fun entry => check entry.m head) records
      (plainSelector list head vars) := by
  have found := findMatch_eq sound head vars
  have lifted : (list.map CompiledMatch.entry).find? (fun entry => check entry.m head) =
      (findMatch head list vars).1.map CompiledMatch.entry := by
    rw [found, List.find?_map]
    rfl
  rw [lifted]
  rcases ran : findMatch head list vars with ⟨_ | one, after⟩
  · refine ⟨by simp [plainSelector, ran], ?_⟩
    intro _ entry absent
    cases absent
  · refine ⟨by simp [plainSelector, ran], ?_⟩
    rintro recorded entry ⟨rfl⟩
    have picked : (findMatch head list vars).1 = some one := by rw [ran]
    have matched := findMatch_matched recorded sound head vars picked
    simpa [plainSelector, ran] using matched

theorem fastSelector_eq_consulted {engine : HttpEngine} {entries : List Entry}
    {compiled : List CompiledMatch}
    (made : compileMatches engine true "HTTPRoute" entries = .ok compiled) (head : Head)
    (vars : RouteVars) :
    ∃ list, list.map CompiledMatch.entry = consulted engine entries head ∧
      (∀ one ∈ list, one ∈ compiled) ∧
        fastSelector engine (makeBuckets engine compiled) head vars =
          plainSelector list head vars := by
  have same := (compileMatches_sound made).1
  have built := bucketsOf_makeBuckets engine compiled
  refine ⟨(compiled.filter fun one => inPathList engine entries head one.entry.m) ++
    (compiled.filter fun one => placedByMethod engine head.method one.entry.m) ++
    compiled.filter fun one => placedLast engine one.entry.m, ?_, fun one member => ?_, ?_⟩
  · simp only [List.map_append, same, consulted,
      map_filter_entry compiled (inPathList engine entries head),
      map_filter_entry compiled (placedByMethod engine head.method),
      map_filter_entry compiled (placedLast engine)]
  · simp only [List.mem_append, List.mem_filter] at member
    tauto
  · rw [fastSelector_eq_plain, pathChecks_eq built, built.byMethod, built.slow, same]

theorem selects_fast {engine : HttpEngine} {entries : List Entry} {compiled : List CompiledMatch}
    (made : compileMatches engine true "HTTPRoute" entries = .ok compiled) (head : Head)
    (vars : RouteVars) :
    Selects ((consulted engine entries head).find? fun entry => httpPasses engine true entry.m head)
      True (fastSelector engine (makeBuckets engine compiled) head vars) := by
  obtain ⟨_, sound⟩ := compileMatches_sound made
  obtain ⟨list, same, inside, ran⟩ := fastSelector_eq_consulted made head vars
  rw [ran, ← same]
  refine selects_plain (fun one member => ?_) head vars
  exact ⟨(sound one (inside one member)).answer, fun _ =>
    (sound one (inside one member)).matched rfl⟩

/-! The selector of a group of routes. -/

/-- `routeResources[0].kind` -/
def groupKind (resources : List RouteResource) : String :=
  (resources.head?.map RouteResource.kind).getD ""

def groupRules (resources : List RouteResource) : List (Rule × BackendSelector × RouteResource) :=
  (listRules resources).zipIdx.map fun rule =>
    (rule.1.1, ⟨rule.2, rule.1.1, groupKind resources = "GRPCRoute"⟩, rule.1.2)

def rankedMatches (resources : List RouteResource) : List Entry :=
  sortMatches (listMatches (groupRules resources))

/-- The rules of a group with backend selectors that can be made. -/
def RulesSound (engine : HttpEngine) (resources : List RouteResource) : Prop :=
  ∀ rule ∈ (listRules resources).zipIdx,
    ∃ made, engine.backendSelector rule.1.1 (groupKind resources = "GRPCRoute") = .ok made

theorem makeRules_eq_ok (engine : HttpEngine) (isHTTP2 : Bool)
    (rules : List ((Rule × RouteResource) × Nat))
    (made : List (Rule × BackendSelector × RouteResource)) :
    rules.mapM (makeBackendSelectorForRule engine isHTTP2) = .ok made ↔
      (∀ rule ∈ rules, ∃ done, engine.backendSelector rule.1.1 isHTTP2 = .ok done) ∧
        made = rules.map fun rule => (rule.1.1, ⟨rule.2, rule.1.1, isHTTP2⟩, rule.1.2) := by
  have each (rule : (Rule × RouteResource) × Nat) (one : Rule × BackendSelector × RouteResource) :
      makeBackendSelectorForRule engine isHTTP2 rule = .ok one ↔
        (∃ done, engine.backendSelector rule.1.1 isHTTP2 = .ok done) ∧
          one = (rule.1.1, ⟨rule.2, rule.1.1, isHTTP2⟩, rule.1.2) := by
    simp only [makeBackendSelectorForRule, bind_eq_ok, pure, Except.pure, Except.ok.injEq,
      ← exists_and_right, eq_comm (a := one)]
  constructor
  · intro ran
    refine ⟨fun rule member => ?_, ?_⟩
    · obtain ⟨one, ranOne⟩ := (exists_ok_mapM rules _).mp ⟨made, ran⟩ rule member
      exact ((each rule one).mp ranOne).1
    · have same := map_of_mapM_ok ran id _ fun rule _ one ranOne => ((each rule one).mp ranOne).2
      simpa using same
  · rintro ⟨sound, rfl⟩
    obtain ⟨result, ran⟩ := (exists_ok_mapM rules (makeBackendSelectorForRule engine isHTTP2)).mpr
      fun rule member => ⟨_, (each rule _).mpr ⟨sound rule member, rfl⟩⟩
    have same := map_of_mapM_ok ran id _ fun rule _ one ranOne => ((each rule one).mp ranOne).2
    rw [List.map_id] at same
    rw [ran, same]

theorem makeRuleSelector_eq_ok (engine : HttpEngine) (fast : Bool)
    (resources : List RouteResource) (selector : RuleSelector) :
    makeRuleSelector engine fast resources = .ok selector ↔
      resources ≠ [] ∧ RulesSound engine resources ∧
        ∃ compiled, compileMatches engine fast (groupKind resources) (rankedMatches resources) =
            .ok compiled ∧
          selector = if fast && groupKind resources = "HTTPRoute" then
            fastSelector engine (makeBuckets engine compiled) else plainSelector compiled := by
  cases resources with
  | nil => simp [makeRuleSelector]
  | cons first rest =>
      have kind : groupKind (first :: rest) = first.kind := rfl
      simp only [makeRuleSelector, bind_eq_ok, makeRules_eq_ok, ne_eq, reduceCtorEq,
        not_false_eq_true, true_and, RulesSound, rankedMatches, groupRules, kind]
      constructor
      · rintro ⟨_, ⟨sound, rfl⟩, compiled, made, rest⟩
        refine ⟨sound, compiled, made, ?_⟩
        split at rest <;> cases rest <;> simp [*]
      · rintro ⟨sound, compiled, made, rfl⟩
        refine ⟨_, ⟨sound, rfl⟩, compiled, made, ?_⟩
        split <;> rfl

theorem compileMatches_modes (engine : HttpEngine) (kind : String) (entries : List Entry) :
    (∃ compiled, compileMatches engine true kind entries = .ok compiled) ↔
      ∃ compiled, compileMatches engine false kind entries = .ok compiled := by
  have paths (path : Option PathMatch) :
      (∃ matcher, makePathMatcher engine true path = .ok matcher) ↔
        ∃ matcher, makePathMatcher engine false path = .ok matcher := by
    rcases path with _ | ⟨type, value⟩
    · rfl
    · simp only [makePathMatcher]
      cases type.getD .exact <;> simp
  have entryModes (entry : Entry) : (∃ one, compileHTTP engine true entry = .ok one) ↔
      ∃ one, compileHTTP engine false entry = .ok one := by
    simp only [compileHTTP, exists_ok_bind]
    constructor
    · rintro ⟨matcher, made, rest⟩
      obtain ⟨other, otherMade⟩ := (paths _).mp ⟨matcher, made⟩
      obtain ⟨headers, headersMade, params, paramsMade, _⟩ := rest
      exact ⟨other, otherMade, headers, headersMade, params, paramsMade, _, rfl⟩
    · rintro ⟨matcher, made, rest⟩
      obtain ⟨other, otherMade⟩ := (paths _).mpr ⟨matcher, made⟩
      obtain ⟨headers, headersMade, params, paramsMade, _⟩ := rest
      exact ⟨other, otherMade, headers, headersMade, params, paramsMade, _, rfl⟩
  unfold compileMatches
  split
  · simp only [exists_ok_mapM, entryModes]
  · rfl
  · rfl

end Fgw
