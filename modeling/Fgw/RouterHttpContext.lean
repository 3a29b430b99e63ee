import Fgw.RouterHttpConditions

/-!
The context variables of a routed request.  The router picks a group of resources by the
host, and the search through the matches of that group leaves its marks in `$basePath`,
`$matchedRoute` and `$matchedRule`.
-/

namespace Fgw

/-! Hosts. -/

/-- What is kept for each full name and for each ending of a host, in the order in which
endings are tried. -/
structure Hosts (α : Type) where
  fullnames : List (String × α)
  endings : List (String × α)

def pushHost (lists : Table (List RouteResource)) (key : String) (resource : RouteResource) :
    Table (List RouteResource) :=
  lists.set key ((lists.get? key).getD [] ++ [resource])

/-- `hostFullnames` and `hostPostfixes` as they are filled. -/
def addHost (engine : HttpEngine)
    (groups : Table (List RouteResource) × Table (List RouteResource))
    (host : String × RouteResource) :
    Table (List RouteResource) × Table (List RouteResource) :=
  let name := engine.lowerCase (trimText host.1)
  match name.toList with
  | '*' :: ending => (groups.1, pushHost groups.2 (String.ofList ending) host.2)
  | _ => (pushHost groups.1 name host.2, groups.2)

def listHosts (resources : List RouteResource) : List (String × RouteResource) :=
  resources.flatMap fun resource => (resource.hostnames.getD ["*"]).map fun name => (name, resource)

/-- Long endings are tried first. -/
def hostGroups (engine : HttpEngine) (resources : List RouteResource) :
    Hosts (List RouteResource) :=
  let groups := (listHosts resources).foldl (addHost engine) (Table.empty, Table.empty)
  ⟨groups.1.entries,
    groups.2.entries.insertionSort fun first second => jsLength second.1 ≤ jsLength first.1⟩

def makeHostSelector (engine : HttpEngine) (fast : Bool) (group : String × List RouteResource) :
    Except Thrown (String × RuleSelector) := do
  return (group.1, ← makeRuleSelector engine fast group.2)

def RouterHttp.makeRouter (engine : HttpEngine) (fast : Bool) (resources : List RouteResource) :
    Except Thrown (Hosts RuleSelector) := do
  let groups := hostGroups engine resources
  let fullnames ← groups.fullnames.mapM (makeHostSelector engine fast)
  let endings ← groups.endings.mapM (makeHostSelector engine fast)
  return ⟨fullnames, endings⟩

/-- `host.substring(0, host.lastIndexOf(':'))`, or the whole host without a colon. -/
def withoutPort (host : String) : String :=
  if ':' ∈ host.toList then
    String.ofList ((host.toList.rdropWhile fun c => c ≠ ':').dropLast)
  else host

def requestHost (engine : HttpEngine) (head : Head) : Option String :=
  ((head.header "host").filter fun host => host ≠ "").map fun host =>
    withoutPort (engine.lowerCase host)

def Hosts.find? {α : Type} (hosts : Hosts α) (host : String) : Option α :=
  ((hosts.fullnames.find? fun entry => entry.1 = host).or
    (hosts.endings.find? fun entry => entry.1.toList.isSuffixOf host.toList)).map Prod.snd

/-- The function that `makeRouter` returns, as far as it decides on the match. -/
def route (engine : HttpEngine) (router : Hosts RuleSelector) : RuleSelector := fun head vars =>
  match (requestHost engine head).bind router.find? with
  | some selector => selector head vars
  | none => (none, vars)

def servingGroup (engine : HttpEngine) (resources : List RouteResource) (head : Head) :
    Option (List RouteResource) :=
  (requestHost engine head).bind (hostGroups engine resources).find?

/-! Which selector serves a request. -/

theorem find?_mapM {groups : List (String × List RouteResource)}
    {selectors : List (String × RuleSelector)} {engine : HttpEngine} {fast : Bool}
    (made : groups.mapM (makeHostSelector engine fast) = .ok selectors) (wanted : String → Bool) :
    ((groups.find? fun entry => wanted entry.1) = none ∧
        (selectors.find? fun entry => wanted entry.1) = none) ∨
      ∃ group selector, (groups.find? fun entry => wanted entry.1) = some group ∧
        (selectors.find? fun entry => wanted entry.1) = some selector ∧
          makeRuleSelector engine fast group.2 = .ok selector.2 := by
  induction groups generalizing selectors with
  | nil =>
      cases made
      exact Or.inl ⟨rfl, rfl⟩
  | cons group rest ih =>
      obtain ⟨selector, first, later, ran, rfl⟩ := (mapM_cons_eq_ok _ _ _ _).mp made
      obtain ⟨chosen, compiled, same⟩ := (bind_eq_ok _ _ _).mp first
      cases same
      by_cases here : wanted group.1 = true
      · exact Or.inr ⟨group, (group.1, chosen), List.find?_cons_of_pos here,
          List.find?_cons_of_pos here, compiled⟩
      · have skipped : wanted group.1 = false := Bool.eq_false_iff.mpr here
        simp only [List.find?_cons, skipped]
        exact ih ran

theorem Hosts.find?_of_makeRouter {engine : HttpEngine} {fast : Bool}
    {resources : List RouteResource} {router : Hosts RuleSelector}
    (made : RouterHttp.makeRouter engine fast resources = .ok router) (host : String) :
    ((hostGroups engine resources).find? host = none ∧ router.find? host = none) ∨
      ∃ group selector, (hostGroups engine resources).find? host = some group ∧
        router.find? host = some selector ∧ makeRuleSelector engine fast group = .ok selector := by
  simp only [RouterHttp.makeRouter, bind_eq_ok] at made
  obtain ⟨fullnames, fullMade, endings, endingsMade, same⟩ := made
  cases same
  have full := find?_mapM fullMade fun name => name = host
  have ending := find?_mapM endingsMade fun name => name.toList.isSuffixOf host.toList
  unfold Hosts.find?
  rcases full with ⟨noGroup, noSelector⟩ | ⟨group, selector, atGroup, atSelector, compiled⟩
  · rw [noGroup, noSelector, Option.none_or, Option.none_or]
    rcases ending with ⟨noGroup, noSelector⟩ | ⟨group, selector, atGroup, atSelector, compiled⟩
    · exact Or.inl ⟨by rw [noGroup]; rfl, by rw [noSelector]; rfl⟩
    · exact Or.inr ⟨group.2, selector.2, by rw [atGroup]; rfl, by rw [atSelector]; rfl, compiled⟩
  · exact Or.inr ⟨group.2, selector.2, by rw [atGroup]; rfl, by rw [atSelector]; rfl, compiled⟩

theorem route_eq {engine : HttpEngine} {fast : Bool} {resources : List RouteResource}
    {router : Hosts RuleSelector} (made : RouterHttp.makeRouter engine fast resources = .ok router)
    (head : Head) (vars : RouteVars) :
    (servingGroup engine resources head = none ∧ route engine router head vars = (none, vars)) ∨
      ∃ group selector, servingGroup engine resources head = some group ∧
        makeRuleSelector engine fast group = .ok selector ∧
          route engine router head vars = selector head vars := by
  unfold servingGroup route
  cases requestHost engine head with
  | none => exact Or.inl ⟨rfl, rfl⟩
  | some host =>
      simp only [Option.bind_some]
      rcases Hosts.find?_of_makeRouter made host with
        ⟨noGroup, noSelector⟩ | ⟨group, selector, atGroup, atSelector, compiled⟩
      · exact Or.inl ⟨noGroup, by rw [noSelector]⟩
      · exact Or.inr ⟨group, selector, atGroup, compiled, by rw [atSelector]⟩

/-! What a search leaves in the variables. -/

/-- The prefix of a PathPrefix match, which trying the match puts into `$basePath`. -/
def prefixOf (m : RouteMatch) : Option String :=
  match m.path with
  | some ⟨some .pathPrefix, value⟩ => some (pathBase value)
  | _ => none

/-- Trying a match of the fast path, chosen or not. -/
def LeavesPrefix (compiled : CompiledMatch) : Prop :=
  ∀ head vars, (compiled.matchFunc head vars).2.basePath =
    (prefixOf compiled.entry.m).or vars.basePath

theorem makePathMatcher_basePath {engine : HttpEngine} {path : Option PathMatch}
    {m : RouteMatch} (place : m.path = path) {matcher : Option PathMatcher}
    (made : makePathMatcher engine true path = .ok matcher) (text : String) (vars : RouteVars) :
    (checkPath matcher text vars).2.basePath = (prefixOf m).or vars.basePath := by
  rcases path with _ | ⟨type, value⟩
  · cases made
    simp [checkPath, prefixOf, place]
  · rcases type with _ | type
    · cases made
      simp [checkPath, prefixOf, place]
    · cases type with
      | exact =>
          cases made
          simp [checkPath, prefixOf, place]
      | pathPrefix =>
          cases made
          simp [checkPath, prefixOf, place]
      | regularExpression =>
          simp only [makePathMatcher, Option.getD_some, bind_eq_ok] at made
          obtain ⟨re, _, rest⟩ := made
          cases rest
          simp [checkPath, prefixOf, place]
      | other name =>
          cases made
          simp [checkPath, prefixOf, place]

theorem compileHTTP_basePath {engine : HttpEngine} {entry : Entry} {compiled : CompiledMatch}
    (made : compileHTTP engine true entry = .ok compiled) : LeavesPrefix compiled := by
  simp only [compileHTTP, bind_eq_ok] at made
  obtain ⟨matchPath, pathMade, matchHeaders, _, matchParams, _, rest⟩ := made
  cases rest
  intro head vars
  have tried := makePathMatcher_basePath rfl pathMade head.path vars
  simp only [httpMatchFunc, makeMethodMatcher, Option.all_none, Bool.not_true, Bool.false_eq_true,
    if_true, if_false]
  rw [← tried]
  rcases checkPath matchPath head.path vars with ⟨_ | _, after⟩
  · rfl
  · dsimp only
    split
    · rfl
    · split <;> rfl

theorem findMatch_mem {head : Head} {list : List CompiledMatch} {vars : RouteVars}
    {found : CompiledMatch} (picked : (findMatch head list vars).1 = some found) :
    found ∈ list := by
  induction list generalizing vars with
  | nil => cases picked
  | cons one rest ih =>
      unfold findMatch at picked
      split at picked
      · cases picked
        exact List.mem_cons_self
      · exact List.mem_cons_of_mem _ (ih picked)

/-- A search that picks a match ends with its prefix, unless a match without one is picked
after one that has a prefix. -/
theorem findMatch_basePath {head : Head} {list : List CompiledMatch}
    (leaves : ∀ one ∈ list, LeavesPrefix one) (once : (list.map CompiledMatch.entry).Nodup)
    (vars : RouteVars) {found : CompiledMatch} (picked : (findMatch head list vars).1 = some found) :
    (findMatch head list vars).2.basePath = prefixOf found.entry.m ↔
      (prefixOf found.entry.m).isSome ∨ (vars.basePath = none ∧
        ∀ earlier, Precedes (list.map CompiledMatch.entry) earlier found.entry →
          prefixOf earlier.m = none) := by
  induction list generalizing vars with
  | nil => cases picked
  | cons one rest ih =>
      have tried := leaves one List.mem_cons_self head vars
      obtain ⟨apart, onceRest⟩ := List.nodup_cons.mp once
      unfold findMatch at picked ⊢
      split at picked
      · rename_i ran
        cases picked
        rw [ran] at tried
        have first : ∀ earlier, ¬ Precedes ((found :: rest).map CompiledMatch.entry) earlier
            found.entry := by
          rintro earlier (⟨_, member⟩ | later)
          · exact apart member
          · exact apart later.mem_right
        dsimp only
        rw [tried]
        cases prefixOf found.entry.m with
        | some base => simp
        | none =>
            rw [Option.none_or]
            exact ⟨fun unset => Or.inr ⟨unset, fun earlier before => (first earlier before).elim⟩,
              fun marked => (marked.resolve_left (by simp)).1⟩
      · rename_i after ran
        rw [ran] at tried
        have later := ih (fun other member => leaves other (List.mem_cons_of_mem _ member)) onceRest
          after picked
        have member := List.mem_map_of_mem (findMatch_mem picked) (f := CompiledMatch.entry)
        rw [later, tried, Option.or_eq_none_iff]
        refine or_congr_right ⟨?_, ?_⟩
        · rintro ⟨⟨unprefixed, unset⟩, all⟩
          refine ⟨unset, ?_⟩
          rintro earlier (⟨rfl, _⟩ | before)
          · exact unprefixed
          · exact all earlier before
        · rintro ⟨unset, all⟩
          exact ⟨⟨all one.entry (Or.inl ⟨rfl, member⟩), unset⟩, fun earlier before =>
            all earlier (Or.inr before)⟩

theorem compileMatches_basePath {engine : HttpEngine} {entries : List Entry}
    {compiled : List CompiledMatch}
    (made : compileMatches engine true "HTTPRoute" entries = .ok compiled) :
    ∀ one ∈ compiled, LeavesPrefix one := by
  intro one member
  obtain ⟨entry, _, ran⟩ := (mem_of_mapM_ok made one).mp member
  exact compileHTTP_basePath ran

theorem findMatch_vars {head : Head} {list : List CompiledMatch}
    (silent : ∀ one ∈ list, ∀ head vars, (one.matchFunc head vars).2 = vars) (vars : RouteVars) :
    (findMatch head list vars).2 = vars := by
  induction list generalizing vars with
  | nil => rfl
  | cons one rest ih =>
      have unchanged := silent one List.mem_cons_self head vars
      unfold findMatch
      split
      · rename_i ran
        rw [ran] at unchanged
        exact unchanged
      · rename_i after ran
        rw [ran] at unchanged
        have same : after = vars := unchanged
        rw [same]
        exact ih (fun other member => silent other (List.mem_cons_of_mem _ member)) vars

theorem compileGRPC_vars {engine : HttpEngine} {entry : Entry} {compiled : CompiledMatch}
    (made : compileGRPC engine entry = .ok compiled) (head : Head) (vars : RouteVars) :
    (compiled.matchFunc head vars).2 = vars := by
  simp only [compileGRPC, bind_eq_ok] at made
  obtain ⟨matchMethod, _, matchHeaders, _, rest⟩ := made
  cases rest
  simp only [grpcMatchFunc]
  split
  · rfl
  · split <;> rfl

/-! The context of a routed request. -/

/-- The variables describe a match: its resource, its rule, and its prefix if it has one. -/
structure Describes (entry : Entry) (vars : RouteVars) : Prop where
  matchedRoute : vars.matchedRoute = some entry.resource
  matchedRule : vars.matchedRule = some entry.rule
  basePath : vars.basePath = prefixOf entry.m

/-- The first match that a group reads and passes belongs to a group of HTTPRoutes, and has a
prefix itself or is read before every match that has one. -/
def ReadsCleanly (engine : HttpEngine) (group : List RouteResource) (head : Head) : Prop :=
  ∀ winner ∈ readList engine (groupKind group) (rankedMatches group) head,
    matchPasses engine true (groupKind group) winner.m head = true →
    (∀ earlier, Precedes (readList engine (groupKind group) (rankedMatches group) head) earlier
      winner → matchPasses engine true (groupKind group) earlier.m head = false) →
    groupKind group = "HTTPRoute" ∧ ((prefixOf winner.m).isSome ∨
      ∀ earlier, Precedes (readList engine (groupKind group) (rankedMatches group) head) earlier
        winner → prefixOf earlier.m = none)

/-- In a group of HTTPRoutes the route and the rule are recorded, and the prefix is that of
the last match tried that has one. -/
theorem describes_http_iff {engine : HttpEngine} {entries : List Entry}
    {compiled : List CompiledMatch}
    (compiles : compileMatches engine true "HTTPRoute" entries = .ok compiled)
    (once : entries.Nodup) (head : Head) (winner : Entry)
    (picked : (fastSelector engine (makeBuckets engine compiled) head noVars).1 = some winner) :
    Describes winner (fastSelector engine (makeBuckets engine compiled) head noVars).2 ↔
      (prefixOf winner.m).isSome ∨
        ∀ earlier, Precedes (consulted engine entries head) earlier winner →
          prefixOf earlier.m = none := by
  obtain ⟨list, same, inside, ran⟩ := fastSelector_eq_consulted compiles head noVars
  have matched := (selects_fast compiles head noVars).matched trivial winner
    ((selects_fast compiles head noVars).selected.symm.trans picked)
  have onceRead : (list.map CompiledMatch.entry).Nodup := same ▸ consulted_nodup once
  have leaves := fun one member => compileMatches_basePath compiles one (inside one member)
  have based : (fastSelector engine (makeBuckets engine compiled) head noVars).2.basePath =
      prefixOf winner.m ↔ (prefixOf winner.m).isSome ∨ (noVars.basePath = none ∧
        ∀ earlier, Precedes (consulted engine entries head) earlier winner →
          prefixOf earlier.m = none) := by
    rw [ran] at picked ⊢
    unfold plainSelector at picked ⊢
    rcases searched : findMatch head list noVars with ⟨_ | found, after⟩
    · rw [searched] at picked
      cases picked
    · rw [searched] at picked
      cases picked
      have chosen : (findMatch head list noVars).1 = some found := by rw [searched]
      have traced := findMatch_basePath leaves onceRead noVars chosen
      rw [searched, same] at traced
      exact traced
  have unset : noVars.basePath = none := rfl
  simp only [unset, true_and] at based
  rw [← based]
  exact ⟨fun described => described.basePath, fun base => ⟨matched.1, matched.2, base⟩⟩

theorem not_describes_of_other {engine : HttpEngine} {kind : String} {entries : List Entry}
    {compiled : List CompiledMatch} (compiles : compileMatches engine true kind entries = .ok compiled)
    (other : kind ≠ "HTTPRoute") (head : Head) (winner : Entry) :
    ¬ Describes winner (plainSelector compiled head noVars).2 := by
  intro described
  have silent : ∀ one ∈ compiled, ∀ head vars, (one.matchFunc head vars).2 = vars := by
    intro one member
    unfold compileMatches at compiles
    split at compiles
    · exact (other rfl).elim
    · obtain ⟨entry, _, ran⟩ := (mem_of_mapM_ok compiles one).mp member
      exact compileGRPC_vars ran
    · cases compiles
  have untouched : (findMatch head compiled noVars).2 = noVars := findMatch_vars silent noVars
  have kept : (plainSelector compiled head noVars).2 = noVars := by
    unfold plainSelector
    split <;> (rename_i ran; rw [ran] at untouched; exact untouched)
  have recorded := described.matchedRoute
  rw [kept] at recorded
  cases recorded

theorem describes_iff {engine : HttpEngine} {group : List RouteResource} {selector : RuleSelector}
    (made : makeRuleSelector engine true group = .ok selector) (head : Head) (winner : Entry)
    (picked : (selector head noVars).1 = some winner) :
    Describes winner (selector head noVars).2 ↔
      groupKind group = "HTTPRoute" ∧ ((prefixOf winner.m).isSome ∨
        ∀ earlier, Precedes (readList engine (groupKind group) (rankedMatches group) head) earlier
          winner → prefixOf earlier.m = none) := by
  obtain ⟨_, _, compiled, compiles, rfl⟩ := (makeRuleSelector_eq_ok _ _ _ _).mp made
  by_cases http : groupKind group = "HTTPRoute"
  · simp only [http, Bool.true_and, decide_true, if_true, true_and, readList] at compiles picked ⊢
    exact describes_http_iff compiles (rankedMatches_nodup group) head winner picked
  · simp only [http, Bool.true_and, decide_false, Bool.false_eq_true, if_false, false_and,
      iff_false]
    exact not_describes_of_other compiles http head winner

/-- After routing, the variables describe the selected match exactly where the group that
serves the request reads cleanly. -/
theorem routed_context_iff (engine : HttpEngine) (resources : List RouteResource)
    (router : Hosts RuleSelector) (made : RouterHttp.makeRouter engine true resources = .ok router)
    (head : Head) :
    (∀ entry, (route engine router head noVars).1 = some entry →
        Describes entry (route engine router head noVars).2) ↔
      ∀ group, servingGroup engine resources head = some group → ReadsCleanly engine group head := by
  rcases route_eq made head noVars with ⟨noGroup, ran⟩ | ⟨group, selector, served, compiled, ran⟩
  · simp [noGroup, ran]
  · rw [ran, served]
    have once : (readList engine (groupKind group) (rankedMatches group) head).Nodup :=
      readList_nodup (rankedMatches_nodup group)
    have first (entry : Entry) := find?_eq_some_iff_precedes once
      (fun entry => matchPasses engine true (groupKind group) entry.m head) entry
    simp only [Option.some.injEq, forall_eq']
    have selected := selected_eq_find? compiled head noVars
    constructor
    · intro described winner member passes best
      have picked : (selector head noVars).1 = some winner :=
        selected.trans ((first winner).mpr ⟨member, passes, best⟩)
      exact (describes_iff compiled head winner picked).mp (described winner picked)
    · intro clean winner picked
      obtain ⟨member, passes, best⟩ := (first winner).mp (selected.symm.trans picked)
      exact (describes_iff compiled head winner picked).mpr (clean winner member passes best)

/-! A prefix with a header, next to a match without a path. -/

def backedRule (m : RouteMatch) : Rule :=
  ⟨some [m], .obj [("backendRefs", .arr [.obj [("name", .str "b")]])]⟩

def backedRoute (matchList : List RouteMatch) : RouteResource :=
  ⟨"HTTPRoute", none, matchList.map backedRule⟩

def hostHead (path : String) : Head := ⟨"GET", path, [("host", "h")]⟩

def madeRouter (result : Except Thrown (Hosts RuleSelector)) : Hosts RuleSelector :=
  match result with
  | .ok router => router
  | .error _ => ⟨[], []⟩

theorem madeRouter_eq {result : Except Thrown (Hosts RuleSelector)} (made : result.isOk = true) :
    result = .ok (madeRouter result) := by
  cases result with
  | ok router => rfl
  | error thrown => cases made

/-- Without the header the prefix is rejected, but `$basePath` keeps it. -/
theorem rejectedPrefix_stays :
    ¬ ∀ (resources : List RouteResource) (router : Hosts RuleSelector) (head : Head),
      (∀ resource ∈ resources, resource.kind = "HTTPRoute" ∨ resource.kind = "GRPCRoute") →
      RouterHttp.makeRouter documentedEngine true resources = .ok router →
      ∀ entry, (route documentedEngine router head noVars).1 = some entry →
        Describes entry (route documentedEngine router head noVars).2 := by
  intro claimed
  let routes := [backedRoute [prefixWithHeader, .any]]
  let router := madeRouter (RouterHttp.makeRouter documentedEngine true routes)
  have described := claimed routes router (hostHead "/a/b") (by simp [routes, backedRoute])
    (madeRouter_eq (by decide +kernel))
  have plain : ((route documentedEngine router (hostHead "/a/b") noVars).1.any
      fun entry => (prefixOf entry.m).isNone) = true := by decide +kernel
  have left : (route documentedEngine router (hostHead "/a/b") noVars).2.basePath = some "/a" := by
    decide +kernel
  obtain ⟨entry, picked, unprefixed⟩ := (Option.any_eq_true _ _).mp plain
  rw [(described entry picked).basePath] at left
  simp [left] at unprefixed

/-- A prefix match that the request does not pass is tried before one that it passes. -/
def twoPrefixes : List RouteResource :=
  [backedRoute [prefixOnly, prefixWithHeader, exactWithHeader]]

theorem twoPrefixes_readCleanly :
    ReadsCleanly documentedEngine twoPrefixes (hostHead "/a/b") := by
  have prefixes : ∀ entry ∈ readList documentedEngine (groupKind twoPrefixes)
      (rankedMatches twoPrefixes) (hostHead "/a/b"), (prefixOf entry.m).isSome = true := by
    decide +kernel
  exact fun winner member _ _ => ⟨rfl, .inl (prefixes winner member)⟩

theorem prefixRouter_context :
    let routed := route documentedEngine
      (madeRouter (RouterHttp.makeRouter documentedEngine true twoPrefixes)) (hostHead "/a/b") noVars
    routed.1.map Entry.m = some prefixOnly ∧
      ∀ entry, routed.1 = some entry → Describes entry routed.2 := by
  refine ⟨by decide +kernel, (routed_context_iff documentedEngine twoPrefixes _
    (madeRouter_eq (by decide +kernel)) (hostHead "/a/b")).mpr fun group serving => ?_⟩
  have both : servingGroup documentedEngine twoPrefixes (hostHead "/a/b") = some twoPrefixes := rfl
  obtain rfl := Option.some.inj (both.symm.trans serving)
  exact twoPrefixes_readCleanly

end Fgw
