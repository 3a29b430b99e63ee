import Fgw.RouterHttpSelector

/-!
When fast routing agrees with plain routing.  The fast path goes through at most three lists
of the ranked matches; the condition compares what it reads there with the match that the
plain path picks.
-/

namespace Fgw

theorem rankedMatches_perm (resources : List RouteResource) :
    (rankedMatches resources).Perm (listMatches (groupRules resources)) :=
  List.perm_insertionSort _ _

theorem listMatches_nodup (rules : List (Rule × BackendSelector × RouteResource)) :
    (listMatches rules).Nodup := by
  apply List.Nodup.of_map Entry.index
  rw [listMatches, List.map_map]
  exact (List.zipIdx_map_snd 0 _).symm ▸ List.nodup_range'

theorem rankedMatches_nodup (resources : List RouteResource) : (rankedMatches resources).Nodup :=
  (rankedMatches_perm resources).nodup_iff.mpr (listMatches_nodup _)

theorem mem_groupRules_of_mem {resources : List RouteResource} {entry : Entry}
    (member : entry ∈ rankedMatches resources) :
    (entry.rule, entry.backendSelector, entry.resource) ∈ groupRules resources := by
  have listed := (rankedMatches_perm resources).mem_iff.mp member
  simp only [listMatches, List.mem_map] at listed
  obtain ⟨⟨⟨m, rule⟩, index⟩, placed, rfl⟩ := listed
  have inside := List.fst_mem_of_mem_zipIdx placed
  simp only [List.mem_flatMap, List.mem_map] at inside
  obtain ⟨source, present, _, _, same⟩ := inside
  cases same
  exact present

theorem source_of_backendSelector {resources : List RouteResource} {first second : Entry}
    (firstMember : first ∈ rankedMatches resources) (secondMember : second ∈ rankedMatches resources)
    (same : first.backendSelector = second.backendSelector) :
    first.resource = second.resource ∧ first.rule = second.rule := by
  have firstRule := mem_groupRules_of_mem firstMember
  have secondRule := mem_groupRules_of_mem secondMember
  simp only [groupRules, List.mem_map] at firstRule secondRule
  obtain ⟨⟨firstSource, firstRef⟩, firstPlaced, firstSame⟩ := firstRule
  obtain ⟨⟨secondSource, secondRef⟩, secondPlaced, secondSame⟩ := secondRule
  simp only [Prod.mk.injEq] at firstSame secondSame
  rw [← firstSame.2.1, ← secondSame.2.1, BackendSelector.mk.injEq] at same
  rw [List.mk_mem_zipIdx_iff_getElem?] at firstPlaced secondPlaced
  have sources : firstSource = secondSource := by
    rw [same.1, secondPlaced] at firstPlaced
    exact (Option.some.inj firstPlaced).symm
  rw [← firstSame.1, ← firstSame.2.2, ← secondSame.1, ← secondSame.2.2, sources]
  exact ⟨rfl, rfl⟩

section Order

variable (engine : HttpEngine) (entries : List Entry) (head : Head)

/-- All conditions of the match as the plain path checks them. -/
def Accepts (entry : Entry) : Prop := httpPasses engine false entry.m head = true

/-- The conditions that fast mode still checks. -/
def Passes (entry : Entry) : Prop := httpPasses engine true entry.m head = true

/-- The match stands in a list that the request is looked up in: under the path pattern that
`URLRouter` picks, under the request's method, or among the rest. -/
def Consults (entry : Entry) : Prop :=
  inPathList engine entries head entry.m = true ∨
    placedByMethod engine head.method entry.m = true ∨ placedLast engine entry.m = true

/-- Path lists are read before method lists, and these before the rest. -/
def listRank (m : RouteMatch) : Nat :=
  if (pathKey engine m).isSome then 0 else if m.methodKey.isSome then 1 else 2

def ReadBefore (first second : Entry) : Prop :=
  listRank engine first.m < listRank engine second.m ∨
    (listRank engine first.m = listRank engine second.m ∧ Precedes entries first second)

variable {engine entries head}

theorem listRank_of_inPathList {m : RouteMatch}
    (placed : inPathList engine entries head m = true) : listRank engine m = 0 := by
  unfold inPathList at placed
  cases found : engine.findPattern (registeredPatterns engine entries) head.path with
  | none => simp [found] at placed
  | some path =>
      simp only [found, Option.any_some, placedUnder, Bool.and_eq_true, decide_eq_true_eq] at placed
      simp [listRank, placed.1]

theorem listRank_of_placedByMethod {m : RouteMatch}
    (placed : placedByMethod engine head.method m = true) : listRank engine m = 1 := by
  simp only [placedByMethod, Bool.and_eq_true, decide_eq_true_eq] at placed
  simp [listRank, placed.1, placed.2]

theorem listRank_of_placedLast {m : RouteMatch} (placed : placedLast engine m = true) :
    listRank engine m = 2 := by
  simp only [placedLast, Bool.and_eq_true, decide_eq_true_eq] at placed
  simp [listRank, placed.1, placed.2]

theorem mem_consulted (entry : Entry) :
    entry ∈ consulted engine entries head ↔ entry ∈ entries ∧ Consults engine entries head entry := by
  simp only [consulted, List.mem_append, List.mem_filter, Consults]
  tauto

theorem consulted_nodup (once : entries.Nodup) : (consulted engine entries head).Nodup := by
  unfold consulted
  refine List.nodup_append.mpr ⟨List.nodup_append.mpr ⟨once.filter _, once.filter _, ?_⟩,
    once.filter _, ?_⟩
  · intro first firstMember second secondMember same
    subst second
    have firstRank := listRank_of_inPathList (List.mem_filter.mp firstMember).2
    have secondRank := listRank_of_placedByMethod (List.mem_filter.mp secondMember).2
    omega
  · intro first firstMember second secondMember same
    subst second
    have secondRank := listRank_of_placedLast (List.mem_filter.mp secondMember).2
    rcases List.mem_append.mp firstMember with inPath | byMethod
    · have firstRank := listRank_of_inPathList (List.mem_filter.mp inPath).2
      omega
    · have firstRank := listRank_of_placedByMethod (List.mem_filter.mp byMethod).2
      omega

theorem precedes_consulted (first second : Entry) :
    Precedes (consulted engine entries head) first second ↔
      (first ∈ entries ∧ Consults engine entries head first) ∧
        (second ∈ entries ∧ Consults engine entries head second) ∧
          ReadBefore engine entries first second := by
  have sameList {rank : Nat} (firstRank : listRank engine first.m = rank)
      (secondRank : listRank engine second.m = rank) (before : Precedes entries first second) :
      ReadBefore engine entries first second :=
    Or.inr ⟨firstRank.trans secondRank.symm, before⟩
  have ordered {rank : Nat} (order : ReadBefore engine entries first second)
      (firstRank : listRank engine first.m = rank) (secondRank : listRank engine second.m = rank) :
      Precedes entries first second := by
    rcases order with lower | ⟨_, before⟩
    · omega
    · exact before
  have notAfter (order : ReadBefore engine entries first second) :
      listRank engine first.m ≤ listRank engine second.m := by
    rcases order with lower | ⟨same, _⟩
    · omega
    · omega
  simp only [consulted, precedes_append, precedes_filter, List.mem_append, List.mem_filter]
  constructor
  · rintro ((⟨here, there, before⟩ | ⟨⟨member, here⟩, later, there⟩ | ⟨here, there, before⟩) |
      ⟨⟨member, here⟩ | ⟨member, here⟩, later, there⟩ | ⟨here, there, before⟩)
    · exact ⟨⟨before.mem_left, Or.inl here⟩, ⟨before.mem_right, Or.inl there⟩,
        sameList (listRank_of_inPathList here) (listRank_of_inPathList there) before⟩
    · refine ⟨⟨member, Or.inl here⟩, ⟨later, Or.inr (Or.inl there)⟩, Or.inl ?_⟩
      rw [listRank_of_inPathList here, listRank_of_placedByMethod there]
      omega
    · exact ⟨⟨before.mem_left, Or.inr (Or.inl here)⟩, ⟨before.mem_right, Or.inr (Or.inl there)⟩,
        sameList (listRank_of_placedByMethod here) (listRank_of_placedByMethod there) before⟩
    · refine ⟨⟨member, Or.inl here⟩, ⟨later, Or.inr (Or.inr there)⟩, Or.inl ?_⟩
      rw [listRank_of_inPathList here, listRank_of_placedLast there]
      omega
    · refine ⟨⟨member, Or.inr (Or.inl here)⟩, ⟨later, Or.inr (Or.inr there)⟩, Or.inl ?_⟩
      rw [listRank_of_placedByMethod here, listRank_of_placedLast there]
      omega
    · exact ⟨⟨before.mem_left, Or.inr (Or.inr here)⟩, ⟨before.mem_right, Or.inr (Or.inr there)⟩,
        sameList (listRank_of_placedLast here) (listRank_of_placedLast there) before⟩
  · rintro ⟨⟨member, here⟩, ⟨later, there⟩, order⟩
    have notLower := notAfter order
    rcases here with here | here | here
    · have firstRank := listRank_of_inPathList here
      rcases there with there | there | there
      · exact Or.inl (Or.inl ⟨here, there, ordered order firstRank (listRank_of_inPathList there)⟩)
      · exact Or.inl (Or.inr (Or.inl ⟨⟨member, here⟩, later, there⟩))
      · exact Or.inr (Or.inl ⟨Or.inl ⟨member, here⟩, later, there⟩)
    · have firstRank := listRank_of_placedByMethod here
      rcases there with there | there | there
      · have secondRank := listRank_of_inPathList there
        omega
      · exact Or.inl (Or.inr (Or.inr
          ⟨here, there, ordered order firstRank (listRank_of_placedByMethod there)⟩))
      · exact Or.inr (Or.inl ⟨Or.inr ⟨member, here⟩, later, there⟩)
    · have firstRank := listRank_of_placedLast here
      rcases there with there | there | there
      · have secondRank := listRank_of_inPathList there
        omega
      · have secondRank := listRank_of_placedByMethod there
        omega
      · exact Or.inr (Or.inr ⟨here, there, ordered order firstRank (listRank_of_placedLast there)⟩)

variable (engine entries head)

/-- Where the fast path agrees with the plain one.  What the plain path picks is `served` if
a match of its rule is consulted, and nothing of another rule that is read before passes;
where nothing accepts the request it is `refused` if no consulted match passes either. -/
structure FastAgrees : Prop where
  served : ∀ winner ∈ entries, Accepts engine head winner →
    (∀ better, Precedes entries better winner → ¬ Accepts engine head better) →
    ∃ reader ∈ entries, Consults engine entries head reader ∧ Passes engine head reader ∧
      reader.backendSelector = winner.backendSelector ∧
      ∀ earlier ∈ entries, Consults engine entries head earlier → Passes engine head earlier →
        ReadBefore engine entries earlier reader →
          earlier.backendSelector = winner.backendSelector
  refused : (∀ entry ∈ entries, ¬ Accepts engine head entry) →
    ∀ entry ∈ entries, Consults engine entries head entry → ¬ Passes engine head entry

variable {engine entries head}

theorem fastAgrees_iff_find? (once : entries.Nodup) :
    ((consulted engine entries head).find? fun entry => httpPasses engine true entry.m head).map
        Entry.backendSelector =
      (entries.find? fun entry => httpPasses engine false entry.m head).map Entry.backendSelector ↔
      FastAgrees engine entries head := by
  rw [find?_labels_eq_iff (consulted_nodup once) once]
  constructor
  · rintro ⟨served, refused⟩
    refine ⟨fun winner member accepted best => ?_, fun none entry member consults passes => ?_⟩
    · obtain ⟨reader, inside, passes, same, uniform⟩ := served winner member accepted
        fun better before => by simpa [Accepts] using best better before
      obtain ⟨readerMember, consults⟩ := (mem_consulted reader).mp inside
      refine ⟨reader, readerMember, consults, passes, same, ?_⟩
      intro earlier earlierMember earlierConsults earlierPasses before
      exact uniform earlier ((precedes_consulted earlier reader).mpr
        ⟨⟨earlierMember, earlierConsults⟩, ⟨readerMember, consults⟩, before⟩) earlierPasses
    · have silent := refused (fun item inside => by simpa [Accepts] using none item inside) entry
        ((mem_consulted entry).mpr ⟨member, consults⟩)
      simp [Passes, silent] at passes
  · rintro ⟨served, refused⟩
    refine ⟨fun winner member accepted best => ?_, fun none entry inside => ?_⟩
    · obtain ⟨reader, readerMember, consults, passes, same, uniform⟩ := served winner member accepted
        fun better before => by simp [Accepts, best better before]
      refine ⟨reader, (mem_consulted reader).mpr ⟨readerMember, consults⟩, passes, same, ?_⟩
      intro earlier before earlierPasses
      obtain ⟨⟨earlierMember, earlierConsults⟩, _, order⟩ :=
        (precedes_consulted earlier reader).mp before
      exact uniform earlier earlierMember earlierConsults earlierPasses order
    · obtain ⟨member, consults⟩ := (mem_consulted entry).mp inside
      have silent := refused (fun item inside => by simp [Accepts, none item inside]) entry member
        consults
      simpa [Passes] using silent

end Order

/-- The same backend selector with the same matched route and rule, or no match at all. -/
def SameSelection (left right : Option Entry × RouteVars) : Prop :=
  left.1.map Entry.backendSelector = right.1.map Entry.backendSelector ∧ (left.1 ≠ none →
    left.2.matchedRoute = right.2.matchedRoute ∧ left.2.matchedRule = right.2.matchedRule)

theorem groupKind_http {resources : List RouteResource} (present : resources ≠ [])
    (http : ∀ resource ∈ resources, resource.kind = "HTTPRoute") :
    groupKind resources = "HTTPRoute" := by
  cases resources with
  | nil => exact (present rfl).elim
  | cons first rest => exact http first List.mem_cons_self

theorem sameSelection_iff {resources : List RouteResource} {left right : Option Entry}
    (leftMember : ∀ entry, left = some entry → entry ∈ rankedMatches resources)
    (rightMember : ∀ entry, right = some entry → entry ∈ rankedMatches resources)
    {leftResult rightResult : Option Entry × RouteVars}
    (leftSelects : Selects left True leftResult) (rightSelects : Selects right True rightResult) :
    SameSelection leftResult rightResult ↔
      left.map Entry.backendSelector = right.map Entry.backendSelector := by
  unfold SameSelection
  rw [leftSelects.selected, rightSelects.selected]
  constructor
  · exact fun same => same.1
  · intro same
    refine ⟨same, fun selected => ?_⟩
    cases picked : left with
    | none => simp [picked] at selected
    | some entry =>
        cases other : right with
        | none => simp [picked, other] at same
        | some twin =>
            rw [picked, other, Option.map_some, Option.map_some, Option.some.injEq] at same
            obtain ⟨route, rule⟩ := source_of_backendSelector (leftMember entry picked)
              (rightMember twin other) same
            obtain ⟨leftRoute, leftRule⟩ := leftSelects.matched trivial entry picked
            obtain ⟨rightRoute, rightRule⟩ := rightSelects.matched trivial twin other
            rw [leftRoute, leftRule, rightRoute, rightRule, route, rule]
            exact ⟨rfl, rfl⟩

/-- Wherever the selector of a hostname can be made, it can be made without fast matching,
which picks the first ranked match that accepts; and the two agree as `FastAgrees` says. -/
theorem fastRouting_agrees_iff (engine : HttpEngine) (resources : List RouteResource)
    (http : ∀ resource ∈ resources, resource.kind = "HTTPRoute") (fast : RuleSelector)
    (made : makeRuleSelector engine true resources = .ok fast) :
    ∃ plain, makeRuleSelector engine false resources = .ok plain ∧ ∀ head vars,
      (plain head vars).1 = ((rankedMatches resources).find? fun entry =>
        httpPasses engine false entry.m head) ∧
      (SameSelection (fast head vars) (plain head vars) ↔
        FastAgrees engine (rankedMatches resources) head) := by
  obtain ⟨present, sound, compiled, compiles, same⟩ := (makeRuleSelector_eq_ok _ _ _ _).mp made
  have kind := groupKind_http present http
  obtain ⟨plainCompiled, plainCompiles⟩ := (compileMatches_modes _ _ _).mp ⟨compiled, compiles⟩
  refine ⟨plainSelector plainCompiled,
    (makeRuleSelector_eq_ok _ _ _ _).mpr ⟨present, sound, plainCompiled, plainCompiles, rfl⟩, ?_⟩
  intro head vars
  rw [kind] at compiles plainCompiles
  simp only [kind, Bool.true_and, decide_true, if_true] at same
  subst same
  obtain ⟨entriesSame, plainSound⟩ := compileMatches_sound plainCompiles
  have plainSelects := selects_plain plainSound head vars
  rw [entriesSame] at plainSelects
  have fastSelects := selects_fast compiles head vars
  refine ⟨plainSelects.selected, ?_⟩
  rw [← fastAgrees_iff_find? (rankedMatches_nodup resources)]
  exact sameSelection_iff
    (fun entry picked => ((mem_consulted entry).mp (List.mem_of_find?_eq_some picked)).1)
    (fun entry picked => List.mem_of_find?_eq_some picked) fastSelects
    ⟨plainSelects.selected, fun _ => plainSelects.matched rfl⟩

/-! An exact path with a header next to the prefix of the same path. -/

def ruleOf (m : RouteMatch) : Rule := ⟨some [m], .undefined⟩

def exactWithHeader : RouteMatch :=
  ⟨some ⟨some .exact, "/a"⟩, none, [⟨none, "x", "1"⟩], []⟩

def prefixOnly : RouteMatch := ⟨some ⟨some .pathPrefix, "/a"⟩, none, [], []⟩

def prefixWithHeader : RouteMatch :=
  ⟨some ⟨some .pathPrefix, "/a"⟩, none, [⟨none, "x", "1"⟩], []⟩

def httpRoute (matchList : List RouteMatch) : RouteResource :=
  ⟨"HTTPRoute", none, matchList.map ruleOf⟩

def getHead (path : String) : Head := ⟨"GET", path, []⟩

def headerHead (path : String) : Head := ⟨"GET", path, [("x", "1")]⟩

def noVars : RouteVars := ⟨none, none, none⟩

def madeSelector (result : Except Thrown RuleSelector) : RuleSelector :=
  match result with
  | .ok selector => selector
  | .error _ => fun _ vars => (none, vars)

theorem madeSelector_eq {result : Except Thrown RuleSelector} (made : result.isOk = true) :
    result = .ok (madeSelector result) := by
  cases result with
  | ok selector => rfl
  | error thrown => cases made

/-- Without the header, the fast path finds the exact pattern and stops there. -/
theorem overlappingPaths_disagree :
    ¬ ∀ (resources : List RouteResource) (fast plain : RuleSelector) (head : Head)
      (vars : RouteVars), (∀ resource ∈ resources, resource.kind = "HTTPRoute") →
        makeRuleSelector documentedEngine true resources = .ok fast →
        makeRuleSelector documentedEngine false resources = .ok plain →
        SameSelection (fast head vars) (plain head vars) := by
  intro claimed
  let routes := [httpRoute [exactWithHeader, prefixOnly]]
  have same := (claimed routes (madeSelector (makeRuleSelector documentedEngine true routes))
    (madeSelector (makeRuleSelector documentedEngine false routes)) (getHead "/a") noVars
    (by simp [routes, httpRoute]) (madeSelector_eq (by decide +kernel))
    (madeSelector_eq (by decide +kernel))).1
  have fastMisses : ((madeSelector (makeRuleSelector documentedEngine true routes)
      (getHead "/a") noVars).1).isSome = false := by decide +kernel
  have plainFinds : ((madeSelector (makeRuleSelector documentedEngine false routes)
      (getHead "/a") noVars).1).isSome = true := by decide +kernel
  rw [← Option.isSome_map, same, Option.isSome_map, plainFinds] at fastMisses
  cases fastMisses

/-- Prefixes under one pattern, beside an exact path. -/
def prefixRoutes : List RouteResource :=
  [httpRoute [prefixOnly, exactWithHeader, prefixWithHeader], httpRoute [prefixOnly]]

theorem prefixRoutes_agree :
    ∃ plain, makeRuleSelector documentedEngine false prefixRoutes = .ok plain ∧
      (plain (headerHead "/a/b") noVars).1.map Entry.m = some prefixWithHeader ∧
      SameSelection (madeSelector (makeRuleSelector documentedEngine true prefixRoutes)
        (headerHead "/a/b") noVars) (plain (headerHead "/a/b") noVars) := by
  obtain ⟨plain, made, selects⟩ := fastRouting_agrees_iff documentedEngine prefixRoutes
    (by simp [prefixRoutes, httpRoute]) _ (madeSelector_eq (by decide +kernel))
  obtain ⟨picked, agrees⟩ := selects (headerHead "/a/b") noVars
  refine ⟨plain, made, ?_, agrees.mpr ?_⟩
  · rw [picked]
    decide +kernel
  · exact (fastAgrees_iff_find? (rankedMatches_nodup prefixRoutes)).mp rfl

end Fgw
