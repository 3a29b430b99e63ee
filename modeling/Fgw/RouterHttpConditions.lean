import Fgw.RouterHttpAgreement

/-!
The conditions that routes declare, against what the running selector goes by.  A group is
matched by the rules of its first resource's kind, and a match declares conditions by the
kind of its own resource.
-/

namespace Fgw

/-! Declared conditions. -/

/-- The path without its query, and a prefix, in segments. -/
def segmentsOf (path : List Char) : List (List Char) := path.splitOn '/'

def declaredPath (engine : HttpEngine) (path : Option PathMatch) (text : String) : Bool :=
  match path with
  | none => true
  | some ⟨type, value⟩ =>
      match type.getD .exact with
      | .exact => withoutQuery text = value.toList
      | .pathPrefix =>
          let folder :=
            if value.toList.getLast? = some '/' then value.toList.dropLast else value.toList
          (segmentsOf folder).isPrefixOf (segmentsOf (withoutQuery text))
      | .regularExpression => regexTest engine value text
      | .other _ => false

/-- A condition on a header or a parameter, given its text in the request. -/
def declaredItem (engine : HttpEngine) (item : ObjectMatch) (text : String) : Bool :=
  match item.type.getD .exact with
  | .exact => item.value = text
  | .regularExpression => regexTest engine item.value text
  | .other _ => false

/-- Header names are compared without regard to case. -/
def declaredHeaders (engine : HttpEngine) (m : RouteMatch) (head : Head) : Bool :=
  m.headers.all fun item => declaredItem engine item (fieldText head.header (engine.lowerCase item.name))

def declaredParams (engine : HttpEngine) (m : RouteMatch) (head : Head) : Bool :=
  m.queryParams.all fun item =>
    declaredItem engine item (fieldText (engine.searchParam head.path) item.name)

def declaredHTTP (engine : HttpEngine) (m : RouteMatch) (head : Head) : Bool :=
  methodPasses false m.method head.method && declaredPath engine m.path head.path &&
    declaredHeaders engine m head && declaredParams engine m head

/-- The path names the service and the method. -/
def declaredGRPC (engine : HttpEngine) (m : RouteMatch) (head : Head) : Bool :=
  grpcMethodPasses engine m.method head.path && declaredHeaders engine m head

/-- The conditions of a match under the kind of its own resource. -/
def declaredByKind (engine : HttpEngine) (kind : String) (m : RouteMatch) (head : Head) : Bool :=
  if kind = "GRPCRoute" then declaredGRPC engine m head else declaredHTTP engine m head

section Selection

variable (engine : HttpEngine) (kind : String) (entries : List Entry) (head : Head)

/-- The matches that the selector of a group goes through for a request. -/
def readList : List Entry :=
  if kind = "HTTPRoute" then consulted engine entries head else entries

/-- Without buckets every match is read. -/
def Reads (entry : Entry) : Prop :=
  kind = "HTTPRoute" → Consults engine entries head entry

def ReadsEarlier (first second : Entry) : Prop :=
  if kind = "HTTPRoute" then ReadBefore engine entries first second
  else Precedes entries first second

/-- Where a group selects by the wanted conditions: nothing unwanted that passes is read
before a wanted match that passes, and where a match is wanted some match is read and
passes. -/
structure SelectsWanted (wanted : Entry → Prop) : Prop where
  led : ∀ entry ∈ entries, Reads engine kind entries head entry →
    matchPasses engine true kind entry.m head = true → ¬ wanted entry →
      ∃ better ∈ entries, Reads engine kind entries head better ∧
        matchPasses engine true kind better.m head = true ∧ wanted better ∧
        ReadsEarlier engine kind entries better entry
  answered : (∃ entry ∈ entries, wanted entry) →
    ∃ reader ∈ entries, Reads engine kind entries head reader ∧
      matchPasses engine true kind reader.m head = true

variable {engine kind entries head}

theorem mem_readList (entry : Entry) :
    entry ∈ readList engine kind entries head ↔
      entry ∈ entries ∧ Reads engine kind entries head entry := by
  unfold readList Reads
  by_cases http : kind = "HTTPRoute"
  · simp [http, mem_consulted]
  · simp [http]

theorem readList_nodup (once : entries.Nodup) : (readList engine kind entries head).Nodup := by
  unfold readList
  split
  · exact consulted_nodup once
  · exact once

theorem precedes_readList (first second : Entry) :
    Precedes (readList engine kind entries head) first second ↔
      (first ∈ entries ∧ Reads engine kind entries head first) ∧
        (second ∈ entries ∧ Reads engine kind entries head second) ∧
          ReadsEarlier engine kind entries first second := by
  unfold readList Reads ReadsEarlier
  by_cases http : kind = "HTTPRoute"
  · simp [http, precedes_consulted]
  · simp only [http, if_false, false_imp_iff, and_true]
    exact ⟨fun before => ⟨before.mem_left, before.mem_right, before⟩, fun parts => parts.2.2⟩

theorem selectsWanted_iff_find? (once : entries.Nodup) (wanted : Entry → Prop) :
    (((readList engine kind entries head).find? fun entry =>
          matchPasses engine true kind entry.m head) ≠ none ↔ ∃ entry ∈ entries, wanted entry) ∧
        (∀ entry, ((readList engine kind entries head).find? fun entry =>
          matchPasses engine true kind entry.m head) = some entry → wanted entry) ↔
      SelectsWanted engine kind entries head wanted := by
  rw [find?_wanted_iff (readList_nodup once)
    (fun entry member => ((mem_readList entry).mp member).1)]
  constructor
  · rintro ⟨led, answered⟩
    refine ⟨fun entry member reads passes unwanted => ?_, fun some => ?_⟩
    · obtain ⟨better, before, betterPasses, betterWanted⟩ :=
        led entry ((mem_readList entry).mpr ⟨member, reads⟩) passes unwanted
      obtain ⟨⟨betterMember, betterReads⟩, _, order⟩ := (precedes_readList better entry).mp before
      exact ⟨better, betterMember, betterReads, betterPasses, betterWanted, order⟩
    · obtain ⟨reader, inside, passes⟩ := answered some
      obtain ⟨member, reads⟩ := (mem_readList reader).mp inside
      exact ⟨reader, member, reads, passes⟩
  · rintro ⟨led, answered⟩
    refine ⟨fun entry inside passes unwanted => ?_, fun some => ?_⟩
    · obtain ⟨member, reads⟩ := (mem_readList entry).mp inside
      obtain ⟨better, betterMember, betterReads, betterPasses, betterWanted, order⟩ :=
        led entry member reads passes unwanted
      exact ⟨better, (precedes_readList better entry).mpr
        ⟨⟨betterMember, betterReads⟩, ⟨member, reads⟩, order⟩, betterPasses, betterWanted⟩
    · obtain ⟨reader, member, reads, passes⟩ := answered some
      exact ⟨reader, (mem_readList reader).mpr ⟨member, reads⟩, passes⟩

end Selection

theorem selected_eq_find? {engine : HttpEngine} {resources : List RouteResource}
    {selector : RuleSelector} (made : makeRuleSelector engine true resources = .ok selector)
    (head : Head) (vars : RouteVars) :
    (selector head vars).1 =
      (readList engine (groupKind resources) (rankedMatches resources) head).find? fun entry =>
        matchPasses engine true (groupKind resources) entry.m head := by
  obtain ⟨_, _, compiled, compiles, rfl⟩ := (makeRuleSelector_eq_ok _ _ _ _).mp made
  by_cases http : groupKind resources = "HTTPRoute"
  · rw [http] at compiles ⊢
    simpa [readList, matchPasses] using (selects_fast compiles head vars).selected
  · obtain ⟨same, sound⟩ := compileMatches_sound compiles
    have selected := (selects_plain sound head vars).selected
    simpa [readList, http, same] using selected

theorem exists_mem_zipIdx {α : Type} (items : List α) (wanted : α → Prop) :
    (∃ item ∈ items.zipIdx, wanted item.1) ↔ ∃ item ∈ items, wanted item := by
  constructor
  · rintro ⟨item, member, holds⟩
    exact ⟨item.1, List.fst_mem_of_mem_zipIdx member, holds⟩
  · rintro ⟨item, member, holds⟩
    rw [← List.zipIdx_map_fst 0 items, List.mem_map] at member
    obtain ⟨placed, inside, rfl⟩ := member
    exact ⟨placed, inside, holds⟩

theorem exists_rankedMatch_iff (resources : List RouteResource)
    (wanted : RouteResource → RouteMatch → Prop) :
    (∃ entry ∈ rankedMatches resources, wanted entry.resource entry.m) ↔
      ∃ resource ∈ resources, ∃ rule ∈ resource.rules, ∃ m ∈ rule.ruleMatches.getD [.any],
        wanted resource m := by
  have entries : (∃ entry ∈ listMatches (groupRules resources), wanted entry.resource entry.m) ↔
      ∃ rule ∈ groupRules resources, ∃ m ∈ rule.1.ruleMatches.getD [.any], wanted rule.2.2 m := by
    have placed := exists_mem_zipIdx ((groupRules resources).flatMap fun rule =>
      (rule.1.ruleMatches.getD [.any]).map fun m => (m, rule))
        fun item => wanted item.2.2.2 item.1
    simp only [listMatches, List.mem_map, exists_exists_and_eq_and]
    rw [placed]
    simp only [List.mem_flatMap, List.mem_map]
    constructor
    · rintro ⟨_, ⟨rule, present, m, member, rfl⟩, holds⟩
      exact ⟨rule, present, m, member, holds⟩
    · rintro ⟨rule, present, m, member, holds⟩
      exact ⟨(m, rule), ⟨rule, present, m, member, rfl⟩, holds⟩
  have rules : (∃ rule ∈ groupRules resources, ∃ m ∈ rule.1.ruleMatches.getD [.any],
        wanted rule.2.2 m) ↔
      ∃ source ∈ listRules resources, ∃ m ∈ source.1.ruleMatches.getD [.any],
        wanted source.2 m := by
    have placed := exists_mem_zipIdx (listRules resources) fun source =>
      ∃ m ∈ source.1.ruleMatches.getD [.any], wanted source.2 m
    simp only [groupRules, List.mem_map, exists_exists_and_eq_and]
    exact placed
  simp only [(rankedMatches_perm resources).mem_iff]
  rw [entries, rules]
  simp only [listRules, List.mem_flatMap, List.mem_map]
  constructor
  · rintro ⟨_, ⟨resource, present, rule, member, rfl⟩, m, inside, holds⟩
    exact ⟨resource, present, rule, member, m, inside, holds⟩
  · rintro ⟨resource, present, rule, member, m, inside, holds⟩
    exact ⟨(rule, resource), ⟨resource, present, rule, member, rfl⟩, m, inside, holds⟩

/-- What a request is answered by the conditions declared: a match is selected exactly where
one has all its declared conditions satisfied, and then one that has. -/
theorem declared_selection_iff (engine : HttpEngine) (resources : List RouteResource)
    (http : ∀ resource ∈ resources, resource.kind = "HTTPRoute") (selector : RuleSelector)
    (made : makeRuleSelector engine true resources = .ok selector) (head : Head)
    (vars : RouteVars) :
    (((selector head vars).1 ≠ none ↔
        ∃ resource ∈ resources, ∃ rule ∈ resource.rules, ∃ m ∈ rule.ruleMatches.getD [.any],
          declaredHTTP engine m head = true) ∧
      ∀ entry, (selector head vars).1 = some entry → declaredHTTP engine entry.m head = true) ↔
      SelectsWanted engine "HTTPRoute" (rankedMatches resources) head fun entry =>
        declaredHTTP engine entry.m head = true := by
  have present := ((makeRuleSelector_eq_ok _ _ _ _).mp made).1
  have kind := groupKind_http present http
  rw [selected_eq_find? made, kind, ← selectsWanted_iff_find? (rankedMatches_nodup resources),
    exists_rankedMatch_iff resources fun _ m => declaredHTTP engine m head = true]

/-- A path without a type is not checked at all. -/
def untypedPath : RouteMatch := ⟨some ⟨none, "/a"⟩, none, [], []⟩

theorem untypedPath_accepts_other :
    ¬ ∀ (resources : List RouteResource) (selector : RuleSelector) (head : Head) (vars : RouteVars),
      (∀ resource ∈ resources, resource.kind = "HTTPRoute") →
      makeRuleSelector documentedEngine true resources = .ok selector →
      ((selector head vars).1 ≠ none ↔
        ∃ resource ∈ resources, ∃ rule ∈ resource.rules, ∃ m ∈ rule.ruleMatches.getD [.any],
          declaredHTTP documentedEngine m head = true) ∧
      ∀ entry, (selector head vars).1 = some entry →
        declaredHTTP documentedEngine entry.m head = true := by
  intro claimed
  let routes := [httpRoute [untypedPath]]
  have sound := (claimed routes (madeSelector (makeRuleSelector documentedEngine true routes))
    (getHead "/b") noVars (by simp [routes, httpRoute]) (madeSelector_eq (by decide +kernel))).2
  have selected : (((madeSelector (makeRuleSelector documentedEngine true routes)
      (getHead "/b") noVars).1).all fun entry =>
        declaredHTTP documentedEngine entry.m (getHead "/b")) = false := by decide +kernel
  rw [Option.all_eq_false] at selected
  obtain ⟨entry, picked, refused⟩ := selected
  simp [sound entry picked] at refused

theorem prefixRoutes_wanted :
    SelectsWanted documentedEngine "HTTPRoute" (rankedMatches prefixRoutes) (headerHead "/a/b")
      fun entry => declaredHTTP documentedEngine entry.m (headerHead "/a/b") = true := by
  let winner : Entry := ⟨prefixWithHeader, ⟨2, ruleOf prefixWithHeader, false⟩,
    httpRoute [prefixOnly, exactWithHeader, prefixWithHeader], ruleOf prefixWithHeader, 2,
    getMatchPriority prefixWithHeader 2⟩
  have picked : ((readList documentedEngine "HTTPRoute" (rankedMatches prefixRoutes)
      (headerHead "/a/b")).find? fun entry =>
        matchPasses documentedEngine true "HTTPRoute" entry.m (headerHead "/a/b")) =
          some winner := rfl
  have declared : declaredHTTP documentedEngine winner.m (headerHead "/a/b") = true := by
    decide +kernel
  have inside : winner ∈ rankedMatches prefixRoutes :=
    ((mem_readList winner).mp (List.mem_of_find?_eq_some picked)).1
  refine (selectsWanted_iff_find? (rankedMatches_nodup prefixRoutes) _).mp ⟨?_, ?_⟩
  · rw [picked]
    exact iff_of_true (Option.some_ne_none winner) ⟨winner, inside, declared⟩
  · rw [picked]
    rintro entry ⟨⟩
    exact declared

theorem prefixRoutes_declared :
    ((madeSelector (makeRuleSelector documentedEngine true prefixRoutes)
          (headerHead "/a/b") noVars).1 ≠ none ↔
        ∃ resource ∈ prefixRoutes, ∃ rule ∈ resource.rules, ∃ m ∈ rule.ruleMatches.getD [.any],
          declaredHTTP documentedEngine m (headerHead "/a/b") = true) ∧
      ∀ entry, (madeSelector (makeRuleSelector documentedEngine true prefixRoutes)
        (headerHead "/a/b") noVars).1 = some entry →
          declaredHTTP documentedEngine entry.m (headerHead "/a/b") = true :=
  (declared_selection_iff documentedEngine prefixRoutes (by simp [prefixRoutes, httpRoute]) _
    (madeSelector_eq (by decide +kernel)) _ _).mpr prefixRoutes_wanted

/-- Selection by the kind of each match's own resource, in a group of both kinds. -/
theorem ownKind_selection_iff (engine : HttpEngine) (resources : List RouteResource)
    (selector : RuleSelector) (made : makeRuleSelector engine true resources = .ok selector)
    (head : Head) (vars : RouteVars) :
    ((∀ entry, (selector head vars).1 = some entry →
        declaredByKind engine entry.resource.kind entry.m head = true) ∧
      ((∃ resource ∈ resources, ∃ rule ∈ resource.rules, ∃ m ∈ rule.ruleMatches.getD [.any],
        declaredByKind engine resource.kind m head = true) → (selector head vars).1 ≠ none)) ↔
      SelectsWanted engine (groupKind resources) (rankedMatches resources) head fun entry =>
        declaredByKind engine entry.resource.kind entry.m head = true := by
  rw [← selectsWanted_iff_find? (rankedMatches_nodup resources), ← selected_eq_find? made head vars,
    ← exists_rankedMatch_iff resources fun resource m =>
      declaredByKind engine resource.kind m head = true]
  constructor
  · rintro ⟨sound, complete⟩
    refine ⟨⟨fun selected => ?_, complete⟩, sound⟩
    obtain ⟨entry, picked⟩ := Option.ne_none_iff_exists'.mp selected
    have member : entry ∈ rankedMatches resources := by
      rw [selected_eq_find? made] at picked
      exact ((mem_readList entry).mp (List.mem_of_find?_eq_some picked)).1
    exact ⟨entry, member, sound entry picked⟩
  · rintro ⟨answered, sound⟩
    exact ⟨sound, answered.mpr⟩

/-! A GRPCRoute that names a method, behind an HTTPRoute of the same hostname. -/

def grpcRoute (matchList : List RouteMatch) : RouteResource :=
  ⟨"GRPCRoute", none, matchList.map ruleOf⟩

def serviceCall : RouteMatch := ⟨none, some (.call none (some "svc") (some "m")), [], []⟩

theorem grpcMethod_not_found :
    ¬ ∀ (resources : List RouteResource) (selector : RuleSelector) (head : Head) (vars : RouteVars),
      (∀ resource ∈ resources, resource.kind = "HTTPRoute" ∨ resource.kind = "GRPCRoute") →
      makeRuleSelector documentedEngine true resources = .ok selector →
      (∀ entry, (selector head vars).1 = some entry →
        declaredByKind documentedEngine entry.resource.kind entry.m head = true) ∧
      ((∃ resource ∈ resources, ∃ rule ∈ resource.rules, ∃ m ∈ rule.ruleMatches.getD [.any],
        declaredByKind documentedEngine resource.kind m head = true) →
          (selector head vars).1 ≠ none) := by
  intro claimed
  let routes := [httpRoute [prefixOnly], grpcRoute [serviceCall]]
  have complete := (claimed routes (madeSelector (makeRuleSelector documentedEngine true routes))
    (getHead "/svc/m") noVars (by simp [routes, httpRoute, grpcRoute])
    (madeSelector_eq (by decide +kernel))).2
  have missed : ((madeSelector (makeRuleSelector documentedEngine true routes)
      (getHead "/svc/m") noVars).1).isSome = false := by decide +kernel
  have declared : declaredByKind documentedEngine "GRPCRoute" serviceCall (getHead "/svc/m") = true := by
    decide +kernel
  have answered := complete ⟨grpcRoute [serviceCall], by simp [routes], ruleOf serviceCall,
    by simp [grpcRoute], serviceCall, by simp [ruleOf], declared⟩
  exact answered (Option.not_isSome_iff_eq_none.mp (by simp [missed]))

theorem mixedGroup_ownKind :
    ((∀ entry, (madeSelector (makeRuleSelector documentedEngine true
          [grpcRoute [serviceCall], httpRoute [prefixOnly]]) (getHead "/svc/m") noVars).1 =
            some entry →
        declaredByKind documentedEngine entry.resource.kind entry.m (getHead "/svc/m") = true) ∧
      ((∃ resource ∈ [grpcRoute [serviceCall], httpRoute [prefixOnly]], ∃ rule ∈ resource.rules,
        ∃ m ∈ rule.ruleMatches.getD [.any],
          declaredByKind documentedEngine resource.kind m (getHead "/svc/m") = true) →
        (madeSelector (makeRuleSelector documentedEngine true
          [grpcRoute [serviceCall], httpRoute [prefixOnly]]) (getHead "/svc/m") noVars).1 ≠ none)) ↔
      SelectsWanted documentedEngine "GRPCRoute"
        (rankedMatches [grpcRoute [serviceCall], httpRoute [prefixOnly]]) (getHead "/svc/m")
        fun entry =>
          declaredByKind documentedEngine entry.resource.kind entry.m (getHead "/svc/m") = true :=
  ownKind_selection_iff documentedEngine [grpcRoute [serviceCall], httpRoute [prefixOnly]] _
    (madeSelector_eq (by decide +kernel)) _ _

end Fgw
