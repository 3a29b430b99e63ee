import Fgw.RouterHosts
import Fgw.RouterTies

/-!
Whether it matters in which order the routes of a listener are listed.  The order is that of the
files where a directory is read, and that of the changes where it is watched.  Of the matches that
a request gets past, those that none of another specificity outranks are the best, and the last of
them in the list is taken.
-/

namespace Fgw

/-- What an entry of the search stands for, wherever it is listed. -/
structure Choice where
  m : RouteMatch
  rule : Rule
  resource : RouteResource

def Entry.choice (entry : Entry) : Choice := ⟨entry.m, entry.rule, entry.resource⟩

def choicesOf (resource : RouteResource) : List Choice :=
  resource.rules.flatMap fun rule =>
    (rule.ruleMatches.getD [.any]).map fun m => ⟨m, rule, resource⟩

def choices (group : List RouteResource) : List Choice := group.flatMap choicesOf

/-- Patterns are found whatever the order in which they are registered. -/
def FindsUnordered (engine : HttpEngine) : Prop :=
  ∀ patterns others path, (∀ pattern, pattern ∈ patterns ↔ pattern ∈ others) →
    engine.findPattern patterns path = engine.findPattern others path

section Group

variable (engine : HttpEngine) (group : List RouteResource) (head : Head)

/-- The search may come to the match, and does not pass it over. -/
def ReachesMatch (m : RouteMatch) : Prop :=
  matchPasses engine true (groupKind group) m head = true ∧
    (groupKind group = "HTTPRoute" →
      inPathList engine (rankedMatches group) head m = true ∨
        placedByMethod engine head.method m = true ∨ placedLast engine m = true)

/-- The first is searched before the second, which is of another specificity. -/
def Ahead (first second : RouteMatch) : Prop :=
  searchRank engine group first < searchRank engine group second ∨
    searchRank engine group first = searchRank engine group second ∧
      getMatchPriority second 0 < getMatchPriority first 0

structure Best (choice : Choice) : Prop where
  listed : choice ∈ choices group
  reached : ReachesMatch engine group head choice.m
  first : ∀ other ∈ choices group, ReachesMatch engine group head other.m →
    other.m.specificity ≠ choice.m.specificity → Ahead engine group choice.m other.m

variable {engine group head}

theorem choices_listedMatches (group : List RouteResource) :
    (listedMatches group).map Entry.choice = choices group := by
  have rules : choices group = (listRules group).flatMap fun rule =>
      (rule.1.ruleMatches.getD [.any]).map fun m => ⟨m, rule.1, rule.2⟩ := by
    rw [choices, listRules, List.flatMap_assoc]
    refine List.flatMap_congr fun resource _ => ?_
    rw [List.flatMap_map]
    rfl
  have sources : (groupRules group).map (fun rule => (rule.1, rule.2.2)) = listRules group := by
    rw [groupRules, List.map_map]
    exact List.zipIdx_map_fst 0 (listRules group)
  calc (listedMatches group).map Entry.choice
      = (((groupRules group).flatMap fun rule =>
          (rule.1.ruleMatches.getD [.any]).map fun m => (m, rule)).zipIdx.map Prod.fst).map
            fun one => ⟨one.1, one.2.1, one.2.2.2⟩ := by
        rw [listedMatches, listMatches, List.map_map, List.map_map]
        rfl
    _ = ((groupRules group).map fun rule => (rule.1, rule.2.2)).flatMap fun rule =>
          (rule.1.ruleMatches.getD [.any]).map fun m => ⟨m, rule.1, rule.2⟩ := by
        rw [List.zipIdx_map_fst, List.map_flatMap, List.flatMap_map]
        refine List.flatMap_congr fun rule _ => ?_
        rw [List.map_map]
        rfl
    _ = choices group := by rw [sources, rules]

theorem reaches_iff {entry : Entry} : Reaches engine group head entry ↔
    entry ∈ listedMatches group ∧ ReachesMatch engine group head entry.m := by
  unfold Reaches ReachesMatch searchedMatches
  split
  · rename_i http
    rw [mem_consulted, mem_rankedMatches, Consults]
    simp only [http, true_implies]
    tauto
  · rename_i other
    rw [mem_rankedMatches]
    simp only [other, false_implies, and_true]

theorem priority_lt_anywhere {first second : RouteMatch}
    (different : first.specificity ≠ second.specificity) (index other : Nat) :
    getMatchPriority second other < getMatchPriority first index ↔
      getMatchPriority second 0 < getMatchPriority first 0 := by
  rcases lt_or_gt_of_ne different with below | above
  · by_cases leads : second.Leads first
    · exact iff_of_false (not_lt_of_gt ((priority_lt_iff below other index).1 leads))
        (not_lt_of_gt ((priority_lt_iff below 0 0).1 leads))
    · exact iff_of_true ((priority_lt_iff below other index).2 leads)
        ((priority_lt_iff below 0 0).2 leads)
  · by_cases leads : first.Leads second
    · exact iff_of_true ((priority_lt_iff above index other).1 leads)
        ((priority_lt_iff above 0 0).1 leads)
    · exact iff_of_false (not_lt_of_gt ((priority_lt_iff above index other).2 leads))
        (not_lt_of_gt ((priority_lt_iff above 0 0).2 leads))

theorem outranks_iff_ahead {first second : Entry} (inside : first ∈ listedMatches group)
    (other : second ∈ listedMatches group)
    (different : first.m.specificity ≠ second.m.specificity) :
    Outranks engine group first second ↔ Ahead engine group first.m second.m := by
  rw [Outranks, Ahead, priority_listMatches inside, priority_listMatches other,
    priority_lt_anywhere different]

theorem Ahead.asymm {first second : RouteMatch} (before : Ahead engine group first second) :
    ¬ Ahead engine group second first := by
  intro after
  rcases before with lower | ⟨level, larger⟩
  · rcases after with higher | ⟨level, _⟩
    · exact Nat.lt_asymm lower higher
    · omega
  · rcases after with higher | ⟨_, smaller⟩
    · omega
    · exact lt_asymm larger smaller

theorem Best.specificity_eq {choice other : Choice} (best : Best engine group head choice)
    (twin : Best engine group head other) : choice.m.specificity = other.m.specificity := by
  by_contra different
  exact (best.first other twin.listed twin.reached (Ne.symm different)).asymm
    (twin.first choice best.listed best.reached different)

theorem choice_mem {entry : Entry} (listed : entry ∈ listedMatches group) :
    entry.choice ∈ choices group := by
  rw [← choices_listedMatches]
  exact List.mem_map_of_mem listed

/-- The entry that is found outranks whatever else the request gets past. -/
theorem outranks_of_selected {entry : Entry}
    (selected : (searchedMatches engine group head).find?
      (fun entry => matchPasses engine true (groupKind group) entry.m head) = some entry) :
    Reaches engine group head entry ∧ ∀ other, Reaches engine group head other →
      other = entry ∨ Outranks engine group entry other := by
  obtain ⟨member, passes, earliest⟩ :=
    (find?_eq_some_iff_precedes searchedMatches_nodup _ _).mp selected
  refine ⟨⟨member, passes⟩, fun other reached => ?_⟩
  by_cases same : other = entry
  · exact Or.inl same
  · right
    rcases precedes_or_precedes member reached.1 (Ne.symm same) with before | after
    · exact outranks_of_precedes before
    · have refused := earliest other after
      rw [reached.2] at refused
      exact absurd refused.symm Bool.false_ne_true

theorem best_of_selected {entry : Entry}
    (selected : (searchedMatches engine group head).find?
      (fun entry => matchPasses engine true (groupKind group) entry.m head) = some entry) :
    entry ∈ listedMatches group ∧ Best engine group head entry.choice := by
  obtain ⟨reached, outranks⟩ := outranks_of_selected selected
  obtain ⟨listed, passes⟩ := reaches_iff.mp reached
  refine ⟨listed, choice_mem listed, passes, fun other member otherReached different => ?_⟩
  rw [← choices_listedMatches] at member
  obtain ⟨twin, twinListed, rfl⟩ := List.mem_map.mp member
  rcases outranks twin (reaches_iff.mpr ⟨twinListed, otherReached⟩) with rfl | ahead
  · exact absurd rfl different
  · exact (outranks_iff_ahead listed twinListed (Ne.symm different)).mp ahead

theorem index_le_of_selected {entry other : Entry} (few : (choices group).length ≤ 1000000)
    (selected : (searchedMatches engine group head).find?
      (fun entry => matchPasses engine true (groupKind group) entry.m head) = some entry)
    (listed : other ∈ listedMatches group) (best : Best engine group head other.choice) :
    other.index ≤ entry.index := by
  by_contra later
  obtain ⟨inside, selectedBest⟩ := best_of_selected selected
  have fits : other.index < 1000000 := by
    have range : other.index ∈ (listedMatches group).map Entry.index := List.mem_map_of_mem listed
    rw [listedMatches, index_listMatches, List.mem_range, ← listedMatches] at range
    rw [← choices_listedMatches, List.length_map] at few
    omega
  rcases (outranks_of_selected selected).2 other (reaches_iff.mpr ⟨listed, best.reached⟩) with
    rfl | ahead
  · exact later le_rfl
  · exact ahead.asymm (later_outranks inside listed (selectedBest.specificity_eq best)
      (not_le.mp later) fits)

theorem index_lt_of_listed (group : List RouteResource) :
    (listedMatches group).Pairwise fun first second => first.index < second.index := by
  have ascending : ((listedMatches group).map Entry.index).Pairwise (· < ·) := by
    rw [listedMatches, index_listMatches]
    exact List.pairwise_lt_range
  exact List.pairwise_map.mp ascending

open scoped Classical in
/-- A request goes to the last of its best matches. -/
theorem selected_eq_last {selector : RuleSelector}
    (made : makeRuleSelector engine true group = .ok selector)
    (few : (choices group).length ≤ 1000000) (vars : RouteVars) :
    (selector head vars).1.map Entry.choice =
      ((choices group).filter fun choice => Best engine group head choice).getLast? := by
  rw [selector_eq_find? made vars, ← choices_listedMatches, List.filter_map, List.getLast?_map]
  congr 1
  let kept := (listedMatches group).filter fun entry => Best engine group head entry.choice
  have inKept (entry : Entry) : entry ∈ kept ↔
      entry ∈ listedMatches group ∧ Best engine group head entry.choice := by
    rw [List.mem_filter, decide_eq_true_eq]
  change _ = kept.getLast?
  cases selected : (searchedMatches engine group head).find? fun entry =>
      matchPasses engine true (groupKind group) entry.m head with
  | none =>
      have empty : kept = [] := by
        refine List.eq_nil_iff_forall_not_mem.mpr fun entry member => ?_
        obtain ⟨listed, best⟩ := (inKept entry).mp member
        obtain ⟨searched, passes⟩ := reaches_iff.mpr ⟨listed, best.reached⟩
        exact List.find?_eq_none.mp selected entry searched passes
      rw [empty]
      rfl
  | some entry =>
      have member := (inKept entry).mpr (best_of_selected selected)
      obtain ⟨last, ended⟩ : ∃ last, kept.getLast? = some last :=
        Option.ne_none_iff_exists'.mp fun none =>
          List.ne_nil_of_mem member (List.getLast?_eq_none_iff.mp none)
      obtain ⟨front, split⟩ := List.getLast?_eq_some_iff.mp ended
      have final := (inKept last).mp (split ▸ List.mem_append_right _ List.mem_cons_self)
      have below := index_le_of_selected few selected final.1 final.2
      have ordered : kept.Pairwise fun first second => first.index < second.index :=
        (index_lt_of_listed group).filter _
      rw [split, List.pairwise_append] at ordered
      rw [split, List.mem_append, List.mem_singleton] at member
      rw [ended]
      rcases member with earlier | same
      · have above := ordered.2.2 entry earlier last List.mem_cons_self
        omega
      · rw [same]

end Group

/-! Routes that are listed in another order. -/

section Reordered

variable {engine : HttpEngine} {group other : List RouteResource} {head : Head}

theorem groupKind_perm {kind : String} (alike : ∀ route ∈ group, route.kind = kind)
    (perm : group.Perm other) : groupKind group = groupKind other := by
  cases group with
  | nil => rw [perm.nil_eq]
  | cons first rest =>
      cases other with
      | nil => exact absurd perm.eq_nil (List.cons_ne_nil _ _)
      | cons twin others =>
          have kinded := alike twin (perm.mem_iff.mpr List.mem_cons_self)
          exact (alike first List.mem_cons_self).trans kinded.symm

theorem choices_perm (perm : group.Perm other) : (choices group).Perm (choices other) :=
  perm.flatMap_right choicesOf

theorem matches_perm (perm : group.Perm other) :
    ((rankedMatches group).map Entry.m).Perm ((rankedMatches other).map Entry.m) := by
  have own (group : List RouteResource) :
      ((rankedMatches group).map Entry.m).Perm ((choices group).map Choice.m) := by
    rw [← choices_listedMatches, List.map_map]
    exact (rankedMatches_perm group).map Entry.m
  exact (own group).trans (((choices_perm perm).map Choice.m).trans (own other).symm)

theorem mem_registeredPatterns {entries : List Entry} {pattern : String} :
    pattern ∈ registeredPatterns engine entries ↔
      ∃ m ∈ entries.map Entry.m, pathKey engine m = some pattern := by
  have added (more patterns : List String) : pattern ∈ more.foldl addPattern patterns ↔
      pattern ∈ patterns ∨ pattern ∈ more := by
    induction more generalizing patterns with
    | nil => simp
    | cons first rest ih =>
        rw [List.foldl_cons, ih, addPattern, List.mem_cons, ← or_assoc]
        split
        · rename_i known
          exact or_congr_left ⟨Or.inl, fun either => either.elim id fun same => same ▸ known⟩
        · rw [List.mem_append, List.mem_singleton]
  rw [registeredPatterns, added]
  simp [List.mem_filterMap]

theorem any_matches_perm (perm : group.Perm other) (test : RouteMatch → Bool) :
    (rankedMatches group).any (fun entry => test entry.m) =
      (rankedMatches other).any fun entry => test entry.m := by
  have own (group : List RouteResource) : (rankedMatches group).any (fun entry => test entry.m) =
      ((rankedMatches group).map Entry.m).any test := List.any_map.symm
  rw [own, own, (matches_perm perm).any_eq]

theorem reachesMatch_perm (unordered : FindsUnordered engine) (perm : group.Perm other)
    (kind : groupKind group = groupKind other) (m : RouteMatch) :
    ReachesMatch engine group head m ↔ ReachesMatch engine other head m := by
  have patterns := unordered (registeredPatterns engine (rankedMatches group))
    (registeredPatterns engine (rankedMatches other)) head.path fun pattern => by
      simp only [mem_registeredPatterns, (matches_perm perm).mem_iff]
  have found : inPathList engine (rankedMatches group) head m =
      inPathList engine (rankedMatches other) head m := by
    unfold inPathList bucketMethod
    simp only [patterns, any_matches_perm perm]
  rw [ReachesMatch, ReachesMatch, kind, found]

theorem best_perm (unordered : FindsUnordered engine) (perm : group.Perm other)
    (kind : groupKind group = groupKind other) (choice : Choice) :
    Best engine group head choice ↔ Best engine other head choice := by
  have transfer {left right : List RouteResource} (perm : left.Perm right)
      (kind : groupKind left = groupKind right) (best : Best engine left head choice) :
      Best engine right head choice := by
    refine ⟨(choices_perm perm).subset best.listed,
      (reachesMatch_perm unordered perm kind _).mp best.reached,
      fun other listed reached apart => ?_⟩
    have ahead := best.first other ((choices_perm perm).symm.subset listed)
      ((reachesMatch_perm unordered perm kind _).mpr reached) apart
    rwa [Ahead, searchRank, searchRank, kind] at ahead
  exact ⟨transfer perm kind, transfer perm.symm kind.symm⟩

/-- Where every item gives one block or nothing, the end of the whole is the end of the block. -/
theorem getLast?_flatMap_same {α β : Type} {f : α → List β} {items : List α} {block : List β}
    (nonempty : block ≠ []) (each : ∀ item ∈ items, f item = [] ∨ f item = block)
    (somewhere : ∃ item ∈ items, f item = block) :
    (items.flatMap f).getLast? = block.getLast? := by
  induction items using List.reverseRecOn with
  | nil =>
      obtain ⟨_, member, _⟩ := somewhere
      exact absurd member List.not_mem_nil
  | append_singleton front last ih =>
      rw [List.flatMap_append, List.flatMap_singleton, List.getLast?_append]
      rcases each last (List.mem_append_right _ List.mem_cons_self) with empty | same
      · rw [empty, List.getLast?_nil, Option.none_or]
        refine ih (fun item member => each item (List.mem_append_left _ member)) ?_
        obtain ⟨item, member, same⟩ := somewhere
        rcases List.mem_append.mp member with early | late
        · exact ⟨item, early, same⟩
        · rw [List.mem_singleton.mp late, empty] at same
          exact absurd same.symm nonempty
      · rw [same]
        cases ended : block.getLast? with
        | none => exact absurd (List.getLast?_eq_none_iff.mp ended) nonempty
        | some final => rfl

theorem resource_of_choicesOf {route : RouteResource} {choice : Choice}
    (member : choice ∈ choicesOf route) : choice.resource = route := by
  obtain ⟨rule, _, inside⟩ := List.mem_flatMap.mp member
  obtain ⟨m, _, rfl⟩ := List.mem_map.mp inside
  rfl

theorem mem_choices {choice : Choice} :
    choice ∈ choices group ↔ choice.resource ∈ group ∧ choice ∈ choicesOf choice.resource := by
  rw [choices, List.mem_flatMap]
  constructor
  · rintro ⟨route, member, inside⟩
    obtain rfl := resource_of_choicesOf inside
    exact ⟨member, inside⟩
  · rintro ⟨member, inside⟩
    exact ⟨choice.resource, member, inside⟩

open scoped Classical in
/-- Where all best matches are of one route, that route alone decides. -/
theorem last_of_oneRoute {best : Choice → Prop} {choice : Choice} (listed : choice ∈ choices group)
    (good : best choice) (one : ∀ other, best other → other.resource = choice.resource) :
    ((choices group).filter best).getLast? =
      ((choicesOf choice.resource).filter best).getLast? := by
  obtain ⟨member, inside⟩ := mem_choices.mp listed
  rw [choices, List.filter_flatMap]
  refine getLast?_flatMap_same (List.ne_nil_of_mem (List.mem_filter.mpr ⟨inside, by simpa⟩))
    (fun route _ => ?_) ⟨choice.resource, member, rfl⟩
  by_cases own : route = choice.resource
  · exact Or.inr (by rw [own])
  · refine Or.inl (List.filter_eq_nil_iff.mpr fun other belongs isBest => own ?_)
    rw [← resource_of_choicesOf belongs]
    exact one other (of_decide_eq_true isBest)

/-- The best matches are all of one route. -/
def BestOfOne (engine : HttpEngine) (group : List RouteResource) (head : Head) : Prop :=
  ∀ choice other, Best engine group head choice → Best engine group head other →
    choice.resource = other.resource

theorem selected_perm {selector twin : RuleSelector} (unordered : FindsUnordered engine)
    (perm : group.Perm other) (kind : groupKind group = groupKind other)
    (made : makeRuleSelector engine true group = .ok selector)
    (otherMade : makeRuleSelector engine true other = .ok twin)
    (few : (choices group).length ≤ 1000000) (one : BestOfOne engine group head)
    (vars : RouteVars) :
    (twin head vars).1.map Entry.choice = (selector head vars).1.map Entry.choice := by
  classical
  have same := @best_perm engine group other head unordered perm kind
  rw [selected_eq_last made few, selected_eq_last otherMade ((choices_perm perm).length_eq ▸ few)]
  simp only [← same]
  by_cases found : ∃ choice, Best engine group head choice
  · obtain ⟨choice, best⟩ := found
    have single (other : Choice) (good : Best engine group head other) :
        other.resource = choice.resource := one other choice good best
    rw [last_of_oneRoute best.listed best single,
      last_of_oneRoute ((same choice).mp best).listed best single]
  · have none (list : List Choice) :
        (list.filter fun choice => Best engine group head choice) = [] :=
      List.filter_eq_nil_iff.mpr fun choice _ isBest => found ⟨choice, of_decide_eq_true isBest⟩
    rw [none, none]

/-- A route with a best match is taken where it is listed last. -/
theorem selected_of_lastRoute {selector : RuleSelector} {front back : List RouteResource}
    (made : makeRuleSelector engine true (front ++ back) = .ok selector)
    (few : (choices (front ++ back)).length ≤ 1000000) {choice : Choice}
    (best : Best engine (front ++ back) head choice) (last : choice.resource ∈ back)
    (only : ∀ route ∈ back, route = choice.resource) (vars : RouteVars) :
    (selector head vars).1.map Entry.resource = some choice.resource := by
  classical
  let kept := (choices back).filter fun choice => Best engine (front ++ back) head choice
  have inKept : choice ∈ kept :=
    List.mem_filter.mpr ⟨mem_choices.mpr ⟨last, (mem_choices.mp best.listed).2⟩, by simpa⟩
  obtain ⟨final, ended⟩ : ∃ final, kept.getLast? = some final :=
    Option.ne_none_iff_exists'.mp fun none =>
      List.ne_nil_of_mem inKept (List.getLast?_eq_none_iff.mp none)
  have selected : (selector head vars).1.map Entry.choice = some final := by
    rw [selected_eq_last made few, choices, List.flatMap_append, List.filter_append,
      List.getLast?_append]
    exact (congrArg (Option.or · _) ended).trans rfl
  have belongs := (List.mem_filter.mp (List.mem_of_getLast? ended)).1
  calc (selector head vars).1.map Entry.resource
      = ((selector head vars).1.map Entry.choice).map Choice.resource := by
        rw [Option.map_map]
        rfl
    _ = some choice.resource := by
        rw [selected, Option.map_some, only _ (mem_choices.mp belongs).1]

theorem makeRuleSelector_perm (perm : group.Perm other) (kind : groupKind group = groupKind other)
    (made : ∃ selector, makeRuleSelector engine true group = .ok selector) :
    ∃ selector, makeRuleSelector engine true other = .ok selector := by
  obtain ⟨selector, made⟩ := made
  obtain ⟨nonempty, sound, compiled, compiles, _⟩ := (makeRuleSelector_eq_ok _ _ _ _).mp made
  have rules : (listRules group).Perm (listRules other) := perm.flatMap_right _
  have otherSound : RulesSound engine other := by
    intro rule member
    have listed := rules.symm.subset (List.fst_mem_of_mem_zipIdx member)
    obtain ⟨index, here⟩ := List.getElem?_of_mem listed
    rw [← kind]
    exact sound (rule.1, index) (List.mk_mem_zipIdx_iff_getElem?.mpr here)
  have twin (entry : Entry) (member : entry ∈ rankedMatches other) :
      ∃ same ∈ rankedMatches group, same.m = entry.m :=
    List.mem_map.mp ((matches_perm perm).symm.subset (List.mem_map_of_mem member))
  obtain ⟨otherCompiled, otherCompiles⟩ : ∃ compiled, compileMatches engine true (groupKind other)
      (rankedMatches other) = .ok compiled := by
    rw [← kind]
    unfold compileMatches at compiles ⊢
    split at compiles
    · refine (exists_ok_mapM _ _).mpr fun entry member => ?_
      obtain ⟨same, inside, matched⟩ := twin entry member
      obtain ⟨one, ran⟩ := (exists_ok_mapM _ _).mp ⟨compiled, compiles⟩ same inside
      simp only [compileHTTP, bind_eq_ok, matched] at ran ⊢
      obtain ⟨path, pathMade, headers, headersMade, params, paramsMade, _⟩ := ran
      exact ⟨_, path, pathMade, headers, headersMade, params, paramsMade, rfl⟩
    · refine (exists_ok_mapM _ _).mpr fun entry member => ?_
      obtain ⟨same, inside, matched⟩ := twin entry member
      obtain ⟨one, ran⟩ := (exists_ok_mapM _ _).mp ⟨compiled, compiles⟩ same inside
      simp only [compileGRPC, bind_eq_ok, matched] at ran ⊢
      obtain ⟨method, methodMade, headers, headersMade, _⟩ := ran
      exact ⟨_, method, methodMade, headers, headersMade, rfl⟩
    · cases compiles
  exact ⟨_, (makeRuleSelector_eq_ok _ _ _ _).mpr ⟨fun empty => nonempty (by
    rw [empty] at perm
    exact perm.eq_nil), otherSound, otherCompiled, otherCompiles, rfl⟩⟩

end Reordered

/-! The router. -/

section Router

variable {engine : HttpEngine} {resources listed : List RouteResource} {head : Head}

theorem routesUnder_perm (perm : resources.Perm listed) (pattern : HostPattern) :
    (routesUnder engine (listHosts resources) pattern).Perm
      (routesUnder engine (listHosts listed) pattern) :=
  ((perm.flatMap_right _).filter _).map _

theorem routesUnder_append (front back : List RouteResource) (pattern : HostPattern) :
    routesUnder engine (listHosts (front ++ back)) pattern =
      routesUnder engine (listHosts front) pattern ++
        routesUnder engine (listHosts back) pattern := by
  rw [routesUnder, listHosts, List.flatMap_append, List.filter_append, List.map_append]
  rfl

theorem declared_perm (perm : resources.Perm listed) :
    Declared engine resources = Declared engine listed := by
  funext pattern
  refine propext (exists_congr fun resource => and_congr_left fun _ => perm.mem_iff)

theorem alike_under {kind : String} (alike : ∀ route ∈ resources, route.kind = kind)
    (pattern : HostPattern) :
    ∀ route ∈ routesUnder engine (listHosts resources) pattern, route.kind = kind :=
  fun route member => alike route ((mem_routesUnder engine).mp member).1

/-- The group that serves a request holds the routes of the most specific pattern. -/
theorem servingGroup_eq_some {group : List RouteResource} :
    servingGroup engine resources head = some group ↔
      ∃ host pattern, requestHost engine head = some host ∧
        MostSpecific (Declared engine resources) host pattern ∧
          group = routesUnder engine (listHosts resources) pattern := by
  rw [servingGroup]
  cases requestHost engine head with
  | none => simp
  | some host =>
      rw [Option.bind_some]
      rcases Hosts.find?_cases (hostGroups_declared engine resources)
        (hostGroups_sorted engine resources) host with
          ⟨nothing, undeclared⟩ | ⟨pattern, found, here, specific, holds⟩
      · rw [nothing]
        constructor
        · rintro ⟨⟩
        · rintro ⟨_, pattern, ⟨⟩, specific, _⟩
          exact absurd specific (undeclared pattern)
      · have same := ((holds_hostGroups engine resources pattern found).mp holds).1
        rw [here, Option.some.injEq]
        constructor
        · rintro rfl
          exact ⟨host, pattern, rfl, specific, same⟩
        · rintro ⟨_, other, ⟨⟩, otherSpecific, rfl⟩
          rw [mostSpecific_unique otherSpecific specific, same]

theorem servingGroup_perm (perm : resources.Perm listed) {group : List RouteResource}
    (serving : servingGroup engine resources head = some group) :
    ∃ other, servingGroup engine listed head = some other ∧ group.Perm other := by
  obtain ⟨host, pattern, named, specific, rfl⟩ := servingGroup_eq_some.mp serving
  rw [declared_perm perm] at specific
  exact ⟨_, servingGroup_eq_some.mpr ⟨host, pattern, named, specific, rfl⟩,
    routesUnder_perm perm pattern⟩

theorem makeRouter_ok_iff : (∃ router, RouterHttp.makeRouter engine true resources = .ok router) ↔
    ∀ pattern, routesUnder engine (listHosts resources) pattern ≠ [] →
      ∃ selector, makeRuleSelector engine true
        (routesUnder engine (listHosts resources) pattern) = .ok selector := by
  have one (entry : String × List RouteResource) :
      (∃ made, makeHostSelector engine true entry = .ok made) ↔
        ∃ selector, makeRuleSelector engine true entry.2 = .ok selector := by
    simp [makeHostSelector, exists_ok_bind, pure, Except.pure]
  have under := holds_hostGroups engine resources
  constructor
  · rintro ⟨router, made⟩ pattern nonempty
    have holds := (under pattern _).mpr ⟨rfl, nonempty⟩
    rw [RouterHttp.makeRouter, bind_eq_ok] at made
    obtain ⟨fullnames, fullMade, made⟩ := made
    obtain ⟨endings, endingsMade, _⟩ := (bind_eq_ok _ _ _).mp made
    cases pattern with
    | exact name => exact (one (name, _)).mp ((exists_ok_mapM _ _).mp ⟨_, fullMade⟩ _ holds)
    | wildcard ending =>
        exact (one (ending, _)).mp ((exists_ok_mapM _ _).mp ⟨_, endingsMade⟩ _ holds)
  · intro sound
    have each (entry : String × List RouteResource) (pattern : HostPattern)
        (holds : (hostGroups engine resources).Holds pattern entry.2) :
        ∃ made, makeHostSelector engine true entry = .ok made := by
      obtain ⟨same, nonempty⟩ := (under pattern entry.2).mp holds
      rw [same] at nonempty
      exact (one entry).mpr (same ▸ sound pattern nonempty)
    obtain ⟨fullnames, fullMade⟩ := (exists_ok_mapM (hostGroups engine resources).fullnames
      (makeHostSelector engine true)).mpr fun entry member => each entry (.exact entry.1) member
    obtain ⟨endings, endingsMade⟩ := (exists_ok_mapM (hostGroups engine resources).endings
      (makeHostSelector engine true)).mpr fun entry member => each entry (.wildcard entry.1) member
    exact ⟨_, (bind_eq_ok _ _ _).mpr ⟨fullnames, fullMade,
      (bind_eq_ok _ _ _).mpr ⟨endings, endingsMade, rfl⟩⟩⟩

theorem makeRouter_perm {kind : String} (alike : ∀ route ∈ resources, route.kind = kind)
    (perm : resources.Perm listed)
    (made : ∃ router, RouterHttp.makeRouter engine true resources = .ok router) :
    ∃ router, RouterHttp.makeRouter engine true listed = .ok router := by
  rw [makeRouter_ok_iff] at made ⊢
  intro pattern nonempty
  have moved := @routesUnder_perm engine resources listed perm pattern
  refine makeRuleSelector_perm moved (groupKind_perm (alike_under alike pattern) moved)
    (made pattern fun empty => nonempty ?_)
  rw [empty] at moved
  exact moved.symm.eq_nil

/-- A route with a best match is taken if it is listed last. -/
theorem routed_of_last (unordered : FindsUnordered engine) {kind : String}
    (alike : ∀ route ∈ resources, route.kind = kind) {group : List RouteResource}
    (serving : servingGroup engine resources head = some group)
    (few : (choices group).length ≤ 1000000) {choice : Choice}
    (best : Best engine group head choice) {front : List RouteResource}
    (perm : resources.Perm (front ++ [choice.resource])) {router : Hosts RuleSelector}
    (made : RouterHttp.makeRouter engine true (front ++ [choice.resource]) = .ok router)
    (vars : RouteVars) :
    (route engine router head vars).1.map Entry.resource = some choice.resource := by
  obtain ⟨host, pattern, named, specific, rfl⟩ := servingGroup_eq_some.mp serving
  have member := (mem_choices.mp best.listed).1
  have moved := @routesUnder_perm engine _ _ perm pattern
  have kinds := groupKind_perm (alike_under alike pattern) moved
  have declares := ((mem_routesUnder engine).mp member).2
  rw [declared_perm perm] at specific
  have here : servingGroup engine (front ++ [choice.resource]) head =
      some (routesUnder engine (listHosts (front ++ [choice.resource])) pattern) :=
    servingGroup_eq_some.mpr ⟨host, pattern, named, specific, rfl⟩
  rcases route_eq made head vars with ⟨nothing, _⟩ | ⟨group, selector, served, selects, same⟩
  · rw [here] at nothing
    cases nothing
  · rw [here, Option.some.injEq] at served
    subst served
    rw [(choices_perm moved).length_eq] at few
    rw [best_perm unordered moved kinds] at best
    rw [routesUnder_append] at selects few best
    rw [same]
    refine selected_of_lastRoute selects few best ?_ (fun route under => ?_) vars
    · exact (mem_routesUnder engine).mpr ⟨List.mem_cons_self, declares⟩
    · exact List.mem_singleton.mp ((mem_routesUnder engine).mp under).1

/-- The rule of a route that a request goes to does not depend on the order in which the routes are
listed exactly if all its best matches are of one route. -/
theorem routing_unordered_iff (unordered : FindsUnordered engine) {kind : String}
    (alike : ∀ route ∈ resources, route.kind = kind)
    (few : ∀ group, servingGroup engine resources head = some group →
      (choices group).length ≤ 1000000) {router : Hosts RuleSelector}
    (made : RouterHttp.makeRouter engine true resources = .ok router) (vars : RouteVars) :
    (∀ listed other, resources.Perm listed →
        RouterHttp.makeRouter engine true listed = .ok other →
        (route engine other head vars).1.map Entry.choice =
          (route engine router head vars).1.map Entry.choice) ↔
      ∀ group, servingGroup engine resources head = some group → BestOfOne engine group head := by
  constructor
  · intro free group serving
    have chosen (choice : Choice) (best : Best engine group head choice) :
        (route engine router head vars).1.map Entry.resource = some choice.resource := by
      obtain ⟨host, pattern, named, specific, rfl⟩ := servingGroup_eq_some.mp serving
      have member := ((mem_routesUnder engine).mp (mem_choices.mp best.listed).1).1
      obtain ⟨front, back, split⟩ := List.append_of_mem member
      have perm : resources.Perm ((front ++ back) ++ [choice.resource]) := by
        rw [split]
        exact List.perm_middle.trans (List.perm_append_singleton _ _).symm
      obtain ⟨other, otherMade⟩ := makeRouter_perm alike perm ⟨router, made⟩
      have last := routed_of_last unordered alike serving (few _ serving) best perm otherMade vars
      have same := congrArg (Option.map Choice.resource) (free _ other perm otherMade)
      rw [Option.map_map, Option.map_map] at same
      exact same.symm.trans last
    intro choice other best twin
    exact Option.some.inj ((chosen choice best).symm.trans (chosen other twin))
  · intro one listed other perm otherMade
    rcases route_eq made head vars with ⟨nothing, same⟩ | ⟨group, selector, serving, selects, same⟩
    · rcases route_eq otherMade head vars with ⟨_, otherSame⟩ | ⟨group, _, serving, _⟩
      · rw [same, otherSame]
      · obtain ⟨twin, there, _⟩ := servingGroup_perm perm.symm serving
        rw [nothing] at there
        cases there
    · obtain ⟨twin, there, moved⟩ := servingGroup_perm perm serving
      rcases route_eq otherMade head vars with
        ⟨nothing, _⟩ | ⟨otherGroup, otherSelector, otherServing, otherSelects, otherSame⟩
      · rw [nothing] at there
        cases there
      · rw [otherServing, Option.some.injEq] at there
        subst there
        rw [same, otherSame]
        obtain ⟨_, pattern, _, _, rfl⟩ := servingGroup_eq_some.mp serving
        exact selected_perm unordered moved (groupKind_perm (alike_under alike pattern) moved)
          selects otherSelects (few _ serving) (one _ serving) vars

end Router

/-! Two routes with one prefix, found as the documentation has it. -/

theorem prefix_of_wildcard {chars text : List Char}
    (inside : (decide (text = chars) ||
      (if chars.getLast? = some '/' then chars else chars ++ ['/']).isPrefixOf text) = true) :
    chars <+: text := by
  rw [Bool.or_eq_true, decide_eq_true_eq, List.isPrefixOf_iff_prefix] at inside
  rcases inside with rfl | below
  · exact List.prefix_refl _
  · split at below
    · exact below
    · exact (List.prefix_append _ _).trans below

/-- No two patterns of one specificity cover one path. -/
theorem covers_unique {pattern other path : String} (left : covers pattern path = true)
    (right : covers other path = true) (same : specificity pattern = specificity other) :
    pattern = other := by
  have ended {chars : List Char} (wildcard : chars.drop (chars.length - 2) = ['/', '*']) :
      chars = chars.take (chars.length - 2) ++ ['/', '*'] := by
    rw [← wildcard, List.take_append_drop]
  unfold covers at left right
  unfold specificity at same
  dsimp only at left right same
  split at left <;> split at right
  · rename_i first second
    rw [if_pos first, if_pos second] at same
    have long {chars : List Char} (wildcard : chars.drop (chars.length - 2) = ['/', '*']) :
        2 ≤ chars.length := by
      have size := congrArg List.length wildcard
      rw [List.length_drop, List.length_cons, List.length_singleton] at size
      omega
    have length : pattern.toList.length = other.toList.length := by
      have here := long first
      have there := long second
      omega
    have base := (List.prefix_of_prefix_length_le (prefix_of_wildcard left)
      (prefix_of_wildcard right) (by simp [length])).eq_of_length (by simp [length])
    have chars := ended first
    rw [base, ← ended second] at chars
    exact String.toList_inj.mp chars
  · rename_i first second
    rw [if_pos first, if_neg second] at same
    omega
  · rename_i first second
    rw [if_neg first, if_pos second] at same
    omega
  · rename_i first second
    have chars := (of_decide_eq_true left).symm.trans (of_decide_eq_true right)
    exact String.toList_inj.mp chars

theorem mostSpecific_append (front : List String) (last path : String) :
    mostSpecific (front ++ [last]) path =
      if covers last path then
        (mostSpecific front path).elim (some last) fun other =>
          if specificity other < specificity last then some last else some other
      else mostSpecific front path := by
  cases covered : covers last path with
  | false => simp [mostSpecific, List.filter_append, covered]
  | true =>
      simp only [mostSpecific, List.filter_append, List.filter_cons, covered, List.filter_nil,
        List.foldl_append, List.foldl_cons, List.foldl_nil, if_true]
      split <;> rename_i found <;> rw [found] <;> rfl

theorem mostSpecific_cases (patterns : List String) (path : String) :
    (mostSpecific patterns path = none ∧ ∀ pattern ∈ patterns, covers pattern path = false) ∨
      ∃ pattern, mostSpecific patterns path = some pattern ∧
        (pattern ∈ patterns ∧ covers pattern path = true) ∧
          ∀ other ∈ patterns, covers other path = true →
            specificity other ≤ specificity pattern := by
  induction patterns using List.reverseRecOn with
  | nil => exact Or.inl ⟨rfl, by simp⟩
  | append_singleton front last ih =>
      simp only [mostSpecific_append, List.mem_append, List.mem_singleton, or_imp, forall_and,
        forall_eq]
      cases covered : covers last path with
      | false =>
          rcases ih with ⟨nothing, uncovered⟩ | ⟨pattern, found, ⟨inside, covering⟩, above⟩
          · exact Or.inl ⟨nothing, uncovered, rfl⟩
          · exact Or.inr ⟨pattern, found, ⟨Or.inl inside, covering⟩, above, nofun⟩
      | true =>
          right
          rcases ih with ⟨nothing, uncovered⟩ | ⟨pattern, found, ⟨inside, covering⟩, above⟩
          · refine ⟨last, by simp [nothing], ⟨Or.inr rfl, covered⟩, fun other member => ?_,
              fun _ => le_rfl⟩
            simp [uncovered other member]
          · by_cases larger : specificity pattern < specificity last
            · exact ⟨last, by simp [found, larger], ⟨Or.inr rfl, covered⟩,
                fun other member covers => (above other member covers).trans larger.le,
                fun _ => le_rfl⟩
            · exact ⟨pattern, by simp [found, larger], ⟨Or.inl inside, covering⟩, above,
                fun _ => not_lt.mp larger⟩

theorem findsUnordered_documented : FindsUnordered documentedEngine := by
  intro patterns others path same
  change mostSpecific patterns path = mostSpecific others path
  rcases mostSpecific_cases patterns path with
    ⟨nothing, uncovered⟩ | ⟨pattern, found, ⟨member, covered⟩, above⟩
  · rcases mostSpecific_cases others path with ⟨other, _⟩ | ⟨other, _, ⟨member, covered⟩, _⟩
    · rw [nothing, other]
    · rw [uncovered other ((same other).mpr member)] at covered
      cases covered
  · rcases mostSpecific_cases others path with
      ⟨_, uncovered⟩ | ⟨other, otherFound, ⟨otherMember, otherCovered⟩, otherAbove⟩
    · rw [uncovered pattern ((same pattern).mp member)] at covered
      cases covered
    · have level := Nat.le_antisymm (otherAbove pattern ((same pattern).mp member) covered)
        (above other ((same other).mpr otherMember) otherCovered)
      rw [found, otherFound, covers_unique covered otherCovered level]

def plainRoute : RouteResource := httpRoute [prefixOnly]

def headerRoute : RouteResource := httpRoute [exactWithHeader, prefixOnly]

theorem twoRoutes_unordered :
    (∀ listed other, [plainRoute, headerRoute].Perm listed →
        RouterHttp.makeRouter documentedEngine true listed = .ok other →
        (route documentedEngine other (hostHead "/a/b") noVars).1.map Entry.choice =
          (route documentedEngine (madeRouter (RouterHttp.makeRouter documentedEngine true
            [plainRoute, headerRoute])) (hostHead "/a/b") noVars).1.map Entry.choice) ↔
      ∀ group, servingGroup documentedEngine [plainRoute, headerRoute] (hostHead "/a/b") =
        some group → BestOfOne documentedEngine group (hostHead "/a/b") := by
  have alike : ∀ route ∈ [plainRoute, headerRoute], route.kind = "HTTPRoute" := by
    simp [plainRoute, headerRoute, httpRoute]
  refine routing_unordered_iff findsUnordered_documented alike (fun group serving => ?_)
    (madeRouter_eq (by decide +kernel)) noVars
  have both : servingGroup documentedEngine [plainRoute, headerRoute] (hostHead "/a/b") =
      some [plainRoute, headerRoute] := by rfl
  obtain rfl := Option.some.inj (both.symm.trans serving)
  decide

end Fgw
