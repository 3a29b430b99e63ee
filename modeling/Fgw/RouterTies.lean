import Fgw.RouterDubboPriority
import Fgw.RouterHttpAgreement
import Fgw.RouterHttpPriority

/-!
Matches of equal specificity.  The HTTP router sorts by texts that end in the position of the
match, larger ones first; the Dubbo router leaves such matches in their order.
-/

namespace Fgw

/-! Positions within priorities. -/

theorem priority_lt_of_position {first second : RouteMatch}
    (same : first.specificity = second.specificity) {index other : Nat} (less : index < other)
    (fits : other < 10 ^ 6) : getMatchPriority first index < getMatchPriority second other := by
  have width (n : Nat) (small : n < 10 ^ 6) : (paddedDigits 6 n).length = 6 := by
    rw [length_padded, paddedWidth_of_lt (by decide) small]
  have digits : paddedDigits 6 index < paddedDigits 6 other := by
    have compared := digits_append_lt_iff (allDigits_padded 6 index) (allDigits_padded 6 other)
      ((width index (less.trans fits)).trans (width other fits).symm) [] []
    rw [List.append_nil, List.append_nil, digitsValue_padded, digitsValue_padded] at compared
    exact compared.mpr (.inl less)
  rw [String.lt_iff, toList_getMatchPriority, toList_getMatchPriority, same]
  exact List.Lex.append_left _ digits _

theorem priority_ne {first second : RouteMatch} {index other : Nat} (different : index ≠ other) :
    getMatchPriority first index ≠ getMatchPriority second other := by
  intro same
  rcases lt_trichotomy first.specificity second.specificity with less | equal | greater
  · obtain ⟨leads, trails⟩ := priority_lt_iff less other index
    by_cases ahead : second.Leads first
    · exact absurd same (ne_of_lt (leads ahead))
    · exact absurd same.symm (ne_of_lt (trails ahead))
  · have texts := congrArg String.toList same
    rw [toList_getMatchPriority, toList_getMatchPriority, equal] at texts
    have values := congrArg digitsValue (List.append_cancel_left texts)
    rw [digitsValue_padded, digitsValue_padded] at values
    exact different values
  · obtain ⟨leads, trails⟩ := priority_lt_iff greater index other
    by_cases ahead : first.Leads second
    · exact absurd same.symm (ne_of_lt (leads ahead))
    · exact absurd same (ne_of_lt (trails ahead))

theorem index_listMatches (rules : List (Rule × BackendSelector × RouteResource)) :
    (listMatches rules).map Entry.index = List.range (listMatches rules).length := by
  rw [listMatches, List.map_map, List.length_map, List.length_zipIdx, List.range_eq_range']
  exact List.zipIdx_map_snd 0 _

theorem eq_of_index {rules : List (Rule × BackendSelector × RouteResource)} {first second : Entry}
    (inside : first ∈ listMatches rules) (other : second ∈ listMatches rules)
    (same : first.index = second.index) : first = second := by
  have once : ((listMatches rules).map Entry.index).Nodup := by
    rw [index_listMatches]
    exact List.nodup_range
  exact List.inj_on_of_nodup_map once inside other same

/-! The search of an HTTP or gRPC selector. -/

section HTTP

variable (engine : HttpEngine) (resources : List RouteResource) (head : Head)

def listedMatches : List Entry := listMatches (groupRules resources)

/-- The matches that a request is compared with, in turn. -/
def searchedMatches : List Entry :=
  if groupKind resources = "HTTPRoute" then consulted engine (rankedMatches resources) head
  else rankedMatches resources

/-- The search comes to the match and does not pass it over. -/
def Reaches (entry : Entry) : Prop :=
  entry ∈ searchedMatches engine resources head ∧
    matchPasses engine true (groupKind resources) entry.m head = true

/-- Only HTTP routes are searched in several lists. -/
def searchRank (m : RouteMatch) : Nat :=
  if groupKind resources = "HTTPRoute" then listRank engine m else 0

/-- The list of the first is searched before that of the second, or it is the same list and the
first has the larger priority. -/
def Outranks (first second : Entry) : Prop :=
  searchRank engine resources first.m < searchRank engine resources second.m ∨
    searchRank engine resources first.m = searchRank engine resources second.m ∧
      second.priority < first.priority

/-- No match that accepts the request and is as specific as the selected one stands before it. -/
def FirstOfTies (selected : Option Entry) : Prop :=
  ∀ entry, selected = some entry → ∀ other ∈ listedMatches resources,
    matchPasses engine false (groupKind resources) other.m head = true →
      other.m.specificity = entry.m.specificity → entry.index ≤ other.index

/-- Of two matches of equal specificity, the one that stands later is outranked by a match of
another specificity.  (The texts of positions from a million on compare differently.) -/
def TiesOutranked : Prop :=
  ∀ earlier ∈ listedMatches resources, ∀ later ∈ listedMatches resources,
    matchPasses engine false (groupKind resources) earlier.m head = true →
      Reaches engine resources head later → earlier.m.specificity = later.m.specificity →
        earlier.index < later.index →
          ∃ better ∈ listedMatches resources, Reaches engine resources head better ∧
            Outranks engine resources better later ∧
              (better.m.specificity ≠ later.m.specificity ∨ 1000000 ≤ later.index)

variable {engine resources head}

theorem mem_rankedMatches {entry : Entry} :
    entry ∈ rankedMatches resources ↔ entry ∈ listedMatches resources :=
  mem_sortMatches _ entry

theorem precedes_rankedMatches {first second : Entry}
    (before : Precedes (rankedMatches resources) first second) :
    second.priority < first.priority := by
  have inside := mem_rankedMatches.mp before.mem_left
  have other := mem_rankedMatches.mp before.mem_right
  have related := Precedes.rel
    ((rankedMatches_nodup resources).and (pairwise_sortMatches _)) before
  have unequal : first.index ≠ second.index := fun same =>
    related.1 (eq_of_index inside other same)
  refine lt_of_le_of_ne related.2 ?_
  rw [priority_listMatches inside, priority_listMatches other]
  exact (priority_ne unequal).symm

theorem searchedMatches_nodup : (searchedMatches engine resources head).Nodup := by
  unfold searchedMatches
  split
  · exact consulted_nodup (rankedMatches_nodup resources)
  · exact rankedMatches_nodup resources

theorem listed_of_searched {entry : Entry}
    (member : entry ∈ searchedMatches engine resources head) :
    entry ∈ listedMatches resources := by
  unfold searchedMatches at member
  split at member
  · exact mem_rankedMatches.mp ((mem_consulted entry).mp member).1
  · exact mem_rankedMatches.mp member

theorem outranks_of_precedes {first second : Entry}
    (before : Precedes (searchedMatches engine resources head) first second) :
    Outranks engine resources first second := by
  unfold searchedMatches at before
  unfold Outranks searchRank
  split at before
  · rename_i http
    simp only [http, if_true]
    obtain ⟨_, _, lower | ⟨level, inside⟩⟩ := (precedes_consulted first second).mp before
    · exact .inl lower
    · exact .inr ⟨level, precedes_rankedMatches inside⟩
  · rename_i other
    simp only [other, if_false]
    exact .inr ⟨trivial, precedes_rankedMatches before⟩

theorem Outranks.asymm {first second : Entry} (before : Outranks engine resources first second) :
    ¬ Outranks engine resources second first := by
  intro after
  rcases before with lower | ⟨level, larger⟩
  · rcases after with higher | ⟨level, _⟩
    · exact Nat.lt_asymm lower higher
    · omega
  · rcases after with higher | ⟨_, smaller⟩
    · omega
    · exact lt_asymm larger smaller

theorem precedes_of_outranks {first second : Entry}
    (inside : first ∈ searchedMatches engine resources head)
    (other : second ∈ searchedMatches engine resources head)
    (before : Outranks engine resources first second) :
    Precedes (searchedMatches engine resources head) first second := by
  have different : first ≠ second := by
    rintro rfl
    exact before.asymm before
  rcases precedes_or_precedes inside other different with first' | second'
  · exact first'
  · exact absurd (outranks_of_precedes second') before.asymm

theorem listRank_eq (engine : HttpEngine) (m : RouteMatch) :
    listRank engine m =
      if 2 ≤ (pathSpecificity m).1 then 0 else if m.methodKey.isSome then 1 else 2 := by
  unfold listRank pathKey pathSpecificity
  rcases m.path with _ | ⟨_ | type, value⟩
  · rfl
  · rfl
  · cases type with
    | exact => rfl
    | pathPrefix => rfl
    | regularExpression => rfl
    | other text => rfl

theorem searchRank_eq_of_specificity {first second : RouteMatch}
    (same : first.specificity = second.specificity) :
    searchRank engine resources first = searchRank engine resources second := by
  simp only [RouteMatch.specificity, List.cons.injEq] at same
  obtain ⟨kind, _, method, _⟩ := same
  have keyed : first.methodKey.isSome = second.methodKey.isSome := by
    cases left : first.methodKey.isSome <;> cases right : second.methodKey.isSome <;>
      simp_all
  unfold searchRank
  rw [listRank_eq, listRank_eq, kind, keyed]

/-- The later of two matches of equal specificity is searched first. -/
theorem later_outranks {earlier later : Entry} (inside : earlier ∈ listedMatches resources)
    (other : later ∈ listedMatches resources)
    (same : earlier.m.specificity = later.m.specificity) (less : earlier.index < later.index)
    (fits : later.index < 1000000) : Outranks engine resources later earlier := by
  refine .inr ⟨searchRank_eq_of_specificity same.symm, ?_⟩
  rw [priority_listMatches inside, priority_listMatches other]
  exact priority_lt_of_position same less fits

theorem selector_eq_find? {selector : RuleSelector}
    (made : makeRuleSelector engine true resources = .ok selector) (vars : RouteVars) :
    (selector head vars).1 = (searchedMatches engine resources head).find? fun entry =>
      matchPasses engine true (groupKind resources) entry.m head := by
  obtain ⟨_, _, compiled, compiles, same⟩ := (makeRuleSelector_eq_ok _ _ _ _).mp made
  unfold searchedMatches
  by_cases http : groupKind resources = "HTTPRoute"
  · rw [http] at compiles same ⊢
    simp only [Bool.true_and, decide_true, if_true] at same ⊢
    subst same
    exact (selects_fast compiles head vars).selected
  · simp only [http, Bool.true_and, decide_false, Bool.false_eq_true, if_false] at same ⊢
    subst same
    obtain ⟨entries, sound⟩ := compileMatches_sound compiles
    have selects := selects_plain sound head vars
    rw [entries] at selects
    exact selects.selected

theorem tiesOutranked_of_first
    (first : FirstOfTies engine resources head
      ((searchedMatches engine resources head).find? fun entry =>
        matchPasses engine true (groupKind resources) entry.m head)) :
    TiesOutranked engine resources head := by
  intro earlier inside later other accepted reached same less
  cases selected : (searchedMatches engine resources head).find? fun entry =>
      matchPasses engine true (groupKind resources) entry.m head with
  | none =>
      have refused := List.find?_eq_none.mp selected later reached.1
      exact absurd reached.2 refused
  | some entry =>
      obtain ⟨member, passes, best⟩ :=
        (find?_eq_some_iff_precedes searchedMatches_nodup _ _).mp selected
      have minimal := first entry selected earlier inside accepted
      have different : entry ≠ later := by
        rintro rfl
        exact absurd (minimal same) (by omega)
      have ahead : Outranks engine resources entry later := by
        rcases precedes_or_precedes member reached.1 different with before | after
        · exact outranks_of_precedes before
        · have refused := best later after
          rw [reached.2] at refused
          exact absurd refused.symm Bool.false_ne_true
      refine ⟨entry, listed_of_searched member, ⟨member, passes⟩, ahead, ?_⟩
      by_cases level : entry.m.specificity = later.m.specificity
      · right
        by_contra fits
        have lower := minimal (same.trans level.symm)
        exact ahead.asymm (later_outranks (listed_of_searched member) other level
          (by omega) (by omega))
      · exact .inl level

theorem first_of_tiesOutranked (outranked : TiesOutranked engine resources head) :
    FirstOfTies engine resources head
      ((searchedMatches engine resources head).find? fun entry =>
        matchPasses engine true (groupKind resources) entry.m head) := by
  intro entry selected other member accepted same
  obtain ⟨inside, passes, best⟩ :=
    (find?_eq_some_iff_precedes searchedMatches_nodup _ _).mp selected
  by_contra earlier
  obtain ⟨better, _, reached, ahead, _⟩ := outranked other member entry
    (listed_of_searched inside) accepted ⟨inside, passes⟩ same (by omega)
  have refused := best better (precedes_of_outranks reached.1 inside ahead)
  rw [reached.2] at refused
  exact absurd refused.symm Bool.false_ne_true

theorem firstOfTies_iff {selector : RuleSelector}
    (made : makeRuleSelector engine true resources = .ok selector) (vars : RouteVars) :
    FirstOfTies engine resources head (selector head vars).1 ↔
      TiesOutranked engine resources head := by
  rw [selector_eq_find? made vars]
  exact ⟨tiesOutranked_of_first, first_of_tiesOutranked⟩

end HTTP

/-! The search of a Dubbo selector. -/

section Dubbo

variable {β : Type} (engine : DubboEngine β) (routes : List DubboRoute) (body : DubboBody)

/-- The selected match is the first in list order of those that accept the request and have its
ranks. -/
def FirstOfDubboTies (selected : Option DubboEntry) : Prop :=
  ∀ entry, selected = some entry →
    (dubboEntries routes).find? (fun other =>
      other.m.getMatchPriority = entry.m.getMatchPriority && other.m.accepts engine body) =
        some entry

variable {engine routes body}

theorem eq_of_keys {lefts rights : List Rank} (alike : List.Forall₂ Rank.Alike lefts rights)
    (same : lefts.map Rank.key = rights.map Rank.key) : lefts = rights := by
  induction alike with
  | nil => rfl
  | cons head _ ih =>
      rw [List.map_cons, List.map_cons, List.cons.injEq] at same
      rw [key_inj head same.1, ih same.2]

theorem key_eq_iff {first second : DubboMatch} :
    first.key = second.key ↔ first.getMatchPriority = second.getMatchPriority := by
  refine ⟨?_, fun same => congrArg (List.map Rank.key) same⟩
  intro same
  unfold DubboMatch.key at same
  rcases getMatchPriority_cases first with ⟨texts, length, ranks⟩ | ⟨kind, counts, other, length, ranks⟩
  · rcases getMatchPriority_cases second with ⟨_, length', theirs⟩ | ⟨_, _, third, _, theirs⟩
    · rw [ranks, theirs] at same ⊢
      exact eq_of_keys (.cons (.number 3 3) (alike_map .text (length.trans length'.symm))) same
    · rw [ranks, theirs] at same
      simp only [List.map_cons, Rank.key, List.cons.injEq, and_true] at same
      exact absurd same.1.symm third
  · rcases getMatchPriority_cases second with ⟨_, _, theirs⟩ | ⟨_, _, _, length', theirs⟩
    · rw [ranks, theirs] at same
      simp only [List.map_cons, Rank.key, List.cons.injEq, and_true] at same
      exact absurd same.1 other
    · rw [ranks, theirs] at same ⊢
      exact eq_of_keys (.cons (.number _ _) (alike_map .number (length.trans length'.symm))) same

theorem firstOfDubboTies {matchers : List DubboMatcher}
    (made : RouterDubbo.makeRuleSelector engine routes = .ok matchers) (body : DubboBody) :
    FirstOfDubboTies engine routes body
      ((matchers.find? fun one => one.matchFunc body).map DubboMatcher.entry) := by
  intro entry selected
  rw [find?_selector made body] at selected
  have first := ((find?_sortDescending_iff _ _ _ _).mp selected).2
  simpa only [key_eq_iff] using first

end Dubbo

/-- Both kinds of selectors select the first of the most specific matches exactly if no later one
of equal specificity is the best on the way of the HTTP or gRPC selector. -/
theorem tiesInListOrder_iff {engine : HttpEngine} {resources : List RouteResource}
    {selector : RuleSelector} (made : makeRuleSelector engine true resources = .ok selector)
    (head : Head) (vars : RouteVars) {β : Type} {dubbo : DubboEngine β} {routes : List DubboRoute}
    {matchers : List DubboMatcher}
    (madeDubbo : RouterDubbo.makeRuleSelector dubbo routes = .ok matchers) (body : DubboBody) :
    (FirstOfTies engine resources head (selector head vars).1 ∧
      FirstOfDubboTies dubbo routes body
        ((matchers.find? fun one => one.matchFunc body).map DubboMatcher.entry)) ↔
      TiesOutranked engine resources head := by
  rw [firstOfTies_iff made vars]
  exact and_iff_left (firstOfDubboTies madeDubbo body)

/-! A group with a rule twice, and one with different rules. -/

def repeatedRoute : RouteResource := httpRoute [prefixOnly, prefixOnly]

theorem repeatedRule_later :
    ¬ ∀ (resources : List RouteResource) (selector : RuleSelector) (head : Head)
      (vars : RouteVars), makeRuleSelector documentedEngine true resources = .ok selector →
        FirstOfTies documentedEngine resources head (selector head vars).1 := by
  intro claimed
  have first := claimed [repeatedRoute]
    (madeSelector (makeRuleSelector documentedEngine true [repeatedRoute])) (getHead "/a") noVars
    (madeSelector_eq (by decide +kernel))
  have later : ((madeSelector (makeRuleSelector documentedEngine true [repeatedRoute])
      (getHead "/a") noVars).1).map (fun entry => (entry.index, entry.m)) =
        some (1, prefixOnly) := by decide +kernel
  obtain ⟨entry, selected, chosen⟩ := Option.map_eq_some_iff.mp later
  simp only [Prod.mk.injEq] at chosen
  have listed : listedMatches [repeatedRoute] =
      [⟨prefixOnly, ⟨0, ruleOf prefixOnly, false⟩, repeatedRoute, ruleOf prefixOnly, 0,
          getMatchPriority prefixOnly 0⟩,
        ⟨prefixOnly, ⟨1, ruleOf prefixOnly, false⟩, repeatedRoute, ruleOf prefixOnly, 1,
          getMatchPriority prefixOnly 1⟩] := rfl
  have least := first entry selected _ (listed ▸ List.mem_cons_self) (by decide +kernel)
    (by rw [chosen.2])
  rw [chosen.1] at least
  exact absurd least (by decide)

/-- Two equal matches, before one that is more specific. -/
def outrankedTie : RouteResource := httpRoute [prefixOnly, prefixOnly, prefixWithHeader]

def tieEntry (index : Nat) (m : RouteMatch) : Entry :=
  ⟨m, ⟨index, ruleOf m, false⟩, outrankedTie, ruleOf m, index, getMatchPriority m index⟩

theorem tiesOutranked_header : TiesOutranked documentedEngine [outrankedTie] (headerHead "/a") := by
  have listed : listedMatches [outrankedTie] =
      [tieEntry 0 prefixOnly, tieEntry 1 prefixOnly, tieEntry 2 prefixWithHeader] := rfl
  have searched : searchedMatches documentedEngine [outrankedTie] (headerHead "/a") =
      [tieEntry 2 prefixWithHeader, tieEntry 1 prefixOnly, tieEntry 0 prefixOnly] := rfl
  have better : tieEntry 2 prefixWithHeader ∈ listedMatches [outrankedTie] := by
    rw [listed]
    simp
  have reached : Reaches documentedEngine [outrankedTie] (headerHead "/a")
      (tieEntry 2 prefixWithHeader) := by
    refine ⟨?_, by decide +kernel⟩
    rw [searched]
    exact List.mem_cons_self
  intro earlier inside later other _ _ same before
  rw [listed] at inside other
  simp only [List.mem_cons, List.not_mem_nil, or_false] at inside other
  rcases other with rfl | rfl | rfl
  · exact absurd before (Nat.not_lt_zero _)
  · exact ⟨_, better, reached, .inr ⟨rfl, by decide +kernel⟩, .inl (by decide +kernel)⟩
  · rcases inside with rfl | rfl | rfl
    · exact absurd same (by decide +kernel)
    · exact absurd same (by decide +kernel)
    · exact absurd before (by decide)

theorem outrankedTie_inOrder :
    FirstOfTies documentedEngine [outrankedTie] (headerHead "/a")
        (madeSelector (makeRuleSelector documentedEngine true [outrankedTie]) (headerHead "/a")
          noVars).1 ∧
      FirstOfDubboTies documentedDubbo [layeredRoute] (dubboCall "m")
        ((layeredMatchers.find? fun one => one.matchFunc (dubboCall "m")).map
          DubboMatcher.entry) :=
  (tiesInListOrder_iff (madeSelector_eq (by decide +kernel)) (headerHead "/a") noVars rfl
    (dubboCall "m")).mpr tiesOutranked_header

end Fgw
