import Fgw.Library.SortedSearch
import Fgw.RouterDubboCache
import Mathlib.Data.List.Find
import Mathlib.Data.List.Lex

/-!
The ranks of Dubbo matches as keys of one linear order, and what the first accepting match of the
sorted list is then known to be.
-/

namespace Fgw

/-! Texts are determined by their UTF-16 units. -/

def utf16Units (c : Char) : List Nat :=
  if c.toNat < 0x10000 then [c.toNat]
  else [0xD800 + (c.toNat - 0x10000) / 0x400, 0xDC00 + (c.toNat - 0x10000) % 0x400]

theorem toNat_range (c : Char) : c.toNat < 0xD800 ∨ 0xDFFF < c.toNat ∧ c.toNat < 0x110000 :=
  c.valid

theorem utf16Units_append_inj {first second : Char} {left right : List Nat}
    (same : utf16Units first ++ left = utf16Units second ++ right) :
    first = second ∧ left = right := by
  have firstRange := toNat_range first
  have secondRange := toNat_range second
  unfold utf16Units at same
  have parts : first.toNat = second.toNat ∧ left = right := by
    by_cases small : first.toNat < 0x10000
    · by_cases other : second.toNat < 0x10000
      · rw [if_pos small, if_pos other] at same
        simpa using same
      · rw [if_pos small, if_neg other] at same
        simp only [List.cons_append, List.cons.injEq] at same
        omega
    · by_cases other : second.toNat < 0x10000
      · rw [if_neg small, if_pos other] at same
        simp only [List.cons_append, List.cons.injEq] at same
        omega
      · rw [if_neg small, if_neg other] at same
        simp only [List.cons_append, List.nil_append, List.cons.injEq] at same
        exact ⟨by omega, same.2.2⟩
  exact ⟨Char.toNat_inj.mp parts.1, parts.2⟩

theorem utf16_injective {first second : String} (same : utf16 first = utf16 second) :
    first = second := by
  have chars (left right : List Char)
      (same : left.flatMap utf16Units = right.flatMap utf16Units) : left = right := by
    induction left generalizing right with
    | nil =>
        cases right with
        | nil => rfl
        | cons c rest =>
            simp only [List.flatMap_nil, List.flatMap_cons, utf16Units] at same
            split at same <;> cases same
    | cons c rest ih =>
        cases right with
        | nil =>
            simp only [List.flatMap_nil, List.flatMap_cons, utf16Units] at same
            split at same <;> cases same
        | cons other others =>
            simp only [List.flatMap_cons] at same
            obtain ⟨rfl, later⟩ := utf16Units_append_inj same
            rw [ih others later]
  exact String.toList_inj.mp (chars _ _ same)

/-! Ranks as keys. -/

def Rank.key : Rank → List Nat
  | .number value => [value]
  | .text value => utf16 value

def DubboMatch.key (m : DubboMatch) : List (List Nat) := m.getMatchPriority.map Rank.key

inductive Rank.Alike : Rank → Rank → Prop
  | number (left right : Nat) : Alike (.number left) (.number right)
  | text (left right : String) : Alike (.text left) (.text right)

theorem above_iff {left right : Rank} (alike : left.Alike right) :
    left.above right = true ↔ right.key < left.key := by
  cases alike with
  | number left right => simp [Rank.above, Rank.key, List.cons_lt_cons_iff]
  | text left right => simp [Rank.above, Rank.key]

theorem key_inj {left right : Rank} (alike : left.Alike right) (same : left.key = right.key) :
    left = right := by
  cases alike with
  | number left right => simpa [Rank.key] using same
  | text left right => rw [utf16_injective same]

theorem ranksFirst_cons {left right : Rank} (alike : left.Alike right)
    (lefts rights : List Rank) : ranksFirst (left :: lefts) (right :: rights) = true ↔
      right.key < left.key ∨ right.key = left.key ∧ ranksFirst lefts rights = true := by
  rw [ranksFirst]
  by_cases same : left = right
  · subst same
    simp
  · have different : right.key ≠ left.key := fun equal => same (key_inj alike equal.symm)
    rw [if_neg same, above_iff alike]
    simp [different]

theorem cons_le_cons_iff_lt {κ : Type} [LinearOrder κ] {first second : κ} {left right : List κ} :
    first :: left ≤ second :: right ↔ first < second ∨ first = second ∧ left ≤ right := by
  rw [← not_lt, List.cons_lt_cons_iff, ← not_lt (a := right)]
  rcases lt_trichotomy first second with below | rfl | above
  · simp [below, lt_asymm below, ne_of_gt below]
  · simp
  · simp [above, lt_asymm above, ne_of_gt above]

theorem ranksFirst_iff {lefts rights : List Rank} (alike : List.Forall₂ Rank.Alike lefts rights) :
    ranksFirst lefts rights = true ↔ rights.map Rank.key ≤ lefts.map Rank.key := by
  induction alike with
  | nil => simp [ranksFirst]
  | cons head _ ih =>
      rw [ranksFirst_cons head, ih, List.map_cons, List.map_cons, cons_le_cons_iff_lt]

theorem alike_map {γ : Type} {rank : γ → Rank}
    (alike : ∀ first second, (rank first).Alike (rank second)) {left right : List γ}
    (same : left.length = right.length) :
    List.Forall₂ Rank.Alike (left.map rank) (right.map rank) := by
  induction left generalizing right with
  | nil =>
      rw [List.eq_nil_of_length_eq_zero same.symm]
      exact .nil
  | cons first rest ih =>
      cases right with
      | nil => cases same
      | cons second others => exact .cons (alike first second) (ih (Nat.succ.inj same))

/-- Ranks begin with the number of their type, and ranks of one type have numbers or texts at the
same places. -/
theorem getMatchPriority_cases (m : DubboMatch) :
    (∃ texts : List String, texts.length = 4 ∧
        m.getMatchPriority = .number 3 :: texts.map .text) ∨
      ∃ (kind : Nat) (counts : List Nat), kind ≠ 3 ∧ counts.length = 4 ∧
        m.getMatchPriority = .number kind :: counts.map .number := by
  unfold DubboMatch.getMatchPriority
  split
  · exact .inl ⟨m.parts.map fun part => part.getD "", rfl, by rw [List.map_map]; rfl⟩
  · exact .inr ⟨1, m.parts.map fun part => (part.map jsLength).getD 0, by decide, rfl,
      by rw [List.map_map]; rfl⟩
  · exact .inr ⟨0, [0, 0, 0, 0], by decide, rfl, rfl⟩

theorem ranksFirst_leading {left right : Nat} (different : left ≠ right)
    (lefts rights : List Rank) :
    ranksFirst (.number left :: lefts) (.number right :: rights) = true ↔
      (Rank.number right :: rights).map Rank.key ≤ (Rank.number left :: lefts).map Rank.key := by
  rw [ranksFirst_cons (.number left right), List.map_cons, List.map_cons, cons_le_cons_iff_lt]
  simp [Rank.key, different.symm]

theorem ranksFirst_matches (first second : DubboMatch) :
    ranksFirst first.getMatchPriority second.getMatchPriority = true ↔
      second.key ≤ first.key := by
  unfold DubboMatch.key
  rcases getMatchPriority_cases first with ⟨texts, length, ranks⟩ | ⟨kind, counts, other, length, ranks⟩
  · rcases getMatchPriority_cases second with ⟨others, same, theirs⟩ | ⟨_, others, third, _, theirs⟩
    · rw [ranks, theirs]
      exact ranksFirst_iff (.cons (.number 3 3) (alike_map .text (length.trans same.symm)))
    · rw [ranks, theirs]
      exact ranksFirst_leading third.symm _ _
  · rcases getMatchPriority_cases second with ⟨others, same, theirs⟩ | ⟨_, others, _, same, theirs⟩
    · rw [ranks, theirs]
      exact ranksFirst_leading other _ _
    · rw [ranks, theirs]
      exact ranksFirst_iff (.cons (.number _ _) (alike_map .number (length.trans same.symm)))

theorem sortDubboMatches_eq (entries : List DubboEntry) :
    sortDubboMatches entries = sortDescending (fun entry => entry.m.key) entries :=
  @insertionSort_congr DubboEntry _ _ _ _
    (fun first second => ranksFirst_matches first.m second.m) entries

/-! What a match accepts. -/

section Accepts

variable {β : Type} (engine : DubboEngine β)

def partPasses (type : Option MatchType) (part : Option String) (text : String) : Bool :=
  (part.filter fun text => text ≠ "").all fun wanted =>
    match type with
    | some .exact => text = wanted
    | some .regularExpression =>
        match engine.regExp wanted with
        | .ok re => re text
        | .error _ => false
    | _ => true

def DubboMatch.accepts (m : DubboMatch) (body : DubboBody) : Bool :=
  partPasses engine m.type m.service body.service &&
    partPasses engine m.type m.version body.version &&
    partPasses engine m.type m.method body.method &&
    partPasses engine m.type m.signature body.signature

variable {engine}

theorem makeStringMatcher_eq {type : Option MatchType} {part : Option String}
    {matcher : Option (String → Bool)} (made : makeStringMatcher engine type part = .ok matcher)
    (text : String) : (matcher.all fun check => check text) = partPasses engine type part text := by
  unfold makeStringMatcher at made
  unfold partPasses
  split at made
  · rename_i found
    cases made
    rw [found]
    rfl
  · rename_i found
    obtain ⟨re, compiled, rfl⟩ := (map_eq_ok _ _ _).mp made
    rw [found, Option.all_some, Option.all_some]
    simp only [compiled]
  · rename_i exact regular
    cases made
    cases found : part.filter fun text => text ≠ "" with
    | none => rfl
    | some wanted =>
        simp only [Option.all_none, Option.all_some]
        split
        · exact (exact wanted found rfl).elim
        · exact (regular wanted found rfl).elim
        · rfl

theorem compileDubbo_sound {entry : DubboEntry} {matcher : DubboMatcher}
    (made : compileDubbo engine entry = .ok matcher) :
    matcher.entry = entry ∧ ∀ body, matcher.matchFunc body = entry.m.accepts engine body := by
  simp only [compileDubbo, bind_eq_ok] at made
  obtain ⟨service, serviceMade, version, versionMade, method, methodMade, signature,
    signatureMade, rest⟩ := made
  cases rest
  refine ⟨rfl, ?_⟩
  intro body
  simp only [makeStringMatcher_eq serviceMade, makeStringMatcher_eq versionMade,
    makeStringMatcher_eq methodMade, makeStringMatcher_eq signatureMade, DubboMatch.accepts]

def dubboEntries (resources : List DubboRoute) : List DubboEntry :=
  listDubboMatches (listDubboRules resources)

theorem find?_selector {resources : List DubboRoute} {matchers : List DubboMatcher}
    (made : RouterDubbo.makeRuleSelector engine resources = .ok matchers) (body : DubboBody) :
    (matchers.find? fun one => one.matchFunc body).map DubboMatcher.entry =
      (sortDescending (fun entry => entry.m.key) (dubboEntries resources)).find?
        fun entry => entry.m.accepts engine body := by
  unfold RouterDubbo.makeRuleSelector at made
  rw [sortDubboMatches_eq] at made
  have entries : matchers.map DubboMatcher.entry =
      sortDescending (fun entry => entry.m.key) (dubboEntries resources) := by
    simpa [dubboEntries] using map_of_mapM_ok made DubboMatcher.entry id fun entry _ _ ran =>
      (compileDubbo_sound ran).1
  have answers : ∀ one ∈ matchers, one.matchFunc body = one.entry.m.accepts engine body := by
    intro one member
    obtain ⟨entry, _, ran⟩ := (mem_of_mapM_ok made one).mp member
    obtain ⟨rfl, answer⟩ := compileDubbo_sound ran
    exact answer body
  rw [← entries, List.find?_map]
  congr 1
  exact List.find?_congr answers

/-! More fields with the same values. -/

def DubboMatch.constraints (m : DubboMatch) : List (Option String) :=
  m.parts.map fun part => part.filter fun text => text ≠ ""

/-- Each field that `narrow` constrains has the same value in `wide`, which constrains others. -/
def DubboMatch.Extends (wide narrow : DubboMatch) : Prop :=
  List.Forall₂ (fun more fewer => fewer = none ∨ more = fewer) wide.constraints
      narrow.constraints ∧
    wide.constraints ≠ narrow.constraints

theorem key_exact {m : DubboMatch} (exact : m.type = some .exact) :
    m.key = [3] :: m.constraints.map fun constraint => utf16 (constraint.getD "") := by
  have each (part : Option String) :
      utf16 ((part.filter fun text => text ≠ "").getD "") = utf16 (part.getD "") := by
    cases part with
    | none => rfl
    | some text =>
        by_cases empty : text = ""
        · subst empty
          rfl
        · simp [Option.filter, empty]
  simp only [DubboMatch.key, DubboMatch.getMatchPriority, exact, DubboMatch.constraints,
    List.map_cons, List.map_map, Rank.key, List.cons.injEq, true_and]
  apply List.map_congr_left
  intro part _
  exact (each part).symm

theorem constraint_nonempty {m : DubboMatch} {constraint : Option String}
    (member : constraint ∈ m.constraints) : constraint ≠ some "" := by
  obtain ⟨part, _, rfl⟩ := List.mem_map.mp member
  intro empty
  simpa using (Option.filter_eq_some_iff.mp empty).2

theorem lt_of_extends {wide narrow : List (Option String)}
    (nonempty : ∀ constraint ∈ wide, constraint ≠ some "")
    (extends' : List.Forall₂ (fun more fewer => fewer = none ∨ more = fewer) wide narrow)
    (different : wide ≠ narrow) :
    (narrow.map fun constraint => utf16 (constraint.getD "")) <
      wide.map fun constraint => utf16 (constraint.getD "") := by
  induction extends' with
  | nil => exact absurd rfl different
  | @cons more fewer wide narrow head tail ih =>
      rw [List.map_cons, List.map_cons, List.cons_lt_cons_iff]
      by_cases same : more = fewer
      · subst same
        refine .inr ⟨rfl, ih (fun other member => nonempty other (List.mem_cons_of_mem _ member)) ?_⟩
        rintro rfl
        exact different rfl
      · obtain rfl := head.resolve_right same
        left
        cases more with
        | none => exact absurd rfl same
        | some text =>
            cases units : utf16 text with
            | nil =>
                have empty : text = "" := utf16_injective units
                exact absurd (by rw [empty]) (nonempty _ List.mem_cons_self)
            | cons unit units' =>
                rw [Option.getD_some, units]
                exact List.nil_lt_cons _ _

theorem key_lt_of_extends {wide narrow : DubboMatch} (exactWide : wide.type = some .exact)
    (exactNarrow : narrow.type = some .exact) (extends' : wide.Extends narrow) :
    narrow.key < wide.key := by
  rw [key_exact exactWide, key_exact exactNarrow, List.cons_lt_cons_iff]
  exact .inr ⟨rfl, lt_of_extends (fun _ member => constraint_nonempty member) extends'.1
    extends'.2⟩

theorem key_lt_of_exact {m other : DubboMatch} (exact : m.type = some .exact)
    (inexact : other.type ≠ some .exact) : other.key < m.key := by
  rw [key_exact exact]
  unfold DubboMatch.key DubboMatch.getMatchPriority
  split
  · rename_i exact'
    exact absurd exact' inexact
  · exact List.cons_lt_cons_iff.mpr (.inl (by decide))
  · exact List.cons_lt_cons_iff.mpr (.inl (by decide))

/-- The match that the selector finds accepts the request, no accepting Exact match with more
constraints is passed over for it, and it is Exact if any accepting match is. -/
theorem selected_most_specific {resources : List DubboRoute} {matchers : List DubboMatcher}
    (made : RouterDubbo.makeRuleSelector engine resources = .ok matchers) (body : DubboBody)
    {one : DubboMatcher} (selected : (matchers.find? fun one => one.matchFunc body) = some one) :
    one.entry ∈ dubboEntries resources ∧ one.entry.m.accepts engine body = true ∧
      (∀ other ∈ dubboEntries resources, other.m.type = some .exact →
        other.m.accepts engine body = true → ¬ other.m.Extends one.entry.m) ∧
      (one.entry.m.type ≠ some .exact → ∀ other ∈ dubboEntries resources,
        other.m.type = some .exact → other.m.accepts engine body = false) := by
  have found := find?_selector made body
  rw [selected] at found
  obtain ⟨largest, first⟩ := (find?_sortDescending_iff _ _ _ _).mp found.symm
  have inexact : one.entry.m.type ≠ some .exact → ∀ other ∈ dubboEntries resources,
      other.m.type = some .exact → other.m.accepts engine body = false := by
    intro inexact other member exact
    by_contra accepted
    exact absurd (key_lt_of_exact exact inexact)
      (not_lt.mpr (largest other member (by simpa using accepted)))
  refine ⟨List.mem_of_find?_eq_some first, ?_, ?_, inexact⟩
  · simpa using List.find?_some first
  · intro other member exact accepted extends'
    by_cases exactOne : one.entry.m.type = some .exact
    · exact absurd (key_lt_of_extends exact exactOne extends')
        (not_lt.mpr (largest other member accepted))
    · rw [inexact exactOne other member exact] at accepted
      exact Bool.false_ne_true accepted

end Accepts

/-! A rule for every service, one for a service and one for a method of it. -/

def servicePattern : DubboMatch := ⟨some .regularExpression, some "svc", none, none, none⟩

def serviceMatch : DubboMatch := ⟨some .exact, some "svc", none, none, none⟩

def methodMatch : DubboMatch := ⟨some .exact, some "svc", none, some "m", none⟩

def layeredRoute : DubboRoute :=
  ⟨[⟨some [servicePattern, serviceMatch], []⟩, ⟨some [methodMatch], []⟩, ⟨none, []⟩]⟩

def layeredMatchers : List DubboMatcher :=
  (RouterDubbo.makeRuleSelector documentedDubbo [layeredRoute]).toOption.getD []

theorem selected_most_specific_layered :
    ∃ one, (layeredMatchers.find? fun one => one.matchFunc (dubboCall "m")) = some one ∧
      one.entry.m = methodMatch ∧
      ∀ other ∈ dubboEntries [layeredRoute], other.m.type = some .exact →
        other.m.accepts documentedDubbo (dubboCall "m") = true → ¬ other.m.Extends one.entry.m := by
  have made : RouterDubbo.makeRuleSelector documentedDubbo [layeredRoute] =
      .ok layeredMatchers := rfl
  have found : (layeredMatchers.find? fun one => one.matchFunc (dubboCall "m")).map
      (fun one => one.entry.m) = some methodMatch := by decide +kernel
  obtain ⟨one, selected, chosen⟩ := Option.map_eq_some_iff.mp found
  exact ⟨one, selected, chosen, (selected_most_specific made (dubboCall "m") selected).2.2.1⟩

end Fgw
