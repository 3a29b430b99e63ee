import Fgw.RouterHosts

/-!
The filter that answers DNS queries for configured domains, and forwards the rest.
-/

namespace Fgw

structure DnsDomain (Answer : Type) where
  name : String
  answer : Answer

section Answers

variable {Answer : Type}

/-- `hostnames` and `prefixes` as they are filled. -/
def registerDomain (kept : Table Answer × List (String × Answer)) (ent : DnsDomain Answer) :
    Table Answer × List (String × Answer) :=
  match ent.name.toList with
  | '*' :: rest => (kept.1, kept.2 ++ [(String.ofList rest, ent.answer)])
  | _ => (kept.1.set ent.name ent.answer, kept.2)

def dnsHosts (domains : List (DnsDomain Answer)) : Hosts Answer :=
  let kept := domains.foldl registerDomain (Table.empty, [])
  ⟨kept.1.entries, kept.2⟩

/-- The answer of a domain is a list of records, which is never falsy. -/
def findAnswer (domains : List (DnsDomain Answer)) (name : String) : Option Answer :=
  (dnsHosts domains).find? name

inductive DnsBranch
  | reply
  | forward
  deriving DecidableEq

/-- The branch for a query, whose question may have no name. -/
def dnsModifier (domains : List (DnsDomain Answer)) (name : Option String) : DnsBranch :=
  match (name.filter fun name => name ≠ "").bind (findAnswer domains) with
  | some _ => .reply
  | none => .forward

/-! What the domains ask for. -/

variable (lowerCase : String → String)

def Configures (domains : List (DnsDomain Answer)) (pattern : HostPattern) : Prop :=
  ∃ ent ∈ domains, namePattern lowerCase ent.name = pattern

/-- The answer is that of an entry for the most specific pattern. -/
def BestAnswer (domains : List (DnsDomain Answer)) (name : String) (answer : Answer) : Prop :=
  ∃ pattern, MostSpecific (Configures lowerCase domains) (lowerCase name) pattern ∧
    ∃ ent ∈ domains, namePattern lowerCase ent.name = pattern ∧ ent.answer = answer

/-- A name is answered by an entry for its most specific pattern, and by none if no pattern
fits.  Names are compared in lower case. -/
structure AnswersBest (domains : List (DnsDomain Answer)) (name : String) : Prop where
  some : ∀ pattern, MostSpecific (Configures lowerCase domains) (lowerCase name) pattern →
    ∃ ent ∈ domains, namePattern lowerCase ent.name = pattern ∧
      findAnswer domains name = some ent.answer
  none : (∀ pattern, ¬ MostSpecific (Configures lowerCase domains) (lowerCase name) pattern) →
    findAnswer domains name = none

/-- The names of the domains as they are written, with their answers. -/
def domainPatterns (domains : List (DnsDomain Answer)) : List (HostPattern × Answer) :=
  domains.map fun ent => (hostPattern ent.name, ent.answer)

/-- The name is configured as it is spelled. -/
def SpelledOut (domains : List (DnsDomain Answer)) (name : String) : Prop :=
  ∃ ent ∈ domains, hostPattern ent.name = .exact name

/-- Each wildcard that fits the name as both are spelled stands after one with a best answer that
fits, or has a best answer itself, and one that fits exists if there is a best answer. -/
structure BestFirst (domains : List (DnsDomain Answer)) (name : String) : Prop where
  first : ∀ before wildcard after,
    wildcardsOf (domainPatterns domains) = before ++ wildcard :: after →
      hasEnding name wildcard.1 = true →
        ∃ better ∈ before ++ [wildcard], hasEnding name better.1 = true ∧
          BestAnswer lowerCase domains name better.2
  fits : (∃ pattern, MostSpecific (Configures lowerCase domains) (lowerCase name) pattern) →
    ∃ wildcard ∈ wildcardsOf (domainPatterns domains), hasEnding name wildcard.1 = true

theorem foldl_registerDomain (domains : List (DnsDomain Answer))
    (kept : Table Answer × List (String × Answer)) :
    domains.foldl registerDomain kept = (domainPatterns domains).foldl keepUnder kept := by
  have each (kept : Table Answer × List (String × Answer)) (ent : DnsDomain Answer) :
      registerDomain kept ent = keepUnder kept (hostPattern ent.name, ent.answer) := by
    unfold registerDomain
    rcases hostPattern_cases ent.name with ⟨rest, spelled, same⟩ | ⟨plain, same⟩
    · rw [same, spelled]
      rfl
    · rw [same]
      split
      · rename_i rest spelled
        exact absurd spelled (plain rest)
      · rfl
  rw [domainPatterns, List.foldl_map]
  congr 1
  funext kept ent
  exact each kept ent

theorem mem_domainPatterns {domains : List (DnsDomain Answer)} {pattern : HostPattern}
    {answer : Answer} : (pattern, answer) ∈ domainPatterns domains ↔
      ∃ ent ∈ domains, hostPattern ent.name = pattern ∧ ent.answer = answer := by
  simp only [domainPatterns, List.mem_map, Prod.mk.injEq]

theorem namePattern_of_exact {n name : String} (spelled : hostPattern n = .exact name) :
    namePattern lowerCase n = .exact (lowerCase name) := by
  rcases hostPattern_cases n with ⟨rest, _, same⟩ | ⟨plain, same⟩
  · rw [same] at spelled
    cases spelled
  · rw [same] at spelled
    cases spelled
    rcases namePattern_cases lowerCase n with ⟨rest, star, _⟩ | ⟨_, lowered⟩
    · exact absurd star (plain rest)
    · exact lowered

variable {lowerCase}

theorem answersBest_of_spelledOut {domains : List (DnsDomain Answer)} {name : String}
    (spelled : SpelledOut domains name) : AnswersBest lowerCase domains name := by
  obtain ⟨ent, member, written⟩ := spelled
  obtain ⟨answer, own, found⟩ := @find?_keepUnder_listed _ (domainPatterns domains) name
    ⟨ent.answer, mem_domainPatterns.mpr ⟨ent, member, written, rfl⟩⟩
  rw [← foldl_registerDomain] at found
  obtain ⟨other, inside, exact, same⟩ := mem_domainPatterns.mp own
  have best : MostSpecific (Configures lowerCase domains) (lowerCase name)
      (.exact (lowerCase name)) :=
    ⟨rfl, other, inside, namePattern_of_exact lowerCase exact⟩
  constructor
  · intro pattern specific
    obtain rfl := mostSpecific_unique specific best
    exact ⟨other, inside, namePattern_of_exact lowerCase exact, by rw [same]; exact found⟩
  · intro nothing
    exact absurd best (nothing _)

theorem findAnswer_unspelled {domains : List (DnsDomain Answer)} {name : String}
    (unspelled : ¬ SpelledOut domains name) :
    findAnswer domains name =
      ((wildcardsOf (domainPatterns domains)).find? fun wildcard =>
        hasEnding name wildcard.1).map Prod.snd := by
  have found := @find?_keepUnder_unlisted _ (domainPatterns domains) name
    fun answer member => by
      obtain ⟨ent, inside, written, _⟩ := mem_domainPatterns.mp member
      exact unspelled ⟨ent, inside, written⟩
  rw [← foldl_registerDomain] at found
  exact found

theorem findAnswer_isSome {domains : List (DnsDomain Answer)} {name : String} :
    (findAnswer domains name).isSome ↔ SpelledOut domains name ∨
      ∃ wildcard ∈ wildcardsOf (domainPatterns domains), hasEnding name wildcard.1 = true := by
  by_cases spelled : SpelledOut domains name
  · obtain ⟨ent, member, written⟩ := spelled
    obtain ⟨answer, _, found⟩ := @find?_keepUnder_listed _ (domainPatterns domains) name
      ⟨ent.answer, mem_domainPatterns.mpr ⟨ent, member, written, rfl⟩⟩
    rw [← foldl_registerDomain] at found
    exact iff_of_true (Option.isSome_of_eq_some found) (.inl ⟨ent, member, written⟩)
  · rw [findAnswer_unspelled spelled, or_iff_right spelled, Option.isSome_map, List.find?_isSome]

/-- A query is answered here exactly if its question has a name that an entry fits as both are
spelled, and forwarded otherwise. -/
theorem dnsModifier_eq_reply {domains : List (DnsDomain Answer)} {question : Option String} :
    dnsModifier domains question = .reply ↔
      ∃ name, question = some name ∧ name ≠ "" ∧ (SpelledOut domains name ∨
        ∃ wildcard ∈ wildcardsOf (domainPatterns domains), hasEnding name wildcard.1 = true) := by
  have branch (found : Option Answer) :
      (match found with | some _ => DnsBranch.reply | none => .forward) = .reply ↔
        found.isSome := by
    cases found with
    | none => simp
    | some answer => simp
  rw [dnsModifier, branch]
  cases question with
  | none => simp
  | some name =>
      by_cases empty : name = ""
      · simp [Option.filter, empty]
      · simp [Option.filter, empty, findAnswer_isSome]

theorem answersBest_iff_bestFirst {domains : List (DnsDomain Answer)} {name : String}
    (unspelled : ¬ SpelledOut domains name) :
    AnswersBest lowerCase domains name ↔ BestFirst lowerCase domains name := by
  have answered := findAnswer_unspelled unspelled
  constructor
  · intro answers
    constructor
    · refine find?_good_iff.mp ?_
      intro first found
      rw [found, Option.map_some] at answered
      by_cases some : ∃ pattern,
          MostSpecific (Configures lowerCase domains) (lowerCase name) pattern
      · obtain ⟨pattern, specific⟩ := some
        obtain ⟨ent, member, listed, same⟩ := answers.some pattern specific
        rw [answered, Option.some.injEq] at same
        exact ⟨pattern, specific, ent, member, listed, same.symm⟩
      · have none := answers.none fun pattern specific => some ⟨pattern, specific⟩
        rw [answered] at none
        cases none
    · rintro ⟨pattern, specific⟩
      obtain ⟨ent, _, _, same⟩ := answers.some pattern specific
      cases found : (wildcardsOf (domainPatterns domains)).find? fun wildcard =>
          hasEnding name wildcard.1 with
      | some wildcard =>
          have fits := List.find?_some found
          exact ⟨wildcard, List.mem_of_find?_eq_some found, fits⟩
      | none =>
          rw [answered, found] at same
          cases same
  · intro ordered
    have best := find?_good_iff.mpr ordered.first
    have searched {wildcard : String × Answer}
        (member : wildcard ∈ wildcardsOf (domainPatterns domains))
        (fits : hasEnding name wildcard.1 = true) :
        ∃ first, ((wildcardsOf (domainPatterns domains)).find? fun wildcard =>
          hasEnding name wildcard.1) = some first :=
      Option.isSome_iff_exists.mp (List.find?_isSome.mpr ⟨wildcard, member, fits⟩)
    constructor
    · intro pattern specific
      obtain ⟨wildcard, member, fits⟩ := ordered.fits ⟨pattern, specific⟩
      obtain ⟨first, found⟩ := searched member fits
      obtain ⟨other, chosen, ent, inside, listed, same⟩ := best first found
      obtain rfl := mostSpecific_unique chosen specific
      rw [answered, found, Option.map_some]
      exact ⟨ent, inside, listed, by rw [same]⟩
    · intro nothing
      rw [answered, Option.map_eq_none_iff, List.find?_eq_none]
      intro wildcard member fits
      obtain ⟨first, found⟩ := searched member fits
      obtain ⟨pattern, specific, _⟩ := best first found
      exact nothing pattern specific

/-- A name is answered by its most specific entry exactly if it is configured as it is spelled,
or the first wildcard that fits as it is spelled has a best answer. -/
theorem answersBest_iff (lowerCase : String → String) (domains : List (DnsDomain Answer))
    (name : String) :
    AnswersBest lowerCase domains name ↔
      SpelledOut domains name ∨ BestFirst lowerCase domains name := by
  by_cases spelled : SpelledOut domains name
  · exact iff_of_true (answersBest_of_spelledOut spelled) (.inl spelled)
  · rw [or_iff_right spelled]
    exact answersBest_iff_bestFirst spelled

end Answers

/-! Two domains with overlapping wildcards. -/

def wideDomain : DnsDomain String := ⟨"*.com", "0.0.0.0"⟩

def narrowDomain : DnsDomain String := ⟨"*.example.com", "1.2.3.4"⟩

theorem configures_overlapping (pattern : HostPattern) :
    Configures documentedEngine.lowerCase [wideDomain, narrowDomain] pattern ↔
      pattern = .wildcard ".com" ∨ pattern = .wildcard ".example.com" := by
  have first : namePattern documentedEngine.lowerCase "*.com" = .wildcard ".com" := by
    decide +kernel
  have second : namePattern documentedEngine.lowerCase "*.example.com" =
      .wildcard ".example.com" := by decide +kernel
  simp [Configures, wideDomain, narrowDomain, first, second, eq_comm (b := pattern)]

theorem wideDomain_answers :
    ¬ ∀ (domains : List (DnsDomain String)) (name : String),
      AnswersBest documentedEngine.lowerCase domains name := by
  intro claimed
  have best : MostSpecific (Configures documentedEngine.lowerCase [wideDomain, narrowDomain])
      (documentedEngine.lowerCase "www.example.com") (.wildcard ".example.com") := by
    simp only [MostSpecific, configures_overlapping]
    refine ⟨.inr trivial, by decide +kernel, ?_, ?_⟩
    · rintro (same | same)
      · cases same
      · cases same
    · rintro other (same | same) _
      · cases same
        decide +kernel
      · cases same
        exact Nat.le_refl _
  obtain ⟨ent, member, listed, found⟩ :=
    (claimed [wideDomain, narrowDomain] "www.example.com").some _ best
  have answered : findAnswer [wideDomain, narrowDomain] "www.example.com" = some "0.0.0.0" := by
    decide +kernel
  rw [answered, Option.some.injEq] at found
  rcases List.mem_pair.mp member with rfl | rfl
  · exact absurd listed (by decide +kernel)
  · exact absurd found (by decide +kernel)

end Fgw
