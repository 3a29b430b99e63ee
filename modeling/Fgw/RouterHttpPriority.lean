import Fgw.Library.PaddedNumbers
import Fgw.RouterHttpCore
import Mathlib.Data.String.Basic

/-!
The order of the matches of a rule selector against the order of their specificities as numbers.
-/

namespace Fgw

def pathSpecificity (m : RouteMatch) : Nat × Nat :=
  match m.path with
  | some ⟨some .exact, _⟩ => (3, 0)
  | some ⟨some .pathPrefix, value⟩ => (2, jsLength value)
  | some ⟨some .regularExpression, value⟩ => (1, jsLength value)
  | _ => (0, 0)

def RouteMatch.specificity (m : RouteMatch) : List Nat :=
  [(pathSpecificity m).1, (pathSpecificity m).2, m.methodKey.isSome.toNat, m.headers.length,
    m.queryParams.length]

def priorityWidths : List Nat := [1, 3, 1, 3, 3]

theorem toList_padStart (n width : Nat) : (padStart n width).toList = paddedDigits width n := by
  simp [padStart, paddedDigits, ← String.length_toList]

theorem pathRanks_eq (m : RouteMatch) :
    (pathRanks m).1.toList = paddedDigits 1 (pathSpecificity m).1 ∧
      (pathRanks m).2.toList = paddedDigits 3 (pathSpecificity m).2 := by
  have zero : "0".toList = paddedDigits 1 0 := by decide
  have zeros : "000".toList = paddedDigits 3 0 := by decide
  unfold pathRanks pathSpecificity
  rcases m.path with _ | ⟨_ | type, value⟩
  · exact ⟨zero, zeros⟩
  · exact ⟨zero, zeros⟩
  · cases type with
    | exact =>
        have three : "3".toList = paddedDigits 1 3 := by decide
        exact ⟨three, zeros⟩
    | pathPrefix =>
        have two : "2".toList = paddedDigits 1 2 := by decide
        exact ⟨two, toList_padStart _ _⟩
    | regularExpression =>
        have one : "1".toList = paddedDigits 1 1 := by decide
        exact ⟨one, toList_padStart _ _⟩
    | other text => exact ⟨zero, zeros⟩

theorem toList_getMatchPriority (m : RouteMatch) (index : Nat) :
    (getMatchPriority m index).toList =
      paddedText '/' priorityWidths m.specificity ++ paddedDigits 6 index := by
  have method : (if m.methodKey.isSome then "1" else "0" : String).toList =
      paddedDigits 1 m.methodKey.isSome.toNat := by
    cases m.methodKey.isSome
    · decide
    · decide
  obtain ⟨rank, length⟩ := pathRanks_eq m
  simp [getMatchPriority, RouteMatch.specificity, priorityWidths, paddedText, rank, length, method,
    toList_padStart]

/-- What decides between two matches of different specificity. -/
def RouteMatch.Leads (larger smaller : RouteMatch) : Prop :=
  LeadsPadded priorityWidths larger.specificity smaller.specificity

theorem priority_lt_iff {larger smaller : RouteMatch}
    (above : smaller.specificity < larger.specificity) (index other : Nat) :
    (larger.Leads smaller → getMatchPriority smaller other < getMatchPriority larger index) ∧
      (¬larger.Leads smaller → getMatchPriority larger index < getMatchPriority smaller other) := by
  rw [String.lt_iff, String.lt_iff, toList_getMatchPriority, toList_getMatchPriority]
  have belowDigits : '/'.toNat < 48 := by decide
  exact @paddedText_lt_iff '/' belowDigits priorityWidths larger.specificity smaller.specificity
    rfl rfl above _ _

/-! The sorted list. -/

theorem priority_listMatches {rules : List (Rule × BackendSelector × RouteResource)}
    {entry : Entry} (member : entry ∈ listMatches rules) :
    entry.priority = getMatchPriority entry.m entry.index := by
  obtain ⟨⟨⟨m, rule, backendSelector, resource⟩, index⟩, _, rfl⟩ := List.mem_map.mp member
  rfl

def SpecificFirst (entries : List Entry) : Prop :=
  entries.Pairwise fun first second => ¬first.m.specificity < second.m.specificity

theorem pairwise_sortMatches (entries : List Entry) :
    (sortMatches entries).Pairwise fun first second => second.priority ≤ first.priority :=
  pairwise_insertionSort_gt Entry.priority entries

theorem mem_sortMatches (entries : List Entry) (entry : Entry) :
    entry ∈ sortMatches entries ↔ entry ∈ entries :=
  (List.perm_insertionSort _ entries).mem_iff

variable {rules : List (Rule × BackendSelector × RouteResource)}

theorem leads_of_specificFirst (specific : SpecificFirst (sortMatches (listMatches rules)))
    {larger smaller : Entry} (inside : larger ∈ listMatches rules)
    (other : smaller ∈ listMatches rules) (above : smaller.m.specificity < larger.m.specificity) :
    larger.m.Leads smaller.m := by
  by_contra trails
  have order := (priority_lt_iff above larger.index smaller.index).2 trails
  rw [← priority_listMatches inside, ← priority_listMatches other] at order
  have different : larger ≠ smaller := by
    rintro rfl
    exact lt_irrefl _ order
  rcases pairwise_either (specific.and (pairwise_sortMatches _)) ((mem_sortMatches _ _).mpr inside)
    ((mem_sortMatches _ _).mpr other) different with ⟨_, before⟩ | ⟨below, _⟩
  · exact absurd order (not_lt.mpr before)
  · exact below above

theorem specificFirst_of_leads (leads : ∀ larger ∈ listMatches rules,
    ∀ smaller ∈ listMatches rules, smaller.m.specificity < larger.m.specificity →
      larger.m.Leads smaller.m) : SpecificFirst (sortMatches (listMatches rules)) := by
  refine (pairwise_sortMatches (listMatches rules)).imp_of_mem ?_
  intro first second firstInside secondInside before above
  have inside := (mem_sortMatches _ _).mp firstInside
  have other := (mem_sortMatches _ _).mp secondInside
  have order := (priority_lt_iff above second.index first.index).1
    (leads second other first inside above)
  rw [← priority_listMatches inside, ← priority_listMatches other] at order
  exact absurd order (not_lt.mpr before)

/-- The sorted order respects specificity exactly if, among all matches, the larger of two
specificities leads in its padded form. -/
theorem specificFirst_sortMatches_iff (rules : List (Rule × BackendSelector × RouteResource)) :
    SpecificFirst (sortMatches (listMatches rules)) ↔
      ∀ larger ∈ listMatches rules, ∀ smaller ∈ listMatches rules,
        smaller.m.specificity < larger.m.specificity → larger.m.Leads smaller.m := by
  constructor
  · intro specific larger inside smaller other above
    exact leads_of_specificFirst specific inside other above
  · exact specificFirst_of_leads

/-! Two prefixes whose lengths differ by one. -/

def prefixMatch (length : Nat) : RouteMatch :=
  ⟨some ⟨some .pathPrefix, String.ofList (List.replicate length 'a')⟩, none, [], []⟩

def prefixRule (length : Nat) : Rule := ⟨some [prefixMatch length], .undefined⟩

def prefixResource (length : Nat) : RouteResource := ⟨"HTTPRoute", none, [prefixRule length]⟩

def prefixEntry (length index : Nat) : Entry :=
  ⟨prefixMatch length, ⟨index, prefixRule length, false⟩, prefixResource length,
    prefixRule length, index, getMatchPriority (prefixMatch length) index⟩

def prefixRules (long short : Nat) : List (Rule × BackendSelector × RouteResource) :=
  [(prefixRule long, ⟨0, prefixRule long, false⟩, prefixResource long),
    (prefixRule short, ⟨1, prefixRule short, false⟩, prefixResource short)]

theorem listMatches_prefixRules (long short : Nat) :
    listMatches (prefixRules long short) = [prefixEntry long 0, prefixEntry short 1] := rfl

theorem specificity_prefixMatch (length : Nat) :
    (prefixMatch length).specificity = [2, length, 0, 0, 0] := by
  simp [prefixMatch, RouteMatch.specificity, pathSpecificity, jsLength, RouteMatch.methodKey]

theorem leads_prefixRules {long short : Nat} (shorter : short < long)
    (specific : SpecificFirst (sortMatches (listMatches (prefixRules long short)))) :
    LeadsPadded priorityWidths [2, long, 0, 0, 0] [2, short, 0, 0, 0] := by
  have above : (prefixMatch short).specificity < (prefixMatch long).specificity := by
    rw [specificity_prefixMatch, specificity_prefixMatch]
    exact List.cons_lt_cons_iff.mpr (Or.inr ⟨rfl, List.cons_lt_cons_iff.mpr (Or.inl shorter)⟩)
  have leads : (prefixMatch long).Leads (prefixMatch short) := by
    refine @leads_of_specificFirst _ specific (prefixEntry long 0) (prefixEntry short 1) ?_ ?_ above
    · rw [listMatches_prefixRules]
      exact List.mem_cons_self
    · rw [listMatches_prefixRules]
      exact List.mem_cons_of_mem _ List.mem_cons_self
  rw [RouteMatch.Leads, specificity_prefixMatch, specificity_prefixMatch] at leads
  exact leads

theorem longPrefix_misplaced :
    ¬ ∀ rules : List (Rule × BackendSelector × RouteResource),
      SpecificFirst (sortMatches (listMatches rules)) := by
  intro claimed
  have shorter : 999 < 1000 := by decide
  have leads := leads_prefixRules shorter (claimed (prefixRules 1000 999))
  exact absurd leads (by decide +kernel)

end Fgw
