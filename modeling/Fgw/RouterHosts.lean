import Fgw.Library.SortedSearch
import Fgw.RouterHttpContext

/-!
Host names and wildcards as patterns, and the pattern that decides for a host: its own name, or
else the wildcard with the longest ending.
-/

namespace Fgw

inductive HostPattern
  | exact (name : String)
  | wildcard (ending : String)
  deriving DecidableEq

def hostPattern (name : String) : HostPattern :=
  match name.toList with
  | '*' :: ending => .wildcard (String.ofList ending)
  | _ => .exact name

def namePattern (lowerCase : String → String) (n : String) : HostPattern :=
  match n.toList with
  | '*' :: rest => .wildcard (lowerCase (String.ofList rest))
  | _ => .exact (lowerCase n)

theorem hostPattern_cases (name : String) :
    (∃ ending, name.toList = '*' :: ending ∧
        hostPattern name = .wildcard (String.ofList ending)) ∨
      (∀ ending, name.toList ≠ '*' :: ending) ∧ hostPattern name = .exact name := by
  unfold hostPattern
  split
  · rename_i ending spelled
    exact Or.inl ⟨ending, spelled, rfl⟩
  · rename_i other
    exact Or.inr ⟨other, rfl⟩

theorem namePattern_cases (lowerCase : String → String) (n : String) :
    (∃ rest, n.toList = '*' :: rest ∧
        namePattern lowerCase n = .wildcard (lowerCase (String.ofList rest))) ∨
      (∀ rest, n.toList ≠ '*' :: rest) ∧ namePattern lowerCase n = .exact (lowerCase n) := by
  unfold namePattern
  split
  · rename_i rest spelled
    exact .inl ⟨rest, spelled, rfl⟩
  · rename_i other
    exact .inr ⟨other, rfl⟩

/-- `name.endsWith(ending)` -/
def hasEnding (name ending : String) : Bool := ending.toList.isSuffixOf name.toList

/-- The declared pattern that decides for a name. -/
def MostSpecific (declared : HostPattern → Prop) (name : String) : HostPattern → Prop
  | .exact own => own = name ∧ declared (.exact name)
  | .wildcard ending => declared (.wildcard ending) ∧ hasEnding name ending = true ∧
      ¬ declared (.exact name) ∧ ∀ other, declared (.wildcard other) →
        hasEnding name other = true → jsLength other ≤ jsLength ending

theorem jsLength_eq_zero {text : List Char}
    (empty : (text.map fun c => if c.toNat < 0x10000 then 1 else 2).sum = 0) : text = [] := by
  cases text with
  | nil => rfl
  | cons c rest =>
      rw [List.map_cons, List.sum_cons] at empty
      split at empty <;> omega

theorem ending_unique {name first second : String} (left : hasEnding name first = true)
    (right : hasEnding name second = true) (same : jsLength first = jsLength second) :
    first = second := by
  have within {longer shorter : String} (suffix : shorter.toList <:+ longer.toList)
      (same : jsLength longer = jsLength shorter) : longer = shorter := by
    obtain ⟨more, split⟩ := suffix
    unfold jsLength at same
    rw [← split, List.map_append, List.sum_append] at same
    have none : more = [] := jsLength_eq_zero (by omega)
    rw [none, List.nil_append] at split
    exact String.toList_inj.mp split.symm
  rw [hasEnding, List.isSuffixOf_iff_suffix] at left right
  rcases List.suffix_or_suffix_of_suffix left right with shorter | shorter
  · exact (within shorter same.symm).symm
  · exact within shorter same

theorem mostSpecific_unique {declared : HostPattern → Prop} {name : String}
    {first second : HostPattern} (left : MostSpecific declared name first)
    (right : MostSpecific declared name second) : first = second := by
  cases first with
  | exact own =>
      cases second with
      | exact other => rw [left.1, right.1]
      | wildcard ending => exact absurd left.2 right.2.2.1
  | wildcard ending =>
      cases second with
      | exact other => exact absurd right.2 left.2.2.1
      | wildcard other =>
          have below := left.2.2.2 other right.1 right.2.1
          have above := right.2.2.2 ending left.1 left.2.1
          rw [ending_unique left.2.1 right.2.1 (Nat.le_antisymm above below)]

/-- What is kept under a pattern. -/
def Hosts.Holds {α : Type} (hosts : Hosts α) : HostPattern → α → Prop
  | .exact name, value => (name, value) ∈ hosts.fullnames
  | .wildcard ending, value => (ending, value) ∈ hosts.endings

/-- The endings are tried from the longest to the shortest. -/
def Hosts.Sorted {α : Type} (hosts : Hosts α) : Prop :=
  hosts.endings.Pairwise fun first second => jsLength second.1 ≤ jsLength first.1

/-- A lookup finds what is kept under the most specific pattern, and nothing without one. -/
theorem Hosts.find?_cases {α : Type} {hosts : Hosts α} {declared : HostPattern → Prop}
    (kept : ∀ pattern, (∃ value, hosts.Holds pattern value) ↔ declared pattern)
    (sorted : hosts.Sorted) (name : String) :
    (hosts.find? name = none ∧ ∀ pattern, ¬ MostSpecific declared name pattern) ∨
      ∃ pattern value, hosts.find? name = some value ∧ MostSpecific declared name pattern ∧
        hosts.Holds pattern value := by
  unfold Hosts.find?
  cases full : hosts.fullnames.find? fun entry => entry.1 = name with
  | some entry =>
      have same : entry.1 = name := by simpa using List.find?_some full
      have holds : hosts.Holds (.exact name) entry.2 := same ▸ List.mem_of_find?_eq_some full
      exact .inr ⟨.exact name, entry.2, rfl, ⟨rfl, (kept _).mp ⟨_, holds⟩⟩, holds⟩
  | none =>
      have undeclared : ¬ declared (.exact name) := by
        intro declared
        obtain ⟨value, member⟩ := (kept _).mpr declared
        exact List.find?_eq_none.mp full _ member (decide_eq_true rfl)
      rw [Option.none_or]
      cases ending : hosts.endings.find? fun entry => entry.1.toList.isSuffixOf name.toList with
      | some entry =>
          have found : hosts.endings.find? (fun entry => hasEnding name entry.1) = some entry :=
            ending
          have member := List.mem_of_find?_eq_some ending
          have holds : hosts.Holds (.wildcard entry.1) entry.2 := member
          have fits := List.find?_some found
          refine .inr ⟨.wildcard entry.1, entry.2, rfl,
            ⟨(kept _).mp ⟨_, holds⟩, fits, undeclared, ?_⟩, holds⟩
          intro other otherDeclared ends
          obtain ⟨value, otherMember⟩ := (kept _).mpr otherDeclared
          rcases eq_or_rel_of_find? sorted found otherMember ends with same | below
          · rw [← same]
          · exact below
      | none =>
          refine .inl ⟨rfl, ?_⟩
          rintro (own | ending') specific
          · exact undeclared specific.2
          · obtain ⟨value, member⟩ := (kept _).mpr specific.1
            have refused := List.find?_eq_none.mp ending _ member
            exact refused specific.2.1

/-! Tables in which a name replaces the one before it and wildcards are listed as they come. -/

section Keeping

variable {α : Type}

def keepUnder (kept : Table α × List (String × α)) (item : HostPattern × α) :
    Table α × List (String × α) :=
  match item.1 with
  | .exact name => (kept.1.set name item.2, kept.2)
  | .wildcard ending => (kept.1, kept.2 ++ [(ending, item.2)])

def HostPattern.ending? : HostPattern → Option String
  | .exact _ => none
  | .wildcard ending => some ending

/-- The wildcards of a list in its order. -/
def wildcardsOf (items : List (HostPattern × α)) : List (String × α) :=
  items.filterMap fun item => item.1.ending?.map fun ending => (ending, item.2)

theorem mem_wildcardsOf {items : List (HostPattern × α)} {ending : String} {value : α} :
    (ending, value) ∈ wildcardsOf items ↔ (.wildcard ending, value) ∈ items := by
  rw [wildcardsOf, List.mem_filterMap]
  constructor
  · rintro ⟨⟨name | other, own⟩, member, same⟩
    · cases same
    · cases same
      exact member
  · intro member
    exact ⟨_, member, rfl⟩

theorem foldl_keepUnder (items : List (HostPattern × α)) (kept : Table α × List (String × α)) :
    (items.foldl keepUnder kept).2 = kept.2 ++ wildcardsOf items ∧
      ∀ name, ((items.foldl keepUnder kept).1.get? name = kept.1.get? name ∧
          ∀ value, (HostPattern.exact name, value) ∉ items) ∨
        ∃ value, (items.foldl keepUnder kept).1.get? name = some value ∧
          (HostPattern.exact name, value) ∈ items := by
  induction items using List.reverseRecOn with
  | nil => exact ⟨(List.append_nil _).symm, fun name => .inl ⟨rfl, fun _ => List.not_mem_nil⟩⟩
  | append_singleton items item ih =>
      obtain ⟨pattern, value⟩ := item
      rw [List.foldl_append, List.foldl_cons, List.foldl_nil]
      have later {name : String} {found : α} (member : (HostPattern.exact name, found) ∈ items) :
          (HostPattern.exact name, found) ∈ items ++ [(pattern, value)] :=
        List.mem_append_left _ member
      cases pattern with
      | wildcard ending =>
          refine ⟨?_, fun name => ?_⟩
          · simp only [keepUnder, ih.1, wildcardsOf, List.filterMap_append, List.append_assoc]
            rfl
          · rcases ih.2 name with ⟨same, absent⟩ | ⟨found, got, member⟩
            · exact .inl ⟨same, fun other => by simpa using absent other⟩
            · exact .inr ⟨found, got, later member⟩
      | exact own =>
          refine ⟨?_, fun name => ?_⟩
          · simp [keepUnder, ih.1, wildcardsOf, HostPattern.ending?]
          · by_cases same : own = name
            · subst same
              exact .inr ⟨value, Table.get?_set_self _ _ _, by simp⟩
            · have kept := Table.get?_set_ne (items.foldl keepUnder kept).1 value same
              rcases ih.2 name with ⟨before, absent⟩ | ⟨found, got, member⟩
              · refine .inl ⟨kept.trans before, fun other => ?_⟩
                simpa [Ne.symm same] using absent other
              · exact .inr ⟨found, kept.trans got, later member⟩

/-- What is kept after all items: under each pattern of the list, one of its values. -/
theorem holds_keepUnder (items : List (HostPattern × α)) :
    let kept := items.foldl keepUnder (Table.empty, [])
    (∀ pattern value, Hosts.Holds ⟨kept.1.entries, kept.2⟩ pattern value →
        (pattern, value) ∈ items) ∧
      ∀ pattern, (∃ value, Hosts.Holds ⟨kept.1.entries, kept.2⟩ pattern value) ↔
        ∃ value, (pattern, value) ∈ items := by
  obtain ⟨endings, names⟩ := foldl_keepUnder items (Table.empty, [])
  have wildcard (ending : String) (value : α) :
      Hosts.Holds ⟨(items.foldl keepUnder (Table.empty, [])).1.entries,
        (items.foldl keepUnder (Table.empty, [])).2⟩ (.wildcard ending) value ↔
          (.wildcard ending, value) ∈ items := by
    rw [Hosts.Holds, endings, List.nil_append, mem_wildcardsOf]
  have exact (name : String) (value : α) :
      Hosts.Holds ⟨(items.foldl keepUnder (Table.empty, [])).1.entries,
        (items.foldl keepUnder (Table.empty, [])).2⟩ (.exact name) value ↔
          (items.foldl keepUnder (Table.empty, [])).1.get? name = some value :=
    (Table.get?_eq_some _ name value).symm
  have own : ∀ pattern value, Hosts.Holds ⟨(items.foldl keepUnder (Table.empty, [])).1.entries,
      (items.foldl keepUnder (Table.empty, [])).2⟩ pattern value → (pattern, value) ∈ items := by
    rintro (name | ending) value holds
    · rw [exact] at holds
      rcases names name with ⟨absent, _⟩ | ⟨found, got, member⟩
      · rw [absent] at holds
        cases holds
      · rw [got] at holds
        cases holds
        exact member
    · exact (wildcard ending value).mp holds
  refine ⟨own, fun pattern => ⟨fun ⟨value, holds⟩ => ⟨value, own pattern value holds⟩, ?_⟩⟩
  rintro ⟨value, member⟩
  cases pattern with
  | wildcard ending => exact ⟨value, (wildcard ending value).mpr member⟩
  | exact name =>
      rcases names name with ⟨_, absent⟩ | ⟨found, got, _⟩
      · exact absurd member (absent value)
      · exact ⟨found, (exact name found).mpr got⟩

theorem find?_keepUnder_listed {items : List (HostPattern × α)} {name : String}
    (listed : ∃ value, (HostPattern.exact name, value) ∈ items) :
    let kept := items.foldl keepUnder (Table.empty, [])
    ∃ value, (HostPattern.exact name, value) ∈ items ∧
      Hosts.find? ⟨kept.1.entries, kept.2⟩ name = some value := by
  intro kept
  obtain ⟨own, present⟩ := holds_keepUnder items
  obtain ⟨value, holds⟩ := (present _).mpr listed
  cases found : kept.1.entries.find? fun entry => entry.1 = name with
  | none => exact absurd (decide_eq_true rfl) (List.find?_eq_none.mp found _ holds)
  | some entry =>
      have same : entry.1 = name := by simpa using List.find?_some found
      have member := own (.exact entry.1) entry.2 (List.mem_of_find?_eq_some found)
      rw [same] at member
      refine ⟨entry.2, member, ?_⟩
      rw [Hosts.find?, found]
      rfl

theorem find?_keepUnder_unlisted {items : List (HostPattern × α)} {name : String}
    (unlisted : ∀ value, (HostPattern.exact name, value) ∉ items) :
    let kept := items.foldl keepUnder (Table.empty, [])
    Hosts.find? ⟨kept.1.entries, kept.2⟩ name =
      ((wildcardsOf items).find? fun wildcard => hasEnding name wildcard.1).map Prod.snd := by
  intro kept
  obtain ⟨own, _⟩ := holds_keepUnder items
  have absent : (kept.1.entries.find? fun entry => entry.1 = name) = none := by
    rw [List.find?_eq_none]
    intro entry member matched
    have listed := own (.exact entry.1) entry.2 member
    rw [of_decide_eq_true matched] at listed
    exact unlisted entry.2 listed
  have endings : kept.2 = wildcardsOf items := (foldl_keepUnder items (Table.empty, [])).1
  rw [Hosts.find?, absent, Option.none_or, endings]
  rfl

end Keeping

/-! The groups of the HTTP router. -/

section Groups

variable (engine : HttpEngine)

/-- The pattern of a hostname as it is written in a route. -/
def writtenPattern (hostname : String) : HostPattern :=
  hostPattern (engine.lowerCase (trimText hostname))

def RouteResource.Declares (resource : RouteResource) (pattern : HostPattern) : Prop :=
  ∃ hostname ∈ resource.hostnames.getD ["*"], writtenPattern engine hostname = pattern

def routesUnder (hosts : List (String × RouteResource)) (pattern : HostPattern) :
    List RouteResource :=
  (hosts.filter fun host => writtenPattern engine host.1 = pattern).map Prod.snd

theorem mem_routesUnder {resources : List RouteResource} {pattern : HostPattern}
    {resource : RouteResource} : resource ∈ routesUnder engine (listHosts resources) pattern ↔
      resource ∈ resources ∧ resource.Declares engine pattern := by
  simp only [routesUnder, listHosts, List.mem_map, List.mem_filter, List.mem_flatMap,
    decide_eq_true_eq]
  constructor
  · rintro ⟨host, ⟨⟨own, member, hostname, written, rfl⟩, under⟩, rfl⟩
    exact ⟨member, hostname, written, under⟩
  · rintro ⟨member, hostname, written, under⟩
    exact ⟨(hostname, resource), ⟨⟨resource, member, hostname, written, rfl⟩, under⟩, rfl⟩

theorem addHost_eq (groups : Table (List RouteResource) × Table (List RouteResource))
    (host : String × RouteResource) :
    addHost engine groups host =
      match writtenPattern engine host.1 with
      | .exact name => (pushHost groups.1 name host.2, groups.2)
      | .wildcard ending => (groups.1, pushHost groups.2 ending host.2) := by
  unfold addHost writtenPattern
  rcases hostPattern_cases (engine.lowerCase (trimText host.1)) with
    ⟨ending, spelled, pattern⟩ | ⟨other, pattern⟩
  · simp only [spelled, pattern]
  · rw [pattern]
    dsimp only
    split
    · rename_i spelled
      exact absurd spelled (other _)
    · rfl

theorem get?_pushHost (lists : Table (List RouteResource)) (key other : String)
    (resource : RouteResource) :
    (pushHost lists key resource).get? other =
      if key = other then some ((lists.get? key).getD [] ++ [resource]) else lists.get? other :=
  Table.get?_set lists key other _

theorem routesUnder_concat (hosts : List (String × RouteResource))
    (host : String × RouteResource) (pattern : HostPattern) :
    routesUnder engine (hosts ++ [host]) pattern =
      if writtenPattern engine host.1 = pattern then routesUnder engine hosts pattern ++ [host.2]
      else routesUnder engine hosts pattern := by
  unfold routesUnder
  by_cases under : writtenPattern engine host.1 = pattern <;> simp [List.filter_append, under]

theorem get?_addHosts (hosts : List (String × RouteResource)) (key : String) :
    (hosts.foldl (addHost engine) (Table.empty, Table.empty)).1.get? key =
        nonEmpty (routesUnder engine hosts (.exact key)) ∧
      (hosts.foldl (addHost engine) (Table.empty, Table.empty)).2.get? key =
        nonEmpty (routesUnder engine hosts (.wildcard key)) := by
  induction hosts using List.reverseRecOn with
  | nil => exact ⟨rfl, rfl⟩
  | append_singleton hosts host ih =>
      rw [List.foldl_append, List.foldl_cons, List.foldl_nil, addHost_eq, routesUnder_concat,
        routesUnder_concat]
      cases written : writtenPattern engine host.1 with
      | exact name =>
          refine ⟨?_, by simpa using ih.2⟩
          rw [get?_pushHost]
          by_cases same : name = key
          · subst same
            rw [if_pos rfl, if_pos rfl, ih.1, getD_nonEmpty, nonEmpty_append_singleton]
          · simpa [same] using ih.1
      | wildcard ending =>
          refine ⟨by simpa using ih.1, ?_⟩
          rw [get?_pushHost]
          by_cases same : ending = key
          · subst same
            rw [if_pos rfl, if_pos rfl, ih.2, getD_nonEmpty, nonEmpty_append_singleton]
          · simpa [same] using ih.2

theorem nonEmpty_eq_some {α : Type} {items found : List α} :
    nonEmpty items = some found ↔ found = items ∧ items ≠ [] := by
  cases items with
  | nil => simp [nonEmpty]
  | cons item rest => simp [nonEmpty, eq_comm]

/-- The groups hold, under each declared pattern, the routes that declare it. -/
theorem holds_hostGroups (resources : List RouteResource) (pattern : HostPattern)
    (group : List RouteResource) : (hostGroups engine resources).Holds pattern group ↔
      group = routesUnder engine (listHosts resources) pattern ∧ group ≠ [] := by
  have kept := get?_addHosts engine (listHosts resources)
  cases pattern with
  | exact name =>
      have member := Table.get?_eq_some
        ((listHosts resources).foldl (addHost engine) (Table.empty, Table.empty)).1 name group
      rw [(kept name).1, nonEmpty_eq_some] at member
      refine member.symm.trans ?_
      constructor
      · rintro ⟨rfl, nonempty⟩
        exact ⟨rfl, nonempty⟩
      · rintro ⟨rfl, nonempty⟩
        exact ⟨rfl, nonempty⟩
  | wildcard ending =>
      have member := Table.get?_eq_some
        ((listHosts resources).foldl (addHost engine) (Table.empty, Table.empty)).2 ending group
      rw [(kept ending).2, nonEmpty_eq_some] at member
      have sorted : (hostGroups engine resources).Holds (.wildcard ending) group ↔
          (ending, group) ∈ ((listHosts resources).foldl (addHost engine)
            (Table.empty, Table.empty)).2.entries := List.mem_insertionSort _
      rw [sorted]
      refine member.symm.trans ?_
      constructor
      · rintro ⟨rfl, nonempty⟩
        exact ⟨rfl, nonempty⟩
      · rintro ⟨rfl, nonempty⟩
        exact ⟨rfl, nonempty⟩

theorem hostGroups_sorted (resources : List RouteResource) :
    (hostGroups engine resources).Sorted :=
  pairwise_sortDescending (fun entry : String × List RouteResource => jsLength entry.1) _

/-- The patterns that are declared by some route. -/
def Declared (resources : List RouteResource) (pattern : HostPattern) : Prop :=
  ∃ resource ∈ resources, resource.Declares engine pattern

theorem hostGroups_declared (resources : List RouteResource) (pattern : HostPattern) :
    (∃ group, (hostGroups engine resources).Holds pattern group) ↔
      Declared engine resources pattern := by
  simp only [holds_hostGroups]
  constructor
  · rintro ⟨group, rfl, nonempty⟩
    obtain ⟨resource, member⟩ := List.exists_mem_of_ne_nil _ nonempty
    exact ⟨resource, (mem_routesUnder engine).mp member⟩
  · rintro ⟨resource, declares⟩
    exact ⟨_, rfl, List.ne_nil_of_mem ((mem_routesUnder engine).mpr declares)⟩

/-- The group of a host holds the routes that declare its most specific pattern. -/
theorem find?_hostGroups (resources : List RouteResource) (name : String) :
    ((hostGroups engine resources).find? name = none ∧
        ∀ pattern, ¬ MostSpecific (Declared engine resources) name pattern) ∨
      ∃ pattern group, (hostGroups engine resources).find? name = some group ∧
        MostSpecific (Declared engine resources) name pattern ∧
          ∀ resource, resource ∈ group ↔
            resource ∈ resources ∧ resource.Declares engine pattern := by
  rcases Hosts.find?_cases (hostGroups_declared engine resources) (hostGroups_sorted engine resources)
    name with nothing | ⟨pattern, group, found, specific, holds⟩
  · exact .inl nothing
  · refine .inr ⟨pattern, group, found, specific, ?_⟩
    intro resource
    rw [((holds_hostGroups engine resources pattern group).mp holds).1, mem_routesUnder]

end Groups

end Fgw
