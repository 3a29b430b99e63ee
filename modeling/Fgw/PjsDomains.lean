import Fgw.Library.SharedWrites
import Fgw.Library.Table
import Fgw.Library.Trim
import Fgw.ScriptValue
import Mathlib.Logic.Function.Basic

/-!
The hosts of the route rules of the pjs gateway.  A key may list several hosts, which share one
rule object, and the matcher writes the ending of a wildcard into that object.
-/

namespace Fgw

/-- `hosts.split(',')`, each part trimmed. -/
def splitHosts (hosts : String) : List String :=
  (hosts.toList.splitOn ',').map fun host =>
    String.ofList (trimBy (fun c => isSpaceCode c.toNat) host)

/-- The rules of one port by their keys.  The place of a key stands for its rule object. -/
def expandHosts (rules : List String) : Table Nat :=
  rules.zipIdx.foldl
    (fun hostRules entry =>
      (splitHosts entry.1).foldl (fun hostRules host => hostRules.set host entry.2) hostRules)
    Table.empty

/-- What the matcher writes into a rule object. -/
structure DomainFields where
  name : String
  starName : String

structure DomainMatcher where
  fields : Nat → DomainFields
  domains : Table Nat
  starDomains : List Nat

def isWildcard (domain : String) : Bool := domain.toList.head? = some '*'

/-- `lowercaseDomain.substring(1)` -/
def wildcardEnding (lowerCase : String → String) (domain : String) : String :=
  String.ofList ((lowerCase domain).toList.drop 1)

def domainEndsWith (domain ending : String) : Bool := ending.toList.isSuffixOf domain.toList

section Matcher

variable (lowerCase : String → String)

def addDomain (matcher : DomainMatcher) (entry : String × Nat) : DomainMatcher :=
  let named := { matcher.fields entry.2 with name := entry.1 }
  if isWildcard entry.1 then
    { matcher with
      fields := Function.update matcher.fields entry.2
        { named with starName := wildcardEnding lowerCase entry.1 }
      starDomains := matcher.starDomains ++ [entry.2] }
  else
    { matcher with
      fields := Function.update matcher.fields entry.2 named
      domains := matcher.domains.set (lowerCase entry.1) entry.2 }

def makeMatchDomainHandler (portRouteRules : Table Nat) : DomainMatcher :=
  portRouteRules.entries.foldl (addDomain lowerCase) ⟨fun _ => ⟨"", ""⟩, Table.empty, []⟩

def DomainMatcher.find (matcher : DomainMatcher) (domain : String) : Option Nat :=
  (matcher.domains.get? domain).or
    (matcher.starDomains.find? fun d => domainEndsWith domain (matcher.fields d).starName)

/-- The rules found for a host, in lower case, by the expanded configuration. -/
def findDomain (rules : List String) (domain : String) : Option Nat :=
  (makeMatchDomainHandler lowerCase (expandHosts rules)).find domain

/-! The same with each host as a key of its own. -/

def listedHosts (rules : List String) : List (String × Nat) :=
  rules.zipIdx.flatMap fun entry => (splitHosts entry.1).map fun host => (host, entry.2)

def hostTable (hosts : List (String × Nat)) : Table Nat :=
  hosts.foldl (fun table host => table.set host.1 host.2) Table.empty

/-- Each host with its own copy of the rules. -/
def ownCopies (hosts : List (String × Nat)) : List (String × Nat) :=
  hosts.zipIdx.map fun host => (host.1.1, host.2)

/-- The rule object that a copy was made from. -/
def copiedFrom (hosts : List (String × Nat)) (copy : Nat) : Nat :=
  ((hosts[copy]?).map Prod.snd).getD 0

def findSeparate (rules : List String) (domain : String) : Option Nat :=
  ((makeMatchDomainHandler lowerCase (hostTable (ownCopies (listedHosts rules)))).find
    domain).map (copiedFrom (listedHosts rules))

/-! What the matcher keeps. -/

/-- The wildcards in key order, by the object they are written to. -/
def wildcards (entries : List (String × Nat)) : List (Nat × String) :=
  entries.filterMap fun entry =>
    if isWildcard entry.1 then some (entry.2, wildcardEnding lowerCase entry.1) else none

def plainHosts (entries : List (String × Nat)) : List (String × Nat) :=
  (entries.filter fun entry => !isWildcard entry.1).map fun entry => (lowerCase entry.1, entry.2)

theorem starDomains_foldl (entries : List (String × Nat)) (matcher : DomainMatcher) :
    (entries.foldl (addDomain lowerCase) matcher).starDomains =
      matcher.starDomains ++ (wildcards lowerCase entries).map Prod.fst := by
  induction entries generalizing matcher with
  | nil => simp [wildcards]
  | cons entry rest ih =>
      rw [List.foldl_cons, ih]
      by_cases wild : isWildcard entry.1 = true
      · simp [addDomain, wildcards, wild]
      · simp [addDomain, wildcards, wild]

theorem starName_foldl (entries : List (String × Nat)) (matcher : DomainMatcher) (ref : Nat) :
    ((entries.foldl (addDomain lowerCase) matcher).fields ref).starName =
      (lastWrite (wildcards lowerCase entries) ref).getD (matcher.fields ref).starName := by
  induction entries generalizing matcher with
  | nil => rfl
  | cons entry rest ih =>
      rw [List.foldl_cons, ih]
      by_cases wild : isWildcard entry.1 = true
      · have written : wildcards lowerCase (entry :: rest) =
            (entry.2, wildcardEnding lowerCase entry.1) :: wildcards lowerCase rest := by
          simp [wildcards, wild]
        rw [written, lastWrite]
        by_cases same : entry.2 = ref
        · subst ref
          cases lastWrite (wildcards lowerCase rest) entry.2 <;> simp [addDomain, wild]
        · cases lastWrite (wildcards lowerCase rest) ref <;>
            simp [addDomain, wild, same, Ne.symm same]
      · have unwritten : wildcards lowerCase (entry :: rest) = wildcards lowerCase rest := by
          simp [wildcards, wild]
        rw [unwritten]
        by_cases same : entry.2 = ref
        · subst ref
          simp [addDomain, wild]
        · simp [addDomain, wild, Ne.symm same]

theorem domains_foldl (entries : List (String × Nat)) (matcher : DomainMatcher) :
    (entries.foldl (addDomain lowerCase) matcher).domains =
      (plainHosts lowerCase entries).foldl (fun table host => table.set host.1 host.2)
        matcher.domains := by
  induction entries generalizing matcher with
  | nil => rfl
  | cons entry rest ih =>
      rw [List.foldl_cons, ih]
      by_cases wild : isWildcard entry.1 = true
      · simp [addDomain, plainHosts, wild]
      · simp [addDomain, plainHosts, wild]

theorem find_makeMatchDomainHandler (portRouteRules : Table Nat) (domain : String) :
    (makeMatchDomainHandler lowerCase portRouteRules).find domain =
      ((hostTable (plainHosts lowerCase portRouteRules.entries)).get? domain).or
        ((firstShared (domainEndsWith domain) (wildcards lowerCase portRouteRules.entries)).map
          Prod.fst) := by
  have stars : (makeMatchDomainHandler lowerCase portRouteRules).starDomains =
      (wildcards lowerCase portRouteRules.entries).map Prod.fst := starDomains_foldl lowerCase _ _
  have plain : (makeMatchDomainHandler lowerCase portRouteRules).domains =
      hostTable (plainHosts lowerCase portRouteRules.entries) := domains_foldl lowerCase _ _
  have endings : ∀ write ∈ wildcards lowerCase portRouteRules.entries,
      domainEndsWith domain
          ((makeMatchDomainHandler lowerCase portRouteRules).fields write.1).starName =
        (lastWrite (wildcards lowerCase portRouteRules.entries) write.1).any
          (domainEndsWith domain) := by
    intro write member
    obtain ⟨ending, last⟩ := exists_lastWrite (List.mem_map_of_mem (f := Prod.fst) member)
    rw [makeMatchDomainHandler, starName_foldl, last, Option.getD_some, Option.any_some]
  rw [DomainMatcher.find, stars, plain, List.find?_map, firstShared]
  exact congrArg _ (congrArg _ (List.find?_congr endings))

/-! Copies. -/

theorem setIn_map (f : Nat → Nat) (key : String) (value : Nat) (entries : List (String × Nat)) :
    Table.setIn key (f value) (entries.map fun entry => (entry.1, f entry.2)) =
      (Table.setIn key value entries).map fun entry => (entry.1, f entry.2) := by
  induction entries with
  | nil => rfl
  | cons entry rest ih =>
      by_cases same : entry.1 = key
      · simp [Table.setIn, same]
      · simp [Table.setIn, same, ih]

theorem foldl_set_map (f : Nat → Nat) (hosts : List (String × Nat)) (table copies : Table Nat)
    (same : table.entries = copies.entries.map fun entry => (entry.1, f entry.2)) :
    ((hosts.map fun host => (host.1, f host.2)).foldl
        (fun table host => table.set host.1 host.2) table).entries =
      (hosts.foldl (fun table host => table.set host.1 host.2) copies).entries.map
        fun entry => (entry.1, f entry.2) := by
  induction hosts generalizing table copies with
  | nil => exact same
  | cons host rest ih =>
      apply ih
      simp only [Table.set, same]
      exact setIn_map f host.1 host.2 copies.entries

theorem hostTable_map (f : Nat → Nat) (hosts : List (String × Nat)) :
    (hostTable (hosts.map fun host => (host.1, f host.2))).entries =
      (hostTable hosts).entries.map fun entry => (entry.1, f entry.2) :=
  foldl_set_map f hosts Table.empty Table.empty rfl

theorem ownCopies_copiedFrom (hosts : List (String × Nat)) :
    (ownCopies hosts).map (fun host => (host.1, copiedFrom hosts host.2)) = hosts := by
  apply List.ext_getElem
  · simp [ownCopies]
  · intro place below inside
    simp [ownCopies, copiedFrom, inside]

theorem get?_of_map (f : Nat → Nat) {table copies : Table Nat}
    (same : table.entries = copies.entries.map fun entry => (entry.1, f entry.2)) (key : String) :
    table.get? key = (copies.get? key).map f := by
  simp only [Table.get?, same]
  induction copies.entries with
  | nil => rfl
  | cons entry rest ih =>
      by_cases found : entry.1 = key
      · simp [Table.lookupIn, found]
      · simp [Table.lookupIn, found, ih]

theorem mem_values_setIn {key : String} {value other : Nat} {entries : List (String × Nat)}
    (member : other ∈ (Table.setIn key value entries).map Prod.snd) :
    other = value ∨ other ∈ entries.map Prod.snd := by
  induction entries with
  | nil => exact Or.inl (by simpa [Table.setIn] using member)
  | cons entry rest ih =>
      by_cases same : entry.1 = key
      · simp only [Table.setIn, same, if_true, List.map_cons, List.mem_cons] at member ⊢
        tauto
      · simp only [Table.setIn, same, if_false, List.map_cons, List.mem_cons] at member ⊢
        rcases member with here | later
        · exact Or.inr (Or.inl here)
        · exact (ih later).imp_right Or.inr

theorem nodup_values_setIn {key : String} {value : Nat} {entries : List (String × Nat)}
    (distinct : (entries.map Prod.snd).Nodup) (fresh : value ∉ entries.map Prod.snd) :
    ((Table.setIn key value entries).map Prod.snd).Nodup := by
  induction entries with
  | nil => simp [Table.setIn]
  | cons entry rest ih =>
      rw [List.map_cons, List.mem_cons, not_or] at fresh
      obtain ⟨own, distinctRest⟩ := List.nodup_cons.mp distinct
      by_cases same : entry.1 = key
      · simp only [Table.setIn, same, if_true, List.map_cons]
        exact List.nodup_cons.mpr ⟨fresh.2, distinctRest⟩
      · simp only [Table.setIn, same, if_false, List.map_cons]
        refine List.nodup_cons.mpr ⟨fun member => ?_, ih distinctRest fresh.2⟩
        rcases mem_values_setIn member with equal | later
        · exact fresh.1 equal.symm
        · exact own later

theorem nodup_hostTable {hosts : List (String × Nat)} (distinct : (hosts.map Prod.snd).Nodup) :
    ((hostTable hosts).entries.map Prod.snd).Nodup := by
  have filed : ∀ (table : Table Nat), (table.entries.map Prod.snd).Nodup →
      (∀ host ∈ hosts, host.2 ∉ table.entries.map Prod.snd) →
      ((hosts.foldl (fun table host => table.set host.1 host.2) table).entries.map
        Prod.snd).Nodup := by
    induction hosts with
    | nil => exact fun _ apart _ => apart
    | cons host rest ih =>
        intro table apart fresh
        obtain ⟨own, distinctRest⟩ := List.nodup_cons.mp distinct
        refine ih distinctRest _ (nodup_values_setIn apart (fresh host List.mem_cons_self)) ?_
        intro other member there
        rcases mem_values_setIn there with equal | before
        · exact own (equal ▸ List.mem_map_of_mem member)
        · exact fresh other (List.mem_cons_of_mem host member) before
  exact filed Table.empty List.nodup_nil fun _ _ => List.not_mem_nil

theorem nodup_ownCopies (hosts : List (String × Nat)) :
    ((ownCopies hosts).map Prod.snd).Nodup := by
  have places : (ownCopies hosts).map Prod.snd = List.range hosts.length := by
    apply List.ext_getElem
    · simp [ownCopies]
    · intro place below inside
      simp [ownCopies]
  rw [places]
  exact List.nodup_range

theorem expandHosts_eq (rules : List String) :
    expandHosts rules = hostTable (listedHosts rules) := by
  unfold expandHosts hostTable listedHosts
  generalize Table.empty = table
  induction rules.zipIdx generalizing table with
  | nil => rfl
  | cons entry rest ih =>
      rw [List.foldl_cons, ih, List.flatMap_cons, List.foldl_append, List.foldl_map]

theorem wildcards_map (f : Nat → Nat) (entries : List (String × Nat)) :
    wildcards lowerCase (entries.map fun entry => (entry.1, f entry.2)) =
      (wildcards lowerCase entries).map fun write => (f write.1, write.2) := by
  induction entries with
  | nil => rfl
  | cons entry rest ih =>
      unfold wildcards at ih ⊢
      by_cases wild : isWildcard entry.1 = true
      · simp [wild, ih]
      · simp [wild, ih]

theorem plainHosts_map (f : Nat → Nat) (entries : List (String × Nat)) :
    plainHosts lowerCase (entries.map fun entry => (entry.1, f entry.2)) =
      (plainHosts lowerCase entries).map fun host => (host.1, f host.2) := by
  simp only [plainHosts, List.filter_map, List.map_map]
  rfl

theorem firstOwn_map (f : Nat → Nat) (accepts : String → Bool) (writes : List (Nat × String)) :
    (firstOwn accepts (writes.map fun write => (f write.1, write.2))).map Prod.fst =
      ((firstOwn accepts writes).map Prod.fst).map f := by
  rw [firstOwn, List.find?_map, Option.map_map, Option.map_map]
  rfl

theorem nodup_wildcards {entries : List (String × Nat)}
    (distinct : (entries.map Prod.snd).Nodup) :
    ((wildcards lowerCase entries).map Prod.fst).Nodup := by
  have sub : ((wildcards lowerCase entries).map Prod.fst).Sublist (entries.map Prod.snd) := by
    induction entries with
    | nil => exact List.Sublist.slnil
    | cons entry rest ih =>
        have later := ih (List.nodup_cons.mp distinct).2
        unfold wildcards at later ⊢
        by_cases wild : isWildcard entry.1 = true
        · simpa [wild] using later
        · simpa [wild] using later.cons entry.2
  exact sub.nodup distinct

theorem findSeparate_eq (rules : List String) (domain : String) :
    findSeparate lowerCase rules domain =
      ((hostTable (plainHosts lowerCase (expandHosts rules).entries)).get? domain).or
        ((firstOwn (domainEndsWith domain) (wildcards lowerCase (expandHosts rules).entries)).map
          Prod.fst) := by
  let copies := hostTable (ownCopies (listedHosts rules))
  let source := copiedFrom (listedHosts rules)
  have entries : (expandHosts rules).entries =
      copies.entries.map fun entry => (entry.1, source entry.2) := by
    rw [expandHosts_eq, ← hostTable_map, ownCopies_copiedFrom]
  have apart := nodup_wildcards lowerCase (nodup_hostTable (nodup_ownCopies (listedHosts rules)))
  have plain := hostTable_map source (plainHosts lowerCase copies.entries)
  rw [findSeparate, find_makeMatchDomainHandler, firstShared_of_nodup _ apart, Option.map_or,
    entries, wildcards_map, plainHosts_map, firstOwn_map, get?_of_map source plain]

theorem findDomain_eq (rules : List String) (domain : String) :
    findDomain lowerCase rules domain =
      ((hostTable (plainHosts lowerCase (expandHosts rules).entries)).get? domain).or
        ((firstShared (domainEndsWith domain) (wildcards lowerCase (expandHosts rules).entries)).map
          Prod.fst) :=
  find_makeMatchDomainHandler lowerCase (expandHosts rules) domain

theorem get?_hostTable_ne_none (hosts : List (String × Nat)) (key : String) :
    (hostTable hosts).get? key ≠ none ↔ ∃ host ∈ hosts, host.1 = key := by
  have filed : ∀ table : Table Nat,
      (hosts.foldl (fun table host => table.set host.1 host.2) table).get? key ≠ none ↔
        (∃ host ∈ hosts, host.1 = key) ∨ table.get? key ≠ none := by
    induction hosts with
    | nil => simp
    | cons host rest ih =>
        intro table
        rw [List.foldl_cons, ih, Table.get?_set]
        by_cases same : host.1 = key
        · simp [same]
        · simp [same]
  exact (filed Table.empty).trans (by simp)

theorem exists_plainHost (rules : List String) (domain : String) :
    (hostTable (plainHosts lowerCase (expandHosts rules).entries)).get? domain ≠ none ↔
      ∃ host ∈ listedHosts rules, isWildcard host.1 = false ∧ lowerCase host.1 = domain := by
  have listed (key : String) :
      (∃ entry ∈ (expandHosts rules).entries, entry.1 = key) ↔
        ∃ host ∈ listedHosts rules, host.1 = key := by
    rw [← get?_hostTable_ne_none (listedHosts rules), ← expandHosts_eq, Option.ne_none_iff_exists']
    simp only [Table.get?_eq_some]
    constructor
    · rintro ⟨entry, inside, rfl⟩
      exact ⟨entry.2, inside⟩
    · rintro ⟨value, inside⟩
      exact ⟨(key, value), inside, rfl⟩
  rw [get?_hostTable_ne_none]
  simp only [plainHosts, List.mem_map, List.mem_filter, Bool.not_eq_true']
  constructor
  · rintro ⟨_, ⟨entry, ⟨inside, plain⟩, rfl⟩, same⟩
    obtain ⟨host, member, named⟩ := (listed entry.1).mp ⟨entry, inside, rfl⟩
    exact ⟨host, member, named ▸ plain, named ▸ same⟩
  · rintro ⟨host, member, plain, same⟩
    obtain ⟨entry, inside, named⟩ := (listed host.1).mpr ⟨host, member, rfl⟩
    exact ⟨_, ⟨entry, ⟨inside, named ▸ plain⟩, rfl⟩, named ▸ same⟩

/-- A host is listed itself, or the last wildcard of the key whose wildcard is the first to
cover it covers it too, and so does that of no key whose first wildcard comes earlier. -/
def LastWildcardsAgree (rules : List String) (domain : String) : Prop :=
  let stars := wildcards lowerCase (expandHosts rules).entries
  (∃ host ∈ listedHosts rules, isWildcard host.1 = false ∧ lowerCase host.1 = domain) ∨
    ∀ star, firstOwn (domainEndsWith domain) stars = some star →
      (lastWrite stars star.1).any (domainEndsWith domain) = true ∧
        ∀ other ∈ stars.takeWhile fun other => other.1 ≠ star.1,
          (lastWrite stars other.1).any (domainEndsWith domain) = false

/-- The expanded configuration finds the rules that separate hosts would find exactly when the
last wildcards agree. -/
theorem findDomain_eq_separate_iff (rules : List String) (domain : String) :
    findDomain lowerCase rules domain = findSeparate lowerCase rules domain ↔
      LastWildcardsAgree lowerCase rules domain := by
  rw [findDomain_eq, findSeparate_eq, LastWildcardsAgree, ← exists_plainHost]
  cases (hostTable (plainHosts lowerCase (expandHosts rules).entries)).get? domain with
  | some ref => simp
  | none =>
      rw [Option.none_or, Option.none_or, firstShared_owner_iff]
      simp

/-! A key with two wildcards. -/

theorem firstWildcard_lost :
    ¬ ∀ (lowerCase : String → String) (rules : List String) (domain : String),
      findDomain lowerCase rules domain = findSeparate lowerCase rules domain := by
  intro claimed
  have same := claimed id ["*.a.com, *.b.com"] "x.a.com"
  exact absurd same (by decide +kernel)

end Matcher

end Fgw
