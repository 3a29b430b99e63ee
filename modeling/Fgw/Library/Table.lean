import Mathlib.Data.List.Basic
import Mathlib.Data.List.Nodup
import Mathlib.Data.List.Perm.Basic

/-!
Insertion-ordered tables with string keys.  No key occurs twice, so a lookup, an
overwrite and an erasure each concern at most one entry.
-/

namespace Fgw

universe u

/-- A table is a list of keyed entries in insertion order, each key occurring once. -/
structure Table (α : Type u) where
  entries : List (String × α)
  distinct : (entries.map Prod.fst).Nodup

namespace Table

variable {α : Type u}

def lookupIn (key : String) : List (String × α) → Option α
  | [] => none
  | entry :: rest => if entry.1 = key then some entry.2 else lookupIn key rest

def setIn (key : String) (value : α) : List (String × α) → List (String × α)
  | [] => [(key, value)]
  | entry :: rest =>
      if entry.1 = key then (key, value) :: rest else entry :: setIn key value rest

theorem mem_keys_setIn (key other : String) (value : α) (entries : List (String × α)) :
    other ∈ (setIn key value entries).map Prod.fst ↔
      other = key ∨ other ∈ entries.map Prod.fst := by
  induction entries with
  | nil => simp [setIn]
  | cons entry rest ih =>
      by_cases same : entry.1 = key
      · simp [setIn, same]
      · simp only [setIn, same, if_false, List.map_cons, List.mem_cons, ih]
        tauto

theorem nodup_setIn (key : String) (value : α) (entries : List (String × α))
    (distinct : (entries.map Prod.fst).Nodup) :
    ((setIn key value entries).map Prod.fst).Nodup := by
  induction entries with
  | nil => simp [setIn]
  | cons entry rest ih =>
      have parts := List.nodup_cons.mp distinct
      by_cases same : entry.1 = key
      · simpa [setIn, same] using distinct
      · simp only [setIn, same, if_false, List.map_cons, List.nodup_cons]
        refine ⟨?_, ih parts.2⟩
        intro member
        rcases (mem_keys_setIn key entry.1 value rest).mp member with equal | later
        · exact same equal
        · exact parts.1 later

def empty : Table α := ⟨[], List.nodup_nil⟩

def get? (table : Table α) (key : String) : Option α := lookupIn key table.entries

def set (table : Table α) (key : String) (value : α) : Table α :=
  ⟨setIn key value table.entries, nodup_setIn key value table.entries table.distinct⟩

def erase (table : Table α) (key : String) : Table α where
  entries := table.entries.filter fun entry => entry.1 ≠ key
  distinct := (List.Sublist.map Prod.fst List.filter_sublist).nodup table.distinct

def keys (table : Table α) : List String := table.entries.map Prod.fst

def values (table : Table α) : List α := table.entries.map Prod.snd

theorem lookupIn_setIn (key other : String) (value : α) (entries : List (String × α)) :
    lookupIn other (setIn key value entries) =
      if key = other then some value else lookupIn other entries := by
  induction entries with
  | nil => simp [setIn, lookupIn]
  | cons entry rest ih =>
      by_cases same : entry.1 = key
      · by_cases wanted : key = other
        · simp [setIn, lookupIn, same, wanted]
        · simp [setIn, lookupIn, same, wanted]
      · by_cases wanted : entry.1 = other
        · subst other
          simp [setIn, lookupIn, same, Ne.symm same]
        · simp [setIn, lookupIn, same, wanted, ih]

theorem lookupIn_filter (key other : String) (entries : List (String × α)) :
    lookupIn other (entries.filter fun entry => entry.1 ≠ key) =
      if key = other then none else lookupIn other entries := by
  induction entries with
  | nil => simp [lookupIn]
  | cons entry rest ih =>
      by_cases same : entry.1 = key
      · by_cases wanted : key = other
        · simpa [lookupIn, same, wanted] using ih
        · simpa [lookupIn, same, wanted] using ih
      · by_cases wanted : entry.1 = other
        · subst other
          simp [lookupIn, same, Ne.symm same]
        · simpa [lookupIn, same, wanted] using ih

theorem lookupIn_eq_some (key : String) (value : α) (entries : List (String × α))
    (distinct : (entries.map Prod.fst).Nodup) :
    lookupIn key entries = some value ↔ (key, value) ∈ entries := by
  induction entries with
  | nil => simp [lookupIn]
  | cons entry rest ih =>
      have parts := List.nodup_cons.mp distinct
      by_cases same : entry.1 = key
      · have absent : (key, value) ∉ rest := fun member =>
          parts.1 (same ▸ List.mem_map_of_mem (f := Prod.fst) member)
        constructor
        · intro found
          have equal : entry.2 = value := by simpa [lookupIn, same] using found
          rw [← same, ← equal]
          exact List.mem_cons_self
        · intro member
          rcases List.mem_cons.mp member with equal | later
          · simp [lookupIn, ← equal]
          · exact (absent later).elim
      · have different : (key, value) ≠ entry := fun equal => same (by rw [← equal])
        simp [lookupIn, same, different, ih parts.2]

theorem mem_keys_of_lookupIn {key : String} {value : α} {entries : List (String × α)}
    (found : lookupIn key entries = some value) : key ∈ entries.map Prod.fst := by
  induction entries with
  | nil => simp [lookupIn] at found
  | cons entry rest ih =>
      by_cases same : entry.1 = key
      · simp [same]
      · simp only [lookupIn, same, if_false] at found
        exact List.mem_cons_of_mem _ (ih found)

theorem lookupIn_append (key : String) (entries later : List (String × α)) :
    lookupIn key (entries ++ later) = (lookupIn key entries).or (lookupIn key later) := by
  induction entries with
  | nil => rfl
  | cons entry rest ih =>
      by_cases same : entry.1 = key
      · simp [lookupIn, same]
      · simp [lookupIn, same, ih]

@[simp] theorem get?_empty (key : String) : (empty : Table α).get? key = none := rfl

theorem get?_set (table : Table α) (key other : String) (value : α) :
    (table.set key value).get? other = if key = other then some value else table.get? other :=
  lookupIn_setIn key other value table.entries

@[simp] theorem get?_set_self (table : Table α) (key : String) (value : α) :
    (table.set key value).get? key = some value := by
  simp [get?_set]

theorem get?_set_ne (table : Table α) {key other : String} (value : α) (different : key ≠ other) :
    (table.set key value).get? other = table.get? other := by
  simp [get?_set, different]

theorem get?_erase (table : Table α) (key other : String) :
    (table.erase key).get? other = if key = other then none else table.get? other :=
  lookupIn_filter key other table.entries

theorem get?_erase_ne (table : Table α) {key other : String} (different : key ≠ other) :
    (table.erase key).get? other = table.get? other := by
  simp [get?_erase, different]

theorem get?_eq_some (table : Table α) (key : String) (value : α) :
    table.get? key = some value ↔ (key, value) ∈ table.entries :=
  lookupIn_eq_some key value table.entries table.distinct

theorem keys_setIn (key : String) (value : α) (entries : List (String × α)) :
    (setIn key value entries).map Prod.fst =
      if key ∈ entries.map Prod.fst then entries.map Prod.fst
      else entries.map Prod.fst ++ [key] := by
  induction entries with
  | nil => simp [setIn]
  | cons entry rest ih =>
      by_cases same : entry.1 = key
      · simp [setIn, same]
      · simp only [setIn, same, if_false, List.map_cons, ih, List.mem_cons, Ne.symm same,
          false_or]
        split <;> simp

theorem setIn_of_not_mem {key : String} {entries : List (String × α)}
    (absent : key ∉ entries.map Prod.fst) (value : α) :
    setIn key value entries = entries ++ [(key, value)] := by
  induction entries with
  | nil => rfl
  | cons entry rest ih =>
      rw [List.map_cons, List.mem_cons, not_or] at absent
      rw [setIn, if_neg (Ne.symm absent.1), ih absent.2, List.cons_append]

/-- Entries of distinct keys are kept as they are. -/
theorem entries_foldl_set {pairs : List (String × α)} {table : Table α}
    (distinct : ((table.entries ++ pairs).map Prod.fst).Nodup) :
    (pairs.foldl (fun table pair => table.set pair.1 pair.2) table).entries =
      table.entries ++ pairs := by
  induction pairs generalizing table with
  | nil => rw [List.foldl_nil, List.append_nil]
  | cons pair pairs ih =>
      have absent : pair.1 ∉ table.entries.map Prod.fst := by
        rw [List.map_append, List.nodup_append] at distinct
        intro member
        exact distinct.2.2 pair.1 member pair.1 List.mem_cons_self rfl
      have grown : (table.set pair.1 pair.2).entries = table.entries ++ [pair] :=
        setIn_of_not_mem absent pair.2
      have whole : table.entries ++ pair :: pairs = table.entries ++ [pair] ++ pairs := by simp
      rw [List.foldl_cons, ih, grown, ← whole]
      rwa [grown, ← whole]

theorem keys_set (table : Table α) (key : String) (value : α) :
    (table.set key value).keys = if key ∈ table.keys then table.keys else table.keys ++ [key] :=
  keys_setIn key value table.entries

theorem mem_keys_set {table : Table α} {key other : String} {value : α} :
    other ∈ (table.set key value).keys ↔ other = key ∨ other ∈ table.keys :=
  mem_keys_setIn key other value table.entries

theorem mem_keys_of_erase {table : Table α} {key other : String}
    (member : other ∈ (table.erase key).keys) : other ∈ table.keys :=
  List.Sublist.subset (List.Sublist.map Prod.fst List.filter_sublist) member

theorem mem_keys {table : Table α} {key : String} :
    key ∈ table.keys ↔ ∃ value, table.get? key = some value := by
  simp only [keys, List.mem_map, get?_eq_some]
  constructor
  · rintro ⟨entry, inside, rfl⟩
    exact ⟨entry.2, inside⟩
  · rintro ⟨value, inside⟩
    exact ⟨(key, value), inside, rfl⟩

/-- Entries picked by their keys, where another key is written or erased. -/
theorem filter_set (table : Table α) {key : String} (value : α) (picks : String → Bool)
    (other : picks key = false) :
    (table.set key value).entries.filter (fun entry => picks entry.1) =
      table.entries.filter fun entry => picks entry.1 := by
  have general (entries : List (String × α)) :
      (setIn key value entries).filter (fun entry => picks entry.1) =
        entries.filter fun entry => picks entry.1 := by
    induction entries with
    | nil => simp [setIn, other]
    | cons entry rest ih =>
        by_cases same : entry.1 = key
        · simp [setIn, same, other]
        · simp [setIn, same, List.filter_cons, ih]
  exact general table.entries

theorem filter_erase (table : Table α) {key : String} (picks : String → Bool)
    (other : picks key = false) :
    (table.erase key).entries.filter (fun entry => picks entry.1) =
      table.entries.filter fun entry => picks entry.1 := by
  simp only [erase, List.filter_filter]
  apply List.filter_congr
  intro entry _
  by_cases same : entry.1 = key
  · simp [same, other]
  · simp [same]

theorem filter_key (table : Table α) (key : String) :
    table.entries.filter (fun entry => entry.1 = key) =
      (table.get? key).toList.map (Prod.mk key) := by
  have general (entries : List (String × α)) (distinct : (entries.map Prod.fst).Nodup) :
      entries.filter (fun entry => entry.1 = key) =
        (lookupIn key entries).toList.map (Prod.mk key) := by
    induction entries with
    | nil => rfl
    | cons entry rest ih =>
        obtain ⟨fresh, distinctRest⟩ := List.nodup_cons.mp distinct
        by_cases same : entry.1 = key
        · have none : rest.filter (fun entry => entry.1 = key) = [] := by
            rw [List.filter_eq_nil_iff]
            intro other member equal
            apply fresh
            rw [same, ← of_decide_eq_true equal]
            exact List.mem_map_of_mem member
          rw [List.filter_cons_of_pos (by simp [same]), none, lookupIn, if_pos same]
          simp [← same]
        · rw [List.filter_cons_of_neg (by simp [same]), lookupIn, if_neg same]
          exact ih distinctRest
  exact general table.entries table.distinct

def selected {β : Type u} (table : Table α) (select : α → Option β) : List (String × β) :=
  table.entries.filterMap fun entry => (select entry.2).map (Prod.mk entry.1)

theorem mem_selected {β : Type u} (table : Table α) (select : α → Option β) (key : String)
    (value : β) :
    (key, value) ∈ table.selected select ↔ (table.get? key).bind select = some value := by
  simp only [selected, List.mem_filterMap, Option.map_eq_some_iff, Prod.mk.injEq,
    Option.bind_eq_some_iff, get?_eq_some]
  constructor
  · rintro ⟨entry, inside, _, kept, same, rfl⟩
    exact ⟨entry.2, same ▸ inside, kept⟩
  · rintro ⟨source, inside, kept⟩
    exact ⟨(key, source), inside, value, kept, rfl, rfl⟩

theorem nodup_selected {β : Type u} (table : Table α) (select : α → Option β) :
    (table.selected select).Nodup := by
  apply List.Nodup.of_map Prod.fst
  have keys : (table.selected select).map Prod.fst =
      (table.entries.filter fun entry => (select entry.2).isSome).map Prod.fst := by
    unfold selected
    induction table.entries with
    | nil => rfl
    | cons entry rest ih => cases kept : select entry.2 <;> simp [kept, ih]
  rw [keys]
  exact (List.Sublist.map Prod.fst List.filter_sublist).nodup table.distinct

/-- Tables that select the same value under every key select the same values. -/
theorem perm_filterMap {β γ : Type u} (left : Table α) (right : Table γ) (f : α → Option β)
    (g : γ → Option β) (agree : ∀ key, (left.get? key).bind f = (right.get? key).bind g) :
    (left.values.filterMap f).Perm (right.values.filterMap g) := by
  have unkeyed {δ : Type u} (table : Table δ) (select : δ → Option β) :
      table.values.filterMap select = (table.selected select).map Prod.snd := by
    unfold selected values
    induction table.entries with
    | nil => rfl
    | cons entry rest ih => cases kept : select entry.2 <;> simp [kept, ih]
  rw [unkeyed left f, unkeyed right g]
  apply List.Perm.map
  rw [List.perm_ext_iff_of_nodup (nodup_selected left f) (nodup_selected right g)]
  rintro ⟨key, value⟩
  rw [mem_selected, mem_selected, agree]

theorem mem_values (table : Table α) (value : α) :
    value ∈ table.values ↔ ∃ key, table.get? key = some value := by
  simp only [values, List.mem_map, get?_eq_some]
  constructor
  · rintro ⟨entry, inside, rfl⟩
    exact ⟨entry.1, inside⟩
  · rintro ⟨key, inside⟩
    exact ⟨(key, value), inside, rfl⟩

end Table

end Fgw
