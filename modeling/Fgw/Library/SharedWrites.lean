import Fgw.Library.Table
import Mathlib.Data.List.Find
import Mathlib.Data.List.Nodup

/-!
Values that are written to cells of owners, where a later write to an owner replaces an earlier
one, and first matches that read the cells once all writes are done.
-/

namespace Fgw

universe u v

variable {Owner : Type u} {Value : Type v} [DecidableEq Owner]

def lastWrite : List (Owner × Value) → Owner → Option Value
  | [], _ => none
  | write :: rest, owner =>
      (lastWrite rest owner).or (if write.1 = owner then some write.2 else none)

theorem lastWrite_eq_none {writes : List (Owner × Value)} {owner : Owner}
    (absent : owner ∉ writes.map Prod.fst) : lastWrite writes owner = none := by
  induction writes with
  | nil => rfl
  | cons write rest ih =>
      rw [List.map_cons, List.mem_cons, not_or] at absent
      rw [lastWrite, ih absent.2, if_neg (Ne.symm absent.1), Option.or_none]

theorem exists_lastWrite {writes : List (Owner × Value)} {owner : Owner}
    (member : owner ∈ writes.map Prod.fst) : ∃ value, lastWrite writes owner = some value := by
  induction writes with
  | nil => exact absurd member List.not_mem_nil
  | cons write rest ih =>
      rw [lastWrite]
      by_cases later : owner ∈ rest.map Prod.fst
      · obtain ⟨value, last⟩ := ih later
        exact ⟨value, by rw [last, Option.some_or]⟩
      · rw [List.map_cons, List.mem_cons, or_iff_left later] at member
        exact ⟨write.2, by rw [lastWrite_eq_none later, if_pos member.symm, Option.none_or]⟩

theorem lastWrite_mem {writes : List (Owner × Value)} {owner : Owner} {value : Value}
    (last : lastWrite writes owner = some value) : (owner, value) ∈ writes := by
  induction writes with
  | nil => cases last
  | cons write rest ih =>
      rw [lastWrite, Option.or_eq_some_iff] at last
      rcases last with later | ⟨_, own⟩
      · exact List.mem_cons_of_mem _ (ih later)
      · split at own
        · rename_i same
          cases own
          rw [← same]
          exact List.mem_cons_self
        · cases own

theorem lastWrite_of_nodup {writes : List (Owner × Value)}
    (distinct : (writes.map Prod.fst).Nodup) {write : Owner × Value} (member : write ∈ writes) :
    lastWrite writes write.1 = some write.2 := by
  induction writes with
  | nil => exact absurd member List.not_mem_nil
  | cons first rest ih =>
      obtain ⟨fresh, distinctRest⟩ := List.nodup_cons.mp distinct
      rw [lastWrite]
      rcases List.mem_cons.mp member with rfl | later
      · rw [lastWrite_eq_none fresh, if_pos rfl, Option.none_or]
      · rw [ih distinctRest later, Option.some_or]

theorem Table.lastWrite_entries (table : Table Value) (key : String) :
    lastWrite table.entries key = table.get? key := by
  cases last : lastWrite table.entries key with
  | some value => exact ((table.get?_eq_some key value).mpr (lastWrite_mem last)).symm
  | none =>
      cases got : table.get? key with
      | none => rfl
      | some value =>
          obtain ⟨other, same⟩ := exists_lastWrite
            (List.mem_map_of_mem (f := Prod.fst) ((table.get?_eq_some key value).mp got))
          rw [last] at same
          cases same

theorem Table.get?_foldl_set (writes : List (String × Value)) (table : Table Value)
    (key : String) :
    (writes.foldl (fun table write => table.set write.1 write.2) table).get? key =
      (lastWrite writes key).or (table.get? key) := by
  induction writes generalizing table with
  | nil => rfl
  | cons write rest ih =>
      rw [List.foldl_cons, ih, Table.get?_set, lastWrite, Option.or_assoc]
      by_cases same : write.1 = key
      · rw [if_pos same, if_pos same, Option.some_or]
      · rw [if_neg same, if_neg same, Option.none_or]

theorem lastWrite_of_agree {writes : List (Owner × Value)} {owner : Owner} {value : Value}
    (member : (owner, value) ∈ writes)
    (agree : ∀ other, (owner, other) ∈ writes → other = value) :
    lastWrite writes owner = some value := by
  obtain ⟨other, last⟩ := exists_lastWrite (List.mem_map_of_mem (f := Prod.fst) member)
  rw [last, agree other (lastWrite_mem last)]

/-- A write sets an entry, or erases it. -/
def Table.write (table : Table Value) (key : String) : Option Value → Table Value
  | some value => table.set key value
  | none => table.erase key

theorem Table.get?_write (table : Table Value) (key other : String) (value : Option Value) :
    (table.write key value).get? other = if key = other then value else table.get? other := by
  cases value with
  | none => exact table.get?_erase key other
  | some value => exact table.get?_set key other value

theorem Table.get?_foldl_write (writes : List (String × Option Value)) (table : Table Value)
    (key : String) :
    (writes.foldl (fun table write => table.write write.1 write.2) table).get? key =
      (lastWrite writes key).getD (table.get? key) := by
  induction writes generalizing table with
  | nil => rfl
  | cons write rest ih =>
      rw [List.foldl_cons, ih, Table.get?_write, lastWrite]
      cases lastWrite rest key with
      | some value => rfl
      | none =>
          by_cases same : write.1 = key
          · rw [if_pos same, if_pos same]
            rfl
          · rw [if_neg same, if_neg same]
            rfl

/-- The first write whose own value is accepted. -/
def firstOwn (accepts : Value → Bool) (writes : List (Owner × Value)) : Option (Owner × Value) :=
  writes.find? fun write => accepts write.2

/-- The first write whose owner holds an accepted value in the end. -/
def firstShared (accepts : Value → Bool) (writes : List (Owner × Value)) :
    Option (Owner × Value) :=
  writes.find? fun write => (lastWrite writes write.1).any accepts

theorem firstShared_of_nodup (accepts : Value → Bool) {writes : List (Owner × Value)}
    (distinct : (writes.map Prod.fst).Nodup) :
    firstShared accepts writes = firstOwn accepts writes := by
  have same : ∀ write ∈ writes, (lastWrite writes write.1).any accepts = accepts write.2 := by
    intro write member
    rw [lastWrite_of_nodup distinct member, Option.any_some]
  exact List.find?_congr same

theorem firstShared_eq_none {accepts : Value → Bool} {writes : List (Owner × Value)}
    (absent : firstOwn accepts writes = none) : firstShared accepts writes = none := by
  rw [firstOwn, List.find?_eq_none] at absent
  rw [firstShared, List.find?_eq_none]
  intro write _ accepted
  cases last : lastWrite writes write.1 with
  | none => simp [last] at accepted
  | some value =>
      rw [last, Option.any_some] at accepted
      exact absent (write.1, value) (lastWrite_mem last) accepted

theorem find?_owner_iff (holds : Owner → Bool) {writes : List (Owner × Value)} {owner : Owner}
    (member : owner ∈ writes.map Prod.fst) :
    (writes.find? fun write => holds write.1).map Prod.fst = some owner ↔
      holds owner = true ∧
        ∀ other ∈ writes.takeWhile fun other => other.1 ≠ owner, holds other.1 = false := by
  induction writes with
  | nil => exact absurd member List.not_mem_nil
  | cons write rest ih =>
      by_cases same : write.1 = owner
      · subst owner
        have before : (write :: rest).takeWhile (fun other => other.1 ≠ write.1) = [] := by simp
        rw [before]
        by_cases accepted : holds write.1 = true
        · simp [accepted]
        · have later : (rest.find? fun write => holds write.1).map Prod.fst ≠ some write.1 := by
            intro found
            obtain ⟨other, picked, equal⟩ := Option.map_eq_some_iff.mp found
            have holdsOther := List.find?_some picked
            exact accepted (equal ▸ holdsOther)
          simp [accepted, later]
      · have inside : owner ∈ rest.map Prod.fst := by
          rw [List.map_cons, List.mem_cons] at member
          exact member.resolve_left (Ne.symm same)
        have before : (write :: rest).takeWhile (fun other => other.1 ≠ owner) =
            write :: rest.takeWhile fun other => other.1 ≠ owner := by simp [same]
        rw [before, List.forall_mem_cons]
        by_cases accepted : holds write.1 = true
        · simp [accepted, same]
        · have skipped : ((write :: rest).find? fun write => holds write.1) =
              rest.find? fun write => holds write.1 := by simp [accepted]
          rw [skipped, ih inside]
          simp [accepted]

/-- The two searches find the same owner exactly if the owner found by own values holds an
accepted value in the end, and no owner does that is written to before it. -/
theorem firstShared_owner_iff (accepts : Value → Bool) (writes : List (Owner × Value)) :
    (firstShared accepts writes).map Prod.fst = (firstOwn accepts writes).map Prod.fst ↔
      ∀ write, firstOwn accepts writes = some write →
        (lastWrite writes write.1).any accepts = true ∧
          ∀ other ∈ writes.takeWhile fun other => other.1 ≠ write.1,
            (lastWrite writes other.1).any accepts = false := by
  cases own : firstOwn accepts writes with
  | none => simp [firstShared_eq_none own]
  | some write =>
      have member : write.1 ∈ writes.map Prod.fst :=
        List.mem_map_of_mem (List.mem_of_find?_eq_some own)
      have owners := find?_owner_iff (fun owner => (lastWrite writes owner).any accepts) member
      simpa [firstShared] using owners

end Fgw
