import Fgw.Library.Fallible
import Fgw.Library.Runs
import Fgw.Library.Table
import Fgw.ScriptValue
import Mathlib.Data.List.Perm.Basic
import Mathlib.Data.Rat.Floor
import Mathlib.Tactic.Linarith
import Mathlib.Tactic.Positivity

/-!
The shuffles: that of the answers of the DNS filter, which swaps in place, and that of the
endpoints in the pjs gateway, which takes items out of the list.
-/

namespace Fgw

/-- What `Math.random()` may return. -/
structure Draw where
  value : ℚ
  nonneg : 0 ≤ value
  below : value < 1

/-- An index that was used on a list of the given length. -/
structure Access where
  index : ℤ
  length : ℕ

def Access.InBounds (access : Access) : Prop := 0 ≤ access.index ∧ access.index < access.length

/-- A number without its fraction. -/
def truncate (x : ℚ) : ℤ := if 0 ≤ x then ⌊x⌋ else ⌈x⌉

/-- `x % y` -/
def remainder (x y : ℚ) : ℚ := x - y * truncate (x / y)

/-- `x | 0` -/
def toInt32 (x : ℚ) : ℤ := (truncate x + 2 ^ 31) % 2 ^ 32 - 2 ^ 31

/-! The answers of the DNS filter. -/

section Swapping

variable {α : Type} (undefined : α)

/-- `s[index]` -/
def readAt (s : List α) (index : ℤ) : α :=
  if 0 ≤ index then s.getD index.toNat undefined else undefined

/-- `s[index] = value` -/
def writeAt (s : List α) (index : ℤ) (value : α) : List α :=
  if index < 0 then s
  else if index.toNat < s.length then s.set index.toNat value
  else s ++ List.replicate (index.toNat - s.length) undefined ++ [value]

structure Swapped (α : Type) where
  s : List α
  accessed : List Access

def swapIndex (random : ℕ → Draw) (n i : ℕ) : ℤ :=
  truncate (remainder ((random i).value * n) ((n : ℚ) - i) + i)

def swapStep (random : ℕ → Draw) (n : ℕ) (st : Swapped α) (i : ℕ) : Swapped α :=
  let j := swapIndex random n i
  let e := readAt undefined st.s j
  let half := writeAt undefined st.s j (readAt undefined st.s i)
  ⟨writeAt undefined half i e,
    st.accessed ++ [⟨j, st.s.length⟩, ⟨i, st.s.length⟩, ⟨j, st.s.length⟩, ⟨i, half.length⟩]⟩

def shuffleAnswers (random : ℕ → Draw) (a : List α) : Swapped α :=
  (List.range a.length).foldl (swapStep undefined random a.length) ⟨a, []⟩

end Swapping

/-! The endpoints of the pjs gateway. -/

section Taking

variable {α : Type} (undefined : α)

/-- Where `splice` starts. -/
def spliceStart (length : ℕ) (start : ℤ) : ℕ :=
  if start < 0 then (length + start).toNat else min start.toNat length

structure Taken (α : Type) where
  a : List α
  sorted : List α
  accessed : List Access

def takeStep (random : ℕ → Draw) (st : Taken α) (k : ℕ) : Taken α :=
  let start := spliceStart st.a.length (toInt32 ((random k).value * st.a.length))
  ⟨st.a.eraseIdx start, st.sorted ++ [st.a.getD start undefined],
    st.accessed ++ [⟨start, st.a.length⟩]⟩

/-- `sort` within `shuffle`. -/
def sortOnce (random : ℕ → Draw) (a : List α) : Taken α :=
  (List.range a.length).foldl (takeStep undefined random) ⟨a, [], []⟩

end Taking

/-- An entry that is undefined has no components. -/
def components {β : Type} : Option (String × β) → Except Thrown (String × β)
  | some pair => .ok pair
  | none => .error (.typeError "0")

/-- `Object.fromEntries` -/
def fromEntries {β : Type} (entries : List (Option (String × β))) : Except Thrown (Table β) := do
  let pairs ← entries.mapM components
  return pairs.foldl (fun table pair => table.set pair.1 pair.2) Table.empty

/-- `shuffle` of the pjs gateway, with the indices that it uses. -/
def shuffle {β : Type} (random : ℕ → Draw) (arg : Option (Table β)) :
    List Access × Except Thrown (Table β) :=
  match arg with
  | none => ([], .ok Table.empty)
  | some table =>
      let first := sortOnce none random (table.entries.map some)
      let second := sortOnce none (fun k => random (k + table.entries.length)) first.sorted
      (first.accessed ++ second.accessed, fromEntries second.sorted)

/-! Arithmetic of the indices. -/

theorem inBounds_of_lt {index length : ℕ} (below : index < length) :
    Access.InBounds ⟨index, length⟩ :=
  ⟨Int.natCast_nonneg index, Int.ofNat_lt.mpr below⟩

theorem truncate_nonneg {x : ℚ} (nonneg : 0 ≤ x) : truncate x = ⌊x⌋ := if_pos nonneg

theorem remainder_bounds {x y : ℚ} (nonneg : 0 ≤ x) (positive : 0 < y) :
    0 ≤ remainder x y ∧ remainder x y < y := by
  have quotient : 0 ≤ x / y := by positivity
  rw [remainder, truncate_nonneg quotient]
  have whole : y * (x / y) = x := by field_simp
  have least := mul_le_mul_of_nonneg_left (Int.floor_le (x / y)) positive.le
  have most := mul_lt_mul_of_pos_left (Int.lt_floor_add_one (x / y)) positive
  constructor
  · linarith
  · linarith

theorem swapIndex_bounds (random : ℕ → Draw) {n i : ℕ} (inside : i < n) :
    (i : ℤ) ≤ swapIndex random n i ∧ swapIndex random n i < n := by
  have room : (0 : ℚ) < (n : ℚ) - i := by
    have : (i : ℚ) < n := by exact_mod_cast inside
    linarith
  have scaled : 0 ≤ (random i).value * n := by
    have := (random i).nonneg
    positivity
  obtain ⟨least, most⟩ := remainder_bounds scaled room
  have here : (0 : ℚ) ≤ i := by positivity
  rw [swapIndex, truncate_nonneg (by linarith)]
  constructor
  · exact Int.le_floor.mpr (by push_cast; linarith)
  · exact Int.floor_lt.mpr (by push_cast; linarith)

theorem toInt32_small {x : ℚ} (nonneg : 0 ≤ x) (small : x < 2 ^ 31) : toInt32 x = ⌊x⌋ := by
  rw [toInt32, truncate_nonneg nonneg]
  have least := Int.floor_nonneg.mpr nonneg
  have most : ⌊x⌋ < 2 ^ 31 := Int.floor_lt.mpr (by exact_mod_cast small)
  omega

theorem toInt32_bounds (x : ℚ) : -2 ^ 31 ≤ toInt32 x ∧ toInt32 x < 2 ^ 31 := by
  rw [toInt32]
  constructor
  · omega
  · omega

/-- The place that `splice` starts at is one of the list's, however long the list is. -/
theorem spliceStart_lt (draw : Draw) {length : ℕ} (filled : 0 < length) :
    spliceStart length (toInt32 (draw.value * length)) < length := by
  have room : (0 : ℚ) < length := by exact_mod_cast filled
  have nonneg : 0 ≤ draw.value * length := mul_nonneg draw.nonneg room.le
  have below : draw.value * length < length := by
    have scaled := mul_lt_mul_of_pos_right draw.below room
    linarith
  rw [spliceStart]
  by_cases small : length ≤ 2 ^ 31
  · have whole : (length : ℚ) ≤ 2 ^ 31 := by exact_mod_cast small
    rw [toInt32_small nonneg (lt_of_lt_of_le below whole)]
    have least := Int.floor_nonneg.mpr nonneg
    have most : ⌊draw.value * length⌋ < (length : ℤ) := Int.floor_lt.mpr (by exact_mod_cast below)
    split
    · omega
    · omega
  · have bounds := toInt32_bounds (draw.value * length)
    split
    · omega
    · omega

/-! Swaps. -/

section Swapping

variable {α : Type} {undefined : α}

theorem readAt_inside {s : List α} {index : ℕ} (inside : index < s.length) :
    readAt undefined s index = s[index] := by
  rw [readAt, if_pos (Int.natCast_nonneg index), Int.toNat_natCast,
    List.getD_eq_getElem?_getD,
    List.getElem?_eq_getElem inside, Option.getD_some]

theorem writeAt_inside {s : List α} {index : ℕ} (inside : index < s.length) (value : α) :
    writeAt undefined s index value = s.set index value := by
  rw [writeAt, if_neg (by omega), if_pos (by omega), Int.toNat_natCast]

structure SwappedInto (a : List α) (st : Swapped α) : Prop where
  perm : st.s.Perm a
  inBounds : ∀ access ∈ st.accessed, access.InBounds

theorem swapStep_swappedInto (random : ℕ → Draw) {a : List α} {st : Swapped α} {i : ℕ}
    (sofar : SwappedInto a st) (inside : i < a.length) :
    SwappedInto a (swapStep undefined random a.length st i) := by
  obtain ⟨least, most⟩ := swapIndex_bounds random inside
  have same : st.s.length = a.length := sofar.perm.length_eq
  obtain ⟨j, named⟩ : ∃ j : ℕ, swapIndex random a.length i = j := Int.eq_ofNat_of_zero_le (by omega)
  have jInside : j < st.s.length := by omega
  have iInside : i < st.s.length := by omega
  have half : writeAt undefined st.s j (readAt undefined st.s i) = st.s.set j st.s[i] := by
    rw [readAt_inside iInside, writeAt_inside jInside]
  constructor
  · simp only [swapStep, named]
    rw [half, readAt_inside jInside, writeAt_inside (by rw [List.length_set]; exact iInside)]
    exact (List.set_set_perm jInside iInside).trans sofar.perm
  · intro access used
    simp only [swapStep, named, half, List.length_set] at used
    rcases List.mem_append.mp used with before | now
    · exact sofar.inBounds access before
    · simp only [List.mem_cons, List.not_mem_nil, or_false] at now
      rcases now with rfl | rfl | rfl | rfl
      · exact inBounds_of_lt jInside
      · exact inBounds_of_lt iInside
      · exact inBounds_of_lt jInside
      · exact inBounds_of_lt iInside

theorem shuffleAnswers_swappedInto (random : ℕ → Draw) (a : List α) :
    SwappedInto a (shuffleAnswers undefined random a) := by
  refine foldl_range_invariant (fun _ st => SwappedInto a st) ?_ ?_
  · intro i inside st sofar
    exact swapStep_swappedInto random sofar inside
  · exact ⟨List.Perm.refl a, fun access used => absurd used List.not_mem_nil⟩

end Swapping

/-! Items taken out. -/

section Taking

variable {α : Type} {undefined : α}

structure TakenFrom (a : List α) (count : ℕ) (st : Taken α) : Prop where
  perm : (st.sorted ++ st.a).Perm a
  taken : st.sorted.length = count
  inBounds : ∀ access ∈ st.accessed, access.InBounds

theorem takeStep_takenFrom (random : ℕ → Draw) {a : List α} {st : Taken α} {k : ℕ}
    (sofar : TakenFrom a k st) (inside : k < a.length) :
    TakenFrom a (k + 1) (takeStep undefined random st k) := by
  have whole := sofar.perm.length_eq
  rw [List.length_append, sofar.taken] at whole
  have within := spliceStart_lt (random k) (show 0 < st.a.length by omega)
  rw [takeStep]
  generalize spliceStart st.a.length (toInt32 ((random k).value * st.a.length)) = start at within ⊢
  refine ⟨?_, ?_, ?_⟩
  · rw [List.getD_eq_getElem?_getD, List.getElem?_eq_getElem within, Option.getD_some,
      List.append_assoc, List.singleton_append]
    exact ((List.getElem_cons_eraseIdx_perm within).append_left st.sorted).trans sofar.perm
  · rw [List.length_append, sofar.taken, List.length_singleton]
  · intro access used
    rcases List.mem_append.mp used with before | now
    · exact sofar.inBounds access before
    · rw [List.mem_singleton] at now
      subst now
      exact inBounds_of_lt within

theorem sortOnce_takenFrom (random : ℕ → Draw) (a : List α) :
    TakenFrom a a.length (sortOnce undefined random a) := by
  refine foldl_range_invariant (TakenFrom a) ?_ ?_
  · intro k inside st sofar
    exact takeStep_takenFrom random sofar inside
  · exact ⟨List.Perm.refl a, rfl, fun access used => absurd used List.not_mem_nil⟩

theorem sortOnce_perm (random : ℕ → Draw) (a : List α) :
    (sortOnce undefined random a).sorted.Perm a := by
  have all : TakenFrom a a.length (sortOnce undefined random a) := sortOnce_takenFrom random a
  have whole := all.perm.length_eq
  rw [List.length_append, all.taken] at whole
  have none : (sortOnce undefined random a).a = [] := List.length_eq_zero_iff.mp (by omega)
  simpa [none] using all.perm

end Taking

theorem mapM_components {β : Type} (pairs : List (String × β)) :
    (pairs.map some).mapM components = .ok pairs := by
  induction pairs with
  | nil => rfl
  | cons pair pairs ih =>
      rw [List.map_cons, mapM_cons_eq_ok]
      exact ⟨pair, rfl, pairs, ih, rfl⟩

theorem fromEntries_of_perm {β : Type} {table : Table β} {entries : List (Option (String × β))}
    (perm : entries.Perm (table.entries.map some)) :
    ∃ result, fromEntries entries = .ok result ∧ result.entries.Perm table.entries := by
  have split : Relation.Comp (fun whole pairs => whole = List.map some pairs) List.Perm entries
      table.entries := by
    rw [List.eq_map_comp_perm]
    exact perm
  obtain ⟨pairs, rfl, same⟩ := split
  have distinct : (pairs.map Prod.fst).Nodup := (same.map Prod.fst).nodup_iff.mpr table.distinct
  refine ⟨_, (bind_eq_ok _ _ _).mpr ⟨pairs, mapM_components pairs, rfl⟩, ?_⟩
  rw [Table.entries_foldl_set distinct]
  exact same

/-- Nothing is lost or doubled, whatever is drawn. -/
theorem shuffles_permute :
    (∀ (α : Type) (undefined : α) (random : ℕ → Draw) (a : List α),
      (shuffleAnswers undefined random a).s.Perm a ∧
        ∀ access ∈ (shuffleAnswers undefined random a).accessed, access.InBounds) ∧
    ∀ (β : Type) (random : ℕ → Draw) (arg : Option (Table β)), ∃ result,
      (shuffle random arg).2 = .ok result ∧
        result.entries.Perm ((arg.map Table.entries).getD []) ∧
        ∀ access ∈ (shuffle random arg).1, access.InBounds := by
  constructor
  · intro α undefined random a
    have all : SwappedInto a (shuffleAnswers undefined random a) :=
      shuffleAnswers_swappedInto random a
    exact ⟨all.perm, all.inBounds⟩
  · intro β random arg
    cases arg with
    | none => exact ⟨Table.empty, rfl, List.Perm.refl [], fun access used =>
        absurd used List.not_mem_nil⟩
    | some table =>
        have first : (sortOnce none random (table.entries.map some)).sorted.Perm
            (table.entries.map some) := sortOnce_perm random _
        have second : (sortOnce none (fun k => random (k + table.entries.length))
            (sortOnce none random (table.entries.map some)).sorted).sorted.Perm
            (sortOnce none random (table.entries.map some)).sorted := sortOnce_perm _ _
        obtain ⟨result, built, same⟩ := fromEntries_of_perm (second.trans first)
        refine ⟨result, built, same, ?_⟩
        intro access used
        rcases List.mem_append.mp used with inFirst | inSecond
        · exact (sortOnce_takenFrom random _).inBounds access inFirst
        · exact (sortOnce_takenFrom _ _).inBounds access inSecond

end Fgw
