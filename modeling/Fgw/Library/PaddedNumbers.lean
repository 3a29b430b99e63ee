import Mathlib.Algebra.GroupWithZero.Nat
import Mathlib.Data.List.Sort

/-!
The order of texts that join numbers, each padded with zeros to a width and followed by a
separator below the digits.
-/

namespace Fgw

/-! Digits of one number. -/

def digitsValue (digits : List Char) : Nat := Nat.ofDigitChars 10 digits 0

def AllDigits (digits : List Char) : Prop := ∀ c ∈ digits, c.isDigit = true

theorem digitsValue_cons (c : Char) (rest : List Char) :
    digitsValue (c :: rest) = 10 ^ rest.length * (c.toNat - 48) + digitsValue rest := by
  unfold digitsValue
  rw [Nat.ofDigitChars_cons, Nat.ofDigitChars_eq_ofDigitChars_zero]
  simp

theorem digitsValue_append (first second : List Char) :
    digitsValue (first ++ second) =
      10 ^ second.length * digitsValue first + digitsValue second := by
  unfold digitsValue
  rw [Nat.ofDigitChars_append, Nat.ofDigitChars_eq_ofDigitChars_zero]

theorem isDigit_bounds {c : Char} (digit : c.isDigit = true) : 48 ≤ c.toNat ∧ c.toNat ≤ 57 := by
  simpa [Char.isDigit, Char.le_def, UInt32.le_iff_toNat_le] using digit

theorem digitsValue_lt {digits : List Char} (all : AllDigits digits) :
    digitsValue digits < 10 ^ digits.length := by
  induction digits with
  | nil => simp [digitsValue]
  | cons c rest ih =>
      have below := ih fun other member => all other (List.mem_cons_of_mem c member)
      have bounds := isDigit_bounds (all c List.mem_cons_self)
      rw [digitsValue_cons, List.length_cons, Nat.pow_succ]
      have scaled : 10 ^ rest.length * (c.toNat - 48) ≤ 10 ^ rest.length * 9 :=
        Nat.mul_le_mul_left _ (by omega)
      omega

theorem digitsValue_cons_lt {c d : Char} {rest others : List Char} (digits : AllDigits rest)
    (digit : c.isDigit = true) (same : rest.length = others.length) (less : c.toNat < d.toNat) :
    digitsValue (c :: rest) < digitsValue (d :: others) := by
  have below := digitsValue_lt digits
  have bounds := isDigit_bounds digit
  rw [same] at below
  rw [digitsValue_cons, digitsValue_cons, same]
  have scaled : 10 ^ others.length * (c.toNat - 48) + 10 ^ others.length ≤
      10 ^ others.length * (d.toNat - 48) := by
    rw [← Nat.mul_succ]
    exact Nat.mul_le_mul_left _ (by omega)
  omega

/-- Digits of one length compare as the numbers do. -/
theorem digits_append_lt_iff {left right : List Char} (leftDigits : AllDigits left)
    (rightDigits : AllDigits right) (same : left.length = right.length) (s t : List Char) :
    left ++ s < right ++ t ↔
      digitsValue left < digitsValue right ∨ digitsValue left = digitsValue right ∧ s < t := by
  induction left generalizing right with
  | nil =>
      obtain rfl := List.length_eq_zero_iff.mp same.symm
      simp
  | cons c rest ih =>
      cases right with
      | nil => simp at same
      | cons d others =>
          have lengths : rest.length = others.length := by simpa using same
          have restDigits : AllDigits rest := fun other member =>
            leftDigits other (List.mem_cons_of_mem c member)
          have othersDigits : AllDigits others := fun other member =>
            rightDigits other (List.mem_cons_of_mem d member)
          rw [List.cons_append, List.cons_append, List.cons_lt_cons_iff,
            ih restDigits othersDigits lengths]
          rcases Nat.lt_trichotomy c.toNat d.toNat with less | equal | greater
          · have leads := digitsValue_cons_lt restDigits (leftDigits c List.mem_cons_self) lengths
              less
            exact iff_of_true (Or.inl less) (Or.inl leads)
          · obtain rfl := Char.toNat_inj.mp equal
            rw [digitsValue_cons, digitsValue_cons, lengths]
            simp
          · have leads := digitsValue_cons_lt othersDigits (rightDigits d List.mem_cons_self)
              lengths.symm greater
            have unequal : c ≠ d := fun same => Nat.ne_of_gt greater (congrArg Char.toNat same)
            have notLess : ¬c < d := fun less => Nat.lt_asymm greater less
            simp only [notLess, unequal, false_and, or_self, false_iff, not_or, not_and]
            exact ⟨by omega, fun same => by omega⟩

theorem digitsValue_take {digits : List Char} (all : AllDigits digits) (length : Nat) :
    digitsValue (digits.take length) = digitsValue digits / 10 ^ (digits.length - length) := by
  have dropped : AllDigits (digits.drop length) := fun c member =>
    all c (List.mem_of_mem_drop member)
  have below := digitsValue_lt dropped
  have whole := digitsValue_append (digits.take length) (digits.drop length)
  rw [List.take_append_drop, List.length_drop] at whole
  rw [List.length_drop] at below
  rw [whole, Nat.mul_add_div (Nat.pow_pos (by decide)), Nat.div_eq_of_lt below, Nat.add_zero]

/-! Numbers before a separator. -/

section Separated

variable {separator : Char} (belowDigits : separator.toNat < 48) {small large : List Char}
  (smallDigits : AllDigits small) (largeDigits : AllDigits large)
  (shorter : small.length ≤ large.length)
include largeDigits shorter

theorem take_digits : AllDigits (large.take small.length) ∧
    (large.take small.length).length = small.length :=
  ⟨fun c member => largeDigits c (List.mem_of_mem_take member), List.length_take_of_le shorter⟩

include belowDigits smallDigits in
theorem separated_lt (below : digitsValue small < digitsValue large)
    (leading : digitsValue small ≤ digitsValue large / 10 ^ (large.length - small.length))
    (s t : List Char) : small ++ separator :: s < large ++ separator :: t := by
  obtain ⟨taken, length⟩ := take_digits largeDigits shorter
  rw [← digitsValue_take largeDigits small.length] at leading
  rw [← List.take_append_drop small.length large, List.append_assoc,
    digits_append_lt_iff smallDigits taken length.symm]
  rcases Nat.lt_or_eq_of_le leading with less | same
  · exact Or.inl less
  · refine Or.inr ⟨same, ?_⟩
    cases rest : large.drop small.length with
    | nil =>
        rw [same, ← List.take_append_drop small.length large, rest, List.append_nil,
          List.take_take, Nat.min_self] at below
        exact absurd below (Nat.lt_irrefl _)
    | cons d others =>
        have digit := isDigit_bounds (largeDigits d
          (List.mem_of_mem_drop (rest ▸ List.mem_cons_self)))
        refine List.cons_lt_cons_iff.mpr (Or.inl ?_)
        change separator.toNat < d.toNat
        omega

include smallDigits in
theorem separated_gt
    (leading : digitsValue large / 10 ^ (large.length - small.length) < digitsValue small)
    (s t : List Char) : large ++ separator :: t < small ++ separator :: s := by
  obtain ⟨taken, length⟩ := take_digits largeDigits shorter
  rw [← digitsValue_take largeDigits small.length] at leading
  rw [← List.take_append_drop small.length large, List.append_assoc,
    digits_append_lt_iff taken smallDigits length]
  exact Or.inl leading

end Separated

/-! Padding. -/

def paddedDigits (width n : Nat) : List Char :=
  List.replicate (width - (Nat.toDigits 10 n).length) '0' ++ Nat.toDigits 10 n

def paddedWidth (width n : Nat) : Nat := max width (Nat.toDigits 10 n).length

theorem allDigits_padded (width n : Nat) : AllDigits (paddedDigits width n) := by
  intro c member
  rcases List.mem_append.mp member with zero | digit
  · rw [List.eq_of_mem_replicate zero]
    rfl
  · exact Nat.isDigit_of_mem_toDigits (by decide) (by decide) digit

theorem length_padded (width n : Nat) : (paddedDigits width n).length = paddedWidth width n := by
  simp only [paddedDigits, paddedWidth, List.length_append, List.length_replicate]
  omega

theorem digitsValue_padded (width n : Nat) : digitsValue (paddedDigits width n) = n := by
  simp [digitsValue, paddedDigits, Nat.ofDigitChars_append]

theorem paddedWidth_mono (width : Nat) {m n : Nat} (le : m ≤ n) :
    paddedWidth width m ≤ paddedWidth width n := by
  have longer : (Nat.toDigits 10 m).length ≤ (Nat.toDigits 10 n).length := by
    rw [Nat.length_toDigits_le_iff (by decide) Nat.length_toDigits_pos]
    exact Nat.lt_of_le_of_lt le ((Nat.length_toDigits_le_iff (by decide)
      Nat.length_toDigits_pos).mp (Nat.le_refl _))
  unfold paddedWidth
  omega

/-! Several numbers. -/

/-- Each number padded to its width and followed by the separator. -/
def paddedText (separator : Char) : List Nat → List Nat → List Char
  | width :: widths, n :: numbers =>
      paddedDigits width n ++ separator :: paddedText separator widths numbers
  | _, _ => []

/-- At the first place where the numbers differ, the leading digits of the first are not below
the second. -/
def LeadsPadded : List Nat → List Nat → List Nat → Prop
  | width :: widths, x :: xs, y :: ys =>
      if x = y then LeadsPadded widths xs ys
      else y ≤ x / 10 ^ (paddedWidth width x - paddedWidth width y)
  | _, _, _ => True

instance decidableLeadsPadded : ∀ widths xs ys, Decidable (LeadsPadded widths xs ys)
  | width :: widths, x :: xs, y :: ys =>
      have := decidableLeadsPadded widths xs ys
      inferInstanceAs (Decidable (if x = y then LeadsPadded widths xs ys
        else y ≤ x / 10 ^ (paddedWidth width x - paddedWidth width y)))
  | [], _, _ => isTrue trivial
  | _ :: _, [], _ => isTrue trivial
  | _ :: _, _ :: _, [] => isTrue trivial

theorem paddedText_lt_iff {separator : Char} (belowDigits : separator.toNat < 48)
    {widths xs ys : List Nat} (xsLength : xs.length = widths.length)
    (ysLength : ys.length = widths.length) (larger : ys < xs) (s t : List Char) :
    (LeadsPadded widths xs ys →
        paddedText separator widths ys ++ s < paddedText separator widths xs ++ t) ∧
      (¬LeadsPadded widths xs ys →
        paddedText separator widths xs ++ t < paddedText separator widths ys ++ s) := by
  induction widths generalizing xs ys with
  | nil =>
      obtain rfl := List.length_eq_zero_iff.mp xsLength
      exact absurd larger (List.not_lt_nil ys)
  | cons width widths ih =>
      obtain ⟨x, xs, rfl⟩ := List.exists_cons_of_length_eq_add_one xsLength
      obtain ⟨y, ys, rfl⟩ := List.exists_cons_of_length_eq_add_one ysLength
      simp only [paddedText, LeadsPadded, List.append_assoc, List.cons_append]
      by_cases same : x = y
      · subst y
        have later : ys < xs := by simpa using larger
        have digits := allDigits_padded width x
        have ordered := @ih xs ys (by simpa using xsLength) (by simpa using ysLength) later
        rw [if_pos rfl, digits_append_lt_iff digits digits rfl,
          digits_append_lt_iff digits digits rfl]
        simpa using ordered
      · have below : y < x := by
          rcases List.cons_lt_cons_iff.mp larger with less | ⟨equal, _⟩
          · exact less
          · exact absurd equal.symm same
        have shorter : (paddedDigits width y).length ≤ (paddedDigits width x).length := by
          rw [length_padded, length_padded]
          exact paddedWidth_mono width (Nat.le_of_lt below)
        rw [if_neg same]
        constructor
        · intro leading
          refine separated_lt belowDigits (allDigits_padded _ _) (allDigits_padded _ _) shorter
            ?_ ?_ _ _
          · rwa [digitsValue_padded, digitsValue_padded]
          · rwa [digitsValue_padded, digitsValue_padded, length_padded, length_padded]
        · intro leading
          refine separated_gt (allDigits_padded _ _) (allDigits_padded _ _) shorter ?_ _ _
          rw [digitsValue_padded, digitsValue_padded, length_padded, length_padded]
          exact Nat.lt_of_not_le leading

theorem paddedWidth_of_lt {width n : Nat} (positive : 0 < width) (fits : n < 10 ^ width) :
    paddedWidth width n = width := by
  have length := (Nat.length_toDigits_le_iff (b := 10) (by decide) positive).mpr fits
  exact Nat.max_eq_left length

/-! Sorting by a strict comparison. -/

section Sorting

universe u v

variable {α : Type u} {κ : Type v} [LinearOrder κ] (key : α → κ)
  [DecidableRel fun first second => key first > key second]

theorem pairwise_orderedInsert_gt (item : α) {items : List α}
    (sorted : items.Pairwise fun first second => key second ≤ key first) :
    (items.orderedInsert (fun first second => key first > key second) item).Pairwise
      fun first second => key second ≤ key first := by
  induction items with
  | nil => exact List.pairwise_singleton _ _
  | cons head rest ih =>
      obtain ⟨top, tail⟩ := List.pairwise_cons.mp sorted
      rw [List.orderedInsert]
      split
      · rename_i greater
        refine List.pairwise_cons.mpr ⟨fun other member => ?_, sorted⟩
        rcases List.mem_cons.mp member with rfl | later
        · exact le_of_lt greater
        · exact (top other later).trans (le_of_lt greater)
      · rename_i notGreater
        refine List.pairwise_cons.mpr ⟨fun other member => ?_, ih tail⟩
        rcases (List.mem_orderedInsert _).mp member with rfl | later
        · exact not_lt.mp notGreater
        · exact top other later

/-- Nothing comes before an item with a larger key. -/
theorem pairwise_insertionSort_gt (items : List α) :
    (items.insertionSort fun first second => key first > key second).Pairwise
      fun first second => key second ≤ key first := by
  induction items with
  | nil => exact List.Pairwise.nil
  | cons head rest ih => exact pairwise_orderedInsert_gt key head ih

omit [LinearOrder κ] in
theorem pairwise_either {order : α → α → Prop} {items : List α} (pairs : items.Pairwise order)
    {first second : α} (inside : first ∈ items) (other : second ∈ items)
    (different : first ≠ second) : order first second ∨ order second first := by
  induction items with
  | nil => exact absurd inside List.not_mem_nil
  | cons head rest ih =>
      obtain ⟨top, tail⟩ := List.pairwise_cons.mp pairs
      rcases List.mem_cons.mp inside with rfl | firstLater
      · rcases List.mem_cons.mp other with same | secondLater
        · exact absurd same.symm different
        · exact Or.inl (top second secondLater)
      · rcases List.mem_cons.mp other with rfl | secondLater
        · exact Or.inr (top first firstLater)
        · exact ih tail firstLater secondLater

end Sorting

end Fgw
