import Fgw.Library.PaddedNumbers
import Mathlib.Data.List.TakeWhile

/-!
The conversions of `scanf` that read a number and a word.
-/

namespace Fgw

/-- `isspace` -/
def isBlank (c : Char) : Bool :=
  c = ' ' || c = '\t' || c = '\n' || c = '\x0b' || c = '\x0c' || c = '\r'

def Blanks (text : List Char) : Prop := ∀ c ∈ text, isBlank c = true

/-- Nothing that the test holds of comes first. -/
def StopsAt (test : Char → Bool) (text : List Char) : Prop := ∀ c ∈ text.head?, test c = false

theorem stopsAt_dropWhile (test : Char → Bool) (text : List Char) :
    StopsAt test (text.dropWhile test) := by
  intro c first
  have head := List.head?_dropWhile_not test text
  rw [Option.mem_def.mp first] at head
  simpa using head

theorem takeWhile_append_stop {test : Char → Bool} {front back : List Char}
    (all : ∀ c ∈ front, test c = true) (stop : StopsAt test back) :
    (front ++ back).takeWhile test = front ∧ (front ++ back).dropWhile test = back := by
  rw [List.takeWhile_append_of_pos all, List.dropWhile_append_of_pos all]
  cases back with
  | nil => simp
  | cons c back => simp [stop c rfl]

/-! Numbers. -/

/-- A decimal numeral, with a sign or without one. -/
inductive Numeral : List Char → Int → Prop
  | plain {digits : List Char} : digits ≠ [] → AllDigits digits →
      Numeral digits (digitsValue digits)
  | plus {digits : List Char} : digits ≠ [] → AllDigits digits →
      Numeral ('+' :: digits) (digitsValue digits)
  | minus {digits : List Char} : digits ≠ [] → AllDigits digits →
      Numeral ('-' :: digits) (-digitsValue digits)

/-- The number that a text starts with, after blanks, and the text after it. -/
def StartsWithInt (input : List Char) (value : Int) (rest : List Char) : Prop :=
  ∃ blanks numeral, input = blanks ++ (numeral ++ rest) ∧ Blanks blanks ∧
    Numeral numeral value ∧ StopsAt Char.isDigit rest

def scanDigits (input : List Char) : Option (Nat × List Char) :=
  let digits := input.takeWhile Char.isDigit
  if digits = [] then none
  else some (digitsValue digits, input.dropWhile Char.isDigit)

/-- `%d` -/
def scanInt (input : List Char) : Option (Int × List Char) :=
  match input.dropWhile isBlank with
  | '-' :: rest => (scanDigits rest).map fun read => (-(read.1 : Int), read.2)
  | '+' :: rest => (scanDigits rest).map fun read => ((read.1 : Int), read.2)
  | rest => (scanDigits rest).map fun read => ((read.1 : Int), read.2)

theorem scanDigits_append {digits rest : List Char} (filled : digits ≠ []) (all : AllDigits digits)
    (stop : StopsAt Char.isDigit rest) :
    scanDigits (digits ++ rest) = some (digitsValue digits, rest) := by
  obtain ⟨taken, dropped⟩ := takeWhile_append_stop all stop
  rw [scanDigits, taken, dropped, if_neg filled]

theorem scanDigits_eq_some_iff (input : List Char) (value : Nat) (rest : List Char) :
    scanDigits input = some (value, rest) ↔
      ∃ digits, input = digits ++ rest ∧ digits ≠ [] ∧ AllDigits digits ∧
        digitsValue digits = value ∧ StopsAt Char.isDigit rest := by
  constructor
  · intro read
    simp only [scanDigits, Option.ite_none_left_eq_some, Option.some.injEq, Prod.mk.injEq] at read
    obtain ⟨filled, rfl, rfl⟩ := read
    exact ⟨_, List.takeWhile_append_dropWhile.symm, filled,
      fun c member => List.mem_takeWhile_imp member, rfl, stopsAt_dropWhile _ _⟩
  · rintro ⟨digits, rfl, filled, all, rfl, stop⟩
    exact scanDigits_append filled all stop

theorem isBlank_of_isDigit {c : Char} (digit : c.isDigit = true) : isBlank c = false := by
  have bounds := isDigit_bounds digit
  simp only [isBlank, Bool.or_eq_false_iff, decide_eq_false_iff_not]
  refine ⟨⟨⟨⟨⟨?_, ?_⟩, ?_⟩, ?_⟩, ?_⟩, ?_⟩
  all_goals
    rintro rfl
    revert bounds
    decide

theorem Numeral.stopsBlanks {numeral : List Char} {value : Int} (written : Numeral numeral value)
    (rest : List Char) : StopsAt isBlank (numeral ++ rest) := by
  intro c first
  cases written with
  | plain filled all =>
      obtain ⟨d, digits, rfl⟩ := List.exists_cons_of_ne_nil filled
      cases first
      exact isBlank_of_isDigit (all _ List.mem_cons_self)
  | plus filled all =>
      cases first
      rfl
  | minus filled all =>
      cases first
      rfl

theorem scanInt_eq_some_iff (input : List Char) (value : Int) (rest : List Char) :
    scanInt input = some (value, rest) ↔ StartsWithInt input value rest := by
  constructor
  · intro read
    have whole : input = input.takeWhile isBlank ++ input.dropWhile isBlank :=
      List.takeWhile_append_dropWhile.symm
    have blanks : Blanks (input.takeWhile isBlank) := fun c member =>
      List.mem_takeWhile_imp member
    rw [scanInt] at read
    split at read
    · rename_i text signed
      simp only [Option.map_eq_some_iff, Prod.exists, Prod.mk.injEq] at read
      obtain ⟨n, after, counted, rfl, rfl⟩ := read
      obtain ⟨digits, rfl, filled, all, rfl, stop⟩ := (scanDigits_eq_some_iff _ _ _).mp counted
      rw [signed] at whole
      exact ⟨_, '-' :: digits, whole, blanks, .minus filled all, stop⟩
    · rename_i text signed
      simp only [Option.map_eq_some_iff, Prod.exists, Prod.mk.injEq] at read
      obtain ⟨n, after, counted, rfl, rfl⟩ := read
      obtain ⟨digits, rfl, filled, all, rfl, stop⟩ := (scanDigits_eq_some_iff _ _ _).mp counted
      rw [signed] at whole
      exact ⟨_, '+' :: digits, whole, blanks, .plus filled all, stop⟩
    · simp only [Option.map_eq_some_iff, Prod.exists, Prod.mk.injEq] at read
      obtain ⟨n, after, counted, rfl, rfl⟩ := read
      obtain ⟨digits, same, filled, all, rfl, stop⟩ := (scanDigits_eq_some_iff _ _ _).mp counted
      rw [same] at whole
      exact ⟨_, digits, whole, blanks, .plain filled all, stop⟩
  · rintro ⟨blanks, numeral, rfl, all, written, stop⟩
    obtain ⟨_, dropped⟩ := takeWhile_append_stop all (written.stopsBlanks rest)
    rw [scanInt, dropped]
    cases written with
    | plain filled allDigits =>
        have read := scanDigits_append filled allDigits stop
        obtain ⟨d, digits, rfl⟩ := List.exists_cons_of_ne_nil filled
        have digit : d.isDigit = true := allDigits d List.mem_cons_self
        split
        · rename_i signed
          cases signed
          exact absurd digit (by decide)
        · rename_i signed
          cases signed
          exact absurd digit (by decide)
        · rw [read]
          rfl
    | plus filled allDigits =>
        change (scanDigits (_ ++ rest)).map _ = _
        rw [scanDigits_append filled allDigits stop]
        rfl
    | minus filled allDigits =>
        change (scanDigits (_ ++ rest)).map _ = _
        rw [scanDigits_append filled allDigits stop]
        rfl

theorem toList_toString (value : Int) : (toString value).toList =
    (if value < 0 then ['-'] else []) ++ Nat.toDigits 10 value.natAbs := by
  cases value with
  | ofNat n =>
      change (Nat.repr n).toList = _
      rw [if_neg (by simp)]
      simp
  | negSucc n =>
      change ("-" ++ Nat.repr (n + 1)).toList = _
      rw [if_pos (Int.negSucc_lt_zero n)]
      simp

theorem allDigits_toDigits (n : Nat) : AllDigits (Nat.toDigits 10 n) :=
  fun _ member => Nat.isDigit_of_mem_toDigits (by decide) (by decide) member

theorem digitsValue_toDigits (n : Nat) : digitsValue (Nat.toDigits 10 n) = n :=
  Nat.ofDigitChars_ten_toDigits

theorem numeral_toString (value : Int) : Numeral (toString value).toList value := by
  have all := allDigits_toDigits value.natAbs
  rw [toList_toString]
  split
  · rename_i negative
    have written := Numeral.minus Nat.toDigits_ne_nil all
    rw [digitsValue_toDigits, Int.ofNat_natAbs_of_nonpos negative.le, Int.neg_neg] at written
    exact written
  · rename_i natural
    have written := Numeral.plain Nat.toDigits_ne_nil all
    rw [digitsValue_toDigits, Int.natAbs_of_nonneg (not_lt.mp natural)] at written
    exact written

theorem mem_toString {value : Int} {c : Char} (member : c ∈ (toString value).toList) :
    c = '-' ∨ c.isDigit = true := by
  rw [toList_toString, List.mem_append] at member
  rcases member with sign | digit
  · split at sign
    · exact .inl (List.mem_singleton.mp sign)
    · cases sign
  · exact .inr (allDigits_toDigits _ c digit)

theorem length_toString_le {value : Int} {digits : Nat} (positive : 0 < digits)
    (below : value.natAbs < 10 ^ digits) : (toString value).toList.length ≤ digits + 1 := by
  have short := (Nat.length_toDigits_le_iff (b := 10) (by decide) positive).mpr below
  rw [toList_toString, List.length_append]
  split
  · rw [List.length_singleton]
    omega
  · rw [List.length_nil]
    omega

/-! Words. -/

/-- The word that a text starts with, after blanks. -/
def StartsWithWord (input word : List Char) : Prop :=
  ∃ blanks rest, input = blanks ++ (word ++ rest) ∧ Blanks blanks ∧ word ≠ [] ∧
    (∀ c ∈ word, isBlank c = false) ∧ StopsAt (fun c => !isBlank c) rest

/-- `%s` -/
def scanWord (input : List Char) : Option (List Char) :=
  let word := (input.dropWhile isBlank).takeWhile fun c => !isBlank c
  if word = [] then none else some word

theorem scanWord_eq_some_iff (input word : List Char) :
    scanWord input = some word ↔ StartsWithWord input word := by
  constructor
  · intro read
    simp only [scanWord, Option.ite_none_left_eq_some, Option.some.injEq] at read
    obtain ⟨filled, rfl⟩ := read
    refine ⟨input.takeWhile isBlank, (input.dropWhile isBlank).dropWhile fun c => !isBlank c,
      ?_, fun c member => List.mem_takeWhile_imp member, filled, fun c member => ?_,
      stopsAt_dropWhile _ _⟩
    · rw [List.takeWhile_append_dropWhile, List.takeWhile_append_dropWhile]
    · simpa using List.mem_takeWhile_imp member
  · rintro ⟨blanks, rest, rfl, all, filled, letters, stop⟩
    have first : StopsAt isBlank (word ++ rest) := by
      obtain ⟨c, word, rfl⟩ := List.exists_cons_of_ne_nil filled
      intro other same
      cases same
      exact letters _ List.mem_cons_self
    obtain ⟨_, dropped⟩ := takeWhile_append_stop all first
    have taken : (word ++ rest).takeWhile (fun c => !isBlank c) = word :=
      (takeWhile_append_stop (fun c member => by rw [letters c member]; rfl) stop).1
    rw [scanWord, dropped, taken, if_neg filled]

end Fgw
