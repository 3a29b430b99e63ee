import Fgw.Library.Scanf
import Mathlib.Data.Bool.AllAny

/-!
The grammar of JSON texts, and a scan for the brackets and strings that every such text closes.
-/

namespace Fgw

namespace Json

def isWs (c : Char) : Bool := c = ' ' || c = '\t' || c = '\n' || c = '\r'

def Ws (text : List Char) : Prop := ∀ c ∈ text, isWs c = true

/-! Strings. -/

/-- A character that stands for itself in a string. -/
def Unescaped (c : Char) : Prop := c ≠ '"' ∧ c ≠ '\\' ∧ 0x20 ≤ c.toNat

instance (c : Char) : Decidable (Unescaped c) := inferInstanceAs (Decidable (_ ∧ _))

def isHex (c : Char) : Bool :=
  c.isDigit || ('a'.toNat ≤ c.toNat && c.toNat ≤ 'f'.toNat) ||
    ('A'.toNat ≤ c.toNat && c.toNat ≤ 'F'.toNat)

inductive Chars : List Char → Prop
  | nil : Chars []
  | unescaped {c : Char} {rest : List Char} : Unescaped c → Chars rest → Chars (c :: rest)
  | escape {c : Char} {rest : List Char} : c ∈ ['"', '\\', '/', 'b', 'f', 'n', 'r', 't'] →
      Chars rest → Chars ('\\' :: c :: rest)
  | unicode {digits rest : List Char} : digits.length = 4 → (∀ c ∈ digits, isHex c = true) →
      Chars rest → Chars ('\\' :: 'u' :: (digits ++ rest))

def quoted (text : List Char) : List Char := '"' :: (text ++ ['"'])

/-! Numbers. -/

inductive Whole : List Char → Prop
  | zero : Whole ['0']
  | digits {c : Char} {rest : List Char} : c ≠ '0' → AllDigits (c :: rest) → Whole (c :: rest)

inductive Fraction : List Char → Prop
  | none : Fraction []
  | digits {digits : List Char} : digits ≠ [] → AllDigits digits → Fraction ('.' :: digits)

inductive Exponent : List Char → Prop
  | none : Exponent []
  | digits {e : Char} {sign digits : List Char} : e ∈ ['e', 'E'] → sign ∈ [[], ['+'], ['-']] →
      digits ≠ [] → AllDigits digits → Exponent (e :: (sign ++ digits))

inductive Number : List Char → Prop
  | mk {sign whole fraction exponent : List Char} : sign ∈ [[], ['-']] → Whole whole →
      Fraction fraction → Exponent exponent → Number (sign ++ (whole ++ (fraction ++ exponent)))

/-! Values. -/

inductive Symbol
  | value
  | object
  | members
  | member
  | array
  | elements
  | element

inductive Derives : Symbol → List Char → Prop
  | literal {text : List Char} : text ∈ ["true".toList, "false".toList, "null".toList] →
      Derives .value text
  | number {text : List Char} : Number text → Derives .value text
  | string {text : List Char} : Chars text → Derives .value (quoted text)
  | object {text : List Char} : Derives .object text → Derives .value text
  | array {text : List Char} : Derives .array text → Derives .value text
  | emptyObject {ws : List Char} : Ws ws → Derives .object ('{' :: (ws ++ ['}']))
  | filledObject {text : List Char} : Derives .members text →
      Derives .object ('{' :: (text ++ ['}']))
  | lastMember {text : List Char} : Derives .member text → Derives .members text
  | members {text rest : List Char} : Derives .member text → Derives .members rest →
      Derives .members (text ++ ',' :: rest)
  | member {lead key beforeColon value : List Char} : Ws lead → Chars key → Ws beforeColon →
      Derives .element value →
      Derives .member (lead ++ (quoted key ++ (beforeColon ++ ':' :: value)))
  | emptyArray {ws : List Char} : Ws ws → Derives .array ('[' :: (ws ++ [']']))
  | filledArray {text : List Char} : Derives .elements text →
      Derives .array ('[' :: (text ++ [']']))
  | lastElement {text : List Char} : Derives .element text → Derives .elements text
  | elements {text rest : List Char} : Derives .element text → Derives .elements rest →
      Derives .elements (text ++ ',' :: rest)
  | element {lead value trail : List Char} : Ws lead → Derives .value value → Ws trail →
      Derives .element (lead ++ (value ++ trail))

/-- One complete object, with whitespace around it. -/
def IsObject (text : List Char) : Prop :=
  ∃ lead object trail, text = lead ++ (object ++ trail) ∧ Ws lead ∧ Derives .object object ∧
    Ws trail

theorem ws_nil : Ws [] := fun _ member => absurd member List.not_mem_nil

/-! The scan. -/

/-- Where a scan is: outside of strings, with so many brackets open and perhaps right after a value
that a bracket or a quote has closed; in a string; after its backslash; or past a mistake. -/
inductive Place
  | outside (depth : Nat) (closed : Bool)
  | inside (depth : Nat)
  | escape (depth : Nat)
  | broken
  deriving DecidableEq

def scanChar : Place → Char → Place
  | .outside depth closed, c =>
      if c = '"' then if closed then .broken else .inside depth
      else if c = '{' ∨ c = '[' then if closed then .broken else .outside (depth + 1) false
      else if c = '}' ∨ c = ']' then if depth = 0 then .broken else .outside (depth - 1) true
      else if c = ',' ∨ c = ':' then .outside depth false
      else .outside depth closed
  | .inside depth, c =>
      if c = '"' then .outside depth true
      else if c = '\\' then .escape depth
      else if c.toNat < 0x20 then .broken
      else .inside depth
  | .escape depth, _ => .inside depth
  | .broken, _ => .broken

def scan (place : Place) (text : List Char) : Place := text.foldl scanChar place

/-- A character that is neither a quote nor a bracket nor a separator. -/
def Neutral (c : Char) : Prop := c ∉ ['"', '{', '[', '}', ']', ',', ':']

instance (c : Char) : Decidable (Neutral c) := inferInstanceAs (Decidable (_ ∉ _))

theorem scan_append (place : Place) (front back : List Char) :
    scan place (front ++ back) = scan (scan place front) back := List.foldl_append

theorem scan_cons (place : Place) (c : Char) (rest : List Char) :
    scan place (c :: rest) = scan (scanChar place c) rest := rfl

@[simp] theorem scan_broken (text : List Char) : scan .broken text = .broken := by
  induction text with
  | nil => rfl
  | cons c rest ih => exact ih

theorem scan_neutral {text : List Char} (neutral : ∀ c ∈ text, Neutral c) (depth : Nat)
    (closed : Bool) : scan (.outside depth closed) text = .outside depth closed := by
  induction text with
  | nil => rfl
  | cons c rest ih =>
      have own := neutral c List.mem_cons_self
      simp only [Neutral, List.mem_cons, List.not_mem_nil, or_false, not_or] at own
      rw [scan_cons, scanChar]
      simp only [own, or_self, if_false]
      exact ih fun other member => neutral other (List.mem_cons_of_mem c member)

theorem neutral_of_isDigit {c : Char} (digit : c.isDigit = true) : Neutral c := by
  rintro member
  simp only [List.mem_cons, List.not_mem_nil, or_false] at member
  rcases member with rfl | rfl | rfl | rfl | rfl | rfl | rfl <;> exact absurd digit (by decide)

theorem neutral_of_isWs {c : Char} (ws : isWs c = true) : Neutral c := by
  rintro member
  simp only [List.mem_cons, List.not_mem_nil, or_false] at member
  rcases member with rfl | rfl | rfl | rfl | rfl | rfl | rfl <;> exact absurd ws (by decide)

theorem scan_ws {text : List Char} (ws : Ws text) (depth : Nat) (closed : Bool) :
    scan (.outside depth closed) text = .outside depth closed :=
  scan_neutral (fun c member => neutral_of_isWs (ws c member)) depth closed

/-! What the scan finds in the texts of the grammar. -/

theorem unescaped_of_isHex {c : Char} (hex : isHex c = true) : Unescaped c := by
  refine ⟨?_, ?_, ?_⟩
  · rintro rfl
    exact absurd hex (by decide)
  · rintro rfl
    exact absurd hex (by decide)
  · have first : 'a'.toNat = 97 := rfl
    have capital : 'A'.toNat = 65 := rfl
    simp only [isHex, Bool.or_eq_true, Bool.and_eq_true, decide_eq_true_eq] at hex
    rcases hex with (digit | ⟨least, _⟩) | ⟨least, _⟩
    · have bounds := isDigit_bounds digit
      omega
    · omega
    · omega

theorem scanChar_unescaped {c : Char} (unescaped : Unescaped c) (depth : Nat) :
    scanChar (.inside depth) c = .inside depth := by
  obtain ⟨quote, backslash, printed⟩ := unescaped
  rw [scanChar, if_neg quote, if_neg backslash, if_neg (by omega)]

theorem scan_unescaped {text : List Char} (unescaped : ∀ c ∈ text, Unescaped c) (depth : Nat) :
    scan (.inside depth) text = .inside depth := by
  induction text with
  | nil => rfl
  | cons c rest ih =>
      rw [scan_cons, scanChar_unescaped (unescaped c List.mem_cons_self)]
      exact ih fun other member => unescaped other (List.mem_cons_of_mem c member)

theorem scan_chars {text : List Char} (chars : Chars text) (depth : Nat) :
    scan (.inside depth) text = .inside depth := by
  induction chars with
  | nil => rfl
  | unescaped unescaped _ ih => rw [scan_cons, scanChar_unescaped unescaped, ih]
  | escape _ _ ih => exact ih
  | unicode _ hex _ ih =>
      have digits := scan_unescaped (fun c member => unescaped_of_isHex (hex c member)) depth
      rw [scan_cons, scan_cons, scan_append]
      exact (congrArg (scan · _) digits).trans ih

theorem scan_quoted {text : List Char} (chars : Chars text) (depth : Nat) :
    scan (.outside depth false) (quoted text) = .outside depth true := by
  rw [quoted, scan_cons, scan_append]
  exact congrArg (scan · ['"']) (scan_chars chars depth)

theorem neutral_of_number {text : List Char} (number : Number text) : ∀ c ∈ text, Neutral c := by
  have digits {digits : List Char} (all : AllDigits digits) : ∀ c ∈ digits, Neutral c :=
    fun c member => neutral_of_isDigit (all c member)
  have signs : ∀ sign ∈ [[], ['+'], ['-']], ∀ c ∈ sign, Neutral c := by
    intro sign one
    simp only [List.mem_cons, List.not_mem_nil, or_false] at one
    rcases one with rfl | rfl | rfl <;> exact List.all_iff_forall_prop.mp (by decide)
  cases number with
  | mk sign whole fraction exponent =>
      simp only [List.forall_mem_append]
      refine ⟨signs _ ?_, ?_, ?_, ?_⟩
      · rcases List.mem_cons.mp sign with rfl | minus
        · exact List.mem_cons_self
        · exact List.mem_cons_of_mem _ (List.mem_cons_of_mem _ minus)
      · cases whole with
        | zero => exact List.all_iff_forall_prop.mp (by decide)
        | digits _ all => exact digits all
      · cases fraction with
        | none => exact fun c member => absurd member List.not_mem_nil
        | digits _ all => exact List.forall_mem_cons.mpr ⟨by decide, digits all⟩
      · cases exponent with
        | none => exact fun c member => absurd member List.not_mem_nil
        | @digits e sign _ letter one _ all =>
            rw [List.forall_mem_cons, List.forall_mem_append]
            have letters : ∀ e ∈ ['e', 'E'], Neutral e :=
              List.all_iff_forall_prop.mp (by decide)
            exact ⟨letters e letter, signs sign one, digits all⟩

theorem scan_brackets {depth : Nat} {left right : Char} {text : List Char} {closed : Bool}
    (opens : scanChar (.outside depth false) left = .outside (depth + 1) false)
    (closes : scanChar (.outside (depth + 1) closed) right = .outside depth true)
    (between : scan (.outside (depth + 1) false) text = .outside (depth + 1) closed) :
    scan (.outside depth false) (left :: (text ++ [right])) = .outside depth true := by
  rw [scan_cons, opens, scan_append, between, scan_cons, closes]
  rfl

/-- After a comma or a colon the scan goes on as before. -/
theorem scan_separated {depth : Nat} {separator : Char} {text rest : List Char}
    {place : Place} {closed : Bool}
    (first : scan place text = .outside depth closed)
    (separates : scanChar (.outside depth closed) separator = .outside depth false) :
    scan place (text ++ separator :: rest) = scan (.outside depth false) rest := by
  rw [scan_append, first, scan_cons, separates]

/-- Whatever the grammar derives leaves as many brackets open as it finds. -/
theorem Derives.scan {symbol : Symbol} {text : List Char} (derives : Derives symbol text)
    (depth : Nat) : ∃ closed, scan (.outside depth false) text = .outside depth closed := by
  induction derives generalizing depth with
  | literal member =>
      have literals : ∀ text ∈ ["true".toList, "false".toList, "null".toList],
          ∀ c ∈ text, Neutral c := by
        simp only [List.forall_mem_cons, List.not_mem_nil, false_implies, implies_true, and_true]
        exact ⟨List.all_iff_forall_prop.mp (by decide +kernel),
          List.all_iff_forall_prop.mp (by decide +kernel),
          List.all_iff_forall_prop.mp (by decide +kernel)⟩
      exact ⟨false, scan_neutral (literals _ member) depth false⟩
  | number number => exact ⟨false, scan_neutral (neutral_of_number number) depth false⟩
  | string chars => exact ⟨true, scan_quoted chars depth⟩
  | object _ ih => exact ih depth
  | array _ ih => exact ih depth
  | emptyObject ws => exact ⟨true, scan_brackets rfl rfl (scan_ws ws (depth + 1) false)⟩
  | filledObject _ ih =>
      obtain ⟨closed, between⟩ := ih (depth + 1)
      exact ⟨true, scan_brackets rfl rfl between⟩
  | lastMember _ ih => exact ih depth
  | members _ _ first rest =>
      obtain ⟨closed, before⟩ := first depth
      rw [scan_separated before rfl]
      exact rest depth
  | member lead key beforeColon _ ih =>
      rw [scan_append, scan_ws lead, scan_append, scan_quoted key,
        scan_separated (scan_ws beforeColon depth true) rfl]
      exact ih depth
  | emptyArray ws => exact ⟨true, scan_brackets rfl rfl (scan_ws ws (depth + 1) false)⟩
  | filledArray _ ih =>
      obtain ⟨closed, between⟩ := ih (depth + 1)
      exact ⟨true, scan_brackets rfl rfl between⟩
  | lastElement _ ih => exact ih depth
  | elements _ _ first rest =>
      obtain ⟨closed, before⟩ := first depth
      rw [scan_separated before rfl]
      exact rest depth
  | element lead _ trail ih =>
      obtain ⟨closed, value⟩ := ih depth
      refine ⟨closed, ?_⟩
      rw [scan_append, scan_ws lead, scan_append, value, scan_ws trail]

/-- A complete object leaves no bracket and no string open. -/
theorem IsObject.scan {text : List Char} (object : IsObject text) :
    ∃ closed, scan (.outside 0 false) text = .outside 0 closed := by
  obtain ⟨lead, object, trail, rfl, before, derives, after⟩ := object
  obtain ⟨closed, whole⟩ := derives.scan 0
  refine ⟨closed, ?_⟩
  rw [scan_append, scan_ws before, scan_append, whole, scan_ws after]

/-- A control character breaks its string. -/
theorem scan_control {text : List Char} (plain : ∀ c ∈ text, c ≠ '"' ∧ c ≠ '\\')
    (control : ∃ c ∈ text, c.toNat < 0x20) (depth : Nat) : scan (.inside depth) text = .broken := by
  induction text with
  | nil => simp at control
  | cons c rest ih =>
      obtain ⟨quote, backslash⟩ := plain c List.mem_cons_self
      by_cases own : c.toNat < 0x20
      · rw [scan_cons, scanChar, if_neg quote, if_neg backslash, if_pos own, scan_broken]
      · rw [scan_cons, scanChar_unescaped ⟨quote, backslash, not_lt.mp own⟩]
        refine ih (fun other member => plain other (List.mem_cons_of_mem c member)) ?_
        obtain ⟨other, member, low⟩ := control
        rcases List.mem_cons.mp member with rfl | later
        · exact absurd low own
        · exact ⟨other, later, low⟩

/-! Texts that are printed. -/

theorem chars_of_unescaped {text : List Char} (unescaped : ∀ c ∈ text, Unescaped c) :
    Chars text := by
  induction text with
  | nil => exact .nil
  | cons c rest ih =>
      exact .unescaped (unescaped c List.mem_cons_self)
        (ih fun other member => unescaped other (List.mem_cons_of_mem c member))

theorem whole_toDigits (n : Nat) : Whole (Nat.toDigits 10 n) := by
  have leads : 0 < n → (Nat.toDigits 10 n).head? ≠ some '0' := by
    induction n using Nat.strong_induction_on with
    | _ n ih =>
        intro positive
        by_cases short : n < 10
        · have digits : ∀ n < 10, 0 < n → some n.digitChar ≠ some '0' := by decide
          rw [Nat.toDigits_of_lt_base short, List.head?_cons]
          exact digits n short positive
        · rw [Nat.toDigits_of_base_le (by decide) (by omega),
            List.head?_append_of_ne_nil _ Nat.toDigits_ne_nil]
          exact ih (n / 10) (by omega) (by omega)
  have all := allDigits_toDigits n
  rcases Nat.eq_zero_or_pos n with rfl | positive
  · rw [Nat.toDigits_zero]
    exact .zero
  · obtain ⟨c, rest, digits⟩ := List.exists_cons_of_ne_nil (@Nat.toDigits_ne_nil n 10)
    have nonzero := leads positive
    rw [digits] at all nonzero ⊢
    exact .digits (fun zero => nonzero (by rw [zero]; rfl)) all

theorem number_toString (value : Int) : Number (toString value).toList := by
  have plain {sign : List Char} (one : sign ∈ [[], ['-']]) :
      Number (sign ++ Nat.toDigits 10 value.natAbs) := by
    have number := Number.mk one (whole_toDigits value.natAbs) .none .none
    rwa [List.append_nil, List.append_nil] at number
  rw [toList_toString]
  split
  · exact plain (by decide)
  · exact plain (by decide)

/-- A member without whitespace. -/
theorem Derives.entry {key value : List Char} (name : Chars key) (derives : Derives .value value) :
    Derives .member (quoted key ++ ':' :: value) := by
  have element := Derives.element ws_nil derives ws_nil
  rw [List.nil_append, List.append_nil] at element
  exact Derives.member ws_nil name ws_nil element

end Json

end Fgw
