import Fgw.Library.Trim
import Mathlib.Data.List.Basic

/-!
The values that JSON and YAML documents hold, and the script operators the gateway
applies to them: truthiness, optional chaining, equality, and use as a property key.
-/

namespace Fgw

def utf16 (text : String) : List Nat :=
  text.toList.flatMap fun c =>
    if c.toNat < 0x10000 then [c.toNat]
    else [0xD800 + (c.toNat - 0x10000) / 0x400, 0xDC00 + (c.toNat - 0x10000) % 0x400]

/-- White space and line ends, as `trim` cuts them off. -/
def isSpaceCode (code : Nat) : Bool :=
  code ∈ [0x9, 0xA, 0xB, 0xC, 0xD, 0x20, 0xA0, 0x1680, 0x2028, 0x2029, 0x202F, 0x205F, 0x3000,
    0xFEFF] || (0x2000 ≤ code && code ≤ 0x200A)

theorem isSpaceCode_digit {c : Char} (digit : c.isDigit = true) : isSpaceCode c.toNat = false := by
  simp only [Char.isDigit, Bool.and_eq_true, decide_eq_true_eq] at digit
  have least : 48 ≤ c.toNat := digit.1
  have most : c.toNat ≤ 57 := digit.2
  simp only [isSpaceCode, Bool.or_eq_false_iff, decide_eq_false_iff_not, Bool.and_eq_false_imp,
    List.mem_cons, List.not_mem_nil, decide_eq_true_eq, or_false, not_or]
  omega

theorem isDigit_of_mem_toString {n : Nat} {c : Char} (member : c ∈ (toString n).toList) :
    c.isDigit = true := by
  have printed : (toString n).toList = Nat.toDigits 10 n := by simp
  rw [printed] at member
  exact Nat.isDigit_of_mem_toDigits (by decide) (by decide) member

theorem toString_injective {m n : Nat} (same : toString m = toString n) : m = n := by
  have printed (k : Nat) : (toString k).toList = Nat.toDigits 10 k := by simp
  have digits := congrArg (fun text => Nat.ofDigitChars 10 (String.toList text) 0) same
  simpa only [printed, Nat.ofDigitChars_ten_toDigits] using digits

/-- `text.trim()` -/
def trimText (text : String) : String :=
  String.ofList (trimBy (fun c => isSpaceCode c.toNat) text.toList)

/-- `configured || fallback` for a number that may be absent: zero counts as absent. -/
def orNumber {α : Type} [OfNat α 0] [DecidableEq α] (configured : Option α) (fallback : α) : α :=
  match configured with
  | none => fallback
  | some value => if value = 0 then fallback else value

theorem orNumber_pos {configured : Option Nat} {fallback : Nat} (positive : 0 < fallback) :
    0 < orNumber configured fallback := by
  cases configured with
  | none => exact positive
  | some value =>
      rw [orNumber]
      split
      · exact positive
      · omega

/-- What a script throws: an engine error, or the text of a `throw` statement. -/
inductive Thrown
  | typeError (text : String)
  | referenceError (name : String)
  | raised (text : String)
  deriving DecidableEq, Repr

/-- A number is represented by the text the engine prints for it, which determines it. -/
inductive Value
  | undefined
  | null
  | bool (value : Bool)
  | num (text : String)
  | str (text : String)
  | arr (items : List Value)
  | obj (fields : List (String × Value))
  deriving Inhabited

namespace Value

def nullish : Value → Bool
  | undefined => true
  | null => true
  | _ => false

def truthy : Value → Bool
  | undefined => false
  | null => false
  | bool value => value
  | num text => text ≠ "0" && text ≠ "NaN"
  | str text => text ≠ ""
  | arr _ => true
  | obj _ => true

/-- `left || right` -/
def or (left right : Value) : Value := if left.truthy then left else right

/-- `value?.name`.  Of the names read here, only objects have any. -/
def opt (value : Value) (name : String) : Value :=
  match value with
  | obj fields => (fields.lookup name).getD undefined
  | _ => undefined

/-- `value.name`, which throws on `undefined` and `null`. -/
def get (value : Value) (name : String) : Except Thrown Value :=
  if value.nullish then .error (.typeError ("cannot read property " ++ name))
  else .ok (value.opt name)

mutual

/-- The string a value becomes in a template or as a property key. -/
def toKey : Value → String
  | undefined => "undefined"
  | null => "null"
  | bool value => if value then "true" else "false"
  | num text => text
  | str text => text
  | arr items => ",".intercalate (toKeys items)
  | obj _ => "[object Object]"

def toKeys : List Value → List String
  | [] => []
  | item :: rest => (if item.nullish then "" else toKey item) :: toKeys rest

end

/-- `left === right`.  Two parsed arrays or objects are never the same object. -/
def strictEq : Value → Value → Bool
  | undefined, undefined => true
  | null, null => true
  | bool left, bool right => left = right
  | num left, num right => left = right && left ≠ "NaN"
  | str left, str right => left = right
  | _, _ => false

def isObject : Value → Bool
  | arr _ => true
  | obj _ => true
  | _ => false

/-- The operand `==` compares once both sides are brought to a number or a string. -/
def primitive : Value → Value
  | bool value => num (if value then "1" else "0")
  | arr items => str (toKey (arr items))
  | obj fields => str (toKey (obj fields))
  | value => value

/-- `left == right`, where `toNumber` prints the number a string converts to. -/
def looseEq (toNumber : String → String) (left right : Value) : Bool :=
  if left.nullish || right.nullish then left.nullish && right.nullish
  else if left.isObject && right.isObject then false
  else
    match left.primitive, right.primitive with
    | num text, str other => strictEq (num text) (num (toNumber other))
    | str text, num other => strictEq (num (toNumber text)) (num other)
    | first, second => strictEq first second

/-- `value?.method?.(…)` for a method of arrays: the items to visit, or nothing to call. -/
def optItems (value : Value) (method : String) : Except Thrown (Option (List Value)) :=
  match value with
  | arr items => .ok (some items)
  | obj fields =>
      if ((obj fields).opt method).nullish then .ok none
      else .error (.typeError (method ++ " is not a function"))
  | _ => .ok none

/-- `value.method(…)` for a method of arrays. -/
def items (value : Value) (method : String) : Except Thrown (List Value) :=
  match value with
  | arr items => .ok items
  | _ => .error (.typeError (method ++ " is not a function"))

/-- The items of `value` when `value instanceof Array`. -/
def array? : Value → Option (List Value)
  | arr items => some items
  | _ => none

/-- On primitive values strict equality is equality, and strict implies loose. -/
theorem eq_of_strictEq {left right : Value} (same : left.strictEq right = true) :
    left = right := by
  cases left <;> cases right <;> simp_all [strictEq]

end Value

/-- `Object.entries(value)` -/
def entriesOf : Value → List (String × Value)
  | .obj fields => fields
  | .arr items => items.zipIdx.map fun item => (Nat.repr item.2, item.1)
  | .str text => text.toList.zipIdx.map fun c => (Nat.repr c.2, .str (String.ofList [c.1]))
  | _ => []

end Fgw
