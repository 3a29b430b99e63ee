import Fgw.Library.SharedWrites
import Mathlib.Data.Prod.Basic

/-!
The filters that modify headers, on header maps whose values are texts or, for repeated headers,
lists of texts.
-/

namespace Fgw

inductive HeaderValue
  | text (value : String)
  | list (values : List String)
  deriving DecidableEq, Repr

abbrev HeaderMap := Table HeaderValue

/-- `set`, `add` and `remove` of a modifier.  A list that is not configured is an empty one. -/
structure HeaderModification where
  set : List (String × String)
  add : List (String × String)
  remove : List String

structure RequestHeaderConfig where
  requestHeaderModifier : HeaderModification

structure ResponseHeaderConfig where
  responseHeaderModifier : HeaderModification

namespace HeaderValue

def truthy : HeaderValue → Bool
  | text value => value ≠ ""
  | list _ => true

/-- What a value becomes when a text is added to it: the items of a list are joined. -/
def print : HeaderValue → String
  | text value => value
  | list values => ",".intercalate values

/-- The new value of a header to which `v` is added, where `w` is `',' + v`. -/
def addTo (u : Option HeaderValue) (v w : String) : HeaderValue :=
  match u with
  | none => text v
  | some u => if u.truthy then text (u.print ++ w) else text v

end HeaderValue

section Modify

variable (lowerCase : String → String)

def setModified (headers : HeaderMap) (entry : String × HeaderValue) : HeaderMap :=
  headers.set entry.1 entry.2

def addHeader (headers : HeaderMap) (entry : String × String) : HeaderMap :=
  headers.set entry.1 (HeaderValue.addTo (headers.get? entry.1) entry.2 ("," ++ entry.2))

/-- The handler that both filters have for the start of a message. -/
def modifyHeaders (config : HeaderModification) (headers : HeaderMap) : HeaderMap :=
  let set := config.set.map fun entry => (lowerCase entry.1, HeaderValue.text entry.2)
  let add := config.add.map fun entry => (lowerCase entry.1, entry.2)
  let del := config.remove.map lowerCase
  del.foldl Table.erase (add.foldl addHeader (set.foldl setModified headers))

def requestHeaderModifier (config : RequestHeaderConfig) (headers : HeaderMap) : HeaderMap :=
  modifyHeaders lowerCase config.requestHeaderModifier headers

def responseHeaderModifier (config : ResponseHeaderConfig) (headers : HeaderMap) : HeaderMap :=
  modifyHeaders lowerCase config.responseHeaderModifier headers

end Modify

/-! What a configuration asks for. -/

/-- A list gets one more item, a text is extended after a comma. -/
def HeaderValue.extend : HeaderValue → String → HeaderValue
  | .text value, added => .text (value ++ "," ++ added)
  | .list values, added => .list (values ++ [added])

def HeaderValue.extendBy (value : HeaderValue) (added : List String) : HeaderValue :=
  added.foldl HeaderValue.extend value

def newHeader : List String → Option HeaderValue
  | [] => none
  | first :: rest => some ((HeaderValue.text first).extendBy rest)

section Asked

variable (lowerCase : String → String)

def named (headers : HeaderMap) (name : String) : List (String × HeaderValue) :=
  headers.entries.filter fun entry => lowerCase entry.1 = lowerCase name

namespace HeaderModification

def Removes (config : HeaderModification) (name : String) : Prop :=
  ∃ removed ∈ config.remove, lowerCase removed = lowerCase name

def lastSet (config : HeaderModification) (name : String) : Option String :=
  lastWrite (config.set.map fun entry => (lowerCase entry.1, entry.2)) (lowerCase name)

def added (config : HeaderModification) (name : String) : List String :=
  (config.add.filter fun entry => lowerCase entry.1 = lowerCase name).map Prod.snd

def Touches (config : HeaderModification) (name : String) : Prop :=
  config.Removes lowerCase name ∨ config.lastSet lowerCase name ≠ none ∨
    config.added lowerCase name ≠ []

end HeaderModification

/-- The headers of one name are as configured: absent, set, added to, or unchanged. -/
structure ModifiedAt (config : HeaderModification) (before after : HeaderMap) (name : String) :
    Prop where
  removed : config.Removes lowerCase name → named lowerCase after name = []
  set : ¬ config.Removes lowerCase name → ∀ value, config.lastSet lowerCase name = some value →
    (named lowerCase after name).map Prod.snd =
      [(HeaderValue.text value).extendBy (config.added lowerCase name)]
  kept : ¬ config.Removes lowerCase name → config.lastSet lowerCase name = none →
    named lowerCase before name ≠ [] →
      named lowerCase after name = (named lowerCase before name).map fun entry =>
        (entry.1, entry.2.extendBy (config.added lowerCase name))
  new : ¬ config.Removes lowerCase name → config.lastSet lowerCase name = none →
    named lowerCase before name = [] →
      (named lowerCase after name).map Prod.snd = (newHeader (config.added lowerCase name)).toList

def ModifiedAs (config : HeaderModification) (before after : HeaderMap) : Prop :=
  ∀ name, ModifiedAt lowerCase config before after name

/-- A value to which these can be added by the text operator. -/
def Addable : Option HeaderValue → List String → Prop
  | _, [] => True
  | none, first :: rest => first ≠ "" ∨ rest = []
  | some (.text value), _ :: _ => value ≠ ""
  | some (.list _), _ :: _ => False

/-- The headers that are touched are spelled in lower case, and nothing is added to a list or an
empty text. -/
structure AddsToText (config : HeaderModification) (headers : HeaderMap) : Prop where
  spelled : ∀ name, config.Touches lowerCase name → ∀ entry ∈ named lowerCase headers name,
    entry.1 = lowerCase name
  text : ∀ name, ¬ config.Removes lowerCase name →
    Addable (((config.lastSet lowerCase name).map .text).or (headers.get? (lowerCase name)))
      (config.added lowerCase name)

/-! One header. -/

namespace HeaderValue

/-- The value that the text operator makes of a header, addition by addition. -/
def addAll (start : Option HeaderValue) (added : List String) : Option HeaderValue :=
  added.foldl (fun u v => some (addTo u v ("," ++ v))) start

/-- What the values added to a header should make of it. -/
def asked (start : Option HeaderValue) (added : List String) : Option HeaderValue :=
  match start with
  | none => newHeader added
  | some value => some (value.extendBy added)

def size : HeaderValue → Nat
  | text value => value.length
  | list values => values.length

def isText : HeaderValue → Bool
  | text _ => true
  | list _ => false

theorem addAll_text {value : String} (nonempty : value ≠ "") (added : List String) :
    addAll (some (text value)) added = some ((text value).extendBy added) := by
  induction added generalizing value with
  | nil => rfl
  | cons first rest ih =>
      have truthy : (text value).truthy = true := by simpa [HeaderValue.truthy] using nonempty
      have longer : value ++ "," ++ first ≠ "" := by
        intro empty
        have length := congrArg String.length empty
        simp at length
      have now : addTo (some (text value)) first ("," ++ first) =
          text (value ++ "," ++ first) := by
        rw [addTo, if_pos truthy, print, String.append_assoc]
      rw [addAll, List.foldl_cons, now, extendBy, List.foldl_cons, extend]
      exact ih longer

theorem exists_addAll (start : HeaderValue) (added : List String) :
    ∃ result, addAll (some start) added = some result := by
  induction added generalizing start with
  | nil => exact ⟨start, rfl⟩
  | cons first rest ih => exact ih (addTo (some start) first ("," ++ first))

theorem addTo_isText (u : Option HeaderValue) (v w : String) : (addTo u v w).isText = true := by
  cases u with
  | none => rfl
  | some value =>
      rw [addTo]
      split <;> rfl

theorem addAll_isText {start value : HeaderValue} (added : List String)
    (isText : start.isText = true) (result : addAll (some start) added = some value) :
    value.isText = true := by
  induction added generalizing start with
  | nil =>
      cases result
      exact isText
  | cons first rest ih => exact ih (addTo_isText (some start) first ("," ++ first)) result

theorem extendBy_isText (value : HeaderValue) (added : List String) :
    (value.extendBy added).isText = value.isText := by
  induction added generalizing value with
  | nil => rfl
  | cons first rest ih =>
      rw [extendBy, List.foldl_cons]
      refine (ih (value.extend first)).trans ?_
      cases value <;> rfl

theorem size_extendBy (value : HeaderValue) (added : List String) :
    value.size + added.length ≤ (value.extendBy added).size := by
  induction added generalizing value with
  | nil => exact Nat.le_refl _
  | cons first rest ih =>
      have later := ih (value.extend first)
      have now : value.size + 1 ≤ (value.extend first).size := by
        cases value with
        | text before =>
            simp only [extend, size, String.length_append]
            have comma : ",".length = 1 := rfl
            omega
        | list before =>
            simp only [extend, size, List.length_append, List.length_singleton]
            omega
      rw [extendBy, List.foldl_cons, List.length_cons]
      rw [extendBy] at later
      omega

/-- Texts of different lengths stay apart by as much. -/
theorem size_extendBy_text (value other : String) (added : List String) :
    ((text value).extendBy added).size + other.length =
      ((text other).extendBy added).size + value.length := by
  induction added generalizing value other with
  | nil =>
      simp only [extendBy, List.foldl_nil, size]
      omega
  | cons first rest ih =>
      have later := ih (value ++ "," ++ first) (other ++ "," ++ first)
      simp only [String.length_append] at later
      simp only [extendBy, List.foldl_cons, extend] at later ⊢
      omega

theorem size_addAll {value : String} {result : HeaderValue} (added : List String)
    (isResult : addAll (some (text value)) added = some result) :
    result.size ≤ ((text value).extendBy added).size := by
  induction added generalizing value with
  | nil =>
      cases isResult
      exact Nat.le_refl _
  | cons first rest ih =>
      by_cases empty : value = ""
      · subst empty
        have shorter : result.size ≤ ((text first).extendBy rest).size := ih isResult
        have apart := size_extendBy_text first ("" ++ "," ++ first) rest
        simp only [String.length_append] at apart
        simp only [extendBy, List.foldl_cons, extend] at shorter apart ⊢
        omega
      · rw [addAll_text empty] at isResult
        cases isResult
        exact Nat.le_refl _

theorem addAll_empty (first : String) (rest : List String) :
    addAll (some (text "")) (first :: rest) ≠ some ((text "").extendBy (first :: rest)) := by
  intro same
  have shorter : ((text "").extendBy (first :: rest)).size ≤ ((text first).extendBy rest).size :=
    size_addAll rest same
  have apart := size_extendBy_text first ("" ++ "," ++ first) rest
  have comma : ("" ++ "," ++ first).length = first.length + 1 := by
    simp only [String.length_append]
    have one : ",".length = 1 := rfl
    have none : "".length = 0 := rfl
    omega
  simp only [extendBy, List.foldl_cons, extend] at shorter apart
  omega

theorem addAll_iff (start : Option HeaderValue) (added : List String) :
    addAll start added = asked start added ↔ Addable start added := by
  cases added with
  | nil => cases start <;> simp [addAll, asked, newHeader, extendBy, Addable]
  | cons first rest =>
      match start with
      | none =>
          have begun : addAll none (first :: rest) = addAll (some (text first)) rest := rfl
          rw [begun, asked, newHeader, Addable]
          by_cases nonempty : first = ""
          · subst nonempty
            cases rest with
            | nil => simp [addAll, extendBy]
            | cons second rest => simpa using addAll_empty second rest
          · simp [addAll_text nonempty rest, nonempty]
      | some (.text value) =>
          rw [asked, Addable]
          by_cases nonempty : value = ""
          · subst nonempty
            simpa using addAll_empty first rest
          · simp [addAll_text nonempty, nonempty]
      | some (.list values) =>
          refine iff_of_false ?_ id
          intro same
          have joined := addAll_isText rest (addTo_isText (some (list values)) first _) same
          rw [extendBy_isText] at joined
          exact absurd joined Bool.false_ne_true

end HeaderValue

/-! The whole map. -/

theorem get?_addHeaders (add : List (String × String)) (headers : HeaderMap) (key : String) :
    (add.foldl addHeader headers).get? key =
      HeaderValue.addAll (headers.get? key)
        ((add.filter fun entry => entry.1 = key).map Prod.snd) := by
  induction add generalizing headers with
  | nil => rfl
  | cons entry rest ih =>
      rw [List.foldl_cons, ih, addHeader, Table.get?_set]
      by_cases same : entry.1 = key
      · rw [if_pos same, List.filter_cons_of_pos (by simp [same]), same]
        rfl
      · rw [if_neg same, List.filter_cons_of_neg (by simp [same])]

theorem get?_eraseAll (del : List String) (headers : HeaderMap) (key : String) :
    (del.foldl Table.erase headers).get? key =
      if key ∈ del then none else headers.get? key := by
  induction del generalizing headers with
  | nil => simp
  | cons first rest ih =>
      rw [List.foldl_cons, ih, Table.get?_erase]
      by_cases later : key ∈ rest
      · simp [later]
      · by_cases same : first = key
        · simp [same]
        · simp [later, same, Ne.symm same]

variable {lowerCase}

theorem get?_modifyHeaders (config : HeaderModification) (headers : HeaderMap) (name : String)
    [Decidable (config.Removes lowerCase name)] :
    (modifyHeaders lowerCase config headers).get? (lowerCase name) =
      if config.Removes lowerCase name then none
      else HeaderValue.addAll
        (((config.lastSet lowerCase name).map .text).or (headers.get? (lowerCase name)))
        (config.added lowerCase name) := by
  have removes : lowerCase name ∈ config.remove.map lowerCase ↔
      config.Removes lowerCase name := List.mem_map
  have added : ((config.add.map fun entry => (lowerCase entry.1, entry.2)).filter fun entry =>
      entry.1 = lowerCase name).map Prod.snd = config.added lowerCase name := by
    rw [List.filter_map, List.map_map]
    rfl
  have last : lastWrite (config.set.map fun entry => (lowerCase entry.1, HeaderValue.text entry.2))
      (lowerCase name) = (config.lastSet lowerCase name).map .text := by
    rw [HeaderModification.lastSet]
    induction config.set with
    | nil => rfl
    | cons entry rest ih =>
        rw [List.map_cons, List.map_cons, lastWrite, lastWrite, ih, Option.map_or]
        by_cases same : lowerCase entry.1 = lowerCase name
        · simp [same]
        · simp [same]
  have set : (config.set.map fun entry =>
      (lowerCase entry.1, HeaderValue.text entry.2)).foldl setModified headers =
        (config.set.map fun entry => (lowerCase entry.1, HeaderValue.text entry.2)).foldl
          (fun table write => table.set write.1 write.2) headers := rfl
  simp only [modifyHeaders, get?_eraseAll, removes, get?_addHeaders, added, set,
    Table.get?_foldl_set, last]

/-- The keys that the passes of a modifier write or erase. -/
theorem modifyHeaders_keeps {motive : HeaderMap → Prop} (config : HeaderModification)
    {headers : HeaderMap} (start : motive headers)
    (set : ∀ entry ∈ config.set, ∀ table value, motive table →
      motive (table.set (lowerCase entry.1) value))
    (add : ∀ entry ∈ config.add, ∀ table value, motive table →
      motive (table.set (lowerCase entry.1) value))
    (del : ∀ name ∈ config.remove, ∀ table, motive table →
      motive (table.erase (lowerCase name))) :
    motive (modifyHeaders lowerCase config headers) := by
  simp only [modifyHeaders]
  refine List.foldlRecOn _ _ (List.foldlRecOn _ _ (List.foldlRecOn _ _ start ?_) ?_) ?_
  · intro table holds entry member
    obtain ⟨source, inside, rfl⟩ := List.mem_map.mp member
    exact set source inside table _ holds
  · intro table holds entry member
    obtain ⟨source, inside, rfl⟩ := List.mem_map.mp member
    exact add source inside table _ holds
  · intro table holds name member
    obtain ⟨source, inside, rfl⟩ := List.mem_map.mp member
    exact del source inside table holds

theorem keys_modifyHeaders (config : HeaderModification) (headers : HeaderMap) :
    ∀ key ∈ (modifyHeaders lowerCase config headers).keys,
      key ∈ headers.keys ∨ ∃ name, key = lowerCase name := by
  refine modifyHeaders_keeps (motive := fun table => ∀ key ∈ table.keys,
    key ∈ headers.keys ∨ ∃ name, key = lowerCase name) config (fun key member => .inl member)
    ?_ ?_ ?_
  · intro entry _ table value holds key member
    rcases Table.mem_keys_set.mp member with same | earlier
    · exact .inr ⟨entry.1, same⟩
    · exact holds key earlier
  · intro entry _ table value holds key member
    rcases Table.mem_keys_set.mp member with same | earlier
    · exact .inr ⟨entry.1, same⟩
    · exact holds key earlier
  · intro name _ table holds key member
    exact holds key (Table.mem_keys_of_erase member)

theorem get?_modifyHeaders_ne (config : HeaderModification) (headers : HeaderMap) {key : String}
    (other : ∀ name, key ≠ lowerCase name) :
    (modifyHeaders lowerCase config headers).get? key = headers.get? key := by
  refine modifyHeaders_keeps (motive := fun table => table.get? key = headers.get? key) config rfl
    ?_ ?_ ?_
  · intro entry _ table value holds
    rw [Table.get?_set_ne _ _ (Ne.symm (other entry.1)), holds]
  · intro entry _ table value holds
    rw [Table.get?_set_ne _ _ (Ne.symm (other entry.1)), holds]
  · intro name _ table holds
    rw [Table.get?_erase_ne _ (Ne.symm (other name)), holds]

theorem map_snd_toList {key : String} {found : Option HeaderValue} :
    (found.toList.map (Prod.mk key)).map Prod.snd = found.toList := by
  cases found <;> rfl

theorem toList_eq_iff (found other : Option HeaderValue) :
    found.toList = other.toList ↔ found = other := by
  cases found <;> cases other <;> simp

theorem map_mk_toList_eq_iff (key : String) (found other : Option HeaderValue) :
    found.toList.map (Prod.mk key) = other.toList.map (Prod.mk key) ↔ found = other := by
  rw [(List.map_injective_iff.mpr (Prod.mk_right_injective key)).eq_iff,
    toList_eq_iff]

/-! Each name meets one of four cases. -/

section Cases

variable {config : HeaderModification} {before after : HeaderMap} {name : String}

theorem modifiedAt_removed_iff (removes : config.Removes lowerCase name) :
    ModifiedAt lowerCase config before after name ↔ named lowerCase after name = [] := by
  constructor
  · intro modified
    exact modified.removed removes
  · intro absent
    exact ⟨fun _ => absent, fun keeps => absurd removes keeps, fun keeps => absurd removes keeps,
      fun keeps => absurd removes keeps⟩

theorem modifiedAt_set_iff (keeps : ¬ config.Removes lowerCase name) {value : String}
    (set : config.lastSet lowerCase name = some value) :
    ModifiedAt lowerCase config before after name ↔
      (named lowerCase after name).map Prod.snd =
        [(HeaderValue.text value).extendBy (config.added lowerCase name)] := by
  constructor
  · intro modified
    exact modified.set keeps value set
  · intro values
    refine ⟨fun removes => absurd removes keeps, ?_, ?_, ?_⟩
    · intro _ other again
      cases set.symm.trans again
      exact values
    · intro _ unset
      cases set.symm.trans unset
    · intro _ unset
      cases set.symm.trans unset

theorem modifiedAt_kept_iff (keeps : ¬ config.Removes lowerCase name)
    (unset : config.lastSet lowerCase name = none) (there : named lowerCase before name ≠ []) :
    ModifiedAt lowerCase config before after name ↔
      named lowerCase after name = (named lowerCase before name).map fun entry =>
        (entry.1, entry.2.extendBy (config.added lowerCase name)) := by
  constructor
  · intro modified
    exact modified.kept keeps unset there
  · intro entries
    refine ⟨fun removes => absurd removes keeps, ?_, fun _ _ _ => entries, ?_⟩
    · intro _ value set
      cases unset.symm.trans set
    · intro _ _ absent
      exact absurd absent there

theorem modifiedAt_new_iff (keeps : ¬ config.Removes lowerCase name)
    (unset : config.lastSet lowerCase name = none) (absent : named lowerCase before name = []) :
    ModifiedAt lowerCase config before after name ↔
      (named lowerCase after name).map Prod.snd =
        (newHeader (config.added lowerCase name)).toList := by
  constructor
  · intro modified
    exact modified.new keeps unset absent
  · intro values
    refine ⟨fun removes => absurd removes keeps, ?_, ?_, fun _ _ _ => values⟩
    · intro _ value set
      cases unset.symm.trans set
    · intro _ _ there
      exact absurd absent there

end Cases

section Folded

variable (folded : ∀ text, lowerCase (lowerCase text) = lowerCase text)

include folded

theorem named_untouched {config : HeaderModification} {headers : HeaderMap} {name : String}
    (untouched : ¬ config.Touches lowerCase name) :
    named lowerCase (modifyHeaders lowerCase config headers) name =
      named lowerCase headers name := by
  simp only [HeaderModification.Touches, not_or, not_not] at untouched
  obtain ⟨keeps, unset, unadded⟩ := untouched
  let picks (key : String) : Bool := lowerCase key = lowerCase name
  have apart {other : String} (different : lowerCase other ≠ lowerCase name) :
      picks (lowerCase other) = false := by
    simp only [picks, folded]
    exact decide_eq_false different
  refine modifyHeaders_keeps (motive := fun table =>
    named lowerCase table name = named lowerCase headers name) config rfl ?_ ?_ ?_
  · intro entry member table value holds
    have different : lowerCase entry.1 ≠ lowerCase name := by
      intro same
      have set : lowerCase name ∈
          (config.set.map fun entry => (lowerCase entry.1, entry.2)).map Prod.fst := by
        rw [List.map_map]
        exact List.mem_map.mpr ⟨entry, member, same⟩
      obtain ⟨written, last⟩ := exists_lastWrite set
      rw [HeaderModification.lastSet, last] at unset
      cases unset
    rw [← holds]
    exact Table.filter_set table value picks (apart different)
  · intro entry member table value holds
    have different : lowerCase entry.1 ≠ lowerCase name := by
      intro same
      have inside : entry.2 ∈ config.added lowerCase name :=
        List.mem_map.mpr ⟨entry, List.mem_filter.mpr ⟨member, decide_eq_true same⟩, rfl⟩
      rw [unadded] at inside
      exact List.not_mem_nil inside
    rw [← holds]
    exact Table.filter_set table value picks (apart different)
  · intro removed member table holds
    have different : lowerCase removed ≠ lowerCase name :=
      fun same => keeps ⟨removed, member, same⟩
    rw [← holds]
    exact Table.filter_erase table picks (apart different)

theorem named_of_spelled {headers : HeaderMap} {name : String}
    (spelled : ∀ entry ∈ named lowerCase headers name, entry.1 = lowerCase name) :
    named lowerCase headers name =
      (headers.get? (lowerCase name)).toList.map (Prod.mk (lowerCase name)) := by
  rw [← Table.filter_key, named]
  apply List.filter_congr
  intro entry member
  rw [decide_eq_decide]
  constructor
  · intro same
    exact spelled entry (List.mem_filter.mpr ⟨member, decide_eq_true same⟩)
  · intro same
    rw [same, folded]

theorem spelled_modifyHeaders {config : HeaderModification} {headers : HeaderMap} {name : String}
    (spelled : ∀ entry ∈ named lowerCase headers name, entry.1 = lowerCase name) :
    ∀ entry ∈ named lowerCase (modifyHeaders lowerCase config headers) name,
      entry.1 = lowerCase name := by
  intro entry member
  obtain ⟨inside, same⟩ := List.mem_filter.mp member
  have sameName : lowerCase entry.1 = lowerCase name := of_decide_eq_true same
  rcases keys_modifyHeaders config headers entry.1 (List.mem_map_of_mem inside) with own | new
  · obtain ⟨value, present⟩ := Table.mem_keys.mp own
    rw [Table.get?_eq_some] at present
    exact spelled (entry.1, value) (List.mem_filter.mpr ⟨present, decide_eq_true sameName⟩)
  · obtain ⟨other, written⟩ := new
    rw [← sameName, written, folded]

theorem modifiedAt_spelled_iff {config : HeaderModification} {headers : HeaderMap} {name : String}
    (spelled : ∀ entry ∈ named lowerCase headers name, entry.1 = lowerCase name) :
    ModifiedAt lowerCase config headers (modifyHeaders lowerCase config headers) name ↔
      (¬ config.Removes lowerCase name →
        Addable (((config.lastSet lowerCase name).map .text).or (headers.get? (lowerCase name)))
          (config.added lowerCase name)) := by
  classical
  have before := named_of_spelled folded spelled
  have respelled : ∀ entry ∈ named lowerCase (modifyHeaders lowerCase config headers) name,
      entry.1 = lowerCase name := spelled_modifyHeaders folded spelled
  have after := named_of_spelled folded respelled
  rw [get?_modifyHeaders] at after
  by_cases removes : config.Removes lowerCase name
  · rw [if_pos removes] at after
    exact iff_of_true ((modifiedAt_removed_iff removes).mpr after)
      fun keeps => absurd removes keeps
  rw [if_neg removes] at after
  rw [← HeaderValue.addAll_iff, imp_iff_right removes]
  cases set : config.lastSet lowerCase name with
  | some value =>
      rw [set, Option.map_some, Option.some_or] at after
      rw [modifiedAt_set_iff removes set, after, map_snd_toList, Option.map_some, Option.some_or]
      exact toList_eq_iff _ (some _)
  | none =>
      rw [set, Option.map_none, Option.none_or] at after
      rw [Option.map_none, Option.none_or]
      cases present : headers.get? (lowerCase name) with
      | some value =>
          rw [present] at before after
          rw [modifiedAt_kept_iff removes set (by simp [before]), after, before]
          exact map_mk_toList_eq_iff _ _ (some _)
      | none =>
          rw [present] at before after
          rw [modifiedAt_new_iff removes set before, after, map_snd_toList]
          exact toList_eq_iff _ _

/-- A header that is spelled otherwise escapes the modifier. -/
theorem misspelled_kept {config : HeaderModification} {headers : HeaderMap} {name : String}
    {entry : String × HeaderValue} (member : entry ∈ named lowerCase headers name)
    (misspelled : entry.1 ≠ lowerCase name) :
    entry ∈ named lowerCase (modifyHeaders lowerCase config headers) name := by
  obtain ⟨inside, same⟩ := List.mem_filter.mp member
  have sameName : lowerCase entry.1 = lowerCase name := of_decide_eq_true same
  have escapes (other : String) : entry.1 ≠ lowerCase other := by
    intro written
    apply misspelled
    rw [← sameName, written, folded]
  have found := get?_modifyHeaders_ne config headers escapes
  rw [(Table.get?_eq_some headers entry.1 entry.2).mpr inside, Table.get?_eq_some] at found
  exact List.mem_filter.mpr ⟨found, same⟩

theorem lower_of_set {config : HeaderModification} {headers : HeaderMap} {name value : String}
    (keeps : ¬ config.Removes lowerCase name) (set : config.lastSet lowerCase name = some value) :
    ∃ result, (lowerCase name, result) ∈
      named lowerCase (modifyHeaders lowerCase config headers) name := by
  classical
  have own := @get?_modifyHeaders lowerCase config headers name _
  obtain ⟨result, written⟩ := HeaderValue.exists_addAll (.text value)
    (config.added lowerCase name)
  rw [if_neg keeps, set, Option.map_some, Option.some_or, written, Table.get?_eq_some] at own
  exact ⟨result, List.mem_filter.mpr ⟨own, decide_eq_true (folded name)⟩⟩

omit folded in
/-- No header is what its values should make of another of the same key. -/
theorem not_mem_map_extendBy {headers : HeaderMap} {name : String} {entry : String × HeaderValue}
    (inside : entry ∈ headers.entries) {added : List String} (some : added ≠ []) :
    entry ∉ (named lowerCase headers name).map fun source =>
      (source.1, source.2.extendBy added) := by
  intro extended
  obtain ⟨source, there, same⟩ := List.mem_map.mp extended
  have sameKey : source.1 = entry.1 := by rw [← same]
  have sameValue : source.2.extendBy added = entry.2 := by rw [← same]
  have found := (Table.get?_eq_some headers source.1 source.2).mpr (List.mem_filter.mp there).1
  rw [sameKey, (Table.get?_eq_some headers entry.1 entry.2).mpr inside] at found
  have longer := HeaderValue.size_extendBy source.2 added
  have positive := List.length_pos_iff.mpr some
  rw [sameValue, Option.some.inj found] at longer
  omega

theorem not_modifiedAt_of_misspelled {config : HeaderModification} {headers : HeaderMap}
    {name : String} (touched : config.Touches lowerCase name) {entry : String × HeaderValue}
    (member : entry ∈ named lowerCase headers name) (misspelled : entry.1 ≠ lowerCase name) :
    ¬ ModifiedAt lowerCase config headers (modifyHeaders lowerCase config headers) name := by
  intro modified
  have kept : entry ∈ named lowerCase (modifyHeaders lowerCase config headers) name :=
    misspelled_kept folded member misspelled
  by_cases removes : config.Removes lowerCase name
  · rw [modified.removed removes] at kept
    exact List.not_mem_nil kept
  cases set : config.lastSet lowerCase name with
  | some value =>
      obtain ⟨result, both⟩ := @lower_of_set lowerCase folded config headers name value removes set
      have single := congrArg List.length (modified.set removes value set)
      rw [List.length_map, List.length_singleton] at single
      obtain ⟨only, alone⟩ := List.length_eq_one_iff.mp single
      rw [alone, List.mem_singleton] at kept both
      exact misspelled (congrArg Prod.fst (kept.trans both.symm))
  | none =>
      have adds : config.added lowerCase name ≠ [] := by
        rcases touched with removed | isSet | added
        · exact absurd removed removes
        · exact absurd set isSet
        · exact added
      rw [modified.kept removes set (List.ne_nil_of_mem member)] at kept
      exact not_mem_map_extendBy (List.mem_filter.mp member).1 adds kept

theorem modifiedAs_iff (config : HeaderModification) (headers : HeaderMap) :
    ModifiedAs lowerCase config headers (modifyHeaders lowerCase config headers) ↔
      AddsToText lowerCase config headers := by
  constructor
  · intro modified
    constructor
    · intro name touched entry member
      by_contra misspelled
      exact not_modifiedAt_of_misspelled folded touched member misspelled (modified name)
    · intro name keeps
      by_cases touched : config.Touches lowerCase name
      · have spelled : ∀ entry ∈ named lowerCase headers name, entry.1 = lowerCase name := by
          intro entry member
          by_contra misspelled
          exact not_modifiedAt_of_misspelled folded touched member misspelled (modified name)
        exact (modifiedAt_spelled_iff folded spelled).mp (modified name) keeps
      · simp only [HeaderModification.Touches, not_or, not_not] at touched
        rw [touched.2.2]
        unfold Addable
        trivial
  · intro adds name
    by_cases touched : config.Touches lowerCase name
    · exact (modifiedAt_spelled_iff folded (adds.spelled name touched)).mpr (adds.text name)
    · have same : named lowerCase (modifyHeaders lowerCase config headers) name =
          named lowerCase headers name := named_untouched folded touched
      simp only [HeaderModification.Touches, not_or, not_not] at touched
      obtain ⟨keeps, unset, unadded⟩ := touched
      by_cases absent : named lowerCase headers name = []
      · rw [modifiedAt_new_iff keeps unset absent, same, absent, unadded]
        rfl
      · rw [modifiedAt_kept_iff keeps unset absent, same, unadded]
        exact (List.map_id _).symm

/-- Both modifiers do what is configured exactly if they add to non-empty texts only. -/
theorem headerModifiers_iff (config : HeaderModification) (headers : HeaderMap) :
    (ModifiedAs lowerCase config headers (requestHeaderModifier lowerCase ⟨config⟩ headers) ↔
      AddsToText lowerCase config headers) ∧
    (ModifiedAs lowerCase config headers (responseHeaderModifier lowerCase ⟨config⟩ headers) ↔
      AddsToText lowerCase config headers) :=
  ⟨modifiedAs_iff folded config headers, modifiedAs_iff folded config headers⟩

end Folded

end Asked

/-! Header names are written in ASCII. -/

def asciiLowerCase (text : String) : String := String.ofList (text.toList.map Char.toLower)

theorem toLower_toLower (c : Char) : c.toLower.toLower = c.toLower := by
  by_cases upper : c.val ≥ 'A'.val ∧ c.val ≤ 'Z'.val
  · have shifted : c.toLower = _ := dif_pos upper
    have outside : ¬ (c.toLower.val ≥ 'A'.val ∧ c.toLower.val ≤ 'Z'.val) := by
      rintro ⟨_, below⟩
      rw [shifted] at below
      have sum := UInt32.le_iff_toNat_le.mp below
      have least : 65 ≤ c.val.toNat := UInt32.le_iff_toNat_le.mp upper.1
      have most : c.val.toNat ≤ 90 := UInt32.le_iff_toNat_le.mp upper.2
      rw [UInt32.toNat_add, UInt32.toNat_sub_of_le _ _ (by decide)] at sum
      have letters : 'a'.val.toNat - 'A'.val.toNat = 32 := by decide
      have last : 'Z'.val.toNat = 90 := by decide
      omega
    exact dif_neg outside
  · have kept : c.toLower = c := dif_neg upper
    rw [kept, kept]

theorem asciiLowerCase_folded (text : String) :
    asciiLowerCase (asciiLowerCase text) = asciiLowerCase text := by
  rw [asciiLowerCase, asciiLowerCase, String.toList_ofList, List.map_map]
  exact congrArg String.ofList (List.map_congr_left fun c _ => toLower_toLower c)

/-- What the test of the filters adds to its response. -/
def addDummy : HeaderModification := ⟨[], [("Dummy2", "add,baz")], []⟩

def dummyHeaders : HeaderMap := Table.empty.set "dummy2" (.text "test2")

theorem headerModifiers_dummy :
    (ModifiedAs asciiLowerCase addDummy dummyHeaders
        (requestHeaderModifier asciiLowerCase ⟨addDummy⟩ dummyHeaders) ↔
      AddsToText asciiLowerCase addDummy dummyHeaders) ∧
    (ModifiedAs asciiLowerCase addDummy dummyHeaders
        (responseHeaderModifier asciiLowerCase ⟨addDummy⟩ dummyHeaders) ↔
      AddsToText asciiLowerCase addDummy dummyHeaders) :=
  headerModifiers_iff asciiLowerCase_folded addDummy dummyHeaders

/-! A repeated header that gets one more value. -/

def addCookie : HeaderModification := ⟨[], [("Set-Cookie", "c=3")], []⟩

def twoCookies : HeaderMap := Table.empty.set "set-cookie" (.list ["a=1", "b=2"])

theorem repeatedHeader_joined :
    ¬ ∀ (config : HeaderModification) (headers : HeaderMap),
      ModifiedAs asciiLowerCase config headers
        (responseHeaderModifier asciiLowerCase ⟨config⟩ headers) := by
  intro claimed
  have kept := (claimed addCookie twoCookies "set-cookie").kept
    (by simp [HeaderModification.Removes, addCookie]) rfl (by decide +kernel)
  exact absurd kept (by decide +kernel)

end Fgw
