import Fgw.Library.Fallible
import Fgw.Library.SharedWrites
import Fgw.ScriptValue

/-!
The parser of the command line, with its tables of defaults and shorthands.
-/

namespace Fgw

/-- A dash and one other UTF-16 unit. -/
def isShort (name : String) : Bool :=
  match name.toList with
  | ['-', c] => c ≠ '-' && c.toNat < 0x10000
  | _ => false

def startsWithDash (term : String) : Bool := term.toList.head? = some '-'

structure OptionTables where
  defaults : Table Value
  shorthands : Table String
  short : ∀ name ∈ shorthands.keys, isShort name = true

structure OptionState where
  args : List String
  opts : Table Value
  lastOption : Option String

namespace OptionTables

/-- `shorthands[name] || name` -/
def resolve (tables : OptionTables) (name : String) : String :=
  match tables.shorthands.get? name with
  | some long => if long = "" then name else long
  | none => name

section Parser

-- `Number.parseFloat` gives the number as it is printed, or nothing for `NaN`.
variable (parseFloat : String → Option String) (tables : OptionTables)

def assigned (default current : Option Value) (value : String) : Option Value :=
  match default with
  | some (.num _) =>
      match parseFloat value with
      | some number => some (.num number)
      | none => some (.str value)
  | some (.str _) => some (.str value)
  | some .null | some (.arr _) | some (.obj _) =>
      match current with
      | some (.arr items) => some (.arr (items ++ [.str value]))
      | _ => some (.arr [.str value])
  | _ => none

def addOption (st : OptionState) (name value : String) : OptionState :=
  let k := tables.resolve name
  match assigned parseFloat (tables.defaults.get? k) (st.opts.get? k) value with
  | some value => { st with opts := st.opts.set k value }
  | none => st

def processOption (st : OptionState) (name : String) (value : Option String) :
    Except Thrown OptionState :=
  let k := tables.resolve name
  match tables.defaults.get? k with
  | none => .error (.raised ("invalid option " ++ k))
  | some (.bool _) => .ok { st with opts := st.opts.set k (.bool true) }
  | some _ =>
      match value.filter fun value => value ≠ "" with
      | some value => .ok (addOption parseFloat tables st k value)
      | none => .ok { st with lastOption := some name }

/-- One turn of the loop over `argv`. -/
def readTerm (st : OptionState) (term : String) : Except Thrown OptionState :=
  match st.lastOption with
  | some lastOption =>
      if startsWithDash term then
        .error (.raised ("Value missing for option " ++ lastOption))
      else .ok { addOption parseFloat tables st lastOption term with lastOption := none }
  | none =>
      match term.toList with
      | '-' :: '-' :: _ =>
          let kv := term.toList.splitOn '='
          processOption parseFloat tables st (String.ofList (kv.headD []))
            (kv[1]?.map String.ofList)
      | ['-'] => processOption parseFloat tables st "-" (some "")
      | '-' :: c :: value =>
          -- `substring` would cut a pair of surrogates, and no table has such a name
          if 0x10000 ≤ c.toNat then .error (.raised "invalid option -\uFFFD")
          else if value = [] then processOption parseFloat tables st term none
          else processOption parseFloat tables st (String.ofList ['-', c])
            (some (String.ofList value))
      | _ => .ok { st with args := st.args ++ [term] }

def readTerms (st : OptionState) (terms : List String) : Except Thrown OptionState :=
  terms.foldlM (readTerm parseFloat tables) st

def start : OptionState := ⟨[], Table.empty, none⟩

/-- `{ args, ...defaults, ...opts }` -/
def result (st : OptionState) : Table Value :=
  (tables.defaults.entries ++ st.opts.entries).foldl (fun kept entry => kept.set entry.1 entry.2)
    (Table.empty.set "args" (.arr (st.args.map .str)))

def options (argv : List String) : Except Thrown (Table Value) :=
  tables.result <$> readTerms parseFloat tables start (argv.drop 1)

end Parser

/-! Readings of the same terms from two states. -/

section Readings

variable {parseFloat : String → Option String} {tables : OptionTables}

/-- The states wait for a value of the same option, and agree on the options of some names. -/
structure Alike (agreed : String → Prop) (left right : OptionState) : Prop where
  waiting : left.lastOption = right.lastOption
  opts : ∀ k, agreed k → left.opts.get? k = right.opts.get? k

/-- What the same terms do to two states. -/
structure Beside (agreed : String → Prop) (left right left' right' : OptionState) : Prop where
  alike : Alike agreed left' right'
  args : ∃ more, left'.args = left.args ++ more ∧ right'.args = right.args ++ more
  untouched : ∀ k, left'.opts.get? k = none →
    left.opts.get? k = none ∧ right'.opts.get? k = right.opts.get? k

theorem Beside.refl {agreed : String → Prop} {left right : OptionState}
    (alike : Alike agreed left right) : Beside agreed left right left right :=
  ⟨alike, ⟨[], by simp, by simp⟩, fun _ absent => ⟨absent, rfl⟩⟩

theorem Beside.trans {agreed : String → Prop} {left right left' right' left'' right'' : OptionState}
    (first : Beside agreed left right left' right')
    (second : Beside agreed left' right' left'' right'') :
    Beside agreed left right left'' right'' := by
  refine ⟨second.alike, ?_, ?_⟩
  · obtain ⟨more, leftArgs, rightArgs⟩ := first.args
    obtain ⟨later, leftLater, rightLater⟩ := second.args
    exact ⟨more ++ later, by rw [leftLater, leftArgs, List.append_assoc],
      by rw [rightLater, rightArgs, List.append_assoc]⟩
  · intro k absent
    obtain ⟨between, kept⟩ := second.untouched k absent
    obtain ⟨before, same⟩ := first.untouched k between
    exact ⟨before, kept.trans same⟩

theorem Beside.wait {agreed : String → Prop} {left right left' right' : OptionState}
    (beside : Beside agreed left right left' right') (waiting : Option String) :
    Beside agreed left right { left' with lastOption := waiting }
      { right' with lastOption := waiting } :=
  ⟨⟨rfl, beside.alike.opts⟩, beside.args, beside.untouched⟩

theorem beside_set {agreed : String → Prop} {left right : OptionState}
    (alike : Alike agreed left right) {k : String} {given other : Value}
    (same : agreed k → given = other) :
    Beside agreed left right { left with opts := left.opts.set k given }
      { right with opts := right.opts.set k other } := by
  refine ⟨⟨alike.waiting, ?_⟩, ⟨[], by simp, by simp⟩, ?_⟩
  · intro name shared
    simp only [Table.get?_set]
    by_cases own : k = name
    · subst own
      rw [if_pos rfl, if_pos rfl, same shared]
    · rw [if_neg own, if_neg own, alike.opts name shared]
  · intro name absent
    simp only [Table.get?_set] at absent ⊢
    by_cases own : k = name
    · rw [if_pos own] at absent
      cases absent
    · rw [if_neg own] at absent
      exact ⟨absent, if_neg own⟩

theorem assigned_isSome (default current other : Option Value) (value : String) :
    (assigned parseFloat default current value).isSome =
      (assigned parseFloat default other value).isSome := by
  unfold assigned
  split
  · rfl
  · rfl
  all_goals first | rfl | (split <;> split <;> rfl)

theorem beside_addOption {agreed : String → Prop} {left right : OptionState}
    (alike : Alike agreed left right) (name value : String) :
    Beside agreed left right (addOption parseFloat tables left name value)
      (addOption parseFloat tables right name value) := by
  have both := @assigned_isSome parseFloat (tables.defaults.get? (tables.resolve name))
    (left.opts.get? (tables.resolve name)) (right.opts.get? (tables.resolve name)) value
  dsimp only [addOption]
  cases given : assigned parseFloat (tables.defaults.get? (tables.resolve name))
      (left.opts.get? (tables.resolve name)) value with
  | none =>
      rw [given, Option.isSome_none, eq_comm, Option.isSome_eq_false_iff,
        Option.isNone_iff_eq_none] at both
      rw [both]
      exact .refl alike
  | some first =>
      rw [given] at both
      obtain ⟨second, other⟩ := Option.isSome_iff_exists.mp both.symm
      rw [other]
      apply beside_set alike
      intro shared
      rw [alike.opts _ shared, other] at given
      exact (Option.some.inj given).symm

theorem beside_processOption {agreed : String → Prop} {left right left' : OptionState}
    (alike : Alike agreed left right) (name : String) (value : Option String)
    (read : processOption parseFloat tables left name value = .ok left') :
    ∃ right', processOption parseFloat tables right name value = .ok right' ∧
      Beside agreed left right left' right' := by
  dsimp only [processOption] at read ⊢
  cases kind : tables.defaults.get? (tables.resolve name) with
  | none =>
      rw [kind] at read
      cases read
  | some default =>
      rw [kind] at read
      cases default with
      | bool flag =>
          cases read
          exact ⟨_, rfl, beside_set alike fun _ => rfl⟩
      | _ =>
          cases given : value.filter fun value => value ≠ "" with
          | none =>
              simp only [given, Except.ok.injEq] at read ⊢
              subst read
              exact ⟨_, rfl, (Beside.refl alike).wait _⟩
          | some value =>
              simp only [given, Except.ok.injEq] at read ⊢
              subst read
              exact ⟨_, rfl, beside_addOption alike _ _⟩

theorem beside_readTerm {agreed : String → Prop} {left right left' : OptionState}
    (alike : Alike agreed left right) (term : String)
    (read : readTerm parseFloat tables left term = .ok left') :
    ∃ right', readTerm parseFloat tables right term = .ok right' ∧
      Beside agreed left right left' right' := by
  unfold readTerm at read ⊢
  rw [← alike.waiting]
  cases waiting : left.lastOption with
  | some lastOption =>
      rw [waiting] at read
      by_cases dash : startsWithDash term = true
      · simp only [dash, if_true] at read
        cases read
      · simp only [dash] at read ⊢
        cases read
        exact ⟨_, rfl, (beside_addOption alike lastOption term).wait none⟩
  | none =>
      rw [waiting] at read
      dsimp only at read ⊢
      split at read
      · exact beside_processOption alike _ _ read
      · exact beside_processOption alike _ _ read
      · rename_i c value _ _
        by_cases wide : 0x10000 ≤ c.toNat
        · rw [if_pos wide] at read
          cases read
        · rw [if_neg wide] at read ⊢
          by_cases alone : value = []
          · rw [if_pos alone] at read ⊢
            exact beside_processOption alike _ _ read
          · rw [if_neg alone] at read ⊢
            exact beside_processOption alike _ _ read
      · cases read
        exact ⟨_, rfl, ⟨⟨rfl, alike.opts⟩, ⟨[term], rfl, rfl⟩, fun _ absent => ⟨absent, rfl⟩⟩⟩

theorem beside_readTerms {agreed : String → Prop} {left right left' : OptionState}
    (alike : Alike agreed left right) (terms : List String)
    (read : readTerms parseFloat tables left terms = .ok left') :
    ∃ right', readTerms parseFloat tables right terms = .ok right' ∧
      Beside agreed left right left' right' := by
  induction terms generalizing left right with
  | nil =>
      cases read
      exact ⟨right, rfl, .refl alike⟩
  | cons term rest ih =>
      rw [readTerms, List.foldlM_cons, bind_eq_ok] at read
      obtain ⟨between, now, later⟩ := read
      obtain ⟨right', nowRight, first⟩ := beside_readTerm alike term now
      obtain ⟨right'', laterRight, second⟩ := ih first.alike later
      refine ⟨right'', ?_, first.trans second⟩
      rw [readTerms, List.foldlM_cons, bind_eq_ok]
      exact ⟨right', nowRight, laterRight⟩

end Readings

/-! What the spellings of an option ask for. -/

section Spellings

variable (parseFloat : String → Option String) (tables : OptionTables)

/-- An option of strings with a long name and a shorthand. -/
structure StringOption (long short : String) : Prop where
  dashes : ∃ rest, long.toList = '-' :: '-' :: rest
  plain : '=' ∉ long.toList
  default : ∃ text, tables.defaults.get? long = some (.str text)
  shorthand : tables.shorthands.get? short = some long

def spellings (long short value : String) : List (List String) :=
  [[long ++ "=" ++ value], [long, value], [short ++ value], [short, value]]

/-- The arguments are read, and the last one has the value it needs. -/
def Valid (args : List String) : Prop :=
  ∃ st, readTerms parseFloat tables start args = .ok st ∧ st.lastOption = none

/-- The arguments are valid and do not give the option. -/
def ValidWithout (long : String) (args : List String) : Prop :=
  ∃ st, readTerms parseFloat tables start args = .ok st ∧ st.lastOption = none ∧
    st.opts.get? long = none

/-- Each spelling gives the option its value, wherever it stands, and changes nothing else. -/
def SpellingsAgree (long short value : String) : Prop :=
  ∀ (program : String) (before after : List String) (base : Table Value),
    Valid parseFloat tables before → ValidWithout parseFloat tables long after →
      options parseFloat tables (program :: (before ++ after)) = .ok base →
        ∀ spelling ∈ spellings long short value, ∃ given,
          options parseFloat tables (program :: (before ++ spelling ++ after)) = .ok given ∧
            given.get? long = some (.str value) ∧ ∀ k, k ≠ long → given.get? k = base.get? k

def NeedsValue (name : String) : Prop :=
  ∃ default, tables.defaults.get? (tables.resolve name) = some default ∧
    ∀ flag, default ≠ .bool flag

/-- The ways to write an option without a value. -/
inductive Bare : String → String → Prop
  | long {name} (rest) : name.toList = '-' :: '-' :: rest → '=' ∉ rest → Bare name name
  | empty {name} (rest) : name.toList = '-' :: '-' :: rest → '=' ∉ rest → Bare (name ++ "=") name
  | short {name} : isShort name = true → Bare name name

/-- What stands after an option is no value. -/
def NoValue (after : List String) : Prop := ∀ next ∈ after.head?, startsWithDash next = true

def MissingReported (before after : List String) (term name : String) : Prop :=
  ∀ program, options parseFloat tables (program :: (before ++ term :: after)) =
    .error (.raised ("Value missing for option " ++ name))

end Spellings

section Laws

variable {parseFloat : String → Option String} {tables : OptionTables}

theorem get?_result (st : OptionState) (k : String) :
    (tables.result st).get? k = (st.opts.get? k).or ((tables.defaults.get? k).or
      (if "args" = k then some (.arr (st.args.map .str)) else none)) := by
  rw [result, List.foldl_append, Table.get?_foldl_set, Table.get?_foldl_set,
    Table.lastWrite_entries, Table.lastWrite_entries, Table.get?_set, Table.get?_empty]

theorem get?_result_congr {left right : OptionState} {k : String} (args : left.args = right.args)
    (opts : left.opts.get? k = right.opts.get? k) :
    (tables.result left).get? k = (tables.result right).get? k := by
  rw [get?_result, get?_result, args, opts]

theorem options_eq_ok {program : String} {args : List String} {given : Table Value} :
    options parseFloat tables (program :: args) = .ok given ↔
      ∃ st, readTerms parseFloat tables start args = .ok st ∧ tables.result st = given := by
  rw [options, map_eq_ok, List.drop_one, List.tail_cons]

theorem readTerms_append_eq_ok {st st' : OptionState} {first rest : List String} :
    readTerms parseFloat tables st (first ++ rest) = .ok st' ↔
      ∃ between, readTerms parseFloat tables st first = .ok between ∧
        readTerms parseFloat tables between rest = .ok st' := by
  rw [readTerms, List.foldlM_append, bind_eq_ok]
  rfl

theorem isShort_cases {name : String} (short : isShort name = true) :
    ∃ c, name.toList = ['-', c] ∧ c ≠ '-' ∧ c.toNat < 0x10000 := by
  unfold isShort at short
  split at short
  · rename_i c spelled
    rw [Bool.and_eq_true, decide_eq_true_eq, decide_eq_true_eq] at short
    exact ⟨c, spelled, short.1, short.2⟩
  · cases short

theorem resolve_of_dashes {name : String} {rest : List Char}
    (dashes : name.toList = '-' :: '-' :: rest) : tables.resolve name = name := by
  rw [resolve]
  cases listed : tables.shorthands.get? name with
  | none => rfl
  | some long =>
      obtain ⟨c, spelled, other, _⟩ :=
        isShort_cases (tables.short name (Table.mem_keys.mpr ⟨long, listed⟩))
      rw [dashes, List.cons.injEq, List.cons.injEq] at spelled
      exact absurd spelled.2.1.symm other

theorem StringOption.resolve_short {long short : String} (option : StringOption tables long short) :
    tables.resolve short = long := by
  obtain ⟨rest, dashes⟩ := option.dashes
  have spelled : long ≠ "" := by
    rintro rfl
    cases dashes
  rw [resolve, option.shorthand]
  exact if_neg spelled

theorem StringOption.resolve_long {long short : String} (option : StringOption tables long short) :
    tables.resolve long = long := by
  obtain ⟨rest, dashes⟩ := option.dashes
  exact resolve_of_dashes dashes

theorem readTerm_dashes {st : OptionState} {term : String} {rest : List Char}
    (ready : st.lastOption = none) (dashes : term.toList = '-' :: '-' :: rest) :
    readTerm parseFloat tables st term =
      processOption parseFloat tables st (String.ofList ((term.toList.splitOn '=').headD []))
        ((term.toList.splitOn '=')[1]?.map String.ofList) := by
  rw [readTerm, ready]
  dsimp only
  rw [dashes]
  rfl

theorem readTerm_short {st : OptionState} {term : String} {c : Char} {value : List Char}
    (ready : st.lastOption = none) (spelled : term.toList = '-' :: c :: value) (other : c ≠ '-')
    (narrow : c.toNat < 0x10000) :
    readTerm parseFloat tables st term =
      if value = [] then processOption parseFloat tables st term none
      else processOption parseFloat tables st (String.ofList ['-', c])
        (some (String.ofList value)) := by
  rw [readTerm, ready]
  dsimp only
  rw [spelled]
  split
  · rename_i rest same
    rw [List.cons.injEq, List.cons.injEq] at same
    exact absurd same.2.1 other
  · rename_i same
    cases same
  · rename_i c' value' _ same
    rw [List.cons.injEq, List.cons.injEq] at same
    obtain ⟨_, rfl, rfl⟩ := same
    rw [if_neg (by omega)]
  · rename_i none
    exact absurd rfl (none c value)

def give (st : OptionState) (long value : String) : OptionState :=
  { st with opts := st.opts.set long (.str value) }

theorem StringOption.addOption_eq {long short name : String}
    (option : StringOption tables long short) (named : tables.resolve name = long)
    (st : OptionState) (value : String) :
    addOption parseFloat tables st name value = give st long value := by
  obtain ⟨text, default⟩ := option.default
  dsimp only [addOption]
  rw [named, default]
  rfl

theorem StringOption.processOption_value {long short name value : String}
    (option : StringOption tables long short) (named : tables.resolve name = long)
    (filled : value ≠ "") (st : OptionState) :
    processOption parseFloat tables st name (some value) = .ok (give st long value) := by
  obtain ⟨text, default⟩ := option.default
  dsimp only [processOption]
  rw [named, default, Option.filter_some_pos (by simpa using filled)]
  exact congrArg Except.ok (option.addOption_eq option.resolve_long st value)

theorem processOption_waits {name : String} (needs : NeedsValue tables name) {value : Option String}
    (missing : ∀ text ∈ value, text = "") (st : OptionState) :
    processOption parseFloat tables st name value = .ok { st with lastOption := some name } := by
  obtain ⟨default, found, notFlag⟩ := needs
  have nothing : (value.filter fun text => decide (text ≠ "")) = none := by
    rw [Option.filter_eq_none_iff]
    intro text member
    simp [missing text member]
  dsimp only [processOption]
  rw [found]
  cases default with
  | bool flag => exact absurd rfl (notFlag flag)
  | _ => rw [nothing]

theorem StringOption.needsValue {long short name : String} (option : StringOption tables long short)
    (named : tables.resolve name = long) : NeedsValue tables name := by
  obtain ⟨text, default⟩ := option.default
  refine ⟨.str text, by rw [named]; exact default, ?_⟩
  intro flag same
  cases same

/-- Of the pieces after the first equals sign, only the next one is the value. -/
theorem readTerm_assigned {st : OptionState} {term name : String} {rest value : List Char}
    (ready : st.lastOption = none) (spelled : term.toList = name.toList ++ '=' :: value)
    (dashes : name.toList = '-' :: '-' :: rest) (plain : '=' ∉ name.toList) :
    readTerm parseFloat tables st term =
      processOption parseFloat tables st name ((value.splitOn '=').head?.map String.ofList) := by
  have starts : term.toList = '-' :: '-' :: (rest ++ '=' :: value) := by
    rw [spelled, dashes, List.cons_append, List.cons_append]
  rw [readTerm_dashes ready starts, spelled, List.splitOn_append_cons_self_of_not_mem plain,
    List.headD_cons, String.ofList_toList, List.getElem?_cons_succ, List.head?_eq_getElem?]

theorem readTerm_bare {term name : String} (bare : Bare term name)
    (needs : NeedsValue tables name) {st : OptionState} (ready : st.lastOption = none) :
    readTerm parseFloat tables st term = .ok { st with lastOption := some name } := by
  cases bare with
  | long rest dashes plain =>
      have whole : '=' ∉ term.toList := by
        rw [dashes]
        simpa using plain
      rw [readTerm_dashes ready dashes, List.splitOn_eq_singleton whole, List.headD_cons,
        String.ofList_toList]
      exact processOption_waits needs (fun _ member => by cases member) st
  | empty rest dashes plain =>
      have whole : '=' ∉ name.toList := by
        rw [dashes]
        simpa using plain
      rw [readTerm_assigned ready String.toList_append dashes whole]
      refine processOption_waits needs ?_ st
      intro text member
      cases member
      rfl
  | short short =>
      obtain ⟨c, spelled, other, narrow⟩ := isShort_cases short
      rw [readTerm_short ready spelled other narrow, if_pos rfl]
      exact processOption_waits needs (fun _ member => by cases member) st

theorem readTerms_pair {st : OptionState} {first second : String} :
    readTerms parseFloat tables st [first, second] =
      readTerm parseFloat tables st first >>= fun st => readTerm parseFloat tables st second := by
  simp [readTerms]

theorem StringOption.readTerms_bare {long short name value : String}
    (option : StringOption tables long short) (named : tables.resolve name = long)
    (bare : Bare name name) (plain : startsWithDash value = false) {st : OptionState}
    (ready : st.lastOption = none) :
    readTerms parseFloat tables st [name, value] = .ok (give st long value) := by
  rw [readTerms_pair, readTerm_bare bare (option.needsValue named) ready]
  change readTerm parseFloat tables { st with lastOption := some name } value = _
  dsimp only [readTerm]
  rw [plain, if_neg Bool.false_ne_true, option.addOption_eq named]
  rw [give, give, ready]

theorem StringOption.isShort {long short : String} (option : StringOption tables long short) :
    Fgw.isShort short = true :=
  tables.short short (Table.mem_keys.mpr ⟨long, option.shorthand⟩)

theorem StringOption.bare_long {long short : String} (option : StringOption tables long short) :
    Bare long long := by
  obtain ⟨rest, dashes⟩ := option.dashes
  refine .long rest dashes ?_
  intro inside
  apply option.plain
  rw [dashes]
  simp [inside]

theorem StringOption.readTerms_unassigned {long short value : String}
    (option : StringOption tables long short) (filled : value ≠ "")
    (plain : startsWithDash value = false) {st : OptionState} (ready : st.lastOption = none) :
    ∀ spelling ∈ [[long, value], [short ++ value], [short, value]],
      readTerms parseFloat tables st spelling = .ok (give st long value) := by
  intro spelling member
  rcases List.mem_cons.mp member with rfl | member
  · exact option.readTerms_bare option.resolve_long option.bare_long plain ready
  rcases List.mem_pair.mp member with rfl | rfl
  · obtain ⟨c, spelled, other, narrow⟩ := isShort_cases option.isShort
    have name : String.ofList ['-', c] = short := by rw [← spelled, String.ofList_toList]
    have some : value.toList ≠ [] := by simpa using filled
    have term : (short ++ value).toList = '-' :: c :: value.toList := by
      rw [String.toList_append, spelled]
      rfl
    have read : readTerm parseFloat tables st (short ++ value) = .ok (give st long value) := by
      rw [readTerm_short ready term other narrow, if_neg some, name, String.ofList_toList]
      exact option.processOption_value option.resolve_short filled st
    simp [readTerms, read]
  · exact option.readTerms_bare option.resolve_short (.short option.isShort) plain ready

theorem StringOption.readTerm_assigned {long short value : String}
    (option : StringOption tables long short) {st : OptionState} (ready : st.lastOption = none) :
    readTerm parseFloat tables st (long ++ "=" ++ value) =
      processOption parseFloat tables st long
        ((value.toList.splitOn '=').head?.map String.ofList) := by
  obtain ⟨rest, dashes⟩ := option.dashes
  refine OptionTables.readTerm_assigned ready ?_ dashes option.plain
  simp

theorem StringOption.readTerms_spelling {long short value : String}
    (option : StringOption tables long short) (filled : value ≠ "")
    (plain : startsWithDash value = false) (whole : '=' ∉ value.toList) {st : OptionState}
    (ready : st.lastOption = none) :
    ∀ spelling ∈ spellings long short value,
      readTerms parseFloat tables st spelling = .ok (give st long value) := by
  intro spelling member
  rcases List.mem_cons.mp member with rfl | member
  · have read : readTerm parseFloat tables st (long ++ "=" ++ value) =
        .ok (give st long value) := by
      rw [option.readTerm_assigned ready, List.splitOn_eq_singleton whole]
      simp only [List.head?_cons, Option.map_some, String.ofList_toList]
      exact option.processOption_value option.resolve_long filled st
    simp [readTerms, read]
  · exact option.readTerms_unassigned filled plain ready spelling member

theorem StringOption.spellingsAgree {long short value : String}
    (option : StringOption tables long short) (filled : value ≠ "")
    (plain : startsWithDash value = false) (whole : '=' ∉ value.toList) :
    SpellingsAgree parseFloat tables long short value := by
  intro program before after base ⟨first, readBefore, ready⟩ ⟨alone, readAlone, _, ungiven⟩ read
    spelling member
  obtain ⟨last, readAll, rfl⟩ := options_eq_ok.mp read
  obtain ⟨first', same, readAfter⟩ := readTerms_append_eq_ok.mp readAll
  rw [readBefore, Except.ok.injEq] at same
  subst same
  have spelled := @StringOption.readTerms_spelling parseFloat tables long short value option filled
    plain whole first ready spelling member
  -- the terms that follow do the same to the options besides this one
  have alike : Alike (· ≠ long) first (give first long value) := by
    refine ⟨rfl, ?_⟩
    intro k other
    exact (Table.get?_set_ne _ _ (Ne.symm other)).symm
  obtain ⟨last', readAfter', beside⟩ := beside_readTerms alike after readAfter
  -- and leave this one alone, as they do when nothing precedes them
  have fresh : Alike (fun _ => False) start (give first long value) :=
    ⟨ready.symm, fun _ none => none.elim⟩
  obtain ⟨other', sameAfter, besideStart⟩ := beside_readTerms fresh after readAlone
  rw [readAfter', Except.ok.injEq] at sameAfter
  subst sameAfter
  have given : last'.opts.get? long = some (.str value) :=
    (besideStart.untouched long ungiven).2.trans (Table.get?_set_self _ _ _)
  refine ⟨tables.result last', ?_, ?_, ?_⟩
  · rw [options_eq_ok]
    refine ⟨last', ?_, rfl⟩
    rw [readTerms_append_eq_ok]
    refine ⟨give first long value, ?_, readAfter'⟩
    rw [readTerms_append_eq_ok]
    exact ⟨first, readBefore, spelled⟩
  · rw [get?_result, given]
    rfl
  · intro k other
    obtain ⟨more, args, sameArgs⟩ := beside.args
    exact get?_result_congr (sameArgs.trans args.symm) (beside.alike.opts k other).symm

theorem valid_nil : Valid parseFloat tables [] := ⟨start, rfl, rfl⟩

theorem SpellingsAgree.given {long short value taken : String}
    (agree : SpellingsAgree parseFloat tables long short value) {after : List String}
    (without : ValidWithout parseFloat tables long after)
    (read : readTerms parseFloat tables start ((long ++ "=" ++ value) :: after) =
      .ok (give start long taken)) : taken = value := by
  obtain ⟨alone, readAfter, ended, ungiven⟩ := without
  obtain ⟨given, whole, value', _⟩ := agree "fgw" [] after _ valid_nil
    ⟨alone, readAfter, ended, ungiven⟩
    (options_eq_ok.mpr ⟨alone, readAfter, rfl⟩) _ List.mem_cons_self
  obtain ⟨st, readAll, rfl⟩ := options_eq_ok.mp whole
  rw [List.nil_append, List.singleton_append, read, Except.ok.injEq] at readAll
  subst readAll
  rw [get?_result, give, Table.get?_set_self, Option.some_or, Option.some.injEq,
    Value.str.injEq] at value'
  exact value'

/-- With an equals sign in the value, the long spelling cuts the value there. -/
theorem StringOption.not_spellingsAgree {long short value : String}
    (option : StringOption tables long short) (cut : '=' ∈ value.toList) :
    ¬ SpellingsAgree parseFloat tables long short value := by
  intro agree
  obtain ⟨piece, rest, spelled, whole⟩ := List.eq_append_cons_of_mem cut
  have assigned : readTerm parseFloat tables start (long ++ "=" ++ value) =
      processOption parseFloat tables start long (some (String.ofList piece)) := by
    rw [option.readTerm_assigned rfl, spelled, List.splitOn_append_cons_self_of_not_mem whole]
    rfl
  by_cases empty : piece = []
  · -- the option takes the next argument instead
    have waits : readTerm parseFloat tables start (long ++ "=" ++ value) =
        .ok { start with lastOption := some long } := by
      rw [assigned]
      refine processOption_waits (option.needsValue option.resolve_long) ?_ start
      rintro text ⟨⟩
      rw [empty]
    have taken : readTerms parseFloat tables start [long ++ "=" ++ value, "y"] =
        .ok (give start long "y") := by
      rw [readTerms_pair, waits]
      change readTerm parseFloat tables { start with lastOption := some long } "y" = _
      have plain : startsWithDash "y" = false := rfl
      dsimp only [readTerm]
      rw [plain, if_neg Bool.false_ne_true, option.addOption_eq option.resolve_long]
      rfl
    have same := agree.given ⟨{ start with args := ["y"] }, rfl, rfl, rfl⟩ taken
    rw [← same, empty, List.nil_append] at spelled
    cases spelled
  · have filled : String.ofList piece ≠ "" := by simpa using empty
    have taken : readTerms parseFloat tables start [long ++ "=" ++ value] =
        .ok (give start long (String.ofList piece)) := by
      rw [option.processOption_value option.resolve_long filled] at assigned
      simp [readTerms, assigned]
    have same := agree.given ⟨start, rfl, rfl, rfl⟩ taken
    rw [← same, String.toList_ofList] at cut
    exact whole cut

theorem missingReported_iff {before after : List String} {term name : String}
    (valid : Valid parseFloat tables before) (bare : Bare term name)
    (needs : NeedsValue tables name) (missing : NoValue after) :
    MissingReported parseFloat tables before after term name ↔ after ≠ [] := by
  obtain ⟨st, readBefore, ready⟩ := valid
  have waits := @readTerm_bare parseFloat tables term name bare needs st ready
  have read (program : String) : options parseFloat tables (program :: (before ++ term :: after)) =
      tables.result <$>
        readTerms parseFloat tables { st with lastOption := some name } after := by
    rw [options, List.drop_one, List.tail_cons, readTerms, List.foldlM_append]
    change tables.result <$> (readTerms parseFloat tables start before >>= fun st =>
      readTerms parseFloat tables st (term :: after)) = _
    rw [readBefore]
    change tables.result <$> readTerms parseFloat tables st (term :: after) = _
    rw [readTerms, List.foldlM_cons, waits]
    rfl
  cases after with
  | nil =>
      refine iff_of_false ?_ (not_not_intro rfl)
      intro reported
      have ended := (read "fgw").symm.trans (reported "fgw")
      cases ended
  | cons next rest =>
      refine iff_of_true ?_ (List.cons_ne_nil next rest)
      intro program
      have dash : startsWithDash next = true := missing next rfl
      rw [read, readTerms, List.foldlM_cons]
      have rejected : readTerm parseFloat tables { st with lastOption := some name } next =
          .error (.raised ("Value missing for option " ++ name)) := by
        dsimp only [readTerm]
        rw [if_pos dash]
      rw [rejected]
      rfl

end Laws

/-- The spellings of an option agree exactly on the values without an equals sign, and a missing
value is reported exactly if the option is not the last argument. -/
theorem spellingsAgree_iff (parseFloat : String → Option String) (tables : OptionTables) :
    (∀ long short value, StringOption tables long short → value ≠ "" →
      startsWithDash value = false →
        (SpellingsAgree parseFloat tables long short value ↔ '=' ∉ value.toList)) ∧
    ∀ before after term name, Valid parseFloat tables before → Bare term name →
      NeedsValue tables name → NoValue after →
        (MissingReported parseFloat tables before after term name ↔ after ≠ []) := by
  constructor
  · intro long short value option filled plain
    refine ⟨?_, option.spellingsAgree filled plain⟩
    intro agree cut
    exact option.not_spellingsAgree cut agree
  · intro before after term name valid bare needs missing
    exact missingReported_iff valid bare needs missing

end OptionTables

/-! The options of the gateway's command. -/

def gatewayOptions : OptionTables where
  defaults := ⟨[("--config", .str ""), ("--watch", .bool false), ("--debug", .bool false),
    ("--dump", .bool false)], by decide⟩
  shorthands := ⟨[("-c", "--config"), ("-w", "--watch"), ("-d", "--debug")], by decide⟩
  short := by decide

theorem config_declared : gatewayOptions.StringOption "--config" "-c" :=
  ⟨⟨['c', 'o', 'n', 'f', 'i', 'g'], rfl⟩, by decide, ⟨"", rfl⟩, rfl⟩

/-- The value of `--config` in each spelling, and `-c` before another option. -/
theorem config_spelled :
    gatewayOptions.SpellingsAgree (fun _ => none) "--config" "-c" "fgw.yaml" ∧
      gatewayOptions.MissingReported (fun _ => none) ["--debug"] ["--watch"] "-c" "-c" := by
  obtain ⟨agree, missing⟩ := OptionTables.spellingsAgree_iff (fun _ => none) gatewayOptions
  have debug : gatewayOptions.Valid (fun _ => none) ["--debug"] := ⟨_, rfl, rfl⟩
  have needs : gatewayOptions.NeedsValue "-c" := ⟨.str "", rfl, fun flag same => by cases same⟩
  have none : OptionTables.NoValue ["--watch"] := by
    rintro next ⟨⟩
    decide
  exact ⟨(agree "--config" "-c" "fgw.yaml" config_declared (by decide) (by decide)).mpr
      (by decide),
    (missing ["--debug"] ["--watch"] "-c" "-c" debug (.short rfl) needs none).mpr (by decide)⟩

theorem config_spellings :
    ¬ ((∀ (parseFloat : String → Option String) (tables : OptionTables) (long short value : String),
        tables.StringOption long short → value ≠ "" → startsWithDash value = false →
          tables.SpellingsAgree parseFloat long short value) ∧
      ∀ (parseFloat : String → Option String) (tables : OptionTables) (before after : List String)
        (term name : String), tables.Valid parseFloat before → OptionTables.Bare term name →
          tables.NeedsValue name → OptionTables.NoValue after →
            tables.MissingReported parseFloat before after term name) := by
  rintro ⟨claimed, _⟩
  have cut : '=' ∈ "a=b".toList := by decide
  exact config_declared.not_spellingsAgree cut
    (claimed (fun _ => none) gatewayOptions "--config" "-c" "a=b" config_declared (by decide)
      (by decide))

end Fgw
