import Fgw.Library.Scanf
import Fgw.Library.Segments
import Fgw.Library.Runs
import Mathlib.Data.Bool.AllAny

/-!
The list of reads that the gateway writes for the Modbus collector, line by line, and that the
collector takes apart again. A string of the collector is the list of the characters before its
NUL.
-/

namespace Fgw

namespace Modbus

inductive DataType
  | unkown
  | float
  | short
  | ushort
  | long
  deriving DecidableEq

structure ReadTask where
  fc : Int32
  addr : Int32
  type : DataType
  deriving DecidableEq

def dataType (type : List Char) : DataType :=
  if type = "float".toList then .float
  else if type = "short".toList then .short
  else if type = "ushort".toList then .ushort
  else if type = "long".toList then .long
  else .unkown

/-- What `sscanf(ptr, "%d %d %s", &task->fc, &task->addr, type)` assigns. -/
structure Assigned where
  fc : Option Int
  addr : Option Int
  type : Option (List Char)

def sscanf (line : List Char) : Assigned :=
  match scanInt line with
  | none => ⟨none, none, none⟩
  | some (fc, line) =>
      match scanInt line with
      | none => ⟨some fc, none, none⟩
      | some (addr, line) => ⟨some fc, some addr, scanWord line⟩

def InRange (value : Int) : Prop := -2147483648 ≤ value ∧ value ≤ 2147483647

instance (value : Int) : Decidable (InRange value) := inferInstanceAs (Decidable (_ ∧ _))

section Decoder

-- what `%d` stores of a number that is out of the range of an `int`
variable (wrapped : Int → Int32)

def stored (value : Int) : Int32 := if InRange value then Int32.ofInt value else wrapped value

/-- The task that a line is read into, whose memory is zero, and the word left in `type`. -/
def readLine (type line : List Char) : ReadTask × List Char :=
  let assigned := sscanf line
  let type := assigned.type.getD type
  (⟨(assigned.fc.map (stored wrapped)).getD 0, (assigned.addr.map (stored wrapped)).getD 0,
    dataType type⟩, type)

def badFunction (fc : Int32) : Bool := fc ≠ 3 && fc ≠ 4

def badRecord (task : ReadTask) : Bool := task.type = .unkown || badFunction task.fc

/-- The loop of `parse_records`, with so many entries of `task_list` free. -/
def parseLoop : Nat → List Char → List Char → List ReadTask
  | 0, _, _ => []
  | free + 1, type, ptr =>
      if ptr = [] then []
      else
        -- up to where `strchr` finds the end of the line and `\0` is put
        let line := ptr.takeWhile (· ≠ '\n')
        if line.length < 5 || 100 < line.length then []
        else
          let read := readLine wrapped type line
          if badRecord read.1 then []
          else
            read.1 ::
              match ptr.dropWhile (· ≠ '\n') with
              | [] => []
              | _ :: next => parseLoop free read.2 next

def parseRecords (str : List Char) : List ReadTask := parseLoop wrapped 100 [] str

end Decoder

/-- An entry of `config.records`. -/
structure Record where
  fc : Int32
  addr : Int32
  type : String

/-- `e.fc + ' ' + e.addr + ' ' + e.type + '\n'` -/
def recordLine (e : Record) : String :=
  toString e.fc ++ " " ++ toString e.addr ++ " " ++ e.type ++ "\n"

def records (rec : Option (List Record)) : String :=
  (rec.getD []).foldl (fun str e => str ++ recordLine e) ""

/-! Tasks as they are written. -/

def Fields (line : List Char) (fc addr : Int) (type : List Char) : Prop :=
  ∃ afterFc afterAddr, StartsWithInt line fc afterFc ∧ StartsWithInt afterFc addr afterAddr ∧
    StartsWithWord afterAddr type

/-- The line has three valid fields, and they are those of the task. -/
def Writes (line : List Char) (task : ReadTask) : Prop :=
  (∃ type, Fields line task.fc.toInt task.addr.toInt type ∧ dataType type = task.type) ∧
    task.type ≠ .unkown ∧ (task.fc = 3 ∨ task.fc = 4)

/-- Every task is written on its own line. -/
def Decoded (tasks : List ReadTask) (lines : List (List Char)) : Prop :=
  ∀ (k : Nat) (task : ReadTask), tasks[k]? = some task →
    ∃ line, lines[k]? = some line ∧ Writes line task

def Fits (line : List Char) : Prop := 5 ≤ line.length ∧ line.length ≤ 100

instance (line : List Char) : Decidable (Fits line) := inferInstanceAs (Decidable (_ ∧ _))

/-- The lines before one that the decoder comes to. -/
def Passed (earlier : List (List Char)) : Prop :=
  earlier.length < 100 ∧ ∀ line ∈ earlier, Fits line ∧ ∃ task, Writes line task

/-- The line is taken for what it does not say: it gives a function code, but no type where an
earlier line has left one, or a number that is no `int`. -/
def Slips (wrapped : Int → Int32) (earlier : List (List Char)) (line : List Char) : Prop :=
  ∃ fc, (sscanf line).fc = some fc ∧ badFunction (stored wrapped fc) = false ∧
    ((sscanf line).type = none ∧ earlier ≠ [] ∨
      ∃ addr type, (sscanf line).addr = some addr ∧ (sscanf line).type = some type ∧
        dataType type ≠ .unkown ∧ ¬ (InRange fc ∧ InRange addr))

def Clean (wrapped : Int → Int32) (earlier : List (List Char)) (line : List Char) : Prop :=
  Passed earlier → Fits line → ¬ Slips wrapped earlier line

/-! One line. -/

section Lines

variable {wrapped : Int → Int32} {line : List Char}

theorem sscanf_cases (line : List Char) :
    (∃ fc addr, sscanf line = ⟨fc, addr, none⟩) ∨
      ∃ fc addr type, sscanf line = ⟨some fc, some addr, some type⟩ := by
  unfold sscanf
  split
  · exact .inl ⟨_, _, rfl⟩
  · split
    · exact .inl ⟨_, _, rfl⟩
    · rename_i rest _
      cases scanWord rest with
      | none => exact .inl ⟨_, _, rfl⟩
      | some type => exact .inr ⟨_, _, type, rfl⟩

theorem sscanf_eq_iff_fields (line : List Char) (fc addr : Int) (type : List Char) :
    sscanf line = ⟨some fc, some addr, some type⟩ ↔ Fields line fc addr type := by
  constructor
  · intro assigned
    unfold sscanf at assigned
    split at assigned
    · cases assigned
    · rename_i first afterFc readFc
      split at assigned
      · cases assigned
      · rename_i second afterAddr readAddr
        simp only [Assigned.mk.injEq, Option.some.injEq] at assigned
        obtain ⟨rfl, rfl, word⟩ := assigned
        exact ⟨afterFc, afterAddr, (scanInt_eq_some_iff _ _ _).mp readFc,
          (scanInt_eq_some_iff _ _ _).mp readAddr, (scanWord_eq_some_iff _ _).mp word⟩
  · rintro ⟨afterFc, afterAddr, readFc, readAddr, word⟩
    unfold sscanf
    rw [(scanInt_eq_some_iff _ _ _).mpr readFc]
    dsimp only
    rw [(scanInt_eq_some_iff _ _ _).mpr readAddr]
    dsimp only
    rw [(scanWord_eq_some_iff _ _).mpr word]

theorem toInt_stored {value : Int} (within : InRange value) :
    (stored wrapped value).toInt = value := by
  rw [stored, if_pos within]
  obtain ⟨least, most⟩ := within
  exact Int32.toInt_ofInt_of_le (by omega) (by omega)

theorem inRange_toInt (value : Int32) : InRange value.toInt := by
  have least := value.le_toInt
  have most := value.toInt_lt
  constructor <;> omega

theorem stored_toInt (value : Int32) : stored wrapped value.toInt = value := by
  rw [stored, if_pos (inRange_toInt value), Int32.ofInt_toInt]

theorem badFunction_eq_false_iff (fc : Int32) : badFunction fc = false ↔ fc = 3 ∨ fc = 4 := by
  simp only [badFunction, Bool.and_eq_false_iff, decide_eq_false_iff_not, not_not, ne_eq]

theorem badRecord_eq_false_iff (task : ReadTask) :
    badRecord task = false ↔ task.type ≠ .unkown ∧ badFunction task.fc = false := by
  simp only [badRecord, Bool.or_eq_false_iff, decide_eq_false_iff_not, ne_eq]

/-- A task that its line writes is the one that is read, whatever `type` holds. -/
theorem readLine_of_writes {task : ReadTask} (written : Writes line task) (type : List Char) :
    (readLine wrapped type line).1 = task ∧ badRecord task = false := by
  obtain ⟨⟨word, fields, named⟩, known, function⟩ := written
  constructor
  · rw [readLine, (sscanf_eq_iff_fields _ _ _ _).mpr fields]
    simp [stored_toInt, named]
  · exact (badRecord_eq_false_iff task).mpr ⟨known, (badFunction_eq_false_iff _).mpr function⟩

theorem not_writes_of_cut {fc addr : Option Int} (cut : sscanf line = ⟨fc, addr, none⟩)
    (task : ReadTask) : ¬ Writes line task := by
  rintro ⟨⟨word, fields, _⟩, _⟩
  rw [(sscanf_eq_iff_fields _ _ _ _).mpr fields] at cut
  cases cut

section Complete

variable {fc addr : Int} {word : List Char}
  (whole : sscanf line = ⟨some fc, some addr, some word⟩)
include whole

/-- A complete line that is taken writes its task if its numbers are in range. -/
theorem writes_of_inRange {type : List Char}
    (taken : badRecord (readLine wrapped type line).1 = false) (within : InRange fc ∧ InRange addr) :
    Writes line (readLine wrapped type line).1 := by
  have accepted := (badRecord_eq_false_iff _).mp taken
  have fields := (sscanf_eq_iff_fields _ _ _ _).mp whole
  rw [readLine, whole] at accepted ⊢
  refine ⟨⟨word, ?_, rfl⟩, accepted.1, (badFunction_eq_false_iff _).mp accepted.2⟩
  simp only [Option.map_some, Option.getD_some]
  rw [toInt_stored within.1, toInt_stored within.2]
  exact fields

theorem inRange_of_writes {task : ReadTask} (written : Writes line task) :
    InRange fc ∧ InRange addr := by
  obtain ⟨⟨other, fields, _⟩, _⟩ := written
  have again := (sscanf_eq_iff_fields _ _ _ _).mpr fields
  rw [whole, Assigned.mk.injEq, Option.some.injEq, Option.some.injEq] at again
  rw [again.1, again.2.1]
  exact ⟨inRange_toInt _, inRange_toInt _⟩

theorem not_inRange_of_slips {earlier : List (List Char)} (slips : Slips wrapped earlier line) :
    ¬ (InRange fc ∧ InRange addr) := by
  obtain ⟨value, same, _, ⟨none, _⟩ | ⟨second, third, there, _, _, apart⟩⟩ := slips
  · rw [whole] at none
    cases none
  · rw [whole] at same there
    cases same
    cases there
    exact apart

end Complete

/-- Of the lines that are taken, those that slip are not the ones that write their task. -/
theorem writes_iff_not_slips {type : List Char} {earlier : List (List Char)}
    (left : dataType type ≠ .unkown ↔ earlier ≠ [])
    (taken : badRecord (readLine wrapped type line).1 = false) :
    Writes line (readLine wrapped type line).1 ↔ ¬ Slips wrapped earlier line := by
  have accepted := (badRecord_eq_false_iff _).mp taken
  rcases sscanf_cases line with ⟨fc, addr, cut⟩ | ⟨fc, addr, word, whole⟩
  · refine iff_of_false (not_writes_of_cut cut _) (not_not.mpr ?_)
    rw [readLine, cut] at accepted
    cases fc with
    | none => exact absurd (show badFunction 0 = false from accepted.2) (by decide)
    | some fc => exact ⟨fc, by rw [cut], accepted.2, .inl ⟨by rw [cut], left.mp accepted.1⟩⟩
  · constructor
    · intro written slips
      exact not_inRange_of_slips whole slips (inRange_of_writes whole written)
    · intro clean
      refine writes_of_inRange whole taken ?_
      by_contra apart
      rw [readLine, whole] at accepted
      exact clean ⟨fc, by rw [whole], accepted.2,
        .inr ⟨addr, word, by rw [whole], by rw [whole], accepted.1, apart⟩⟩

theorem not_slips_of_bad {type : List Char} {earlier : List (List Char)}
    (left : dataType type ≠ .unkown ↔ earlier ≠ [])
    (bad : badRecord (readLine wrapped type line).1 = true) : ¬ Slips wrapped earlier line := by
  rintro ⟨fc, first, function, ⟨none, filled⟩ | ⟨addr, word, second, third, known, _⟩⟩
  · rw [readLine, first, none] at bad
    exact absurd bad
      (Bool.eq_false_iff.mp ((badRecord_eq_false_iff _).mpr ⟨left.mpr filled, function⟩))
  · rw [readLine, first, third] at bad
    exact absurd bad (Bool.eq_false_iff.mp ((badRecord_eq_false_iff _).mpr ⟨known, function⟩))

end Lines

/-! The lines of a text. -/

section Texts

variable {wrapped : Int → Int32}

theorem decoded_nil (lines : List (List Char)) : Decoded [] lines := by
  intro k task read
  cases read

theorem decoded_cons_iff (task : ReadTask) (tasks : List ReadTask) (line : List Char)
    (lines : List (List Char)) :
    Decoded (task :: tasks) (line :: lines) ↔ Writes line task ∧ Decoded tasks lines := by
  constructor
  · intro all
    refine ⟨?_, fun k other read => all (k + 1) other read⟩
    obtain ⟨own, first, written⟩ := all 0 task rfl
    cases first
    exact written
  · rintro ⟨written, later⟩ k other read
    cases k with
    | zero =>
        cases read
        exact ⟨line, rfl, written⟩
    | succ k => exact later k other read

/-- The lines, with those before them. -/
def EveryLine (meets : List (List Char) → List Char → Prop) :
    List (List Char) → List (List Char) → Prop :=
  EveryStep (fun earlier line => earlier ++ [line]) meets

/-- Nothing is asked of the lines that the decoder does not come to. -/
theorem clean_of_not_passed {earlier : List (List Char)} (stopped : ¬ Passed earlier)
    (lines : List (List Char)) : EveryLine (Clean wrapped) earlier lines := by
  induction lines generalizing earlier with
  | nil => trivial
  | cons line lines ih =>
      refine ⟨fun passed => absurd passed stopped, ih fun passed => stopped ?_⟩
      rw [Passed, List.length_append, List.forall_mem_append] at passed
      exact ⟨Nat.lt_of_le_of_lt (Nat.le_add_right _ _) passed.1, passed.2.1⟩

theorem not_passed_snoc {earlier : List (List Char)} {line : List Char}
    (unsound : ¬ (Fits line ∧ ∃ task, Writes line task)) : ¬ Passed (earlier ++ [line]) := by
  rintro ⟨_, all⟩
  exact unsound (all line (by simp))

theorem parseLoop_succ {type ptr line : List Char} (cut : ptr.takeWhile (· ≠ '\n') = line)
    (free : Nat) :
    parseLoop wrapped (free + 1) type ptr =
      if Fits line ∧ badRecord (readLine wrapped type line).1 = false then
        (readLine wrapped type line).1 ::
          match ptr.dropWhile (· ≠ '\n') with
          | [] => []
          | _ :: next => parseLoop wrapped free (readLine wrapped type line).2 next
      else [] := by
  have outside : (line.length < 5 || 100 < line.length) = true ↔ ¬ Fits line := by
    rw [Bool.or_eq_true, decide_eq_true_eq, decide_eq_true_eq, Fits]
    omega
  rw [parseLoop, cut]
  by_cases fits : Fits line
  · have filled : ptr ≠ [] := by
      rintro rfl
      cases cut
      exact absurd fits (by decide)
    rw [if_neg filled, if_neg fun wrong => outside.mp wrong fits]
    cases bad : badRecord (readLine wrapped type line).1 <;> simp [fits, bad]
  · dsimp only
    rw [if_pos (outside.mpr fits), ite_self, if_neg fun both => fits both.1]

theorem decoded_parseLoop_iff (free : Nat) (type ptr : List Char) (earlier : List (List Char))
    (room : earlier.length + free = 100)
    (passed : ∀ line ∈ earlier, Fits line ∧ ∃ task, Writes line task)
    (left : dataType type ≠ .unkown ↔ earlier ≠ []) :
    Decoded (parseLoop wrapped free type ptr) (ptr.splitOn '\n') ↔
      EveryLine (Clean wrapped) earlier (ptr.splitOn '\n') := by
  induction free generalizing type ptr earlier with
  | zero =>
      refine iff_of_true (decoded_nil _) (clean_of_not_passed ?_ _)
      rintro ⟨below, _⟩
      omega
  | succ free ih =>
      rw [splitOn_eq, EveryLine, EveryStep, ← EveryLine]
      obtain ⟨line, cut⟩ : ∃ line, ptr.takeWhile (· ≠ '\n') = line := ⟨_, rfl⟩
      rw [parseLoop_succ cut, cut]
      have now : Passed earlier := ⟨by omega, passed⟩
      by_cases taken : Fits line ∧ badRecord (readLine wrapped type line).1 = false
      · obtain ⟨fits, accepted⟩ := taken
        rw [if_pos ⟨fits, accepted⟩, decoded_cons_iff, writes_iff_not_slips left accepted]
        by_cases clean : Slips wrapped earlier line
        · refine iff_of_false (fun both => both.1 clean) fun both => both.1 now fits clean
        · have written := (writes_iff_not_slips left accepted).mpr clean
          have known := ((badRecord_eq_false_iff _).mp accepted).1
          refine and_congr (iff_of_true clean fun _ _ => clean) ?_
          cases ptr.dropWhile (· ≠ '\n') with
          | nil => exact iff_of_true (decoded_nil _) trivial
          | cons _ next =>
              refine ih _ next (earlier ++ [line]) ?_ ?_ ?_
              · rw [List.length_append, List.length_singleton]
                omega
              · rw [List.forall_mem_append, List.forall_mem_singleton]
                exact ⟨passed, fits, _, written⟩
              · exact iff_of_true known (by simp)
      · rw [if_neg taken]
        refine iff_of_true (decoded_nil _) ⟨?_, clean_of_not_passed (not_passed_snoc ?_) _⟩
        · intro _ fits
          exact not_slips_of_bad left (Bool.of_not_eq_false fun accepted => taken ⟨fits, accepted⟩)
        · rintro ⟨fits, task, written⟩
          obtain ⟨same, sound⟩ := @readLine_of_writes wrapped _ _ written type
          exact taken ⟨fits, by rw [same]; exact sound⟩

end Texts

/-! Lists of records. -/

def Record.Valid (e : Record) : Prop :=
  (e.fc = 3 ∨ e.fc = 4) ∧ dataType e.type.toList ≠ .unkown

instance (e : Record) : Decidable e.Valid := inferInstanceAs (Decidable (_ ∧ _))

def Record.task (e : Record) : ReadTask := ⟨e.fc, e.addr, dataType e.type.toList⟩

def Record.text (e : Record) : List Char :=
  (toString e.fc).toList ++ ' ' :: ((toString e.addr).toList ++ ' ' :: e.type.toList)

section RoundTrip

variable {wrapped : Int → Int32} {e : Record}

theorem recordLine_toList (e : Record) : (recordLine e).toList = e.text ++ ['\n'] := by
  simp [recordLine, Record.text]

theorem dataType_cases {type : List Char} (known : dataType type ≠ .unkown) :
    type = "float".toList ∨ type = "short".toList ∨ type = "ushort".toList ∨
      type = "long".toList := by
  by_contra other
  simp only [not_or] at other
  obtain ⟨float, short, ushort, long⟩ := other
  apply known
  rw [dataType, if_neg float, if_neg short, if_neg ushort, if_neg long]

theorem dataType_word {type : List Char} (known : dataType type ≠ .unkown) :
    (∀ c ∈ type, isBlank c = false) ∧ 4 ≤ type.length ∧ type.length ≤ 6 := by
  rcases dataType_cases known with rfl | rfl | rfl | rfl
  all_goals exact ⟨List.all_iff_forall_prop.mp (by decide +kernel), by decide +kernel⟩

theorem Record.Valid.writes (valid : e.Valid) : Writes e.text e.task := by
  obtain ⟨letters, some_, _⟩ := dataType_word valid.2
  refine ⟨⟨e.type.toList, ?_, rfl⟩, valid.2, valid.1⟩
  have blank : Blanks [' '] := by
    rw [Blanks, List.forall_mem_singleton]
    rfl
  have ended (rest : List Char) : StopsAt Char.isDigit (' ' :: rest) := by
    rintro c ⟨⟩
    rfl
  refine ⟨' ' :: ((toString e.addr).toList ++ ' ' :: e.type.toList), ' ' :: e.type.toList,
    ⟨[], (toString e.fc).toList, rfl, fun c member => absurd member List.not_mem_nil,
      numeral_toString _, ended _⟩,
    ⟨[' '], (toString e.addr).toList, rfl, blank, numeral_toString _, ended _⟩,
    ⟨[' '], [], by simp, blank, ?_, letters, fun c first => by cases first⟩⟩
  rintro empty
  rw [empty] at some_
  exact absurd some_ (by decide)

theorem length_toString_int32 (value : Int32) : 1 ≤ (toString value).toList.length ∧
    (toString value).toList.length ≤ 11 := by
  constructor
  · rw [show toString value = toString value.toInt from rfl, toList_toString, List.length_append]
    have := @Nat.length_toDigits_pos 10 value.toInt.natAbs
    omega
  · refine @length_toString_le value.toInt 10 (by decide) ?_
    have least := value.le_toInt
    have most := value.toInt_lt
    omega

theorem Record.Valid.fits (valid : e.Valid) : Fits e.text := by
  obtain ⟨_, least, most⟩ := dataType_word valid.2
  have fc := length_toString_int32 e.fc
  have addr := length_toString_int32 e.addr
  simp only [Fits, Record.text, List.length_append, List.length_cons]
  omega

theorem Record.Valid.oneLine (valid : e.Valid) : ∀ c ∈ e.text, c ≠ '\n' := by
  have numbers (value : Int32) : '\n' ∉ (toString value).toList := by
    intro member
    rcases @mem_toString value.toInt _ member with sign | digit
    · exact absurd sign (by decide)
    · exact absurd digit (by decide)
  have word : '\n' ∉ e.type.toList := fun member =>
    absurd ((dataType_word valid.2).1 _ member) (by decide)
  rintro c member rfl
  simp only [Record.text, List.mem_append, List.mem_cons] at member
  rcases member with fc | blank | addr | blank | type
  · exact numbers _ fc
  · exact absurd blank (by decide)
  · exact numbers _ addr
  · exact absurd blank (by decide)
  · exact word type

/-- A line of the gateway is decoded to its task. -/
theorem parseLoop_recordLine (valid : e.Valid) (free : Nat) (type rest : List Char) :
    parseLoop wrapped (free + 1) type ((recordLine e).toList ++ rest) =
      e.task :: parseLoop wrapped free (readLine wrapped type e.text).2 rest := by
  have stop : StopsAt (· ≠ '\n') ('\n' :: rest) := by
    rintro c ⟨⟩
    rfl
  have letters : ∀ c ∈ e.text, decide (c ≠ '\n') = true := fun c member =>
    decide_eq_true (valid.oneLine c member)
  obtain ⟨taken, dropped⟩ := takeWhile_append_stop letters stop
  obtain ⟨same, sound⟩ := @readLine_of_writes wrapped _ _ valid.writes type
  rw [recordLine_toList, List.append_assoc, List.singleton_append, parseLoop_succ taken, dropped,
    same, if_pos ⟨valid.fits, sound⟩]

theorem records_toList (recs : List Record) :
    (records (some recs)).toList = recs.flatMap fun e => (recordLine e).toList := by
  have grows (str : String) : (recs.foldl (fun str e => str ++ recordLine e) str).toList =
      str.toList ++ recs.flatMap fun e => (recordLine e).toList := by
    induction recs generalizing str with
    | nil => simp
    | cons e recs ih =>
        rw [List.foldl_cons, ih, String.toList_append, List.append_assoc, List.flatMap_cons]
  rw [records, Option.getD_some, grows]
  rfl

theorem parseLoop_records {recs : List Record} (valid : ∀ e ∈ recs, e.Valid) {free : Nat}
    (room : recs.length ≤ free) (type : List Char) :
    parseLoop wrapped free type (recs.flatMap fun e => (recordLine e).toList) =
      recs.map Record.task := by
  induction recs generalizing free type with
  | nil => cases free <;> rfl
  | cons e recs ih =>
      cases free with
      | zero => simp at room
      | succ free =>
          have shorter : recs.length ≤ free := by simpa using room
          rw [List.flatMap_cons, parseLoop_recordLine (valid e List.mem_cons_self),
            ih (fun other member => valid other (List.mem_cons_of_mem e member)) shorter,
            List.map_cons]

theorem parseRecords_records {recs : List Record} (valid : ∀ e ∈ recs, e.Valid)
    (room : recs.length ≤ 100) :
    parseRecords wrapped (records (some recs)).toList = recs.map Record.task := by
  rw [parseRecords, records_toList, parseLoop_records valid room]

end RoundTrip

/-- The lists of the gateway are decoded as they are, and of any text every task is written on its
own line exactly if no line that the decoder comes to slips. -/
theorem decoded_iff (wrapped : Int → Int32) :
    (∀ recs : List Record, recs.length ≤ 100 → (∀ e ∈ recs, e.Valid) →
      parseRecords wrapped (records (some recs)).toList = recs.map Record.task) ∧
    ∀ str : List Char, Decoded (parseRecords wrapped str) (str.splitOn '\n') ↔
      ∀ before line after, str.splitOn '\n' = before ++ line :: after → Passed before → Fits line →
        ¬ Slips wrapped before line := by
  constructor
  · intro recs room valid
    exact parseRecords_records valid room
  · intro str
    have run := @decoded_parseLoop_iff wrapped 100 [] str [] rfl (by simp) (by decide)
    rw [parseRecords, run, EveryLine, everyStep_iff_split]
    have gathered (lines : List (List Char)) :
        lines.foldl (fun earlier line => earlier ++ [line]) [] = lines := by
      rw [List.foldl_append_eq_append, List.nil_append, ← List.flatMap_def, List.flatMap_singleton']
    simp only [gathered, Clean]

def furnaceRecords : List Record := [⟨3, -1, "float"⟩, ⟨4, 70000, "ushort"⟩]

theorem furnaceRecords_decoded : furnaceRecords.length ≤ 100 ∧ (∀ e ∈ furnaceRecords, e.Valid) ∧
    parseRecords Int32.ofInt (records (some furnaceRecords)).toList =
      furnaceRecords.map Record.task :=
  ⟨by decide, by decide +kernel, (decoded_iff Int32.ofInt).1 furnaceRecords (by decide)
    (by decide +kernel)⟩

/-- The second line has no type, and that of the first is taken for it. -/
theorem cutLine_decoded :
    ¬ ∀ (wrapped : Int → Int32) (str : List Char),
      Decoded (parseRecords wrapped str) (str.splitOn '\n') := by
  intro claimed
  obtain ⟨line, second, ⟨type, fields, _⟩, _⟩ :=
    claimed Int32.ofInt "3 1 float\n3 200\n".toList 1 ⟨3, 200, .float⟩ (by decide +kernel)
  rw [show "3 1 float\n3 200\n".toList.splitOn '\n' =
    ["3 1 float".toList, "3 200".toList, []] by decide +kernel] at second
  cases second
  have cut := (sscanf_eq_iff_fields _ _ _ _).mpr fields
  cases cut

end Modbus

end Fgw
