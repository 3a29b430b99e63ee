import Fgw.Library.Json
import Fgw.ModbusRecords

/-!
The report of the Modbus collector, which is printed piece by piece into a buffer of 2000 bytes.
-/

namespace Fgw

namespace Modbus

open Json (quoted)

/-- A text that is printed into a string of the report. -/
structure Message where
  text : List Char
  plain : ∀ c ∈ text, c ≠ '"' ∧ c ≠ '\\'

def message (text : String) (plain : (text.toList.all fun c => c ≠ '"' && c ≠ '\\') = true) :
    Message where
  text := text.toList
  plain := by
    intro c member
    have own := List.all_eq_true.mp plain c member
    simpa using own

/-- `%d` -/
def printInt (value : Int) : Message where
  text := (toString value).toList
  plain := by
    intro c member
    constructor
    · rintro rfl
      rcases mem_toString member with sign | digit
      · exact absurd sign (by decide)
      · exact absurd digit (by decide)
    · rintro rfl
      rcases mem_toString member with sign | digit
      · exact absurd sign (by decide)
      · exact absurd digit (by decide)

/-- The first bytes of `data`. -/
structure Data where
  byte0 : UInt8
  byte1 : UInt8
  byte2 : UInt8
  byte3 : UInt8

/-- The C library: the numbers that are out of range, and `%.6g`. -/
structure Libc where
  wrapped : Int → Int32
  printFloat : UInt8 → UInt8 → UInt8 → UInt8 → Message

/-- What libmodbus answers to a collector: whether contexts can be allocated, the text of the error
if the connection fails, and for every read its result, the data, and the text of its error. -/
structure Libmodbus where
  newTcp : List Char → Int32 → Bool
  newRtu : List Char → Int32 → Bool
  connect : Option Message
  readRegisters : Nat → Int32 → Int32 → Int32 × Data
  readInputRegisters : Nat → Int32 → Int32 → Int32 × Data
  strerror : Nat → Message

/-- The variables of the pipeline, as strings and numbers of C. -/
structure Settings where
  device : List Char
  slave : Int32
  baud : Int32
  records : List Char

/-- What is printed lies between `buffer` and `ptr`. -/
structure Buffer where
  errMsg : Option Message
  printed : List Char
  space : Nat
  whole : printed.length + space = 2000

def tooManyData : Message := message "too many data" (by decide +kernel)

def bufferAppend (buffer : Buffer) (text : List Char) : Buffer :=
  if full : text.length = 0 ∨ buffer.space ≤ text.length + 1 then
    { buffer with errMsg := some tooManyData }
  else
    ⟨buffer.errMsg, buffer.printed ++ text, buffer.space - text.length, by
      have whole := buffer.whole
      rw [List.length_append]
      omega⟩

/-- The comma after the last record is taken back. -/
def dropComma (buffer : Buffer) : Buffer :=
  if comma : buffer.printed.getLast? = some ',' then
    ⟨buffer.errMsg, buffer.printed.dropLast, buffer.space + 1, by
      have whole := buffer.whole
      have filled : buffer.printed ≠ [] := by
        rintro empty
        rw [empty] at comma
        cases comma
      have positive := List.length_pos_iff.mpr filled
      rw [List.length_dropLast]
      omega⟩
  else buffer

section Collector

variable (libc : Libc) (modbus : Libmodbus)

def atoi (text : List Char) : Int32 :=
  match scanInt text with
  | some (value, _) => stored libc.wrapped value
  | none => 0

/-- The device up to its colon, and the port after it. -/
def getHostPort (device : List Char) : List Char × Int32 :=
  (device.takeWhile (· ≠ ':'),
    match device.dropWhile (· ≠ ':') with
    | [] => 0
    | _ :: ptr => atoi libc ptr)

def recordsWrong : Message := message "records is wrong!\n" (by decide +kernel)

def unableTcp : Message := message "Unable to allocate libmodbus/TCP context\n" (by decide +kernel)

def unableRtu : Message := message "Unable to allocate libmodbus/RTU context\n" (by decide +kernel)

/-- The list of tasks, if there is a context that is connected. -/
def initModbus (settings : Settings) : Except Message (List ReadTask) :=
  let taskList := parseRecords libc.wrapped settings.records
  if taskList.length < 1 then .error recordsWrong
  else
    let (device, port) := getHostPort libc settings.device
    if 0 < port && !modbus.newTcp device port then .error unableTcp
    else if port < 1 && !modbus.newRtu device settings.baud then .error unableRtu
    else
      match modbus.connect with
      | some reason => .error reason
      | none => .ok taskList

/-- `data[1] << 8 | data[0]` -/
def firstWord (data : Data) : UInt16 := data.byte1.toUInt16 <<< 8 ||| data.byte0.toUInt16

def bothWords (data : Data) : UInt32 :=
  data.byte1.toUInt32 <<< 24 ||| data.byte0.toUInt32 <<< 16 ||| data.byte3.toUInt32 <<< 8 |||
    data.byte2.toUInt32

/-- What is printed for a task, if anything is. -/
def recordValue (i : Nat) (task : ReadTask) : Option Message :=
  let size := if task.type = .float || task.type = .long then 2 else 1
  let (rc, data) :=
    if task.fc = 3 then modbus.readRegisters i task.addr size
    else if task.fc = 4 then modbus.readInputRegisters i task.addr size
    else (-1, ⟨0, 0, 0, 0⟩)
  if rc ≠ size then some (modbus.strerror i)
  else
    match task.type with
    | .short => some (printInt (firstWord data).toInt16.toInt)
    | .ushort => some (printInt (firstWord data).toNat)
    | .float => some (libc.printFloat data.byte2 data.byte3 data.byte0 data.byte1)
    | .long => some (printInt (bothWords data).toInt32.toInt)
    | .unkown => none

/-- `"%d":"%s"` -/
def entryText (addr : Int32) (value : Message) : List Char :=
  quoted (printInt addr.toInt).text ++ ':' :: quoted value.text

def appendRecord (buffer : Buffer) (i : Nat) (task : ReadTask) : Buffer :=
  match recordValue libc modbus i task with
  | some value => bufferAppend buffer (entryText task.addr value ++ [','])
  | none => buffer

def appendRecords : List (ReadTask × Nat) → Buffer → Buffer
  | [], buffer => buffer
  | (task, i) :: rest, buffer =>
      if buffer.errMsg.isNone then appendRecords rest (appendRecord libc modbus buffer i task)
      else buffer

def header (slave ts : Int32) : List Char :=
  "\x7b\"id\":".toList ++ ((printInt slave.toInt).text ++
    (",\"ts\":".toList ++ ((printInt ts.toInt).text ++ [','])))

def errorMember (reason : Message) : List Char := "\"error\":".toList ++ quoted reason.text

def deviceUndefined : Message := message "__modbusDeviceName is undefined" (by decide +kernel)

def slaveUndefined : Message := message "__modbusSlaveID is undefined" (by decide +kernel)

def settingsError (settings : Settings) : Option Message :=
  if settings.device = [] then some deviceUndefined
  else if settings.slave = -1 then some slaveUndefined
  else none

def recordsKey : List Char := "\"records\":\x7b".toList

def printRecords (taskList : List ReadTask) (buffer : Buffer) : Buffer :=
  let buffer := bufferAppend buffer recordsKey
  bufferAppend (dropComma (appendRecords libc modbus taskList.zipIdx buffer)) ['}']

/-- The buffer before the end of the report is printed. -/
def printBody (settings : Settings) (ts : Int32) : Buffer :=
  let buffer := bufferAppend ⟨none, [], 2000, rfl⟩ (header settings.slave ts)
  let buffer :=
    match settingsError settings with
    | some reason => { buffer with errMsg := some reason }
    | none => buffer
  if buffer.errMsg.isNone then
    match initModbus libc modbus settings with
    | .error reason => { buffer with errMsg := some reason }
    | .ok taskList => printRecords libc modbus taskList buffer
  else buffer

structure Head where
  id : Int32
  ts : Int32
  error : Option Message

inductive Output
  | messageStart (head : Head)
  | data (bytes : List Char)
  | messageEnd

inductive Event
  | messageStart
  | messageEnd
  | other

/-- The end of the report, with the error that the head is given. -/
def printEnd (buffer : Buffer) : Buffer × Option Message :=
  match buffer.errMsg with
  | some reason =>
      let buffer := bufferAppend buffer (errorMember reason ++ ['}'])
      (buffer, buffer.errMsg)
  | none => (bufferAppend buffer ['}'], none)

/-- The events that are output at the end of a message. -/
def report (settings : Settings) (ts : Int32) : List Output :=
  let (buffer, error) := printEnd (printBody libc modbus settings ts)
  [.messageStart ⟨settings.slave, ts, error⟩] ++
    (if buffer.printed = [] then [] else [.data buffer.printed]) ++ [.messageEnd]

def pipelineProcess (settings : Settings) (ts : Int32) (isStarted : Bool) :
    Event → Bool × List Output
  | .messageStart => (true, [])
  | .messageEnd => (isStarted, if isStarted then report libc modbus settings ts else [])
  | .other => (isStarted, [])

end Collector

def bytesOf (outputs : List Output) : List Char :=
  outputs.flatMap fun
    | .data bytes => bytes
    | _ => []

/-! The report without a limit. -/

section Whole

variable (libc : Libc) (modbus : Libmodbus)

def outcome (settings : Settings) : Except Message (List ReadTask) :=
  match settingsError settings with
  | some reason => .error reason
  | none => initModbus libc modbus settings

def entries (tasks : List (ReadTask × Nat)) : List (List Char) :=
  tasks.filterMap fun one => (recordValue libc modbus one.2 one.1).map (entryText one.1.addr)

def lastMember (settings : Settings) : List Char :=
  match outcome libc modbus settings with
  | .error reason => errorMember reason
  | .ok taskList =>
      recordsKey ++ ([','].intercalate (entries libc modbus taskList.zipIdx) ++ ['}'])

def wholeReport (settings : Settings) (ts : Int32) : List Char :=
  header settings.slave ts ++ (lastMember libc modbus settings ++ ['}'])

def Printable (text : List Char) : Prop := ∀ c ∈ text, 0x20 ≤ c.toNat

instance (text : List Char) : Decidable (Printable text) := List.decidableBAll _ _

end Whole

/-! The texts that are printed. -/

def label (name : List Char) : List Char := quoted name ++ [':']

/-- The name needs no escapes. -/
def Plain (name : List Char) : Prop := (name.all fun c => Json.Unescaped c) = true

instance (name : List Char) : Decidable (Plain name) := inferInstanceAs (Decidable (_ = true))

theorem Plain.chars {name : List Char} (plain : Plain name) : Json.Chars name :=
  Json.chars_of_unescaped (List.all_iff_forall_prop.mp plain)

/-- The texts between the printed values, character by character. -/
theorem literal_texts :
    "\x7b\"id\":".toList = '{' :: label ['i', 'd'] ∧
    ",\"ts\":".toList = ',' :: label ['t', 's'] ∧
    recordsKey = label ['r', 'e', 'c', 'o', 'r', 'd', 's'] ++ ['{'] ∧
    "\"error\":".toList = label ['e', 'r', 'r', 'o', 'r'] := by
  decide +kernel

theorem recordsKey_eq : recordsKey = label ['r', 'e', 'c', 'o', 'r', 'd', 's'] ++ ['{'] :=
  literal_texts.2.2.1

theorem errorMember_eq (reason : Message) :
    errorMember reason = label ['e', 'r', 'r', 'o', 'r'] ++ quoted reason.text :=
  congrArg (· ++ quoted reason.text) literal_texts.2.2.2

theorem header_eq (slave ts : Int32) : header slave ts =
    '{' :: ((label ['i', 'd'] ++ (printInt slave.toInt).text) ++
      ',' :: ((label ['t', 's'] ++ (printInt ts.toInt).text) ++ [','])) := by
  obtain ⟨first, second, _⟩ := literal_texts
  have joined (front back name other : List Char) : ('{' :: front) ++ (back ++ ((',' :: name) ++
      (other ++ [',']))) = '{' :: ((front ++ back) ++ ',' :: ((name ++ other) ++ [','])) := by simp
  calc header slave ts
      _ = ('{' :: label ['i', 'd']) ++ ((printInt slave.toInt).text ++
            ((',' :: label ['t', 's']) ++ ((printInt ts.toInt).text ++ [',']))) := by
          rw [← first, ← second]
          rfl
      _ = _ := joined _ _ _ _

/-! The buffer. -/

/-- A text is printed if its NUL and one byte more fit behind it. -/
theorem bufferAppend_cases (buffer : Buffer) {text : List Char} (filled : text ≠ []) :
    (buffer.printed.length + text.length ≤ 1998 ∧
      (bufferAppend buffer text).errMsg = buffer.errMsg ∧
      (bufferAppend buffer text).printed = buffer.printed ++ text) ∨
    (1998 < buffer.printed.length + text.length ∧
      (bufferAppend buffer text).errMsg = some tooManyData ∧
      (bufferAppend buffer text).printed = buffer.printed) := by
  have whole := buffer.whole
  have positive := List.length_pos_iff.mpr filled
  unfold bufferAppend
  split
  · exact .inr ⟨by omega, rfl, rfl⟩
  · exact .inl ⟨by omega, rfl, rfl⟩

theorem bufferAppend_fits {buffer : Buffer} {text : List Char} (filled : text ≠ [])
    (room : buffer.printed.length + text.length ≤ 1998) :
    (bufferAppend buffer text).errMsg = buffer.errMsg ∧
      (bufferAppend buffer text).printed = buffer.printed ++ text := by
  rcases bufferAppend_cases buffer filled with ⟨_, fits⟩ | ⟨full, _⟩
  · exact fits
  · omega

/-- Entries as they are printed, each with its comma. -/
def commaEnded (entries : List (List Char)) : List Char := entries.flatMap (· ++ [','])

theorem commaEnded_eq {entries : List (List Char)} (filled : entries ≠ []) :
    commaEnded entries = [','].intercalate entries ++ [','] := by
  induction entries with
  | nil => exact absurd rfl filled
  | cons entry rest ih =>
      rw [commaEnded, List.flatMap_cons, ← commaEnded]
      by_cases last : rest = []
      · subst last
        rw [List.intercalate_singleton, commaEnded, List.flatMap_nil, List.append_nil]
      · rw [ih last, List.intercalate_cons_of_ne_nil last]
        simp only [List.append_assoc]

theorem length_commaEnded_le (entries : List (List Char)) :
    (commaEnded entries).length ≤ ([','].intercalate entries).length + 1 := by
  by_cases filled : entries = []
  · subst filled
    exact Nat.zero_le _
  · rw [commaEnded_eq filled, List.length_append, List.length_singleton]

theorem dropComma_printed {buffer : Buffer} {start : List Char} {entries : List (List Char)}
    (printed : buffer.printed = start ++ commaEnded entries) (plain : start.getLast? ≠ some ',') :
    (dropComma buffer).printed = start ++ [','].intercalate entries ∧
      (dropComma buffer).errMsg = buffer.errMsg := by
  by_cases filled : entries = []
  · subst filled
    rw [commaEnded, List.flatMap_nil, List.append_nil] at printed
    rw [dropComma, dif_neg (by rw [printed]; exact plain), printed, List.intercalate_nil,
      List.append_nil]
    exact ⟨rfl, rfl⟩
  · rw [commaEnded_eq filled, ← List.append_assoc] at printed
    have comma : buffer.printed.getLast? = some ',' := by
      rw [printed, List.getLast?_concat]
    rw [dropComma, dif_pos comma]
    refine ⟨?_, rfl⟩
    dsimp only
    rw [printed, List.dropLast_concat]

section Records

variable {libc : Libc} {modbus : Libmodbus}

theorem appendRecords_failed (tasks : List (ReadTask × Nat)) {buffer : Buffer} {reason : Message}
    (failed : buffer.errMsg = some reason) : appendRecords libc modbus tasks buffer = buffer := by
  cases tasks with
  | nil => rfl
  | cons one rest =>
      rw [appendRecords, failed]
      rfl

/-- All entries are printed, or those before one that does not fit. -/
theorem appendRecords_cases (tasks : List (ReadTask × Nat)) {buffer : Buffer}
    (clean : buffer.errMsg = none) :
    ((appendRecords libc modbus tasks buffer).errMsg = none ∧
      (appendRecords libc modbus tasks buffer).printed =
        buffer.printed ++ commaEnded (entries libc modbus tasks)) ∨
    (1998 < buffer.printed.length + (commaEnded (entries libc modbus tasks)).length ∧
      (appendRecords libc modbus tasks buffer).errMsg = some tooManyData ∧
      ∃ kept, kept <+: entries libc modbus tasks ∧
        (appendRecords libc modbus tasks buffer).printed = buffer.printed ++ commaEnded kept) := by
  induction tasks generalizing buffer with
  | nil => exact .inl ⟨clean, (List.append_nil _).symm⟩
  | cons one rest ih =>
      obtain ⟨task, i⟩ := one
      have stepped : appendRecords libc modbus ((task, i) :: rest) buffer =
          appendRecords libc modbus rest (appendRecord libc modbus buffer i task) := by
        rw [appendRecords, clean]
        rfl
      rw [stepped]
      cases read : recordValue libc modbus i task with
      | none =>
          have same : appendRecord libc modbus buffer i task = buffer := by
            rw [appendRecord, read]
          rw [same, entries, List.filterMap_cons_none (by simp [read]), ← entries]
          exact ih clean
      | some value =>
          obtain ⟨entry, named⟩ : ∃ entry, entryText task.addr value = entry := ⟨_, rfl⟩
          have printed : appendRecord libc modbus buffer i task =
              bufferAppend buffer (entry ++ [',']) := by
            rw [appendRecord, read, ← named]
          have listed : entries libc modbus ((task, i) :: rest) =
              entry :: entries libc modbus rest := by
            rw [entries, List.filterMap_cons_some (by rw [read, Option.map_some, named]), ← entries]
          have ended (others : List (List Char)) :
              commaEnded (entry :: others) = (entry ++ [',']) ++ commaEnded others := rfl
          rw [printed, listed, ended]
          rcases @bufferAppend_cases buffer (entry ++ [',']) (by simp) with
            ⟨_, still, grown⟩ | ⟨full, failed, same⟩
          · rcases ih (still.trans clean) with ⟨later, all⟩ | ⟨beyond, later, front, part, laid⟩
            · exact .inl ⟨later, by rw [all, grown, List.append_assoc]⟩
            · refine .inr ⟨?_, later, entry :: front, List.cons_prefix_cons.mpr ⟨rfl, part⟩, ?_⟩
              · rw [grown, List.length_append] at beyond
                rw [List.length_append]
                omega
              · rw [laid, grown, ended, List.append_assoc]
          · rw [appendRecords_failed rest failed, same]
            refine .inr ⟨?_, failed, [], List.nil_prefix, (List.append_nil _).symm⟩
            rw [List.length_append]
            omega

/-- The records are printed whole, or some of them with an error. -/
theorem printRecords_cases (taskList : List ReadTask) {buffer : Buffer}
    (clean : buffer.errMsg = none)
    (short : (buffer.printed ++ recordsKey).length ≤ 1998) :
    ((printRecords libc modbus taskList buffer).errMsg = none ∧
      (printRecords libc modbus taskList buffer).printed = buffer.printed ++ recordsKey ++
        ([','].intercalate (entries libc modbus taskList.zipIdx) ++ ['}'])) ∨
    (1996 < (buffer.printed ++ recordsKey).length +
        ([','].intercalate (entries libc modbus taskList.zipIdx)).length ∧
      (printRecords libc modbus taskList buffer).errMsg = some tooManyData ∧
      ∃ kept, kept <+: entries libc modbus taskList.zipIdx ∧
        ((printRecords libc modbus taskList buffer).printed =
            buffer.printed ++ recordsKey ++ ([','].intercalate kept ++ ['}']) ∨
          (printRecords libc modbus taskList buffer).printed =
            buffer.printed ++ recordsKey ++ [','].intercalate kept)) := by
  have room : buffer.printed.length + recordsKey.length ≤ 1998 := by
    rw [← List.length_append]
    exact short
  have filled : recordsKey ≠ [] := by
    rw [recordsKey_eq]
    exact List.cons_ne_nil _ _
  obtain ⟨still, opened⟩ := bufferAppend_fits filled room
  have bracket : (buffer.printed ++ recordsKey).getLast? ≠ some ',' := by
    rw [List.getLast?_append_of_ne_nil _ filled, recordsKey_eq, List.getLast?_concat]
    decide
  have commas := length_commaEnded_le (entries libc modbus taskList.zipIdx)
  have steps : printRecords libc modbus taskList buffer = bufferAppend (dropComma
      (appendRecords libc modbus taskList.zipIdx (bufferAppend buffer recordsKey))) ['}'] := rfl
  rw [steps]
  have laidOut := @appendRecords_cases libc modbus taskList.zipIdx _ (still.trans clean)
  rw [opened] at laidOut
  generalize appendRecords libc modbus taskList.zipIdx (bufferAppend buffer recordsKey) = filled
    at laidOut ⊢
  have ends := bufferAppend_cases (dropComma filled) (List.cons_ne_nil '}' [])
  rcases laidOut with ⟨none, all⟩ | ⟨beyond, failed, kept, part, laid⟩
  · obtain ⟨trimmed, same⟩ := dropComma_printed all bracket
    rw [trimmed, same, none] at ends
    rcases ends with ⟨_, late, closed⟩ | ⟨full, late, open_⟩
    · exact .inl ⟨late, by rw [closed, List.append_assoc]⟩
    · refine .inr ⟨?_, late, _, List.prefix_rfl, .inr open_⟩
      rw [List.length_append, List.length_singleton] at full
      omega
  · obtain ⟨trimmed, same⟩ := dropComma_printed laid bracket
    rw [trimmed, same, failed] at ends
    refine .inr ⟨by omega, ?_⟩
    rcases ends with ⟨_, late, closed⟩ | ⟨_, late, open_⟩
    · exact ⟨late, kept, part, .inl (by rw [closed, List.append_assoc])⟩
    · exact ⟨late, kept, part, .inr open_⟩

end Records

/-! What the scan of brackets finds in the report. -/

theorem printable_append (front back : List Char) :
    Printable (front ++ back) ↔ Printable front ∧ Printable back := List.forall_mem_append

/-- The text is a value that is closed, unless a control character breaks it. -/
def Closes (text : List Char) : Prop :=
  ∀ depth, Json.scan (.outside depth false) text =
    if Printable text then .outside depth true else .broken

theorem printInt_printable (value : Int) : Printable (printInt value).text := by
  intro c member
  rcases mem_toString member with rfl | digit
  · decide
  · have bounds := isDigit_bounds digit
    omega

theorem Message.unescaped {message : Message} (printable : Printable message.text) :
    ∀ c ∈ message.text, Json.Unescaped c :=
  fun c member => ⟨(message.plain c member).1, (message.plain c member).2, printable c member⟩

theorem quoted_printable_iff (text : List Char) : Printable (quoted text) ↔ Printable text := by
  have quote : Printable ['"'] := by decide
  rw [quoted, ← List.singleton_append, printable_append, printable_append, and_iff_right quote,
    and_iff_left quote]

theorem closes_quoted (message : Message) : Closes (quoted message.text) := by
  intro depth
  simp only [quoted_printable_iff]
  split
  · rename_i printable
    exact Json.scan_quoted (Json.chars_of_unescaped (message.unescaped printable)) depth
  · rename_i control
    simp only [Printable, not_forall, not_le, exists_prop] at control
    have broken := Json.scan_control message.plain control depth
    rw [quoted, Json.scan_cons, Json.scan_append]
    exact (congrArg (Json.scan · ['"']) broken).trans (Json.scan_broken _)

theorem Closes.labelled {label text : List Char} (printable : Printable label)
    (opens : ∀ depth, Json.scan (.outside depth false) label = .outside depth false)
    (closes : Closes text) : Closes (label ++ text) := by
  intro depth
  simp only [Json.scan_append, opens depth, closes depth, printable_append, printable, true_and]

theorem closes_entry (addr : Int32) (value : Message) : Closes (entryText addr value) := by
  have key := printInt_printable addr.toInt
  rw [entryText, ← List.singleton_append, ← List.append_assoc]
  refine Closes.labelled ?_ ?_ (closes_quoted value)
  · rw [printable_append, quoted_printable_iff]
    exact ⟨key, by decide⟩
  · intro depth
    rw [Json.scan_append, closes_quoted _ depth, if_pos ((quoted_printable_iff _).mpr key)]
    rfl

theorem scan_joined {entries : List (List Char)} (all : ∀ entry ∈ entries, Closes entry)
    (depth : Nat) : Json.scan (.outside depth false) ([','].intercalate entries) =
      if Printable ([','].intercalate entries) then .outside depth (decide (entries ≠ []))
      else .broken := by
  induction entries with
  | nil => rfl
  | cons entry rest ih =>
      have own := all entry List.mem_cons_self depth
      have later := ih fun other member => all other (List.mem_cons_of_mem entry member)
      by_cases last : rest = []
      · rw [last, List.intercalate_singleton]
        exact own
      · rw [List.intercalate_cons_of_ne_nil last, Json.scan_append, Json.scan_append, own]
        simp only [printable_append]
        by_cases printable : Printable entry
        · have comma : Json.scan (.outside depth true) [','] = .outside depth false := rfl
          have separator : Printable [','] := by decide
          rw [if_pos printable, comma, later]
          simp only [printable, separator, true_and, last, ne_eq, not_false_eq_true,
            List.cons_ne_nil]
        · rw [if_neg printable, Json.scan_broken, Json.scan_broken, if_neg]
          exact fun both => printable both.1.1

theorem entries_close (libc : Libc) (modbus : Libmodbus) (tasks : List (ReadTask × Nat)) :
    ∀ entry ∈ entries libc modbus tasks, Closes entry := by
  intro entry member
  obtain ⟨one, _, read⟩ := List.mem_filterMap.mp member
  obtain ⟨value, _, rfl⟩ := Option.map_eq_some_iff.mp read
  exact closes_entry _ value

theorem scan_label {name : List Char} (plain : Plain name) (depth : Nat) :
    Json.scan (.outside depth false) (label name) = .outside depth false := by
  rw [label, Json.scan_append, Json.scan_quoted plain.chars]
  rfl

theorem closes_errorMember (reason : Message) : Closes (errorMember reason) := by
  rw [errorMember_eq]
  exact Closes.labelled (by decide) (scan_label (by decide)) (closes_quoted reason)

theorem scan_recordsKey (depth : Nat) :
    Json.scan (.outside depth false) recordsKey = .outside (depth + 1) false := by
  rw [recordsKey_eq, Json.scan_append, scan_label (by decide)]
  rfl

theorem closes_records {entries : List (List Char)} (all : ∀ entry ∈ entries, Closes entry) :
    Closes (recordsKey ++ ([','].intercalate entries ++ ['}'])) := by
  have key : Printable recordsKey := by
    rw [recordsKey_eq]
    decide
  have bracket : Printable ['}'] := by decide
  intro depth
  rw [Json.scan_append, scan_recordsKey, Json.scan_append, scan_joined all]
  simp only [printable_append, key, bracket, true_and, and_true]
  split
  · rfl
  · exact Json.scan_broken _

theorem scan_printInt (value : Int) (depth : Nat) :
    Json.scan (.outside depth false) (printInt value).text = .outside depth false := by
  refine Json.scan_neutral (fun c member => ?_) depth false
  rcases mem_toString member with rfl | digit
  · decide
  · exact Json.neutral_of_isDigit digit

theorem scan_header (slave ts : Int32) :
    Json.scan (.outside 0 false) (header slave ts) = .outside 1 false := by
  have member {name : List Char} (plain : Plain name) (value : Int) :
      Json.scan (.outside 1 false) (label name ++ (printInt value).text) = .outside 1 false := by
    rw [Json.scan_append, scan_label plain, scan_printInt]
  have opens : Json.scanChar (.outside 0 false) '{' = .outside 1 false := rfl
  rw [header_eq, Json.scan_cons, opens, Json.scan_separated (member (by decide) _) rfl,
    Json.scan_separated (member (by decide) _) rfl]
  rfl

theorem header_printable (slave ts : Int32) : Printable (header slave ts) := by
  have opens : Printable ['{'] := by decide
  have comma : Printable [','] := by decide
  have id : Printable (label ['i', 'd']) := by decide
  have time : Printable (label ['t', 's']) := by decide
  rw [header_eq, ← List.singleton_append, ← List.singleton_append (x := ',')]
  simp only [printable_append]
  exact ⟨opens, ⟨id, printInt_printable _⟩, comma, ⟨time, printInt_printable _⟩, comma⟩

/-! The report as a whole. -/

theorem length_header_le (slave ts : Int32) : (header slave ts).length ≤ 35 := by
  have id : (label ['i', 'd']).length = 5 := rfl
  have time : (label ['t', 's']).length = 5 := rfl
  have first : (printInt slave.toInt).text.length ≤ 11 := (length_toString_int32 slave).2
  have second : (printInt ts.toInt).text.length ≤ 11 := (length_toString_int32 ts).2
  rw [header_eq]
  simp only [List.length_cons, List.length_append, List.length_nil, id, time]
  omega

section Reports

variable {libc : Libc} {modbus : Libmodbus}

theorem closes_lastMember (settings : Settings) : Closes (lastMember libc modbus settings) := by
  unfold lastMember
  split
  · exact closes_errorMember _
  · exact closes_records (entries_close libc modbus _)

theorem derives_joined {entries : List (List Char)} (filled : entries ≠ [])
    (all : ∀ entry ∈ entries, Json.Derives .member entry) :
    Json.Derives .members ([','].intercalate entries) := by
  induction entries with
  | nil => exact absurd rfl filled
  | cons entry rest ih =>
      have own := all entry List.mem_cons_self
      by_cases last : rest = []
      · rw [last, List.intercalate_singleton]
        exact .lastMember own
      · have later := ih last fun other member => all other (List.mem_cons_of_mem entry member)
        rw [List.intercalate_cons_of_ne_nil last, List.append_assoc, List.singleton_append]
        exact .members own later

theorem derives_label {name value : List Char} (plain : Plain name)
    (derives : Json.Derives .value value) : Json.Derives .member (label name ++ value) := by
  rw [label, List.append_assoc, List.singleton_append]
  exact derives.entry plain.chars

theorem derives_entry {addr : Int32} {value : Message}
    (printable : Printable (entryText addr value)) :
    Json.Derives .member (entryText addr value) := by
  have parts : Printable value.text := by
    rw [entryText, ← List.singleton_append, printable_append, printable_append,
      quoted_printable_iff, quoted_printable_iff] at printable
    exact printable.2.2
  exact (Json.Derives.string (Json.chars_of_unescaped (value.unescaped parts))).entry
    (Json.chars_of_unescaped (Message.unescaped (printInt_printable addr.toInt)))

theorem printable_of_joined {entries : List (List Char)}
    (printable : Printable ([','].intercalate entries)) : ∀ entry ∈ entries, Printable entry := by
  induction entries with
  | nil => exact fun entry member => absurd member List.not_mem_nil
  | cons entry rest ih =>
      by_cases last : rest = []
      · subst last
        rw [List.intercalate_singleton] at printable
        exact List.forall_mem_singleton.mpr printable
      · rw [List.intercalate_cons_of_ne_nil last, printable_append, printable_append] at printable
        exact List.forall_mem_cons.mpr ⟨printable.1.1, ih printable.2⟩

theorem derives_lastMember {settings : Settings}
    (printable : Printable (lastMember libc modbus settings)) :
    Json.Derives .member (lastMember libc modbus settings) := by
  unfold lastMember at printable ⊢
  split at printable
  · rename_i reason _
    rw [errorMember_eq, printable_append, quoted_printable_iff] at printable
    rw [errorMember_eq]
    exact derives_label (by decide)
      (.string (Json.chars_of_unescaped (reason.unescaped printable.2)))
  · rename_i taskList _
    rw [printable_append, printable_append] at printable
    rw [recordsKey_eq, List.append_assoc, List.singleton_append]
    refine derives_label (by decide) (.object ?_)
    by_cases empty : entries libc modbus taskList.zipIdx = []
    · rw [empty, List.intercalate_nil]
      exact .emptyObject Json.ws_nil
    · refine .filledObject (derives_joined empty fun entry member => ?_)
      obtain ⟨one, _, read⟩ := List.mem_filterMap.mp member
      obtain ⟨value, _, rfl⟩ := Option.map_eq_some_iff.mp read
      exact derives_entry (printable_of_joined printable.2.1 _ member)

/-- The whole report is an object unless a control character is in it. -/
theorem isObject_wholeReport_iff (settings : Settings) (ts : Int32) :
    Json.IsObject (wholeReport libc modbus settings ts) ↔
      Printable (wholeReport libc modbus settings ts) := by
  have bracket : Printable ['}'] := by decide
  have head := header_printable settings.slave ts
  have parts : Printable (wholeReport libc modbus settings ts) ↔
      Printable (lastMember libc modbus settings) := by
    rw [wholeReport, printable_append, printable_append, and_iff_right head,
      and_iff_left bracket]
  rw [parts]
  constructor
  · intro object
    by_contra control
    obtain ⟨closed, scanned⟩ := object.scan
    rw [wholeReport, Json.scan_append, scan_header, Json.scan_append, closes_lastMember settings 1,
      if_neg control, Json.scan_broken] at scanned
    cases scanned
  · intro printable
    have number (value : Int) : Json.Derives .value (printInt value).text :=
      .number (Json.number_toString value)
    have id : Plain ['i', 'd'] := by decide
    have time : Plain ['t', 's'] := by decide
    have members := Json.Derives.members (derives_label id (number settings.slave.toInt))
      (.members (derives_label time (number ts.toInt))
        (.lastMember (derives_lastMember printable)))
    refine ⟨[], wholeReport libc modbus settings ts, [], by simp, Json.ws_nil, ?_, Json.ws_nil⟩
    have shape : wholeReport libc modbus settings ts =
        '{' :: (((label ['i', 'd'] ++ (printInt settings.slave.toInt).text) ++
          ',' :: ((label ['t', 's'] ++ (printInt ts.toInt).text) ++
            ',' :: lastMember libc modbus settings)) ++ ['}']) := by
      rw [wholeReport, header_eq]
      simp only [List.cons_append, List.append_assoc, List.nil_append]
    rw [shape]
    exact .filledObject members

/-- The buffer before its end: an error after the header, or the records. -/
theorem printBody_cases (settings : Settings) (ts : Int32) :
    (∃ reason, outcome libc modbus settings = .error reason ∧
      (printBody libc modbus settings ts).errMsg = some reason ∧
      (printBody libc modbus settings ts).printed = header settings.slave ts) ∨
    ∃ taskList buffer, outcome libc modbus settings = .ok taskList ∧
      printBody libc modbus settings ts = printRecords libc modbus taskList buffer ∧
      buffer.errMsg = none ∧ buffer.printed = header settings.slave ts := by
  have short := length_header_le settings.slave ts
  have filled : header settings.slave ts ≠ [] := by
    rw [header_eq]
    exact List.cons_ne_nil _ _
  obtain ⟨clean, printed⟩ := @bufferAppend_fits ⟨none, [], 2000, rfl⟩ (header settings.slave ts)
    filled (by simpa using short.trans (by decide))
  rw [outcome, printBody]
  generalize bufferAppend _ (header settings.slave ts) = buffer at clean printed ⊢
  cases settingsError settings with
  | some reason => exact .inl ⟨reason, rfl, rfl, printed⟩
  | none =>
      dsimp only
      rw [clean]
      cases initModbus libc modbus settings with
      | error reason => exact .inl ⟨reason, rfl, rfl, printed⟩
      | ok taskList => exact .inr ⟨taskList, buffer, rfl, rfl, clean, printed⟩

theorem initModbus_eq_ok {settings : Settings}
    (listed : ¬ (parseRecords libc.wrapped settings.records).length < 1)
    (port : (getHostPort libc settings.device).2 = 0)
    (made : modbus.newRtu (getHostPort libc settings.device).1 settings.baud = true)
    (connected : modbus.connect = none) :
    initModbus libc modbus settings = .ok (parseRecords libc.wrapped settings.records) := by
  have serial : ¬ (0 : Int32) < 0 := by decide
  rw [initModbus, if_neg listed]
  simp [port, made, connected, serial]

theorem bytesOf_report (settings : Settings) (ts : Int32) :
    bytesOf (report libc modbus settings ts) =
      (printEnd (printBody libc modbus settings ts)).1.printed := by
  rw [report]
  generalize printEnd (printBody libc modbus settings ts) = ended
  dsimp only
  split
  · rename_i empty
    rw [empty]
    rfl
  · exact List.append_nil _

end Reports

/-- A bracket is open after the text, or a control character has broken a string of it. -/
def Unclosed (text : List Char) : Prop :=
  Json.scan (.outside 0 false) text = .broken ∨
    Json.scan (.outside 0 false) text = .outside 1 true ∨
    ∃ closed, Json.scan (.outside 0 false) text = .outside 2 closed

theorem Unclosed.not_isObject {text : List Char} (unclosed : Unclosed text) :
    ¬ Json.IsObject text := by
  intro object
  obtain ⟨closed, scanned⟩ := object.scan
  rw [Unclosed, scanned] at unclosed
  simp at unclosed

/-- An error is no end for the records: no comma is before it, or one bracket stays open. -/
theorem Unclosed.error {text : List Char} (unclosed : Unclosed text) (reason : Message) :
    ¬ Json.IsObject (text ++ (errorMember reason ++ ['}'])) := by
  intro object
  obtain ⟨final, scanned⟩ := object.scan
  rw [Json.scan_append] at scanned
  have quote (depth : Nat) : Json.scan (.outside depth true) (errorMember reason ++ ['}']) =
      .broken := by
    rw [errorMember_eq]
    exact Json.scan_broken _
  rcases unclosed with broken | one | ⟨closed, two⟩
  · rw [broken, Json.scan_broken] at scanned
    cases scanned
  · rw [one, quote] at scanned
    cases scanned
  · cases closed with
    | true =>
        rw [two, quote] at scanned
        cases scanned
    | false =>
        rw [two, Json.scan_append, closes_errorMember reason 2] at scanned
        split at scanned
        · cases scanned
        · rw [Json.scan_broken] at scanned
          cases scanned

section Tails

variable {libc : Libc} {modbus : Libmodbus} {kept : List (List Char)}

theorem unclosed_kept (slave ts : Int32) (all : ∀ entry ∈ kept, Closes entry) :
    Unclosed (header slave ts ++ recordsKey ++ [','].intercalate kept) := by
  rw [Unclosed, Json.scan_append, Json.scan_append, scan_header, scan_recordsKey, scan_joined all]
  split
  · exact .inr (.inr ⟨_, rfl⟩)
  · exact .inl rfl

theorem unclosed_records (slave ts : Int32) (all : ∀ entry ∈ kept, Closes entry) :
    Unclosed (header slave ts ++ recordsKey ++ ([','].intercalate kept ++ ['}'])) := by
  rw [Unclosed, List.append_assoc, Json.scan_append, scan_header, closes_records all 1]
  split
  · exact .inr (.inl rfl)
  · exact .inl rfl

/-- A report of an error is an object if it fits, and otherwise only its header is printed. -/
theorem isObject_error_iff {settings : Settings} {reason : Message} (ts : Int32)
    (failed : outcome libc modbus settings = .error reason)
    (error : (printBody libc modbus settings ts).errMsg = some reason)
    (printed : (printBody libc modbus settings ts).printed = header settings.slave ts) :
    Json.IsObject (printEnd (printBody libc modbus settings ts)).1.printed ↔
      (wholeReport libc modbus settings ts).length ≤ 1998 ∧
        Printable (wholeReport libc modbus settings ts) := by
  have whole : wholeReport libc modbus settings ts =
      header settings.slave ts ++ (errorMember reason ++ ['}']) := by
    rw [wholeReport, lastMember, failed]
  have ended : (printEnd (printBody libc modbus settings ts)).1 =
      bufferAppend (printBody libc modbus settings ts) (errorMember reason ++ ['}']) := by
    rw [printEnd, error]
  rw [ended]
  rcases @bufferAppend_cases (printBody libc modbus settings ts) (errorMember reason ++ ['}'])
    (by simp) with ⟨fits, _, all⟩ | ⟨full, _, cut⟩
  · rw [all, printed, ← whole, isObject_wholeReport_iff, iff_and_self]
    intro _
    rw [whole, List.length_append, ← printed]
    exact fits
  · rw [cut, printed]
    refine iff_of_false ?_ fun both => ?_
    · rintro inside
      obtain ⟨closed, scanned⟩ := inside.scan
      rw [scan_header] at scanned
      cases scanned
    · rw [whole, List.length_append, ← printed] at both
      omega

theorem wholeReport_of_ok {settings : Settings} {taskList : List ReadTask} (ts : Int32)
    (made : outcome libc modbus settings = .ok taskList) : wholeReport libc modbus settings ts =
      header settings.slave ts ++ recordsKey ++
        ([','].intercalate (entries libc modbus taskList.zipIdx) ++ ['}']) ++ ['}'] := by
  rw [wholeReport, lastMember, made]
  simp only [List.append_assoc]

/-- Records that are printed whole make an object if the last bracket fits. -/
theorem isObject_records_iff {settings : Settings} {taskList : List ReadTask} (ts : Int32)
    (made : outcome libc modbus settings = .ok taskList)
    (clean : (printBody libc modbus settings ts).errMsg = none)
    (laid : (printBody libc modbus settings ts).printed = header settings.slave ts ++ recordsKey ++
      ([','].intercalate (entries libc modbus taskList.zipIdx) ++ ['}'])) :
    Json.IsObject (printEnd (printBody libc modbus settings ts)).1.printed ↔
      (wholeReport libc modbus settings ts).length ≤ 1998 ∧
        Printable (wholeReport libc modbus settings ts) := by
  have whole := wholeReport_of_ok ts made
  have ended : (printEnd (printBody libc modbus settings ts)).1 =
      bufferAppend (printBody libc modbus settings ts) ['}'] := by
    rw [printEnd, clean]
  rw [ended]
  rcases bufferAppend_cases (printBody libc modbus settings ts) (List.cons_ne_nil '}' []) with
    ⟨fits, _, done⟩ | ⟨full, _, cut⟩
  · rw [done, laid, ← whole, isObject_wholeReport_iff, iff_and_self]
    intro _
    rw [whole, List.length_append, ← laid]
    exact fits
  · have closes := entries_close libc modbus taskList.zipIdx
    have unclosed := unclosed_records settings.slave ts closes
    rw [cut, laid]
    refine iff_of_false unclosed.not_isObject fun both => ?_
    rw [whole, List.length_append, ← laid] at both
    omega

/-- Records that are cut off with an error make no object. -/
theorem not_isObject_cut {settings : Settings} {ts : Int32}
    (error : (printBody libc modbus settings ts).errMsg = some tooManyData)
    (closes : ∀ entry ∈ kept, Closes entry)
    (laid : (printBody libc modbus settings ts).printed =
        header settings.slave ts ++ recordsKey ++ ([','].intercalate kept ++ ['}']) ∨
      (printBody libc modbus settings ts).printed =
        header settings.slave ts ++ recordsKey ++ [','].intercalate kept) :
    ¬ Json.IsObject (printEnd (printBody libc modbus settings ts)).1.printed := by
  have unclosed : Unclosed (printBody libc modbus settings ts).printed := by
    rcases laid with closed | open_
    · rw [closed]
      exact unclosed_records _ _ closes
    · rw [open_]
      exact unclosed_kept _ _ closes
  have ended : (printEnd (printBody libc modbus settings ts)).1 =
      bufferAppend (printBody libc modbus settings ts) (errorMember tooManyData ++ ['}']) := by
    rw [printEnd, error]
  rw [ended]
  rcases @bufferAppend_cases (printBody libc modbus settings ts)
    (errorMember tooManyData ++ ['}']) (by simp) with ⟨_, _, done⟩ | ⟨_, _, cut⟩
  · rw [done]
    exact unclosed.error tooManyData
  · rw [cut]
    exact unclosed.not_isObject

theorem isObject_report_iff (settings : Settings) (ts : Int32) :
    Json.IsObject (bytesOf (report libc modbus settings ts)) ↔
      (wholeReport libc modbus settings ts).length ≤ 1998 ∧
        Printable (wholeReport libc modbus settings ts) := by
  rw [bytesOf_report]
  rcases printBody_cases settings ts with
    ⟨reason, failed, error, printed⟩ | ⟨taskList, buffer, made, printed, clean, headed⟩
  · exact isObject_error_iff ts failed error printed
  · have short : (buffer.printed ++ recordsKey).length ≤ 1998 := by
      have key : recordsKey.length = 11 := by
        rw [recordsKey_eq]
        rfl
      have least := length_header_le settings.slave ts
      rw [headed, List.length_append, key]
      omega
    have laidOut := @printRecords_cases libc modbus taskList buffer clean short
    rw [headed, ← printed] at laidOut
    rcases laidOut with ⟨none, laid⟩ | ⟨beyond, error, kept, part, laid⟩
    · exact isObject_records_iff ts made none laid
    · have closes : ∀ entry ∈ kept, Closes entry := fun entry member =>
        entries_close libc modbus taskList.zipIdx entry (part.subset member)
      refine iff_of_false (not_isObject_cut error closes laid) fun both => ?_
      have length := both.1
      rw [wholeReport_of_ok ts made] at length
      simp only [List.length_append, List.length_singleton] at length beyond
      omega

theorem pipelineProcess_started (settings : Settings) (ts : Int32) :
    (pipelineProcess libc modbus settings ts true .messageEnd).2 =
      report libc modbus settings ts := rfl

end Tails

/-- The bytes that are output are one object exactly if the whole report has at most 1998 bytes and
no control characters. -/
theorem wellFormed_iff (libc : Libc) (modbus : Libmodbus) (settings : Settings) (ts : Int32) :
    Json.IsObject (bytesOf (pipelineProcess libc modbus settings ts true .messageEnd).2) ↔
      (wholeReport libc modbus settings ts).length ≤ 1998 ∧
        Printable (wholeReport libc modbus settings ts) := by
  rw [pipelineProcess_started]
  exact isObject_report_iff settings ts

/-! A device that does not answer. -/

def timedOut : Message := message "Connection timed out" (by decide +kernel)

def silentDevice : Libmodbus where
  newTcp _ _ := true
  newRtu _ _ := true
  connect := none
  readRegisters _ _ _ := (-1, ⟨0, 0, 0, 0⟩)
  readInputRegisters _ _ _ := (-1, ⟨0, 0, 0, 0⟩)
  strerror _ := timedOut

def plainLibc : Libc where
  wrapped := Int32.ofInt
  printFloat _ _ _ _ := ⟨['0'], List.all_iff_forall_prop.mp (by decide)⟩

def serialSettings (recs : List Record) : Settings :=
  ⟨"/dev/ttyUSB0".toList, 1, 9600, (records (some recs)).toList⟩

theorem outcome_serial {recs : List Record} (valid : ∀ e ∈ recs, e.Valid)
    (room : recs.length ≤ 100) (filled : recs ≠ []) :
    outcome plainLibc silentDevice (serialSettings recs) = .ok (recs.map Record.task) := by
  have device : "/dev/ttyUSB0".toList ≠ [] := by decide +kernel
  have settled : settingsError (serialSettings recs) = none := (if_neg device).trans rfl
  have port : (getHostPort plainLibc "/dev/ttyUSB0".toList).2 = 0 := by decide +kernel
  have parsed := @parseRecords_records plainLibc.wrapped recs valid room
  have listed : ¬ (recs.map Record.task).length < 1 := by
    rw [List.length_map]
    exact Nat.not_lt.mpr (List.length_pos_iff.mpr filled)
  rw [outcome, settled, ← parsed]
  rw [← parsed] at listed
  exact initModbus_eq_ok listed port rfl rfl

def hundredRecords : List Record := List.replicate 100 ⟨3, 1, "short"⟩

/-- A hundred errors do not fit. -/
theorem silentDevice_unclosed :
    ¬ ∀ (libc : Libc) (modbus : Libmodbus) (settings : Settings) (ts : Int32),
      Json.IsObject (bytesOf (pipelineProcess libc modbus settings ts true .messageEnd).2) := by
  intro claimed
  have valid : ∀ e ∈ hundredRecords, e.Valid := by
    intro e member
    rw [List.eq_of_mem_replicate member]
    exact ⟨.inl rfl, by decide +kernel⟩
  have room : hundredRecords.length ≤ 100 := by rw [hundredRecords, List.length_replicate]
  have filled : hundredRecords ≠ [] := by
    rw [hundredRecords, List.replicate_succ]
    exact List.cons_ne_nil _ _
  have made := outcome_serial valid room filled
  have listed : entries plainLibc silentDevice (hundredRecords.map Record.task).zipIdx =
      List.replicate 100 (entryText 1 timedOut) := rfl
  have long : 1998 < ([','].intercalate (List.replicate 100 (entryText 1 timedOut))).length := by
    decide +kernel
  rw [← listed] at long
  have output := claimed plainLibc silentDevice (serialSettings hundredRecords) 0
  rw [pipelineProcess_started] at output
  have fits := ((isObject_report_iff _ _).mp output).1
  rw [wholeReport_of_ok 0 made] at fits
  simp only [List.length_append] at fits
  omega

end Modbus

end Fgw
