import Fgw.Library.Outbox
import Fgw.Library.SortedSearch
import Fgw.Library.Table
import Fgw.ScriptValue
import Mathlib.Data.List.Lex

/-!
The uploads of the gateway for devices.  Each report is written to a file of its own, and a task
posts the newest files again and again, until the server has answered for them.
-/

namespace Fgw

namespace Iot

/-- The JSON, the numbers and the dates of the platform. -/
structure Platform where
  decode : String → Value
  encode : Value → String
  /-- `value > 0` -/
  overZero : Value → Bool
  /-- `new Date(ts * 1000).toISOString()`, unless it throws -/
  toISOString : Value → Option String

/-- What `query` and `login` have left of the server's answers. -/
structure DeviceConfig where
  device : Value
  uuid : Value
  name : Value
  actived : Value
  drive : Value
  strapiJwt : Value

/-- A request of `post` whose answer is awaited. -/
structure Upload where
  filename : String
  body : String
  arrived : Bool
  deriving DecidableEq

/-- `files` are those in `dataDir`.  `server` has what has arrived there, and `collected` all that
was ever written to a file; nothing else reads them. -/
structure Device where
  deviceConfig : DeviceConfig
  files : Table String
  uploads : List Upload
  server : List String
  collected : List (String × String)

structure Answer where
  status : Value
  body : String

inductive DeviceEvent
  | queried (deviceConfig : DeviceConfig)
  | collect (body : Option String) (now : String)
  | post
  | arrive (index : Nat)
  | answer (index : Nat) (answer : Answer)
  | lost (index : Nat)
  | restart (deviceConfig : DeviceConfig)

/-- `names.sort()` -/
def sortNames (names : List String) : List String :=
  names.insertionSort fun first second => utf16 first ≤ utf16 second

def listed (files : Table String) : List String :=
  (sortNames files.keys).filter fun name => name.toList.getLast? ≠ some '/'

def parts (files : Table String) : List String :=
  (listed files).drop (if 10 < (listed files).length then (listed files).length - 10 else 0)

def without (name : String) (fields : List (String × Value)) : List (String × Value) :=
  fields.filter fun field => field.1 ≠ name

section Pipelines

variable (platform : Platform)

def decodeObject (body : String) : Value :=
  if body.toList.head? = some '{' then platform.decode body else .bool false

/-- What `collect` writes to a file for the report of the collector. -/
def encodeReport (deviceConfig : DeviceConfig) (body : String) : Option String :=
  match decodeObject platform body with
  | .obj fields =>
      let ts := (Value.obj fields).opt "ts"
      if platform.overZero ts then
        (platform.toISOString ts).map fun created =>
          let fields := Table.setIn "created_at" (.str created) (without "id" fields)
          let fields := Table.setIn "uuid" deviceConfig.uuid (without "ts" fields)
          let fields := Table.setIn "name" deviceConfig.name fields
          let fields := Table.setIn "device" deviceConfig.device fields
          let fields := Table.setIn "drive" deviceConfig.drive fields
          platform.encode (.obj [("data", .obj fields)])
      else none
  -- `_dataJson?.ts` is undefined
  | _ => none

/-- What the pipeline `post` makes of the answer of the server. -/
def postResult (answer : Answer) : String :=
  let resp := decodeObject platform answer.body
  if answer.status.strictEq (.num "200") && platform.overZero ((resp.opt "data").opt "id") then "OK"
  else if answer.status.strictEq (.num "401") then "FAIL/401"
  else "FAIL"

namespace Device

variable (device : Device)

def collect (body : Option String) (now : String) : Device :=
  match body.bind (encodeReport platform device.deviceConfig) with
  | some report => { device with
      files := device.files.set now report
      collected := device.collected ++ [(now, report)] }
  | none => device

def readFile (name : String) : Option Upload :=
  (device.files.get? name).map fun body => ⟨name, body, false⟩

/-- Without a token all answers are `FAIL/jwt`, and the files stay. -/
def post : Device :=
  if device.deviceConfig.strapiJwt.truthy then
    { device with uploads := device.uploads ++ (parts device.files).filterMap device.readFile }
  else device

def arrive (index : Nat) : Device :=
  match device.uploads[index]? with
  | some upload => { device with
      uploads := device.uploads.set index { upload with arrived := true }
      server := device.server ++ [upload.body] }
  | none => device

def answered (index : Nat) (answer : Answer) : Device :=
  match device.uploads[index]? with
  | some upload => { device with
      files := if postResult platform answer = "OK" then device.files.erase upload.filename
        else device.files
      uploads := device.uploads.eraseIdx index }
  | none => device

/-- The tasks of `main.js`, and the answers to what they have sent. -/
def step : DeviceEvent → Device
  | .queried deviceConfig => { device with deviceConfig := deviceConfig }
  | .collect body now =>
      if device.deviceConfig.actived.truthy then device.collect platform body now else device
  | .post => if device.deviceConfig.actived.truthy then device.post else device
  | .arrive index => device.arrive index
  | .answer index answer => device.answered platform index answer
  | .lost index => { device with uploads := device.uploads.eraseIdx index }
  | .restart deviceConfig => { device with
      deviceConfig := { deviceConfig with strapiJwt := .null }
      uploads := [] }

def start (deviceConfig : DeviceConfig) (files : Table String) : Device :=
  ⟨deviceConfig, files, [], [], files.entries⟩

/-- No two reports have the time in their names, and the server accepts what it has received. -/
def Allowed : DeviceEvent → Prop
  | .collect _ now => now ∉ device.collected.map Prod.fst
  | .answer index answer => postResult platform answer = "OK" →
      ∀ upload ∈ device.uploads[index]?, upload.arrived = true
  | _ => True

instance (event : DeviceEvent) : Decidable (device.Allowed platform event) :=
  match event with
  | .collect _ now => inferInstanceAs (Decidable (now ∉ device.collected.map Prod.fst))
  | .answer index answer => inferInstanceAs (Decidable (postResult platform answer = "OK" →
      ∀ upload ∈ device.uploads[index]?, upload.arrived = true))
  | .queried _ | .post | .arrive _ | .lost _ | .restart _ => isTrue trivial

end Device

end Pipelines

/-! The device is an outbox. -/

def Upload.toFlight (upload : Upload) : Flight String String :=
  ⟨upload.filename, upload.body, upload.arrived⟩

def Device.toOutbox (device : Device) : Outbox String String :=
  ⟨device.files.get?, device.uploads.map Upload.toFlight, device.server, device.collected⟩

variable {platform : Platform}

def outboxEvents (platform : Platform) (device : Device) :
    DeviceEvent → List (OutboxEvent String String)
  | .queried _ => []
  | .collect body now =>
      if device.deviceConfig.actived.truthy then
        ((body.bind (encodeReport platform device.deviceConfig)).map (.put now)).toList
      else []
  | .post =>
      if device.deviceConfig.actived.truthy && device.deviceConfig.strapiJwt.truthy then
        [.send (parts device.files)]
      else []
  | .arrive index => [.arrive index]
  | .answer index answer =>
      if postResult platform answer = "OK" then [.acknowledge index] else [.drop index]
  | .lost index => [.drop index]
  | .restart _ => [.restart]

theorem get?_set_eq_update (files : Table String) (name report : String) :
    (files.set name report).get? = Function.update files.get? name (some report) := by
  funext other
  by_cases same : other = name
  · subst same
    simp
  · rw [Function.update_of_ne same, Table.get?_set_ne _ _ (Ne.symm same)]

theorem get?_erase_eq_update (files : Table String) (name : String) :
    (files.erase name).get? = Function.update files.get? name none := by
  funext other
  by_cases same : other = name
  · subst same
    simp [Table.get?_erase]
  · rw [Function.update_of_ne same, Table.get?_erase_ne _ (Ne.symm same)]

theorem flightOf_toOutbox (device : Device) (name : String) :
    device.toOutbox.flightOf name = (device.readFile name).map Upload.toFlight := by
  simp [Outbox.flightOf, Device.toOutbox, Device.readFile, Upload.toFlight, Function.comp_def]

theorem toOutbox_collect (device : Device) (body : Option String) (now : String) :
    (device.collect platform body now).toOutbox =
      ((body.bind (encodeReport platform device.deviceConfig)).map
        (OutboxEvent.put now)).toList.foldl Outbox.step device.toOutbox := by
  unfold Device.collect
  cases body.bind (encodeReport platform device.deviceConfig) with
  | none => rfl
  | some report => simp [Device.toOutbox, Outbox.step, get?_set_eq_update]

theorem toOutbox_post {device : Device} (token : device.deviceConfig.strapiJwt.truthy = true) :
    device.post.toOutbox = device.toOutbox.step (.send (parts device.files)) := by
  have sent : ((parts device.files).filterMap device.readFile).map Upload.toFlight =
      (parts device.files).filterMap device.toOutbox.flightOf := by
    rw [List.map_filterMap]
    exact List.filterMap_congr fun name _ => (flightOf_toOutbox device name).symm
  rw [Device.post, if_pos token, Outbox.step, ← sent]
  simp [Device.toOutbox]

theorem toOutbox_arrive (device : Device) (index : Nat) :
    (device.arrive index).toOutbox = device.toOutbox.step (.arrive index) := by
  simp only [Device.arrive, Outbox.step, Device.toOutbox, List.getElem?_map]
  cases device.uploads[index]? with
  | none => rfl
  | some upload => simp [Upload.toFlight, List.map_set]

theorem toOutbox_answered {device : Device} {index : Nat} {answer : Answer}
    (allowed : device.Allowed platform (.answer index answer)) :
    (device.answered platform index answer).toOutbox = device.toOutbox.step
      (if postResult platform answer = "OK" then .acknowledge index else .drop index) := by
  cases found : device.uploads[index]? with
  | none =>
      have short : device.uploads.length ≤ index := List.getElem?_eq_none_iff.mp found
      simp only [Device.answered, found]
      split
      · simp [Outbox.step, Device.toOutbox, found]
      · simp [Outbox.step, Device.toOutbox, List.eraseIdx_of_length_le, short]
  | some upload =>
      simp only [Device.answered, found]
      by_cases accepted : postResult platform answer = "OK"
      · have landed := allowed accepted upload found
        simp [accepted, Outbox.step, Device.toOutbox, found, landed, get?_erase_eq_update,
          List.eraseIdx_map, Upload.toFlight]
      · simp [accepted, Outbox.step, Device.toOutbox, List.eraseIdx_map]

theorem toOutbox_step {device : Device} {event : DeviceEvent}
    (allowed : device.Allowed platform event) :
    (device.step platform event).toOutbox =
      (outboxEvents platform device event).foldl Outbox.step device.toOutbox := by
  cases event with
  | queried deviceConfig => rfl
  | collect body now =>
      rw [Device.step, outboxEvents]
      split
      · exact toOutbox_collect device body now
      · rfl
  | post =>
      rw [Device.step, outboxEvents]
      by_cases actived : device.deviceConfig.actived.truthy = true
      · by_cases token : device.deviceConfig.strapiJwt.truthy = true
        · simpa [actived, token] using toOutbox_post token
        · simp [actived, token, Device.post]
      · simp [actived]
  | arrive index => exact toOutbox_arrive device index
  | answer index answer =>
      have done := toOutbox_answered allowed
      rw [Device.step, outboxEvents, done]
      split <;> rfl
  | lost index => simp [Device.step, outboxEvents, Outbox.step, Device.toOutbox, List.eraseIdx_map]
  | restart deviceConfig => rfl

def Device.Safe (device : Device) : Prop := Outbox.Safe device.toOutbox

theorem safe_start (deviceConfig : DeviceConfig) (files : Table String) :
    (Device.start deviceConfig files).Safe where
  kept entry member := Or.inl ((Table.get?_eq_some files _ _).mpr member)
  stored name report found := (Table.get?_eq_some files name report).mp found
  flown _ member := (List.not_mem_nil member).elim
  arrived _ member := (List.not_mem_nil member).elim
  received _ member := (List.not_mem_nil member).elim
  once name first second one two := by
    have here := (Table.get?_eq_some files name first).mpr one
    rw [(Table.get?_eq_some files name second).mpr two] at here
    exact (Option.some.inj here).symm

theorem safe_step {device : Device} {event : DeviceEvent} (safe : device.Safe)
    (allowed : device.Allowed platform event) : (device.step platform event).Safe := by
  rw [Device.Safe, toOutbox_step allowed]
  refine Outbox.safe_run safe _ ?_
  cases event with
  | queried deviceConfig => trivial
  | collect body now =>
      rw [outboxEvents]
      split
      · cases body.bind (encodeReport platform device.deviceConfig) with
        | none => trivial
        | some report =>
            exact ⟨fun other member => allowed (List.mem_map_of_mem member), trivial⟩
      · trivial
  | post =>
      rw [outboxEvents]
      split
      · exact ⟨trivial, trivial⟩
      · trivial
  | arrive index => exact ⟨trivial, trivial⟩
  | answer index answer =>
      rw [outboxEvents]
      split <;> exact ⟨trivial, trivial⟩
  | lost index => exact ⟨trivial, trivial⟩
  | restart deviceConfig => exact ⟨trivial, trivial⟩

/-- No report is lost, and the server gets nothing else. -/
theorem reports_kept (platform : Platform) (deviceConfig : DeviceConfig) (files : Table String)
    (events : List DeviceEvent)
    (allowed : EveryStep (Device.step platform) (Device.Allowed platform)
      (Device.start deviceConfig files) events) :
    let device := events.foldl (Device.step platform) (Device.start deviceConfig files)
    (∀ entry ∈ device.collected, device.files.get? entry.1 = some entry.2 ∨
      (device.files.get? entry.1 = none ∧ entry.2 ∈ device.server)) ∧
    ∀ report ∈ device.server, ∃ name, (name, report) ∈ device.collected := by
  have safe : Device.Safe (events.foldl (Device.step platform) (Device.start deviceConfig files)) :=
    allowed.invariant (fun device event safe allowed => safe_step safe allowed)
      (safe_start deviceConfig files)
  exact ⟨safe.kept, safe.received⟩

/-! A report of one day whose first answer is an error. -/

def dayPlatform : Platform where
  decode text :=
    if text = "\x7b\"id\":1,\"ts\":1700000000\x7d" then
      .obj [("id", .num "1"), ("ts", .num "1700000000")]
    else if text = "\x7b\"data\":\x7b\"id\":7\x7d\x7d" then
      .obj [("data", .obj [("id", .num "7")])]
    else .undefined
  encode _ := "\x7b\"data\":\x7b\"created_at\":\"2023-11-14T22:13:20.000Z\",\"uuid\":\"a\"," ++
    "\"name\":\"a\",\"device\":1,\"drive\":2\x7d\x7d"
  overZero value :=
    match value with
    | .num text => text ≠ "0" && text.toList.head? ≠ some '-'
    | _ => false
  toISOString _ := some "2023-11-14T22:13:20.000Z"

def dayConfig : DeviceConfig :=
  ⟨.num "1", .str "a", .str "a", .bool true, .num "2", .str "token"⟩

def dayEvents : List DeviceEvent :=
  [.collect (some "\x7b\"id\":1,\"ts\":1700000000\x7d") "2023-11-14T22:13:21.500Z", .post,
    .arrive 0, .answer 0 ⟨.num "500", ""⟩, .post, .arrive 0,
    .answer 0 ⟨.num "200", "\x7b\"data\":\x7b\"id\":7\x7d\x7d"⟩]

def dayDevice : Device :=
  dayEvents.foldl (Device.step dayPlatform) (Device.start dayConfig .empty)

theorem dayReport_kept : dayDevice.collected.length = 1 ∧
    ∀ entry ∈ dayDevice.collected, dayDevice.files.get? entry.1 = some entry.2 ∨
      (dayDevice.files.get? entry.1 = none ∧ entry.2 ∈ dayDevice.server) := by
  refine ⟨by decide +kernel, (reports_kept dayPlatform dayConfig .empty dayEvents ?_).1⟩
  decide +kernel

/-! When the server accepts what is posted, the files go, the newest ten first. -/

def Accepts (platform : Platform) : DeviceEvent → Prop
  | .arrive _ => True
  | .answer _ answer => postResult platform answer = "OK"
  | _ => False

def Device.filenames (device : Device) : List String := device.uploads.map Upload.filename

/-- The files between two devices of a run that were answered for. -/
structure Delivered (answered : List String) (device later : Device) : Prop where
  config : later.deviceConfig = device.deviceConfig
  files : later.files.keys = device.files.keys.filter (· ∉ answered)
  uploads : ∀ name, name ∈ device.filenames ↔ name ∈ answered ∨ name ∈ later.filenames

theorem Delivered.refl (device : Device) : Delivered [] device device :=
  ⟨rfl, by simp, by simp⟩

theorem Delivered.trans {first second : List String} {device middle later : Device}
    (one : Delivered first device middle) (two : Delivered second middle later) :
    Delivered (first ++ second) device later := by
  refine ⟨two.config.trans one.config, ?_, fun name => ?_⟩
  · rw [two.files, one.files, List.filter_filter]
    apply List.filter_congr
    intro name _
    simp [Bool.and_comm]
  · rw [one.uploads, two.uploads, List.mem_append, or_assoc]

theorem keys_erase (files : Table String) (name : String) :
    (files.erase name).keys = files.keys.filter (· ∉ [name]) := by
  simp [Table.keys, Table.erase, List.filter_map, Function.comp_def]

theorem delivered_answered {index : Nat} {answer : Answer}
    (accepted : postResult platform answer = "OK") (device : Device) :
    ∃ answered, Delivered answered device (device.answered platform index answer) := by
  cases found : device.uploads[index]? with
  | none =>
      refine ⟨[], ?_⟩
      rw [Device.answered, found]
      exact Delivered.refl device
  | some upload =>
      refine ⟨[upload.filename], ?_, ?_, fun name => ?_⟩
      · simp [Device.answered, found]
      · simp [Device.answered, found, accepted, keys_erase]
      · obtain ⟨inside, here⟩ := List.getElem?_eq_some_iff.mp found
        have split := (List.getElem_cons_eraseIdx_perm inside).map Upload.filename
        rw [here] at split
        simpa [Device.answered, found, Device.filenames] using (split.mem_iff (a := name)).symm

theorem delivered_arrive (device : Device) (index : Nat) :
    Delivered [] device (device.arrive index) := by
  cases found : device.uploads[index]? with
  | none =>
      rw [Device.arrive, found]
      exact Delivered.refl device
  | some upload =>
      refine ⟨by simp [Device.arrive, found], by simp [Device.arrive, found], fun name => ?_⟩
      obtain ⟨inside, here⟩ := List.getElem?_eq_some_iff.mp found
      have same : (device.arrive index).filenames = device.filenames := by
        simp only [Device.arrive, found, Device.filenames, List.map_set, ← here]
        rw [← List.getElem_map Upload.filename (h := by simpa using inside), List.set_getElem_self]
      rw [same]
      simp

theorem delivered_run {events : List DeviceEvent}
    (accepts : ∀ event ∈ events, Accepts platform event) (device : Device) :
    ∃ answered, Delivered answered device (events.foldl (Device.step platform) device) := by
  induction events generalizing device with
  | nil => exact ⟨[], Delivered.refl device⟩
  | cons event rest ih =>
      have now : ∃ answered, Delivered answered device (device.step platform event) := by
        have accepted := accepts event List.mem_cons_self
        cases event with
        | arrive index => exact ⟨[], delivered_arrive device index⟩
        | answer index answer => exact delivered_answered accepted device
        | _ => exact accepted.elim
      obtain ⟨first, one⟩ := now
      obtain ⟨second, two⟩ := ih (fun other member => accepts other (List.mem_cons_of_mem _ member))
        (device.step platform event)
      exact ⟨first ++ second, one.trans two⟩

/-- A run of the task `post`, and what comes back before the next. -/
def round (platform : Platform) (device : Device) (events : List DeviceEvent) : Device :=
  events.foldl (Device.step platform) (device.step platform .post)

def RoundAccepts (platform : Platform) (device : Device) (events : List DeviceEvent) : Prop :=
  (∀ event ∈ events, Accepts platform event) ∧ (round platform device events).uploads = []

instance (event : DeviceEvent) : Decidable (Accepts platform event) :=
  match event with
  | .answer _ answer => inferInstanceAs (Decidable (postResult platform answer = "OK"))
  | .arrive _ => isTrue trivial
  | .queried _ | .collect _ _ | .post | .lost _ | .restart _ => isFalse id

instance (device : Device) (events : List DeviceEvent) :
    Decidable (RoundAccepts platform device events) :=
  inferInstanceAs (Decidable (_ ∧ _))

structure Ready (device : Device) : Prop where
  actived : device.deviceConfig.actived.truthy = true
  token : device.deviceConfig.strapiJwt.truthy = true
  uploads : device.uploads = []

theorem nodup_listed (files : Table String) : (listed files).Nodup :=
  ((List.perm_insertionSort _ files.keys).nodup_iff.mpr files.distinct).filter _

theorem mem_listed {files : Table String} {name : String} (member : name ∈ listed files) :
    name ∈ files.keys :=
  (List.mem_insertionSort _).mp (List.mem_of_mem_filter member)

theorem parts_eq_drop (files : Table String) :
    parts files = (listed files).drop ((listed files).length - 10) := by
  rw [parts]
  split
  · rfl
  · rename_i few
    rw [Nat.sub_eq_zero_of_le (by omega)]

theorem listed_filter {files later : Table String} {answered : List String}
    (gone : later.keys = files.keys.filter (· ∉ answered)) :
    listed later = (listed files).filter (· ∉ answered) := by
  have total : Std.Total fun first second : String => utf16 first ≤ utf16 second :=
    ⟨fun first second => le_total (utf16 first) (utf16 second)⟩
  have transitive : IsTrans String fun first second => utf16 first ≤ utf16 second :=
    ⟨fun first second third before after => before.trans after⟩
  rw [listed, gone, sortNames, ← filter_insertionSort, listed, sortNames, List.filter_filter,
    List.filter_filter]
  exact List.filter_congr fun name _ => Bool.and_comm _ _

theorem filter_not_mem_drop {names : List String} (distinct : names.Nodup) (count : Nat) :
    names.filter (· ∉ names.drop count) = names.take count := by
  have parted : (names.take count).filter (· ∉ names.drop count) = names.take count := by
    apply List.filter_eq_self.mpr
    intro name taken
    have apart : ∀ other ∈ names.take count, ∀ later ∈ names.drop count, other ≠ later := by
      rw [← List.take_append_drop count names] at distinct
      exact (List.nodup_append.mp distinct).2.2
    simpa using fun dropped => apart name taken name dropped rfl
  have rest : (names.drop count).filter (· ∉ names.drop count) = [] := by simp
  calc names.filter (· ∉ names.drop count)
      = (names.take count ++ names.drop count).filter (· ∉ names.drop count) := by
        rw [List.take_append_drop]
    _ = names.take count := by rw [List.filter_append, parted, rest, List.append_nil]

theorem filenames_post {device : Device} (ready : Ready device) :
    (device.step platform .post).filenames = parts device.files := by
  have each : ∀ name ∈ parts device.files,
      (device.readFile name).map Upload.filename = some name := by
    intro name member
    rw [parts_eq_drop] at member
    obtain ⟨body, found⟩ := Table.mem_keys.mp (mem_listed (List.mem_of_mem_drop member))
    simp [Device.readFile, found]
  have named : ((parts device.files).filterMap device.readFile).map Upload.filename =
      parts device.files := by
    rw [List.map_filterMap, List.filterMap_congr each, List.filterMap_some]
  simp [Device.step, Device.post, ready.actived, ready.token, ready.uploads, Device.filenames,
    named]

theorem round_ready {device : Device} {events : List DeviceEvent} (ready : Ready device)
    (accepts : RoundAccepts platform device events) :
    Ready (round platform device events) ∧ listed (round platform device events).files =
      (listed device.files).take ((listed device.files).length - 10) := by
  obtain ⟨answered, delivered⟩ := delivered_run accepts.1 (device.step platform .post)
  have posted : (device.step platform .post).files = device.files ∧
      (device.step platform .post).deviceConfig = device.deviceConfig := by
    simp [Device.step, Device.post, ready.actived, ready.token]
  have config := delivered.config.trans posted.2
  have gone : ∀ name, name ∈ answered ↔ name ∈ parts device.files := by
    intro name
    rw [← filenames_post ready, delivered.uploads name]
    have none : name ∉ (round platform device events).filenames := by
      simp [Device.filenames, accepts.2]
    exact (or_iff_left none).symm
  refine ⟨⟨?_, ?_, accepts.2⟩, ?_⟩
  · rw [round, config]
    exact ready.actived
  · rw [round, config]
    exact ready.token
  · have left := delivered.files
    rw [posted.1] at left
    rw [round, listed_filter left, ← filter_not_mem_drop (nodup_listed device.files)]
    apply List.filter_congr
    intro name _
    rw [← parts_eq_drop]
    simp [gone name]

/-- The oldest files are the last to go. -/
theorem backlog_after {device : Device} (ready : Ready device) (rounds : List (List DeviceEvent))
    (accepts : EveryStep (round platform) (RoundAccepts platform) device rounds) :
    listed (rounds.foldl (round platform) device).files =
      (listed device.files).take ((listed device.files).length - 10 * rounds.length) := by
  induction rounds generalizing device with
  | nil => simp
  | cons events rest ih =>
      obtain ⟨again, left⟩ := round_ready ready accepts.1
      rw [List.foldl_cons, ih again accepts.2, left, List.take_take, List.length_take,
        List.length_cons]
      congr 1
      omega

def monthFiles : Table String :=
  ["01", "02", "03", "04", "05", "06", "07", "08", "09", "10", "11", "12"].foldl
    (fun files month => files.set month "\x7b\x7d") .empty

/-- The answers come in the order of the requests, and all requests have arrived before. -/
def monthRound : List DeviceEvent :=
  (List.range 10).map .arrive ++
    List.replicate 10 (.answer 0 ⟨.num "200", "\x7b\"data\":\x7b\"id\":7\x7d\x7d"⟩)

theorem monthBacklog_after :
    listed (round dayPlatform (Device.start dayConfig monthFiles) monthRound).files = ["01", "02"] :=
  (backlog_after ⟨rfl, by decide, rfl⟩ [monthRound]
    (by decide +kernel : EveryStep (round dayPlatform) (RoundAccepts dayPlatform)
      (Device.start dayConfig monthFiles) [monthRound])).trans (by decide +kernel)

end Iot

end Fgw
