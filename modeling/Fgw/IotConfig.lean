import Fgw.Library.SharedWrites
import Fgw.ScriptValue

/-!
The configuration of the gateway for devices.  What the server answers is written to the files
that the gateway starts from, and a difference to what it has started from makes it start again.
-/

namespace Fgw

namespace Iot

/-- The files of a device by the directories they are in; a file of JSON is its document. -/
structure Disk where
  workerJs : Table String
  initJson : Table (Table Value)
  configJson : Table Value

/-- `deviceConfig`, but for the token. -/
structure CurrentConfig where
  device : Value
  config : Value
  uuid : Value
  name : Value
  actived : Value
  drive : Value
  init : Value
  script : Value

/-- The scripts of `rest.js` as they run, over the files that they write. -/
structure Machine (Digest : Type) where
  disk : Disk
  initCfg : Table Value
  workerJsHash : Digest
  configHash : Digest
  deviceConfig : CurrentConfig
  restarting : Bool

/-- `value?.[0]` -/
def item0 (value : Value) : Value :=
  match value with
  | .arr (item :: _) => item
  | .obj _ => value.opt "0"
  | _ => .undefined

/-- The fields that `Object.keys` visits. -/
def ownFields (value : Value) : Table Value :=
  (entriesOf value).foldl (fun table field => table.set field.1 field.2) .empty

def compareObject (obj1 : Table Value) (obj2 : Value) : Bool :=
  (ownFields obj2).entries.all fun field =>
    field.2.strictEq ((obj1.get? field.1).getD .undefined)

def mergeObject (obj1 : Table Value) (obj2 : Value) : Table Value :=
  (ownFields obj2).entries.foldl (fun table field => table.set field.1 field.2) obj1

/-- The scripts throw without a text for `workDir`. -/
def filepath (initCfg : Table Value) : Option String :=
  match (initCfg.get? "workDir").getD .undefined with
  | .str workDir =>
      some (if workDir.toList.getLast? = some '/' then workDir else workDir ++ "/")
  | _ => none

/-- `os.writeFile` in the directory of the device, if there is one. -/
def writeFile {α : Type} (initCfg : Table Value) (files : Table α) (content : α) : Table α :=
  match filepath initCfg with
  | some path => files.set path content
  | none => files

theorem get?_writeFile {α : Type} {initCfg : Table Value} {path : String}
    (here : filepath initCfg = some path) (files : Table α) (content : α) :
    (writeFile initCfg files content).get? path = some content := by
  rw [writeFile, here]
  exact Table.get?_set_self _ _ _

def readConfig (cfg : Value) : CurrentConfig :=
  let device := item0 (cfg.opt "data")
  let attributes := device.opt "attributes"
  let drive := (attributes.opt "drive").opt "data"
  { device := device.opt "id"
    config := attributes.opt "config"
    uuid := attributes.opt "uuid"
    name := attributes.opt "name"
    actived := attributes.opt "actived"
    drive := drive.opt "id"
    init := (attributes.opt "config").opt "init"
    script := (drive.opt "attributes").opt "script" }

section Process

variable {Digest : Type} [DecidableEq Digest]

-- `algo.hash`, `JSON.stringify(value, null, 4)` and `value > 0`
variable (hash : String → Digest) (stringify : Value → String) (overZero : Value → Bool)

def Machine.updateScript (machine : Machine Digest) : Machine Digest :=
  match machine.deviceConfig.script with
  | .str script =>
      if script ≠ "" ∧ hash script ≠ machine.workerJsHash then
        { machine with
          deviceConfig := { machine.deviceConfig with actived := .bool false }
          disk := { machine.disk with
            workerJs := writeFile machine.initCfg machine.disk.workerJs script }
          restarting := true }
      else machine
  | _ => machine

def Machine.updateInit (machine : Machine Digest) : Machine Digest :=
  let init := machine.deviceConfig.init
  if compareObject machine.initCfg init then machine
  else
    let initCfg := mergeObject machine.initCfg init
    { machine with
      deviceConfig := { machine.deviceConfig with actived := .bool false }
      initCfg := initCfg
      disk := { machine.disk with
        initJson := writeFile initCfg machine.disk.initJson initCfg }
      restarting := true }

def Machine.saveConfig (machine : Machine Digest) (cfg : Value) : Machine Digest :=
  let newConfigHash := hash (stringify cfg)
  if newConfigHash ≠ machine.configHash then
    { machine with
      disk := { machine.disk with
        configJson := writeFile machine.initCfg machine.disk.configJson cfg }
      configHash := newConfigHash }
  else machine

def Machine.updateConfig (machine : Machine Digest) (cfg : Value) : Machine Digest :=
  (({ machine with deviceConfig := readConfig cfg }.updateScript hash).updateInit).saveConfig
    hash stringify cfg

def configured (cfg : Value) : Bool := overZero ((item0 (cfg.opt "data")).opt "id")

/-- The answer of the server to `query`. -/
def Machine.query (machine : Machine Digest) (cfg : Value) : Machine Digest :=
  if configured overZero cfg then machine.updateConfig hash stringify cfg else machine

def noConfig : CurrentConfig :=
  ⟨.undefined, .undefined, .undefined, .undefined, .undefined, .undefined, .undefined, .undefined⟩

/-- The scripts start from the codebase, and read the other files where it tells them to. -/
def boot (codebase : String) (disk : Disk) : Machine Digest :=
  let initCfg := (disk.initJson.get? codebase).getD .empty
  let directory := filepath initCfg
  let config := directory.bind disk.configJson.get?
  let machine : Machine Digest :=
    { disk := disk
      initCfg := initCfg
      workerJsHash := hash ((directory.bind disk.workerJs.get?).getD "")
      configHash := hash ((config.map stringify).getD "")
      deviceConfig := noConfig
      restarting := false }
  let configObj := config.getD (.obj [])
  if configured overZero configObj then machine.updateConfig hash stringify configObj else machine

def restart (codebase : String) (machine : Machine Digest) : Machine Digest :=
  boot hash stringify overZero codebase machine.disk

end Process

/-- No object or array is among the fields. -/
def Flat (init : Value) : Prop :=
  ∀ field ∈ (ownFields init).entries, field.2.isObject = false ∧ field.2 ≠ .num "NaN"

theorem strictEq_self_iff (value : Value) :
    value.strictEq value = true ↔ value.isObject = false ∧ value ≠ .num "NaN" := by
  cases value <;> simp [Value.strictEq, Value.isObject]

/-- The fields of `init` are among those of `initCfg`. -/
def Merged (init : Value) (initCfg : Table Value) : Prop :=
  ∀ name value, (ownFields init).get? name = some value →
    (initCfg.get? name).getD .undefined = value

theorem get?_mergeObject (initCfg : Table Value) (init : Value) (name : String) :
    (mergeObject initCfg init).get? name =
      ((ownFields init).get? name).or (initCfg.get? name) := by
  rw [mergeObject, Table.get?_foldl_set, Table.lastWrite_entries]

theorem merged_mergeObject (initCfg : Table Value) (init : Value) :
    Merged init (mergeObject initCfg init) := by
  intro name value found
  rw [get?_mergeObject, found]
  rfl

theorem merged_of_compareObject {initCfg : Table Value} {init : Value}
    (same : compareObject initCfg init = true) : Merged init initCfg := by
  intro name value found
  have equal := List.all_eq_true.mp same (name, value) ((Table.get?_eq_some _ _ _).mp found)
  exact (Value.eq_of_strictEq equal).symm

theorem compareObject_nested (initCfg : Table Value) {init : Value} (nested : ¬ Flat init) :
    compareObject initCfg init = false := by
  rw [← Bool.not_eq_true, compareObject, List.all_eq_true]
  intro same
  refine nested fun field member => ?_
  have equal := same field member
  rw [← Value.eq_of_strictEq equal] at equal
  exact (strictEq_self_iff _).mp equal

theorem compareObject_iff {initCfg : Table Value} {init : Value} (merged : Merged init initCfg) :
    compareObject initCfg init = true ↔ Flat init := by
  rw [compareObject, List.all_eq_true]
  refine forall₂_congr fun field member => ?_
  rw [merged field.1 field.2 ((Table.get?_eq_some _ _ _).mpr member), strictEq_self_iff]

theorem filepath_mergeObject {initCfg : Table Value} {init : Value}
    (merged : Merged init initCfg) : filepath (mergeObject initCfg init) = filepath initCfg := by
  have same : ((mergeObject initCfg init).get? "workDir").getD .undefined =
      (initCfg.get? "workDir").getD .undefined := by
    rw [get?_mergeObject]
    cases found : (ownFields init).get? "workDir" with
    | none => rfl
    | some value => exact (merged "workDir" value found).symm
  rw [filepath, filepath, same]

/-- What the scripts have read agrees with the files in the codebase. -/
structure Machine.Sane {Digest : Type} (hash : String → Digest) (codebase : String)
    (machine : Machine Digest) : Prop where
  init : machine.disk.initJson.get? codebase = some machine.initCfg
  directory : filepath machine.initCfg = some codebase
  worker : machine.workerJsHash = hash ((machine.disk.workerJs.get? codebase).getD "")

/-- The files after an answer of the server. -/
structure Prepared {Digest : Type} (hash : String → Digest) (codebase : String) (cfg : Value)
    (disk : Disk) : Prop where
  config : disk.configJson.get? codebase = some cfg
  init : ∃ initCfg, disk.initJson.get? codebase = some initCfg ∧ filepath initCfg = some codebase ∧
    Merged (readConfig cfg).init initCfg
  script : ∀ text, (readConfig cfg).script = .str text → text ≠ "" →
    hash ((disk.workerJs.get? codebase).getD "") = hash text

section Settling

variable {Digest : Type} [DecidableEq Digest] {hash : String → Digest}
  {stringify : Value → String} {overZero : Value → Bool} {codebase : String} {cfg : Value}

theorem updateScript_spec (machine : Machine Digest) (sane : machine.Sane hash codebase) :
    let later := machine.updateScript hash
    later.initCfg = machine.initCfg ∧ later.configHash = machine.configHash ∧
      later.deviceConfig.init = machine.deviceConfig.init ∧
      later.disk.initJson = machine.disk.initJson ∧
      later.disk.configJson = machine.disk.configJson ∧
      ∀ text, machine.deviceConfig.script = .str text → text ≠ "" →
        hash ((later.disk.workerJs.get? codebase).getD "") = hash text := by
  simp only [Machine.updateScript]
  split
  · rename_i script here
    split
    · refine ⟨rfl, rfl, rfl, rfl, rfl, fun text same _ => ?_⟩
      obtain rfl := Value.str.inj (here.symm.trans same)
      rw [get?_writeFile sane.directory, Option.getD_some]
    · rename_i known
      refine ⟨rfl, rfl, rfl, rfl, rfl, fun text same filled => ?_⟩
      obtain rfl := Value.str.inj (here.symm.trans same)
      rw [← sane.worker]
      exact (not_not.mp fun other => known ⟨filled, other⟩).symm
  · rename_i other
    exact ⟨rfl, rfl, rfl, rfl, rfl, fun text same _ => (other text same).elim⟩

omit [DecidableEq Digest] in
theorem updateInit_spec (machine : Machine Digest)
    (init : machine.disk.initJson.get? codebase = some machine.initCfg)
    (directory : filepath machine.initCfg = some codebase)
    (stays : filepath (mergeObject machine.initCfg machine.deviceConfig.init) = some codebase) :
    let later := machine.updateInit
    later.configHash = machine.configHash ∧ later.disk.workerJs = machine.disk.workerJs ∧
      later.disk.configJson = machine.disk.configJson ∧
      later.disk.initJson.get? codebase = some later.initCfg ∧
      filepath later.initCfg = some codebase ∧ Merged machine.deviceConfig.init later.initCfg := by
  simp only [Machine.updateInit]
  split
  · rename_i same
    exact ⟨rfl, rfl, rfl, init, directory, merged_of_compareObject same⟩
  · exact ⟨rfl, rfl, rfl, get?_writeFile stays _ _, stays, merged_mergeObject _ _⟩

theorem prepared_updateConfig {machine : Machine Digest} (sane : machine.Sane hash codebase)
    (stays : filepath (mergeObject machine.initCfg (readConfig cfg).init) = some codebase)
    (saved : hash (stringify cfg) = machine.configHash →
      machine.disk.configJson.get? codebase = some cfg) :
    Prepared hash codebase cfg (machine.updateConfig hash stringify cfg).disk := by
  obtain ⟨initCfg, configHash, init, initJson, configJson, script⟩ :=
    @updateScript_spec _ _ hash codebase { machine with deviceConfig := readConfig cfg }
      ⟨sane.init, sane.directory, sane.worker⟩
  generalize step : Machine.updateScript hash { machine with deviceConfig := readConfig cfg } =
    scripted at *
  obtain ⟨sameHash, workerJs, sameConfig, written, directory, merged⟩ :=
    updateInit_spec scripted (by rw [initJson, initCfg]; exact sane.init)
      (by rw [initCfg]; exact sane.directory) (by rw [initCfg, init]; exact stays)
  rw [Machine.updateConfig, step, Machine.saveConfig]
  generalize scripted.updateInit = later at *
  rw [init] at merged
  split
  · refine ⟨?_, ⟨later.initCfg, written, directory, merged⟩, ?_⟩
    · exact get?_writeFile directory _ _
    · rw [workerJs]
      exact script
  · rename_i same
    refine ⟨?_, ⟨later.initCfg, written, directory, merged⟩, ?_⟩
    · rw [sameConfig, configJson]
      refine saved ?_
      rw [not_not.mp same, sameHash, configHash]
    · rw [workerJs]
      exact script

theorem init_updateScript (machine : Machine Digest) :
    (machine.updateScript hash).deviceConfig.init = machine.deviceConfig.init := by
  rw [Machine.updateScript]
  split
  · split <;> rfl
  · rfl

theorem updateScript_known {machine : Machine Digest}
    (known : ∀ text, machine.deviceConfig.script = .str text → text ≠ "" →
      machine.workerJsHash = hash text) : machine.updateScript hash = machine := by
  rw [Machine.updateScript]
  split
  · rename_i script here
    exact if_neg fun changed => changed.2 (known script here changed.1).symm
  · rfl

/-- What is known already is not written again, unless a field of `init` is never known. -/
theorem updateConfig_known {machine : Machine Digest}
    (script : ∀ text, (readConfig cfg).script = .str text → text ≠ "" →
      machine.workerJsHash = hash text)
    (saved : hash (stringify cfg) = machine.configHash)
    (merged : Merged (readConfig cfg).init machine.initCfg) (flat : Flat (readConfig cfg).init) :
    machine.updateConfig hash stringify cfg = { machine with deviceConfig := readConfig cfg } := by
  have same := (compareObject_iff merged).mpr flat
  rw [Machine.updateConfig, updateScript_known script]
  simp [Machine.updateInit, same, Machine.saveConfig, saved]

omit [DecidableEq Digest] in
theorem updateInit_nested {machine : Machine Digest} (nested : ¬ Flat machine.deviceConfig.init) :
    machine.updateInit.restarting = true := by
  rw [Machine.updateInit, compareObject_nested machine.initCfg nested]
  rfl

theorem query_nested (machine : Machine Digest) (accepted : configured overZero cfg = true)
    (nested : ¬ Flat (readConfig cfg).init) :
    (machine.query hash stringify overZero cfg).restarting = true := by
  have asked : ¬ Flat (Machine.updateScript hash
      { machine with deviceConfig := readConfig cfg }).deviceConfig.init := by
    rw [init_updateScript]
    exact nested
  rw [Machine.query, if_pos accepted, Machine.updateConfig, Machine.saveConfig]
  split <;> exact updateInit_nested asked

/-- The start after an answer is like one more such answer. -/
theorem boot_prepared {disk : Disk} (prepared : Prepared hash codebase cfg disk)
    (accepted : configured overZero cfg = true) :
    let booted := boot hash stringify overZero codebase disk
    Prepared hash codebase cfg booted.disk ∧
      (booted.restarting = false ↔ Flat (readConfig cfg).init) ∧
      (Flat (readConfig cfg).init → booted.deviceConfig = readConfig cfg ∧
        booted.query hash stringify overZero cfg = booted) := by
  obtain ⟨initCfg, init, directory, merged⟩ := prepared.init
  intro booted
  let start : Machine Digest :=
    ⟨disk, initCfg, hash ((disk.workerJs.get? codebase).getD ""), hash (stringify cfg), noConfig,
      false⟩
  have booting : booted = start.query hash stringify overZero cfg := by
    simp only [booted, boot, init, Option.getD_some, directory, Option.bind_some, prepared.config,
      Option.map_some, Machine.query, start]
  have updating : booted = start.updateConfig hash stringify cfg := by
    rw [booting, Machine.query, if_pos accepted]
  have settled (flat : Flat (readConfig cfg).init) :
      booted = { start with deviceConfig := readConfig cfg } :=
    updating.trans (updateConfig_known prepared.script rfl merged flat)
  refine ⟨?_, ⟨fun running => ?_, fun flat => ?_⟩, fun flat => ?_⟩
  · rw [updating]
    exact prepared_updateConfig ⟨init, directory, rfl⟩
      ((filepath_mergeObject merged).trans directory) fun _ => prepared.config
  · by_contra nested
    rw [booting, query_nested start accepted nested] at running
    cases running
  · rw [settled flat]
  · rw [settled flat]
    refine ⟨rfl, ?_⟩
    rw [Machine.query, if_pos accepted]
    exact updateConfig_known prepared.script rfl merged flat

/-- After an answer of the server, however often the device is started again: it is at rest, with
what the server has told it, exactly if no field of `init` is an object or an array.  Otherwise
each answer makes any device start again. -/
theorem settles_iff {machine : Machine Digest} (sane : machine.Sane hash codebase)
    (accepted : configured overZero cfg = true)
    (stays : filepath (mergeObject machine.initCfg (readConfig cfg).init) = some codebase)
    (saved : hash (stringify cfg) = machine.configHash →
      machine.disk.configJson.get? codebase = some cfg) (times : ℕ) :
    let later := (restart hash stringify overZero codebase)^[times + 1]
      (machine.query hash stringify overZero cfg)
    (later.restarting = false ↔ Flat (readConfig cfg).init) ∧
      (Flat (readConfig cfg).init → later.deviceConfig = readConfig cfg ∧
        later.query hash stringify overZero cfg = later) ∧
      (¬ Flat (readConfig cfg).init → ∀ device : Machine Digest,
        (device.query hash stringify overZero cfg).restarting = true) := by
  have first : Prepared hash codebase cfg (machine.query hash stringify overZero cfg).disk := by
    rw [Machine.query, if_pos accepted]
    exact prepared_updateConfig sane stays saved
  have each : Prepared hash codebase cfg ((restart hash stringify overZero codebase)^[times]
      (machine.query hash stringify overZero cfg)).disk := by
    induction times with
    | zero => exact first
    | succ times ih =>
        rw [Function.iterate_succ_apply']
        exact (boot_prepared ih accepted).1
  rw [Function.iterate_succ_apply']
  obtain ⟨_, running, told⟩ := boot_prepared each accepted
  exact ⟨running, told, fun nested device => query_nested device accepted nested⟩

end Settling

/-- An answer whose `init` is an array with an object in it. -/
def nestedAnswer : Value :=
  .obj [("data", .arr [.obj [("id", .num "1"), ("attributes", .obj [
    ("config", .obj [("init", .arr [.num "5", .obj []])]), ("actived", .bool true)])]])]

def nestedText (_ : Value) : String :=
  "\x7b\n    \"data\": [\n        \x7b\n            \"id\": 1,\n" ++
    "            \"attributes\": \x7b\n                \"config\": \x7b\n" ++
    "                    \"init\": [\n                        5,\n" ++
    "                        \x7b\x7d\n                    ]\n                \x7d,\n" ++
    "                \"actived\": true\n            \x7d\n        \x7d\n" ++
    "    ]\n\x7d"

def freshMachine : Machine String where
  disk := ⟨.empty, ⟨[("/root/pipy-modbus/",
    ⟨[("workDir", .str "/root/pipy-modbus")], by decide⟩)], by decide⟩, .empty⟩
  initCfg := ⟨[("workDir", .str "/root/pipy-modbus")], by decide⟩
  workerJsHash := ""
  configHash := ""
  deviceConfig := noConfig
  restarting := false

theorem nestedAnswer_restarts :
    ((restart id nestedText (fun _ => true) "/root/pipy-modbus/")^[3]
      (freshMachine.query id nestedText (fun _ => true) nestedAnswer)).restarting = true ∧
    (freshMachine.query id nestedText (fun _ => true) nestedAnswer).restarting = true := by
  have sane : freshMachine.Sane id "/root/pipy-modbus/" := ⟨rfl, by decide +kernel, rfl⟩
  obtain ⟨running, _, again⟩ := @settles_iff _ _ id nestedText (fun _ => true)
    "/root/pipy-modbus/" nestedAnswer freshMachine sane rfl (by decide +kernel)
    (fun same => absurd same (by decide +kernel)) 2
  have fields : (ownFields (readConfig nestedAnswer).init).entries =
      [("0", .num "5"), ("1", .obj [])] := rfl
  have nested : ¬ Flat (readConfig nestedAnswer).init := by
    intro flat
    have member : ("1", Value.obj []) ∈ (ownFields (readConfig nestedAnswer).init).entries := by
      rw [fields]
      exact List.mem_cons_of_mem _ List.mem_cons_self
    exact absurd (flat _ member).1 (by decide)
  refine ⟨?_, again nested freshMachine⟩
  rw [← Bool.not_eq_false, running]
  exact nested

end Iot

end Fgw
