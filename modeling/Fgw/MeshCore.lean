import Fgw.Library.WatchedReads
import Fgw.ResourcesReload

/-!
Resources from the mesh.  `initZTM` lists the resource directory, reads the files, and then
watches; a notice starts a read of each changed file, and the directory is watched again
without waiting for them.
-/

namespace Fgw

/-- `JSON.decode` and `YAML.decode`, with no result where they throw. -/
structure Decoders (Data : Type) where
  json : Data → Option Value
  yaml : Data → Option Value

def endsWith (filename suffix : String) : Bool := suffix.toList.isSuffixOf filename.toList

def isJSON (filename : String) : Bool := endsWith filename ".json"

def isYAML (filename : String) : Bool := endsWith filename ".yaml" || endsWith filename ".yml"

variable {Data : Type}

/-- The resource in a file as read, where a missing file has no data.  Secrets are kept
elsewhere, and give no resource. -/
def readFileZTM (decoders : Decoders Data) (pathname : String) (data : Option Data) : Value :=
  if isJSON pathname then (data.bind decoders.json).getD .undefined
  else if isYAML pathname then (data.bind decoders.yaml).getD .undefined
  else .undefined

/-- How far `initZTM` has come: the directory is not listed yet, the listed files are being
read, or changes are watched. -/
inductive MeshPhase
  | listing
  | loading
  | watching
  deriving DecidableEq, Repr

structure MeshState (Data : Type) where
  phase : MeshPhase
  mesh : Watched String (Option Data)
  store : Store

namespace MeshState

/-- Before `initZTM`, with some files in the mesh. -/
def initial (files : String → Option Data) : MeshState Data :=
  ⟨.listing, ⟨files, fun _ => 0, [], [], fun _ => none⟩, Store.empty⟩

/-- The callbacks of the reads: the loader's skips what is not a resource, and the watcher's
compares with what the file held. -/
def received (state : MeshState Data) (pathname : String) (data : Value) : Store :=
  if state.phase = .watching then (state.store.changeFile pathname data).1
  else state.store.loadFile (pathname, data)

end MeshState

/-- What can happen next.  The reads under way stand in a list, and an event about one of
them says which come before and after it. -/
inductive MeshEvent (Data : Type)
  | write (pathname : String) (data : Option Data)
  | list (pathnames : List String)
  | watch
  | notify (pathnames : List String)
  | sample (before : List (PendingRead String (Option Data))) (pathname : String)
      (after : List (PendingRead String (Option Data)))
  | complete (before : List (PendingRead String (Option Data))) (pathname : String)
      (version : Nat) (data : Option Data) (after : List (PendingRead String (Option Data)))

namespace MeshEvent

def step (decoders : Decoders Data) (state : MeshState Data) : MeshEvent Data → MeshState Data
  | write pathname data =>
      { state with mesh := state.mesh.write (state.phase = .watching) pathname data }
  | list pathnames => { state with phase := .loading, mesh := state.mesh.list pathnames }
  | watch => { state with phase := .watching }
  | notify pathnames => { state with mesh := state.mesh.notify pathnames }
  | sample before pathname after =>
      { state with mesh := state.mesh.sample before pathname after }
  | complete before pathname version data after =>
      { state with
        mesh := state.mesh.serve before pathname version after
        store := state.received pathname (readFileZTM decoders pathname data) }

/-- Files may be written, created and erased at any time, and reads go on in any order.  The
directory is watched once the initial reads are done. -/
def Enabled (state : MeshState Data) : MeshEvent Data → Prop
  | write _ _ => True
  | list pathnames => state.phase = .listing ∧ pathnames.Nodup ∧
      ∀ pathname, pathname ∈ pathnames ↔ state.mesh.value pathname ≠ none
  | watch => state.phase = .loading ∧ state.mesh.reads = []
  | notify pathnames => state.phase = .watching ∧
      ∀ pathname ∈ pathnames, pathname ∈ state.mesh.changed
  | sample before pathname after => state.mesh.reads = before ++ ⟨pathname, none⟩ :: after
  | complete before pathname version data after =>
      state.mesh.reads = before ++ ⟨pathname, some (version, data)⟩ :: after

end MeshEvent

end Fgw
