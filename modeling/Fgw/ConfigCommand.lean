import Fgw.Library.SharedWrites
import Fgw.ScriptValue

/-!
The command that copies a local directory of resource files to the mesh.
-/

namespace Fgw

abbrev Bytes := List UInt8

/-- A segment of a path that is not resolved away. -/
def isProper (segment : List Char) : Bool :=
  segment ≠ [] && segment ≠ ['.'] && segment ≠ ['.', '.']

def isClean (path : List Char) : Bool := (path.splitOn '/').all isProper

structure FileName where
  text : String
  proper : isProper text.toList = true
  whole : '/' ∉ text.toList

inductive LocalEntry
  | file (name : FileName) (data : Bytes)
  | folder (name : FileName) (entries : List LocalEntry)

/-- The name in a listing, where the names of directories end in a slash. -/
def LocalEntry.listed : LocalEntry → String
  | .file name _ => name.text
  | .folder name _ => name.text ++ "/"

def LocalEntry.isFile : LocalEntry → Bool
  | .file _ _ => true
  | .folder _ _ => false

mutual

/-- The regular files at any depth, with their relative paths. -/
def LocalEntry.files : LocalEntry → List (String × Bytes)
  | .file name data => [(name.text, data)]
  | .folder name entries =>
      (filesIn entries).map fun found => (name.text ++ "/" ++ found.1, found.2)

def filesIn : List LocalEntry → List (String × Bytes)
  | [] => []
  | entry :: rest => entry.files ++ filesIn rest

end

/-- What the script uses of `os`. -/
structure LocalOs where
  join : String → String → String
  /-- `os.path.join(undefined, path)` -/
  joinUndefined : String → Except Thrown String
  readDir : String → Except Thrown (List String)
  read : String → Bytes
  /-- `os.stat(path)?.isFile?.()` -/
  isFile : String → Bool

/-- What is passed as `pathnames`: the array to fill, or a text. -/
inductive Pathnames
  | array (names : List String)
  | text (name : String)

def Pathnames.push : Pathnames → String → Except Thrown Pathnames
  | .array names, pathname => .ok (.array (names ++ [pathname]))
  | .text _, _ => .error (.typeError "pathnames.push is not a function")

def Pathnames.names : Pathnames → List String
  | .array names => names
  | .text _ => []

def endsWithSlash (name : String) : Bool := name.toList.getLast? = some '/'

section Command

variable (os : LocalOs)

/-- The loop over the names of a directory, given the call that is made for a directory. -/
def visitNames (inner : String → Option (Except Thrown Pathnames)) (path : String) :
    List String → Pathnames → Option (Except Thrown Pathnames)
  | [], pathnames => some (.ok pathnames)
  | name :: rest, pathnames =>
      let pathname := os.join path name
      if endsWithSlash name then
        match inner pathname with
        | some (.ok _) => visitNames inner path rest pathnames
        | stopped => stopped
      else
        match pathnames.push pathname with
        | .ok pushed => visitNames inner path rest pushed
        | .error thrown => some (.error thrown)

/-- `listDirTree(pathnames, dirname, path)`, with nothing for a call that has not returned within
the depth.  The call for a directory has only one argument. -/
def listDirTree : Nat → Pathnames → Option String → Option String →
    Option (Except Thrown Pathnames)
  | 0, _, _, _ => none
  | depth + 1, pathnames, dirname, path =>
      let path := (path.filter fun path => path ≠ "").getD "/"
      let joined := match dirname with
        | some dirname => .ok (os.join dirname path)
        | none => os.joinUndefined path
      match joined >>= os.readDir with
      | .error thrown => some (.error thrown)
      | .ok names =>
          visitNames os (fun pathname => listDirTree depth (.text pathname) none none) path names
            pathnames

inductive MeshChange
  | create (meshPath : String) (data : Bytes)
  | update (meshPath : String) (data : Bytes)
  | delete (meshPath : String)

def MeshChange.written : MeshChange → String × Option Bytes
  | .create meshPath data => (meshPath, some data)
  | .update meshPath data => (meshPath, some data)
  | .delete meshPath => (meshPath, none)

def applyChanges (mesh : Table Bytes) (changes : List MeshChange) : Table Bytes :=
  (changes.map MeshChange.written).foldl (fun mesh written => mesh.write written.1 written.2) mesh

def listMesh (meshDir : String) (mesh : Table Bytes) : List String :=
  mesh.keys.filter fun path => meshDir.toList.isPrefixOf path.toList

-- `toString` of the data, which decodes its bytes.
variable (decode : Bytes → String)

def createFile (meshDir localDir : String) (meshPaths : List String) (localPath : String) :
    Option MeshChange :=
  let meshPath := os.join meshDir localPath
  if meshPath ∈ meshPaths then none
  else some (.create meshPath (os.read (os.join localDir localPath)))

def updateFile (meshDir localDir : String) (delete : Bool) (mesh : Table Bytes)
    (meshPath : String) : Option MeshChange :=
  let localPath := String.ofList (meshPath.toList.drop meshDir.toList.length)
  let localFullPath := os.join localDir localPath
  if os.isFile localFullPath then
    let localData := os.read localFullPath
    let data := mesh.get? meshPath
    if some localData.length ≠ data.map List.length ∨ some (decode localData) ≠ data.map decode then
      some (.update meshPath localData)
    else none
  else if delete then some (.delete meshPath)
  else none

def meshDirOf (username : String) : String := "/users/" ++ username ++ "/resources/"

def configAction (meshDir localDir : String) (delete : Bool) (mesh : Table Bytes) (depth : Nat) :
    Option (Except Thrown (List MeshChange)) :=
  let meshPaths := listMesh meshDir mesh
  match listDirTree os depth (.array []) (some localDir) none with
  | none => none
  | some (.error thrown) => some (.error thrown)
  | some (.ok localPaths) =>
      some (.ok (localPaths.names.filterMap (createFile os meshDir localDir meshPaths) ++
        meshPaths.filterMap (updateFile os decode meshDir localDir delete mesh)))

end Command

/-! What the command is for. -/

section Mirror

/-- The paths of a mesh start at its root, and have no segments that are resolved away. -/
def CleanPaths (mesh : Table Bytes) : Prop :=
  ∀ path ∈ mesh.keys, isClean (path.toList.drop 1) = true

/-- The local directory holds the entries, as the script sees it. -/
structure Presents (os : LocalOs) (meshDir localDir : String) (entries : List LocalEntry) :
    Prop where
  listing : os.readDir (os.join localDir "/") = .ok (entries.map LocalEntry.listed)
  atRoot : ∀ name : FileName, os.join "/" name.text = "/" ++ name.text
  mapped : ∀ name : FileName, os.join meshDir ("/" ++ name.text) = meshDir ++ name.text
  rooted : ∀ name data, .file name data ∈ entries →
    os.read (os.join localDir ("/" ++ name.text)) = data
  isFile : ∀ path, isClean path.toList = true →
    (os.isFile (os.join localDir path) = true ↔ ∃ data, (path, data) ∈ filesIn entries)
  read : ∀ path data, (path, data) ∈ filesIn entries → os.read (os.join localDir path) = data

/-- The mesh holds the files of the directory, with `--delete` no others in its place, and is
unchanged otherwise. -/
structure Mirrored (meshDir : String) (entries : List LocalEntry) (delete : Bool)
    (mesh mesh' : Table Bytes) : Prop where
  held : ∀ path data, (path, data) ∈ filesIn entries → mesh'.get? (meshDir ++ path) = some data
  only : delete = true → ∀ path, (mesh'.get? (meshDir ++ path)).isSome →
    ∃ data, (path, data) ∈ filesIn entries
  unchanged : ∀ key, (delete = true → ∀ path, key ≠ meshDir ++ path) →
    (∀ path data, (path, data) ∈ filesIn entries → key ≠ meshDir ++ path) →
      mesh'.get? key = mesh.get? key

/-- The action ends, and the mesh mirrors the directory once its changes are made in any order. -/
def ConfigMirrors (os : LocalOs) (decode : Bytes → String) (meshDir localDir : String)
    (entries : List LocalEntry) (delete : Bool) (mesh : Table Bytes) : Prop :=
  ∃ depth changes,
    configAction os decode meshDir localDir delete mesh depth = some (.ok changes) ∧
      ∀ order : List MeshChange, order.Perm changes →
        Mirrored meshDir entries delete mesh (applyChanges mesh order)

/-- The listing that is read for a directory. -/
def LocalOs.strayListing (os : LocalOs) : Except Thrown (List String) :=
  os.joinUndefined "/" >>= os.readDir

/-- The listing that is read for a directory does no harm, the mesh already has the files in
directories, and no file differs only in bytes that decode alike. -/
structure ConfigReaches (os : LocalOs) (decode : Bytes → String) (meshDir : String)
    (entries : List LocalEntry) (mesh : Table Bytes) : Prop where
  walk : (∀ entry ∈ entries, entry.isFile = true) ∨ os.strayListing = .ok []
  nested : ∀ path data, (path, data) ∈ filesIn entries → '/' ∈ path.toList →
    (mesh.get? (meshDir ++ path)).isSome
  told : ∀ path data held, (path, data) ∈ filesIn entries →
    mesh.get? (meshDir ++ path) = some held → held.length = data.length →
      decode held = decode data → held = data

variable {os : LocalOs}

/-- The call for a directory, which has lost the directory. -/
theorem listDirTree_undefined (depth : Nat) (pathnames : Pathnames) :
    listDirTree os (depth + 1) pathnames none none =
      match os.strayListing with
      | .error thrown => some (.error thrown)
      | .ok names =>
          visitNames os (fun pathname => listDirTree os depth (.text pathname) none none) "/" names
            pathnames := rfl

/-- That call returns only if it finds nothing. -/
theorem listDirTree_text {depth : Nat} {pathname : String} {result : Pathnames}
    (returned : listDirTree os depth (.text pathname) none none = some (.ok result)) :
    os.strayListing = .ok [] := by
  induction depth generalizing pathname result with
  | zero => cases returned
  | succ depth ih =>
      rw [listDirTree_undefined] at returned
      cases stray : os.strayListing with
      | error thrown =>
          rw [stray] at returned
          cases returned
      | ok names =>
          rw [stray] at returned
          cases names with
          | nil => rfl
          | cons name rest =>
              simp only [visitNames] at returned
              by_cases folder : endsWithSlash name = true
              · rw [if_pos folder] at returned
                cases inner : listDirTree os depth (.text (os.join "/" name)) none none with
                | none =>
                    rw [inner] at returned
                    cases returned
                | some stopped =>
                    cases stopped with
                    | error thrown =>
                        rw [inner] at returned
                        cases returned
                    | ok found =>
                        have empty := ih inner
                        rw [stray] at empty
                        cases empty
              · rw [if_neg folder] at returned
                cases returned

theorem listDirTree_text_of_stray (stray : os.strayListing = .ok []) (depth : Nat)
    (pathname : String) :
    listDirTree os (depth + 1) (.text pathname) none none = some (.ok (.text pathname)) := by
  rw [listDirTree_undefined, stray]
  rfl

/-- The paths of the files that are not in a directory, from the top of the tree. -/
def rootPaths : List LocalEntry → List String
  | [] => []
  | .file name _ :: rest => ("/" ++ name.text) :: rootPaths rest
  | .folder _ _ :: rest => rootPaths rest

theorem endsWithSlash_listed (entry : LocalEntry) :
    endsWithSlash entry.listed = !entry.isFile := by
  cases entry with
  | file name data =>
      have plain : name.text.toList.getLast? ≠ some '/' := by
        intro last
        exact name.whole (List.mem_of_getLast? last)
      simp [endsWithSlash, LocalEntry.listed, LocalEntry.isFile, plain]
  | folder name entries => simp [endsWithSlash, LocalEntry.listed, LocalEntry.isFile]

theorem visitNames_returned {inner : String → Option (Except Thrown Pathnames)}
    {entries : List LocalEntry} {found : List String} {result : Pathnames}
    (atRoot : ∀ name : FileName, os.join "/" name.text = "/" ++ name.text)
    (returned : visitNames os inner "/" (entries.map LocalEntry.listed) (.array found) =
      some (.ok result)) :
    result = .array (found ++ rootPaths entries) ∧
      ((∀ entry ∈ entries, entry.isFile = true) ∨
        ∃ pathname within, inner pathname = some (.ok within)) := by
  induction entries generalizing found with
  | nil =>
      cases returned
      exact ⟨by rw [rootPaths, List.append_nil], .inl (by simp)⟩
  | cons entry rest ih =>
      simp only [List.map_cons, visitNames, endsWithSlash_listed] at returned
      cases entry with
      | file name data =>
          simp only [LocalEntry.isFile, Bool.not_true, Bool.false_eq_true, if_false,
            Pathnames.push] at returned
          obtain ⟨same, cause⟩ := ih returned
          refine ⟨?_, ?_⟩
          · rw [same, rootPaths, LocalEntry.listed, atRoot, List.append_assoc]
            rfl
          · rcases cause with plain | folder
            · exact .inl (List.forall_mem_cons.mpr ⟨rfl, plain⟩)
            · exact .inr folder
      | folder name entries =>
          simp only [LocalEntry.isFile, Bool.not_false, if_true] at returned
          cases called : inner (os.join "/" (LocalEntry.folder name entries).listed) with
          | none =>
              rw [called] at returned
              cases returned
          | some stopped =>
              cases stopped with
              | error thrown =>
                  rw [called] at returned
                  cases returned
              | ok within =>
                  rw [called] at returned
                  exact ⟨(ih returned).1, .inr ⟨_, within, called⟩⟩

theorem visitNames_of_walk {inner : String → Option (Except Thrown Pathnames)}
    {entries : List LocalEntry} {found : List String}
    (atRoot : ∀ name : FileName, os.join "/" name.text = "/" ++ name.text)
    (walk : (∀ entry ∈ entries, entry.isFile = true) ∨
      ∀ pathname, ∃ within, inner pathname = some (.ok within)) :
    visitNames os inner "/" (entries.map LocalEntry.listed) (.array found) =
      some (.ok (.array (found ++ rootPaths entries))) := by
  induction entries generalizing found with
  | nil => simp [visitNames, rootPaths]
  | cons entry rest ih =>
      have later : (∀ entry ∈ rest, entry.isFile = true) ∨
          ∀ pathname, ∃ within, inner pathname = some (.ok within) :=
        walk.imp_left fun all entry member => all entry (List.mem_cons_of_mem _ member)
      simp only [List.map_cons, visitNames, endsWithSlash_listed]
      cases entry with
      | file name data =>
          simp only [LocalEntry.isFile, Bool.not_true, Bool.false_eq_true, if_false,
            Pathnames.push]
          rw [ih later, rootPaths, LocalEntry.listed, atRoot, List.append_assoc]
          rfl
      | folder name entries =>
          simp only [LocalEntry.isFile, Bool.not_false, if_true]
          rcases walk with plain | returns
          · have file := plain _ List.mem_cons_self
            cases file
          · obtain ⟨within, called⟩ := returns
              (os.join "/" (LocalEntry.folder name entries).listed)
            rw [called]
            exact ih later

variable {meshDir localDir : String} {entries : List LocalEntry}

theorem listDirTree_localDir (presents : Presents os meshDir localDir entries) (depth : Nat) :
    listDirTree os (depth + 1) (.array []) (some localDir) none =
      visitNames os (fun pathname => listDirTree os depth (.text pathname) none none) "/"
        (entries.map LocalEntry.listed) (.array []) := by
  have listing : (.ok (os.join localDir "/") >>= os.readDir : Except Thrown (List String)) =
      .ok (entries.map LocalEntry.listed) := presents.listing
  simp only [listDirTree, Option.filter_none, Option.getD_none]
  rw [listing]

theorem listDirTree_returned (presents : Presents os meshDir localDir entries) {depth : Nat}
    {result : Pathnames}
    (returned : listDirTree os depth (.array []) (some localDir) none = some (.ok result)) :
    result = .array (rootPaths entries) ∧
      ((∀ entry ∈ entries, entry.isFile = true) ∨ os.strayListing = .ok []) := by
  cases depth with
  | zero => cases returned
  | succ depth =>
      rw [listDirTree_localDir presents] at returned
      obtain ⟨same, cause⟩ := visitNames_returned presents.atRoot returned
      refine ⟨same, cause.imp_right ?_⟩
      rintro ⟨pathname, within, called⟩
      exact listDirTree_text called

theorem listDirTree_of_walk (presents : Presents os meshDir localDir entries)
    (walk : (∀ entry ∈ entries, entry.isFile = true) ∨ os.strayListing = .ok []) :
    listDirTree os 2 (.array []) (some localDir) none =
      some (.ok (.array (rootPaths entries))) := by
  rw [listDirTree_localDir presents]
  refine visitNames_of_walk presents.atRoot (walk.imp_right ?_)
  intro stray pathname
  exact ⟨_, listDirTree_text_of_stray stray 0 pathname⟩

theorem mem_filesIn {entries : List LocalEntry} {found : String × Bytes} :
    found ∈ filesIn entries ↔ ∃ entry ∈ entries, found ∈ entry.files := by
  induction entries with
  | nil => simp [filesIn]
  | cons entry rest ih => simp [filesIn, ih]

theorem mem_rootPaths {localPath : String} :
    localPath ∈ rootPaths entries ↔
      ∃ name data, .file name data ∈ entries ∧ localPath = "/" ++ name.text := by
  induction entries with
  | nil => simp [rootPaths]
  | cons entry rest ih =>
      cases entry with
      | file name data =>
          rw [rootPaths, List.mem_cons, ih]
          constructor
          · rintro (same | ⟨other, content, member, same⟩)
            · exact ⟨name, data, List.mem_cons_self, same⟩
            · exact ⟨other, content, List.mem_cons_of_mem _ member, same⟩
          · rintro ⟨other, content, member, same⟩
            rcases List.mem_cons.mp member with own | later
            · cases own
              exact .inl same
            · exact .inr ⟨other, content, later, same⟩
      | folder name entries =>
          rw [rootPaths, ih]
          simp

theorem mem_filesIn_of_file {name : FileName} {data : Bytes} (member : .file name data ∈ entries) :
    (name.text, data) ∈ filesIn entries :=
  mem_filesIn.mpr ⟨_, member, by simp [LocalEntry.files]⟩

theorem file_of_mem_filesIn {path : String} {data : Bytes} (member : (path, data) ∈ filesIn entries)
    (whole : '/' ∉ path.toList) : ∃ name, .file name data ∈ entries ∧ name.text = path := by
  obtain ⟨entry, inside, found⟩ := mem_filesIn.mp member
  cases entry with
  | file name content =>
      rw [LocalEntry.files, List.mem_singleton, Prod.mk.injEq] at found
      obtain ⟨rfl, rfl⟩ := found
      exact ⟨name, inside, rfl⟩
  | folder name within =>
      rw [LocalEntry.files, List.mem_map] at found
      obtain ⟨inner, _, same⟩ := found
      rw [Prod.mk.injEq] at same
      exact absurd (by simp [← same.1]) whole

theorem mem_listMesh {mesh : Table Bytes} {key : String} :
    key ∈ listMesh meshDir mesh ↔
      ∃ path held, key = meshDir ++ path ∧ mesh.get? (meshDir ++ path) = some held := by
  rw [listMesh, List.mem_filter, Table.mem_keys, List.isPrefixOf_iff_prefix]
  constructor
  · rintro ⟨⟨held, got⟩, rest, same⟩
    have spelled : key = meshDir ++ String.ofList rest := by
      apply String.toList_injective
      simp [← same]
    exact ⟨String.ofList rest, held, spelled, spelled ▸ got⟩
  · rintro ⟨path, held, rfl, got⟩
    exact ⟨⟨held, got⟩, path.toList, by simp⟩

/-- What the action writes under a path, if it reaches its end. -/
inductive Writes (decode : Bytes → String) (meshDir : String) (entries : List LocalEntry)
    (delete : Bool) (mesh : Table Bytes) : String → Option Bytes → Prop
  | created {path data} : mesh.get? (meshDir ++ path) = none → '/' ∉ path.toList →
      (path, data) ∈ filesIn entries → Writes decode meshDir entries delete mesh path (some data)
  | updated {path data held} : mesh.get? (meshDir ++ path) = some held →
      (path, data) ∈ filesIn entries → ¬ (held.length = data.length ∧ decode held = decode data) →
        Writes decode meshDir entries delete mesh path (some data)
  | deleted {path held} : mesh.get? (meshDir ++ path) = some held →
      (∀ data, (path, data) ∉ filesIn entries) → delete = true →
        Writes decode meshDir entries delete mesh path none

variable {decode : Bytes → String} {delete : Bool} {mesh : Table Bytes}

/-- The changes of an action that gets through the local directory. -/
def reachedChanges (os : LocalOs) (decode : Bytes → String) (meshDir localDir : String)
    (entries : List LocalEntry) (delete : Bool) (mesh : Table Bytes) : List MeshChange :=
  (rootPaths entries).filterMap (createFile os meshDir localDir (listMesh meshDir mesh)) ++
    (listMesh meshDir mesh).filterMap (updateFile os decode meshDir localDir delete mesh)

theorem mem_createFile (presents : Presents os meshDir localDir entries) {change : MeshChange} :
    change ∈ (rootPaths entries).filterMap
        (createFile os meshDir localDir (listMesh meshDir mesh)) ↔
      ∃ name data, .file name data ∈ entries ∧ mesh.get? (meshDir ++ name.text) = none ∧
        change = .create (meshDir ++ name.text) data := by
  rw [List.mem_filterMap]
  have absent (path : String) :
      meshDir ++ path ∉ listMesh meshDir mesh ↔ mesh.get? (meshDir ++ path) = none := by
    rw [mem_listMesh]
    constructor
    · intro unlisted
      cases got : mesh.get? (meshDir ++ path) with
      | none => rfl
      | some held => exact absurd ⟨path, held, rfl, got⟩ unlisted
    · rintro none ⟨other, held, same, got⟩
      rw [← same, none] at got
      cases got
  constructor
  · rintro ⟨localPath, listed, made⟩
    obtain ⟨name, data, member, rfl⟩ := mem_rootPaths.mp listed
    simp only [createFile, presents.mapped, presents.rooted name data member] at made
    split at made
    · cases made
    · rename_i unlisted
      cases made
      exact ⟨name, data, member, (absent _).mp unlisted, rfl⟩
  · rintro ⟨name, data, member, none, rfl⟩
    refine ⟨"/" ++ name.text, mem_rootPaths.mpr ⟨name, data, member, rfl⟩, ?_⟩
    simp only [createFile, presents.mapped, presents.rooted name data member]
    rw [if_neg ((absent _).mpr none)]

theorem drop_meshDir (path : String) :
    String.ofList ((meshDir ++ path).toList.drop meshDir.toList.length) = path := by
  rw [String.toList_append, List.drop_left, String.ofList_toList]

theorem clean_of_mesh (placed : ∃ base, meshDir.toList = '/' :: (base ++ ['/']))
    (clean : CleanPaths mesh) {path : String} {held : Bytes}
    (got : mesh.get? (meshDir ++ path) = some held) : isClean path.toList = true := by
  obtain ⟨base, spelled⟩ := placed
  have whole := clean _ (Table.mem_keys.mpr ⟨held, got⟩)
  rw [String.toList_append, spelled, List.cons_append, List.drop_succ_cons, List.drop_zero,
    List.append_assoc, List.singleton_append, isClean, List.splitOn_append_cons_self,
    List.all_append, Bool.and_eq_true] at whole
  exact whole.2

theorem updateFile_of_file (presents : Presents os meshDir localDir entries) {path : String}
    {data held : Bytes} (clean : isClean path.toList = true)
    (got : mesh.get? (meshDir ++ path) = some held) (member : (path, data) ∈ filesIn entries) :
    updateFile os decode meshDir localDir delete mesh (meshDir ++ path) =
      if held.length = data.length ∧ decode held = decode data then none
      else some (.update (meshDir ++ path) data) := by
  have file := (presents.isFile path clean).mpr ⟨data, member⟩
  simp only [updateFile, drop_meshDir]
  rw [if_pos file, presents.read path data member, got]
  simp only [Option.map_some, ne_eq, Option.some.injEq]
  by_cases same : held.length = data.length ∧ decode held = decode data
  · rw [if_pos same, if_neg (by simp [same])]
  · rw [if_neg same, if_pos]
    by_contra equal
    rw [not_or, not_not, not_not] at equal
    exact same ⟨equal.1.symm, equal.2.symm⟩

theorem updateFile_of_absent (presents : Presents os meshDir localDir entries) {path : String}
    (clean : isClean path.toList = true) (absent : ∀ data, (path, data) ∉ filesIn entries) :
    updateFile os decode meshDir localDir delete mesh (meshDir ++ path) =
      if delete = true then some (.delete (meshDir ++ path)) else none := by
  have file : os.isFile (os.join localDir path) ≠ true := by
    rw [ne_eq, presents.isFile path clean]
    rintro ⟨data, member⟩
    exact absent data member
  simp only [updateFile, drop_meshDir]
  rw [if_neg file]

theorem mem_updateFile (presents : Presents os meshDir localDir entries)
    (placed : ∃ base, meshDir.toList = '/' :: (base ++ ['/'])) (clean : CleanPaths mesh)
    {change : MeshChange} :
    change ∈ (listMesh meshDir mesh).filterMap
        (updateFile os decode meshDir localDir delete mesh) ↔
      ∃ path held, mesh.get? (meshDir ++ path) = some held ∧
        ((∃ data, (path, data) ∈ filesIn entries ∧
            ¬ (held.length = data.length ∧ decode held = decode data) ∧
              change = .update (meshDir ++ path) data) ∨
          (∀ data, (path, data) ∉ filesIn entries) ∧ delete = true ∧
            change = .delete (meshDir ++ path)) := by
  rw [List.mem_filterMap]
  constructor
  · rintro ⟨key, listed, made⟩
    obtain ⟨path, held, rfl, got⟩ := mem_listMesh.mp listed
    refine ⟨path, held, got, ?_⟩
    have whole := clean_of_mesh placed clean got
    by_cases file : ∃ data, (path, data) ∈ filesIn entries
    · obtain ⟨data, inside⟩ := file
      rw [updateFile_of_file presents whole got inside] at made
      split at made
      · cases made
      · rename_i differs
        cases made
        exact .inl ⟨data, inside, differs, rfl⟩
    · rw [not_exists] at file
      rw [updateFile_of_absent presents whole file] at made
      split at made
      · rename_i deletes
        cases made
        exact .inr ⟨file, deletes, rfl⟩
      · cases made
  · rintro ⟨path, held, got, made⟩
    refine ⟨meshDir ++ path, mem_listMesh.mpr ⟨path, held, rfl, got⟩, ?_⟩
    have whole := clean_of_mesh placed clean got
    rcases made with ⟨data, inside, differs, rfl⟩ | ⟨absent, deletes, rfl⟩
    · rw [updateFile_of_file presents whole got inside, if_neg differs]
    · rw [updateFile_of_absent presents whole absent, if_pos deletes]

theorem mem_written (presents : Presents os meshDir localDir entries)
    (placed : ∃ base, meshDir.toList = '/' :: (base ++ ['/'])) (clean : CleanPaths mesh)
    {written : String × Option Bytes} :
    written ∈ (reachedChanges os decode meshDir localDir entries delete mesh).map
        MeshChange.written ↔
      ∃ path, written.1 = meshDir ++ path ∧
        Writes decode meshDir entries delete mesh path written.2 := by
  rw [List.mem_map]
  constructor
  · rintro ⟨change, member, rfl⟩
    rcases List.mem_append.mp member with created | updated
    · obtain ⟨name, data, inside, none, rfl⟩ := (mem_createFile presents).mp created
      exact ⟨name.text, rfl, .created none name.whole (mem_filesIn_of_file inside)⟩
    · obtain ⟨path, held, got, made⟩ := (mem_updateFile presents placed clean).mp updated
      rcases made with ⟨data, inside, differs, rfl⟩ | ⟨absent, deletes, rfl⟩
      · exact ⟨path, rfl, .updated got inside differs⟩
      · exact ⟨path, rfl, .deleted got absent deletes⟩
  · obtain ⟨key, value⟩ := written
    rintro ⟨path, rfl, writes⟩
    cases writes with
    | @created data none whole inside =>
        obtain ⟨name, member, rfl⟩ := file_of_mem_filesIn inside whole
        refine ⟨.create (meshDir ++ name.text) data, List.mem_append.mpr (.inl ?_), rfl⟩
        exact (mem_createFile presents).mpr ⟨name, data, member, none, rfl⟩
    | @updated data held got inside differs =>
        refine ⟨.update (meshDir ++ path) data, List.mem_append.mpr (.inr ?_), rfl⟩
        exact (mem_updateFile presents placed clean).mpr
          ⟨path, held, got, .inl ⟨data, inside, differs, rfl⟩⟩
    | @deleted held got absent deletes =>
        refine ⟨.delete (meshDir ++ path), List.mem_append.mpr (.inr ?_), rfl⟩
        exact (mem_updateFile presents placed clean).mpr
          ⟨path, held, got, .inr ⟨absent, deletes, rfl⟩⟩

theorem data_unique (presents : Presents os meshDir localDir entries) {path : String}
    {data other : Bytes} (member : (path, data) ∈ filesIn entries)
    (second : (path, other) ∈ filesIn entries) : other = data :=
  (presents.read path other second).symm.trans (presents.read path data member)

theorem Writes.unique (presents : Presents os meshDir localDir entries) {path : String}
    {value other : Option Bytes} (first : Writes decode meshDir entries delete mesh path value)
    (second : Writes decode meshDir entries delete mesh path other) : other = value := by
  cases first with
  | created none whole inside =>
      cases second with
      | created _ _ twice => exact congrArg some (data_unique presents inside twice)
      | updated got _ _ => cases none.symm.trans got
      | deleted got _ _ => cases none.symm.trans got
  | updated got inside differs =>
      cases second with
      | created none _ _ => cases none.symm.trans got
      | updated _ twice _ => exact congrArg some (data_unique presents inside twice)
      | deleted _ absent _ => exact absurd inside (absent _)
  | deleted got absent deletes =>
      cases second with
      | created none _ _ => cases none.symm.trans got
      | updated _ inside _ => exact absurd inside (absent _)
      | deleted _ _ _ => rfl

/-- The mesh after the changes, in any order in which they are made. -/
structure Settles (decode : Bytes → String) (meshDir : String) (entries : List LocalEntry)
    (delete : Bool) (mesh mesh' : Table Bytes) : Prop where
  written : ∀ path value, Writes decode meshDir entries delete mesh path value →
    mesh'.get? (meshDir ++ path) = value
  kept : ∀ key, (∀ path, key = meshDir ++ path → ∀ value,
    ¬ Writes decode meshDir entries delete mesh path value) → mesh'.get? key = mesh.get? key

theorem path_of_append {path other : String} (same : meshDir ++ path = meshDir ++ other) :
    path = other := by
  apply String.toList_injective
  have texts := congrArg String.toList same
  rw [String.toList_append, String.toList_append] at texts
  exact List.append_cancel_left texts

theorem settles (presents : Presents os meshDir localDir entries)
    (placed : ∃ base, meshDir.toList = '/' :: (base ++ ['/'])) (clean : CleanPaths mesh)
    {order : List MeshChange}
    (made : order.Perm (reachedChanges os decode meshDir localDir entries delete mesh)) :
    Settles decode meshDir entries delete mesh (applyChanges mesh order) := by
  have inside (written : String × Option Bytes) :
      written ∈ order.map MeshChange.written ↔ ∃ path, written.1 = meshDir ++ path ∧
        Writes decode meshDir entries delete mesh path written.2 :=
    (made.map MeshChange.written).mem_iff.trans (mem_written presents placed clean)
  constructor
  · intro path value writes
    rw [applyChanges, Table.get?_foldl_write,
      lastWrite_of_agree ((inside (meshDir ++ path, value)).mpr ⟨path, rfl, writes⟩)]
    · rfl
    · intro other member
      obtain ⟨same, equal, second⟩ := (inside (meshDir ++ path, other)).mp member
      rw [← path_of_append equal] at second
      exact writes.unique presents second
  · intro key unwritten
    rw [applyChanges, Table.get?_foldl_write, lastWrite_eq_none]
    · rfl
    · intro member
      obtain ⟨written, listed, rfl⟩ := List.mem_map.mp member
      obtain ⟨path, equal, writes⟩ := (inside written).mp listed
      exact unwritten path equal _ writes

theorem configAction_returned (presents : Presents os meshDir localDir entries) {depth : Nat}
    {changes : List MeshChange}
    (ran : configAction os decode meshDir localDir delete mesh depth = some (.ok changes)) :
    changes = reachedChanges os decode meshDir localDir entries delete mesh ∧
      ((∀ entry ∈ entries, entry.isFile = true) ∨ os.strayListing = .ok []) := by
  dsimp only [configAction] at ran
  cases walked : listDirTree os depth (.array []) (some localDir) none with
  | none =>
      rw [walked] at ran
      cases ran
  | some stopped =>
      cases stopped with
      | error thrown =>
          rw [walked] at ran
          cases ran
      | ok localPaths =>
          obtain ⟨rfl, walk⟩ := listDirTree_returned presents walked
          rw [walked] at ran
          cases ran
          exact ⟨rfl, walk⟩

theorem configAction_of_walk (presents : Presents os meshDir localDir entries)
    (walk : (∀ entry ∈ entries, entry.isFile = true) ∨ os.strayListing = .ok []) :
    configAction os decode meshDir localDir delete mesh 2 =
      some (.ok (reachedChanges os decode meshDir localDir entries delete mesh)) := by
  dsimp only [configAction]
  rw [listDirTree_of_walk presents walk]
  rfl

theorem Settles.kept_path {mesh' : Table Bytes}
    (settles : Settles decode meshDir entries delete mesh mesh') {path : String}
    (unwritten : ∀ value, ¬ Writes decode meshDir entries delete mesh path value) :
    mesh'.get? (meshDir ++ path) = mesh.get? (meshDir ++ path) := by
  apply settles.kept
  intro other equal
  rw [← path_of_append equal]
  exact unwritten

/-- Nothing is written where the mesh has no file and the top of the directory has none. -/
theorem not_writes_of_none {path : String} (got : mesh.get? (meshDir ++ path) = none)
    (missed : ∀ data, '/' ∉ path.toList → (path, data) ∉ filesIn entries)
    (value : Option Bytes) : ¬ Writes decode meshDir entries delete mesh path value := by
  intro writes
  cases writes with
  | created _ whole member => exact missed _ whole member
  | updated again _ _ => cases again.symm.trans got
  | deleted again _ _ => cases again.symm.trans got

/-- Nor over a file of the same size and text. -/
theorem not_writes_of_alike (presents : Presents os meshDir localDir entries) {path : String}
    {data held : Bytes} (member : (path, data) ∈ filesIn entries)
    (got : mesh.get? (meshDir ++ path) = some held)
    (alike : held.length = data.length ∧ decode held = decode data) (value : Option Bytes) :
    ¬ Writes decode meshDir entries delete mesh path value := by
  intro writes
  cases writes with
  | created none _ _ => cases none.symm.trans got
  | updated again twice differs =>
      cases again.symm.trans got
      rw [data_unique presents member twice] at differs
      exact differs alike
  | deleted _ absent _ => exact absent data member

theorem mirrored_of_settles (presents : Presents os meshDir localDir entries)
    (reaches : ConfigReaches os decode meshDir entries mesh) {mesh' : Table Bytes}
    (settles : Settles decode meshDir entries delete mesh mesh') :
    Mirrored meshDir entries delete mesh mesh' := by
  constructor
  · intro path data member
    cases got : mesh.get? (meshDir ++ path) with
    | none =>
        apply settles.written
        refine .created got ?_ member
        intro folder
        have some := reaches.nested path data member folder
        rw [got] at some
        cases some
    | some held =>
        by_cases alike : held.length = data.length ∧ decode held = decode data
        · rw [settles.kept_path (not_writes_of_alike presents member got alike), got,
            reaches.told path data held member got alike.1 alike.2]
        · exact settles.written path (some data) (.updated got member alike)
  · intro deletes path some
    by_contra absent
    rw [not_exists] at absent
    cases got : mesh.get? (meshDir ++ path) with
    | some held =>
        rw [settles.written path none (.deleted got absent deletes)] at some
        cases some
    | none =>
        rw [settles.kept_path (not_writes_of_none got fun data _ => absent data), got] at some
        cases some
  · intro key outside other
    apply settles.kept
    rintro path rfl value writes
    cases writes with
    | created _ _ member => exact other path _ member rfl
    | updated _ member _ => exact other path _ member rfl
    | deleted _ _ deletes => exact outside deletes path rfl

theorem reaches_of_mirrored (presents : Presents os meshDir localDir entries)
    (walk : (∀ entry ∈ entries, entry.isFile = true) ∨ os.strayListing = .ok [])
    {mesh' : Table Bytes} (settles : Settles decode meshDir entries delete mesh mesh')
    (mirrored : Mirrored meshDir entries delete mesh mesh') :
    ConfigReaches os decode meshDir entries mesh := by
  refine ⟨walk, ?_, ?_⟩
  · intro path data member folder
    rw [Option.isSome_iff_ne_none]
    intro got
    have held := mirrored.held path data member
    rw [settles.kept_path (not_writes_of_none got fun _ whole => absurd folder whole), got] at held
    cases held
  · intro path data held member got length text
    have now := mirrored.held path data member
    rw [settles.kept_path (not_writes_of_alike presents member got ⟨length, text⟩), got] at now
    exact Option.some.inj now

theorem placed_meshDirOf (username : String) :
    ∃ base, (meshDirOf username).toList = '/' :: (base ++ ['/']) :=
  ⟨"users/".toList ++ username.toList ++ "/resources".toList, by simp [meshDirOf]⟩

/-- The mesh mirrors the directory exactly if the calls for directories find nothing where they
look, the mesh already has the files that they would have found, and no file differs only in
bytes that decode alike. -/
theorem configMirrors_iff (os : LocalOs) (decode : Bytes → String) (username localDir : String)
    (entries : List LocalEntry) (delete : Bool) (mesh : Table Bytes)
    (presents : Presents os (meshDirOf username) localDir entries) (clean : CleanPaths mesh) :
    ConfigMirrors os decode (meshDirOf username) localDir entries delete mesh ↔
      ConfigReaches os decode (meshDirOf username) entries mesh := by
  have placed := placed_meshDirOf username
  constructor
  · rintro ⟨depth, changes, ran, mirrors⟩
    obtain ⟨rfl, walk⟩ := configAction_returned presents ran
    exact reaches_of_mirrored presents walk (settles presents placed clean (.refl _))
      (mirrors _ (.refl _))
  · intro reaches
    refine ⟨2, _, configAction_of_walk presents reaches.walk, ?_⟩
    intro order made
    exact mirrored_of_settles presents reaches (settles presents placed clean made)

end Mirror

/-! A local directory with one file in it and one in a directory, and paths joined by one slash. -/

def joinPath (first second : String) : String :=
  String.ofList ((first.toList.reverse.dropWhile fun c => c = '/').reverse ++
    '/' :: second.toList.dropWhile fun c => c = '/')

def sampleEntries : List LocalEntry :=
  [.file ⟨"a.yaml", by decide, by decide⟩ [97],
    .folder ⟨"sub", by decide, by decide⟩ [.file ⟨"b.yaml", by decide, by decide⟩ [98]]]

/-- Only the local directory can be listed. -/
def sampleOs : LocalOs where
  join := joinPath
  joinUndefined path := .ok (joinPath "undefined" path)
  readDir path :=
    if path = "/res/" then .ok ["a.yaml", "sub/"] else .error (.raised "cannot read directory")
  read path := if path = "/res/a.yaml" then [97] else [98]
  isFile path := path = "/res/a.yaml" || path = "/res/sub/b.yaml"

def latin (bytes : Bytes) : String := String.ofList (bytes.map fun byte => Char.ofNat byte.toNat)

theorem joinPath_of_clean {first : String} {trunk : List Char}
    (spelled : (first.toList.reverse.dropWhile fun c => c = '/').reverse = trunk)
    {second : String} {rest : List Char}
    (plain : second.toList.dropWhile (fun c => c = '/') = rest) :
    joinPath first second = String.ofList (trunk ++ '/' :: rest) := by
  rw [joinPath, spelled, plain]

theorem dropWhile_slash_of_clean {path : String} (clean : isClean path.toList = true) :
    path.toList.dropWhile (fun c => c = '/') = path.toList := by
  cases spelled : path.toList with
  | nil => rfl
  | cons c rest =>
      apply List.dropWhile_cons_of_neg
      intro slash
      rw [decide_eq_true_eq] at slash
      rw [spelled, slash, isClean, ← List.nil_append ('/' :: rest),
        List.splitOn_append_cons_self] at clean
      simp [isProper] at clean

theorem FileName.clean (name : FileName) : isClean name.text.toList = true := by
  rw [isClean, List.splitOn_eq_singleton name.whole]
  simp [name.proper]

theorem sample_files : filesIn sampleEntries = [("a.yaml", [97]), ("sub/b.yaml", [98])] := by
  decide +kernel

theorem sample_presented : Presents sampleOs (meshDirOf "root") "/res" sampleEntries := by
  have res : ("/res".toList.reverse.dropWhile fun c => c = '/').reverse = ['/', 'r', 'e', 's'] := by
    decide
  constructor
  · decide +kernel
  · intro name
    apply String.toList_injective
    have top : ("/".toList.reverse.dropWhile fun c => c = '/').reverse = [] := by decide
    have joined := joinPath_of_clean top (dropWhile_slash_of_clean name.clean)
    rw [show sampleOs.join = joinPath from rfl, joined]
    simp
  · intro name
    apply String.toList_injective
    have trunk : ((meshDirOf "root").toList.reverse.dropWhile fun c => c = '/').reverse =
        "/users/root/resources".toList := by decide +kernel
    have rest : ("/" ++ name.text).toList.dropWhile (fun c => c = '/') = name.text.toList := by
      rw [String.toList_append, show "/".toList = ['/'] from rfl, List.singleton_append,
        List.dropWhile_cons_of_pos (by decide), dropWhile_slash_of_clean name.clean]
    rw [show sampleOs.join = joinPath from rfl, joinPath_of_clean trunk rest,
      show meshDirOf "root" = "/users/root/resources/" by decide +kernel]
    simp
  · intro name data member
    simp only [sampleEntries, List.mem_cons, LocalEntry.file.injEq, reduceCtorEq, or_false,
      List.not_mem_nil] at member
    obtain ⟨rfl, rfl⟩ := member
    decide +kernel
  · intro path clean
    have joined : sampleOs.join "/res" path = "/res/" ++ path := by
      apply String.toList_injective
      rw [show sampleOs.join = joinPath from rfl,
        joinPath_of_clean res (dropWhile_slash_of_clean clean)]
      simp
    have same (other : String) : "/res/" ++ path = "/res/" ++ other ↔ path = other :=
      ⟨path_of_append, congrArg _⟩
    rw [joined, sample_files]
    simp only [sampleOs, Bool.or_eq_true, decide_eq_true_eq]
    rw [show "/res/a.yaml" = "/res/" ++ "a.yaml" by decide +kernel,
      show "/res/sub/b.yaml" = "/res/" ++ "sub/b.yaml" by decide +kernel, same, same]
    constructor
    · rintro (rfl | rfl)
      · exact ⟨[97], by simp⟩
      · exact ⟨[98], by simp⟩
    · rintro ⟨data, member⟩
      rcases List.mem_pair.mp member with own | own
      · cases own
        exact .inl rfl
      · cases own
        exact .inr rfl
  · intro path data member
    rw [sample_files] at member
    rcases List.mem_pair.mp member with same | same
    · cases same
      decide +kernel
    · cases same
      decide +kernel

theorem empty_clean : CleanPaths Table.empty := by
  intro path member
  cases member

theorem configMirrors_sample :
    ConfigMirrors sampleOs latin (meshDirOf "root") "/res" sampleEntries true Table.empty ↔
      ConfigReaches sampleOs latin (meshDirOf "root") sampleEntries Table.empty :=
  configMirrors_iff sampleOs latin "root" "/res" sampleEntries true Table.empty sample_presented
    empty_clean

theorem sample_unmirrored :
    ¬ ∀ (os : LocalOs) (decode : Bytes → String) (username localDir : String)
      (entries : List LocalEntry) (delete : Bool) (mesh : Table Bytes),
        Presents os (meshDirOf username) localDir entries → CleanPaths mesh →
          ConfigMirrors os decode (meshDirOf username) localDir entries delete mesh := by
  intro claimed
  obtain ⟨depth, changes, ran, _⟩ := claimed sampleOs latin "root" "/res" sampleEntries true
    Table.empty sample_presented empty_clean
  rcases (configAction_returned sample_presented ran).2 with plain | stray
  · have folder := plain _ (List.mem_cons_of_mem _ List.mem_cons_self)
    cases folder
  · have thrown : sampleOs.strayListing = .error (.raised "cannot read directory") := by
      decide +kernel
    rw [thrown] at stray
    cases stray

end Fgw
