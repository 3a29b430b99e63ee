import Fgw.ConfigCommand
import Fgw.Library.Segments
import Fgw.RepoClient

/-!
The scripts that the manager puts into the repository when it starts: a directory is walked, its
files are made into a batch, and another codebase is derived from the one that they are in.  Later
the `config.json` of the codebase is given another version, so that clients load it again.
-/

namespace Fgw

namespace Repo

def scriptsRoot : String := "src"

def gatewayBasePath : String := "/base/fgw"

def gatewayPath : String := "/local/fgw"

/-- The regular expression matches names that start with a dot. -/
def hidden (name : String) : Bool := name.toList.head? = some '.'

mutual

/-- The files that `visit` appends below a path.  The entries stand in the order of the walk. -/
def walkEntry (path : String) : LocalEntry → List (String × Bytes)
  | .file name data => if hidden name.text then [] else [(path ++ "/" ++ name.text, data)]
  | .folder name entries => walkEntries (path ++ "/" ++ name.text) entries

def walkEntries (path : String) : List LocalEntry → List (String × Bytes)
  | [] => []
  | entry :: rest => walkEntry path entry ++ walkEntries path rest

end

def listFiles (root : String) (entries : List LocalEntry) : List (String × Bytes) :=
  walkEntries root entries

def segments (path : String) : List (List Char) := path.toList.splitOn '/'

theorem segments_ne_nil (path : String) : segments path ≠ [] :=
  List.splitOn_ne_nil '/' path.toList

/-- `filepath.Dir` of a path with a slash. -/
def dirName (path : String) : String := String.ofList (['/'].intercalate (segments path).dropLast)

def baseName (path : String) : String :=
  String.ofList ((segments path).getLast (segments_ne_nil path))

def trimPrefix (text start : String) : String :=
  if start.toList.isPrefixOf text.toList then
    String.ofList (text.toList.drop start.toList.length)
  else text

def createBatch (repoPath scriptsDir : String) (entries : List LocalEntry) : Batch Bytes where
  basepath := repoPath
  items := (listFiles scriptsDir entries).map fun file =>
    { path := trimPrefix (dirName file.1) scriptsDir
      filename := baseName file.1
      content := file.2 }

def configJsonPath (basepath : String) : String := basepath ++ "/config.json"

section Manager

variable (quote : String → String) (server : Server Bytes)

/-- From where the repository is up to where `initRepo` returns. -/
def prepareRepo (entries : List LocalEntry) : EStateM String (Log Bytes) PUnit := do
  runBatches quote server [createBatch gatewayBasePath scriptsRoot entries]
  derive quote server gatewayPath gatewayBasePath

-- `sjson.Set(json, "Version", newConfigVersion)` at the time it is called
variable (setVersion : String → Except String Bytes)

def updateConfigVersion (basepath : String) : EStateM String (Log Bytes) PUnit := do
  let json ← getFile server (configJsonPath basepath)
  let newJson ← MonadExcept.ofExcept (setVersion json)
  runBatches quote server
    [{ basepath := basepath
       items := [{ path := "", filename := "config.json", content := newJson }] }]

/-- With the goroutine that `initRepo` starts before it returns.  What fails there is logged. -/
def initRepo (entries : List LocalEntry) : EStateM String (Log Bytes) PUnit := do
  prepareRepo quote server entries
  tryCatch (updateConfigVersion quote server setVersion gatewayBasePath) fun _ => pure ⟨⟩

end Manager

/-! What a batch uploads. -/

def visible (found : String × Bytes) : Bool := !hidden (baseName found.1)

/-- The files of the directory that are not hidden, at their places in the codebase. -/
def mirrored (entries : List LocalEntry) : List (String × Bytes) :=
  ((filesIn entries).filter visible).map fun found =>
    (gatewayBasePath ++ "/" ++ found.1, found.2)

theorem segments_append (path rest : String) :
    segments (path ++ "/" ++ rest) = segments path ++ segments rest := by
  rw [segments, String.toList_append, String.toList_append, List.append_assoc]
  exact List.splitOn_append_cons_self path.toList rest.toList

theorem baseName_append (path rest : String) : baseName (path ++ "/" ++ rest) = baseName rest := by
  simp only [baseName, segments_append]
  rw [List.getLast_append_of_ne_nil _ (segments_ne_nil rest)]

theorem baseName_name (name : FileName) : baseName name.text = name.text := by
  have whole : segments name.text = [name.text.toList] := List.splitOn_eq_singleton name.whole
  simp only [baseName, whole]
  simp

mutual

theorem walkEntry_eq (path : String) : ∀ entry : LocalEntry, walkEntry path entry =
    (entry.files.filter visible).map fun found => (path ++ "/" ++ found.1, found.2)
  | .file name data => by
      rw [walkEntry, LocalEntry.files]
      cases dotted : hidden name.text <;> simp [visible, baseName_name, dotted]
  | .folder name entries => by
      rw [walkEntry, LocalEntry.files, walkEntries_eq, List.filter_map, List.map_map]
      have same : (visible ∘ fun found : String × Bytes =>
          (name.text ++ "/" ++ found.1, found.2)) = visible := by
        funext found
        simp [visible, baseName_append]
      rw [same]
      simp [Function.comp_def, String.append_assoc]

theorem walkEntries_eq (path : String) : ∀ entries : List LocalEntry, walkEntries path entries =
    ((filesIn entries).filter visible).map fun found => (path ++ "/" ++ found.1, found.2)
  | [] => rfl
  | entry :: rest => by
      rw [walkEntries, filesIn, walkEntry_eq, walkEntries_eq path rest, List.filter_append,
        List.map_append]

end

theorem toList_dirName_append (path rest : String) : (dirName (path ++ "/" ++ rest)).toList =
    ['/'].intercalate (segments path ++ (segments rest).dropLast) := by
  rw [dirName, String.toList_ofList, segments_append,
    List.dropLast_append_of_ne_nil (segments_ne_nil rest)]

theorem trimPrefix_append (start : String) (rest : List Char) {text : String}
    (whole : text.toList = start.toList ++ rest) : (trimPrefix text start).toList = rest := by
  rw [trimPrefix, whole, if_pos (List.isPrefixOf_iff_prefix.mpr (List.prefix_append _ _)),
    String.toList_ofList, List.drop_left]

/-- The path in the codebase is put together again from the directory and the name. -/
theorem fullpath_append (base scriptsDir rest : String) :
    base ++ trimPrefix (dirName (scriptsDir ++ "/" ++ rest)) scriptsDir ++ "/" ++
      baseName (scriptsDir ++ "/" ++ rest) = base ++ "/" ++ rest := by
  have filled := segments_ne_nil rest
  have joined : ['/'].intercalate (segments scriptsDir) = scriptsDir.toList :=
    List.intercalate_splitOn '/'
  have dir := toList_dirName_append scriptsDir rest
  have last : (baseName rest).toList = (segments rest).getLast filled := by
    rw [baseName, String.toList_ofList]
  have split : (segments rest).dropLast ++ [(segments rest).getLast filled] = segments rest :=
    List.dropLast_append_getLast filled
  have whole : rest.toList = ['/'].intercalate (segments rest) :=
    (List.intercalate_splitOn '/').symm
  rw [← split] at whole
  suffices tail : (trimPrefix (dirName (scriptsDir ++ "/" ++ rest)) scriptsDir).toList ++
      ('/' :: (baseName rest).toList) = '/' :: rest.toList by
    apply String.toList_inj.mp
    rw [baseName_append, String.toList_append, String.toList_append, String.toList_append,
      String.toList_append, String.toList_append, List.append_assoc, List.append_assoc,
      List.append_assoc]
    exact congrArg (base.toList ++ ·) tail
  by_cases top : (segments rest).dropLast = []
  · rw [top, List.append_nil, joined, ← List.append_nil scriptsDir.toList] at dir
    rw [top, List.nil_append, List.intercalate_singleton] at whole
    rw [trimPrefix_append scriptsDir [] dir, last, whole, List.nil_append]
  · rw [intercalate_append (segments_ne_nil scriptsDir) top, joined] at dir
    rw [intercalate_append top (by simp), List.intercalate_singleton] at whole
    rw [trimPrefix_append scriptsDir _ dir, last, whole, List.cons_append]

theorem items_createBatch (entries : List LocalEntry) :
    let batch := createBatch gatewayBasePath scriptsRoot entries
    batch.items.map (fun item =>
      (batch.basepath ++ item.path ++ "/" ++ item.filename, item.content)) = mirrored entries := by
  simp only [createBatch, listFiles, walkEntries_eq, List.map_map, mirrored]
  apply List.map_congr_left
  intro found _
  simp [Function.comp_def, fullpath_append]

/-! What happens to the files of a batch. -/

section Runs

variable {quote : String → String} {server : Server Bytes} {target : List (String × Bytes)}

def Call.uploaded : Call Bytes → Option (String × Bytes)
  | .upsert path _ content => some (path, content)
  | _ => none

def uploads (log : Log Bytes) : List (String × Bytes) := log.filterMap fun entry => entry.1.uploaded

/-- The codebase is committed only when the files are there. -/
def Staged (target : List (String × Bytes)) (log : Log Bytes) : Prop :=
  ∀ before codebase answer after,
    log = before ++ (.commit gatewayBasePath codebase, answer) :: after →
      target <+: uploads before

/-- Uploads are answered by success. -/
def Accepted (log : Log Bytes) : Prop :=
  ∀ entry ∈ log, entry.1.uploaded.isSome → ∃ resp, entry.2 = .ok resp ∧ isSuccess resp = true

/-- A call that neither uploads nor commits the codebase. -/
def Call.Elsewhere (call : Call Bytes) : Prop :=
  call.uploaded = none ∧ ∀ codebase, call ≠ .commit gatewayBasePath codebase

theorem elsewhere_probe (path : String) : (Call.probe path : Call Bytes).Elsewhere :=
  ⟨rfl, fun _ same => by cases same⟩

theorem elsewhere_get (path : String) : (Call.get path : Call Bytes).Elsewhere :=
  ⟨rfl, fun _ same => by cases same⟩

theorem elsewhere_fetch (path : String) : (Call.fetch path : Call Bytes).Elsewhere :=
  ⟨rfl, fun _ same => by cases same⟩

theorem elsewhere_create (path : String) (codebase : Codebase) :
    (Call.create path codebase : Call Bytes).Elsewhere :=
  ⟨rfl, fun _ same => by cases same⟩

theorem uploads_append (log : Log Bytes) (call : Call Bytes) (answer : Answer) :
    uploads (log ++ [(call, answer)]) = uploads log ++ call.uploaded.toList := by
  cases found : call.uploaded <;> simp [uploads, found]

theorem Staged.append {log : Log Bytes} (staged : Staged target log) {call : Call Bytes}
    (answer : Answer)
    (whole : ∀ codebase, call = .commit gatewayBasePath codebase → target <+: uploads log) :
    Staged target (log ++ [(call, answer)]) := by
  intro before codebase result after here
  rcases List.eq_nil_or_concat after with rfl | ⟨front, last, rfl⟩
  · obtain ⟨rfl, same⟩ := List.append_inj' here rfl
    exact whole codebase (congrArg Prod.fst (List.cons.inj same).1)
  · rw [List.concat_eq_append, ← List.cons_append, ← List.append_assoc] at here
    exact staged before codebase result front (List.append_inj' here rfl).1

theorem Accepted.append {log : Log Bytes} (accepted : Accepted log) {call : Call Bytes}
    {answer : Answer} (answered : call.uploaded.isSome →
      ∃ resp, answer = .ok resp ∧ isSuccess resp = true) : Accepted (log ++ [(call, answer)]) := by
  intro entry member uploaded
  rcases List.mem_append.mp member with old | new
  · exact accepted entry old uploaded
  · obtain rfl := List.mem_singleton.mp new
    exact answered uploaded

/-- The state once so many files are uploaded. -/
structure Progress (target done : List (String × Bytes)) (log : Log Bytes) : Prop where
  uploads : uploads log = done
  staged : Staged target log
  accepted : Accepted log

theorem Progress.elsewhere {done : List (String × Bytes)} {log : Log Bytes}
    (progress : Progress target done log) {call : Call Bytes} (elsewhere : call.Elsewhere)
    (answer : Answer) : Progress target done (log ++ [(call, answer)]) where
  uploads := by
    rw [uploads_append, elsewhere.1, progress.uploads, Option.toList_none, List.append_nil]
  staged := progress.staged.append answer fun codebase same => (elsewhere.2 codebase same).elim
  accepted := progress.accepted.append fun uploaded => by
    rw [elsewhere.1] at uploaded
    cases uploaded

theorem keeps_elsewhere {done : List (String × Bytes)} {call : Call Bytes}
    (elsewhere : call.Elsewhere) : Keeps (Progress target done) (sendChecked server call) :=
  fun _ progress => ends_sendChecked (fun _ answer => progress.elsewhere elsewhere answer)
    fun _ answer => progress.elsewhere elsewhere answer

theorem keeps_codebaseExists {done : List (String × Bytes)} (path : String) :
    Keeps (Progress target done) (codebaseExists server path) := by
  intro log progress
  rw [ends_codebaseExists]
  exact progress.elsewhere (elsewhere_probe path) _

theorem keeps_getCodebase_progress {done : List (String × Bytes)} (path : String) :
    Keeps (Progress target done) (getCodebase server path) :=
  (keeps_elsewhere (elsewhere_get path)).bind fun resp => keeps_pure _ resp.result

theorem keeps_versionOf_progress {done : List (String × Bytes)} (path : String) :
    Keeps (Progress target done) (versionOf quote server path) := by
  refine (keeps_codebaseExists path).bind fun found => ?_
  have created : Keeps (Progress target done) (createCodebase quote server path) :=
    (keeps_elsewhere (elsewhere_create path _)).bind fun _ =>
      (keeps_failIf _ _ _).bind fun _ => keeps_getCodebase_progress path
  split
  · exact keeps_pure _ _
  · exact created.bind fun result => keeps_pure _ result.version

theorem keeps_derive_progress {done : List (String × Bytes)} (base : String) :
    Keeps (Progress target done) (derive quote server gatewayPath base) := by
  have other : gatewayPath ≠ gatewayBasePath := by decide
  refine (keeps_codebaseExists gatewayPath).bind fun found => ?_
  split
  · exact keeps_pure _ _
  · refine Keeps.bind ?_ fun result => ?_
    · exact (keeps_codebaseExists base).bind fun _ => (keeps_failIf _ _ _).bind fun _ =>
        (keeps_elsewhere (elsewhere_create gatewayPath _)).bind fun _ =>
          (keeps_failIf _ _ _).bind fun _ => keeps_getCodebase_progress gatewayPath
    · refine (keeps_elsewhere ⟨rfl, fun _ same => ?_⟩).bind fun _ => keeps_failIf _ _ _
      injection same with path _
      exact other path

theorem ends_upsertFile (path : String) (content : Bytes) (log : Log Bytes) :
    Ends (upsertFile server path content) log
      (fun _ after => ∃ type resp,
        after = log ++ [(.upsert path type content, .ok resp)] ∧ isSuccess resp = true)
      (fun _ after => ∃ type answer, after = log ++ [(.upsert path type content, answer)]) := by
  rw [upsertFile, ends_bind, sendChecked, ends_bind, ends_send, ends_ofExcept]
  cases answer : answerTo server log (.upsert path (contentTypeOf path) content) with
  | error reason => exact ⟨_, _, rfl⟩
  | ok resp =>
      simp only
      rw [ends_failIf]
      cases success : isSuccess resp
      · exact ⟨_, _, rfl⟩
      · exact ⟨_, resp, rfl, success⟩

/-- Where a run fails that was to upload the files from `done` to `goal`. -/
structure Reached (target done goal : List (String × Bytes)) (log : Log Bytes) : Prop where
  kept : done <+: uploads log
  within : uploads log <+: goal
  staged : Staged target log

theorem Progress.reached {done goal : List (String × Bytes)} {log : Log Bytes}
    (progress : Progress target done log) (within : done <+: goal) :
    Reached target done goal log where
  kept := progress.uploads ▸ List.prefix_rfl
  within := progress.uploads ▸ within
  staged := progress.staged

theorem Reached.earlier {done goal : List (String × Bytes)} {log : Log Bytes}
    (reached : Reached target done goal log) {first : List (String × Bytes)}
    (before : first <+: done) : Reached target first goal log :=
  ⟨before.trans reached.kept, reached.within, reached.staged⟩

theorem ends_uploads (base : String) (items : List (BatchItem Bytes))
    {done goal : List (String × Bytes)} {log : Log Bytes} (progress : Progress target done log)
    (rest : done ++ (items.map fun item =>
      (base ++ item.path ++ "/" ++ item.filename, item.content)) = goal) :
    Ends (forM items fun item =>
        upsertFile server (base ++ item.path ++ "/" ++ item.filename) item.content) log
      (fun _ after => Progress target goal after)
      (fun _ after => Reached target done goal after) := by
  induction items generalizing done log with
  | nil =>
      rw [List.map_nil, List.append_nil] at rest
      subst rest
      exact progress
  | cons item items ih =>
      rw [List.forM_cons, ends_bind]
      rw [List.map_cons] at rest
      refine (ends_upsertFile _ item.content log).mono ?_ ?_
      · rintro _ after ⟨type, resp, rfl, success⟩
        refine (@ih (done ++ [_]) _ ⟨?_, ?_, ?_⟩ (by rw [List.append_assoc]; exact rest)).mono
          (fun _ _ whole => whole) fun _ _ failed => failed.earlier (List.prefix_append _ _)
        · rw [uploads_append, progress.uploads]
          rfl
        · exact progress.staged.append _ fun codebase same => by cases same
        · exact progress.accepted.append fun _ => ⟨resp, rfl, success⟩
      · rintro _ after ⟨type, answer, rfl⟩
        refine ⟨?_, ?_, progress.staged.append _ fun codebase same => by cases same⟩
        · rw [uploads_append, progress.uploads]
          exact List.prefix_append _ _
        · rw [uploads_append, progress.uploads, ← rest]
          exact ⟨_, List.append_assoc _ _ _⟩

theorem ends_commit {done : List (String × Bytes)} {log : Log Bytes}
    (progress : Progress target done log) (whole : target <+: done) (version : Int64) :
    Ends (commit quote server gatewayBasePath version) log
      (fun _ after => Progress target done after) (fun _ after => Progress target done after) := by
  have next (answer : Answer) : Progress target done
      (log ++ [(.commit gatewayBasePath ⟨version + 1, ""⟩, answer)]) := by
    refine ⟨?_, progress.staged.append answer fun _ _ => progress.uploads ▸ whole,
      progress.accepted.append fun uploaded => nomatch uploaded⟩
    rw [uploads_append, progress.uploads]
    exact List.append_nil done
  rw [commit, ends_bind]
  refine ends_sendChecked (fun resp answer => ?_) fun _ answer => next answer
  rw [ends_failIf]
  split <;> exact next answer

theorem ends_runBatch {batch : Batch Bytes} (base : batch.basepath = gatewayBasePath)
    {done goal : List (String × Bytes)} {log : Log Bytes} (progress : Progress target done log)
    (rest : done ++ (batch.items.map fun item =>
      (batch.basepath ++ item.path ++ "/" ++ item.filename, item.content)) = goal)
    (whole : target <+: goal) :
    Ends (runBatch quote server batch) log (fun _ after => Progress target goal after)
      (fun _ after => Reached target done goal after) := by
  have within : done <+: goal := ⟨_, rest⟩
  rw [runBatch, ends_bind]
  refine (keeps_versionOf_progress _ log progress).mono (fun version log progress => ?_)
    fun _ log progress => progress.reached within
  rw [ends_bind]
  refine (ends_uploads _ _ progress rest).mono (fun _ log uploaded => ?_) fun _ _ failed => failed
  have last : Reached target done goal log :=
    (uploaded.reached List.prefix_rfl).earlier within
  rw [ends_bind, ends_failIf]
  split
  · exact last
  · rw [base]
    exact (ends_commit uploaded whole version).mono (fun _ _ committed => committed)
      fun _ _ failed => (failed.reached List.prefix_rfl).earlier within

theorem ends_prepareRepo (entries : List LocalEntry) :
    Ends (prepareRepo quote server entries) []
      (fun _ after => Progress (mirrored entries) (mirrored entries) after)
      (fun _ after => Reached (mirrored entries) [] (mirrored entries) after) := by
  have start : Progress (mirrored entries) [] ([] : Log Bytes) :=
    ⟨rfl, fun before _ _ _ here => by simp at here, fun _ member => nomatch member⟩
  rw [prepareRepo, ends_bind, runBatches, List.forM_cons, ends_bind]
  refine (ends_runBatch rfl start (items_createBatch entries) List.prefix_rfl).mono
    (fun _ log progress => ?_) fun _ _ failed => failed
  rw [List.forM_nil, ends_pure]
  exact (keeps_derive_progress gatewayBasePath log progress).mono (fun _ _ kept => kept)
    fun _ _ kept => (kept.reached List.prefix_rfl).earlier List.nil_prefix

/-- The `config.json` that the codebase had when it was `ready`, with another version. -/
def Reversioned (server : Server Bytes) (setVersion : String → Except String Bytes)
    (ready : Log Bytes) (file : String × Bytes) : Prop :=
  file.1 = configJsonPath gatewayBasePath ∧
    ∃ resp, answerTo server ready (.fetch (configJsonPath gatewayBasePath)) = .ok resp ∧
      setVersion resp.body = .ok file.2

/-- After the goroutine, which may have failed anywhere. -/
def Updated (server : Server Bytes) (setVersion : String → Except String Bytes)
    (target : List (String × Bytes)) (ready log : Log Bytes) : Prop :=
  Staged target log ∧ (uploads log = target ∨
    ∃ file, Reversioned server setVersion ready file ∧ uploads log = target ++ [file])

theorem Reached.updated {ready log : Log Bytes} {setVersion : String → Except String Bytes}
    {file : String × Bytes} (reached : Reached target target (target ++ [file]) log)
    (reversioned : Reversioned server setVersion ready file) :
    Updated server setVersion target ready log := by
  refine ⟨reached.staged, ?_⟩
  obtain ⟨rest, whole⟩ := reached.kept
  have within := reached.within
  rw [← whole, List.prefix_append_right_inj, List.prefix_cons_iff] at within
  rcases within with rfl | ⟨tail, rfl, none⟩
  · exact .inl ((List.append_nil target).symm.trans whole).symm
  · obtain rfl := List.prefix_nil.mp none
    exact .inr ⟨file, reversioned, whole.symm⟩

theorem ends_updateConfigVersion {setVersion : String → Except String Bytes} {ready : Log Bytes}
    (progress : Progress target target ready) :
    Ends (updateConfigVersion quote server setVersion gatewayBasePath) ready
      (fun _ after => Updated server setVersion target ready after)
      (fun _ after => Updated server setVersion target ready after) := by
  have fetched (answer : Answer) :=
    progress.elsewhere (elsewhere_fetch (configJsonPath gatewayBasePath)) answer
  have alone {log : Log Bytes} (progress : Progress target target log) :
      Updated server setVersion target ready log := ⟨progress.staged, .inl progress.uploads⟩
  rw [updateConfigVersion, ends_bind, getFile, ends_bind, sendChecked, ends_bind, ends_send,
    ends_ofExcept]
  cases answer : answerTo server ready (.fetch (configJsonPath gatewayBasePath)) with
  | error reason => exact alone (fetched _)
  | ok resp =>
      simp only [ends_pure]
      rw [ends_bind, ends_ofExcept]
      cases set : setVersion resp.body with
      | error reason => exact alone (fetched _)
      | ok newJson =>
          have reversioned : Reversioned server setVersion ready
              (configJsonPath gatewayBasePath, newJson) := ⟨rfl, resp, answer, set⟩
          simp only [runBatches]
          rw [List.forM_cons, ends_bind]
          refine (ends_runBatch rfl (fetched _) rfl (List.prefix_append _ _)).mono
            (fun _ after uploaded => ?_) fun _ after failed => failed.updated reversioned
          exact ⟨uploaded.staged, .inr ⟨_, reversioned, uploaded.uploads⟩⟩

/-- In every run, whatever the server answers, the files of the directory are uploaded in their
order, and `initRepo` returns only if all were accepted.  After the last nothing is uploaded but
another version of `config.json`, and the codebase is not committed before the last. -/
theorem initRepo_mirrors (quote : String → String) (server : Server Bytes)
    (setVersion : String → Except String Bytes) (entries : List LocalEntry) :
    let ready := stateAfter (prepareRepo quote server entries) []
    let log := stateAfter (initRepo quote server setVersion entries) []
    (uploads log <+: mirrored entries ∨ ∃ file, Reversioned server setVersion ready file ∧
        uploads log = mirrored entries ++ [file]) ∧
      Staged (mirrored entries) log ∧
      (Returns (prepareRepo quote server entries) [] →
        uploads ready = mirrored entries ∧ Accepted ready) := by
  have prepared := @ends_prepareRepo quote server entries
  simp only [Returns, Ends, stateAfter, initRepo] at prepared ⊢
  cases run : prepareRepo quote server entries [] with
  | ok value ready =>
      rw [run] at prepared
      have updating : Ends (tryCatch
          (updateConfigVersion quote server setVersion gatewayBasePath) fun _ => pure ⟨⟩) ready
          (fun _ after => Updated server setVersion (mirrored entries) ready after)
          (fun _ after => Updated server setVersion (mirrored entries) ready after) := by
        rw [ends_tryCatch]
        exact (ends_updateConfigVersion prepared).mono (fun _ _ updated => updated)
          fun _ _ updated => updated
      rw [ends_iff_stateAfter] at updating
      rw [run_bind_ok run]
      obtain ⟨staged, uploaded⟩ := updating
      refine ⟨uploaded.imp_left fun same => ?_, staged, fun _ =>
        ⟨prepared.uploads, prepared.accepted⟩⟩
      exact same ▸ List.prefix_rfl
  | error reason ready =>
      rw [run] at prepared
      rw [run_bind_error run]
      exact ⟨.inl prepared.within, prepared.staged, fun returned => returned.elim⟩

end Runs

end Repo

end Fgw
