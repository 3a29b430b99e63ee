import Fgw.Library.Runs
import Mathlib.Data.List.Induction

/-!
Error pages of the pjs gateway: the table that is compiled from a list of entries, and what is
served for a status.
-/

namespace Fgw

namespace PjsErrorPage

/-- An entry of `ErrorPage`; a page that is not given is the empty text. -/
structure ErrorConfig where
  error : List Int
  status : Option Int
  page : String
  directory : Option String

/-- The message that redirects to a URL. -/
structure RedirectTo where
  status : Int
  location : String
  deriving DecidableEq

structure PageEntry where
  status : Option Int
  errors : List Int
  message : Option RedirectTo
  directory : Option String
  path : String
  deriving DecidableEq

/-- The variables that the loop keeps from entry to entry. -/
structure PageVars where
  message : Option RedirectTo
  directory : Option String

def inRange (status : Int) : Bool := 100 ≤ status && status ≤ 599

def listedErrors (cfg : ErrorConfig) : List Int := cfg.error.filter inRange

section Compile

-- `toLowerCase`, and the web root
variable (lowerCase : String → String) (root : Option String)

def isUrl (page : String) : Bool :=
  "http://".toList.isPrefixOf (lowerCase page).toList ||
    "https://".toList.isPrefixOf (lowerCase page).toList

/-- `directory || root` -/
def directoryOf (cfg : ErrorConfig) : Option String :=
  (cfg.directory.filter fun text => text ≠ "").orElse fun _ => root.filter fun text => text ≠ ""

def compileEntry (vars : PageVars) (cfg : ErrorConfig) : PageVars × Option PageEntry :=
  let errors := listedErrors cfg
  if errors ≠ [] ∧ cfg.page ≠ "" then
    let status := cfg.status.filter inRange
    let made : Option Int × PageVars :=
      if isUrl lowerCase cfg.page then
        let status := status.getD 302
        (some status, { vars with message := some ⟨status, cfg.page⟩ })
      else (status, { vars with directory := directoryOf root cfg })
    (made.2,
      if made.2.message.isSome || made.2.directory.isSome then
        some ⟨made.1, errors, made.2.message, made.2.directory, cfg.page⟩
      else none)
  else (vars, none)

def compileEntries : PageVars → List ErrorConfig → List PageEntry
  | _, [] => []
  | vars, cfg :: rest =>
      (compileEntry lowerCase root vars cfg).2.toList ++
        compileEntries (compileEntry lowerCase root vars cfg).1 rest

def errorPageTable (pages : List ErrorConfig) : List PageEntry :=
  compileEntries lowerCase root ⟨none, none⟩ pages

/-- What `errorPageCache` holds for a route. -/
def matchStatus (pages : List ErrorConfig) : Option (Int → Option PageEntry) :=
  if 0 < (errorPageTable lowerCase root pages).length then
    some fun status => (errorPageTable lowerCase root pages).find? fun ep => status ∈ ep.errors
  else none

/-- What becomes of a response. -/
inductive Served
  | unchanged
  | redirect (message : RedirectTo)
  | file (directory path : String) (status : Int)
  deriving DecidableEq

def serveEntry (entry : PageEntry) (status : Int) : Served :=
  match entry.message, entry.directory with
  | some message, _ => .redirect message
  | none, some directory => .file directory entry.path (entry.status.getD status)
  | none, none => .unchanged

def response (pages : List ErrorConfig) (status : Int) : Served :=
  match (matchStatus lowerCase root pages).bind fun find => find status with
  | none => .unchanged
  | some entry => serveEntry entry status

/-! Entries on their own. -/

/-- The entry names a page, by a URL, for some status. -/
def namesUrl (cfg : ErrorConfig) : Bool :=
  listedErrors cfg ≠ [] && cfg.page ≠ "" && isUrl lowerCase cfg.page

/-- The entry names a page, by a file, for some status. -/
def namesFile (cfg : ErrorConfig) : Bool :=
  listedErrors cfg ≠ [] && cfg.page ≠ "" && !isUrl lowerCase cfg.page

/-- The entry has a page for the status. -/
def Offers (status : Int) (cfg : ErrorConfig) : Prop :=
  status ∈ listedErrors cfg ∧ cfg.page ≠ "" ∧
    (isUrl lowerCase cfg.page = true ∨ (directoryOf root cfg).isSome = true)

instance (status : Int) : DecidablePred (Offers lowerCase root status) := fun _ =>
  inferInstanceAs (Decidable (_ ∧ _ ∧ (_ ∨ _)))

/-- The entries stand for themselves: the table has what each entry gives in a list of its own, and
a status is served by the first entry that has a page for it, as that entry serves it alone. -/
structure Independent (pages : List ErrorConfig) : Prop where
  table : errorPageTable lowerCase root pages =
    pages.flatMap fun cfg => errorPageTable lowerCase root [cfg]
  serves : ∀ status, response lowerCase root pages status =
    match pages.find? fun cfg => Offers lowerCase root status cfg with
    | none => .unchanged
    | some cfg => response lowerCase root [cfg] status

/-- No entry finds a page of another kind in the variables. -/
def Undisturbed (pages : List ErrorConfig) : Prop :=
  ∀ before cfg after, pages = before ++ cfg :: after →
    (namesFile lowerCase cfg = true → ∀ earlier ∈ before, namesUrl lowerCase earlier = false) ∧
    (namesUrl lowerCase cfg = true →
      ∀ last, (before.filter (namesFile lowerCase)).getLast? = some last →
        directoryOf root last = none)

theorem kinds (cfg : ErrorConfig) :
    namesUrl lowerCase cfg = true ∧ namesFile lowerCase cfg = false ∨
      namesUrl lowerCase cfg = false ∧ namesFile lowerCase cfg = true ∨
      namesUrl lowerCase cfg = false ∧ namesFile lowerCase cfg = false := by
  rw [namesUrl, namesFile]
  cases (listedErrors cfg ≠ [] && cfg.page ≠ "" : Bool)
  · simp
  · cases isUrl lowerCase cfg.page
    · simp
    · simp

theorem compileEntry_url {cfg : ErrorConfig} (named : namesUrl lowerCase cfg = true)
    (vars : PageVars) :
    compileEntry lowerCase root vars cfg =
      let message := some ⟨(cfg.status.filter inRange).getD 302, cfg.page⟩
      ({ vars with message }, some ⟨some ((cfg.status.filter inRange).getD 302), listedErrors cfg,
        message, vars.directory, cfg.page⟩) := by
  simp only [namesUrl, Bool.and_eq_true, decide_eq_true_eq] at named
  simp [compileEntry, named]

theorem compileEntry_file {cfg : ErrorConfig} (named : namesFile lowerCase cfg = true)
    (vars : PageVars) :
    compileEntry lowerCase root vars cfg = ({ vars with directory := directoryOf root cfg },
      if vars.message.isSome || (directoryOf root cfg).isSome then
        some ⟨cfg.status.filter inRange, listedErrors cfg, vars.message, directoryOf root cfg,
          cfg.page⟩
      else none) := by
  simp only [namesFile, Bool.and_eq_true, decide_eq_true_eq, Bool.not_eq_true'] at named
  simp [compileEntry, named]

theorem compileEntry_neither {cfg : ErrorConfig} (noUrl : namesUrl lowerCase cfg = false)
    (noFile : namesFile lowerCase cfg = false) (vars : PageVars) :
    compileEntry lowerCase root vars cfg = (vars, none) := by
  rw [compileEntry]
  refine if_neg ?_
  rintro ⟨listed, named⟩
  cases url : isUrl lowerCase cfg.page with
  | true => simp [namesUrl, listed, named, url] at noUrl
  | false => simp [namesFile, listed, named, url] at noFile

/-- What an entry gives in a list of its own. -/
def alone (cfg : ErrorConfig) : Option PageEntry :=
  (compileEntry lowerCase root ⟨none, none⟩ cfg).2

theorem errorPageTable_single (cfg : ErrorConfig) :
    errorPageTable lowerCase root [cfg] = (alone lowerCase root cfg).toList := by
  rw [errorPageTable, compileEntries, compileEntries, List.append_nil, alone]

/-- The variables do not take part in what an entry gives. -/
def Clean (vars : PageVars) (cfg : ErrorConfig) : Prop :=
  (namesFile lowerCase cfg = true → vars.message = none) ∧
    (namesUrl lowerCase cfg = true → vars.directory = none)

theorem compileEntry_eq_alone_iff (vars : PageVars) (cfg : ErrorConfig) :
    (compileEntry lowerCase root vars cfg).2 = alone lowerCase root cfg ↔
      Clean lowerCase vars cfg := by
  rw [Clean, alone]
  rcases kinds lowerCase cfg with ⟨url, noFile⟩ | ⟨noUrl, file⟩ | ⟨noUrl, noFile⟩
  · rw [compileEntry_url lowerCase root url, compileEntry_url lowerCase root url]
    simp [url, noFile]
  · rw [compileEntry_file lowerCase root file, compileEntry_file lowerCase root file]
    cases set : vars.message with
    | none => simp [noUrl]
    | some message => simp [file]
  · rw [compileEntry_neither lowerCase root noUrl noFile,
      compileEntry_neither lowerCase root noUrl noFile]
    simp [noUrl, noFile]

/-- An entry that gives something alone gives something in any list. -/
theorem isSome_of_alone {cfg : ErrorConfig} (given : (alone lowerCase root cfg).isSome = true)
    (vars : PageVars) : (compileEntry lowerCase root vars cfg).2.isSome = true := by
  rw [alone] at given
  rcases kinds lowerCase cfg with ⟨url, _⟩ | ⟨_, file⟩ | ⟨noUrl, noFile⟩
  · rw [compileEntry_url lowerCase root url]
    rfl
  · rw [compileEntry_file lowerCase root file] at given ⊢
    cases present : (directoryOf root cfg).isSome with
    | true => simp
    | false => simp [present] at given
  · rw [compileEntry_neither lowerCase root noUrl noFile] at given
    cases given

theorem alone_length_le (vars : PageVars) (pages : List ErrorConfig) :
    (pages.flatMap fun cfg => (alone lowerCase root cfg).toList).length ≤
      (compileEntries lowerCase root vars pages).length := by
  induction pages generalizing vars with
  | nil => exact Nat.le_refl 0
  | cons cfg pages ih =>
      have later := ih (compileEntry lowerCase root vars cfg).1
      rw [List.flatMap_cons, List.length_append, compileEntries, List.length_append]
      have first : (alone lowerCase root cfg).toList.length ≤
          (compileEntry lowerCase root vars cfg).2.toList.length := by
        cases given : alone lowerCase root cfg with
        | none => exact Nat.zero_le _
        | some entry =>
            obtain ⟨other, same⟩ := Option.isSome_iff_exists.mp
              (isSome_of_alone lowerCase root (by rw [given]; rfl) vars)
            rw [same]
            exact Nat.le_refl 1
      omega

theorem compileEntries_eq_iff (vars : PageVars) (pages : List ErrorConfig) :
    compileEntries lowerCase root vars pages =
        (pages.flatMap fun cfg => (alone lowerCase root cfg).toList) ↔
      EveryStep (fun vars cfg => (compileEntry lowerCase root vars cfg).1) (Clean lowerCase) vars
        pages := by
  induction pages generalizing vars with
  | nil => exact iff_of_true rfl trivial
  | cons cfg pages ih =>
      have later := alone_length_le lowerCase root (compileEntry lowerCase root vars cfg).1 pages
      rw [compileEntries, List.flatMap_cons, EveryStep, ← ih, ← compileEntry_eq_alone_iff lowerCase
        root]
      constructor
      · intro same
        cases given : alone lowerCase root cfg with
        | none =>
            cases here : (compileEntry lowerCase root vars cfg).2 with
            | none =>
                rw [given, here] at same
                exact ⟨rfl, same⟩
            | some entry =>
                rw [given, here] at same
                have lengths := congrArg List.length same
                simp only [Option.toList_some, Option.toList_none, List.length_append,
                  List.length_cons, List.length_nil] at lengths
                omega
        | some entry =>
            obtain ⟨other, here⟩ := Option.isSome_iff_exists.mp
              (isSome_of_alone lowerCase root (by rw [given]; rfl) vars)
            rw [given, here] at same
            simp only [Option.toList_some, List.cons_append, List.nil_append,
              List.cons.injEq] at same
            exact ⟨by rw [here, same.1], same.2⟩
      · rintro ⟨first, rest⟩
        rw [first, rest]

def varsAfter (before : List ErrorConfig) : PageVars :=
  before.foldl (fun vars cfg => (compileEntry lowerCase root vars cfg).1) ⟨none, none⟩

theorem varsAfter_append (before : List ErrorConfig) (cfg : ErrorConfig) :
    varsAfter lowerCase root (before ++ [cfg]) =
      (compileEntry lowerCase root (varsAfter lowerCase root before) cfg).1 := by
  rw [varsAfter, List.foldl_append, List.foldl_cons, List.foldl_nil, varsAfter]

theorem message_varsAfter (before : List ErrorConfig) :
    (varsAfter lowerCase root before).message = none ↔
      ∀ earlier ∈ before, namesUrl lowerCase earlier = false := by
  induction before using List.reverseRecOn with
  | nil => exact iff_of_true rfl fun _ member => absurd member List.not_mem_nil
  | append_singleton before cfg ih =>
      rw [varsAfter_append, List.forall_mem_append, List.forall_mem_singleton, ← ih]
      rcases kinds lowerCase cfg with ⟨url, _⟩ | ⟨noUrl, file⟩ | ⟨noUrl, noFile⟩
      · rw [compileEntry_url lowerCase root url]
        simp [url]
      · rw [compileEntry_file lowerCase root file]
        simp [noUrl]
      · rw [compileEntry_neither lowerCase root noUrl noFile]
        simp [noUrl]

theorem directory_varsAfter (before : List ErrorConfig) :
    (varsAfter lowerCase root before).directory =
      (before.filter (namesFile lowerCase)).getLast?.bind (directoryOf root) := by
  induction before using List.reverseRecOn with
  | nil => rfl
  | append_singleton before cfg ih =>
      rw [varsAfter_append, List.filter_append]
      rcases kinds lowerCase cfg with ⟨url, noFile⟩ | ⟨_, file⟩ | ⟨noUrl, noFile⟩
      · rw [compileEntry_url lowerCase root url, List.filter_singleton, noFile]
        simpa using ih
      · rw [compileEntry_file lowerCase root file, List.filter_singleton, file]
        simp
      · rw [compileEntry_neither lowerCase root noUrl noFile, List.filter_singleton, noFile]
        simpa using ih

theorem undisturbed_iff (pages : List ErrorConfig) :
    Undisturbed lowerCase root pages ↔
      EveryStep (fun vars cfg => (compileEntry lowerCase root vars cfg).1) (Clean lowerCase)
        ⟨none, none⟩ pages := by
  rw [everyStep_iff_split, Undisturbed]
  have clean (before : List ErrorConfig) (cfg : ErrorConfig) :
      Clean lowerCase (varsAfter lowerCase root before) cfg ↔
        (namesFile lowerCase cfg = true → ∀ earlier ∈ before, namesUrl lowerCase earlier = false) ∧
        (namesUrl lowerCase cfg = true →
          ∀ last, (before.filter (namesFile lowerCase)).getLast? = some last →
            directoryOf root last = none) := by
    rw [Clean, message_varsAfter, directory_varsAfter, Option.bind_eq_none_iff]
  simp only [← clean]
  exact Iff.rfl

theorem table_independent_iff (pages : List ErrorConfig) :
    errorPageTable lowerCase root pages =
        (pages.flatMap fun cfg => errorPageTable lowerCase root [cfg]) ↔
      Undisturbed lowerCase root pages := by
  simp only [errorPageTable_single]
  rw [errorPageTable, compileEntries_eq_iff, undisturbed_iff]

theorem response_eq (pages : List ErrorConfig) (status : Int) :
    response lowerCase root pages status =
      match (errorPageTable lowerCase root pages).find? fun ep => status ∈ ep.errors with
      | none => .unchanged
      | some entry => serveEntry entry status := by
  rw [response, matchStatus]
  by_cases filled : 0 < (errorPageTable lowerCase root pages).length
  · rw [if_pos filled, Option.bind_some]
  · have empty : errorPageTable lowerCase root pages = [] := List.length_eq_zero_iff.mp (by omega)
    rw [if_neg filled, empty, Option.bind_none, List.find?_nil]

theorem alone_offers (status : Int) (cfg : ErrorConfig) :
    ((alone lowerCase root cfg).any fun ep => status ∈ ep.errors) =
      decide (Offers lowerCase root status cfg) := by
  rw [Bool.eq_iff_iff, decide_eq_true_eq, Offers, alone]
  rcases kinds lowerCase cfg with ⟨url, _⟩ | ⟨_, file⟩ | ⟨noUrl, noFile⟩
  · rw [compileEntry_url lowerCase root url]
    simp only [namesUrl, Bool.and_eq_true, decide_eq_true_eq] at url
    simp [url]
  · rw [compileEntry_file lowerCase root file]
    simp only [namesFile, Bool.and_eq_true, decide_eq_true_eq, Bool.not_eq_true'] at file
    cases present : directoryOf root cfg with
    | none => simp [file]
    | some directory => simp [file]
  · rw [compileEntry_neither lowerCase root noUrl noFile]
    refine iff_of_false (by simp) ?_
    rintro ⟨listed, named, _⟩
    have some : listedErrors cfg ≠ [] := List.ne_nil_of_mem listed
    cases url : isUrl lowerCase cfg.page with
    | true => simp [namesUrl, some, named, url] at noUrl
    | false => simp [namesFile, some, named, url] at noFile

theorem response_alone {status : Int} {cfg : ErrorConfig}
    (offers : Offers lowerCase root status cfg) : ∃ entry, alone lowerCase root cfg = some entry ∧
      response lowerCase root [cfg] status = serveEntry entry status := by
  have found := alone_offers lowerCase root status cfg
  rw [decide_eq_true offers] at found
  obtain ⟨entry, given, listed⟩ := (Option.any_eq_true _ _).mp found
  refine ⟨entry, given, ?_⟩
  rw [response_eq, errorPageTable_single, given, Option.toList_some, List.find?_cons, listed]

/-- An entry as far as it is looked at: a message goes before a directory. -/
def settle (entry : PageEntry) : PageEntry :=
  if entry.message.isSome then { entry with directory := none } else entry

theorem settle_errors (entry : PageEntry) : (settle entry).errors = entry.errors := by
  unfold settle
  split <;> rfl

theorem serveEntry_settle (entry : PageEntry) (status : Int) :
    serveEntry (settle entry) status = serveEntry entry status := by
  obtain ⟨ownStatus, errors, message, directory, path⟩ := entry
  cases message with
  | none => rfl
  | some message => rfl

theorem settle_compileEntry {vars : PageVars} {cfg : ErrorConfig}
    (clean : namesFile lowerCase cfg = true → vars.message = none) :
    (compileEntry lowerCase root vars cfg).2.map settle = alone lowerCase root cfg := by
  rw [alone]
  rcases kinds lowerCase cfg with ⟨url, _⟩ | ⟨_, file⟩ | ⟨noUrl, noFile⟩
  · rw [compileEntry_url lowerCase root url, compileEntry_url lowerCase root url]
    rfl
  · rw [compileEntry_file lowerCase root file, compileEntry_file lowerCase root file, clean file]
    cases directoryOf root cfg with
    | none => rfl
    | some directory => rfl
  · rw [compileEntry_neither lowerCase root noUrl noFile,
      compileEntry_neither lowerCase root noUrl noFile]
    rfl

theorem settle_compileEntries {vars : PageVars} {pages : List ErrorConfig}
    (every : EveryStep (fun vars cfg => (compileEntry lowerCase root vars cfg).1)
      (fun vars cfg => namesFile lowerCase cfg = true → vars.message = none) vars pages) :
    (compileEntries lowerCase root vars pages).map settle =
      pages.filterMap (alone lowerCase root) := by
  induction pages generalizing vars with
  | nil => rfl
  | cons cfg pages ih =>
      rw [compileEntries, List.map_append, ih every.2, List.filterMap_cons,
        ← settle_compileEntry lowerCase root every.1]
      cases (compileEntry lowerCase root vars cfg).2 with
      | none => rfl
      | some entry => rfl

/-- What is served is each entry's own as long as no URL stands before a file. -/
theorem serves_of_filesFirst {pages : List ErrorConfig}
    (filesFirst : ∀ before cfg after, pages = before ++ cfg :: after →
      namesFile lowerCase cfg = true → ∀ earlier ∈ before, namesUrl lowerCase earlier = false)
    (status : Int) : response lowerCase root pages status =
      match pages.find? fun cfg => Offers lowerCase root status cfg with
      | none => .unchanged
      | some cfg => response lowerCase root [cfg] status := by
  have settled : (errorPageTable lowerCase root pages).map settle =
      pages.filterMap (alone lowerCase root) := by
    refine settle_compileEntries lowerCase root ((everyStep_iff_split _ _ _ _).mpr ?_)
    intro before cfg after same file
    exact (message_varsAfter lowerCase root before).mpr (filesFirst before cfg after same file)
  have found : ((errorPageTable lowerCase root pages).find? fun ep => status ∈ ep.errors).map
      settle = (pages.find? fun cfg => Offers lowerCase root status cfg).bind
        (alone lowerCase root) := by
    have searched := congrArg (List.find? fun ep => decide (status ∈ ep.errors)) settled
    rw [List.find?_map, List.find?_filterMap] at searched
    simpa only [Function.comp_def, settle_errors, alone_offers] using searched
  rw [response_eq]
  cases chosen : pages.find? fun cfg => Offers lowerCase root status cfg with
  | none =>
      rw [chosen, Option.bind_none, Option.map_eq_none_iff] at found
      rw [found]
  | some cfg =>
      have offers : Offers lowerCase root status cfg := by simpa using List.find?_some chosen
      obtain ⟨entry, given, served⟩ := response_alone lowerCase root offers
      rw [chosen, Option.bind_some, given] at found
      obtain ⟨compiled, listed, rfl⟩ := Option.map_eq_some_iff.mp found
      rw [listed]
      dsimp only
      rw [served, serveEntry_settle]

/-- The entries stand for themselves exactly if none is disturbed. -/
theorem independent_iff (pages : List ErrorConfig) :
    Independent lowerCase root pages ↔ Undisturbed lowerCase root pages := by
  constructor
  · intro independent
    exact (table_independent_iff lowerCase root pages).mp independent.table
  · intro undisturbed
    refine ⟨(table_independent_iff lowerCase root pages).mpr undisturbed, ?_⟩
    exact serves_of_filesFirst lowerCase root fun before cfg after same =>
      (undisturbed before cfg after same).1

end Compile

/-- The redirect of the first entry is still in the variable when the second one is compiled. -/
theorem urlPage_disturbsFile :
    ¬ ∀ (lowerCase : String → String) (root : Option String) (pages : List ErrorConfig),
      Independent lowerCase root pages := by
  intro claimed
  have served := (claimed id none [⟨[404], none, "http://x", none⟩,
    ⟨[500], none, "500.html", some "/var"⟩]).serves 500
  exact absurd served (by decide)

end PjsErrorPage

end Fgw
