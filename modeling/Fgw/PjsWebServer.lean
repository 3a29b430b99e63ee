import Fgw.CircuitBreakCore
import Fgw.Library.Memo
import Fgw.Library.Runs

/-!
The web server of the pjs gateway.  A directory is made for the root of a route with the index
files of the route that asks first, and is kept by its root until it expires.
-/

namespace Fgw

namespace PjsWeb

/-- `http.Directory` with its options. -/
structure Directory where
  path : String
  fs : Bool
  index : List String
  deriving DecidableEq

/-- `route.config` -/
structure RouteConfig where
  index : Option (List String)
  tryFiles : Option (List String)

/-- `head` is all of the head but its path; `root` is the `serverRoot` of the route. -/
structure Request (Head : Type) where
  root : String
  config : RouteConfig
  path : String
  head : Head

inductive Answer (Response : Type)
  | served (response : Response)
  | status (text : String)
  | notFound
  deriving DecidableEq

/-- `replace` is that of texts, and `serve` that of directories. -/
structure WebEngine (Head Response : Type) where
  toNumber : String → JsNumber
  replace : String → String → String → String
  serve : Directory → Request Head → String → Option Response

section Files

variable {Head Response : Type} (engine : WebEngine Head Response)

/-- `new http.Directory(…)` for the root of a request. -/
def makeDirectory (request : Request Head) : Directory :=
  let index := request.config.index.getD ["index.html"]
  if request.root.toList.head? = some '/' then ⟨request.root, true, index⟩
  else ⟨"/static/" ++ request.root, false, index⟩

/-- `_uri` -/
def uriOf (path : String) : String := String.ofList (path.toList.takeWhile (· ≠ '?'))

/-- An element of `TryFiles` for a request. -/
def tryFile (uri file : String) : String :=
  let parts := (file.toList.splitOn '/').map fun part =>
    engine.replace (String.ofList part) "$uri" uri
  engine.replace ("/".intercalate parts) "//" "/"

/-- `_tryFiles || [_uri]`, and nothing for a request without a path. -/
def filesFor (request : Request Head) : List String :=
  if request.path = "" then []
  else
    match request.config.tryFiles with
    | none => [uriOf request.path]
    | some files => files.map (tryFile engine (uriOf request.path))

/-- `uri.substring(1)`, if the text names a status. -/
def statusOf (uri : String) : Option String :=
  if uri.toList.head? = some '=' then some (String.ofList (uri.toList.drop 1)) else none

def isStatus (text : String) : Bool := (engine.toNumber text).above 0

def makeMessage (dir : Option Directory) (request : Request Head) (uri : String) :
    Option (Answer Response) :=
  match statusOf uri with
  | some text => if isStatus engine text then some (.status text) else none
  | none => (dir.bind fun dir => engine.serve dir request uri).map .served

def answer (dir : Option Directory) (request : Request Head) : Answer Response :=
  ((filesFor engine request).findSome? (makeMessage engine dir request)).getD .notFound

/-- Nothing comes of the file: it names no number above zero, and the directory does not have it. -/
def PassedOver (dir : Directory) (request : Request Head) (uri : String) : Prop :=
  (∀ text, statusOf uri = some text → isStatus engine text = false) ∧
    (statusOf uri = none → engine.serve dir request uri = none)

/-- What a request is answered for the files it names, tried in turn. -/
def Earned (dir : Directory) (request : Request Head) (files : List String) :
    Answer Response → Prop
  | .served response => ∃ before uri after, files = before ++ uri :: after ∧
      (∀ other ∈ before, PassedOver engine dir request other) ∧
        statusOf uri = none ∧ engine.serve dir request uri = some response
  | .status text => ∃ before uri after, files = before ++ uri :: after ∧
      (∀ other ∈ before, PassedOver engine dir request other) ∧
        statusOf uri = some text ∧ isStatus engine text = true
  | .notFound => ∀ uri ∈ files, PassedOver engine dir request uri

/-- Whether the first file that counts is not a status: it is only then that a directory is
asked for. -/
def needsDirectory : List String → Bool
  | [] => false
  | uri :: rest =>
      match statusOf uri with
      | some text => !isStatus engine text && needsDirectory rest
      | none => true

end Files

/-! Runs. -/

abbrev DirCache : Type := String → Option Directory

inductive WebEvent (Head : Type)
  | requested (request : Request Head)
  | expired (root : String)

/-- The directory that a request was served from, if it asked for one, and its answer. -/
structure Reply (Response : Type) where
  dir : Option Directory
  answer : Answer Response

section Step

variable {Head Response : Type} (engine : WebEngine Head Response)

def reply (dir : Option Directory) (request : Request Head) : Reply Response :=
  ⟨dir, answer engine dir request⟩

def step (dirCache : DirCache) : WebEvent Head → Option (Reply Response) × DirCache
  | .requested request =>
      if needsDirectory engine (filesFor engine request) then
        let found := memoStep Request.root makeDirectory dirCache request
        (some (reply engine (some found.1) request), found.2)
      else (some (reply engine none request), dirCache)
  | .expired root => (none, Function.update dirCache root none)

/-- Each request with the directory of its own route. -/
def ownReply : WebEvent Head → Option (Reply Response)
  | .requested request =>
      if needsDirectory engine (filesFor engine request) then
        some (reply engine (some (makeDirectory request)) request)
      else some (reply engine none request)
  | .expired _ => none

def asking : WebEvent Head → Option (MemoEvent String (Request Head))
  | .requested request =>
      if needsDirectory engine (filesFor engine request) then some (.call request) else none
  | .expired root => some (.forget root)

end Step

variable {Head Response : Type}

theorem reply_injective (engine : WebEngine Head Response) (request : Request Head)
    (left right : Directory) :
    reply engine (some left) request = reply engine (some right) request ↔ left = right := by
  constructor
  · intro same
    exact Option.some.inj (congrArg Reply.dir same)
  · rintro rfl
    rfl

theorem outputs_iff_forgetful (engine : WebEngine Head Response) (events : List (WebEvent Head))
    (dirCache : DirCache) :
    outputs (step engine) dirCache events = events.map (ownReply engine) ↔
      forgetfulAnswers Request.root makeDirectory dirCache (events.filterMap (asking engine)) =
        (events.filterMap (asking engine)).map (MemoEvent.answer makeDirectory) := by
  induction events generalizing dirCache with
  | nil => exact iff_of_true rfl rfl
  | cons event rest ih =>
      rw [outputs, List.map_cons, List.cons.injEq, ih, List.filterMap_cons]
      cases event with
      | requested request =>
          rw [step, ownReply, asking]
          by_cases asks : needsDirectory engine (filesFor engine request) = true
          · rw [if_pos asks, if_pos asks, if_pos asks]
            dsimp only
            rw [List.map_cons, forgetfulAnswers, List.cons.injEq, forgetfulStep, MemoEvent.answer]
            dsimp only
            rw [Option.some.injEq, Option.some.injEq, reply_injective]
          · rw [if_neg asks, if_neg asks, if_neg asks, and_iff_right rfl]
      | expired root =>
          rw [step, ownReply, asking]
          dsimp only
          rw [List.map_cons, forgetfulAnswers, List.cons.injEq, forgetfulStep, MemoEvent.answer]
          exact and_congr (iff_of_true rfl rfl) Iff.rfl

theorem makeMessage_eq_none_iff (engine : WebEngine Head Response) (dir : Directory)
    (request : Request Head) (uri : String) :
    makeMessage engine (some dir) request uri = none ↔ PassedOver engine dir request uri := by
  rw [makeMessage, PassedOver]
  cases statusOf uri <;> simp

theorem makeMessage_served_iff (engine : WebEngine Head Response) (dir : Directory)
    (request : Request Head) (uri : String) (response : Response) :
    makeMessage engine (some dir) request uri = some (.served response) ↔
      statusOf uri = none ∧ engine.serve dir request uri = some response := by
  rw [makeMessage]
  cases statusOf uri <;> simp

theorem makeMessage_status_iff (engine : WebEngine Head Response) (dir : Directory)
    (request : Request Head) (uri text : String) :
    makeMessage engine (some dir) request uri = some (.status text) ↔
      statusOf uri = some text ∧ isStatus engine text = true := by
  rw [makeMessage]
  cases statusOf uri with
  | none => simp
  | some other =>
      simp only [Option.some.injEq]
      split
      · rename_i counts
        simp only [Option.some.injEq, Answer.status.injEq]
        exact ⟨fun same => ⟨same, same ▸ counts⟩, fun named => named.1⟩
      · rename_i other_none
        simp only [reduceCtorEq, false_iff, not_and]
        rintro rfl
        exact other_none

/-- `makeMessage` makes no message that there is no page. -/
theorem makeMessage_ne_notFound (engine : WebEngine Head Response) (dir : Directory)
    (request : Request Head) (uri : String) :
    makeMessage engine (some dir) request uri ≠ some .notFound := by
  rw [makeMessage]
  cases statusOf uri <;> simp

theorem answer_eq_iff (engine : WebEngine Head Response) (dir : Directory)
    (request : Request Head) (result : Answer Response) :
    answer engine (some dir) request = result ↔
      Earned engine dir request (filesFor engine request) result := by
  rw [answer, Option.getD_eq_iff, List.findSome?_eq_some_iff, List.findSome?_eq_none_iff]
  simp only [makeMessage_eq_none_iff]
  cases result with
  | served response =>
      simp only [makeMessage_served_iff, reduceCtorEq, and_false, or_false, Earned]
      constructor
      · rintro ⟨before, uri, after, split, served, earlier⟩
        exact ⟨before, uri, after, split, earlier, served⟩
      · rintro ⟨before, uri, after, split, earlier, served⟩
        exact ⟨before, uri, after, split, served, earlier⟩
  | status text =>
      simp only [makeMessage_status_iff, reduceCtorEq, and_false, or_false, Earned]
      constructor
      · rintro ⟨before, uri, after, split, named, earlier⟩
        exact ⟨before, uri, after, split, earlier, named⟩
      · rintro ⟨before, uri, after, split, earlier, named⟩
        exact ⟨before, uri, after, split, named, earlier⟩
  | notFound =>
      simp only [makeMessage_ne_notFound, false_and, and_false, exists_false, false_or, and_true,
        Earned]

/-- Where no directory is asked for, none would have made a difference. -/
theorem answer_idle (engine : WebEngine Head Response) (dir : Directory) (request : Request Head)
    (idle : ¬ needsDirectory engine (filesFor engine request) = true) :
    answer engine none request = answer engine (some dir) request := by
  rw [answer, answer]
  generalize filesFor engine request = files at idle ⊢
  induction files with
  | nil => rfl
  | cons uri rest ih =>
      rw [needsDirectory] at idle
      cases named : statusOf uri with
      | none => simp [named] at idle
      | some text =>
          have here (dir : Option Directory) : makeMessage engine dir request uri =
              if isStatus engine text then some (.status text) else none := by
            rw [makeMessage, named]
          rw [List.findSome?_cons, List.findSome?_cons, here, here]
          by_cases counts : isStatus engine text = true
          · rw [if_pos counts]
          · rw [if_neg counts]
            exact ih (by simpa [named, counts] using idle)

/-- A directory of a root, whatever its index files are. -/
def Directory.IsOf (dir : Directory) (root : String) : Prop :=
  if root.toList.head? = some '/' then dir.path = root ∧ dir.fs = true
  else dir.path = "/static/" ++ root ∧ dir.fs = false

def IsKept (dirCache : DirCache) : Prop :=
  ∀ root dir, dirCache root = some dir → dir.IsOf root

/-- How an event of a run is answered: a request for its files in turn, in a directory of its root,
or for the statuses among them alone. -/
def Answered (engine : WebEngine Head Response) :
    WebEvent Head → Option (Reply Response) → Prop
  | .requested request, some reply =>
      (∀ dir, reply.dir = some dir → dir.IsOf request.root) ∧
        ∀ dir, reply.dir = none ∨ reply.dir = some dir → ∀ result, reply.answer = result ↔
          Earned engine dir request (filesFor engine request) result
  | .expired _, none => True
  | _, _ => False

theorem makeDirectory_isOf (request : Request Head) :
    (makeDirectory request).IsOf request.root := by
  rw [makeDirectory, Directory.IsOf]
  by_cases absolute : request.root.toList.head? = some '/'
  · rw [if_pos absolute]
    simp [absolute]
  · rw [if_neg absolute]
    simp [absolute]

theorem isKept_update {dirCache : DirCache} (kept : IsKept dirCache) (root : String)
    (stored : Option Directory) (right : ∀ dir, stored = some dir → dir.IsOf root) :
    IsKept (Function.update dirCache root stored) := by
  intro other dir found
  rw [Function.update_apply] at found
  split at found
  · rename_i same
    exact same ▸ right dir found
  · exact kept other dir found

theorem isKept_memoStep {dirCache : DirCache} (kept : IsKept dirCache) (request : Request Head) :
    (memoStep Request.root makeDirectory dirCache request).1.IsOf request.root ∧
      IsKept (memoStep Request.root makeDirectory dirCache request).2 := by
  cases stored : dirCache request.root with
  | some dir =>
      rw [memoStep_hit stored]
      exact ⟨kept _ _ stored, kept⟩
  | none =>
      rw [memoStep_miss stored]
      exact ⟨makeDirectory_isOf request, isKept_update kept _ _ fun dir made =>
        Option.some.inj made ▸ makeDirectory_isOf request⟩

theorem answered_step (engine : WebEngine Head Response) {dirCache : DirCache}
    (kept : IsKept dirCache) (event : WebEvent Head) :
    Answered engine event (step engine dirCache event).1 ∧
      IsKept (step engine dirCache event).2 := by
  cases event with
  | requested request =>
      rw [step]
      by_cases asks : needsDirectory engine (filesFor engine request) = true
      · rw [if_pos asks]
        obtain ⟨ofRoot, still⟩ := isKept_memoStep kept request
        refine ⟨⟨?_, ?_⟩, still⟩
        · rintro dir ⟨⟩
          exact ofRoot
        · rintro dir (⟨⟨⟩⟩ | ⟨⟨⟩⟩)
          exact answer_eq_iff engine _ request
      · rw [if_neg asks]
        refine ⟨⟨?_, ?_⟩, kept⟩
        · rintro dir ⟨⟩
        · intro dir _ result
          rw [reply, answer_idle engine dir request asks]
          exact answer_eq_iff engine dir request result
  | expired root => exact ⟨trivial, isKept_update kept root none (by simp)⟩

theorem answered_outputs (engine : WebEngine Head Response) (events : List (WebEvent Head))
    {dirCache : DirCache} (kept : IsKept dirCache) :
    List.Forall₂ (Answered engine) events (outputs (step engine) dirCache events) := by
  induction events generalizing dirCache with
  | nil => exact .nil
  | cons event rest ih =>
      obtain ⟨answered, still⟩ := answered_step engine kept event
      exact .cons answered (ih still)

/-- In a run the files of a request are tried in turn, in a directory of its root.  It is that of
its own route throughout exactly if routes that ask for one root, while it is kept, have the same
index files. -/
theorem webRun_own_iff (engine : WebEngine Head Response) (events : List (WebEvent Head)) :
    List.Forall₂ (Answered engine) events (outputs (step engine) (fun _ => none) events) ∧
      (outputs (step engine) (fun _ => none) events = events.map (ownReply engine) ↔
        KeyDecidesUntil Request.root makeDirectory (events.filterMap (asking engine))) :=
  ⟨answered_outputs engine events (by simp [IsKept]),
    (outputs_iff_forgetful engine events _).trans (forgetful_new_iff _)⟩

end PjsWeb

end Fgw
