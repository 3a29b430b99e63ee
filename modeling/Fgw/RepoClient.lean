import Fgw.Library.Effect
import Mathlib.Data.List.Basic

/-!
The client of the script repository: codebases that are looked up, created, filled with files and
committed, against a server that may answer every call in any way.
-/

namespace Fgw

namespace Repo

/-- A codebase, as far as the client reads and sends it. -/
structure Codebase where
  version : Int64
  base : String
  deriving DecidableEq

structure Response where
  statusCode : Nat
  status : String
  body : String
  /-- What the body was decoded to; nothing is set where it was not. -/
  result : Codebase

/-- A response, or the error of the transport. -/
abbrev Answer : Type := Except String Response

structure BatchItem (β : Type) where
  path : String
  filename : String
  content : β

structure Batch (β : Type) where
  basepath : String
  items : List (BatchItem β)

inductive Body (β : Type)
  | none
  | codebase (codebase : Codebase)
  | content (content : β)

structure Request (β : Type) where
  method : String
  url : String
  contentType : Option String
  body : Body β

/-- The calls that the client makes, by what they are made for. -/
inductive Call (β : Type)
  | probe (path : String)
  | get (path : String)
  | fetch (path : String)
  | create (path : String) (codebase : Codebase)
  | upsert (path contentType : String) (content : β)
  | commit (path : String) (codebase : Codebase)

def fullRepoApiPath (path : String) : String := "/api/v1/repo" ++ path

def fullFileApiPath (path : String) : String := "/api/v1/repo-files" ++ path

section Client

variable {β : Type}

def Call.request : Call β → Request β
  | .probe path => ⟨"GET", fullRepoApiPath path, none, .none⟩
  | .get path => ⟨"GET", fullRepoApiPath path, none, .none⟩
  | .fetch path => ⟨"GET", fullFileApiPath path, none, .none⟩
  | .create path codebase =>
      ⟨"POST", fullRepoApiPath path, some "application/json", .codebase codebase⟩
  | .upsert path contentType content =>
      ⟨"POST", fullFileApiPath path, some contentType, .content content⟩
  | .commit path codebase =>
      ⟨"PATCH", fullRepoApiPath path, some "application/json", .codebase codebase⟩

abbrev Log (β : Type) : Type := List (Call β × Answer)

/-- What a server answers to a request after the ones before it. -/
abbrev Server (β : Type) : Type := List (Request β × Answer) → Request β → Answer

-- the `%q` of texts, and the server
variable (quote : String → String) (server : Server β)

def answerTo (log : Log β) (call : Call β) : Answer :=
  server (log.map fun entry => (entry.1.request, entry.2)) call.request

def send (call : Call β) : EStateM String (Log β) Answer := do
  let log ← get
  let answer := answerTo server log call
  modify fun log => log ++ [(call, answer)]
  return answer

def sendChecked (call : Call β) : EStateM String (Log β) Response := do
  let answer ← send server call
  MonadExcept.ofExcept answer

/-- What `codebaseExists` makes of an answer. -/
def existing (answer : Answer) : Bool × Option Codebase :=
  match answer with
  | .ok resp =>
      if resp.statusCode = 404 then (false, none)
      else if resp.statusCode = 200 then (true, some resp.result)
      else (false, none)
  | .error _ => (false, none)

def codebaseExists (path : String) : EStateM String (Log β) (Bool × Option Codebase) := do
  let answer ← send server (.probe path)
  return existing answer

def getCodebase (path : String) : EStateM String (Log β) Codebase := do
  let resp ← sendChecked server (.get path)
  return resp.result

def getFile (path : String) : EStateM String (Log β) String := do
  let resp ← sendChecked server (.fetch path)
  return resp.body

def isError (resp : Response) : Bool := 399 < resp.statusCode

def isSuccess (resp : Response) : Bool := 199 < resp.statusCode && resp.statusCode < 300

/-- `if bad { return fmt.Errorf(..) }` -/
def failIf (bad : Bool) (reason : String) : EStateM String (Log β) PUnit :=
  if bad then throw reason else pure ⟨⟩

def createCodebase (path : String) : EStateM String (Log β) Codebase := do
  let resp ← sendChecked server (.create path ⟨1, ""⟩)
  failIf (isError resp) ("failed to create codebase " ++ quote path ++ ", reason: " ++ resp.status)
  getCodebase server path

def deriveCodebase (path base : String) : EStateM String (Log β) Codebase := do
  let found ← codebaseExists server base
  failIf (!found.1) ("parent " ++ quote base ++ " of codebase " ++ quote path ++ " doesn't exists")
  let resp ← sendChecked server (.create path ⟨1, base⟩)
  failIf (resp.statusCode ≠ 200 && resp.statusCode ≠ 201)
    ("failed to derive codebase codebase: path: " ++ quote path ++ ", base: " ++ quote base ++
      ", reason: " ++ resp.status ++ ", " ++ resp.body)
  getCodebase server path

def contentTypeOf (path : String) : String :=
  if ".json".toList.isSuffixOf path.toList then "application/json" else "text/plain"

def upsertFile (path : String) (content : β) : EStateM String (Log β) PUnit := do
  let resp ← sendChecked server (.upsert path (contentTypeOf path) content)
  failIf (!isSuccess resp) ("repo server responsed with error HTTP code: " ++
    toString resp.statusCode ++ ", error: " ++ resp.status)

def commit (path : String) (version : Int64) : EStateM String (Log β) PUnit := do
  let resp ← sendChecked server (.commit path ⟨version + 1, ""⟩)
  failIf (!isSuccess resp) ("failed to commit codebase " ++ quote path ++ ", reason: " ++
    resp.status)

/-- The version of a codebase that exists, or else of the one that is created. -/
def versionOf (path : String) : EStateM String (Log β) Int64 := do
  let found ← codebaseExists server path
  match found with
  | (true, some codebase) => return codebase.version
  | _ =>
      let result ← createCodebase quote server path
      return result.version

def runBatch (batch : Batch β) : EStateM String (Log β) PUnit := do
  let version ← versionOf quote server batch.basepath
  forM batch.items fun item =>
    upsertFile server (batch.basepath ++ item.path ++ "/" ++ item.filename) item.content
  failIf (version = -1) (toString version ++ " is not a valid version")
  commit quote server batch.basepath version

/-- `Batch` -/
def runBatches (batches : List (Batch β)) : EStateM String (Log β) PUnit :=
  forM batches (runBatch quote server)

/-- `DeriveCodebase` -/
def derive (path base : String) : EStateM String (Log β) PUnit := do
  let found ← codebaseExists server path
  if found.1 then pure ⟨⟩
  else do
    let result ← deriveCodebase quote server path base
    commit quote server path result.version

end Client

/-! What a run may do. -/

section Safety

variable {β : Type}

def Found (answer : Answer) : Prop := ∃ resp, answer = .ok resp ∧ resp.statusCode = 200

def Missing (answer : Answer) : Prop := ∃ resp, answer = .ok resp ∧ resp.statusCode = 404

def Conclusive (answer : Answer) : Prop := Missing answer ∨ Found answer

/-- The call is a GET of the path. -/
def Call.Asks (path : String) : Call β → Prop
  | .probe other => other = path
  | .get other => other = path
  | _ => False

/-- The call creates the codebase, uploads to it or commits it. -/
def Call.Changes (path : String) : Call β → Prop
  | .create other _ => other = path
  | .commit other _ => other = path
  | .upsert file _ _ => path.toList <+: file.toList
  | _ => False

/-- A codebase is created only after its GET was answered by 404, and after any other failure of
the GET that looks for it nothing is done to it and the run fails. -/
structure Safe (failed : Prop) (log : Log β) : Prop where
  known : ∀ before path codebase answer after,
    log = before ++ (.create path codebase, answer) :: after →
      ∃ entry ∈ before, entry.1.Asks path ∧ Missing entry.2
  reported : ∀ before path answer after, log = before ++ (.probe path, answer) :: after →
    ¬ Conclusive answer → failed ∧ ∀ entry ∈ after, ¬ entry.1.Changes path

def SafeRun (program : EStateM String (Log β) PUnit) : Prop :=
  Safe (¬ Returns program []) (stateAfter program [])

/-! The calls of a run. -/

/-- The calls that are made for a codebase that is known to be there. -/
def Call.Quiet : Call β → Prop
  | .probe _ => False
  | .create _ _ => False
  | _ => True

/-- Every probe that did not find its codebase is followed by a creation of it, and nothing else is
created. -/
inductive Orderly : Log β → Prop
  | nil : Orderly []
  | found {path : String} {answer : Answer} {rest : Log β} : Found answer → Orderly rest →
      Orderly ((.probe path, answer) :: rest)
  | created {path : String} {codebase : Codebase} {answer result : Answer} {rest : Log β} :
      ¬ Found answer → Orderly rest →
      Orderly ((.probe path, answer) :: (.create path codebase, result) :: rest)
  | quiet {call : Call β} {answer : Answer} {rest : Log β} : call.Quiet → Orderly rest →
      Orderly ((call, answer) :: rest)

theorem Orderly.append {left right : Log β} (first : Orderly left) (second : Orderly right) :
    Orderly (left ++ right) := by
  induction first with
  | nil => exact second
  | found found _ ih => exact .found found ih
  | created missing _ ih => exact .created missing ih
  | quiet quiet _ ih => exact .quiet quiet ih

/-- A creation comes right after a probe of its path that did not find it. -/
theorem Orderly.before_create {log : Log β} (orderly : Orderly log) {before after : Log β}
    {path : String} {codebase : Codebase} {answer : Answer}
    (here : log = before ++ (.create path codebase, answer) :: after) :
    ∃ front probed, before = front ++ [(.probe path, probed)] ∧ ¬ Found probed := by
  induction orderly generalizing before with
  | nil => simp at here
  | found _ _ ih =>
      cases before with
      | nil => cases here
      | cons entry before =>
          rw [List.cons_append, List.cons.injEq] at here
          obtain ⟨front, probed, rfl, missing⟩ := ih here.2
          exact ⟨entry :: front, probed, rfl, missing⟩
  | created missing _ ih =>
      cases before with
      | nil => cases here
      | cons entry before =>
          rw [List.cons_append, List.cons.injEq] at here
          cases before with
          | nil =>
              cases here.2
              exact ⟨[], _, by rw [← here.1, List.nil_append], missing⟩
          | cons other before =>
              rw [List.cons_append, List.cons.injEq] at here
              obtain ⟨front, probed, rfl, missing⟩ := ih here.2.2
              exact ⟨entry :: other :: front, probed, rfl, missing⟩
  | quiet quiet _ ih =>
      cases before with
      | nil =>
          cases here
          exact quiet.elim
      | cons entry before =>
          rw [List.cons_append, List.cons.injEq] at here
          obtain ⟨front, probed, rfl, missing⟩ := ih here.2
          exact ⟨entry :: front, probed, rfl, missing⟩

theorem Orderly.after_probe {log : Log β} (orderly : Orderly log) {before after : Log β}
    {path : String} {answer : Answer} (here : log = before ++ (.probe path, answer) :: after)
    (missing : ¬ Found answer) :
    ∃ codebase result rest, after = (.create path codebase, result) :: rest := by
  induction orderly generalizing before with
  | nil => simp at here
  | found found _ ih =>
      cases before with
      | nil =>
          cases here
          exact absurd found missing
      | cons entry before =>
          rw [List.cons_append, List.cons.injEq] at here
          exact ih here.2
  | created _ _ ih =>
      cases before with
      | nil =>
          cases here
          exact ⟨_, _, _, rfl⟩
      | cons entry before =>
          rw [List.cons_append, List.cons.injEq] at here
          cases before with
          | nil => cases here.2
          | cons other before =>
              rw [List.cons_append, List.cons.injEq] at here
              exact ih here.2.2
  | quiet quiet _ ih =>
      cases before with
      | nil =>
          cases here
          exact quiet.elim
      | cons entry before =>
          rw [List.cons_append, List.cons.injEq] at here
          exact ih here.2

theorem safe_orderly_iff {failed : Prop} {log : Log β} (orderly : Orderly log) :
    Safe failed log ↔ ∀ path answer, (.probe path, answer) ∈ log → Conclusive answer := by
  constructor
  · intro safe path answer member
    by_contra failure
    obtain ⟨before, after, here⟩ := List.append_of_mem member
    obtain ⟨codebase, result, rest, rfl⟩ :=
      orderly.after_probe here fun found => failure (.inr found)
    exact (safe.reported before path answer _ here failure).2 _ List.mem_cons_self rfl
  · intro conclusive
    constructor
    · intro before path codebase answer after here
      obtain ⟨front, probed, rfl, missing⟩ := orderly.before_create here
      have member : (Call.probe path, probed) ∈ log := by simp [here]
      have absent := (conclusive path probed member).resolve_right missing
      exact ⟨(.probe path, probed), by simp, rfl, absent⟩
    · intro before path answer after here failure
      exact absurd (conclusive path answer (by simp [here])) failure

end Safety

section Runs

variable {β : Type} {quote : String → String} {server : Server β}

theorem ends_send (call : Call β) (log : Log β) (returned : Answer → Log β → Prop)
    (raised : String → Log β → Prop) :
    Ends (send server call) log returned raised ↔
      returned (answerTo server log call) (log ++ [(call, answerTo server log call)]) :=
  Iff.rfl

theorem ends_codebaseExists (path : String) (log : Log β)
    (returned : Bool × Option Codebase → Log β → Prop) (raised : String → Log β → Prop) :
    Ends (codebaseExists server path) log returned raised ↔
      returned (existing (answerTo server log (.probe path)))
        (log ++ [(.probe path, answerTo server log (.probe path))]) :=
  Iff.rfl

theorem existing_cases (answer : Answer) :
    (Found answer ∧ ∃ codebase, existing answer = (true, some codebase)) ∨
      (¬ Found answer ∧ existing answer = (false, none)) := by
  cases answer with
  | error reason =>
      refine .inr ⟨?_, rfl⟩
      rintro ⟨resp, same, _⟩
      cases same
  | ok resp =>
      by_cases found : resp.statusCode = 200
      · refine .inl ⟨⟨resp, rfl, found⟩, resp.result, ?_⟩
        simp [existing, found]
      · refine .inr ⟨?_, ?_⟩
        · rintro ⟨other, same, there⟩
          cases same
          exact found there
        · simp [existing, found]

/-- What any number of quiet calls keeps. -/
def QuietClosed (inv : Log β → Prop) : Prop :=
  ∀ log call answer, inv log → Call.Quiet call → inv (log ++ [(call, answer)])

variable {inv : Log β → Prop}

/-- A checked call ends in a state that its caller goes on from, or fails there. -/
theorem ends_sendChecked {call : Call β} {log : Log β} {returned : Response → Log β → Prop}
    {raised : String → Log β → Prop}
    (onReturn : ∀ resp answer, returned resp (log ++ [(call, answer)]))
    (onThrow : ∀ reason answer, raised reason (log ++ [(call, answer)])) :
    Ends (sendChecked server call) log returned raised := by
  rw [sendChecked, ends_bind, ends_send, ends_ofExcept]
  cases answerTo server log call with
  | ok resp => exact onReturn resp _
  | error reason => exact onThrow reason _

theorem keeps_sendChecked (closed : QuietClosed inv) {call : Call β} (quiet : call.Quiet) :
    Keeps inv (sendChecked server call) := by
  intro log holds
  exact ends_sendChecked (fun _ answer => closed log call answer holds quiet)
    fun _ answer => closed log call answer holds quiet

theorem ends_failIf (bad : Bool) (reason : String) (log : Log β) (returned : PUnit → Log β → Prop)
    (raised : String → Log β → Prop) :
    Ends (failIf bad reason) log returned raised ↔
      if bad then raised reason log else returned ⟨⟩ log := by
  cases bad <;> rfl

theorem keeps_failIf (inv : Log β → Prop) (bad : Bool) (reason : String) :
    Keeps inv (failIf bad reason) := by
  intro log holds
  rw [ends_failIf]
  split
  · exact holds
  · exact holds

theorem keeps_getCodebase (closed : QuietClosed inv) (path : String) :
    Keeps inv (getCodebase server path) :=
  (keeps_sendChecked closed (show (Call.get path).Quiet from trivial)).bind fun resp =>
    keeps_pure inv resp.result

theorem keeps_upsertFile (closed : QuietClosed inv) (path : String) (content : β) :
    Keeps inv (upsertFile server path content) :=
  (keeps_sendChecked closed (show (Call.upsert path _ content).Quiet from trivial)).bind fun _ =>
    keeps_failIf inv _ _

theorem keeps_commit (closed : QuietClosed inv) (path : String) (version : Int64) :
    Keeps inv (commit quote server path version) :=
  (keeps_sendChecked closed (show (Call.commit path _).Quiet from trivial)).bind fun _ =>
    keeps_failIf inv _ _

theorem orderly_quietClosed : QuietClosed (Orderly : Log β → Prop) := by
  intro log call answer orderly quiet
  exact orderly.append (.quiet quiet .nil)

/-- A codebase may be created where its probe did not find it. -/
theorem ends_createCodebase {log : Log β} (orderly : Orderly log) {path : String} {answer : Answer}
    (missing : ¬ Found answer) :
    Ends (createCodebase quote server path) (log ++ [(.probe path, answer)])
      (fun _ after => Orderly after) (fun _ after => Orderly after) := by
  have created (result : Answer) :
      Orderly (log ++ [(.probe path, answer)] ++ [(.create path ⟨1, ""⟩, result)]) := by
    rw [List.append_assoc]
    exact orderly.append (.created missing .nil)
  rw [createCodebase, ends_bind]
  refine ends_sendChecked (fun resp result => ?_) fun _ result => created result
  have rest : Keeps Orderly (do
      failIf (isError resp)
        ("failed to create codebase " ++ quote path ++ ", reason: " ++ resp.status)
      getCodebase server path) :=
    (keeps_failIf _ _ _).bind fun _ => keeps_getCodebase orderly_quietClosed path
  exact rest _ (created result)

theorem keeps_versionOf (path : String) : Keeps Orderly (versionOf quote server path) := by
  intro log orderly
  rw [versionOf, ends_bind, ends_codebaseExists]
  rcases existing_cases (answerTo server log (.probe path)) with
    ⟨found, codebase, read⟩ | ⟨missing, read⟩
  · rw [read]
    exact orderly.append (.found found .nil)
  · rw [read]
    dsimp only
    rw [ends_bind]
    exact (ends_createCodebase orderly missing).mono (fun _ _ kept => kept) fun _ _ kept => kept

theorem keeps_runBatch (batch : Batch β) : Keeps Orderly (runBatch quote server batch) :=
  (keeps_versionOf batch.basepath).bind fun version =>
    (keeps_forM fun item _ => keeps_upsertFile orderly_quietClosed _ item.content).bind fun _ =>
      (keeps_failIf _ _ _).bind fun _ => keeps_commit orderly_quietClosed batch.basepath version

theorem orderly_runBatches (batches : List (Batch β)) :
    Orderly (stateAfter (runBatches quote server batches) []) :=
  (keeps_iff_stateAfter _ _).mp (keeps_forM fun batch _ => keeps_runBatch batch) [] .nil

theorem safeRun_runBatches_iff (batches : List (Batch β)) :
    SafeRun (runBatches quote server batches) ↔
      ∀ path answer, (.probe path, answer) ∈ stateAfter (runBatches quote server batches) [] →
        Conclusive answer :=
  safe_orderly_iff (orderly_runBatches batches)

/-! Derived codebases. -/

/-- The log and quiet calls after it. -/
def Extends (start log : Log β) : Prop :=
  ∃ tail, log = start ++ tail ∧ ∀ entry ∈ tail, entry.1.Quiet

theorem extends_quietClosed (start : Log β) : QuietClosed (Extends start) := by
  rintro log call answer ⟨tail, rfl, all⟩ quiet
  refine ⟨tail ++ [(call, answer)], List.append_assoc _ _ _, ?_⟩
  rw [List.forall_mem_append, List.forall_mem_singleton]
  exact ⟨all, quiet⟩

/-- The answers to the two probes of `DeriveCodebase`. -/
def probedOf (server : Server β) (path : String) : Answer := answerTo server [] (.probe path)

def parentOf (server : Server β) (path base : String) : Answer :=
  answerTo server [(.probe path, probedOf server path)] (.probe base)

theorem run_codebaseExists (path : String) (log : Log β) :
    codebaseExists server path log = .ok (existing (answerTo server log (.probe path)))
      (log ++ [(.probe path, answerTo server log (.probe path))]) := rfl

theorem derive_found {path : String} (found : Found (probedOf server path)) (base : String) :
    derive quote server path base [] = .ok ⟨⟩ [(.probe path, probedOf server path)] := by
  rcases existing_cases (probedOf server path) with ⟨_, codebase, read⟩ | ⟨missing, _⟩
  · rw [derive, run_bind_ok (run_codebaseExists path [])]
    rw [probedOf] at read
    rw [read]
    rfl
  · exact absurd found missing

theorem derive_missing {path : String} (missing : ¬ Found (probedOf server path))
    (base : String) :
    derive quote server path base [] =
      (deriveCodebase quote server path base >>= fun result =>
        commit quote server path result.version) [(.probe path, probedOf server path)] := by
  rcases existing_cases (probedOf server path) with ⟨found, _⟩ | ⟨_, read⟩
  · exact absurd found missing
  · rw [derive, run_bind_ok (run_codebaseExists path [])]
    rw [probedOf] at read
    rw [read]
    rfl

theorem derive_orphan {path base : String} (missing : ¬ Found (probedOf server path))
    (orphan : ¬ Found (parentOf server path base)) :
    ∃ reason, derive quote server path base [] = .error reason
      [(.probe path, probedOf server path), (.probe base, parentOf server path base)] := by
  rcases existing_cases (parentOf server path base) with ⟨found, _⟩ | ⟨_, read⟩
  · exact absurd found orphan
  · refine ⟨"parent " ++ quote base ++ " of codebase " ++ quote path ++ " doesn't exists", ?_⟩
    rw [derive_missing missing]
    refine run_bind_error ?_ _
    rw [deriveCodebase, run_bind_ok (run_codebaseExists base _)]
    rw [parentOf] at read
    rw [read]
    rfl

/-- The creation was tried, and only quiet calls followed. -/
def Tried (server : Server β) (path base : String) (log : Log β) : Prop :=
  ∃ result, Extends [(.probe path, probedOf server path),
    (.probe base, parentOf server path base), (.create path ⟨1, base⟩, result)] log

theorem tried_quietClosed (path base : String) : QuietClosed (Tried server path base) := by
  rintro log call answer ⟨result, extends_⟩ quiet
  exact ⟨result, extends_quietClosed _ log call answer extends_ quiet⟩

theorem derive_created {path base : String} (missing : ¬ Found (probedOf server path))
    (parent : Found (parentOf server path base)) :
    Tried server path base (stateAfter (derive quote server path base) []) := by
  rcases existing_cases (parentOf server path base) with ⟨_, codebase, read⟩ | ⟨orphan, _⟩
  · have closed : QuietClosed (Tried server path base) := tried_quietClosed path base
    have created (result : Answer) : Tried server path base
        ([(.probe path, probedOf server path)] ++ [(.probe base, parentOf server path base)] ++
          [(.create path ⟨1, base⟩, result)]) :=
      ⟨result, [], rfl, fun entry member => absurd member List.not_mem_nil⟩
    have derived : Ends (deriveCodebase quote server path base)
        [(.probe path, probedOf server path)] (fun _ => Tried server path base)
        (fun _ => Tried server path base) := by
      rw [deriveCodebase, ends_bind, ends_codebaseExists]
      rw [parentOf] at read created
      rw [read, ends_bind, ends_failIf, Bool.not_true, if_neg Bool.false_ne_true, ends_bind]
      refine ends_sendChecked (fun resp result => ?_) fun _ result => created result
      exact ((keeps_failIf _ _ _).bind fun _ => keeps_getCodebase closed path) _ (created result)
    refine (ends_iff_stateAfter _ _ _).mp ?_
    rw [Ends, derive_missing missing, ← Ends, ends_bind]
    exact derived.mono (fun result => keeps_commit closed path result.version) fun _ _ kept => kept
  · exact absurd parent orphan

theorem safe_of_unchanged {failed : Prop} {log : Log β}
    (unchanged : ∀ entry ∈ log, ∀ path, ¬ entry.1.Changes path)
    (reported : failed ∨ ∀ path answer, (.probe path, answer) ∈ log → Conclusive answer) :
    Safe failed log := by
  constructor
  · intro before path codebase answer after here
    exact absurd rfl (unchanged (.create path codebase, answer) (by simp [here]) path)
  · intro before path answer after here failure
    refine ⟨reported.resolve_right fun all => failure (all path answer (by simp [here])), ?_⟩
    intro entry member
    exact unchanged entry (by simp [here, member]) path

/-- Besides quiet calls there are the two probes and the creation. -/
theorem loud_of_mem {path base : String} {result : Answer} {tail : Log β}
    (quiet : ∀ entry ∈ tail, entry.1.Quiet) {call : Call β} {answer : Answer}
    (loud : ¬ call.Quiet) (member : (call, answer) ∈ [(.probe path, probedOf server path),
      (.probe base, parentOf server path base), (.create path ⟨1, base⟩, result)] ++ tail) :
    (call, answer) = (.probe path, probedOf server path) ∨
      (call, answer) = (.probe base, parentOf server path base) ∨
      (call, answer) = (.create path ⟨1, base⟩, result) := by
  rcases List.mem_append.mp member with first | later
  · simpa using first
  · exact absurd (quiet _ later) loud

theorem safe_tried_iff {failed : Prop} {path base : String} {log : Log β}
    (missing : ¬ Found (probedOf server path)) (parent : Found (parentOf server path base))
    (tried : Tried server path base log) :
    Safe failed log ↔ Conclusive (probedOf server path) := by
  obtain ⟨result, tail, rfl, quiet⟩ := tried
  constructor
  · intro safe
    by_contra failure
    exact (safe.reported [] path _ _ rfl failure).2 (.create path ⟨1, base⟩, result) (by simp) rfl
  · intro conclusive
    constructor
    · intro before other codebase answer after here
      have member : (Call.create other codebase, answer) ∈ [(.probe path, probedOf server path),
          (.probe base, parentOf server path base), (.create path ⟨1, base⟩, result)] ++ tail := by
        rw [here]
        simp
      rcases loud_of_mem quiet id member with same | same | same
      · cases same
      · cases same
      · cases same
        cases before with
        | nil => cases here
        | cons entry before =>
            have first : (.probe path, probedOf server path) = entry := by
              simpa using congrArg List.head? here
            subst first
            exact ⟨_, List.mem_cons_self, rfl, conclusive.resolve_right missing⟩
    · intro before other answer after here failure
      have member : (Call.probe other, answer) ∈ [(.probe path, probedOf server path),
          (.probe base, parentOf server path base), (.create path ⟨1, base⟩, result)] ++ tail := by
        rw [here]
        simp
      rcases loud_of_mem quiet id member with same | same | same
      · cases same
        exact absurd conclusive failure
      · cases same
        exact absurd (.inr parent) failure
      · cases same

theorem safeRun_derive_iff (path base : String) :
    SafeRun (derive quote server path base) ↔
      Conclusive (probedOf server path) ∨ ¬ Found (parentOf server path base) := by
  by_cases found : Found (probedOf server path)
  · refine iff_of_true ?_ (.inl (.inr found))
    rw [SafeRun, stateAfter, derive_found found]
    refine safe_of_unchanged (by simp [Call.Changes]) (.inr ?_)
    intro other answer member
    cases List.mem_singleton.mp member
    exact .inr found
  · by_cases parent : Found (parentOf server path base)
    · rw [or_iff_left (not_not.mpr parent)]
      exact safe_tried_iff found parent (derive_created found parent)
    · have orphaned : ∃ reason, derive quote server path base [] = .error reason
          [(.probe path, probedOf server path), (.probe base, parentOf server path base)] :=
        derive_orphan found parent
      obtain ⟨reason, ran⟩ := orphaned
      refine iff_of_true ?_ (.inr parent)
      rw [SafeRun, stateAfter, ran]
      refine safe_of_unchanged (by simp [Call.Changes]) (.inl ?_)
      rw [Returns, Ends, ran]
      exact id

/-- A codebase is created only where it is known to be absent exactly if its probes were answered
conclusively, or the parent to derive it from was not found. -/
theorem safeRuns_iff (quote : String → String) (server : Server β) (batches : List (Batch β))
    (path base : String) :
    (SafeRun (runBatches quote server batches) ↔
      ∀ probed answer, (.probe probed, answer) ∈ stateAfter (runBatches quote server batches) [] →
        Conclusive answer) ∧
    (SafeRun (derive quote server path base) ↔
      Conclusive (probedOf server path) ∨ ¬ Found (parentOf server path base)) :=
  ⟨safeRun_runBatches_iff batches, safeRun_derive_iff path base⟩

end Runs

def brokenServer : Server String := fun _ _ =>
  .ok ⟨500, "500 Internal Server Error", "", ⟨0, ""⟩⟩

/-- A server that fails makes the client create the codebase. -/
theorem serverError_creates :
    ¬ ∀ (quote : String → String) (server : Server String) (batches : List (Batch String))
      (path base : String),
      SafeRun (runBatches quote server batches) ∧ SafeRun (derive quote server path base) := by
  intro claimed
  obtain ⟨entry, member, _, resp, same, absent⟩ :=
    (claimed id brokenServer [⟨"/base/gateway", []⟩] "" "").1.known
      [(.probe "/base/gateway", brokenServer [] (Call.probe "/base/gateway").request)]
      "/base/gateway" ⟨1, ""⟩ _ [] rfl
  rw [List.mem_singleton.mp member] at same
  cases same
  cases absent

end Repo

end Fgw
