import Fgw.SessionCore

/-!
Two instances on one request: the one of the rule restores first and preserves last, and the
one of the backend restores and preserves in between, once for each attempt.  Both write
`$sessionKey`, which is one variable unless the timeouts of the rule fork the pipeline.
-/

namespace Fgw

inductive Level
  | rule
  | backend
  deriving DecidableEq, Repr

/-- The calls that the pipelines of one request make. -/
inductive SessionCall
  | restore (level : Level) (head : SessionHead)
  | preserve (level : Level) (head : SessionHead) (session : Value)

def SessionCall.level : SessionCall → Level
  | restore level _ => level
  | preserve level _ _ => level

/-- `$sessionKey` as the pipeline of each level sees it, and the entries that each instance
has stored. -/
structure SharedKey where
  sessionKey : Level → Option Text
  stored : Level → List (Option Text × Value)

def unsetKey : SharedKey := ⟨fun _ => none, fun _ => []⟩

/-- The branches of a fork have variables of their own. -/
def SharedKey.setKey (state : SharedKey) (forked : Bool) (level : Level) (key : Option Text) :
    SharedKey :=
  { state with
    sessionKey := if forked then Function.update state.sessionKey level key else fun _ => key }

def SharedKey.store (state : SharedKey) (level : Level) (key : Option Text) (session : Value) :
    SharedKey :=
  { state with
    stored := Function.update state.stored level (state.stored level ++ [(key, session)]) }

def sessionCall (configs : Level → SessionConfig) (forked : Bool) (state : SharedKey)
    (call : SessionCall) : SharedKey :=
  match call with
  | .restore level head => state.setKey forked level ((configs level).reqKey head)
  | .preserve level head session =>
      let key := preservedKey (configs level) (state.sessionKey level) head
      (state.setKey forked level key).store level key session

/-- One attempt at the backend: the request as it arrives there, and the response with the
target's address, unless no target is found. -/
structure Attempt where
  request : SessionHead
  response : Option (SessionHead × Value)

def Attempt.calls (attempt : Attempt) : List SessionCall :=
  .restore .backend attempt.request ::
    (attempt.response.map fun response =>
      SessionCall.preserve .backend response.1 response.2).toList

/-- A request through both levels.  Filters may stand between them, so each sees heads of its
own; the last attempt is the one that is answered.  It is `forked` if the rule has timeouts. -/
structure TwoLevelRequest where
  forked : Bool
  request : SessionHead
  retried : List Attempt
  last : Attempt
  response : SessionHead
  session : Value

def TwoLevelRequest.calls (r : TwoLevelRequest) : List SessionCall :=
  .restore .rule r.request :: ((r.retried ++ [r.last]).flatMap Attempt.calls ++
    [.preserve .rule r.response r.session])

/-- What the instance of a level stores, given the calls that are made. -/
def storedBy (configs : Level → SessionConfig) (forked : Bool) (level : Level)
    (calls : List SessionCall) : List (Option Text × Value) :=
  (calls.foldl (sessionCall configs forked) unsetKey).stored level

section Shared

variable (configs : Level → SessionConfig) (forked : Bool)

/-- The key of the backend's instance after an attempt. -/
def Attempt.keyAfter (attempt : Attempt) : Option Text :=
  match attempt.response with
  | some response =>
      preservedKey (configs .backend) ((configs .backend).reqKey attempt.request) response.1
  | none => (configs .backend).reqKey attempt.request

def Attempt.entries (attempt : Attempt) : List (Option Text × Value) :=
  (attempt.response.map fun response => (attempt.keyAfter configs, response.2)).toList

theorem SharedKey.setKey_same (state : SharedKey) (level : Level) (key : Option Text) :
    (state.setKey forked level key).sessionKey level = key := by
  cases forked <;> simp [SharedKey.setKey]

theorem SharedKey.setKey_setKey (state : SharedKey) (level : Level) (first second : Option Text) :
    (state.setKey forked level first).setKey forked level second =
      state.setKey forked level second := by
  cases forked <;> simp [SharedKey.setKey]

/-- An attempt writes entries of the backend's instance only, under its own key. -/
theorem foldl_attempt (attempt : Attempt) (state : SharedKey) :
    attempt.calls.foldl (sessionCall configs forked) state =
      { state.setKey forked .backend (attempt.keyAfter configs) with
        stored := Function.update state.stored .backend
          (state.stored .backend ++ attempt.entries configs) } := by
  unfold Attempt.calls Attempt.entries Attempt.keyAfter
  cases attempt.response with
  | none => simp [sessionCall, SharedKey.setKey]
  | some response =>
      simp only [Option.map_some, Option.toList_some, List.foldl_cons, List.foldl_nil, sessionCall,
        SharedKey.setKey_same, SharedKey.setKey_setKey]
      rfl

theorem foldl_attempts (attempts : List Attempt) (state : SharedKey) :
    ((attempts.flatMap Attempt.calls).foldl (sessionCall configs forked) state).stored =
      Function.update state.stored .backend
        (state.stored .backend ++ attempts.flatMap (Attempt.entries configs)) := by
  induction attempts generalizing state with
  | nil => simp
  | cons attempt rest ih =>
      rw [List.flatMap_cons, List.foldl_append, ih, foldl_attempt]
      simp

theorem foldl_attempts_key (attempts : List Attempt) (last : Attempt) (state : SharedKey) :
    (((attempts ++ [last]).flatMap Attempt.calls).foldl (sessionCall configs forked)
        state).sessionKey .rule =
      if forked then state.sessionKey .rule else last.keyAfter configs := by
  cases forked with
  | false =>
      rw [List.flatMap_append, List.foldl_append, List.flatMap_singleton, foldl_attempt]
      rfl
  | true =>
      rw [if_pos rfl]
      induction attempts ++ [last] generalizing state with
      | nil => rfl
      | cons attempt rest ih =>
          rw [List.flatMap_cons, List.foldl_append, ih, foldl_attempt]
          simp [SharedKey.setKey]

theorem filter_attempts (attempts : List Attempt) (level : Level) :
    (attempts.flatMap Attempt.calls).filter (fun call => call.level = level) =
      if level = .backend then attempts.flatMap Attempt.calls else [] := by
  have all : ∀ call ∈ attempts.flatMap Attempt.calls, call.level = .backend := by
    intro call member
    obtain ⟨attempt, _, inside⟩ := List.mem_flatMap.mp member
    unfold Attempt.calls at inside
    cases answered : attempt.response with
    | none =>
        simp only [answered, Option.map_none, Option.toList_none, List.mem_singleton] at inside
        rw [inside]
        rfl
    | some response =>
        simp only [answered, Option.map_some, Option.toList_some, List.mem_cons,
          List.not_mem_nil, or_false] at inside
        rcases inside with rfl | rfl <;> rfl
  by_cases backend : level = .backend
  · rw [if_pos backend, List.filter_eq_self]
    exact fun call member => decide_eq_true (backend ▸ all call member)
  · rw [if_neg backend, List.filter_eq_nil_iff]
    exact fun call member => by simpa [all call member] using Ne.symm backend

theorem storedBy_backend (r : TwoLevelRequest) :
    storedBy configs r.forked .backend r.calls =
      storedBy configs r.forked .backend (r.calls.filter fun call => call.level = .backend) := by
  have own : r.calls.filter (fun call => call.level = .backend) =
      (r.retried ++ [r.last]).flatMap Attempt.calls := by
    rw [TwoLevelRequest.calls, List.filter_cons_of_neg (by simp [SessionCall.level]),
      List.filter_append, filter_attempts, if_pos rfl, List.filter_cons_of_neg
        (by simp [SessionCall.level]), List.filter_nil, List.append_nil]
  rw [own]
  unfold storedBy TwoLevelRequest.calls
  simp only [List.foldl_cons, List.foldl_append, List.foldl_nil, sessionCall, foldl_attempts,
    unsetKey, SharedKey.store, SharedKey.setKey]
  simp

theorem storedBy_rule (r : TwoLevelRequest) :
    storedBy configs r.forked .rule r.calls =
        [(preservedKey (configs .rule) (if r.forked then (configs .rule).reqKey r.request
          else r.last.keyAfter configs) r.response, r.session)] ∧
      storedBy configs r.forked .rule (r.calls.filter fun call => call.level = .rule) =
        [(preservedKey (configs .rule) ((configs .rule).reqKey r.request) r.response,
          r.session)] := by
  constructor
  · unfold storedBy TwoLevelRequest.calls
    rw [List.foldl_cons, List.foldl_append]
    simp only [List.foldl_cons, List.foldl_nil, sessionCall, foldl_attempts_key, foldl_attempts,
      SharedKey.store, unsetKey, SharedKey.setKey]
    cases r.forked <;> simp
  · rw [TwoLevelRequest.calls, List.filter_cons_of_pos (by simp [SessionCall.level]),
      List.filter_append, filter_attempts, if_neg (by simp)]
    simp [storedBy, SessionCall.level, sessionCall, unsetKey, SharedKey.store,
      SharedKey.setKey_same]
    rfl

/-- Each instance stores what it stores alone exactly if the rule has timeouts, the response
names a key of the rule's instance, or the key last written by the backend's instance is the
rule's own. -/
theorem twoLevels_apart_iff (r : TwoLevelRequest) :
    (∀ level, storedBy configs r.forked level r.calls =
        storedBy configs r.forked level (r.calls.filter fun call => call.level = level)) ↔
      r.forked = true ∨ usable ((configs .rule).resKey r.response) ≠ none ∨
        r.last.keyAfter configs = (configs .rule).reqKey r.request := by
  obtain ⟨shared, alone⟩ := storedBy_rule configs r
  have rule : storedBy configs r.forked .rule r.calls =
      storedBy configs r.forked .rule (r.calls.filter fun call => call.level = .rule) ↔
        r.forked = true ∨ usable ((configs .rule).resKey r.response) ≠ none ∨
          r.last.keyAfter configs = (configs .rule).reqKey r.request := by
    rw [shared, alone]
    simp only [List.cons.injEq, Prod.mk.injEq, and_true, preservedKey]
    cases r.forked <;> cases usable ((configs .rule).resKey r.response) <;> simp
  constructor
  · exact fun all => rule.mp (all .rule)
  · intro apart level
    cases level with
    | rule => exact rule.mpr apart
    | backend => exact storedBy_backend configs r

end Shared

/-! Two cookies and a response that sets one of them. -/

def cookieSession (name : String) : SessionConfig := ⟨none, utf16 name⟩

def twoSessions : Level → SessionConfig
  | .rule => cookieSession "route"
  | .backend => cookieSession "node"

def cookieHead (cookies : String) : SessionHead :=
  ⟨fun name => if name = utf16 "cookie" then some (utf16 cookies) else none, none⟩

/-- A client with both cookies, and a response without any. -/
def bothCookies : TwoLevelRequest where
  forked := false
  request := cookieHead "route=r;node=n"
  retried := []
  last := ⟨cookieHead "route=r;node=n", some (⟨fun _ => none, none⟩, .str "10.0.0.1")⟩
  response := ⟨fun _ => none, none⟩
  session := .str "b"

/-- The rule's instance stores its entry under the key of the backend's instance. -/
theorem bothCookies_mixed :
    ¬ ∀ (configs : Level → SessionConfig) (r : TwoLevelRequest),
      (configs .rule).sessionName ≠ (configs .backend).sessionName →
        ∀ level, storedBy configs r.forked level r.calls =
          storedBy configs r.forked level (r.calls.filter fun call => call.level = level) := by
  intro claimed
  have same := claimed twoSessions bothCookies (by decide +kernel) .rule
  rw [(storedBy_rule twoSessions bothCookies).1, (storedBy_rule twoSessions bothCookies).2,
    List.cons.injEq, Prod.mk.injEq] at same
  exact absurd same.1.1 (by decide +kernel)

end Fgw
