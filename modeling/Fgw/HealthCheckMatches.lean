import Fgw.HealthCheckSet
import Mathlib.Data.List.Infix

/-!
What the match entries of a health check demand of a response, and what the two checkers make of
them: one looks at the first criterion of each entry, the other turns all of them into rules.
-/

namespace Fgw

/-! The rules of the pjs checker. -/

/-- What `match` gathers from an entry.  A rule answers 1 for `true`, or its own negative code. -/
inductive PjsRule
  | statusCodes (codes : Value)
  | body (text : Value)
  | header (name : String) (value : Value)
  | noCriteria

/-- `text.includes(part)` -/
def textIncludes (text part : String) : Bool := decide (part.toList <:+: text.toList)

def PjsRule.run (engine : HealthEngine) (res : HealthResponse) : PjsRule → Except Thrown Int
  | .statusCodes (.arr codes) =>
      .ok (if codes.any fun code => code.strictEq res.status then 1 else -1)
  | .statusCodes (.str codes) => .ok (if textIncludes codes res.status.toKey then 1 else -1)
  | .statusCodes _ => .error (.typeError "includes is not a function")
  | .body text =>
      match res.body with
      | .str received => .ok (if textIncludes received text.toKey then 1 else -2)
      | _ => .ok (-2)
  | .header name value =>
      .ok (if Value.looseEq engine.modules.toNumber (headerValue res (engine.lowerCase name)) value
        then 1 else -3)
  | .noCriteria => .ok (-100)

/-- The rules of one entry, before they are made flat. -/
def pjsEntryRules (m : Value) : List (List PjsRule) :=
  (if (m.opt "StatusCodes").truthy then [[.statusCodes (m.opt "StatusCodes")]] else []) ++
    (if (m.opt "Body").truthy then [[.body (m.opt "Body")]] else []) ++
      (if (m.opt "Headers").truthy then
        [(entriesOf (m.opt "Headers")).map fun header => .header header.1 header.2]
      else [])

def pjsRules (m : Value) : List PjsRule :=
  if (pjsEntryRules m).length = 0 then [.noCriteria] else (pjsEntryRules m).flatten

/-- `match_rules.every(m => (err = m(msg)) > 0) || err` -/
def everyRule (engine : HealthEngine) (res : HealthResponse) : List PjsRule → Except Thrown Int
  | [] => .ok 1
  | rule :: rest => do
      let err ← rule.run engine res
      if 0 < err then everyRule engine res rest else return err

/-- `matches` of a service, which by default asks for the status 200. -/
def pjsMatches (healthCheck : Value) : Value :=
  (healthCheck.opt "Matches").or (.arr [.obj [("StatusCodes", .arr [.num "200"])]])

def pjsMatch (engine : HealthEngine) (healthCheck : Value) (res : HealthResponse) :
    Except Thrown Int := do
  let entries ← (pjsMatches healthCheck).items "map"
  everyRule engine res (entries.flatMap pjsRules)

/-- The call of `check` and the reason that it leaves with the target. -/
inductive PjsCheck
  | ok
  | fail (reason : String)

def checkReason (code : Int) : String :=
  if code = -1 then "Bad-StatusCode"
  else if code = -2 then "Bad-Body"
  else if code = -3 then "Bad-Header"
  else "Bad-Matches"

def pjsCheck (engine : HealthEngine) (healthCheck : Value) (res : HealthResponse) :
    Except Thrown PjsCheck := do
  let code ← pjsMatch engine healthCheck res
  return if 0 < code then .ok else .fail (checkReason code)

/-! Criteria. -/

/-- The criteria of one entry.  A body that is not truthy is none. -/
structure HealthCriteria where
  statusCodes : Option (List Value)
  body : Value
  headers : Option (List (String × Value))

namespace HealthCriteria

def codesValue (criteria : HealthCriteria) : Value := (criteria.statusCodes.map .arr).getD .undefined

def headersValue (criteria : HealthCriteria) : Value := (criteria.headers.map .obj).getD .undefined

def entry (criteria : HealthCriteria) : Value :=
  .obj [("statusCodes", criteria.codesValue), ("body", criteria.body),
    ("headers", criteria.headersValue)]

/-- As a service of the pjs gateway has them. -/
def pjsEntry (criteria : HealthCriteria) : Value :=
  .obj [("StatusCodes", criteria.codesValue), ("Body", criteria.body),
    ("Headers", criteria.headersValue)]

variable {criteria : HealthCriteria}

theorem codesValue_some {codes : List Value} (given : criteria.statusCodes = some codes) :
    criteria.codesValue = .arr codes := by
  rw [codesValue, given]
  rfl

theorem headersValue_some {headers : List (String × Value)}
    (given : criteria.headers = some headers) : criteria.headersValue = .obj headers := by
  rw [headersValue, given]
  rfl

theorem truthy_codesValue (criteria : HealthCriteria) :
    criteria.codesValue.truthy = criteria.statusCodes.isSome := by
  rw [codesValue]
  cases criteria.statusCodes <;> rfl

theorem truthy_headersValue (criteria : HealthCriteria) :
    criteria.headersValue.truthy = criteria.headers.isSome := by
  rw [headersValue]
  cases criteria.headers <;> rfl

end HealthCriteria

structure CriterionSense where
  status : Value → Value → Bool
  body : Value → Value → Bool
  header : Value → Value → Bool

def policySense (engine : HealthEngine) : CriterionSense where
  status code status := Value.looseEq engine.modules.toNumber code status
  body body wanted := body.strictEq wanted
  header value wanted := value.strictEq wanted

def pjsSense (engine : HealthEngine) : CriterionSense where
  status code status := code.strictEq status
  body body wanted :=
    match body with
    | .str text => textIncludes text wanted.toKey
    | _ => false
  header value wanted := Value.looseEq engine.modules.toNumber value wanted

/-- The value of a header whose name is written in any case. -/
def headerAnyCase (engine : HealthEngine) (res : HealthResponse) (name : String) : Value :=
  ((res.headers.find? fun header => engine.lowerCase header.1 = engine.lowerCase name).map
    fun header => Value.str header.2).getD .undefined

section Criteria

variable (engine : HealthEngine) (sense : CriterionSense) (res : HealthResponse)
  (criteria : HealthCriteria)

def CodesHold : Prop :=
  ∀ codes, criteria.statusCodes = some codes → ∃ code ∈ codes, sense.status code res.status = true

def BodyHolds : Prop :=
  criteria.body.truthy = true → sense.body res.body criteria.body = true

def HeadersHold : Prop :=
  ∀ headers, criteria.headers = some headers → ∀ header ∈ headers,
    sense.header (headerAnyCase engine res header.1) header.2 = true

def CriteriaHold : Prop :=
  CodesHold sense res criteria ∧ BodyHolds sense res criteria ∧
    HeadersHold engine sense res criteria

/-- The first criterion that is there holds, in the order of codes, body and headers. -/
def FirstHolds : Prop :=
  if criteria.statusCodes.isSome then CodesHold sense res criteria
  else if criteria.body.truthy then BodyHolds sense res criteria
  else HeadersHold engine sense res criteria

def HasCriterion : Prop :=
  criteria.statusCodes.isSome = true ∨ criteria.body.truthy = true ∨
    criteria.headers.isSome = true

end Criteria

section Policy

variable {engine : HealthEngine} {res : HealthResponse}

theorem headerValue_lowerCase (lowered : ∀ header ∈ res.headers, engine.lowerCase header.1 = header.1)
    (name : String) :
    headerValue res (engine.lowerCase name) = headerAnyCase engine res name := by
  rw [headerValue, headerAnyCase]
  generalize res.headers = headers at lowered
  induction headers with
  | nil => rfl
  | cons header rest ih =>
      have later := ih fun other member => lowered other (List.mem_cons_of_mem header member)
      by_cases same : engine.lowerCase name = header.1
      · rw [List.lookup_cons, List.find?_cons_of_pos]
        · simp [same]
        · simp [lowered header List.mem_cons_self, same]
      · rw [List.lookup_cons, List.find?_cons_of_neg]
        · rw [beq_eq_false_iff_ne.mpr same]
          exact later
        · simp [lowered header List.mem_cons_self, Ne.symm same]

theorem headersHold_iff
    (lowered : ∀ header ∈ res.headers, engine.lowerCase header.1 = header.1)
    (sense : CriterionSense) (criteria : HealthCriteria) :
    HeadersHold engine sense res criteria ↔ ∀ headers, criteria.headers = some headers →
      ∀ header ∈ headers,
        sense.header (headerValue res (engine.lowerCase header.1)) header.2 = true := by
  unfold HeadersHold
  simp only [headerValue_lowerCase lowered]

/-- The newer checker looks at the first criterion of an entry. -/
theorem matchResponse_iff
    (lowered : ∀ header ∈ res.headers, engine.lowerCase header.1 = header.1)
    (criteria : HealthCriteria) :
    ∃ passed, matchResponse engine res criteria.entry = .ok passed ∧
      (passed = true ↔ FirstHolds engine (policySense engine) res criteria) := by
  have codesField : criteria.entry.opt "statusCodes" = criteria.codesValue := rfl
  have bodyField : criteria.entry.opt "body" = criteria.body := rfl
  have headersField : criteria.entry.opt "headers" = criteria.headersValue := rfl
  unfold matchResponse FirstHolds
  rw [codesField, bodyField, headersField, HealthCriteria.truthy_codesValue,
    HealthCriteria.truthy_headersValue]
  by_cases codes : criteria.statusCodes.isSome = true
  · rw [if_pos codes, if_pos codes]
    obtain ⟨list, given⟩ := Option.isSome_iff_exists.mp codes
    rw [HealthCriteria.codesValue_some given]
    refine ⟨_, rfl, ?_⟩
    rw [List.any_eq_true]
    simp [CodesHold, given, policySense]
  · rw [if_neg codes, if_neg codes]
    by_cases body : criteria.body.truthy = true
    · rw [if_pos body, if_pos body]
      exact ⟨_, rfl, by simp [BodyHolds, body, policySense]⟩
    · rw [if_neg body, if_neg body, headersHold_iff lowered]
      by_cases headers : criteria.headers.isSome = true
      · rw [if_pos headers]
        obtain ⟨list, given⟩ := Option.isSome_iff_exists.mp headers
        rw [HealthCriteria.headersValue_some given]
        refine ⟨_, rfl, ?_⟩
        rw [List.all_eq_true]
        simp [given, policySense, entriesOf]
      · rw [if_neg headers]
        have missing := Option.not_isSome_iff_eq_none.mp headers
        exact ⟨_, rfl, by simp [missing]⟩

theorem andStop_iff {α : Type} {each : Value → Except Thrown Bool} {make : α → Value}
    {meets : α → Prop} (items : List α)
    (agree : ∀ item, ∃ passed, each (make item) = .ok passed ∧ (passed = true ↔ meets item)) :
    ∃ passed, andStop each (items.map make) = .ok passed ∧
      (passed = true ↔ ∀ item ∈ items, meets item) := by
  induction items with
  | nil => exact ⟨true, rfl, by simp⟩
  | cons item rest ih =>
      obtain ⟨first, same, now⟩ := agree item
      rw [List.map_cons, andStop, same]
      cases first with
      | true =>
          obtain ⟨passed, later, all⟩ := ih
          refine ⟨passed, later, all.trans ?_⟩
          rw [List.forall_mem_cons]
          exact ⟨fun rest => ⟨now.mp rfl, rest⟩, fun both => both.2⟩
      | false =>
          refine ⟨false, rfl, fun no => (nomatch no), fun all => ?_⟩
          exact now.mpr (all item List.mem_cons_self)

theorem responsePasses_iff
    (lowered : ∀ header ∈ res.headers, engine.lowerCase header.1 = header.1)
    {healthCheck : Value} {entries : List HealthCriteria}
    (configured : healthCheck.opt "matches" = .arr (entries.map HealthCriteria.entry)) :
    responsePasses engine healthCheck res = .ok true ↔
      ∀ criteria ∈ entries, FirstHolds engine (policySense engine) res criteria := by
  obtain ⟨passed, answered, all⟩ := andStop_iff entries (matchResponse_iff lowered)
  have value : responsePasses engine healthCheck res = .ok passed := by
    rw [responsePasses, configured]
    exact answered
  rw [value, ← all, Except.ok.injEq]

end Policy

section Pjs

variable {engine : HealthEngine} {res : HealthResponse} {pjsHealthCheck : Value}

def PjsRule.holds (engine : HealthEngine) (res : HealthResponse) (rule : PjsRule) : Prop :=
  ∃ code, rule.run engine res = .ok code ∧ 0 < code

theorem everyRule_iff (rules : List PjsRule) :
    (∃ code, everyRule engine res rules = .ok code ∧ 0 < code) ↔
      ∀ rule ∈ rules, rule.holds engine res := by
  induction rules with
  | nil => exact ⟨fun _ rule member => (nomatch member), fun _ => ⟨1, rfl, by decide⟩⟩
  | cons rule rest ih =>
      rw [List.forall_mem_cons, everyRule, PjsRule.holds]
      cases answer : rule.run engine res with
      | error thrown =>
          constructor
          · rintro ⟨code, same, _⟩
            cases same
          · rintro ⟨⟨code, same, _⟩, _⟩
            cases same
      | ok code =>
          by_cases positive : 0 < code
          · have goes : (do
                let err ← Except.ok code
                if 0 < err then everyRule engine res rest else return err : Except Thrown Int) =
                  everyRule engine res rest := if_pos positive
            rw [goes, ih]
            exact ⟨fun later => ⟨⟨code, rfl, positive⟩, later⟩, fun both => both.2⟩
          · have stops : (do
                let err ← Except.ok code
                if 0 < err then everyRule engine res rest else return err : Except Thrown Int) =
                  .ok code := if_neg positive
            rw [stops]
            constructor
            · rintro ⟨other, same, now⟩
              cases same
              exact absurd now positive
            · rintro ⟨⟨other, same, now⟩, _⟩
              cases same
              exact absurd now positive

theorem PjsRule.holds_iff {rule : PjsRule} {passes : Bool} {code : Int} (negative : code < 0)
    (answers : rule.run engine res = .ok (if passes then 1 else code)) :
    rule.holds engine res ↔ passes = true := by
  rw [PjsRule.holds, answers]
  cases passes with
  | true => exact ⟨fun _ => rfl, fun _ => ⟨1, rfl, by decide⟩⟩
  | false =>
      constructor
      · rintro ⟨other, same, positive⟩
        cases same
        exact absurd positive (by simp; omega)
      · intro no
        cases no

theorem codesRule_holds (codes : List Value) :
    (PjsRule.statusCodes (.arr codes)).holds engine res ↔
      ∃ code ∈ codes, (pjsSense engine).status code res.status = true := by
  rw [PjsRule.holds_iff (show (-1 : Int) < 0 by decide) rfl, List.any_eq_true]
  rfl

theorem bodyRule_holds (text : Value) :
    (PjsRule.body text).holds engine res ↔ (pjsSense engine).body res.body text = true := by
  rw [@PjsRule.holds_iff _ _ (.body text) ((pjsSense engine).body res.body text) (-2) (by decide)]
  unfold PjsRule.run pjsSense
  cases res.body <;> rfl

theorem headerRule_holds
    (lowered : ∀ header ∈ res.headers, engine.lowerCase header.1 = header.1)
    (name : String) (value : Value) :
    (PjsRule.header name value).holds engine res ↔
      (pjsSense engine).header (headerAnyCase engine res name) value = true := by
  rw [PjsRule.holds_iff (show (-3 : Int) < 0 by decide) rfl, headerValue_lowerCase lowered]
  rfl

theorem not_noCriteria_holds : ¬ PjsRule.noCriteria.holds engine res := by
  rintro ⟨code, same, positive⟩
  cases same
  exact absurd positive (by decide)

theorem optionalRules_hold_iff {present meets : Prop} [Decidable present] {rules : List PjsRule}
    (same : present → ((∀ rule ∈ rules, rule.holds engine res) ↔ meets))
    (absent : ¬ present → meets) :
    (∀ rule ∈ (if present then [rules] else []).flatten, rule.holds engine res) ↔ meets := by
  by_cases there : present
  · rw [if_pos there, List.flatten_singleton]
    exact same there
  · rw [if_neg there]
    exact ⟨fun _ => absent there, fun _ rule member => (nomatch member)⟩

theorem pjsEntryRules_hold_iff
    (lowered : ∀ header ∈ res.headers, engine.lowerCase header.1 = header.1)
    (criteria : HealthCriteria) :
    (∀ rule ∈ (pjsEntryRules criteria.pjsEntry).flatten, rule.holds engine res) ↔
      CriteriaHold engine (pjsSense engine) res criteria := by
  have codesField : criteria.pjsEntry.opt "StatusCodes" = criteria.codesValue := rfl
  have bodyField : criteria.pjsEntry.opt "Body" = criteria.body := rfl
  have headersField : criteria.pjsEntry.opt "Headers" = criteria.headersValue := rfl
  rw [pjsEntryRules, codesField, bodyField, headersField, List.flatten_append, List.flatten_append,
    List.forall_mem_append, List.forall_mem_append, and_assoc, CriteriaHold]
  refine and_congr ?_ (and_congr ?_ ?_)
  · apply optionalRules_hold_iff
    · rw [HealthCriteria.truthy_codesValue, Option.isSome_iff_exists]
      rintro ⟨codes, found⟩
      rw [HealthCriteria.codesValue_some found, List.forall_mem_singleton, codesRule_holds]
      simp [CodesHold, found]
    · intro missing codes found
      rw [HealthCriteria.truthy_codesValue, found] at missing
      exact absurd rfl missing
  · apply optionalRules_hold_iff
    · intro text
      rw [List.forall_mem_singleton, bodyRule_holds]
      exact ⟨fun holds _ => holds, fun holds => holds text⟩
    · exact fun missing text => absurd text missing
  · apply optionalRules_hold_iff
    · rw [HealthCriteria.truthy_headersValue, Option.isSome_iff_exists]
      rintro ⟨headers, found⟩
      rw [HealthCriteria.headersValue_some found, List.forall_mem_map]
      simp [HeadersHold, found, entriesOf, headerRule_holds lowered]
    · intro missing headers found
      rw [HealthCriteria.truthy_headersValue, found] at missing
      exact absurd rfl missing

theorem pjsEntryRules_empty_iff (criteria : HealthCriteria) :
    (pjsEntryRules criteria.pjsEntry).length = 0 ↔ ¬ HasCriterion criteria := by
  have codesField : criteria.pjsEntry.opt "StatusCodes" = criteria.codesValue := rfl
  have bodyField : criteria.pjsEntry.opt "Body" = criteria.body := rfl
  have headersField : criteria.pjsEntry.opt "Headers" = criteria.headersValue := rfl
  rw [pjsEntryRules, codesField, bodyField, headersField, List.length_eq_zero_iff,
    List.append_eq_nil_iff, List.append_eq_nil_iff, HealthCriteria.truthy_codesValue,
    HealthCriteria.truthy_headersValue, HasCriterion]
  simp [and_assoc]

/-- The rules of an entry are its criteria, and one that always fails where it has none. -/
theorem pjsRules_hold_iff
    (lowered : ∀ header ∈ res.headers, engine.lowerCase header.1 = header.1)
    (criteria : HealthCriteria) :
    (∀ rule ∈ pjsRules criteria.pjsEntry, rule.holds engine res) ↔
      CriteriaHold engine (pjsSense engine) res criteria ∧ HasCriterion criteria := by
  rw [pjsRules]
  by_cases empty : (pjsEntryRules criteria.pjsEntry).length = 0
  · rw [if_pos empty, List.forall_mem_singleton]
    have none := (pjsEntryRules_empty_iff criteria).mp empty
    exact ⟨fun holds => absurd holds not_noCriteria_holds, fun both => absurd both.2 none⟩
  · rw [if_neg empty, pjsEntryRules_hold_iff lowered]
    have has := not_not.mp (mt (pjsEntryRules_empty_iff criteria).mpr empty)
    exact ⟨fun holds => ⟨holds, has⟩, fun both => both.1⟩

def PjsPasses (engine : HealthEngine) (healthCheck : Value) (res : HealthResponse) : Prop :=
  pjsCheck engine healthCheck res = .ok .ok

theorem pjsCheck_eq_ok (healthCheck : Value) (check : PjsCheck) :
    pjsCheck engine healthCheck res = .ok check ↔ ∃ code,
      pjsMatch engine healthCheck res = .ok code ∧
        check = if 0 < code then .ok else .fail (checkReason code) := by
  rw [pjsCheck]
  cases pjsMatch engine healthCheck res with
  | error thrown =>
      constructor
      · intro same
        cases same
      · rintro ⟨code, same, _⟩
        cases same
  | ok code =>
      constructor
      · intro same
        exact ⟨code, rfl, (Except.ok.inj same).symm⟩
      · rintro ⟨other, same, answer⟩
        cases same
        exact congrArg Except.ok answer.symm

theorem pjsPasses_iff_match (healthCheck : Value) :
    PjsPasses engine healthCheck res ↔
      ∃ code, pjsMatch engine healthCheck res = .ok code ∧ 0 < code := by
  rw [PjsPasses, pjsCheck_eq_ok]
  refine exists_congr fun code => and_congr_right fun _ => ?_
  by_cases positive : 0 < code
  · simp [positive]
  · simp [positive]

theorem pjsPasses_iff
    (lowered : ∀ header ∈ res.headers, engine.lowerCase header.1 = header.1)
    {entries : List HealthCriteria}
    (configured : pjsHealthCheck.opt "Matches" = .arr (entries.map HealthCriteria.pjsEntry)) :
    PjsPasses engine pjsHealthCheck res ↔ ∀ criteria ∈ entries,
      CriteriaHold engine (pjsSense engine) res criteria ∧ HasCriterion criteria := by
  have rules : pjsMatch engine pjsHealthCheck res =
      everyRule engine res ((entries.map HealthCriteria.pjsEntry).flatMap pjsRules) := by
    rw [pjsMatch, pjsMatches, configured]
    rfl
  rw [pjsPasses_iff_match, rules, everyRule_iff]
  simp only [List.mem_flatMap, List.mem_map, forall_exists_index, and_imp, forall_apply_eq_imp_iff₂,
    ← pjsRules_hold_iff lowered]
  constructor
  · intro all criteria member rule found
    exact all rule criteria member found
  · intro all rule criteria member found
    exact all criteria member rule found

end Pjs

/-! Verdicts. -/

section Verdicts

variable {engine : HealthEngine} {res : HealthResponse} {healthCheck pjsHealthCheck : Value}
  {entries : List HealthCriteria}

/-- Both checkers take the response as healthy exactly if every criterion of every entry holds. -/
def VerdictsConjoin (engine : HealthEngine) (healthCheck pjsHealthCheck : Value)
    (entries : List HealthCriteria) (res : HealthResponse) : Prop :=
  (responsePasses engine healthCheck res = .ok true ↔
      ∀ criteria ∈ entries, CriteriaHold engine (policySense engine) res criteria) ∧
    (PjsPasses engine pjsHealthCheck res ↔
      ∀ criteria ∈ entries, CriteriaHold engine (pjsSense engine) res criteria)

theorem CriteriaHold.first {sense : CriterionSense} {criteria : HealthCriteria}
    (hold : CriteriaHold engine sense res criteria) : FirstHolds engine sense res criteria := by
  obtain ⟨codes, body, headers⟩ := hold
  rw [FirstHolds]
  split
  · exact codes
  · split
    · exact body
    · exact headers

/-- The newer checker has to find no later criterion that fails where the first ones hold, and the
pjs checker no entry without criteria where all of them hold. -/
theorem verdictsConjoin_iff
    (lowered : ∀ header ∈ res.headers, engine.lowerCase header.1 = header.1)
    (configured : healthCheck.opt "matches" = .arr (entries.map HealthCriteria.entry))
    (pjsConfigured : pjsHealthCheck.opt "Matches" = .arr (entries.map HealthCriteria.pjsEntry)) :
    VerdictsConjoin engine healthCheck pjsHealthCheck entries res ↔
      ((∀ criteria ∈ entries, FirstHolds engine (policySense engine) res criteria) →
        ∀ criteria ∈ entries, CriteriaHold engine (policySense engine) res criteria) ∧
      ((∀ criteria ∈ entries, CriteriaHold engine (pjsSense engine) res criteria) →
        ∀ criteria ∈ entries, HasCriterion criteria) := by
  rw [VerdictsConjoin, responsePasses_iff lowered configured,
    pjsPasses_iff lowered pjsConfigured]
  refine and_congr ?_ ?_
  · exact ⟨fun same => same.mp, fun keeps =>
      ⟨keeps, fun hold criteria member => (hold criteria member).first⟩⟩
  · constructor
    · intro same hold criteria member
      exact (same.mpr hold criteria member).2
    · intro has
      exact ⟨fun both criteria member => (both criteria member).1,
        fun hold criteria member => ⟨hold criteria member, has hold criteria member⟩⟩

end Verdicts

/-! An entry with a code and a text. -/

def codeAndText : HealthCriteria := ⟨some [.num "200"], .str "OK", none⟩

def matchesOf (entries : List HealthCriteria) : Value :=
  .obj [("matches", .arr (entries.map HealthCriteria.entry))]

def pjsMatchesOf (entries : List HealthCriteria) : Value :=
  .obj [("Matches", .arr (entries.map HealthCriteria.pjsEntry))]

def probeAnswer (text : String) : HealthResponse :=
  ⟨.num "200", .str text, [("content-type", "text/plain")]⟩

theorem okText_conjoins :
    VerdictsConjoin plainHealth (matchesOf [codeAndText]) (pjsMatchesOf [codeAndText])
      [codeAndText] (probeAnswer "OK") := by
  refine (verdictsConjoin_iff (by decide) rfl rfl).mpr ⟨fun _ criteria member => ?_, ?_⟩
  · obtain rfl := List.mem_singleton.mp member
    refine ⟨fun codes same => ?_, fun _ => rfl, fun headers same => (nomatch same)⟩
    obtain rfl := Option.some.inj same
    exact ⟨.num "200", List.mem_cons_self, rfl⟩
  · intro _ criteria member
    obtain rfl := List.mem_singleton.mp member
    exact Or.inl rfl

/-- The newer checker never comes to the text. -/
theorem wrongText_passes :
    ¬ ∀ (engine : HealthEngine) (healthCheck pjsHealthCheck : Value)
      (entries : List HealthCriteria) (res : HealthResponse),
        (∀ header ∈ res.headers, engine.lowerCase header.1 = header.1) →
          healthCheck.opt "matches" = .arr (entries.map HealthCriteria.entry) →
            pjsHealthCheck.opt "Matches" = .arr (entries.map HealthCriteria.pjsEntry) →
              VerdictsConjoin engine healthCheck pjsHealthCheck entries res := by
  intro claimed
  have verdict := (claimed plainHealth (matchesOf [codeAndText]) (pjsMatchesOf [codeAndText])
    [codeAndText] (probeAnswer "down") (by decide) rfl rfl).1.mp rfl codeAndText List.mem_cons_self
  exact absurd (verdict.2.1 rfl) (by decide)

end Fgw
