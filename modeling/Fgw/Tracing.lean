import Fgw.Library.Table
import Fgw.ScriptValue
import Mathlib.Algebra.Order.Ring.Rat

/-!
Traces over chains of calls.  A request passes one gateway after another, each of which marks its
headers and logs a span, and the services between them hand the marks on.
-/

namespace Fgw

namespace Tracing

abbrev Headers := Table Value

def header (headers : Headers) (name : String) : Value := (headers.get? name).getD .undefined

@[simp] theorem header_set (headers : Headers) (name other : String) (value : Value) :
    header (headers.set name value) other =
      if name = other then value else header headers other := by
  rw [header, Table.get?_set]
  split <;> rfl

/-- Where the hyphens of `algo.uuid()` are. -/
def uuidHyphens : List Bool :=
  List.replicate 8 false ++ true :: List.replicate 4 false ++ true :: List.replicate 4 false ++
    true :: List.replicate 4 false ++ true :: List.replicate 12 false

structure Uuid where
  text : List Char
  hyphens : text.map (· == '-') = uuidHyphens

/-- `text.replaceAll('-', '')` -/
def withoutHyphens (text : List Char) : List Char := text.filter fun c => !(c == '-')

theorem length_withoutHyphens (text : List Char) :
    (withoutHyphens text).length = (text.map (· == '-')).countP (!·) := by
  rw [withoutHyphens, ← List.countP_eq_length_filter, List.countP_map]
  rfl

namespace Uuid

variable (uuid : Uuid)

/-- `randomId` of the filter. -/
def randomId : String := String.ofList (withoutHyphens uuid.text)

def lastHalf : String := String.ofList ((withoutHyphens uuid.text).drop 16)

/-- `uuid.substring(0, 18).replaceAll('-', '')` -/
def firstHalf : String := String.ofList (withoutHyphens (uuid.text.take 18))

theorem ofList_ne_empty {text : List Char} (filled : 0 < text.length) :
    String.ofList text ≠ "" := by
  intro none
  have empty := congrArg String.toList none
  rw [String.toList_ofList] at empty
  simp [empty] at filled

theorem length_randomId : (withoutHyphens uuid.text).length = 32 := by
  rw [length_withoutHyphens, uuid.hyphens]
  rfl

theorem randomId_ne_empty : uuid.randomId ≠ "" :=
  ofList_ne_empty (by rw [uuid.length_randomId]; omega)

theorem lastHalf_ne_empty : uuid.lastHalf ≠ "" :=
  ofList_ne_empty (by rw [List.length_drop, uuid.length_randomId]; omega)

theorem firstHalf_ne_empty : uuid.firstHalf ≠ "" := by
  refine ofList_ne_empty ?_
  rw [length_withoutHyphens, List.map_take, uuid.hyphens]
  decide

end Uuid

/-- `trace` of `HTTPLog.js`, and what `tracing.js` sends to identify a request. -/
structure Span where
  traceId : Value
  span : Value
  parent : Value

/-- The filter `Zipkin`, whose decider has answered `sample`. -/
def zipkin (uuid : Uuid) (sample : Bool) (headers : Headers) : Headers :=
  let traceId := header headers "x-b3-traceid"
  let spanId := header headers "x-b3-spanid"
  let sampled := header headers "x-b3-sampled"
  let headers := if spanId.truthy then headers.set "x-b3-parentspanid" spanId else headers
  let headers := if traceId.truthy then headers else headers.set "x-b3-traceid" (.str uuid.randomId)
  let headers :=
    if sampled.truthy then headers
    else headers.set "x-b3-sampled" (.num (if sample then "1" else "0"))
  headers.set "x-b3-spanid" (.str uuid.lastHalf)

def spanOf (headers : Headers) : Span :=
  ⟨header headers "x-b3-traceid", header headers "x-b3-spanid", header headers "x-b3-parentspanid"⟩

/-- `trace` in the log, after the filter has marked the same headers. -/
def loggedTrace (headers : Headers) : Option Span :=
  if (header headers "x-b3-sampled").strictEq (.str "1") then some (spanOf headers) else none

/-- The environment of the scripts in `pjs`. -/
structure Environment where
  namespaceName : String
  kind : String
  name : String
  pod : String
  protocol : Option String
  tracingLimitedID : Option ℚ
  toInt63 : Value → ℚ

def withinLimit (environment : Environment) (traceId : Value) : Bool :=
  match environment.tracingLimitedID with
  | some limit => limit = 0 || environment.toInt63 traceId < limit
  | none => true

/-- Also whether the request is sampled. -/
def initTracingHeaders (environment : Environment) (uuid : Uuid) (headers : Headers) :
    Headers × Bool :=
  let id := Value.str uuid.firstHalf
  let headers :=
    match environment.protocol with
    | some proto => headers.set "x-forwarded-proto" (.str proto)
    | none => headers
  let headers :=
    if (header headers "x-b3-spanid").truthy then
      (headers.set "x-b3-parentspanid" (header headers "x-b3-spanid")).set "x-b3-spanid" id
    else headers
  let headers :=
    if (header headers "x-b3-traceid").truthy then headers
    else (headers.set "x-b3-traceid" id).set "x-b3-spanid" id
  let (headers, sampled) :=
    if (header headers "x-b3-sampled").truthy then
      (headers, (header headers "x-b3-sampled").strictEq (.str "1"))
    else
      let sampled := withinLimit environment (header headers "x-b3-traceid")
      (headers.set "x-b3-sampled" (.str (if sampled then "1" else "0")), sampled)
  let headers :=
    if (header headers "x-request-id").truthy then headers
    else headers.set "x-request-id" (.str (String.ofList uuid.text))
  let headers := headers.set "fgw-stats-namespace" (.str environment.namespaceName)
  let headers := headers.set "fgw-stats-kind" (.str environment.kind)
  let headers := headers.set "fgw-stats-name" (.str environment.name)
  (headers.set "fgw-stats-pod" (.str environment.pod), sampled)

/-- A parent that is empty is not sent. -/
def makeZipKinData (headers : Headers) : Span :=
  let parent := header headers "x-b3-parentspanid"
  ⟨header headers "x-b3-traceid", header headers "x-b3-spanid",
    if parent.truthy then parent else .undefined⟩

inductive Gateway
  | fgw (sample : Bool)
  | pjs (environment : Environment)

def Gateway.isPjs : Gateway → Bool
  | .fgw _ => false
  | .pjs _ => true

def Gateway.spanId (uuid : Uuid) : Gateway → String
  | .fgw _ => uuid.lastHalf
  | .pjs _ => uuid.firstHalf

/-- The identifier of a trace that starts at the gateway. -/
def Gateway.traceId (uuid : Uuid) : Gateway → String
  | .fgw _ => uuid.randomId
  | .pjs _ => uuid.firstHalf

/-- Whether the gateway samples a trace that nobody has decided on. -/
def Gateway.decides (traceId : Value) : Gateway → Bool
  | .fgw sample => sample
  | .pjs environment => withinLimit environment traceId

/-- The headers that go on, and the span that is logged. -/
def Gateway.pass (uuid : Uuid) (headers : Headers) : Gateway → Headers × Option Span
  | .fgw sample =>
      let headers := zipkin uuid sample headers
      (headers, loggedTrace headers)
  | .pjs environment =>
      let (headers, sampled) := initTracingHeaders environment uuid headers
      (headers, if sampled then some (makeZipKinData headers) else none)

/-- A number is a text once it is sent. -/
def encoded : Value → Value
  | .num text => .str text
  | value => value

def traceHeaders : List String :=
  ["x-b3-traceid", "x-b3-spanid", "x-b3-parentspanid", "x-b3-sampled"]

/-- What the headers of a request are in the calls that are made for it: a service hands the marks
on. -/
structure Service where
  call : Headers → Headers
  handsOn : ∀ headers, ∀ name ∈ traceHeaders,
    header (call headers) name = encoded (header headers name)

/-- A gateway, and the service behind it. -/
structure Hop where
  gateway : Gateway
  uuid : Uuid
  service : Service

def Hop.spanId (hop : Hop) : String := hop.gateway.spanId hop.uuid

/-- The logs of the gateways on a chain of calls. -/
def logs : List Hop → Headers → List (Option Span)
  | [], _ => []
  | hop :: rest, headers =>
      let (headers, log) := hop.gateway.pass hop.uuid headers
      log :: logs rest (hop.service.call headers)

theorem logs_cons (hop : Hop) (rest : List Hop) (headers : Headers) :
    logs (hop :: rest) headers = (hop.gateway.pass hop.uuid headers).2 ::
      logs rest (hop.service.call (hop.gateway.pass hop.uuid headers).1) := rfl

/-! What a chain should log. -/

/-- The spans of a chain, each the parent of the next. -/
def spans (trace : Value) : Value → List Hop → List Span
  | _, [] => []
  | parent, hop :: rest => ⟨trace, .str hop.spanId, parent⟩ :: spans trace (.str hop.spanId) rest

/-- The spans of a chain within a trace.  If its caller has none, the scripts in `pjs` make none
either, and log what they were sent. -/
def spansWithin (trace span parent : Value) (hops : List Hop) : List Span :=
  if span.truthy then spans trace span hops
  else (hops.takeWhile fun hop => hop.gateway.isPjs).map (fun _ => ⟨trace, span, parent⟩) ++
    spans trace parent (hops.dropWhile fun hop => hop.gateway.isPjs)

/-- The trace that a request belongs to: the one it arrives in, or else one that starts here. -/
def traceOf (headers : Headers) (hop : Hop) : Value :=
  (header headers "x-b3-traceid").or (.str (hop.gateway.traceId hop.uuid))

def chainSpans (headers : Headers) (hop : Hop) (rest : List Hop) : List Span :=
  let span := header headers "x-b3-spanid"
  let parent := header headers "x-b3-parentspanid"
  if (header headers "x-b3-traceid").truthy then
    spansWithin (traceOf headers hop) span parent (hop :: rest)
  else spans (traceOf headers hop) (span.or parent) (hop :: rest)

/-- Whether the trace is sampled: what the request arrives with, or else the first gateway,
decides. -/
def isSampled (headers : Headers) (hop : Hop) : Bool :=
  let mark := header headers "x-b3-sampled"
  if mark.truthy then mark.strictEq (.str "1") else hop.gateway.decides (traceOf headers hop)

/-- Whether the first gateway logs its own span.  Those in `src` set the number 1 and log where they
find the text. -/
def logsOwn (headers : Headers) (hop : Hop) : Bool :=
  (header headers "x-b3-sampled").truthy || hop.gateway.isPjs

/-! What a gateway makes of the marks. -/

/-- A header that is there once and not empty, or not at all. -/
def IsText (value : Value) : Prop := value = .undefined ∨ ∃ text, text ≠ "" ∧ value = .str text

theorem truthy_str {text : String} (filled : text ≠ "") : (Value.str text).truthy = true := by
  simp [Value.truthy, filled]

theorem IsText.encoded {value : Value} (text : IsText value) : encoded value = value := by
  rcases text with rfl | ⟨text, _, rfl⟩ <;> rfl

theorem makeZipKinData_eq {headers : Headers}
    (parent : IsText (header headers "x-b3-parentspanid")) :
    makeZipKinData headers = spanOf headers := by
  have sent : (if (header headers "x-b3-parentspanid").truthy then
      header headers "x-b3-parentspanid" else .undefined) = header headers "x-b3-parentspanid" := by
    rcases parent with missing | ⟨text, filled, present⟩
    · rw [missing]
      rfl
    · rw [present, if_pos (truthy_str filled)]
  rw [makeZipKinData, spanOf, sent]

theorem IsText.or {left right : Value} (leftText : IsText left) (rightText : IsText right) :
    IsText (left.or right) := by
  unfold Value.or
  split
  · exact leftText
  · exact rightText

theorem zipkin_marks (uuid : Uuid) (sample : Bool) (headers : Headers) :
    let marked := zipkin uuid sample headers
    header marked "x-b3-traceid" = (header headers "x-b3-traceid").or (.str uuid.randomId) ∧
      header marked "x-b3-spanid" = .str uuid.lastHalf ∧
      header marked "x-b3-parentspanid" =
        (header headers "x-b3-spanid").or (header headers "x-b3-parentspanid") ∧
      header marked "x-b3-sampled" =
        (header headers "x-b3-sampled").or (.num (if sample then "1" else "0")) := by
  cases trace : (header headers "x-b3-traceid").truthy <;>
    cases caller : (header headers "x-b3-spanid").truthy <;>
      cases mark : (header headers "x-b3-sampled").truthy <;>
        simp [zipkin, Value.or, trace, caller, mark]

theorem initTracingHeaders_marks (environment : Environment) (uuid : Uuid) (headers : Headers) :
    let id := Value.str uuid.firstHalf
    let marked := (initTracingHeaders environment uuid headers).1
    let traceId := (header headers "x-b3-traceid").or id
    let own := withinLimit environment traceId
    header marked "x-b3-traceid" = traceId ∧
      header marked "x-b3-spanid" =
        (if (header headers "x-b3-traceid").truthy && !(header headers "x-b3-spanid").truthy then
          header headers "x-b3-spanid"
        else id) ∧
      header marked "x-b3-parentspanid" =
        (header headers "x-b3-spanid").or (header headers "x-b3-parentspanid") ∧
      header marked "x-b3-sampled" =
        (header headers "x-b3-sampled").or (.str (if own then "1" else "0")) ∧
      (initTracingHeaders environment uuid headers).2 =
        if (header headers "x-b3-sampled").truthy then
          (header headers "x-b3-sampled").strictEq (.str "1")
        else own := by
  cases proto : environment.protocol <;>
    cases trace : (header headers "x-b3-traceid").truthy <;>
      cases caller : (header headers "x-b3-spanid").truthy <;>
        cases mark : (header headers "x-b3-sampled").truthy <;>
          cases request : (header headers "x-request-id").truthy <;>
            simp [initTracingHeaders, Value.or, proto, trace, caller, mark, request]

/-- The span of a gateway, for a request that arrives with these headers. -/
def spanAt (headers : Headers) (hop : Hop) : Value :=
  if hop.gateway.isPjs && (header headers "x-b3-traceid").truthy &&
      !(header headers "x-b3-spanid").truthy then
    header headers "x-b3-spanid"
  else .str hop.spanId

/-- What the gateway has marked, and what it has logged of it. -/
structure Marked (headers : Headers) (hop : Hop) (after : Headers) (log : Option Span) : Prop where
  traceId : header after "x-b3-traceid" = traceOf headers hop
  spanId : header after "x-b3-spanid" = spanAt headers hop
  parent : header after "x-b3-parentspanid" =
    (header headers "x-b3-spanid").or (header headers "x-b3-parentspanid")
  sampled : encoded (header after "x-b3-sampled") = (header headers "x-b3-sampled").or
    (.str (if hop.gateway.decides (traceOf headers hop) then "1" else "0"))
  logged : log = if isSampled headers hop && logsOwn headers hop then some (spanOf after) else none

theorem mark_ne_empty (sample : Bool) : (if sample then "1" else "0") ≠ "" := by
  cases sample <;> decide

theorem encoded_or {mark : Value} (arrived : IsText mark) (sample : Bool) :
    encoded (mark.or (.num (if sample then "1" else "0"))) =
      mark.or (.str (if sample then "1" else "0")) := by
  unfold Value.or
  split
  · exact arrived.encoded
  · rfl

theorem pass_marked {headers : Headers}
    (arrived : ∀ name ∈ traceHeaders, IsText (header headers name)) (hop : Hop) :
    Marked headers hop (hop.gateway.pass hop.uuid headers).1
      (hop.gateway.pass hop.uuid headers).2 := by
  have markText := arrived "x-b3-sampled" (by decide)
  obtain ⟨gateway, uuid, service⟩ := hop
  cases gateway with
  | fgw sample =>
      obtain ⟨traceId, spanId, parent, sampled⟩ := zipkin_marks uuid sample headers
      refine ⟨traceId, spanId.trans (by simp [spanAt, Gateway.isPjs, Hop.spanId, Gateway.spanId]),
        parent, (congrArg encoded sampled).trans (encoded_or markText sample), ?_⟩
      rw [Gateway.pass, loggedTrace, sampled]
      cases mark : (header headers "x-b3-sampled").truthy <;>
        simp [isSampled, logsOwn, mark, Value.or, Gateway.isPjs, Value.strictEq]
  | pjs environment =>
      obtain ⟨traceId, spanId, parent, sampled, taken⟩ :=
        initTracingHeaders_marks environment uuid headers
      refine ⟨traceId, spanId.trans (by simp [spanAt, Gateway.isPjs, Hop.spanId, Gateway.spanId]),
        parent, ?_, ?_⟩
      · exact (congrArg encoded sampled).trans
          (IsText.encoded (markText.or (Or.inr ⟨_, mark_ne_empty _, rfl⟩)))
      · have parentText : IsText (header (initTracingHeaders environment uuid headers).1
            "x-b3-parentspanid") := by
          rw [parent]
          exact (arrived _ (by decide)).or (arrived _ (by decide))
        have log : (Gateway.pass uuid headers (.pjs environment)).2 =
            if (initTracingHeaders environment uuid headers).2 then
              some (makeZipKinData (initTracingHeaders environment uuid headers).1) else none := rfl
        rw [log, taken, makeZipKinData_eq parentText]
        simp [isSampled, logsOwn, Gateway.isPjs, Gateway.decides, traceOf, Gateway.traceId,
          Gateway.pass]

theorem Hop.spanId_ne_empty (hop : Hop) : hop.spanId ≠ "" := by
  obtain ⟨gateway, uuid, service⟩ := hop
  cases gateway with
  | fgw sample => exact uuid.lastHalf_ne_empty
  | pjs environment => exact uuid.firstHalf_ne_empty

theorem Hop.spanId_truthy (hop : Hop) : (Value.str hop.spanId).truthy = true :=
  truthy_str hop.spanId_ne_empty

theorem Hop.traceId_ne_empty (hop : Hop) : hop.gateway.traceId hop.uuid ≠ "" := by
  obtain ⟨gateway, uuid, service⟩ := hop
  cases gateway with
  | fgw sample => exact uuid.randomId_ne_empty
  | pjs environment => exact uuid.firstHalf_ne_empty

theorem traceOf_truthy (headers : Headers) (hop : Hop) : (traceOf headers hop).truthy = true := by
  unfold traceOf Value.or
  split
  · assumption
  · exact truthy_str hop.traceId_ne_empty

/-- The headers of a request that arrives in a trace which has been decided on. -/
structure Within (headers : Headers) (trace span parent : Value) (taken : Bool) : Prop where
  texts : ∀ name ∈ traceHeaders, IsText (header headers name)
  traceId : header headers "x-b3-traceid" = trace
  spanId : header headers "x-b3-spanid" = span
  parent : header headers "x-b3-parentspanid" = parent
  started : trace.truthy = true
  decided : (header headers "x-b3-sampled").truthy = true
  taken : (header headers "x-b3-sampled").strictEq (.str "1") = taken

/-- Behind its first gateway, a request is in a trace. -/
theorem pass_within {headers : Headers}
    (arrived : ∀ name ∈ traceHeaders, IsText (header headers name)) (hop : Hop) :
    Within (hop.service.call (hop.gateway.pass hop.uuid headers).1) (traceOf headers hop)
      (spanAt headers hop) ((header headers "x-b3-spanid").or (header headers "x-b3-parentspanid"))
      (isSampled headers hop) := by
  have marked := pass_marked arrived hop
  have handsOn := hop.service.handsOn (hop.gateway.pass hop.uuid headers).1
  have traceText : IsText (traceOf headers hop) :=
    (arrived _ (by decide)).or (Or.inr ⟨_, hop.traceId_ne_empty, rfl⟩)
  have spanText : IsText (spanAt headers hop) := by
    unfold spanAt
    split
    · exact arrived _ (by decide)
    · exact Or.inr ⟨_, hop.spanId_ne_empty, rfl⟩
  have parentText : IsText ((header headers "x-b3-spanid").or
      (header headers "x-b3-parentspanid")) := (arrived _ (by decide)).or (arrived _ (by decide))
  have markText := (arrived "x-b3-sampled" (by decide)).or
    (Or.inr ⟨if hop.gateway.decides (traceOf headers hop) then "1" else "0", mark_ne_empty _, rfl⟩)
  have traceId := handsOn "x-b3-traceid" (by decide)
  have spanId := handsOn "x-b3-spanid" (by decide)
  have parent := handsOn "x-b3-parentspanid" (by decide)
  have mark := handsOn "x-b3-sampled" (by decide)
  rw [marked.traceId, traceText.encoded] at traceId
  rw [marked.spanId, spanText.encoded] at spanId
  rw [marked.parent, parentText.encoded] at parent
  rw [marked.sampled] at mark
  refine ⟨fun name member => ?_, traceId, spanId, parent, traceOf_truthy headers hop, ?_, ?_⟩
  · simp only [traceHeaders, List.mem_cons, List.not_mem_nil, or_false] at member
    rcases member with rfl | rfl | rfl | rfl
    · rwa [traceId]
    · rwa [spanId]
    · rwa [parent]
    · rwa [mark]
  · rw [mark, Value.or]
    split
    · assumption
    · split <;> rfl
  · rw [mark, isSampled, Value.or]
    split
    · rfl
    · cases hop.gateway.decides (traceOf headers hop) <;> rfl

theorem spansWithin_cons (trace span parent : Value) (hop : Hop) (rest : List Hop) :
    let own := if hop.gateway.isPjs && !span.truthy then span else .str hop.spanId
    spansWithin trace span parent (hop :: rest) =
      ⟨trace, own, span.or parent⟩ :: spansWithin trace own (span.or parent) rest := by
  cases called : span.truthy with
  | true => simp [spansWithin, spans, called, Value.or, hop.spanId_truthy]
  | false =>
      cases here : hop.gateway.isPjs <;>
        simp [spansWithin, spans, called, here, Value.or, hop.spanId_truthy]

theorem logs_within {headers : Headers} {trace span parent : Value} {taken : Bool}
    (within : Within headers trace span parent taken) (hops : List Hop) :
    logs hops headers =
      (spansWithin trace span parent hops).map fun span => if taken then some span else none := by
  induction hops generalizing headers span parent with
  | nil => simp [logs, spansWithin, spans]
  | cons hop rest ih =>
      have marked := pass_marked within.texts hop
      have next := pass_within within.texts hop
      have same : traceOf headers hop = trace := by
        rw [traceOf, within.traceId, Value.or, if_pos within.started]
      have sampled : isSampled headers hop = taken := by
        simp only [isSampled, within.decided, if_true, within.taken]
      have own : spanAt headers hop =
          if hop.gateway.isPjs && !span.truthy then span else .str hop.spanId := by
        simp [spanAt, within.traceId, within.spanId, within.started]
      have logged : logsOwn headers hop = true := by simp [logsOwn, within.decided]
      rw [same, sampled, within.spanId, within.parent] at next
      have log := marked.logged
      rw [sampled, logged, Bool.and_true, spanOf, marked.traceId, marked.spanId, marked.parent,
        same, within.spanId, within.parent, own] at log
      rw [logs_cons, spansWithin_cons, List.map_cons, ← log, ← own, ← ih next]

/-- Whatever trace headers a request arrives with, each at most once, a chain of gateways logs it
as one trace.  The mark that it arrives with, or else the first gateway, decides for all of them,
but for a first gateway of `src` that has decided itself and logs nothing.  Each span is the child
of the one before. -/
theorem logs_of_chain (headers : Headers)
    (arrived : ∀ name ∈ traceHeaders, IsText (header headers name)) (hop : Hop) (rest : List Hop) :
    logs (hop :: rest) headers =
      ((chainSpans headers hop rest).map fun span =>
        if isSampled headers hop then some span else none).modifyHead fun log =>
          if logsOwn headers hop then log else none := by
  have marked := pass_marked arrived hop
  have chain : chainSpans headers hop rest =
      ⟨traceOf headers hop, spanAt headers hop,
        (header headers "x-b3-spanid").or (header headers "x-b3-parentspanid")⟩ ::
      spansWithin (traceOf headers hop) (spanAt headers hop)
        ((header headers "x-b3-spanid").or (header headers "x-b3-parentspanid")) rest := by
    unfold chainSpans
    cases given : (header headers "x-b3-traceid").truthy with
    | true =>
        dsimp only
        rw [if_pos rfl, spansWithin_cons]
        simp [spanAt, given]
    | false => simp [spans, spanAt, given, spansWithin, hop.spanId_truthy]
  have log := marked.logged
  rw [spanOf, marked.traceId, marked.spanId, marked.parent] at log
  rw [logs_cons, chain, List.map_cons, List.modifyHead_cons,
    ← logs_within (pass_within arrived hop), log]
  cases isSampled headers hop <;> cases logsOwn headers hop <;> rfl

def someUuid : Uuid := ⟨"01234567-89ab-cdef-fedc-ba9876543210".toList, by decide⟩

/-- A service that makes its calls with the marks it has got, and no other headers. -/
def plainService : Service where
  call headers := traceHeaders.foldl
    (fun calls name => calls.set name (encoded (header headers name))) .empty
  handsOn headers name member := by
    simp only [traceHeaders, List.mem_cons, List.not_mem_nil, or_false] at member
    rcases member with rfl | rfl | rfl | rfl <;> simp [traceHeaders]

def someEnvironment : Environment :=
  ⟨"default", "Deployment", "fgw", "fgw-0", none, none, fun _ => 0⟩

def fgwHop (sample : Bool) : Hop := ⟨.fgw sample, someUuid, plainService⟩

def pjsHop : Hop := ⟨.pjs someEnvironment, someUuid, plainService⟩

/-- A trace that arrives without a span. -/
def tracedHeaders : Headers := ⟨[("x-b3-traceid", .str "463ac35c9f6413ad")], by decide⟩

/-- On the first chain, the gateway that starts the trace does not log it; on the second, the span
that the others descend from is that of the second gateway. -/
theorem mixedChain_logs :
    logs [fgwHop true, pjsHop, fgwHop false] .empty =
      [none,
        some ⟨.str someUuid.randomId, .str someUuid.firstHalf, .str someUuid.lastHalf⟩,
        some ⟨.str someUuid.randomId, .str someUuid.lastHalf, .str someUuid.firstHalf⟩] ∧
    logs [pjsHop, fgwHop false, pjsHop] tracedHeaders =
      [some ⟨.str "463ac35c9f6413ad", .undefined, .undefined⟩,
        some ⟨.str "463ac35c9f6413ad", .str someUuid.lastHalf, .undefined⟩,
        some ⟨.str "463ac35c9f6413ad", .str someUuid.firstHalf, .str someUuid.lastHalf⟩] := by
  constructor
  · rw [logs_of_chain .empty fun _ _ => Or.inl rfl]
    rfl
  · rw [logs_of_chain tracedHeaders fun name member => ?_]
    · rfl
    · simp only [traceHeaders, List.mem_cons, List.not_mem_nil, or_false] at member
      rcases member with rfl | rfl | rfl | rfl
      · exact Or.inr ⟨_, by decide, rfl⟩
      all_goals exact Or.inl rfl

end Tracing

end Fgw
