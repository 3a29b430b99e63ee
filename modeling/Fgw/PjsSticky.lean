import Fgw.Library.Runs
import Fgw.PjsForwardCore

/-!
Sticky cookies over sequences of exchanges: the cookie that a client was given last names the
endpoint that served it last.
-/

namespace Fgw

namespace PjsForward

/-- The hashes tell the endpoints apart, and none is zero. -/
structure Distinguishes (engine : Engine) (names : List String) : Prop where
  nonzero : ∀ id ∈ names, engine.hash id ≠ 0
  distinct : ∀ id ∈ names, ∀ other ∈ names, engine.hash id = engine.hash other → id = other

def pairFor (engine : Engine) (name : CookieName) (id : String) : String :=
  name.text ++ "=" ++ toString (engine.hash id)

/-- The `name=value` that a client keeps of a `set-cookie` header. -/
def cookiePair (text : String) : String := String.ofList (text.toList.takeWhile fun c => c ≠ ';')

def trimPiece (piece : List Char) : String := trimText (String.ofList piece)

/-- Nothing else is sent under the name of the sticky cookie. -/
def Sends (name : CookieName) (pair : Option String) (cookie : String) : Prop :=
  ∀ piece ∈ cookie.toList.splitOn ';', ∀ value, cookieEntry piece = some (name.text, value) →
    pair = some (trimPiece piece)

/-- The pair is sent, among any cookies of other names. -/
structure Presents (name : CookieName) (pair cookie : String) : Prop where
  sent : ∃ piece ∈ cookie.toList.splitOn ';', trimPiece piece = pair
  alone : Sends name (some pair) cookie

/-- The cookie is the last one that the headers set. -/
def Carries (headers : HeaderMap) (cookie : String) : Prop :=
  ∃ others, headers.get? "set-cookie" = some (.list (others ++ [cookie]))

/-- One request of a client, whatever it meets. -/
structure Visit where
  cookie : Option String
  counters : RetryCounters
  attempts : List Attempt

def Visit.run (config : ServiceConfig) (visit : Visit) : List Turn × Option Outcome :=
  forward config visit.counters visit.cookie visit.attempts

/-- The sticky cookie that a client holds after a visit. -/
def keepCookie (config : ServiceConfig) (jar : Option String) (visit : Visit) : Option String :=
  match (visit.run config).2.bind Outcome.issued with
  | some issued => some (cookiePair issued)
  | none => jar

/-- The client sends the sticky cookie it holds, if any, and the balancers lend endpoints. -/
structure Meets (names : List String) (name : CookieName) (jar : Option String) (visit : Visit) :
    Prop where
  sends : ∀ cookie ∈ visit.cookie, Sends name jar cookie
  lends : ∀ attempt ∈ visit.attempts, ∀ id ∈ attempt.borrowed, id ∈ names

/-- The response came from the first attempt, whose endpoint was chosen by a valid cookie. -/
def ChosenByCookie (sticky : StickyCookie) (config : ServiceConfig) (visit : Visit) : Prop :=
  (visit.run config).1 = [] ∧ ∃ attempt ∈ visit.attempts.head?,
    (stickyTarget sticky attempt.unhealthy visit.cookie).isSome

/-- After a visit that was served, the cookie of the client designates the endpoint, and it is a
new one exactly if no valid cookie chose the endpoint. -/
def Designates (engine : Engine) (name : CookieName) (sticky : StickyCookie)
    (config : ServiceConfig) (jar : Option String) (visit : Visit) : Prop :=
  ∀ outcome id, (visit.run config).2 = some outcome → outcome.served = some id →
    keepCookie config jar visit = some (pairFor engine name id) ∧
      (outcome.issued.isSome ↔ ¬ ChosenByCookie sticky config visit)

section Laws

variable {engine : Engine}

theorem get?_hashTable {names : List String} (distinguishes : Distinguishes engine names)
    {id : String} (member : id ∈ names) :
    (hashTable engine names).get? (toString (engine.hash id)) = some id := by
  have listed : (toString (engine.hash id), id) ∈
      names.map fun k => (toString (engine.hash k), k) :=
    List.mem_map.mpr ⟨id, member, rfl⟩
  rw [hashTable, Table.get?_foldl_set, lastWrite_of_agree listed]
  · rfl
  · intro other second
    obtain ⟨k, inside, same⟩ := List.mem_map.mp second
    rw [Prod.mk.injEq] at same
    rw [← same.2]
    exact distinguishes.distinct k inside id member (toString_injective same.1)

theorem of_get?_hashTable {names : List String} {value id : String}
    (found : (hashTable engine names).get? value = some id) :
    id ∈ names ∧ value = toString (engine.hash id) := by
  rw [hashTable, Table.get?_foldl_set, Table.get?_empty, Option.or_none] at found
  obtain ⟨k, inside, same⟩ := List.mem_map.mp (lastWrite_mem found)
  rw [Prod.mk.injEq] at same
  obtain ⟨rfl, rfl⟩ := same
  exact ⟨inside, rfl⟩

theorem get?_hashes {settings : ServiceSettings} {id : String}
    (member : id ∈ settings.endpoints.keys) :
    (makeServiceConfig engine settings).hashes.get? id = some (engine.hash id) := by
  have listed : (id, engine.hash id) ∈ settings.endpoints.keys.map fun k => (k, engine.hash k) :=
    List.mem_map.mpr ⟨id, member, rfl⟩
  dsimp only [makeServiceConfig]
  rw [Table.get?_foldl_set, lastWrite_of_agree listed]
  · rfl
  · intro other second
    obtain ⟨k, _, same⟩ := List.mem_map.mp second
    rw [Prod.mk.injEq] at same
    rw [← same.2, same.1]

theorem not_mem_digits {n : Nat} {c : Char} (other : c.isDigit = false) :
    c ∉ (toString n).toList := by
  intro member
  rw [isDigit_of_mem_toString member] at other
  cases other

theorem trimText_digits (n : Nat) : trimText (toString n) = toString n := by
  rw [trimText, trimBy_of_kept, String.ofList_toList]
  intro c member
  exact isSpaceCode_digit (isDigit_of_mem_toString member)

/-- A piece that is a pair but for white space around it is read as the pair. -/
theorem cookieEntry_of_pair {name : CookieName} {n : Nat} {piece : List Char}
    (trimmed : trimPiece piece = name.text ++ "=" ++ toString n) :
    cookieEntry piece = some (name.text, toString n) := by
  obtain ⟨lead, trail, before, after, whole⟩ :=
    exists_trimBy (fun c => isSpaceCode (Char.toNat c)) piece
  have core : trimBy (fun c => isSpaceCode c.toNat) piece =
      name.text.toList ++ '=' :: (toString n).toList := by
    have texts := congrArg String.toList trimmed
    simpa [trimPiece, trimText] using texts
  have spaceless (c : Char) (space : isSpaceCode c.toNat = true) : c ≠ '=' := by
    rintro rfl
    exact absurd space (by decide)
  have front : '=' ∉ lead ++ name.text.toList := by
    rw [List.mem_append, not_or]
    exact ⟨fun inside => spaceless '=' (before _ inside) rfl, name.plain⟩
  have back : '=' ∉ (toString n).toList ++ trail := by
    rw [List.mem_append, not_or]
    exact ⟨not_mem_digits (by decide), fun inside => spaceless '=' (after _ inside) rfl⟩
  have spelled : piece = (lead ++ name.text.toList) ++ '=' :: ((toString n).toList ++ trail) := by
    rw [whole, core]
    simp
  have left : trimText (String.ofList (lead ++ name.text.toList)) = name.text := by
    rw [trimText, String.toList_ofList, trimBy_skipped_append _ before]
    exact name.trimmed
  have right : trimText (String.ofList ((toString n).toList ++ trail)) = toString n := by
    rw [trimText, String.toList_ofList, trimBy_append_skipped _ _ after]
    exact trimText_digits n
  rw [cookieEntry, spelled, List.splitOn_append_cons_self_of_not_mem front,
    List.splitOn_eq_singleton back]
  simp only [left, right]

theorem get?_getCookies (cookie name : String) :
    (getCookies cookie).get? name =
      lastWrite ((cookie.toList.splitOn ';').filterMap cookieEntry) name := by
  rw [getCookies, Table.get?_foldl_set, Table.get?_empty, Option.or_none]

theorem get?_getCookies_of_presents {name : CookieName} {n : Nat} {cookie : String}
    (presents : Presents name (name.text ++ "=" ++ toString n) cookie) :
    (getCookies cookie).get? name.text = some (toString n) := by
  obtain ⟨piece, inside, same⟩ := presents.sent
  rw [get?_getCookies]
  apply lastWrite_of_agree
  · exact List.mem_filterMap.mpr ⟨piece, inside, cookieEntry_of_pair same⟩
  · intro other second
    obtain ⟨later, member, entry⟩ := List.mem_filterMap.mp second
    have pair := Option.some.inj (presents.alone later member other entry)
    rw [cookieEntry_of_pair pair.symm, Option.some.injEq, Prod.mk.injEq] at entry
    exact entry.2.symm

variable {names : List String} {name : CookieName} {expires : Nat}

theorem stickyTarget_of_presents (distinguishes : Distinguishes engine names) {id cookie : String}
    (member : id ∈ names) (named : id ≠ "") {unhealthy : String → Bool}
    (healthy : unhealthy id = false) (presents : Presents name (pairFor engine name id) cookie) :
    stickyTarget ⟨name, expires, hashTable engine names⟩ unhealthy (some cookie) = some id := by
  have filled : cookie ≠ "" := by
    rintro rfl
    obtain ⟨piece, inside, same⟩ := presents.sent
    have empty : piece = [] := by
      simp only [String.toList_empty, List.splitOn_nil, List.mem_singleton] at inside
      exact inside
    rw [empty] at same
    have texts := congrArg String.toList same
    simp [trimPiece, trimText, trimBy, pairFor] at texts
  simp only [stickyTarget]
  rw [Option.filter_some_pos (by simpa using filled), Option.bind_some,
    get?_getCookies_of_presents presents, Option.filter_some_pos (by simp),
    Option.bind_some, get?_hashTable distinguishes member,
    Option.filter_some_pos (by simp [named, healthy])]

theorem of_stickyTarget {unhealthy : String → Bool} {cookie : Option String} {id : String}
    (chosen : stickyTarget ⟨name, expires, hashTable engine names⟩ unhealthy cookie = some id) :
    id ∈ names ∧ id ≠ "" := by
  simp only [stickyTarget, Option.filter_eq_some_iff, Option.bind_eq_some_iff] at chosen
  obtain ⟨⟨value, _, found⟩, kept⟩ := chosen
  rw [Bool.and_eq_true, decide_eq_true_eq] at kept
  exact ⟨(of_get?_hashTable found).1, kept.1⟩

/-- A client that sends no sticky cookie but its own can only be sent where that one says. -/
theorem pair_of_stickyTarget (distinguishes : Distinguishes engine names) {jar : Option String}
    (held : ∀ pair ∈ jar, ∃ id ∈ names, pair = pairFor engine name id) {unhealthy : String → Bool}
    {cookie : Option String} (sends : ∀ text ∈ cookie, Sends name jar text) {id : String}
    (chosen : stickyTarget ⟨name, expires, hashTable engine names⟩ unhealthy cookie = some id) :
    jar = some (pairFor engine name id) := by
  simp only [stickyTarget, Option.filter_eq_some_iff, Option.bind_eq_some_iff] at chosen
  obtain ⟨⟨value, ⟨⟨text, ⟨sent, _⟩, got⟩, _⟩, found⟩, _⟩ := chosen
  obtain ⟨member, spelled⟩ := of_get?_hashTable found
  rw [get?_getCookies] at got
  obtain ⟨piece, inside, entry⟩ := List.mem_filterMap.mp (lastWrite_mem got)
  have own := sends text sent piece inside value entry
  obtain ⟨other, within, pair⟩ := held _ own
  rw [cookieEntry_of_pair pair, Option.some.injEq, Prod.mk.injEq] at entry
  have same := distinguishes.distinct other within id member
    (toString_injective (entry.2.trans spelled))
  rw [own, pair, same]

/-! Attempts of a service with sticky cookies. -/

variable {settings : ServiceSettings}

/-- `serviceConfig.stickyCookie` -/
def stickyOf (engine : Engine) (settings : ServiceSettings) (name : CookieName) : StickyCookie :=
  ⟨name, orNumber settings.stickyCookieExpires 3600, hashTable engine settings.endpoints.keys⟩

theorem stickyCookie_eq (sticky : settings.stickyCookieName = some name) :
    (makeServiceConfig engine settings).stickyCookie = some (stickyOf engine settings name) := by
  dsimp only [makeServiceConfig]
  rw [sticky]
  rfl

theorem outgoingCookie_eq (distinguishes : Distinguishes engine settings.endpoints.keys)
    (sticky : settings.stickyCookieName = some name) (attempt : Attempt) {id : String}
    (member : id ∈ settings.endpoints.keys) :
    outgoingCookie (makeServiceConfig engine settings) attempt id =
      some (cookieText (stickyOf engine settings name) (engine.hash id) attempt.date) := by
  rw [outgoingCookie, stickyCookie_eq sticky, get?_hashes member]
  exact if_neg (distinguishes.nonzero id member)

/-- The targets of the variables are endpoints. -/
def Placed (settings : ServiceSettings) (vars : ForwardVars) : Prop :=
  ∀ id ∈ vars.target, id ∈ settings.endpoints.keys

/-- The endpoint of an attempt was chosen by a cookie, or is to be named by a new one. -/
inductive Selected (engine : Engine) (settings : ServiceSettings) (name : CookieName)
    (cookie : Option String) (attempt : Attempt) (vars : ForwardVars) (id : String) :
    Option String → Prop
  | chosen : vars.isRetry = false →
      stickyTarget (stickyOf engine settings name) attempt.unhealthy cookie = some id →
        Selected engine settings name cookie attempt vars id none
  | lent : (vars.isRetry = true ∨
      stickyTarget (stickyOf engine settings name) attempt.unhealthy cookie = none) →
        Selected engine settings name cookie attempt vars id
          (some (cookieText (stickyOf engine settings name) (engine.hash id) attempt.date))

theorem incomingCookie_eq (sticky : settings.stickyCookieName = some name) (cookie : Option String)
    (attempt : Attempt) (vars : ForwardVars) :
    incomingCookie (makeServiceConfig engine settings) cookie attempt vars =
      if vars.isRetry then none
      else stickyTarget (stickyOf engine settings name) attempt.unhealthy cookie := by
  rw [incomingCookie, stickyCookie_eq sticky]

theorem selectTarget_of_chosen {config : ServiceConfig} {cookie : Option String}
    {attempt : Attempt} {vars : ForwardVars} {id : String}
    (chosen : incomingCookie config cookie attempt vars = some id) :
    (selectTarget config cookie attempt vars).target = some id ∧
      (selectTarget config cookie attempt vars).cookieId = none := by
  dsimp only [selectTarget]
  rw [chosen]
  exact ⟨rfl, rfl⟩

theorem selectTarget_of_unchosen {config : ServiceConfig} {cookie : Option String}
    {attempt : Attempt} {vars : ForwardVars}
    (unchosen : incomingCookie config cookie attempt vars = none) :
    (selectTarget config cookie attempt vars).target = attempt.borrowed.or vars.target ∧
      ((selectTarget config cookie attempt vars).hasTarget = true →
        (selectTarget config cookie attempt vars).cookieId =
          (attempt.borrowed.or vars.target).bind (outgoingCookie config attempt)) := by
  dsimp only [selectTarget]
  rw [unchosen]
  dsimp only
  split
  · exact ⟨rfl, fun _ => rfl⟩
  · rename_i missing
    exact ⟨rfl, fun has => absurd has missing⟩

theorem selectTarget_cases (distinguishes : Distinguishes engine settings.endpoints.keys)
    (sticky : settings.stickyCookieName = some name) {cookie : Option String} {attempt : Attempt}
    (lends : ∀ id ∈ attempt.borrowed, id ∈ settings.endpoints.keys) {vars : ForwardVars}
    (placed : Placed settings vars) :
    let next := selectTarget (makeServiceConfig engine settings) cookie attempt vars
    Placed settings next ∧ (next.hasTarget = true → ∃ id, next.target = some id ∧
      Selected engine settings name cookie attempt vars id next.cookieId) := by
  intro next
  have incoming := @incomingCookie_eq engine name settings sticky cookie attempt vars
  cases chosen : incomingCookie (makeServiceConfig engine settings) cookie attempt vars with
  | some id =>
      obtain ⟨target, unnamed⟩ := selectTarget_of_chosen chosen
      rw [chosen] at incoming
      cases retried : vars.isRetry with
      | true =>
          rw [retried, if_pos rfl] at incoming
          cases incoming
      | false =>
          rw [retried, if_neg Bool.false_ne_true] at incoming
          rw [Placed, target, unnamed]
          refine ⟨?_, fun _ => ⟨id, rfl, .chosen retried incoming.symm⟩⟩
          rintro other ⟨⟩
          exact (of_stickyTarget incoming.symm).1
  | none =>
      obtain ⟨target, named⟩ := selectTarget_of_unchosen chosen
      have inside : Placed settings next := by
        intro id member
        rw [target] at member
        rcases Option.or_eq_some_iff.mp member with lent | ⟨_, kept⟩
        · exact lends id lent
        · exact placed id kept
      refine ⟨inside, fun has => ?_⟩
      obtain ⟨id, lent, _⟩ := (Option.any_eq_true _ _).mp has
      refine ⟨id, lent, ?_⟩
      rw [named has, ← target, lent, Option.bind_some,
        outgoingCookie_eq distinguishes sticky attempt (inside id lent)]
      apply Selected.lent
      cases retried : vars.isRetry with
      | true => exact .inl rfl
      | false =>
          rw [chosen, retried, if_neg Bool.false_ne_true] at incoming
          exact .inr incoming.symm

theorem shouldRetry_target (config : ServiceConfig) (vars : ForwardVars) (status : Option Nat) :
    (shouldRetry config vars status).2.target = vars.target := by
  have kept := (counted_countRetry config vars status).target
  dsimp only [shouldRetry]
  split
  · exact kept
  · split
    · exact kept
    · exact kept

variable {config : ServiceConfig} {cookie : Option String}

theorem Turns.next {attempt : Attempt} {vars next : ForwardVars} {replay : Replay}
    (turns : Turns config attempt vars (.replayed replay next)) :
    next.target = vars.target ∧ next.isRetry = true := by
  cases turns with
  | noTarget missing available => exact ⟨rfl, rfl⟩
  | asked asked =>
      have kept := shouldRetry_target config vars attempt.status
      rw [asked] at kept
      exact ⟨kept, rfl⟩

theorem carries_addCookie (headers : HeaderMap) (text : String) :
    Carries (addCookie headers text) text := by
  rw [Carries, addCookie, Table.get?_set_self]
  cases headers.get? "set-cookie" with
  | none => exact ⟨[], rfl⟩
  | some held =>
      cases held with
      | text value =>
          by_cases empty : value = ""
          · exact ⟨[], by simp [empty]⟩
          · exact ⟨[value], by simp [empty]⟩
      | list values => exact ⟨values, rfl⟩

/-- How the response of a request that was served relates to the endpoint. -/
inductive Served (engine : Engine) (settings : ServiceSettings) (name : CookieName)
    (cookie : Option String) (vars : ForwardVars) (attempts : List Attempt) (turns : List Turn)
    (outcome : Outcome) (id : String) : Prop
  | chosen : vars.isRetry = false → turns = [] →
      (∃ attempt ∈ attempts.head?,
        stickyTarget (stickyOf engine settings name) attempt.unhealthy cookie = some id) →
          outcome.issued = none → Served engine settings name cookie vars attempts turns outcome id
  | named (date : String) :
      outcome.issued =
        some (cookieText (stickyOf engine settings name) (engine.hash id) date) →
          Carries outcome.headers
            (cookieText (stickyOf engine settings name) (engine.hash id) date) →
            (vars.isRetry = true ∨ turns ≠ [] ∨ ∀ attempt ∈ attempts.head?,
              stickyTarget (stickyOf engine settings name) attempt.unhealthy cookie = none) →
                Served engine settings name cookie vars attempts turns outcome id

theorem served_of_respond {attempt : Attempt} {rest : List Attempt} {vars next : ForwardVars}
    {id : String} (selected : next.hasTarget = true → ∃ id, next.target = some id ∧
      Selected engine settings name cookie attempt vars id next.cookieId)
    (served : (respond next attempt).served = some id) :
    next.target = some id ∧
      Served engine settings name cookie vars (attempt :: rest) [] (respond next attempt) id := by
  cases has : next.hasTarget with
  | false =>
      rw [respond, if_neg (by simp [has])] at served
      cases served
  | true =>
      obtain ⟨other, target, cause⟩ := selected has
      have response : respond next attempt = ⟨next.target, next.cookieId, attempt.status,
          match next.cookieId with
          | some cookie => addCookie attempt.headers cookie
          | none => attempt.headers⟩ := if_pos has
      rw [response] at served
      obtain rfl : other = id := by
        rw [target] at served
        exact Option.some.inj served
      refine ⟨target, ?_⟩
      rw [response]
      cases outgoing : next.cookieId with
      | none =>
          rw [outgoing] at cause
          cases cause with
          | chosen first sent => exact .chosen first rfl ⟨attempt, rfl, sent⟩ rfl
      | some text =>
          rw [outgoing] at cause
          cases cause with
          | lent reason =>
              refine .named attempt.date rfl (carries_addCookie _ _) ?_
              rcases reason with retried | unsent
              · exact .inl retried
              · refine .inr (.inr ?_)
                rintro other ⟨⟩
                exact unsent

/-- A request that was served was sent where its cookie says, or is given a cookie that says
where it was sent. -/
theorem Course.served (distinguishes : Distinguishes engine settings.endpoints.keys)
    (sticky : settings.stickyCookieName = some name) {vars : ForwardVars}
    {attempts : List Attempt} {turns : List Turn} {ended : Option Outcome}
    (course : Course (makeServiceConfig engine settings) cookie vars attempts turns ended)
    (lends : ∀ attempt ∈ attempts, ∀ id ∈ attempt.borrowed, id ∈ settings.endpoints.keys)
    (placed : Placed settings vars) {outcome : Outcome} (ends : ended = some outcome)
    {id : String} (served : outcome.served = some id) :
    id ∈ settings.endpoints.keys ∧
      Served engine settings name cookie vars attempts turns outcome id := by
  induction course with
  | waiting vars => cases ends
  | answered vars attempt rest =>
      cases ends
      obtain ⟨lend, _⟩ := List.forall_mem_cons.mp lends
      obtain ⟨inside, selected⟩ := @selectTarget_cases engine name settings distinguishes sticky
        cookie attempt lend vars placed
      obtain ⟨target, how⟩ := served_of_respond selected served
      exact ⟨inside id target, how⟩
  | @replayed vars next attempt rest replay turns ended turned course ih =>
      obtain ⟨lend, later⟩ := List.forall_mem_cons.mp lends
      obtain ⟨inside, _⟩ := @selectTarget_cases engine name settings distinguishes sticky
        cookie attempt lend vars placed
      obtain ⟨target, retried⟩ := turned.next
      have again : Placed settings next := by
        rw [Placed, target]
        exact inside
      obtain ⟨member, how⟩ := ih later again ends
      refine ⟨member, ?_⟩
      cases how with
      | chosen first _ _ _ =>
          rw [retried] at first
          cases first
      | named date issued carries _ =>
          exact .named date issued carries (.inr (.inl (List.cons_ne_nil _ _)))

theorem cookiePair_cookieText (settings : ServiceSettings) (name : CookieName) (id date : String) :
    cookiePair (cookieText (stickyOf engine settings name) (engine.hash id) date) =
      pairFor engine name id := by
  have spelled : (cookieText (stickyOf engine settings name) (engine.hash id) date).toList =
      (pairFor engine name id).toList ++ ';' :: (" path=/; expires=" ++ date ++ "; max-age=" ++
        toString (stickyOf engine settings name).expires).toList := by
    simp [cookieText, pairFor, stickyOf]
  have kept : ∀ c ∈ (pairFor engine name id).toList, decide (c ≠ ';') = true := by
    intro c member
    rw [decide_eq_true_eq]
    rintro rfl
    simp only [pairFor, String.toList_append, List.mem_append] at member
    rcases member with (own | equals) | digits
    · exact name.whole own
    · exact absurd equals (by decide)
    · exact not_mem_digits (by decide) digits
  rw [cookiePair, spelled, List.takeWhile_append_of_pos kept, List.takeWhile_cons_of_neg (by simp),
    List.append_nil, String.ofList_toList]

theorem Course.outcome {vars : ForwardVars} {attempts : List Attempt} {turns : List Turn}
    {ended : Option Outcome} (course : Course config cookie vars attempts turns ended) :
    ∀ outcome ∈ ended, ∃ next attempt, outcome = respond next attempt := by
  induction course with
  | waiting vars => simp
  | answered vars attempt rest =>
      rintro outcome ⟨⟩
      exact ⟨_, _, rfl⟩
  | replayed turned course ih => exact ih

theorem served_of_issued {vars : ForwardVars} {attempt : Attempt} {text : String}
    (issued : (respond vars attempt).issued = some text) :
    ∃ id, (respond vars attempt).served = some id ∧ id ≠ "" := by
  cases has : vars.hasTarget with
  | false =>
      rw [respond, if_neg (by simp [has])] at issued
      cases issued
  | true =>
      rw [respond, if_pos has]
      obtain ⟨id, target, named⟩ := (Option.any_eq_true _ _).mp has
      exact ⟨id, target, of_decide_eq_true named⟩

/-- The sticky cookie that is held names an endpoint. -/
def Held (engine : Engine) (names : List String) (name : CookieName) (jar : Option String) : Prop :=
  ∀ pair ∈ jar, ∃ id ∈ names, pair = pairFor engine name id

theorem Visit.course (config : ServiceConfig) (visit : Visit) :
    Course config visit.cookie (startVars config visit.counters) visit.attempts
      (visit.run config).1 (visit.run config).2 := course_exchange _ _ _ _ _

theorem visit_served (distinguishes : Distinguishes engine settings.endpoints.keys)
    (sticky : settings.stickyCookieName = some name) {visit : Visit}
    (lends : ∀ attempt ∈ visit.attempts, ∀ id ∈ attempt.borrowed, id ∈ settings.endpoints.keys)
    {outcome : Outcome} {id : String}
    (ended : (visit.run (makeServiceConfig engine settings)).2 = some outcome)
    (served : outcome.served = some id) :
    id ∈ settings.endpoints.keys ∧
      Served engine settings name visit.cookie
        (startVars (makeServiceConfig engine settings) visit.counters) visit.attempts
        (visit.run (makeServiceConfig engine settings)).1 outcome id :=
  (visit.course _).served distinguishes sticky lends (fun _ member => by cases member) ended served

theorem keepCookie_issued {jar : Option String} {visit : Visit} {outcome : Outcome} {text : String}
    (ended : (visit.run config).2 = some outcome) (issued : outcome.issued = some text) :
    keepCookie config jar visit = some (cookiePair text) := by
  rw [keepCookie, ended, Option.bind_some, issued]

theorem keepCookie_kept {jar : Option String} {visit : Visit} {outcome : Outcome}
    (ended : (visit.run config).2 = some outcome) (issued : outcome.issued = none) :
    keepCookie config jar visit = jar := by
  rw [keepCookie, ended, Option.bind_some, issued]

theorem held_keepCookie (distinguishes : Distinguishes engine settings.endpoints.keys)
    (sticky : settings.stickyCookieName = some name) {jar : Option String} {visit : Visit}
    (held : Held engine settings.endpoints.keys name jar)
    (meets : Meets settings.endpoints.keys name jar visit) :
    Held engine settings.endpoints.keys name
      (keepCookie (makeServiceConfig engine settings) jar visit) := by
  cases ended : (visit.run (makeServiceConfig engine settings)).2 with
  | none =>
      rw [keepCookie, ended]
      exact held
  | some outcome =>
      cases issued : outcome.issued with
      | none =>
          rw [keepCookie_kept ended issued]
          exact held
      | some text =>
          obtain ⟨next, attempt, rfl⟩ := (visit.course _).outcome _ ended
          obtain ⟨id, served, _⟩ := served_of_issued issued
          obtain ⟨member, how⟩ := visit_served distinguishes sticky meets.lends ended served
          rw [keepCookie_issued ended issued]
          rintro pair ⟨⟩
          cases how with
          | chosen _ _ _ none => cases none.symm.trans issued
          | named date given _ _ =>
              cases given.symm.trans issued
              exact ⟨id, member, cookiePair_cookieText settings name id date⟩

theorem designates_of_meets (distinguishes : Distinguishes engine settings.endpoints.keys)
    (sticky : settings.stickyCookieName = some name) {jar : Option String} {visit : Visit}
    (held : Held engine settings.endpoints.keys name jar)
    (meets : Meets settings.endpoints.keys name jar visit) :
    Designates engine name (stickyOf engine settings name) (makeServiceConfig engine settings) jar
      visit := by
  intro outcome id ended served
  obtain ⟨member, how⟩ := visit_served distinguishes sticky meets.lends ended served
  cases how with
  | chosen _ alone sent none =>
      obtain ⟨attempt, first, target⟩ := sent
      rw [keepCookie_kept ended none]
      refine ⟨pair_of_stickyTarget distinguishes held meets.sends target, ?_⟩
      rw [none]
      refine iff_of_false Bool.false_ne_true (not_not_intro ⟨alone, attempt, first, ?_⟩)
      rw [target]
      rfl
  | named date issued _ unsent =>
      rw [keepCookie_issued ended issued, cookiePair_cookieText]
      refine ⟨rfl, ?_⟩
      rw [issued]
      refine iff_of_true rfl ?_
      rintro ⟨alone, attempt, first, chosen⟩
      rcases unsent with retried | turned | unsent
      · cases retried
      · exact turned alone
      · rw [unsent attempt first] at chosen
        cases chosen

/-- The cookie of a response leads the next request that presents it to the same endpoint. -/
theorem selectTarget_of_issued (distinguishes : Distinguishes engine settings.endpoints.keys)
    (sticky : settings.stickyCookieName = some name) {visit : Visit}
    (lends : ∀ attempt ∈ visit.attempts, ∀ id ∈ attempt.borrowed, id ∈ settings.endpoints.keys)
    {outcome : Outcome} {text : String}
    (ended : (visit.run (makeServiceConfig engine settings)).2 = some outcome)
    (issued : outcome.issued = some text) :
    Carries outcome.headers text ∧ ∃ id, outcome.served = some id ∧
      ∀ (counters : RetryCounters) (cookie : String) (attempt : Attempt),
        Presents name (cookiePair text) cookie → attempt.unhealthy id = false →
          (selectTarget (makeServiceConfig engine settings) (some cookie) attempt
            (startVars (makeServiceConfig engine settings) counters)).target = some id := by
  obtain ⟨next, last, rfl⟩ := (visit.course _).outcome _ ended
  obtain ⟨id, served, filled⟩ := served_of_issued issued
  obtain ⟨member, how⟩ := visit_served distinguishes sticky lends ended served
  cases how with
  | chosen _ _ _ none => cases none.symm.trans issued
  | named date given carries _ =>
      cases given.symm.trans issued
      refine ⟨carries, id, served, ?_⟩
      intro counters cookie attempt presents healthy
      rw [cookiePair_cookieText] at presents
      have chosen : incomingCookie (makeServiceConfig engine settings) (some cookie) attempt
          (startVars (makeServiceConfig engine settings) counters) = some id := by
        rw [incomingCookie, stickyCookie_eq sticky]
        exact stickyTarget_of_presents distinguishes member filled healthy presents
      rw [selectTarget, chosen]

end Laws

/-- A sticky cookie leads back to the endpoint that served its response, and over any sequence of
visits, the cookie that a client holds after one that was served designates the endpoint. -/
theorem sticky_cookies (engine : Engine) (settings : ServiceSettings) (name : CookieName)
    (sticky : settings.stickyCookieName = some name)
    (distinguishes : Distinguishes engine settings.endpoints.keys) :
    let config := makeServiceConfig engine settings
    let names := settings.endpoints.keys
    (∀ visit : Visit, (∀ attempt ∈ visit.attempts, ∀ id ∈ attempt.borrowed, id ∈ names) →
      ∀ outcome text, (visit.run config).2 = some outcome → outcome.issued = some text →
        Carries outcome.headers text ∧ ∃ id, outcome.served = some id ∧
          ∀ (counters : RetryCounters) (cookie : String) (attempt : Attempt),
            Presents name (cookiePair text) cookie → attempt.unhealthy id = false →
              (selectTarget config (some cookie) attempt (startVars config counters)).target =
                some id) ∧
    ∀ visits : List Visit, EveryStep (keepCookie config) (Meets names name) none visits →
      EveryStep (keepCookie config) (Designates engine name (stickyOf engine settings name) config)
        none visits := by
  intro config names
  constructor
  · intro visit lends outcome text ended issued
    exact selectTarget_of_issued distinguishes sticky lends ended issued
  · intro visits every
    have start : Held engine names name none := fun pair none => by cases none
    exact every.gives (fun jar visit held meets => held_keepCookie distinguishes sticky held meets)
      (fun jar visit held meets => designates_of_meets distinguishes sticky held meets) start

/-! Two endpoints behind a cookie. -/

def serverCookie : CookieName where
  text := "_srv_id"
  named := by decide
  plain := by decide
  whole := by decide
  trimmed := by decide +kernel

def twoEndpoints : ServiceSettings where
  endpoints := ⟨[("10.0.0.1:80", some 50), ("10.0.0.2:80", some 50)], by decide⟩
  stickyCookieName := some serverCookie
  stickyCookieExpires := none
  numRetries := some 1
  retryOn := some "5xx"

/-- Hashes that differ on the two endpoints, and the numbers of one digit. -/
def sampleEngine : Engine where
  hash id := if id = "10.0.0.1:80" then 7 else 9
  toInt text := if text = "5" then 5 else 0

theorem sampleEngine_distinguishes :
    Distinguishes sampleEngine twoEndpoints.endpoints.keys where
  nonzero := by decide
  distinct := by decide

def lendsTo (id : String) (status : Nat) : Attempt :=
  ⟨some id, fun _ => false, "", some status, Table.empty⟩

def firstVisit : Visit := ⟨none, ⟨0, 0, 0, 0⟩, [lendsTo "10.0.0.1:80" 200]⟩

def secondVisit : Visit := ⟨some "a=b; _srv_id=7", ⟨0, 0, 0, 0⟩, [lendsTo "10.0.0.2:80" 200]⟩

def retriedVisit : Visit :=
  ⟨some "_srv_id=7", ⟨0, 0, 0, 0⟩, [lendsTo "10.0.0.2:80" 503, lendsTo "10.0.0.2:80" 200]⟩

theorem sends_of_pieces {name : CookieName} {pair : Option String} {cookie : String}
    (pieces : ∀ piece ∈ cookie.toList.splitOn ';',
      (cookieEntry piece).map Prod.fst = some name.text → pair = some (trimPiece piece)) :
    Sends name pair cookie := by
  intro piece member value entry
  exact pieces piece member (by rw [entry, Option.map_some])

theorem firstVisit_kept :
    keepCookie (makeServiceConfig sampleEngine twoEndpoints) none firstVisit = some "_srv_id=7" := by
  decide +kernel

theorem secondVisit_kept :
    keepCookie (makeServiceConfig sampleEngine twoEndpoints) (some "_srv_id=7") secondVisit =
      some "_srv_id=7" := by
  decide +kernel

theorem lendsTo_endpoint {id : String} (member : id ∈ twoEndpoints.endpoints.keys) (status : Nat) :
    ∀ lent ∈ (lendsTo id status).borrowed, lent ∈ twoEndpoints.endpoints.keys := by
  intro lent same
  cases same
  exact member

/-- The second visit presents the cookie of the first; the third is retried on the other
endpoint. -/
theorem sticky_cookies_two :
    EveryStep (keepCookie (makeServiceConfig sampleEngine twoEndpoints))
      (Designates sampleEngine serverCookie (stickyOf sampleEngine twoEndpoints serverCookie)
        (makeServiceConfig sampleEngine twoEndpoints)) none
      [firstVisit, secondVisit, retriedVisit] := by
  have first : Meets twoEndpoints.endpoints.keys serverCookie none firstVisit :=
    ⟨fun cookie member => (nomatch member),
      List.forall_mem_singleton.mpr (lendsTo_endpoint (by decide) 200)⟩
  have second : Meets twoEndpoints.endpoints.keys serverCookie (some "_srv_id=7") secondVisit := by
    refine ⟨?_, List.forall_mem_singleton.mpr (lendsTo_endpoint (by decide) 200)⟩
    rintro cookie ⟨⟩
    exact sends_of_pieces (by decide +kernel)
  have third : Meets twoEndpoints.endpoints.keys serverCookie (some "_srv_id=7") retriedVisit := by
    refine ⟨?_, List.forall_mem_cons.mpr ⟨lendsTo_endpoint (by decide) 503,
      List.forall_mem_singleton.mpr (lendsTo_endpoint (by decide) 200)⟩⟩
    rintro cookie ⟨⟩
    exact sends_of_pieces (by decide +kernel)
  refine (sticky_cookies sampleEngine twoEndpoints serverCookie rfl
    sampleEngine_distinguishes).2 _ ⟨first, ?_⟩
  rw [firstVisit_kept]
  refine ⟨second, ?_⟩
  rw [secondVisit_kept]
  exact ⟨third, trivial⟩

end PjsForward

end Fgw
