import Fgw.SessionCore

/-!
When the request side and the response side of session persistence read one cookie alike.
The request side looks for the cookie in trimmed segments and cuts the untrimmed one; the
response side cuts a single `Set-Cookie` without looking at its name.
-/

namespace Fgw

open SessionConfig

section Cookies

variable (config : SessionConfig)

/-- The response sets the session cookie to the value, alone or as the first of that name in
a list, with any attributes. -/
def Names (value : Text) (response : SessionHead) : Prop :=
  match response.setCookie with
  | some (.single text) => pairOf text = config.cookiePrefix ++ value
  | some (.list texts) =>
      ∃ text, (texts.find? fun text => config.cookiePrefix.isPrefixOf text) = some text ∧
        pairOf text = config.cookiePrefix ++ value
  | none => False

/-- The first cookie of the session's name in the request, white space around it aside. -/
def Sends (value : Text) (request : SessionHead) : Prop :=
  ∃ cookies, request.header (utf16 "cookie") = some cookies ∧
    (((cookies.splitOn semicolon).map trim).find? fun cookie =>
      config.cookiePrefix.isPrefixOf cookie) = some (config.cookiePrefix ++ value)

/-- Nothing stands before that cookie, not even white space, since the last semicolon. -/
def SendsFlush (request : SessionHead) : Prop :=
  ∀ cookies cookie, request.header (utf16 "cookie") = some cookies →
    ((cookies.splitOn semicolon).find? fun cookie => config.cookiePrefix.isPrefixOf (trim cookie)) =
      some cookie → config.cookiePrefix <+: cookie

structure Preserving where
  key : Option Text
  head : SessionHead
  session : Value

def preserveAll (cache : SessionCache) (calls : List Preserving) : SessionCache :=
  calls.foldl (fun cache call => preserve config call.key call.head call.session cache) cache

/-- Whatever is stored for the response is restored for the request, if no later call stores
another session for the same value. -/
def RestoresSession (value : Text) (response request : SessionHead) : Prop :=
  ∀ (cache : SessionCache) (key : Option Text) (session : Value) (later : List Preserving),
    (∀ call ∈ later, preservedKey config call.key call.head ≠ some value) →
      sessionOf (preserveAll config (preserve config key response session cache) later)
        (config.reqKey request) = some session

/-- No `Set-Cookie` of the response sets the session cookie. -/
def NamesOthers (response : SessionHead) : Prop :=
  match response.setCookie with
  | some (.single text) => ¬ config.cookiePrefix <+: text
  | some (.list texts) => ∀ text ∈ texts, ¬ config.cookiePrefix <+: text
  | none => True

def KeepsOthers (own : Option Text) (response : SessionHead) : Prop :=
  ∀ (cache : SessionCache) (session : Value) (key : Option Text), key ≠ own →
    preserve config own response session cache key = cache key

/-- What is left of a single `Set-Cookie` is empty or the request's own key. -/
def CutsToOwn (own : Option Text) (response : SessionHead) : Prop :=
  ∀ text, response.setCookie = some (.single text) →
    (pairOf text).length ≤ config.cookiePrefix.length ∨
      own = some ((pairOf text).drop config.cookiePrefix.length)

end Cookies

section Keys

variable {config : SessionConfig}

theorem resCookieKey_of_names {value : Text} {response : SessionHead}
    (names : Names config value response) : config.resCookieKey response = some value := by
  have cut {text : Text} (pair : pairOf text = config.cookiePrefix ++ value) :
      ((some text).filter fun text => text ≠ []).map (fun text =>
        (pairOf text).drop config.cookiePrefix.length) = some value := by
    have written : text ≠ [] := by
      rintro rfl
      simp [pairOf, cookiePrefix] at pair
    simp [written, pair]
  unfold Names at names
  unfold resCookieKey chosenCookie
  rcases set : response.setCookie with _ | ⟨text⟩ | ⟨texts⟩
  · simp [set] at names
  · simp only [set] at names ⊢
    exact cut names
  · simp only [set] at names ⊢
    obtain ⟨text, found, pair⟩ := names
    rw [found]
    exact cut pair

/-- A segment cut at the length of the prefix: white space before the cookie shifts the cut
to the left, so that more than the value is left. -/
theorem cut_segment {value cookie : Text} (trimmed : trim cookie = config.cookiePrefix ++ value) :
    (config.cookiePrefix <+: cookie ∧
        trim (cookie.drop config.cookiePrefix.length) = trim value) ∨
      (¬ config.cookiePrefix <+: cookie ∧
        value.length < (trim (cookie.drop config.cookiePrefix.length)).length) := by
  obtain ⟨lead, trail, leadSkipped, trailSkipped, whole⟩ := exists_trimBy isSpaceCode cookie
  have core : trimBy isSpaceCode cookie = config.cookiePrefix ++ value := trimmed
  rw [core] at whole
  cases lead with
  | nil =>
      left
      rw [List.nil_append, List.append_assoc] at whole
      rw [whole]
      exact ⟨List.prefix_append _ _, by
        rw [List.drop_left]
        exact trimBy_append_skipped isSpaceCode value trailSkipped⟩
  | cons space lead =>
      right
      have blank := leadSkipped space List.mem_cons_self
      obtain ⟨first, name, spelled⟩ : ∃ first name, config.cookiePrefix = first :: name :=
        List.exists_cons_of_ne_nil (by simp [cookiePrefix])
      have solid : isSpaceCode first = false :=
        head_trimBy isSpaceCode cookie (by rw [core, spelled, List.cons_append])
      refine ⟨?_, ?_⟩
      · rintro ⟨rest, same⟩
        rw [whole, spelled] at same
        have clash : first = space := (List.cons.inj same).1
        rw [clash, blank] at solid
        cases solid
      · have kept : isSpaceCode equals = false := rfl
        have regroup : cookie =
            (space :: lead ++ config.sessionName) ++ equals :: (value ++ trail) := by
          rw [whole]
          simp [cookiePrefix]
        have short : config.cookiePrefix.length ≤ (space :: lead ++ config.sessionName).length := by
          simp [cookiePrefix]
        have ends : value.rdropWhile isSpaceCode = value := by
          have stable := rdropWhile_trimBy isSpaceCode cookie
          have spelledOut : config.cookiePrefix ++ value = config.sessionName ++ equals :: value := by
            simp [cookiePrefix]
          rw [core, spelledOut, rdropWhile_append_kept _ _ kept, List.append_cancel_left_eq,
            List.cons.injEq] at stable
          exact stable.2
        rw [regroup, List.drop_append_of_le_length short]
        unfold trim
        rw [trimBy_append_kept isSpaceCode _ kept, rdropWhile_append_skipped _ _ trailSkipped, ends]
        simp only [List.length_append, List.length_cons]
        omega

theorem reqCookieKey_of_sends {value : Text} {request : SessionHead}
    (sends : Sends config value request) :
    (SendsFlush config request ∧ config.reqCookieKey request = some (trim value)) ∨
      (¬ SendsFlush config request ∧
        ∃ key, config.reqCookieKey request = some key ∧ value.length < key.length) := by
  obtain ⟨cookies, carried, first⟩ := sends
  rw [List.find?_map, Option.map_eq_some_iff] at first
  obtain ⟨cookie, found, trimmed⟩ := first
  change ((cookies.splitOn semicolon).find? fun cookie =>
    config.cookiePrefix.isPrefixOf (trim cookie)) = some cookie at found
  have written : cookies ≠ [] := by
    rintro rfl
    have inside := List.mem_of_find?_eq_some found
    rw [List.splitOn_nil, List.mem_singleton] at inside
    subst cookie
    simp [trim, trimBy, cookiePrefix] at trimmed
  have key : config.reqCookieKey request =
      some (trim (cookie.drop config.cookiePrefix.length)) := by
    unfold reqCookieKey
    rw [carried, Option.filter_some, if_pos (by simpa using written)]
    dsimp only
    rw [found]
    rfl
  have flush : SendsFlush config request ↔ config.cookiePrefix <+: cookie := by
    constructor
    · intro all
      exact all cookies cookie carried found
    · intro here others other carriedOther foundOther
      rw [carried, Option.some.injEq] at carriedOther
      subst others
      rw [found, Option.some.injEq] at foundOther
      exact foundOther ▸ here
  rw [flush, key]
  exact (cut_segment trimmed).imp (fun plain => ⟨plain.1, congrArg some plain.2⟩)
    fun shifted => ⟨shifted.1, _, rfl, shifted.2⟩

theorem reqKey_of_cookies (cookies : config.type.getD .cookie = .cookie) (head : SessionHead) :
    config.reqKey head = config.reqCookieKey head := by
  rw [reqKey, cookies]

theorem resKey_of_cookies (cookies : config.type.getD .cookie = .cookie) (head : SessionHead) :
    config.resKey head = config.resCookieKey head := by
  rw [resKey, cookies]

theorem preservedKey_of_names (cookies : config.type.getD .cookie = .cookie) {value : Text}
    {response : SessionHead} (names : Names config value response) (key : Option Text) :
    preservedKey config key response = if value = [] then key else some value := by
  rw [preservedKey, resKey_of_cookies cookies, resCookieKey_of_names names]
  by_cases empty : value = []
  · rw [if_pos empty, empty, usable_nil, Option.none_or]
  · rw [if_neg empty, usable_some empty, Option.some_or]

theorem preserveAll_of_apart {key : Option Text} (later : List Preserving)
    (apart : ∀ call ∈ later, preservedKey config call.key call.head ≠ key) (cache : SessionCache) :
    preserveAll config cache later key = cache key := by
  induction later generalizing cache with
  | nil => rfl
  | cons call later ih =>
      have rest := ih (fun other member => apart other (List.mem_cons_of_mem _ member))
        (preserve config call.key call.head call.session cache)
      have kept : preserve config call.key call.head call.session cache key = cache key :=
        Function.update_of_ne (Ne.symm (apart call List.mem_cons_self)) _ _
      exact rest.trans kept

theorem restores_iff (cookies : config.type.getD .cookie = .cookie) {value : Text}
    {response request : SessionHead} (names : Names config value response)
    (sends : Sends config value request) :
    RestoresSession config value response request ↔
      value ≠ [] ∧ trim value = value ∧ SendsFlush config request := by
  have stored := preservedKey_of_names cookies names
  have asked := reqCookieKey_of_sends sends
  unfold RestoresSession
  rw [reqKey_of_cookies cookies]
  constructor
  · intro restores
    have found := restores (fun _ => none) none .null [] (fun _ inside => (nomatch inside))
    obtain ⟨key, sent, held⟩ := Option.bind_eq_some_iff.mp found
    have placed : some key = if value = [] then none else some value := by
      by_contra elsewhere
      rw [← stored] at elsewhere
      have untouched : preserve config none response .null (fun _ => none) (some key) = none :=
        Function.update_of_ne elsewhere _ _
      rw [preserveAll, List.foldl_nil, untouched] at held
      cases held
    by_cases empty : value = []
    · rw [if_pos empty] at placed
      cases placed
    · rw [if_neg empty, Option.some.injEq] at placed
      subst key
      obtain ⟨sentKey, _⟩ := usable_eq_some sent
      rcases asked with ⟨flush, cut⟩ | ⟨_, longer, cut, longerBy⟩
      · rw [sentKey, Option.some.injEq] at cut
        exact ⟨empty, cut.symm, flush⟩
      · rw [sentKey, Option.some.injEq] at cut
        rw [cut] at longerBy
        exact (Nat.lt_irrefl _ longerBy).elim
  · rintro ⟨written, trimmed, flush⟩ cache key session later apart
    obtain ⟨_, same⟩ := asked.resolve_right fun shifted => shifted.1 flush
    rw [same, trimmed, sessionOf, usable_some written, Option.bind_some,
      preserveAll_of_apart later apart, preserve, stored, if_neg written, Function.update_self]

theorem resCookieKey_of_namesOthers {response : SessionHead}
    (others : NamesOthers config response) :
    config.resCookieKey response =
      match response.setCookie with
      | some (.single text) => (usable (some text)).map fun text =>
          (pairOf text).drop config.cookiePrefix.length
      | _ => none := by
  unfold NamesOthers at others
  unfold resCookieKey chosenCookie
  rcases set : response.setCookie with _ | ⟨text⟩ | ⟨texts⟩
  · rfl
  · rfl
  · simp only [set] at others ⊢
    have none : (texts.find? fun text => config.cookiePrefix.isPrefixOf text) = none := by
      simpa using others
    rw [none]
    rfl

theorem keepsOthers_iff (cookies : config.type.getD .cookie = .cookie) (own : Option Text)
    {response : SessionHead} (others : NamesOthers config response) :
    KeepsOthers config own response ↔ CutsToOwn config own response := by
  have keeps : KeepsOthers config own response ↔ preservedKey config own response = own := by
    constructor
    · intro kept
      by_contra moved
      have held := kept (fun _ => none) .null _ moved
      rw [preserve, Function.update_self] at held
      cases held
    · intro same cache session key different
      rw [preserve, same, Function.update_of_ne different]
  rw [keeps, preservedKey, resKey_of_cookies cookies, resCookieKey_of_namesOthers others]
  unfold CutsToOwn
  rcases response.setCookie with _ | ⟨text⟩ | ⟨texts⟩
  · simp
  · simp only [Option.some.injEq, SetCookie.single.injEq, forall_eq']
    by_cases empty : text = []
    · simp [empty, pairOf]
    · rw [usable_some empty, Option.map_some]
      by_cases short : (pairOf text).length ≤ config.cookiePrefix.length
      · simp [short, List.drop_eq_nil_of_le short]
      · have written : (pairOf text).drop config.cookiePrefix.length ≠ [] := by
          rw [ne_eq, List.drop_eq_nil_iff]
          exact short
        rw [usable_some written, Option.some_or]
        simp only [short, false_or]
        exact eq_comm
  · simp

/-- A session survives the round trip through a cookie exactly if its value is not empty and
has no outer white space and no white space stands before the cookie in the request; and a
response that sets other cookies keeps the other keys exactly if it has a list of them, or
one that is cut to nothing or to the request's own key. -/
theorem session_roundTrip_iff (config : SessionConfig)
    (cookies : config.type.getD .cookie = .cookie) :
    (∀ value response request, Names config value response → Sends config value request →
      (RestoresSession config value response request ↔
        value ≠ [] ∧ trim value = value ∧ SendsFlush config request)) ∧
    ∀ own response, NamesOthers config response →
      (KeepsOthers config own response ↔ CutsToOwn config own response) :=
  ⟨fun _ _ _ names sends => restores_iff cookies names sends,
    fun own _ others => keepsOthers_iff cookies own others⟩

end Keys

/-! A cookie in second place. -/

def sidSession : SessionConfig := ⟨some .cookie, utf16 "sid"⟩

def requestWith (cookies : String) : SessionHead :=
  ⟨fun name => if name = utf16 "cookie" then some (utf16 cookies) else none, none⟩

def responseWith (cookie : String) : SessionHead :=
  ⟨fun _ => none, some (.single (utf16 cookie))⟩

theorem requestWith_cookie (cookies : String) :
    (requestWith cookies).header (utf16 "cookie") = some (utf16 cookies) := by
  simp [requestWith]

theorem names_responseWith {config : SessionConfig} {value : Text} {cookie : String}
    (pair : pairOf (utf16 cookie) = config.cookiePrefix ++ value) :
    Names config value (responseWith cookie) := pair

/-- The space after the semicolon is cut off instead of the `=`. -/
theorem secondCookie_not_restored :
    ¬ ∀ (config : SessionConfig), config.type.getD .cookie = .cookie →
      (∀ value response request, Names config value response → Sends config value request →
        RestoresSession config value response request) ∧
      ∀ own response, NamesOthers config response → KeepsOthers config own response := by
  intro claimed
  have restores := (claimed sidSession rfl).1 (utf16 "1") (responseWith "sid=1; Path=/")
    (requestWith "a=b; sid=1") (names_responseWith (by decide +kernel))
    ⟨_, requestWith_cookie _, by decide +kernel⟩ (fun _ => none) none .null []
    (fun _ inside => (nomatch inside))
  have missed : (sessionOf (preserveAll sidSession (preserve sidSession none
      (responseWith "sid=1; Path=/") .null fun _ => none) [])
        (sidSession.reqKey (requestWith "a=b; sid=1"))).isSome = false := by
    decide +kernel
  rw [restores] at missed
  cases missed

theorem sidSession_roundTrip :
    RestoresSession sidSession (utf16 "1") (responseWith "sid=1; Path=/") (requestWith "sid=1; a=b") ∧
      ¬ KeepsOthers sidSession none (responseWith "user=42") := by
  obtain ⟨roundTrip, others⟩ := session_roundTrip_iff sidSession rfl
  have flush : SendsFlush sidSession (requestWith "sid=1; a=b") := by
    intro cookies cookie carried found
    rw [requestWith_cookie, Option.some.injEq] at carried
    subst cookies
    have first : ((utf16 "sid=1; a=b").splitOn semicolon).find? (fun cookie =>
        sidSession.cookiePrefix.isPrefixOf (trim cookie)) = some (utf16 "sid=1") := by
      decide +kernel
    rw [first, Option.some.injEq] at found
    subst cookie
    decide +kernel
  refine ⟨(roundTrip _ _ _ (names_responseWith (by decide +kernel))
    ⟨_, requestWith_cookie _, by decide +kernel⟩).mpr ⟨by decide +kernel, by decide +kernel, flush⟩,
    fun kept => ?_⟩
  have apart : NamesOthers sidSession (responseWith "user=42") := by
    change ¬ sidSession.cookiePrefix <+: utf16 "user=42"
    decide +kernel
  exact absurd ((others none _ apart).mp kept (utf16 "user=42") rfl) (by decide +kernel)

end Fgw
