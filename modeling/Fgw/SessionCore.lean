import Fgw.Library.Trim
import Fgw.ScriptValue
import Mathlib.Logic.Function.Basic

/-!
Session persistence: the keys that a request and a response carry in cookies or in a header,
and the cache of sessions under these keys.  All instances share `$sessionKey`.
-/

namespace Fgw

/-- A text in UTF-16 units. -/
abbrev Text := List Nat

def semicolon : Nat := 59

def equals : Nat := 61

def trim (text : Text) : Text := trimBy isSpaceCode text

/-- A decoder keeps several headers of one name only for `set-cookie`. -/
inductive SetCookie
  | single (text : Text)
  | list (texts : List Text)
  deriving DecidableEq, Repr

/-- `header` answers for every name but `set-cookie`. -/
structure SessionHead where
  header : Text → Option Text
  setCookie : Option SetCookie

inductive SessionType
  | cookie
  | header
  deriving DecidableEq, Repr

structure SessionConfig where
  type : Option SessionType
  sessionName : Text
  deriving DecidableEq, Repr

namespace SessionConfig

variable (config : SessionConfig)

def cookiePrefix : Text := config.sessionName ++ [equals]

def reqCookieKey (head : SessionHead) : Option Text :=
  match (head.header (utf16 "cookie")).filter fun cookies => cookies ≠ [] with
  | none => none
  | some cookies =>
      ((cookies.splitOn semicolon).find? fun cookie =>
        config.cookiePrefix.isPrefixOf (trim cookie)).map fun cookie =>
          trim (cookie.drop config.cookiePrefix.length)

/-- The text up to its first semicolon. -/
def pairOf (text : Text) : Text := text.takeWhile fun unit => unit ≠ semicolon

/-- The `Set-Cookie` header that the key is taken from. -/
def chosenCookie (head : SessionHead) : Option Text :=
  match head.setCookie with
  | some (.list texts) => texts.find? fun text => config.cookiePrefix.isPrefixOf text
  | some (.single text) => some text
  | none => some []

def resCookieKey (head : SessionHead) : Option Text :=
  ((config.chosenCookie head).filter fun text => text ≠ []).map fun text =>
    (pairOf text).drop config.cookiePrefix.length

def headerKey (head : SessionHead) : Option Text := head.header config.sessionName

def reqKey (head : SessionHead) : Option Text :=
  match config.type.getD .cookie with
  | .cookie => config.reqCookieKey head
  | .header => config.headerKey head

def resKey (head : SessionHead) : Option Text :=
  match config.type.getD .cookie with
  | .cookie => config.resCookieKey head
  | .header => config.headerKey head

end SessionConfig

/-- A key that is a non-empty text. -/
def usable (key : Option Text) : Option Text := key.filter fun text => text ≠ []

@[simp] theorem usable_none : usable none = none := rfl

@[simp] theorem usable_nil : usable (some []) = none := rfl

theorem usable_some {text : Text} (written : text ≠ []) : usable (some text) = some text := by
  rw [usable, Option.filter_some, if_pos (by simpa using written)]

theorem usable_eq_some {key : Option Text} {text : Text} (found : usable key = some text) :
    key = some text ∧ text ≠ [] := by
  obtain ⟨same, written⟩ := Option.filter_eq_some_iff.mp found
  exact ⟨same, by simpa using written⟩

/-- The sessions of one instance, by key. -/
abbrev SessionCache := Option Text → Option Value

/-- What `restore` returns once it has set `$sessionKey`. -/
def sessionOf (cache : SessionCache) (key : Option Text) : Option Value :=
  (usable key).bind fun text => cache (some text)

/-- `$sessionKey` after `preserve`. -/
def preservedKey (config : SessionConfig) (key : Option Text) (head : SessionHead) : Option Text :=
  (usable (config.resKey head)).or key

def preserve (config : SessionConfig) (key : Option Text) (head : SessionHead) (session : Value)
    (cache : SessionCache) : SessionCache :=
  Function.update cache (preservedKey config key head) (some session)

end Fgw
