import Fgw.Library.SharedWrites
import Fgw.PjsForwardCore
import Fgw.PjsRoute
import Mathlib.Data.Bool.AllAny

/-!
Lists of `name=value` pairs as the pjs gateway reads them: the parameters of a query, the arguments
of a form, and cookies.
-/

namespace Fgw

namespace PjsSrAuth

def splitPairs (sep : Char) (text : String) : Table String :=
  ((text.toList.splitOn sep).filterMap PjsForward.cookieEntry).foldl
    (fun entries entry => entries.set entry.1 entry.2) Table.empty

def getArgs (arg : String) : Option (Table String) :=
  if arg = "" then none else some (splitPairs '&' arg)

def getCookies (cookie : String) : Option (Table String) :=
  if cookie = "" then none else some (splitPairs ';' cookie)

end PjsSrAuth

namespace PjsArguments

structure Pair where
  name : String
  value : String
  plainName : ∀ c ∈ name.toList, c ∉ ['=', '&', ';', '?', '#'] ∧ isSpaceCode c.toNat = false
  plainValue : ∀ c ∈ value.toList, c ∉ ['&', ';', '#'] ∧ isSpaceCode c.toNat = false

namespace Pair

def chars (pair : Pair) : List Char := pair.name.toList ++ '=' :: pair.value.toList

def written (pairs : List Pair) : List (String × String) :=
  pairs.map fun pair => (pair.name, pair.value)

end Pair

def argsText (pairs : List Pair) : String :=
  String.ofList (['&'].intercalate (pairs.map Pair.chars))

def cookiesText (pairs : List Pair) : String :=
  String.ofList ([';', ' '].intercalate (pairs.map Pair.chars))

def fragmentText : Option String → String
  | none => ""
  | some fragment => "#" ++ fragment

/-- `path?n1=v1&n2=v2`, with a fragment or without. -/
def queryText (path : String) (pairs : List Pair) (fragment : Option String) : String :=
  path ++ "?" ++ argsText pairs ++ fragmentText fragment

/-- Every name is read as the last value that was given for it. -/
def ReadsWhole (pairs : List Pair) (read : String → Option String) : Prop :=
  ∀ name value, lastWrite (Pair.written pairs) name = some value → read name = some value

/-- The last value of a name has no equals sign. -/
def NoEquals (pairs : List Pair) : Prop :=
  ∀ name value, lastWrite (Pair.written pairs) name = some value → '=' ∉ value.toList

/-- The pairs up to the first one whose value has a question mark. -/
def uptoMark : List Pair → List Pair
  | [] => []
  | pair :: rest => if '?' ∈ pair.value.toList then [pair] else pair :: uptoMark rest

/-- A value up to its first equals sign or question mark. -/
def cutValue (value : String) : String :=
  String.ofList ((value.toList.takeWhile (· ≠ '?')).takeWhile (· ≠ '='))

/-- The last value of a name is also, cut, the last one of the pairs that are looked at. -/
def EndsBeforeMark (pairs : List Pair) : Prop :=
  ∀ name value, lastWrite (Pair.written pairs) name = some value →
    lastWrite ((uptoMark pairs).map fun pair => (pair.name, cutValue pair.value)) name = some value

theorem splitOn_pair {name : List Char} (plain : '=' ∉ name) (value : List Char) :
    ∃ rest, (name ++ '=' :: value).splitOn '=' = name :: value.takeWhile (· ≠ '=') :: rest := by
  rw [List.splitOn_append_cons_self_of_not_mem plain]
  obtain ⟨first, rest, pieces⟩ := List.exists_cons_of_ne_nil (List.splitOn_ne_nil '=' value)
  have head : (value.splitOn '=').head? = some (value.takeWhile (· ≠ '=')) := head?_splitOn value
  rw [pieces, List.head?_cons, Option.some.injEq] at head
  exact ⟨rest, by rw [pieces, head]⟩

namespace Pair

variable (pair : Pair)

theorem not_mem_name {c : Char} (separates : c ∈ ['=', '&', ';', '?', '#']) :
    c ∉ pair.name.toList := fun member => (pair.plainName c member).1 separates

theorem not_mem_chars {c : Char} (separates : c ∈ ['&', ';', '#']) : c ∉ pair.chars := by
  rw [chars, List.mem_append, List.mem_cons, not_or, not_or]
  have listed : c = '&' ∨ c = ';' ∨ c = '#' := by simpa using separates
  refine ⟨pair.not_mem_name ?_, ?_, fun member => (pair.plainValue c member).1 separates⟩
  · rcases listed with rfl | rfl | rfl <;> simp
  · rcases listed with rfl | rfl | rfl <;> decide

/-- A pair is read as its name and its value up to the next equals sign. -/
theorem cookieEntry_chars (lead : List Char) (blank : ∀ c ∈ lead, isSpaceCode c.toNat = true) :
    PjsForward.cookieEntry (lead ++ pair.chars) =
      some (pair.name, String.ofList (pair.value.toList.takeWhile (· ≠ '='))) := by
  have front : '=' ∉ lead ++ pair.name.toList := by
    rw [List.mem_append, not_or]
    refine ⟨fun member => ?_, pair.not_mem_name (by simp)⟩
    exact absurd (blank '=' member) (by decide)
  obtain ⟨rest, pieces⟩ := splitOn_pair front pair.value.toList
  have spelled : lead ++ pair.chars = lead ++ pair.name.toList ++ '=' :: pair.value.toList := by
    rw [chars, List.append_assoc]
  have named : trimText (String.ofList (lead ++ pair.name.toList)) = pair.name := by
    rw [trimText, String.toList_ofList, trimBy_skipped_append _ blank, trimBy_of_kept,
      String.ofList_toList]
    exact fun c member => (pair.plainName c member).2
  have valued : trimText (String.ofList (pair.value.toList.takeWhile (· ≠ '='))) =
      String.ofList (pair.value.toList.takeWhile (· ≠ '=')) := by
    rw [trimText, String.toList_ofList, trimBy_of_kept]
    exact fun c member => (pair.plainValue c ((List.takeWhile_sublist _).subset member)).2
  rw [PjsForward.cookieEntry, spelled, pieces]
  simp only [named, valued]

end Pair

/-! Arguments and cookies. -/

def readEntries (pairs : List Pair) : List (String × String) :=
  pairs.map fun pair => (pair.name, String.ofList (pair.value.toList.takeWhile (· ≠ '=')))

theorem filterMap_chars (lead : List Char) (blank : ∀ c ∈ lead, isSpaceCode c.toNat = true)
    (pairs : List Pair) :
    (pairs.map fun pair => lead ++ pair.chars).filterMap PjsForward.cookieEntry =
      readEntries pairs := by
  induction pairs with
  | nil => rfl
  | cons pair pairs ih =>
      rw [List.map_cons, List.filterMap_cons, pair.cookieEntry_chars lead blank, ih]
      rfl

theorem get?_splitPairs (sep : Char) (text name : String) :
    (PjsSrAuth.splitPairs sep text).get? name =
      lastWrite ((text.toList.splitOn sep).filterMap PjsForward.cookieEntry) name := by
  rw [PjsSrAuth.splitPairs, Table.get?_foldl_set, Table.get?_empty, Option.or_none]

theorem argsEntries (pairs : List Pair) :
    ((argsText pairs).toList.splitOn '&').filterMap PjsForward.cookieEntry =
      readEntries pairs := by
  cases pairs with
  | nil => rfl
  | cons pair pairs =>
      rw [argsText, String.toList_ofList, List.splitOn_intercalate '&']
      · exact filterMap_chars [] (fun c member => absurd member List.not_mem_nil) _
      · intro piece inside
        obtain ⟨other, _, rfl⟩ := List.mem_map.mp inside
        exact other.not_mem_chars (by simp)
      · exact List.cons_ne_nil _ _

/-- The blank after a semicolon belongs to the piece that follows. -/
theorem intercalate_blank (first : List Char) (rest : List (List Char)) :
    [';', ' '].intercalate (first :: rest) = [';'].intercalate (first :: rest.map (' ' :: ·)) := by
  induction rest generalizing first with
  | nil => rfl
  | cons next rest ih =>
      rw [List.intercalate_cons_cons, ih, List.map_cons, List.intercalate_cons_cons]
      cases rest with
      | nil => simp
      | cons other rest => simp [List.intercalate_cons_cons]

theorem cookiesEntries (pairs : List Pair) :
    ((cookiesText pairs).toList.splitOn ';').filterMap PjsForward.cookieEntry =
      readEntries pairs := by
  cases pairs with
  | nil => rfl
  | cons pair pairs =>
      have first := pair.cookieEntry_chars [] fun c member => absurd member List.not_mem_nil
      rw [List.nil_append] at first
      rw [cookiesText, String.toList_ofList, List.map_cons, intercalate_blank,
        List.splitOn_intercalate ';', List.filterMap_cons, first]
      · rw [List.map_map]
        have blank : ∀ c ∈ [' '], isSpaceCode c.toNat = true := List.forall_mem_singleton.mpr rfl
        exact congrArg (List.cons _) (filterMap_chars [' '] blank pairs)
      · intro piece inside
        rcases List.mem_cons.mp inside with rfl | later
        · exact pair.not_mem_chars (by simp)
        · obtain ⟨_, member, rfl⟩ := List.mem_map.mp later
          obtain ⟨other, _, rfl⟩ := List.mem_map.mp member
          rw [List.mem_cons, not_or]
          exact ⟨by decide, other.not_mem_chars (by simp)⟩
      · exact List.cons_ne_nil _ _

theorem lastWrite_map {α β : Type} (f : α → β) (writes : List (String × α)) (name : String) :
    lastWrite (writes.map fun write => (write.1, f write.2)) name =
      (lastWrite writes name).map f := by
  induction writes with
  | nil => rfl
  | cons write rest ih =>
      rw [List.map_cons, lastWrite, ih, lastWrite]
      cases lastWrite rest name with
      | some value => rfl
      | none =>
          rw [Option.map_none, Option.none_or, Option.none_or]
          split <;> rfl

theorem lastWrite_readEntries (pairs : List Pair) (name : String) :
    lastWrite (readEntries pairs) name = (lastWrite (Pair.written pairs) name).map
      fun value => String.ofList (value.toList.takeWhile (· ≠ '=')) := by
  rw [← lastWrite_map, Pair.written, List.map_map]
  rfl

theorem takeWhile_eq_self_iff (value : String) (c : Char) :
    String.ofList (value.toList.takeWhile (· ≠ c)) = value ↔ c ∉ value.toList := by
  rw [← String.toList_inj, String.toList_ofList, List.takeWhile_eq_self_iff]
  constructor
  · intro kept member
    simpa using kept c member
  · intro absent other member
    exact decide_eq_true fun same => absent (same ▸ member)

theorem readsWhole_entries_iff (pairs : List Pair) :
    ReadsWhole pairs (lastWrite (readEntries pairs)) ↔ NoEquals pairs := by
  rw [ReadsWhole, NoEquals]
  refine forall_congr' fun name => forall_congr' fun value => imp_congr_right fun last => ?_
  rw [lastWrite_readEntries, last, Option.map_some, Option.some.injEq, takeWhile_eq_self_iff]

/-! Parameters. -/

/-- A pair up to the first question mark in its value. -/
def Pair.marked (pair : Pair) : List Char :=
  pair.name.toList ++ '=' :: pair.value.toList.takeWhile (· ≠ '?')

theorem takeWhile_pair (pair : Pair) (more : List Char) :
    (pair.chars ++ more).takeWhile (· ≠ '?') =
      pair.name.toList ++ '=' :: (pair.value.toList ++ more).takeWhile (· ≠ '?') := by
  have named : ∀ c ∈ pair.name.toList, decide (c ≠ '?') = true := fun c member =>
    decide_eq_true fun same => pair.not_mem_name (by simp) (same ▸ member)
  rw [Pair.chars, List.append_assoc, List.cons_append, List.takeWhile_append_of_pos named,
    List.takeWhile_cons_of_pos (by decide)]

theorem takeWhile_unmarked {pair : Pair} (unmarked : '?' ∉ pair.value.toList)
    (more : List Char) : (pair.chars ++ more).takeWhile (· ≠ '?') =
      pair.chars ++ more.takeWhile (· ≠ '?') := by
  have valued : ∀ c ∈ pair.value.toList, decide (c ≠ '?') = true := fun c member =>
    decide_eq_true fun same => unmarked (same ▸ member)
  rw [takeWhile_pair, List.takeWhile_append_of_pos valued, Pair.chars, List.append_assoc,
    List.cons_append]

theorem takeWhile_marked {pair : Pair} (mark : '?' ∈ pair.value.toList) (more : List Char) :
    (pair.chars ++ more).takeWhile (· ≠ '?') = pair.marked := by
  have stops : ¬ (pair.value.toList.takeWhile (· ≠ '?')).length = pair.value.toList.length := by
    intro same
    have whole := (List.takeWhile_prefix _).eq_of_length same
    rw [List.takeWhile_eq_self_iff] at whole
    simpa using whole '?' mark
  rw [takeWhile_pair, List.takeWhile_append, if_neg stops, Pair.marked]

theorem takeWhile_joined (pairs : List Pair) :
    (['&'].intercalate (pairs.map Pair.chars)).takeWhile (· ≠ '?') =
      ['&'].intercalate ((uptoMark pairs).map Pair.marked) := by
  induction pairs with
  | nil => rfl
  | cons pair pairs ih =>
      by_cases mark : '?' ∈ pair.value.toList
      · rw [uptoMark, if_pos mark, List.map_singleton, List.intercalate_singleton]
        cases pairs with
        | nil =>
            have alone := takeWhile_marked mark []
            rw [List.append_nil] at alone
            rw [List.map_singleton, List.intercalate_singleton, alone]
        | cons next pairs =>
            rw [List.map_cons, List.map_cons, List.intercalate_cons_cons, List.append_assoc,
              takeWhile_marked mark]
      · have kept : pair.marked = pair.chars := by
          have alone := takeWhile_unmarked mark []
          rw [takeWhile_pair, List.append_nil, List.takeWhile_nil, List.append_nil] at alone
          exact alone
        rw [uptoMark, if_neg mark, List.map_cons, List.map_cons, kept]
        cases pairs with
        | nil =>
            have alone := takeWhile_unmarked mark []
            rw [List.append_nil, List.takeWhile_nil, List.append_nil] at alone
            rw [uptoMark, List.map_nil, List.map_nil, List.intercalate_singleton, alone]
        | cons next pairs =>
            have filled : (uptoMark (next :: pairs)).map Pair.marked ≠ [] := by
              rw [uptoMark]
              split <;> simp
            have more : (next :: pairs).map Pair.chars ≠ [] := by simp
            rw [List.intercalate_cons_of_ne_nil more, List.intercalate_cons_of_ne_nil filled,
              List.append_assoc, List.append_assoc, takeWhile_unmarked mark, List.singleton_append,
              List.takeWhile_cons_of_pos (by decide), ih, List.singleton_append]

theorem not_mem_argsText {pairs : List Pair} : '#' ∉ (argsText pairs).toList := by
  rw [argsText, String.toList_ofList]
  induction pairs with
  | nil => simp
  | cons pair pairs ih =>
      have plain : '#' ∉ pair.chars := pair.not_mem_chars (by simp)
      cases pairs with
      | nil => rwa [List.map_singleton, List.intercalate_singleton]
      | cons next pairs =>
          rw [List.map_cons, List.intercalate_cons_of_ne_nil (by simp), List.mem_append,
            List.mem_append, not_or, not_or]
          exact ⟨⟨plain, by decide⟩, ih⟩

/-- Up to its hash sign, the text after the question mark is the pairs. -/
theorem takeWhile_query (pairs : List Pair) (fragment : Option String) :
    ((argsText pairs).toList ++ (fragmentText fragment).toList).takeWhile (· ≠ '#') =
      (argsText pairs).toList := by
  have kept : ∀ c ∈ (argsText pairs).toList, decide (c ≠ '#') = true := fun c member =>
    decide_eq_true fun same => not_mem_argsText (same ▸ member)
  rw [List.takeWhile_append_of_pos kept]
  cases fragment with
  | none => simp [fragmentText]
  | some fragment => simp [fragmentText]

theorem takeWhile_comm (p q : Char → Bool) (chars : List Char) :
    (chars.takeWhile p).takeWhile q = (chars.takeWhile q).takeWhile p := by
  rw [List.takeWhile_takeWhile, List.takeWhile_takeWhile]
  simp only [and_comm]

/-- The second component of a text, up to its hash sign, holds the parameters. -/
theorem getParameters_of_component {text : String} {component : List Char}
    (second : (text.toList.splitOn '?')[1]? = some component) :
    PjsRoute.getParameters text = if component.takeWhile (· ≠ '#') = [] then Table.empty
      else (((component.takeWhile (· ≠ '#')).splitOn '&').map PjsRoute.parameterEntry).foldl
        (fun params entry => params.set entry.1 entry.2) Table.empty := by
  have cut : (component.splitOn '#').head? = some (component.takeWhile (· ≠ '#')) :=
    head?_splitOn component
  rw [PjsRoute.getParameters, second, Option.bind_some, PjsRoute.orNone]
  by_cases empty : component = []
  · rw [if_pos empty, if_pos (by rw [empty, List.takeWhile_nil])]
  · rw [if_neg empty]
    dsimp only
    rw [cut, Option.bind_some, PjsRoute.orNone]
    by_cases none : component.takeWhile (· ≠ '#') = []
    · rw [if_pos none, if_pos none]
    · rw [if_neg none, if_neg none]

theorem parameterEntry_marked (pair : Pair) :
    PjsRoute.parameterEntry pair.marked = (pair.name, some (cutValue pair.value)) := by
  obtain ⟨rest, pieces⟩ := splitOn_pair (pair.not_mem_name (c := '=') (by simp))
    (pair.value.toList.takeWhile (· ≠ '?'))
  rw [PjsRoute.parameterEntry, Pair.marked, pieces]
  simp [cutValue]

theorem second_component {path : String} (plain : '?' ∉ path.toList) (pairs : List Pair)
    (fragment : Option String) :
    ((queryText path pairs fragment).toList.splitOn '?')[1]? =
      some (((argsText pairs).toList ++ (fragmentText fragment).toList).takeWhile (· ≠ '?')) := by
  have spelled : (queryText path pairs fragment).toList =
      path.toList ++ '?' :: ((argsText pairs).toList ++ (fragmentText fragment).toList) := by
    simp [queryText]
  rw [spelled, List.splitOn_append_cons_self_of_not_mem plain, List.getElem?_cons_succ,
    ← List.head?_eq_getElem?, head?_splitOn]

theorem get?_getParameters {path : String} (plain : '?' ∉ path.toList) (pairs : List Pair)
    (fragment : Option String) (name : String) :
    ((PjsRoute.getParameters (queryText path pairs fragment)).get? name).join =
      lastWrite ((uptoMark pairs).map fun pair => (pair.name, cutValue pair.value)) name := by
  rw [getParameters_of_component (second_component plain pairs fragment), takeWhile_comm,
    takeWhile_query, argsText, String.toList_ofList, takeWhile_joined]
  cases pairs with
  | nil => rfl
  | cons pair pairs =>
      obtain ⟨first, rest, seen⟩ : ∃ first rest, uptoMark (pair :: pairs) = first :: rest := by
        rw [uptoMark]
        split
        · exact ⟨_, _, rfl⟩
        · exact ⟨_, _, rfl⟩
      have pieces : (['&'].intercalate ((first :: rest).map Pair.marked)).splitOn '&' =
          (first :: rest).map Pair.marked := by
        refine List.splitOn_intercalate '&' ?_ (List.cons_ne_nil _ _)
        intro piece inside
        obtain ⟨other, _, rfl⟩ := List.mem_map.mp inside
        have plain : '&' ∉ other.chars := other.not_mem_chars (by simp)
        rw [Pair.chars, List.mem_append, List.mem_cons, not_or, not_or] at plain
        rw [Pair.marked, List.mem_append, List.mem_cons, not_or, not_or]
        exact ⟨plain.1, plain.2.1, fun member =>
          plain.2.2 ((List.takeWhile_sublist _).subset member)⟩
      have filled : ['&'].intercalate ((first :: rest).map Pair.marked) ≠ [] := by
        intro empty
        rw [empty, List.splitOn_nil] at pieces
        simp [Pair.marked] at pieces
      rw [seen, if_neg filled, pieces, List.map_map, Table.get?_foldl_set, Table.get?_empty,
        Option.or_none]
      have entries : (first :: rest).map (PjsRoute.parameterEntry ∘ Pair.marked) =
          ((first :: rest).map fun pair => (pair.name, cutValue pair.value)).map
            fun write => (write.1, some write.2) := by
        rw [List.map_map]
        exact List.map_congr_left fun other _ => parameterEntry_marked other
      rw [entries, lastWrite_map]
      cases lastWrite ((first :: rest).map fun pair => (pair.name, cutValue pair.value)) name with
      | none => rfl
      | some value => rfl

/-! Whole values. -/

theorem splitPairs_of_empty {sep : Char} {pairs : List Pair} {text name : String}
    (entries : (text.toList.splitOn sep).filterMap PjsForward.cookieEntry = readEntries pairs) :
    ((if text = "" then none else some (PjsSrAuth.splitPairs sep text)).bind
      fun args => args.get? name) = lastWrite (readEntries pairs) name := by
  by_cases empty : text = ""
  · rw [if_pos empty, Option.bind_none, ← entries, empty]
    rfl
  · rw [if_neg empty, Option.bind_some, get?_splitPairs, entries]

/-- When each of the readers keeps every value. -/
theorem wholeValues_iff {path : String} (plain : '?' ∉ path.toList) (pairs : List Pair)
    (fragment : Option String) :
    (ReadsWhole pairs (fun name =>
      ((PjsRoute.getParameters (queryText path pairs fragment)).get? name).join) ↔
        EndsBeforeMark pairs) ∧
    (ReadsWhole pairs (fun name =>
      (PjsSrAuth.getArgs (argsText pairs)).bind fun args => args.get? name) ↔ NoEquals pairs) ∧
    (ReadsWhole pairs (fun name =>
      (PjsSrAuth.getCookies (cookiesText pairs)).bind fun cookies => cookies.get? name) ↔
        NoEquals pairs) ∧
    (ReadsWhole pairs (PjsForward.getCookies (cookiesText pairs)).get? ↔ NoEquals pairs) := by
  refine ⟨?_, ?_, ?_, ?_⟩
  · simp only [get?_getParameters plain]
    exact Iff.rfl
  · simp only [PjsSrAuth.getArgs, splitPairs_of_empty (argsEntries pairs)]
    exact readsWhole_entries_iff pairs
  · simp only [PjsSrAuth.getCookies, splitPairs_of_empty (cookiesEntries pairs)]
    exact readsWhole_entries_iff pairs
  · have read : (PjsForward.getCookies (cookiesText pairs)).get? =
        lastWrite (readEntries pairs) := by
      funext name
      rw [← cookiesEntries pairs, ← get?_splitPairs]
      rfl
    rw [read]
    exact readsWhole_entries_iff pairs

def equation : Pair :=
  ⟨"t", "a=b", List.all_iff_forall_prop.mp (by decide), List.all_iff_forall_prop.mp (by decide)⟩

def timed (value : String) (plain : value.toList.all fun c =>
    c ∉ ['&', ';', '#'] && !isSpaceCode c.toNat) : Pair where
  name := "t"
  value := value
  plainName := List.all_iff_forall_prop.mp (by decide)
  plainValue := by simpa using plain

def numbered : Pair :=
  ⟨"n", "1", List.all_iff_forall_prop.mp (by decide), List.all_iff_forall_prop.mp (by decide)⟩

/-- The value that would be cut is not the last of its name. -/
def overwritten : List Pair := [equation, numbered, timed "2" (by decide)]

theorem lastWrite_overwritten {name value : String}
    (last : lastWrite (Pair.written overwritten) name = some value) :
    name = "t" ∧ value = "2" ∨ name = "n" ∧ value = "1" := by
  have entries : Pair.written overwritten = [("t", "a=b"), ("n", "1"), ("t", "2")] := rfl
  rw [entries] at last
  by_cases time : "t" = name
  · simp only [lastWrite, if_pos time, Option.none_or, Option.some_or, Option.some.injEq] at last
    exact .inl ⟨time.symm, last.symm⟩
  · by_cases number : "n" = name
    · simp only [lastWrite, if_neg time, if_pos number, Option.none_or, Option.some_or,
        Option.some.injEq] at last
      exact .inr ⟨number.symm, last.symm⟩
    · simp [lastWrite, time, number] at last

theorem overwritten_whole :
    ReadsWhole overwritten (fun name =>
      ((PjsRoute.getParameters (queryText "/a" overwritten (some "top?"))).get? name).join) ∧
    ReadsWhole overwritten (fun name =>
      (PjsSrAuth.getArgs (argsText overwritten)).bind fun args => args.get? name) ∧
    ReadsWhole overwritten (fun name =>
      (PjsSrAuth.getCookies (cookiesText overwritten)).bind fun cookies => cookies.get? name) ∧
    ReadsWhole overwritten (PjsForward.getCookies (cookiesText overwritten)).get? := by
  have noEquals : NoEquals overwritten := by
    intro name value last
    rcases lastWrite_overwritten last with ⟨_, rfl⟩ | ⟨_, rfl⟩ <;> decide
  have ends : EndsBeforeMark overwritten := by
    intro name value last
    rcases lastWrite_overwritten last with ⟨rfl, rfl⟩ | ⟨rfl, rfl⟩ <;> decide +kernel
  obtain ⟨parameters, args, cookies, sticky⟩ :=
    wholeValues_iff (show '?' ∉ "/a".toList by decide) overwritten (some "top?")
  exact ⟨parameters.mpr ends, args.mpr noEquals, cookies.mpr noEquals, sticky.mpr noEquals⟩

/-- A value with an equals sign in it is cut there. -/
theorem equalsSign_cuts :
    ¬ ∀ (path : String) (pairs : List Pair) (fragment : Option String), '?' ∉ path.toList →
      ReadsWhole pairs (fun name =>
        ((PjsRoute.getParameters (queryText path pairs fragment)).get? name).join) ∧
      ReadsWhole pairs (fun name =>
        (PjsSrAuth.getArgs (argsText pairs)).bind fun args => args.get? name) ∧
      ReadsWhole pairs (fun name =>
        (PjsSrAuth.getCookies (cookiesText pairs)).bind fun cookies => cookies.get? name) ∧
      ReadsWhole pairs (PjsForward.getCookies (cookiesText pairs)).get? := by
  intro claimed
  have whole := (claimed "/a" [equation] none (by decide +kernel)).2.2.2 "t" "a=b" rfl
  exact absurd whole (by decide +kernel)

end PjsArguments

end Fgw
