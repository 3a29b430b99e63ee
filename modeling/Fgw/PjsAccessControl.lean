import Fgw.Library.Table
import Fgw.UrlRewrite

/-!
The access control lists of the pjs gateway, which are checked for a listener, for a domain and for
a route.
-/

namespace Fgw

namespace PjsAccess

/-- `AccessControlLists`; the addresses are the texts that are configured and reported. -/
structure AccessControlLists where
  blacklist : Option (List String)
  whitelist : Option (List String)
  enableXFF : Bool

/-- What `parseIpList` returns, and what it holds while it goes through the list. -/
structure IpLists where
  ips : Option (Table Bool)
  ipRanges : Option (List String)

/-- `text.indexOf(c)` -/
def indexOf (text : String) (c : Char) : Int :=
  if c ∈ text.toList then jsLength (String.ofList (text.toList.takeWhile (· ≠ c))) else -1

def addAddress (lists : IpLists) (o : String) : IpLists :=
  if 0 < indexOf o '/' then { lists with ipRanges := some (lists.ipRanges.getD [] ++ [o]) }
  else { lists with ips := some ((lists.ips.getD Table.empty).set o true) }

def parseIpList (ipList : Option (List String)) : Option IpLists :=
  let lists := (ipList.getD []).foldl addAddress ⟨none, none⟩
  if lists.ips.isSome || lists.ipRanges.isSome then some lists else none

section Checks

-- `new Netmask(range).contains(ip)`
variable (contains : String → String → Bool)

/-- `ips[ip]`, or else `ipRanges.find(r => r.contains(ip))` -/
def listed (lists : IpLists) (ip : String) : Bool :=
  if (lists.ips.bind fun ips => ips.get? ip) = some true then true
  else ((lists.ipRanges.getD []).find? fun r => contains r ip).isSome

/-- `checkACLs` for the lists that a level is configured with. -/
def checkLists (acls : Option AccessControlLists) (ip : String) : Bool :=
  match parseIpList (acls.bind (·.whitelist)) with
  | some white => listed contains white ip
  | none =>
      match parseIpList (acls.bind (·.blacklist)) with
      | some black => !listed contains black ip
      | none => true

structure Listener where
  accessControlLists : Option AccessControlLists

structure Domain where
  accessControlLists : Option AccessControlLists

structure RouteConfig where
  accessControlLists : Option AccessControlLists

structure Route where
  config : Option RouteConfig

/-- `checkACLs` of a listener, `__port`. -/
def listenerCheckACLs (port : Option Listener) (ip : String) : Bool :=
  checkLists contains (port.bind (·.accessControlLists)) ip

/-- `checkACLs` of a domain, `__domain`. -/
def domainCheckACLs (domain : Option Domain) (ip : String) : Bool :=
  checkLists contains (domain.bind (·.accessControlLists)) ip

def routeLists (route : Option Route) : Option AccessControlLists :=
  (route.bind (·.config)).bind (·.accessControlLists)

/-- `checkACLs` of a route, `__route`. -/
def routeCheckACLs (route : Option Route) (ip : String) : Bool :=
  checkLists contains (routeLists route) ip

/-- `_pass` after the start of a message: every address in the header, if that is to be looked at
and is not empty, and the remote address otherwise. -/
def passMessage (acls : Option AccessControlLists) (check : String → Bool) (head : Head)
    (remoteAddress : String) : Bool :=
  let ips := if acls.any (·.enableXFF) then head.header "x-forwarded-for" else none
  match ips.filter fun text => text ≠ "" with
  | some ips => (ips.toList.splitOn ',').all fun ip => check (trimText (String.ofList ip))
  | none => check remoteAddress

def domainPass (domain : Option Domain) (head : Head) (remoteAddress : String) : Bool :=
  passMessage (domain.bind (·.accessControlLists)) (domainCheckACLs contains domain) head
    remoteAddress

def routePass (route : Option Route) (head : Head) (remoteAddress : String) : Bool :=
  passMessage (routeLists route) (routeCheckACLs contains route) head remoteAddress

end Checks

/-! What the lists mean. -/

/-- An entry of a list: an address, or the first `bits` bits of one. -/
inductive AclEntry
  | address (text : String) (bare : '/' ∉ text.toList)
  | range (network : String) (bits : Nat) (named : network ≠ "") (bare : '/' ∉ network.toList)

def AclEntry.text : AclEntry → String
  | .address text _ => text
  | .range network bits _ _ => network ++ "/" ++ toString bits

def AclEntry.Covers (contains : String → String → Bool) (ip : String) : AclEntry → Prop
  | .address text _ => ip = text
  | .range network bits _ _ => contains (network ++ "/" ++ toString bits) ip = true

/-- The whitelist decides unless it is empty. -/
def Admits (contains : String → String → Bool) (blacklist whitelist : Option (List AclEntry))
    (ip : String) : Prop :=
  if whitelist.getD [] = [] then ¬ ∃ entry ∈ blacklist.getD [], entry.Covers contains ip
  else ∃ entry ∈ whitelist.getD [], entry.Covers contains ip

def configured (blacklist whitelist : Option (List AclEntry)) (enableXFF : Bool) :
    AccessControlLists :=
  ⟨blacklist.map fun entries => entries.map AclEntry.text,
    whitelist.map fun entries => entries.map AclEntry.text, enableXFF⟩

theorem indexOf_absent {text : String} {c : Char} (absent : c ∉ text.toList) :
    indexOf text c = -1 := if_neg absent

theorem indexOf_range {network : String} (named : network ≠ "") (bare : '/' ∉ network.toList)
    (bits : Nat) : 0 < indexOf (network ++ "/" ++ toString bits) '/' := by
  have spelled : (network ++ "/" ++ toString bits).toList =
      network.toList ++ '/' :: (toString bits).toList := by simp
  have front : (network ++ "/" ++ toString bits).toList.takeWhile (· ≠ '/') = network.toList := by
    rw [spelled, List.takeWhile_append_of_pos, List.takeWhile_cons_of_neg (by simp),
      List.append_nil]
    intro c member
    simpa using fun same : c = '/' => bare (same ▸ member)
  rw [indexOf, if_pos (by rw [spelled]; simp), front, String.ofList_toList]
  exact_mod_cast jsLength_pos named

section Meaning

variable (contains : String → String → Bool)

theorem listed_iff (lists : IpLists) (ip : String) :
    listed contains lists ip = true ↔ (lists.ips.bind fun ips => ips.get? ip) = some true ∨
      ∃ range ∈ lists.ipRanges.getD [], contains range ip = true := by
  rw [listed]
  by_cases named : (lists.ips.bind fun ips => ips.get? ip) = some true
  · rw [if_pos named]
    exact iff_of_true rfl (.inl named)
  · rw [if_neg named, List.find?_isSome, or_iff_right named]

theorem listed_addAddress (lists : IpLists) (entry : AclEntry) (ip : String) :
    listed contains (addAddress lists entry.text) ip = true ↔
      listed contains lists ip = true ∨ entry.Covers contains ip := by
  rw [listed_iff, listed_iff]
  cases entry with
  | address text bare =>
      have here : indexOf text '/' = -1 := indexOf_absent bare
      have unknown : (lists.ips.getD Table.empty).get? ip =
          lists.ips.bind fun ips => ips.get? ip := by
        cases lists.ips with
        | none => rfl
        | some ips => rfl
      rw [AclEntry.text, AclEntry.Covers, addAddress, here, if_neg (by omega)]
      dsimp only
      rw [Option.bind_some, Table.get?_set, unknown]
      by_cases same : text = ip
      · simp [same]
      · simp [same, Ne.symm same]
  | range network bits named bare =>
      rw [AclEntry.text, AclEntry.Covers, addAddress, if_pos (indexOf_range named bare bits)]
      dsimp only
      simp only [Option.getD_some, List.mem_append, List.mem_singleton, or_and_right, exists_or,
        exists_eq_left, or_assoc]

theorem listed_foldl (entries : List AclEntry) (lists : IpLists) (ip : String) :
    listed contains ((entries.map AclEntry.text).foldl addAddress lists) ip = true ↔
      listed contains lists ip = true ∨ ∃ entry ∈ entries, entry.Covers contains ip := by
  induction entries generalizing lists with
  | nil => simp
  | cons entry entries ih =>
      rw [List.map_cons, List.foldl_cons, ih, listed_addAddress, or_assoc]
      simp only [List.mem_cons, exists_eq_or_imp]

/-- Something is listed. -/
def IpLists.Filled (lists : IpLists) : Prop :=
  (lists.ips.isSome || lists.ipRanges.isSome) = true

theorem filled_addAddress (lists : IpLists) (o : String) : (addAddress lists o).Filled := by
  rw [addAddress]
  split
  · simp [IpLists.Filled]
  · simp [IpLists.Filled]

theorem filled_foldl {lists : IpLists} (filled : lists.Filled) (ipList : List String) :
    (ipList.foldl addAddress lists).Filled := by
  induction ipList generalizing lists with
  | nil => exact filled
  | cons o ipList ih => exact ih (filled_addAddress lists o)

theorem parseIpList_nil {ipList : Option (List String)} (empty : ipList.getD [] = []) :
    parseIpList ipList = none := by
  rw [parseIpList, empty]
  rfl

theorem parseIpList_filled {ipList : Option (List String)} {o : String} {rest : List String}
    (filled : ipList.getD [] = o :: rest) :
    parseIpList ipList = some ((o :: rest).foldl addAddress ⟨none, none⟩) := by
  have kept : ((o :: rest).foldl addAddress ⟨none, none⟩).Filled :=
    filled_foldl (filled_addAddress ⟨none, none⟩ o) rest
  rw [parseIpList, filled]
  exact if_pos kept

theorem getD_texts (entries : Option (List AclEntry)) :
    ((entries.map fun entries => entries.map AclEntry.text).getD []) =
      (entries.getD []).map AclEntry.text := by
  cases entries with
  | none => rfl
  | some entries => rfl

/-- A list that is not empty is parsed, and holds what its entries cover. -/
theorem parseIpList_texts (entries : Option (List AclEntry)) :
    (entries.getD [] = [] ∧
      parseIpList (entries.map fun entries => entries.map AclEntry.text) = none) ∨
    (entries.getD [] ≠ [] ∧ ∃ lists,
      parseIpList (entries.map fun entries => entries.map AclEntry.text) = some lists ∧
        ∀ ip, listed contains lists ip = true ↔
          ∃ entry ∈ entries.getD [], entry.Covers contains ip) := by
  cases written : entries.getD [] with
  | nil =>
      left
      refine ⟨rfl, parseIpList_nil ?_⟩
      rw [getD_texts, written, List.map_nil]
  | cons entry rest =>
      right
      have texts : (entries.map fun entries => entries.map AclEntry.text).getD [] =
          entry.text :: rest.map AclEntry.text := by
        rw [getD_texts, written, List.map_cons]
      refine ⟨List.cons_ne_nil entry rest, _, parseIpList_filled texts, ?_⟩
      intro ip
      rw [← List.map_cons, listed_foldl]
      exact or_iff_right (by simp [listed])

theorem checkLists_iff (blacklist whitelist : Option (List AclEntry)) (enableXFF : Bool)
    (ip : String) :
    checkLists contains (some (configured blacklist whitelist enableXFF)) ip = true ↔
      Admits contains blacklist whitelist ip := by
  rw [checkLists, Admits]
  rcases parseIpList_texts contains whitelist with ⟨empty, none⟩ | ⟨filled, white, parsed, covers⟩
  · rw [if_pos empty, Option.bind_some, configured, none]
    rcases parseIpList_texts contains blacklist with ⟨free, none⟩ | ⟨_, black, parsed, covers⟩
    · rw [free]
      dsimp only
      rw [Option.bind_some, none]
      simp
    · dsimp only
      rw [Option.bind_some, parsed]
      simp only [Bool.not_eq_true', ← covers, Bool.not_eq_true]
  · rw [if_neg filled, Option.bind_some, configured, parsed]
    exact covers ip

/-- Every address in a header that is looked at must pass. -/
theorem passMessage_header {acls : AccessControlLists} (looked : acls.enableXFF = true)
    {check : String → Bool} {head : Head} {header : String}
    (sent : head.header "x-forwarded-for" = some header) (filled : header ≠ "")
    (remoteAddress : String) :
    passMessage (some acls) check head remoteAddress = true ↔
      ∀ piece ∈ header.toList.splitOn ',', check (trimText (String.ofList piece)) = true := by
  have seen : (some header).filter (fun text => text ≠ "") = some header :=
    Option.filter_some_pos (by simp [filled])
  simp only [passMessage, Option.any_some, looked, if_true, sent, seen, List.all_eq_true]

end Meaning

def headerAddresses (header : String) : List String :=
  (header.toList.splitOn ',').map fun piece => trimText (String.ofList piece)

/-- The lists mean the same for a listener, a domain and a route. -/
theorem accessLists_alike (contains : String → String → Bool)
    (blacklist whitelist : Option (List AclEntry)) (enableXFF : Bool) :
    let acls := configured blacklist whitelist enableXFF
    (∀ ip, (listenerCheckACLs contains (some ⟨some acls⟩) ip = true ↔
        Admits contains blacklist whitelist ip) ∧
      (domainCheckACLs contains (some ⟨some acls⟩) ip = true ↔
        Admits contains blacklist whitelist ip) ∧
      (routeCheckACLs contains (some ⟨some ⟨some acls⟩⟩) ip = true ↔
        Admits contains blacklist whitelist ip)) ∧
    ∀ head header remoteAddress, enableXFF = true →
      head.header "x-forwarded-for" = some header → header ≠ "" →
      (domainPass contains (some ⟨some acls⟩) head remoteAddress = true ↔
        ∀ ip ∈ headerAddresses header, Admits contains blacklist whitelist ip) ∧
      (routePass contains (some ⟨some ⟨some acls⟩⟩) head remoteAddress = true ↔
        ∀ ip ∈ headerAddresses header, Admits contains blacklist whitelist ip) := by
  intro acls
  have agree := checkLists_iff contains blacklist whitelist enableXFF
  refine ⟨fun ip => ⟨agree ip, agree ip, agree ip⟩, ?_⟩
  intro head header remoteAddress looked sent filled
  have every (check : String → Bool) (means : ∀ ip, check ip = true ↔
      Admits contains blacklist whitelist ip) :
      passMessage (some acls) check head remoteAddress = true ↔
        ∀ ip ∈ headerAddresses header, Admits contains blacklist whitelist ip := by
    rw [passMessage_header looked sent filled, headerAddresses, List.forall_mem_map]
    simp only [means]
  exact ⟨every _ agree, every _ agree⟩

/-- The network 2.2.2.0/24. -/
def oneNetwork (range ip : String) : Bool :=
  range = "2.2.2.0/24" && "2.2.2.".toList.isPrefixOf ip.toList

theorem mixedLists_alike :
    routePass oneNetwork (some ⟨some ⟨some (configured none
      (some [.address "1.1.1.1" (by decide), .range "2.2.2.0" 24 (by decide) (by decide)])
      true)⟩⟩) ⟨"GET", "/", [("x-forwarded-for", "1.1.1.1, 2.2.2.7")]⟩ "3.3.3.3" = true := by
  refine ((accessLists_alike oneNetwork none _ true).2 _ "1.1.1.1, 2.2.2.7" "3.3.3.3" rfl rfl
    (by decide)).2.mpr ?_
  intro ip inside
  have either : ip = "1.1.1.1" ∨ ip = "2.2.2.7" := by
    have addresses : headerAddresses "1.1.1.1, 2.2.2.7" = ["1.1.1.1", "2.2.2.7"] := by decide
    simpa [addresses] using inside
  rw [Admits, if_neg (by simp)]
  rcases either with rfl | rfl
  · exact ⟨_, List.mem_cons_self, rfl⟩
  · refine ⟨_, List.mem_cons_of_mem _ List.mem_cons_self, ?_⟩
    rw [AclEntry.Covers]
    decide

end PjsAccess

end Fgw
