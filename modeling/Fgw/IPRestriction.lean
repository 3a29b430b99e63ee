import Mathlib.Data.List.Basic

/-!
The filter that restricts a listener to some remote addresses.
-/

namespace Fgw

inductive IPAddress
  | v4 (bits : BitVec 32)
  | v6 (bits : BitVec 128)
  deriving DecidableEq

namespace IPAddress

def width : IPAddress → Nat
  | v4 _ => 32
  | v6 _ => 128

/-- The addresses are of one family and have the same first `n` bits. -/
def SameNetwork (n : Nat) : IPAddress → IPAddress → Prop
  | v4 left, v4 right => ∀ i < n, left.getMsbD i = right.getMsbD i
  | v6 left, v6 right => ∀ i < n, left.getMsbD i = right.getMsbD i
  | _, _ => False

instance (n : Nat) (left right : IPAddress) : Decidable (SameNetwork n left right) :=
  match left, right with
  | v4 left, v4 right => inferInstanceAs (Decidable (∀ i < n, left.getMsbD i = right.getMsbD i))
  | v6 left, v6 right => inferInstanceAs (Decidable (∀ i < n, left.getMsbD i = right.getMsbD i))
  | v4 _, v6 _ => .isFalse id
  | v6 _, v4 _ => .isFalse id

theorem sameNetwork_width (left right : IPAddress) :
    SameNetwork left.width left right ↔ right = left := by
  cases left with
  | v4 left =>
      cases right with
      | v4 right =>
          simp only [SameNetwork, width, v4.injEq]
          constructor
          · intro bits
            exact (BitVec.eq_of_getMsbD_eq bits).symm
          · rintro rfl i _
            rfl
      | v6 right => simp [SameNetwork]
  | v6 left =>
      cases right with
      | v4 right => simp [SameNetwork]
      | v6 right =>
          simp only [SameNetwork, width, v6.injEq]
          constructor
          · intro bits
            exact (BitVec.eq_of_getMsbD_eq bits).symm
          · rintro rfl i _
            rfl

theorem sameNetwork_refl (n : Nat) (address : IPAddress) : SameNetwork n address address := by
  cases address with
  | v4 bits => exact fun _ _ => rfl
  | v6 bits => exact fun _ _ => rfl

/-- The first 32 bits are all of an IPv4 address, and only a part of an IPv6 address. -/
theorem sameNetwork_32_iff (address ip : IPAddress) :
    SameNetwork 32 address ip ↔
      ip = address ∨ (address.width = 128 ∧ ip ≠ address ∧ SameNetwork 32 address ip) := by
  by_cases same : ip = address
  · rw [same]
    exact iff_of_true (sameNetwork_refl 32 address) (.inl rfl)
  · rw [or_iff_right same]
    cases address with
    | v4 bits =>
        refine iff_of_false ?_ (fun widened => absurd widened.1 (by simp [width]))
        intro network
        exact same ((sameNetwork_width (.v4 bits) ip).mp network)
    | v6 bits => exact ⟨fun network => ⟨rfl, same, network⟩, fun widened => widened.2.2⟩

end IPAddress

/-- Pipy's `IPMask`: the addresses that texts write, and what the mask made from a text
contains. -/
structure IPEngine where
  writes : String → IPAddress → Prop
  contains : String → IPAddress → Bool

structure IPEngine.Documented (engine : IPEngine) : Prop where
  plain : ∀ text address, engine.writes text address → '/' ∉ text.toList
  masks : ∀ text address n ip, engine.writes text address → n ≤ address.width →
    (engine.contains (text ++ "/" ++ toString n) ip = true ↔ IPAddress.SameNetwork n address ip)

structure IPRestrictionConfig where
  allowed : Option (List String)
  forbidden : Option (List String)

section Filter

variable (engine : IPEngine)

def maskText (s : String) : String := if '/' ∈ s.toList then s else s ++ "/32"

/-- `masks.some(m => m.contains(ip))` -/
def someContains (entries : List String) (ip : IPAddress) : Bool :=
  (entries.map maskText).any fun mask => engine.contains mask ip

/-- `$rejected` once the filter has started for a remote address. -/
def ipRejected (config : IPRestrictionConfig) (ip : IPAddress) : Bool :=
  let allowed := config.allowed.getD []
  let forbidden := config.forbidden.getD []
  if 0 < allowed.length ∧ !someContains engine allowed ip then true
  else if 0 < forbidden.length ∧ someContains engine forbidden ip then true
  else false

inductive IPBranch
  | reject
  | pass
  deriving DecidableEq

def ipRestriction (config : IPRestrictionConfig) (ip : IPAddress) : IPBranch :=
  if ipRejected engine config ip then .reject else .pass

/-! What entries stand for. -/

/-- An entry of a list: an address as it is written, and the prefix length of a CIDR entry. -/
structure IPEntry where
  written : String
  address : IPAddress
  length : Option Nat
  writes : engine.writes written address
  within : ∀ n ∈ length, n ≤ address.width

variable {engine}

namespace IPEntry

def text (entry : IPEntry engine) : String :=
  match entry.length with
  | none => entry.written
  | some n => entry.written ++ "/" ++ toString n

/-- A bare entry covers itself, a CIDR entry its network. -/
def Covers (entry : IPEntry engine) (ip : IPAddress) : Prop :=
  match entry.length with
  | none => ip = entry.address
  | some n => IPAddress.SameNetwork n entry.address ip

/-- A bare IPv6 entry for another address with the same first 32 bits. -/
def Widened (entry : IPEntry engine) (ip : IPAddress) : Prop :=
  entry.length = none ∧ entry.address.width = 128 ∧ ip ≠ entry.address ∧
    IPAddress.SameNetwork 32 entry.address ip

end IPEntry

def CoveredBy (entries : List (IPEntry engine)) (ip : IPAddress) : Prop :=
  ∃ entry ∈ entries, entry.Covers ip

def WidenedBy (entries : List (IPEntry engine)) (ip : IPAddress) : Prop :=
  ∃ entry ∈ entries, entry.Widened ip

def AllowedBy (allowed : List (IPEntry engine)) (ip : IPAddress) : Prop :=
  allowed = [] ∨ CoveredBy allowed ip

/-- The address is allowed and not forbidden. -/
def Admitted (allowed forbidden : List (IPEntry engine)) (ip : IPAddress) : Prop :=
  AllowedBy allowed ip ∧ ¬ CoveredBy forbidden ip

/-- No bare IPv6 entry decides for an address that only shares its first 32 bits: an entry
covers the address to forbid it, or it is allowed and no forbidden entry is widened to it, or it is
not allowed and, if an allowed entry is widened to it, so is a forbidden one. -/
def BareEntriesExact (allowed forbidden : List (IPEntry engine)) (ip : IPAddress) : Prop :=
  CoveredBy forbidden ip ∨ (AllowedBy allowed ip ∧ ¬ WidenedBy forbidden ip) ∨
    (¬ AllowedBy allowed ip ∧ (WidenedBy allowed ip → WidenedBy forbidden ip))

/-- The configuration with these lists of entries, where either may be absent. -/
def entriesConfig (allowed forbidden : Option (List (IPEntry engine))) : IPRestrictionConfig :=
  ⟨allowed.map (List.map IPEntry.text), forbidden.map (List.map IPEntry.text)⟩

theorem contains_maskText (documented : engine.Documented) (entry : IPEntry engine)
    (ip : IPAddress) :
    engine.contains (maskText entry.text) ip = true ↔ entry.Covers ip ∨ entry.Widened ip := by
  have plain := documented.plain entry.written entry.address entry.writes
  have masks (n : Nat) (within : n ≤ entry.address.width) :=
    documented.masks entry.written entry.address n ip entry.writes within
  unfold IPEntry.text IPEntry.Covers IPEntry.Widened
  cases length : entry.length with
  | some n =>
      have slash : '/' ∈ (entry.written ++ "/" ++ toString n).toList := by simp
      rw [maskText, if_pos slash, masks n (entry.within n length)]
      simp
  | none =>
      have bits : toString 32 = "32" := rfl
      have wide : 32 ≤ entry.address.width := by
        cases entry.address with
        | v4 _ => exact Nat.le_refl 32
        | v6 _ =>
            rw [IPAddress.width]
            omega
      have bare : maskText entry.written = entry.written ++ "/" ++ toString 32 := by
        rw [maskText, if_neg plain, bits, String.append_assoc]
        rfl
      rw [bare, masks 32 wide]
      simpa using IPAddress.sameNetwork_32_iff entry.address ip

theorem someContains_iff (documented : engine.Documented) (entries : List (IPEntry engine))
    (ip : IPAddress) :
    someContains engine (entries.map IPEntry.text) ip = true ↔
      CoveredBy entries ip ∨ WidenedBy entries ip := by
  simp only [someContains, List.map_map, List.any_map, List.any_eq_true, Function.comp_apply,
    contains_maskText documented, CoveredBy, WidenedBy]
  constructor
  · rintro ⟨entry, member, covers | widened⟩
    · exact .inl ⟨entry, member, covers⟩
    · exact .inr ⟨entry, member, widened⟩
  · rintro (⟨entry, member, covers⟩ | ⟨entry, member, widened⟩)
    · exact ⟨entry, member, .inl covers⟩
    · exact ⟨entry, member, .inr widened⟩

theorem ipRejected_iff (documented : engine.Documented) (allowed forbidden : List (IPEntry engine))
    (ip : IPAddress) :
    ipRejected engine ⟨some (allowed.map IPEntry.text), some (forbidden.map IPEntry.text)⟩ ip =
        true ↔
      ¬ (AllowedBy allowed ip ∨ WidenedBy allowed ip) ∨ CoveredBy forbidden ip ∨
        WidenedBy forbidden ip := by
  have nonempty : 0 < (allowed.map IPEntry.text).length ↔ allowed ≠ [] := by
    rw [List.length_map, List.length_pos_iff]
  rw [AllowedBy, or_assoc, ← someContains_iff documented, ← someContains_iff documented]
  simp only [ipRejected, Option.getD_some, nonempty]
  by_cases all : allowed = []
  · subst all
    by_cases none : forbidden = []
    · subst none
      simp [someContains]
    · have some : 0 < forbidden.length := List.length_pos_iff.mpr none
      simp [some]
  · by_cases none : forbidden = []
    · subst none
      simp [all, someContains]
    · have some : 0 < forbidden.length := List.length_pos_iff.mpr none
      simp [all, some]

theorem ipRestriction_pass_iff (documented : engine.Documented)
    (allowed forbidden : Option (List (IPEntry engine))) (ip : IPAddress) :
    ipRestriction engine (entriesConfig allowed forbidden) ip = .pass ↔
      (AllowedBy (allowed.getD []) ip ∨ WidenedBy (allowed.getD []) ip) ∧
        ¬ (CoveredBy (forbidden.getD []) ip ∨ WidenedBy (forbidden.getD []) ip) := by
  have absent (entries : Option (List (IPEntry engine))) :
      (entries.map (List.map IPEntry.text)).getD [] = (entries.getD []).map IPEntry.text := by
    cases entries <;> rfl
  have rejected : ipRejected engine (entriesConfig allowed forbidden) ip =
      ipRejected engine ⟨some ((allowed.getD []).map IPEntry.text),
        some ((forbidden.getD []).map IPEntry.text)⟩ ip := by
    simp only [ipRejected, entriesConfig, absent, Option.getD_some]
  have iff := ipRejected_iff documented (allowed.getD []) (forbidden.getD []) ip
  rw [← rejected] at iff
  rw [ipRestriction]
  split
  · rename_i isRejected
    have reason := iff.mp isRejected
    simp only [reduceCtorEq, false_iff]
    tauto
  · rename_i passed
    have reason := fun rejects => passed (iff.mpr rejects)
    simp only [true_iff]
    tauto

/-- A connection is passed as configured exactly if no bare IPv6 entry is widened to its address
with an effect. -/
theorem passes_admitted_iff (documented : engine.Documented)
    (allowed forbidden : Option (List (IPEntry engine))) (ip : IPAddress) :
    (ipRestriction engine (entriesConfig allowed forbidden) ip = .pass ↔
        Admitted (allowed.getD []) (forbidden.getD []) ip) ↔
      BareEntriesExact (allowed.getD []) (forbidden.getD []) ip := by
  rw [ipRestriction_pass_iff documented, Admitted, BareEntriesExact]
  tauto

end Filter

/-! Masks for a few addresses. -/

def knownAddresses : List (String × IPAddress) :=
  [("127.0.0.1", .v4 0x7F000001#32), ("2001:db8::1", .v6 0x20010DB8000000000000000000000001#128)]

/-- The masks are those with a known address and a prefix length. -/
def knownEngine : IPEngine where
  writes text address := (text, address) ∈ knownAddresses
  contains mask ip := knownAddresses.any fun known =>
    (List.range (known.2.width + 1)).any fun n =>
      mask = known.1 ++ "/" ++ toString n && IPAddress.SameNetwork n known.2 ip

theorem split_at_slash {left right more rest : List Char} (plainLeft : '/' ∉ left)
    (plainRight : '/' ∉ right) (same : left ++ '/' :: more = right ++ '/' :: rest) :
    left = right ∧ more = rest := by
  have parts := congrArg (List.splitOn '/') same
  rw [List.splitOn_append_cons_self_of_not_mem plainLeft,
    List.splitOn_append_cons_self_of_not_mem plainRight, List.cons.injEq] at parts
  obtain ⟨rfl, _⟩ := parts
  exact ⟨rfl, (List.cons.inj (List.append_cancel_left same)).2⟩

theorem knownEngine_documented : knownEngine.Documented := by
  have plain : ∀ known ∈ knownAddresses, '/' ∉ known.1.toList := by decide
  have distinct : ∀ known ∈ knownAddresses, ∀ other ∈ knownAddresses, known.1 = other.1 →
      known.2 = other.2 := by decide
  constructor
  · intro text address known
    exact plain (text, address) known
  · intro text address n ip known within
    simp only [knownEngine, List.any_eq_true, List.mem_range, Bool.and_eq_true, decide_eq_true_eq]
    constructor
    · rintro ⟨other, member, m, _, same, network⟩
      have chars := congrArg String.toList same
      simp only [String.toList_append] at chars
      have slash : "/".toList = ['/'] := rfl
      rw [slash, List.append_assoc, List.append_assoc] at chars
      obtain ⟨sameText, sameDigits⟩ := split_at_slash (plain _ known) (plain _ member) chars
      have digits : Nat.toDigits 10 n = Nat.toDigits 10 m := by simpa using sameDigits
      have sameNumber : n = m := by
        rw [← Nat.ofDigitChars_ten_toDigits (n := n), digits, Nat.ofDigitChars_ten_toDigits]
      have sameAddress : address = other.2 :=
        distinct (text, address) known other member (String.toList_inj.mp sameText)
      rw [sameNumber, sameAddress]
      exact network
    · intro network
      exact ⟨(text, address), known, n, by simpa [Nat.lt_succ_iff] using within, rfl, network⟩

def oneAddress : IPEntry knownEngine where
  written := "2001:db8::1"
  address := .v6 0x20010DB8000000000000000000000001#128
  length := none
  writes := by simp [knownEngine, knownAddresses]
  within := by simp

def localhost : IPEntry knownEngine where
  written := "127.0.0.1"
  address := .v4 0x7F000001#32
  length := none
  writes := by simp [knownEngine, knownAddresses]
  within := by simp

theorem localhost_passed :
    (ipRestriction knownEngine (entriesConfig (some [localhost]) none) (.v4 0x7F000001#32) = .pass ↔
        Admitted ((some [localhost]).getD []) ((none : Option (List (IPEntry knownEngine))).getD [])
          (.v4 0x7F000001#32)) ↔
      BareEntriesExact ((some [localhost]).getD [])
        ((none : Option (List (IPEntry knownEngine))).getD []) (.v4 0x7F000001#32) :=
  passes_admitted_iff knownEngine_documented (some [localhost]) none (.v4 0x7F000001#32)

/-! Another address in the network of a bare IPv6 entry. -/

theorem neighbour_passed :
    ¬ ∀ (allowed forbidden : Option (List (IPEntry knownEngine))) (ip : IPAddress),
      ipRestriction knownEngine (entriesConfig allowed forbidden) ip = .pass ↔
        Admitted (allowed.getD []) (forbidden.getD []) ip := by
  intro claimed
  have passed : ipRestriction knownEngine (entriesConfig (some [oneAddress]) none)
      (.v6 0x20010DB8000000000000000000000002#128) = .pass := by decide +kernel
  obtain ⟨empty | ⟨entry, member, covers⟩, _⟩ := (claimed _ _ _).mp passed
  · exact List.cons_ne_nil _ _ empty
  · obtain rfl := List.mem_singleton.mp member
    exact absurd covers (by simp [IPEntry.Covers, oneAddress])

end Fgw
