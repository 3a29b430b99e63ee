import Fgw.RouterHosts

/-!
TLS termination: the names of all certificates of a listener, and the certificate that is found for
the server name of a handshake.
-/

namespace Fgw

/-- `subject.commonName` and `subjectAltNames`, with the key file that goes with them. -/
structure Certificate where
  commonName : String
  subjectAltNames : List String
  key : String
  deriving DecidableEq

def Certificate.names (certificate : Certificate) : List String :=
  certificate.commonName :: certificate.subjectAltNames

section Names

variable (lowerCase : String → String)

/-- `fullnames` and `postfixes` as they are filled. -/
def registerName (certificate : Certificate) (kept : Table Certificate × List (String × Certificate))
    (n : String) : Table Certificate × List (String × Certificate) :=
  match n.toList with
  | '*' :: rest => (kept.1, kept.2 ++ [(lowerCase (String.ofList rest), certificate)])
  | _ => (kept.1.set (lowerCase n) certificate, kept.2)

def addCertificate (kept : Table Certificate × List (String × Certificate))
    (certificate : Certificate) : Table Certificate × List (String × Certificate) :=
  certificate.names.foldl (registerName lowerCase certificate) kept

/-- The endings are tried as they come. -/
def certificateHosts (certificates : List Certificate) : Hosts Certificate :=
  let kept := certificates.foldl (addCertificate lowerCase) (Table.empty, [])
  ⟨kept.1.entries, kept.2⟩

/-- `$ctx.serverName` and `$ctx.serverCert` for `hello.serverNames`. -/
def findCertificate (certificates : List Certificate) (serverNames : List String) :
    String × Option Certificate :=
  let sni := serverNames.head?.getD ""
  (sni, (certificateHosts lowerCase certificates).find? (lowerCase sni))

/-! What the certificates list. -/

def Certificate.Lists (certificate : Certificate) (pattern : HostPattern) : Prop :=
  ∃ n ∈ certificate.names, namePattern lowerCase n = pattern

def Listed (certificates : List Certificate) (pattern : HostPattern) : Prop :=
  ∃ certificate ∈ certificates, certificate.Lists lowerCase pattern

def listedNames (certificates : List Certificate) : List (HostPattern × Certificate) :=
  certificates.flatMap fun certificate =>
    certificate.names.map fun n => (namePattern lowerCase n, certificate)

theorem mem_listedNames {certificates : List Certificate} {pattern : HostPattern}
    {certificate : Certificate} :
    (pattern, certificate) ∈ listedNames lowerCase certificates ↔
      certificate ∈ certificates ∧ certificate.Lists lowerCase pattern := by
  simp only [listedNames, List.mem_flatMap, List.mem_map, Prod.mk.injEq, Certificate.Lists]
  constructor
  · rintro ⟨own, member, n, named, same, rfl⟩
    exact ⟨member, n, named, same⟩
  · rintro ⟨member, n, named, same⟩
    exact ⟨certificate, member, n, named, same, rfl⟩

theorem foldl_addCertificate (certificates : List Certificate)
    (kept : Table Certificate × List (String × Certificate)) :
    certificates.foldl (addCertificate lowerCase) kept =
      (listedNames lowerCase certificates).foldl keepUnder kept := by
  have each (kept : Table Certificate × List (String × Certificate)) (certificate : Certificate)
      (n : String) : registerName lowerCase certificate kept n =
        keepUnder kept (namePattern lowerCase n, certificate) := by
    unfold registerName
    rcases namePattern_cases lowerCase n with ⟨rest, spelled, same⟩ | ⟨plain, same⟩
    · rw [same, spelled]
      rfl
    · rw [same]
      split
      · rename_i rest spelled
        exact absurd spelled (plain rest)
      · rfl
  rw [listedNames, List.foldl_flatMap]
  congr 1
  funext kept certificate
  rw [addCertificate, List.foldl_map]
  congr 1
  funext kept n
  exact each kept certificate n

def listedWildcards (certificates : List Certificate) : List (String × Certificate) :=
  wildcardsOf (listedNames lowerCase certificates)

theorem mem_listedWildcards {certificates : List Certificate} {ending : String}
    {certificate : Certificate} :
    (ending, certificate) ∈ listedWildcards lowerCase certificates ↔
      certificate ∈ certificates ∧ certificate.Lists lowerCase (.wildcard ending) := by
  rw [listedWildcards, mem_wildcardsOf, mem_listedNames]

/-- The certificate lists the most specific of the listed patterns for the name. -/
def ListsBest (certificates : List Certificate) (name : String) (certificate : Certificate) :
    Prop :=
  ∃ pattern, MostSpecific (Listed lowerCase certificates) name pattern ∧
    certificate.Lists lowerCase pattern

/-- A name is presented with a certificate that lists its most specific pattern, and with none
if no pattern fits. -/
structure PresentsBest (certificates : List Certificate) (serverNames : List String) : Prop where
  some : ∀ pattern, MostSpecific (Listed lowerCase certificates)
      (lowerCase (serverNames.head?.getD "")) pattern →
    ∃ certificate ∈ certificates, certificate.Lists lowerCase pattern ∧
      (findCertificate lowerCase certificates serverNames).2 = some certificate
  none : (∀ pattern, ¬ MostSpecific (Listed lowerCase certificates)
      (lowerCase (serverNames.head?.getD "")) pattern) →
    (findCertificate lowerCase certificates serverNames).2 = none

/-- Each wildcard that fits the name stands after one of a certificate with a longest wildcard
that fits, or its own certificate has one. -/
def LongestListedFirst (certificates : List Certificate) (name : String) : Prop :=
  ∀ before wildcard after,
    listedWildcards lowerCase certificates = before ++ wildcard :: after →
      hasEnding name wildcard.1 = true →
        ∃ better ∈ before ++ [wildcard], hasEnding name better.1 = true ∧
          ListsBest lowerCase certificates name better.2

variable {lowerCase}

/-- The lookup of a name that is listed as such. -/
theorem findCertificate_listed {certificates : List Certificate} {serverNames : List String}
    (listed : Listed lowerCase certificates (.exact (lowerCase (serverNames.head?.getD "")))) :
    ∃ certificate ∈ certificates,
      certificate.Lists lowerCase (.exact (lowerCase (serverNames.head?.getD ""))) ∧
        (findCertificate lowerCase certificates serverNames).2 = some certificate := by
  obtain ⟨lister, member, lists⟩ := listed
  obtain ⟨certificate, own, found⟩ :=
    find?_keepUnder_listed ⟨lister, (mem_listedNames lowerCase).mpr ⟨member, lists⟩⟩
  rw [← foldl_addCertificate] at found
  obtain ⟨inside, listsName⟩ := (mem_listedNames lowerCase).mp own
  exact ⟨certificate, inside, listsName, found⟩

theorem findCertificate_unlisted {certificates : List Certificate} {serverNames : List String}
    (unlisted : ¬ Listed lowerCase certificates
      (.exact (lowerCase (serverNames.head?.getD "")))) :
    (findCertificate lowerCase certificates serverNames).2 =
      ((listedWildcards lowerCase certificates).find? fun wildcard =>
        hasEnding (lowerCase (serverNames.head?.getD "")) wildcard.1).map Prod.snd := by
  have found := @find?_keepUnder_unlisted _ (listedNames lowerCase certificates) _
    fun certificate member => unlisted ⟨certificate, (mem_listedNames lowerCase).mp member⟩
  rw [← foldl_addCertificate] at found
  exact found

theorem exists_longest {certificates : List Certificate} {name : String}
    (unlisted : ¬ Listed lowerCase certificates (.exact name)) {wildcard : String × Certificate}
    (member : wildcard ∈ listedWildcards lowerCase certificates)
    (fits : hasEnding name wildcard.1 = true) :
    ∃ ending, MostSpecific (Listed lowerCase certificates) name (.wildcard ending) := by
  cases found : (sortDescending (fun entry : String × Certificate => jsLength entry.1)
      (listedWildcards lowerCase certificates)).find? fun entry => hasEnding name entry.1 with
  | none =>
      have refused := List.find?_eq_none.mp found wildcard
        ((perm_sortDescending _ _).mem_iff.mpr member)
      exact absurd fits refused
  | some longest =>
      have inside := (perm_sortDescending _ _).mem_iff.mp (List.mem_of_find?_eq_some found)
      have lists := (mem_listedWildcards lowerCase).mp inside
      have ends := List.find?_some found
      refine ⟨longest.1, ⟨longest.2, lists⟩, ends, unlisted, ?_⟩
      rintro other ⟨certificate, otherLists⟩ ends
      exact @le_of_find?_sortDescending _ _ _ _ _ _ _ found (other, certificate)
        ((mem_listedWildcards lowerCase).mpr otherLists) ends

theorem wildcard_of_unlisted {certificates : List Certificate} {name : String}
    (unlisted : ¬ Listed lowerCase certificates (.exact name)) {pattern : HostPattern}
    (specific : MostSpecific (Listed lowerCase certificates) name pattern) :
    ∃ wildcard ∈ listedWildcards lowerCase certificates, hasEnding name wildcard.1 = true := by
  cases pattern with
  | exact own => exact absurd specific.2 unlisted
  | wildcard ending =>
      obtain ⟨certificate, lists⟩ := specific.1
      exact ⟨(ending, certificate), (mem_listedWildcards lowerCase).mpr lists, specific.2.1⟩

theorem longestListedFirst_of_presentsBest {certificates : List Certificate}
    {serverNames : List String} (unlisted : ¬ Listed lowerCase certificates
      (.exact (lowerCase (serverNames.head?.getD ""))))
    (presents : PresentsBest lowerCase certificates serverNames) :
    LongestListedFirst lowerCase certificates (lowerCase (serverNames.head?.getD "")) := by
  refine find?_good_iff.mp ?_
  intro first found
  have fits := List.find?_some found
  obtain ⟨ending, specific⟩ := exists_longest unlisted (List.mem_of_find?_eq_some found) fits
  obtain ⟨certificate, _, lists, presented⟩ := presents.some _ specific
  rw [findCertificate_unlisted unlisted, found, Option.map_some, Option.some.injEq] at presented
  exact ⟨_, specific, presented ▸ lists⟩

theorem presentsBest_of_longestListedFirst {certificates : List Certificate}
    {serverNames : List String} (unlisted : ¬ Listed lowerCase certificates
      (.exact (lowerCase (serverNames.head?.getD ""))))
    (ordered : LongestListedFirst lowerCase certificates
      (lowerCase (serverNames.head?.getD ""))) :
    PresentsBest lowerCase certificates serverNames := by
  constructor
  · intro pattern specific
    rw [findCertificate_unlisted unlisted]
    obtain ⟨wildcard, member, fits⟩ := wildcard_of_unlisted unlisted specific
    cases found : (listedWildcards lowerCase certificates).find? fun wildcard =>
        hasEnding (lowerCase (serverNames.head?.getD "")) wildcard.1 with
    | none => exact absurd fits (List.find?_eq_none.mp found wildcard member)
    | some first =>
        obtain ⟨best, chosen, lists⟩ := find?_good_iff.mpr ordered first found
        obtain rfl := mostSpecific_unique chosen specific
        have inside := (mem_listedWildcards lowerCase).mp (List.mem_of_find?_eq_some found)
        exact ⟨first.2, inside.1, lists, rfl⟩
  · intro nothing
    rw [findCertificate_unlisted unlisted, Option.map_eq_none_iff, List.find?_eq_none]
    intro wildcard member fits
    obtain ⟨ending, specific⟩ := exists_longest unlisted member fits
    exact nothing _ specific

/-- The most specific certificate is presented exactly if one lists the name itself, or the
wildcards that fit are listed with a longest one first. -/
theorem presentsBest_iff (lowerCase : String → String) (certificates : List Certificate)
    (serverNames : List String) :
    PresentsBest lowerCase certificates serverNames ↔
      Listed lowerCase certificates (.exact (lowerCase (serverNames.head?.getD ""))) ∨
        LongestListedFirst lowerCase certificates (lowerCase (serverNames.head?.getD "")) := by
  by_cases listed : Listed lowerCase certificates (.exact (lowerCase (serverNames.head?.getD "")))
  · refine iff_of_true ⟨?_, ?_⟩ (.inl listed)
    · intro pattern specific
      obtain rfl := mostSpecific_unique specific
        (show MostSpecific _ _ (.exact _) from ⟨rfl, listed⟩)
      exact findCertificate_listed listed
    · intro nothing
      exact absurd ⟨rfl, listed⟩ (nothing (.exact _))
  · rw [or_iff_right listed]
    exact ⟨longestListedFirst_of_presentsBest listed, presentsBest_of_longestListedFirst listed⟩

end Names

/-! Two certificates with overlapping wildcards. -/

def wideCertificate : Certificate := ⟨"*.com", [], "wide.key"⟩

def narrowCertificate : Certificate := ⟨"*.example.com", ["example.com"], "narrow.key"⟩

theorem listed_overlapping (pattern : HostPattern) :
    Listed documentedEngine.lowerCase [wideCertificate, narrowCertificate] pattern ↔
      pattern = .wildcard ".com" ∨ pattern = .wildcard ".example.com" ∨
        pattern = .exact "example.com" := by
  have first : namePattern documentedEngine.lowerCase "*.com" = .wildcard ".com" := by
    decide +kernel
  have second : namePattern documentedEngine.lowerCase "*.example.com" =
      .wildcard ".example.com" := by decide +kernel
  have third : namePattern documentedEngine.lowerCase "example.com" =
      .exact "example.com" := by decide +kernel
  simp [Listed, Certificate.Lists, Certificate.names, wideCertificate, narrowCertificate, first,
    second, third, eq_comm (b := pattern)]

theorem mostSpecific_overlapping :
    MostSpecific (Listed documentedEngine.lowerCase [wideCertificate, narrowCertificate])
      (documentedEngine.lowerCase "www.example.com") (.wildcard ".example.com") := by
  simp only [MostSpecific, listed_overlapping]
  refine ⟨.inr (.inl trivial), by decide +kernel, ?_, ?_⟩
  · rintro (same | same | same)
    · cases same
    · cases same
    · exact absurd same (by decide +kernel)
  · rintro other (same | same | same) _
    · cases same
      decide +kernel
    · cases same
      exact Nat.le_refl _
    · cases same

theorem wideCertificate_presented :
    ¬ ∀ (certificates : List Certificate) (serverNames : List String),
      PresentsBest documentedEngine.lowerCase certificates serverNames := by
  intro claimed
  obtain ⟨certificate, _, lists, found⟩ :=
    (claimed [wideCertificate, narrowCertificate] ["www.example.com"]).some _
      mostSpecific_overlapping
  have presented : (findCertificate documentedEngine.lowerCase
      [wideCertificate, narrowCertificate] ["www.example.com"]).2 = some wideCertificate := by
    decide +kernel
  rw [presented] at found
  cases found
  obtain ⟨n, named, same⟩ := lists
  have own : n = "*.com" := by simpa [Certificate.names, wideCertificate] using named
  subst own
  exact absurd same (by decide +kernel)

end Fgw
