import Fgw.Library.Memo
import Fgw.Library.Runs
import Fgw.Library.SharedWrites
import Fgw.TerminateTls

/-!
TLS termination in the pjs gateway: the certificate that a connection is presented with, and the
authorities that a client certificate is checked against.
-/

namespace Fgw

namespace PjsTermination

/-- `exactNames` and `starNames` of a port. -/
structure PortTls where
  exactNames : Table Certificate
  starNames : Table Certificate

def PortTls.set (portTls : PortTls) (entry : HostPattern × Certificate) : PortTls :=
  match entry.1 with
  | .exact name => { portTls with exactNames := portTls.exactNames.set name entry.2 }
  | .wildcard ending => { portTls with starNames := portTls.starNames.set ending entry.2 }

/-- `certificates`, `caCerts` and `mtls` are those of `TLS`, if the listener has it. -/
structure Listener where
  certificates : List Certificate
  caCerts : List String
  mtls : Bool

/-- `globalTls`, if it has a chain and a key, and its `IssuingCA`. -/
structure Config where
  listeners : List Listener
  globalTls : Option Certificate
  issuingCA : String

/-- The listener is named by its place; `Chain` is what a client presents. -/
structure Connection (Chain : Type) where
  port : Nat
  serverNames : List String
  client : Chain

inductive Outcome
  | closed
  | refused
  | accepted (certificate : Certificate)
  deriving DecidableEq

section Names

variable (lowerCase : String → String)

/-- What a certificate is entered under, the common name first. -/
def entriesOf (certificate : Certificate) : List (HostPattern × Certificate) :=
  (hostPattern (lowerCase certificate.commonName), certificate) ::
    certificate.subjectAltNames.map fun name => (namePattern lowerCase name, certificate)

def makePortTls (certificates : List Certificate) : PortTls :=
  certificates.foldl
    (fun portTls certificate => (entriesOf lowerCase certificate).foldl PortTls.set portTls)
    ⟨Table.empty, Table.empty⟩

/-- `name.substring(name.indexOf('.'))`: all of a name without a dot. -/
def fromDot (name : String) : String :=
  if '.' ∈ name.toList then String.ofList (name.toList.dropWhile (· ≠ '.')) else name

def matchDomainName (globalTls : Option Certificate) (portTls : PortTls) (name : String) :
    Option Certificate :=
  let domainName := lowerCase name
  (portTls.exactNames.get? domainName).or
    ((portTls.starNames.get? (fromDot domainName)).or globalTls)

end Names

/-! The authorities. -/

section Authorities

variable (hash : String → String)

/-- `uniqueCA` and the certificates made so far; an authority that is an empty text is left out. -/
def addCA (made : List String × List String) (ca : String) : List String × List String :=
  if ca = "" ∨ hash ca ∈ made.1 then made else (made.1 ++ [hash ca], made.2 ++ [ca])

def unionCA (config : Config) : List String :=
  let listed := ((config.listeners.flatMap Listener.caCerts).foldl (addCA hash) ([], [])).2
  if config.globalTls.isSome ∧ config.issuingCA ≠ "" then listed ++ [config.issuingCA] else listed

end Authorities

/-- What the engine does: `hash` is `algo.hash`, and `issued` says whether an authority stands
behind what a client presents. -/
structure TlsEngine (Chain : Type) where
  lowerCase : String → String
  hash : String → String
  issued : String → Chain → Bool

abbrev TlsCache : Type := Nat → Option PortTls

section Step

variable {Chain : Type} (engine : TlsEngine Chain) (config : Config)

def portTls (port : Nat) : PortTls :=
  makePortTls engine.lowerCase ((config.listeners[port]?).elim [] Listener.certificates)

def mtls (port : Nat) : Bool := (config.listeners[port]?).any Listener.mtls

/-- `_tls` is `null` where there is no certificate, and the connection is then closed. -/
def terminate (tls : Option Certificate) (connection : Connection Chain) : Outcome :=
  match tls with
  | none => .closed
  | some certificate =>
      if mtls config connection.port then
        if (unionCA engine.hash config).any fun ca => engine.issued ca connection.client then
          .accepted certificate
        else .refused
      else .accepted certificate

def step (tlsCache : TlsCache) (connection : Connection Chain) : Outcome × TlsCache :=
  let made := memoStep id (portTls engine config) tlsCache connection.port
  let tls := matchDomainName engine.lowerCase config.globalTls made.1
    (connection.serverNames.head?.getD "")
  (terminate engine config tls connection, made.2)

end Step

/-! What a connection is owed. -/

section Expected

variable {Chain : Type} (engine : TlsEngine Chain) (config : Config)

/-- The names of a port's certificates in their order. -/
def portNames (port : Nat) : List (HostPattern × Certificate) :=
  ((config.listeners[port]?).elim [] Listener.certificates).flatMap (entriesOf engine.lowerCase)

/-- The last certificate with the name itself, else with the wildcard of the domain that the name
is directly in, else the global one. -/
def presented (connection : Connection Chain) : Option Certificate :=
  let name := engine.lowerCase (connection.serverNames.head?.getD "")
  (lastWrite (portNames engine config connection.port) (.exact name)).or
    ((lastWrite (portNames engine config connection.port) (.wildcard (fromDot name))).or
      config.globalTls)

/-- An authority of any listener, if it is the first with its hash, or that of the global
certificate. -/
def Trusted (ca : String) : Prop :=
  ((config.listeners.flatMap Listener.caCerts).find? fun other =>
      other ≠ "" ∧ engine.hash other = engine.hash ca) = some ca ∨
    config.globalTls.isSome ∧ config.issuingCA ≠ "" ∧ ca = config.issuingCA

/-- What has become of a connection. -/
structure Terminated (connection : Connection Chain) (outcome : Outcome) : Prop where
  closed : outcome = .closed ↔ presented engine config connection = none
  accepted : ∀ certificate, outcome = .accepted certificate ↔
    presented engine config connection = some certificate ∧
      (mtls config connection.port = true →
        ∃ ca, Trusted engine config ca ∧ engine.issued ca connection.client = true)

end Expected

theorem foldl_set (entries : List (HostPattern × Certificate)) (portTls : PortTls) :
    (∀ name, (entries.foldl PortTls.set portTls).exactNames.get? name =
        (lastWrite entries (.exact name)).or (portTls.exactNames.get? name)) ∧
      ∀ ending, (entries.foldl PortTls.set portTls).starNames.get? ending =
        (lastWrite entries (.wildcard ending)).or (portTls.starNames.get? ending) := by
  induction entries generalizing portTls with
  | nil => exact ⟨fun _ => rfl, fun _ => rfl⟩
  | cons entry rest ih =>
      obtain ⟨pattern, certificate⟩ := entry
      obtain ⟨exact, wildcard⟩ := ih (portTls.set (pattern, certificate))
      simp only [List.foldl_cons, lastWrite, Option.or_assoc]
      refine ⟨fun name => ?_, fun ending => ?_⟩
      · rw [exact]
        cases pattern with
        | exact own =>
            rw [PortTls.set, Table.get?_set]
            by_cases same : own = name <;> simp [same]
        | wildcard ending => simp [PortTls.set]
      · rw [wildcard]
        cases pattern with
        | exact own => simp [PortTls.set]
        | wildcard own =>
            rw [PortTls.set, Table.get?_set]
            by_cases same : own = ending <;> simp [same]

theorem foldl_addCA (hash : String → String) (listed : List String)
    (made : List String × List String) (ca : String) :
    ca ∈ (listed.foldl (addCA hash) made).2 ↔ ca ∈ made.2 ∨ hash ca ∉ made.1 ∧
      (listed.find? fun other => other ≠ "" ∧ hash other = hash ca) = some ca := by
  induction listed generalizing made with
  | nil => simp
  | cons first rest ih =>
      rw [List.foldl_cons, ih, addCA, List.find?_cons]
      by_cases empty : first = ""
      · simp [empty]
      · by_cases known : hash first ∈ made.1
        · by_cases same : hash first = hash ca
          · simp [known, same ▸ known]
          · simp [known, same]
        · by_cases same : hash first = hash ca
          · have unknown : hash ca ∉ made.1 := same ▸ known
            simp [empty, same, unknown, eq_comm]
          · have other : ca ≠ first := fun equal => same (congrArg hash equal).symm
            simp [empty, known, same, Ne.symm same, other]

variable {Chain : Type} {engine : TlsEngine Chain} {config : Config}

theorem mem_unionCA (ca : String) : ca ∈ unionCA engine.hash config ↔ Trusted engine config ca := by
  have listed := foldl_addCA engine.hash (config.listeners.flatMap Listener.caCerts) ([], []) ca
  simp only [List.not_mem_nil, not_false_eq_true, true_and, false_or] at listed
  unfold unionCA Trusted
  rw [← listed]
  by_cases more : config.globalTls.isSome ∧ config.issuingCA ≠ ""
  · rw [if_pos more, List.mem_append, List.mem_singleton, and_iff_right more.1,
      and_iff_right more.2]
  · rw [if_neg more]
    exact (or_iff_left fun other => more ⟨other.1, other.2.1⟩).symm

theorem matchDomainName_presented (connection : Connection Chain) :
    matchDomainName engine.lowerCase config.globalTls (portTls engine config connection.port)
        (connection.serverNames.head?.getD "") = presented engine config connection := by
  have made : portTls engine config connection.port =
      (portNames engine config connection.port).foldl PortTls.set
        ⟨Table.empty, Table.empty⟩ := by
    rw [portTls, makePortTls, portNames, List.foldl_flatMap]
  obtain ⟨exact, wildcard⟩ := foldl_set (portNames engine config connection.port)
    ⟨Table.empty, Table.empty⟩
  unfold matchDomainName presented
  dsimp only
  rw [made, exact, wildcard, Table.get?_empty, Table.get?_empty, Option.or_none, Option.or_none]

theorem terminate_terminated (connection : Connection Chain) :
    Terminated engine config connection
      (terminate engine config (presented engine config connection) connection) := by
  unfold terminate
  cases found : presented engine config connection with
  | none => exact ⟨by simp [found], fun certificate => by simp [found]⟩
  | some certificate =>
      by_cases asked : mtls config connection.port = true
      · have checked : ((unionCA engine.hash config).any fun ca =>
            engine.issued ca connection.client) = true ↔
              ∃ ca, Trusted engine config ca ∧ engine.issued ca connection.client = true := by
          simp only [List.any_eq_true, mem_unionCA]
        dsimp only
        rw [if_pos asked]
        by_cases issued : ((unionCA engine.hash config).any fun ca =>
            engine.issued ca connection.client) = true
        · rw [if_pos issued]
          have trusted := checked.mp issued
          exact ⟨by simp [found], fun other => by simp [found, trusted]⟩
        · rw [if_neg issued]
          have untrusted : ¬ _ := fun trusted => issued (checked.mpr trusted)
          exact ⟨by simp [found], fun other => by simp [found, asked, untrusted]⟩
      · dsimp only
        rw [if_neg asked]
        exact ⟨by simp [found], fun other => by simp [found, asked]⟩

/-- In every run of connections to any listeners, each is presented with its own certificate, and
the clients of a listener with mutual TLS are checked against the authorities of all listeners. -/
theorem connections_terminated (engine : TlsEngine Chain) (config : Config)
    (connections : List (Connection Chain)) :
    List.Forall₂ (Terminated engine config) connections
      (outputs (step engine config) (fun _ => none) connections) := by
  have general (tlsCache : TlsCache) (faithful : Faithful (portTls engine config) tlsCache) :
      List.Forall₂ (Terminated engine config) connections
        (outputs (step engine config) tlsCache connections) := by
    induction connections generalizing tlsCache with
    | nil => exact .nil
    | cons connection rest ih =>
        obtain ⟨made, later⟩ := faithful.memoStep connection.port
        refine .cons ?_ (ih _ later)
        rw [step]
        dsimp only
        rw [made, matchDomainName_presented]
        exact terminate_terminated connection
  exact general _ (faithful_new _)

end PjsTermination

end Fgw
