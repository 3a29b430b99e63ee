import Fgw.Library.Memo
import Fgw.Library.Table
import Mathlib.Data.List.Infix

/-!
The upstream of a TLS connection in the pjs gateway, by the name in its hello.  The handlers are
remembered by that name, and made with the rules of the port of the connection that asks first.
-/

namespace Fgw

/-- `RouteRules`: by port and by host. -/
abbrev PortRules (α : Type) := Table (Table α)

/-- `sni` is `hello?.serverNames?.[0] || ''`. -/
structure TlsConnection where
  port : String
  sni : String

section Match

variable {α : Type} (truthy : α → Bool)

/-- `'*' + host.substring(dot)`, when there is a dot that is not in front. -/
def wildcardOf (host : String) : Option String :=
  let label := host.toList.takeWhile (· ≠ '.')
  let rest := host.toList.dropWhile (· ≠ '.')
  if label ≠ [] ∧ rest ≠ [] then some (String.ofList ('*' :: rest)) else none

/-- The answer is `none` where the script gives a value that is not truthy. -/
def matchHost (routeRules : Option (Table α)) (host : String) : Option α :=
  match routeRules with
  | none => none
  | some rules =>
      if host = "" then none
      else
        ((rules.get? host).filter truthy).or
          ((((wildcardOf host).bind rules.get?).filter truthy).or
            ((rules.get? "*").filter truthy))

/-- `matchHost(config?.RouteRules?.[__port?.Port], host)` -/
def matchConnection (routeRules : PortRules α) (connection : TlsConnection) : Option α :=
  matchHost truthy (routeRules.get? connection.port) connection.sni

end Match

/-! The upstream of a passthrough. -/

def containsText (text part : String) : Bool :=
  text.toList.tails.any fun rest => part.toList.isPrefixOf rest

/-- An upstream without a port gets the default one. -/
def passthroughTarget (defaultPort upstream : String) : String :=
  if upstream.toList.head? = some '[' then
    if containsText upstream "]:" then upstream else upstream ++ ":" ++ defaultPort
  else if containsText upstream ":" && upstream.toList.head? ≠ some ':' then upstream
  else upstream ++ ":" ++ defaultPort

/-- `DefaultPassthroughUpstreamPort || '443'` -/
def defaultPassthroughPort (configured : String) : String :=
  if configured = "" then "443" else configured

structure PassthroughConfig where
  routeRules : PortRules String
  defaultPort : String

def passthroughUpstream (config : PassthroughConfig) (connection : TlsConnection) :
    Option String :=
  (matchConnection (fun upstream => upstream ≠ "") config.routeRules connection).map
    (passthroughTarget (defaultPassthroughPort config.defaultPort))

/-- What the pipelines get from `hostHandlers.get(_sni)`, connection by connection. -/
def passthroughTargets (config : PassthroughConfig) (connections : List TlsConnection) :
    List (Option String) :=
  memoAnswers TlsConnection.sni (passthroughUpstream config) (fun _ => none) connections

/-! The balancer of a forward. -/

/-- The configuration that the balancer of a connection is made from. -/
def forwardBalancer {α : Type} (truthy : α → Bool) (routeRules : PortRules α)
    (connection : TlsConnection) : Option α :=
  matchConnection truthy routeRules connection

def forwardBalancers {α : Type} (truthy : α → Bool) (routeRules : PortRules α)
    (connections : List TlsConnection) : List (Option α) :=
  memoAnswers TlsConnection.sni (forwardBalancer truthy routeRules) (fun _ => none) connections

/-- Each connection gets the upstream or the balancer of its own port exactly if connections
with one server name arrive on ports whose rules agree about it. -/
theorem hostHandlers_eq_matchHost_iff {α : Type} (truthy : α → Bool) (config : PassthroughConfig)
    (forwardRules : PortRules α) (passed forwarded : List TlsConnection) :
    (passthroughTargets config passed = passed.map (passthroughUpstream config) ∧
        forwardBalancers truthy forwardRules forwarded =
          forwarded.map (forwardBalancer truthy forwardRules)) ↔
      KeyDecides TlsConnection.sni (passthroughUpstream config) passed ∧
        KeyDecides TlsConnection.sni (forwardBalancer truthy forwardRules) forwarded :=
  and_congr (memoAnswers_new_iff passed) (memoAnswers_new_iff forwarded)

/-! One name on two ports. -/

def twoPorts : PassthroughConfig :=
  ⟨(Table.empty.set "443" (Table.empty.set "a.com" "10.0.0.1")).set "8443"
    (Table.empty.set "a.com" "10.0.0.2"), ""⟩

theorem otherPort_wrongUpstream :
    ¬ ∀ (truthy : String → Bool) (config : PassthroughConfig) (forwardRules : PortRules String)
        (passed forwarded : List TlsConnection),
      passthroughTargets config passed = passed.map (passthroughUpstream config) ∧
        forwardBalancers truthy forwardRules forwarded =
          forwarded.map (forwardBalancer truthy forwardRules) := by
  intro claimed
  have same := (claimed (fun _ => true) twoPorts Table.empty
    [⟨"443", "a.com"⟩, ⟨"8443", "a.com"⟩] []).1
  exact absurd same (by decide +kernel)

end Fgw
