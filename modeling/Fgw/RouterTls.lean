import Fgw.Library.PaddedNumbers
import Fgw.RouterHosts

/-!
The TLS passthrough router, which picks one route by the server name of a handshake, next to the
HTTP router, which picks a group of routes by the host of a request.
-/

namespace Fgw

/-- What `makeBackendSelector` returns for the first rule of a route. -/
structure TcpSelector where
  resource : RouteResource
  rule : Option Rule

/-- `selectorFor` is what making the selector throws, if it does. -/
def makeTcpSelector (selectorFor : Option Rule → Except Thrown Unit) (resource : RouteResource) :
    Except Thrown TcpSelector := do
  selectorFor resource.rules.head?
  return ⟨resource, resource.rules.head?⟩

/-- `hostFullnames` and `hostPostfixes` as they are filled. -/
def RouterTls.addHost (engine : HttpEngine) (selectorFor : Option Rule → Except Thrown Unit)
    (hosts : Table TcpSelector × List (String × TcpSelector)) (host : String × RouteResource) :
    Except Thrown (Table TcpSelector × List (String × TcpSelector)) := do
  let selector ← makeTcpSelector selectorFor host.2
  let name := engine.lowerCase (trimText host.1)
  match name.toList with
  | '*' :: ending => return (hosts.1, hosts.2 ++ [(String.ofList ending, selector)])
  | _ => return (hosts.1.set name selector, hosts.2)

def RouterTls.makeRouter (engine : HttpEngine) (selectorFor : Option Rule → Except Thrown Unit)
    (resources : List RouteResource) : Except Thrown (Hosts TcpSelector) := do
  let hosts ← (listHosts resources).foldlM (RouterTls.addHost engine selectorFor) (Table.empty, [])
  return ⟨hosts.1.entries,
    hosts.2.insertionSort fun first second => jsLength second.1 ≤ jsLength first.1⟩

/-- The selector that the router calls for `hello.serverNames`. -/
def RouterTls.route (engine : HttpEngine) (router : Hosts TcpSelector)
    (serverNames : List String) : Option TcpSelector :=
  router.find? (engine.lowerCase (serverNames.head?.getD ""))

section Hosts

variable {engine : HttpEngine} {selectorFor : Option Rule → Except Thrown Unit}

/-- The selectors of all hostnames, each under its pattern. -/
def tlsSelectors (engine : HttpEngine) (hosts : List (String × RouteResource)) :
    List (HostPattern × TcpSelector) :=
  hosts.map fun host => (writtenPattern engine host.1, ⟨host.2, host.2.rules.head?⟩)

theorem mem_tlsSelectors {resources : List RouteResource} {pattern : HostPattern}
    {selector : TcpSelector} :
    (pattern, selector) ∈ tlsSelectors engine (listHosts resources) ↔
      ∃ resource ∈ resources, resource.Declares engine pattern ∧
        selector = ⟨resource, resource.rules.head?⟩ := by
  simp only [tlsSelectors, List.mem_map, Prod.mk.injEq]
  constructor
  · rintro ⟨host, written, under, rfl⟩
    have declares := (mem_routesUnder engine).mp
      (List.mem_map_of_mem (List.mem_filter.mpr ⟨written, decide_eq_true under⟩) (f := Prod.snd))
    exact ⟨host.2, declares.1, declares.2, rfl⟩
  · rintro ⟨resource, member, declares, rfl⟩
    have listed := (mem_routesUnder engine).mpr ⟨member, declares⟩
    obtain ⟨host, inside, rfl⟩ := List.mem_map.mp listed
    obtain ⟨written, under⟩ := List.mem_filter.mp inside
    exact ⟨host, written, of_decide_eq_true under, rfl⟩

theorem RouterTls.addHost_ok {kept after : Table TcpSelector × List (String × TcpSelector)}
    {host : String × RouteResource}
    (added : RouterTls.addHost engine selectorFor kept host = .ok after) :
    after = keepUnder kept (writtenPattern engine host.1, ⟨host.2, host.2.rules.head?⟩) := by
  unfold RouterTls.addHost makeTcpSelector at added
  obtain ⟨selector, made, rest⟩ := (bind_eq_ok _ _ _).mp added
  obtain ⟨_, _, same⟩ := (bind_eq_ok _ _ _).mp made
  cases same
  unfold writtenPattern
  rcases hostPattern_cases (engine.lowerCase (trimText host.1)) with
    ⟨ending, spelled, pattern⟩ | ⟨other, pattern⟩
  · simp only [spelled] at rest
    cases rest
    rw [pattern]
    rfl
  · rw [pattern]
    dsimp only at rest
    split at rest
    · rename_i spelled
      exact absurd spelled (other _)
    · cases rest
      rfl

theorem foldlM_addHost {hosts : List (String × RouteResource)}
    {kept after : Table TcpSelector × List (String × TcpSelector)}
    (filled : hosts.foldlM (RouterTls.addHost engine selectorFor) kept = .ok after) :
    after = (tlsSelectors engine hosts).foldl keepUnder kept := by
  induction hosts generalizing kept with
  | nil =>
      cases filled
      rfl
  | cons host rest ih =>
      rw [List.foldlM_cons, bind_eq_ok] at filled
      obtain ⟨next, added, later⟩ := filled
      rw [ih later, RouterTls.addHost_ok added]
      rfl

/-- The router keeps, under exactly the declared patterns, selectors of routes that declare
them. -/
theorem holds_makeRouter {resources : List RouteResource} {router : Hosts TcpSelector}
    (made : RouterTls.makeRouter engine selectorFor resources = .ok router) :
    router.Sorted ∧
      (∀ pattern, (∃ selector, router.Holds pattern selector) ↔
        Declared engine resources pattern) ∧
      ∀ pattern selector, router.Holds pattern selector → ∃ resource ∈ resources,
        resource.Declares engine pattern ∧ selector = ⟨resource, resource.rules.head?⟩ := by
  obtain ⟨kept, filled, same⟩ := (bind_eq_ok _ _ _).mp made
  cases same
  obtain ⟨own, present⟩ := holds_keepUnder (tlsSelectors engine (listHosts resources))
  rw [← foldlM_addHost filled] at own present
  have unsorted (pattern : HostPattern) (selector : TcpSelector) :
      Hosts.Holds ⟨kept.1.entries, kept.2.insertionSort fun first second =>
          jsLength second.1 ≤ jsLength first.1⟩ pattern selector ↔
        Hosts.Holds ⟨kept.1.entries, kept.2⟩ pattern selector := by
    cases pattern with
    | exact name => rfl
    | wildcard ending => exact List.mem_insertionSort _
  refine ⟨pairwise_sortDescending (fun entry : String × TcpSelector => jsLength entry.1) kept.2,
    ?_, ?_⟩
  · intro pattern
    simp only [unsorted]
    refine (present pattern).trans ?_
    constructor
    · rintro ⟨selector, listed⟩
      obtain ⟨resource, member, declares, _⟩ := mem_tlsSelectors.mp listed
      exact ⟨resource, member, declares⟩
    · rintro ⟨resource, member, declares⟩
      exact ⟨_, mem_tlsSelectors.mpr ⟨resource, member, declares, rfl⟩⟩
  · intro pattern selector holds
    exact mem_tlsSelectors.mp (own pattern selector ((unsorted pattern selector).mp holds))

end Hosts

/-! Hosts with and without a port. -/

/-- Lower case leaves the digits of a port alone and makes no colon. -/
structure HttpEngine.LowersHosts (engine : HttpEngine) : Prop where
  port : ∀ name port, (∀ c ∈ port.toList, c.isDigit = true) →
    engine.lowerCase (name ++ ":" ++ port) = engine.lowerCase name ++ ":" ++ port
  colon : ∀ name, ':' ∉ name.toList → ':' ∉ (engine.lowerCase name).toList

/-- The request has the host `name` or `name:port`. -/
def RequestFor (head : Head) (name : String) : Prop :=
  ∃ host, head.header "host" = some host ∧ host ≠ "" ∧
    (host = name ∨ ∃ port, (∀ c ∈ port.toList, c.isDigit = true) ∧ host = name ++ ":" ++ port)

theorem withoutPort_plain {name : String} (plain : ':' ∉ name.toList) : withoutPort name = name := by
  rw [withoutPort, if_neg plain]

theorem withoutPort_port {name port : String} (digits : ∀ c ∈ port.toList, c.isDigit = true) :
    withoutPort (name ++ ":" ++ port) = name := by
  have spelled : (name ++ ":" ++ port).toList = name.toList ++ ':' :: port.toList := by simp
  have skipped : ∀ c ∈ port.toList, decide (c ≠ ':') = true := by
    intro c member
    apply decide_eq_true
    rintro rfl
    exact absurd (digits ':' member) (by decide)
  have kept : (name.toList ++ [':']).rdropWhile (fun c => decide (c ≠ ':')) =
      name.toList ++ [':'] := List.rdropWhile_concat_neg _ _ _ (by decide)
  rw [withoutPort, spelled, if_pos (by simp), List.append_cons,
    rdropWhile_append_skipped _ _ skipped, kept, List.dropLast_concat, String.ofList_toList]

theorem requestHost_eq {engine : HttpEngine} (lowers : engine.LowersHosts) {name : String}
    (plain : ':' ∉ name.toList) {head : Head} (request : RequestFor head name) :
    requestHost engine head = some (engine.lowerCase name) := by
  obtain ⟨host, written, nonempty, form⟩ := request
  have stripped : withoutPort (engine.lowerCase host) = engine.lowerCase name := by
    rcases form with rfl | ⟨port, digits, rfl⟩
    · exact withoutPort_plain (lowers.colon host plain)
    · rw [lowers.port name port digits, withoutPort_port digits]
  rw [requestHost, written, Option.filter_some, if_pos (decide_eq_true nonempty), Option.map_some,
    stripped]

/-- No pattern is declared by two routes. -/
def OneRouteEach (engine : HttpEngine) (resources : List RouteResource) : Prop :=
  ∀ first ∈ resources, ∀ second ∈ resources, ∀ pattern, first.Declares engine pattern →
    second.Declares engine pattern → first = second

/-- What the two routers do with a name whose most specific pattern is known: the HTTP router
matches against the rules of the routes that declare it, the TLS router takes a route that
does, which is the same one where only one route declares it. -/
structure RoutedBy (engine : HttpEngine) (resources : List RouteResource) (head : Head)
    (name : String) (pattern : HostPattern) : Prop where
  http : ∃ group, (∀ resource, resource ∈ group ↔
      resource ∈ resources ∧ resource.Declares engine pattern) ∧
    ∀ router, RouterHttp.makeRouter engine true resources = .ok router →
      ∃ selector, makeRuleSelector engine true group = .ok selector ∧
        ∀ vars, route engine router head vars = selector head vars
  tls : OneRouteEach engine resources → ∃ resource ∈ resources,
    (∀ other, other ∈ resources ∧ other.Declares engine pattern ↔ other = resource) ∧
      ∀ selectorFor router, RouterTls.makeRouter engine selectorFor resources = .ok router →
        ∀ more, RouterTls.route engine router (name :: more) =
          some ⟨resource, resource.rules.head?⟩

structure RoutedNowhere (engine : HttpEngine) (resources : List RouteResource) (head : Head)
    (name : String) : Prop where
  http : ∀ router, RouterHttp.makeRouter engine true resources = .ok router →
    ∀ vars, route engine router head vars = (none, vars)
  tls : ∀ selectorFor router, RouterTls.makeRouter engine selectorFor resources = .ok router →
    ∀ more, RouterTls.route engine router (name :: more) = none

theorem MostSpecific.declared {declared : HostPattern → Prop} {name : String}
    {pattern : HostPattern} (specific : MostSpecific declared name pattern) : declared pattern := by
  cases pattern with
  | exact own => exact specific.1 ▸ specific.2
  | wildcard ending => exact specific.1

theorem route_serving {engine : HttpEngine} {resources : List RouteResource} {head : Head}
    {group : List RouteResource} (serving : servingGroup engine resources head = some group)
    {router : Hosts RuleSelector}
    (made : RouterHttp.makeRouter engine true resources = .ok router) :
    ∃ selector, makeRuleSelector engine true group = .ok selector ∧
      ∀ vars, route engine router head vars = selector head vars := by
  have each (vars : RouteVars) : ∃ selector, makeRuleSelector engine true group = .ok selector ∧
      route engine router head vars = selector head vars := by
    rcases route_eq made head vars with ⟨nowhere, _⟩ | ⟨other, selector, same, compiled, routed⟩
    · rw [serving] at nowhere
      cases nowhere
    · rw [serving] at same
      cases same
      exact ⟨selector, compiled, routed⟩
  obtain ⟨selector, compiled, _⟩ := each noVars
  refine ⟨selector, compiled, ?_⟩
  intro vars
  obtain ⟨other, again, routed⟩ := each vars
  rw [compiled] at again
  cases again
  exact routed

theorem tlsRoute_cases {engine : HttpEngine} {selectorFor : Option Rule → Except Thrown Unit}
    {resources : List RouteResource} {router : Hosts TcpSelector}
    (made : RouterTls.makeRouter engine selectorFor resources = .ok router) (name : String)
    (more : List String) :
    (RouterTls.route engine router (name :: more) = none ∧
        ∀ pattern, ¬ MostSpecific (Declared engine resources) (engine.lowerCase name) pattern) ∨
      ∃ pattern, ∃ resource ∈ resources,
        MostSpecific (Declared engine resources) (engine.lowerCase name) pattern ∧
          resource.Declares engine pattern ∧
            RouterTls.route engine router (name :: more) =
              some ⟨resource, resource.rules.head?⟩ := by
  obtain ⟨sorted, declared, own⟩ := holds_makeRouter made
  rcases Hosts.find?_cases declared sorted (engine.lowerCase name) with
    nothing | ⟨pattern, selector, found, specific, holds⟩
  · exact .inl nothing
  · obtain ⟨resource, member, declares, rfl⟩ := own pattern selector holds
    exact .inr ⟨pattern, resource, member, specific, declares, found⟩

theorem hostname_resolution {engine : HttpEngine} (lowers : engine.LowersHosts)
    (resources : List RouteResource) {name : String} (plain : ':' ∉ name.toList) {head : Head}
    (request : RequestFor head name) :
    (∀ pattern, MostSpecific (Declared engine resources) (engine.lowerCase name) pattern →
        RoutedBy engine resources head name pattern) ∧
      ((∀ pattern, ¬ MostSpecific (Declared engine resources) (engine.lowerCase name) pattern) →
        RoutedNowhere engine resources head name) := by
  have serving : servingGroup engine resources head =
      (hostGroups engine resources).find? (engine.lowerCase name) := by
    rw [servingGroup, requestHost_eq lowers plain request, Option.bind_some]
  constructor
  · intro pattern specific
    constructor
    · rcases find?_hostGroups engine resources (engine.lowerCase name) with
        ⟨_, nothing⟩ | ⟨other, group, found, chosen, members⟩
      · exact absurd specific (nothing pattern)
      · obtain rfl := mostSpecific_unique chosen specific
        exact ⟨group, members, fun router made => route_serving (serving.trans found) made⟩
    · intro once
      obtain ⟨resource, member, declares⟩ := specific.declared
      refine ⟨resource, member, ?_, ?_⟩
      · intro other
        constructor
        · rintro ⟨inside, also⟩
          exact once other inside resource member pattern also declares
        · rintro rfl
          exact ⟨member, declares⟩
      · intro selectorFor router made more
        rcases tlsRoute_cases made name more with
          ⟨_, nothing⟩ | ⟨other, chosen, inside, found, also, routed⟩
        · exact absurd specific (nothing pattern)
        · obtain rfl := mostSpecific_unique found specific
          rw [routed, once chosen inside resource member other also declares]
  · intro nothing
    constructor
    · intro router made vars
      rcases route_eq made head vars with ⟨_, routed⟩ | ⟨group, _, same, _, _⟩
      · exact routed
      · rw [serving] at same
        rcases find?_hostGroups engine resources (engine.lowerCase name) with
          ⟨none, _⟩ | ⟨pattern, _, _, specific, _⟩
        · rw [none] at same
          cases same
        · exact absurd specific (nothing pattern)
    · intro selectorFor router made more
      rcases tlsRoute_cases made name more with ⟨routed, _⟩ | ⟨pattern, _, _, specific, _⟩
      · exact routed
      · exact absurd specific (nothing pattern)

/-! Two routes with overlapping wildcards, the shorter one first. -/

theorem toLower_of_lt {c : Char} (small : c.toNat < 65) : c.toLower = c := by
  have outside : ¬ (c.val ≥ 'A'.val ∧ c.val ≤ 'Z'.val) := by
    rintro ⟨above, _⟩
    have least : 65 ≤ c.toNat := UInt32.le_iff_toNat_le.mp above
    omega
  exact dif_neg outside

theorem toLower_ne_colon {c : Char} (other : c ≠ ':') : c.toLower ≠ ':' := by
  by_cases upper : c.val ≥ 'A'.val ∧ c.val ≤ 'Z'.val
  · intro same
    have shifted : c.toLower = _ := dif_pos upper
    rw [shifted] at same
    have value := congrArg Char.val same
    have least : 65 ≤ c.val.toNat := UInt32.le_iff_toNat_le.mp upper.1
    have most : c.val.toNat ≤ 90 := UInt32.le_iff_toNat_le.mp upper.2
    have sum := congrArg UInt32.toNat value
    rw [UInt32.toNat_add, UInt32.toNat_sub_of_le _ _ (by decide)] at sum
    have letters : 'a'.val.toNat - 'A'.val.toNat = 32 := by decide
    have colon : ':'.val.toNat = 58 := by decide
    omega
  · have kept : c.toLower = c := dif_neg upper
    rwa [kept]

theorem documentedEngine_lowers : documentedEngine.LowersHosts := by
  constructor
  · intro name port digits
    have same : port.toList.map Char.toLower = port.toList := by
      conv_rhs => rw [← List.map_id port.toList]
      apply List.map_congr_left
      intro c member
      have bounds := isDigit_bounds (digits c member)
      exact toLower_of_lt (by omega)
    apply String.toList_inj.mp
    simp [documentedEngine, same]
  · intro name plain member
    have lowered : ':' ∈ name.toList.map Char.toLower := by simpa [documentedEngine] using member
    obtain ⟨c, inside, same⟩ := List.mem_map.mp lowered
    refine toLower_ne_colon ?_ same
    rintro rfl
    exact plain inside

def wildcardRoute (hostname : String) : RouteResource :=
  ⟨"HTTPRoute", some [hostname], [ruleOf prefixOnly]⟩

def wildcardRoutes : List RouteResource := [wildcardRoute "*.com", wildcardRoute "*.Example.com"]

theorem mostSpecific_wildcardRoutes :
    MostSpecific (Declared documentedEngine wildcardRoutes)
      (documentedEngine.lowerCase "www.EXAMPLE.com") (.wildcard ".example.com") := by
  have patterns (pattern : HostPattern) : Declared documentedEngine wildcardRoutes pattern ↔
      pattern = .wildcard ".com" ∨ pattern = .wildcard ".example.com" := by
    have first : writtenPattern documentedEngine "*.com" = .wildcard ".com" := by decide +kernel
    have second : writtenPattern documentedEngine "*.Example.com" =
        .wildcard ".example.com" := by decide +kernel
    simp [Declared, RouteResource.Declares, wildcardRoutes, wildcardRoute, first, second,
      eq_comm (b := pattern)]
  simp only [MostSpecific, patterns]
  refine ⟨.inr trivial, by decide +kernel, by simp, ?_⟩
  rintro other (same | same) _
  · cases same
    decide +kernel
  · cases same
    exact Nat.le_refl _

def exampleHead : Head := ⟨"GET", "/a", [("host", "www.EXAMPLE.com:8080")]⟩

theorem hostname_resolution_wildcards :
    RoutedBy documentedEngine wildcardRoutes exampleHead "www.EXAMPLE.com"
      (.wildcard ".example.com") :=
  (hostname_resolution documentedEngine_lowers _ (by decide +kernel)
    ⟨"www.EXAMPLE.com:8080", rfl, by decide,
      .inr ⟨"8080", List.all_eq_true.mp (by decide), rfl⟩⟩).1 _
    mostSpecific_wildcardRoutes

end Fgw
