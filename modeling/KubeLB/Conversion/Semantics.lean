import KubeLB.Conversion.Grouping
import KubeLB.Library.Routing

/-!
Contract: what an Ingress and what converted routes answer to a request.

Owns: the answers, the tables of HTTPRoutes and GRPCRoutes under the precedence of the
Gateway API, the table of an Ingress with its default backend, and requests.

Does not own: which listener a request arrives at. Weights of backends are not used by
the conversion.
-/

set_option autoImplicit false

namespace KubeLB.Conversion

open KubeLB.Library KubeLB.Core KubeLB.Networking KubeLB.GatewayApi

/-- What a client gets for a request that matches a rule. -/
inductive Answer where
  | backend (service : String) (port : Option Int32)
  | redirect (target : HTTPRequestRedirectFilter)
  /-- The rule has no backend. -/
  | unavailable
  deriving DecidableEq, Repr

/-- A request; its path is absolute. -/
structure Request where
  host : String
  path : String
  absolute : path.toList.head? = some '/'

/-! ## Gateway API -/

def manyLabels (front : List Char) : Bool := decide (front ≠ [])

/-- The path pattern of a match: without a path or type a prefix, without a value the
root. -/
def pathPattern (routeMatch : HTTPRouteMatch) : PathPattern :=
  match routeMatch.path with
  | none => .pathPrefix "/"
  | some pathMatch =>
      let value := pathMatch.value.getD "/"
      match pathMatch.type.getD .pathPrefix with
      | .exact => .exact value
      | .pathPrefix => .pathPrefix value
      | .regularExpression => .regularExpression value

def firstBackend {φ : Type} (backendRefs : List (RouteBackendRef φ)) : Answer :=
  match backendRefs with
  | [] => .unavailable
  | ref :: _ => .backend ref.name ref.port

/-- A redirect filter answers before any backend. -/
def httpRuleAnswer (rule : HTTPRouteRule) : Answer :=
  match rule.filters.find? (fun filter => filter.type = .requestRedirect) with
  | some filter => .redirect (filter.requestRedirect.getD {})
  | none => firstBackend rule.backendRefs

/-- One path rule for each match; a rule without matches accepts every path. -/
def httpPathRules (rule : HTTPRouteRule) : List (PathRule Answer) :=
  match rule.matches with
  | [] => [rootRule (httpRuleAnswer rule)]
  | routeMatches =>
      routeMatches.map (fun routeMatch => ⟨pathPattern routeMatch, httpRuleAnswer rule⟩)

def httpTable (route : HTTPRoute) : HostTable Answer where
  hosts := routeHosts route.spec.hostnames
  rules := route.spec.rules.flatMap httpPathRules

/-- The answer of HTTPRoutes; `none` when no route has a rule for the request. -/
def gatewayAnswer (expressions : Expressions) (routes : List HTTPRoute) (request : Request) :
    Option Answer :=
  routeRequest expressions manyLabels (routes.map httpTable) request.host request.path

/-! ## Routes of groups -/

section Groups

variable {ρ α : Type} {expressions : Expressions} {admits : List Char → Bool}
  {groups : List (HostRuleGroup ρ)} {served : String → Option (List ρ)} {defaultRule : Option ρ}
  {ingressName : String}

def groupTable (pathRules : ρ → List (PathRule α)) (route : String × List String × List ρ) :
    HostTable α where
  hosts := routeHosts route.2.1
  rules := route.2.2.flatMap pathRules

theorem rulesAt_groupTables (groupsServe : GroupsServe groups served) (hasGroups : groups ≠ [])
    (pathRules : ρ → List (PathRule α)) (host : String) :
    rulesAt ((routesOfGroups ingressName groups defaultRule).map (groupTable pathRules)) host =
      ((served host).getD []).flatMap pathRules := by
  have serving := filter_routesOfGroups defaultRule groupsServe hasGroups ingressName host
  rw [rulesAt, List.filter_map, List.flatMap_map]
  have asLists : ((routesOfGroups ingressName groups defaultRule).filter
      (fun route => host ∈ routeHosts route.2.1)).flatMap
        (fun route => route.2.2.flatMap pathRules) =
      (served host).toList.flatMap (fun rules => rules.flatMap pathRules) := by
    rw [← serving, List.flatMap_map]
  refine asLists.trans ?_
  cases served host <;> simp

theorem mem_hosts_groupTables (groupsServe : GroupsServe groups served) (hasGroups : groups ≠ [])
    (pathRules : ρ → List (PathRule α)) (host : String) :
    host ∈ ((routesOfGroups ingressName groups defaultRule).map
        (groupTable pathRules)).flatMap HostTable.hosts ↔ (served host).isSome := by
  have serving := filter_routesOfGroups defaultRule groupsServe hasGroups ingressName host
  simp only [List.mem_flatMap, List.mem_map, exists_exists_and_eq_and, groupTable]
  cases isServed : served host with
  | none =>
      rw [isServed, Option.toList_none, List.map_eq_nil_iff, List.filter_eq_nil_iff] at serving
      simpa using serving
  | some rules =>
      rw [isServed, Option.toList_some] at serving
      have isRules : rules ∈ ((routesOfGroups ingressName groups defaultRule).filter
          (fun route => host ∈ routeHosts route.2.1)).map (fun route => route.2.2) := by
        rw [serving]
        exact List.mem_singleton_self rules
      obtain ⟨route, isRoute, -⟩ := List.mem_map.mp isRules
      obtain ⟨isMember, isHost⟩ := List.mem_filter.mp isRoute
      simp only [Option.isSome_some, iff_true]
      exact ⟨route, isMember, of_decide_eq_true isHost⟩

/-- The most specific host with rules decides, by the rules that serve it. -/
theorem routeRequest_groupTables (groupsServe : GroupsServe groups served)
    (hasGroups : groups ≠ []) (pathRules : ρ → List (PathRule α)) {patterns : List String}
    (isPattern : ∀ host, host ∈ patterns ↔ (served host).isSome) (host path : String) :
    routeRequest expressions admits
        ((routesOfGroups ingressName groups defaultRule).map (groupTable pathRules)) host path =
      (mostSpecific admits patterns host).bind (fun pattern =>
        choosePath expressions (((served pattern).getD []).flatMap pathRules) path) := by
  have sameMembers (pattern : String) : pattern ∈ ((routesOfGroups ingressName groups
      defaultRule).map (groupTable pathRules)).flatMap HostTable.hosts ↔ pattern ∈ patterns := by
    rw [mem_hosts_groupTables groupsServe hasGroups, isPattern]
  rw [routeRequest, mostSpecific_congr sameMembers (fun _ _ => rfl)]
  simp only [rulesAt_groupTables groupsServe hasGroups]

end Groups

/-! ## Ingress -/

/-- A wildcard stands for one label. -/
def oneLabel (front : List Char) : Bool := decide (front ≠ []) && decide ('.' ∉ front)

def ingressPattern (path : HTTPIngressPath) : PathPattern :=
  if path.pathType = some .exact then .exact path.path else .pathPrefix path.path

def ingressBackendAnswer (backend : IngressBackend) : Answer :=
  match backend.service with
  | none => .unavailable
  | some service => .backend service.name (some service.port.number)

def ingressPathRule (path : HTTPIngressPath) : PathRule Answer :=
  ⟨ingressPattern path, ingressBackendAnswer path.backend⟩

def ingressTable (rule : IngressRule) : HostTable Answer where
  hosts := [rule.host]
  rules := (rule.http.getD []).map ingressPathRule

/-- The answer of an Ingress: the best path of the most specific host, else the
default backend. -/
def ingressAnswer (expressions : Expressions) (spec : IngressSpec) (request : Request) :
    Option Answer :=
  (routeRequest expressions oneLabel (spec.rules.map ingressTable) request.host
    request.path).or (spec.defaultBackend.map ingressBackendAnswer)

end KubeLB.Conversion
