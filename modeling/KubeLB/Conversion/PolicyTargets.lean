import KubeLB.Conversion.Controller
import KubeLB.Conversion.HostGroups
import KubeLB.Conversion.Preservation
import KubeLB.Library.Text

/-!
Contract: which routes the policies of an Ingress apply to.

Owns: the names of the routes of one conversion, which differ, and when every
HTTPRoute of a reconcile is a target of every policy of that reconcile.

Does not own: what a policy does to the requests of its target.
-/

set_option autoImplicit false

namespace KubeLB.Conversion

open KubeLB.Library KubeLB.Core KubeLB.Networking KubeLB.GatewayApi KubeLB.EnvoyGateway
  KubeLB.Controllers

/-! ## Names of routes -/

section Names

variable {ρ : Type} {groups : List (HostRuleGroup ρ)} {defaultRule : Option ρ}
  {ingressName : String}

theorem names_routesOfGroups (hasGroups : groups ≠ []) :
    (routesOfGroups ingressName groups defaultRule).map Prod.fst =
      (List.range groups.length).map (fun index =>
        generateRouteName ingressName index groups.length) := by
  cases groups with
  | nil => exact absurd rfl hasGroups
  | cons group groups =>
      simp only [routesOfGroups, List.map_map]
      rw [List.range_eq_range', ← List.zipIdx_map_snd 0 (group :: groups), List.map_map]
      rfl

theorem names_eq_map_range :
    (routesOfGroups ingressName groups defaultRule).map Prod.fst =
      (List.range (routesOfGroups ingressName groups defaultRule).length).map (fun index =>
        generateRouteName ingressName index
          (routesOfGroups ingressName groups defaultRule).length) := by
  by_cases hasGroups : groups = []
  · subst hasGroups
    cases defaultRule <;> simp [routesOfGroups, generateRouteName]
  · have isNames : (routesOfGroups ingressName groups defaultRule).map Prod.fst = _ :=
      names_routesOfGroups hasGroups
    have sameLength := congrArg List.length isNames
    rw [List.length_map, List.length_map, List.length_range] at sameLength
    rw [isNames, sameLength]

/-- The metadata of the routes that an Ingress has by their number. -/
def groupMetadata (ingress : Ingress) (count : Nat) : List ObjectMeta :=
  (List.range count).map (fun index =>
    routeMetadata ingress (generateRouteName ingress.metadata.name index count))

theorem metadata_routesOfGroups (ingress : Ingress) :
    (routesOfGroups ingress.metadata.name groups defaultRule).map
        (fun route => routeMetadata ingress route.1) =
      groupMetadata ingress (routesOfGroups ingress.metadata.name groups defaultRule).length := by
  have names := congrArg (List.map (routeMetadata ingress))
    (@names_eq_map_range _ groups defaultRule ingress.metadata.name)
  rw [List.map_map, List.map_map] at names
  exact names

end Names

theorem nodup_names_groupMetadata (ingress : Ingress) (count : Nat) :
    ((groupMetadata ingress count).map ObjectMeta.name).Nodup := by
  rw [groupMetadata, List.map_map]
  exact nodup_map_generateRouteName ingress.metadata.name count

theorem ns_of_mem_groupMetadata {ingress : Ingress} {count : Nat} {metadata : ObjectMeta}
    (isMetadata : metadata ∈ groupMetadata ingress count) : metadata.ns = ingress.metadata.ns := by
  obtain ⟨index, -, rfl⟩ := List.mem_map.mp isMetadata
  rfl

theorem metadata_httpRoutes (surroundings : Surroundings) (input : Input) :
    let routes := (convertIngressWithServices surroundings input).httpRoutes
    routes.map HTTPRoute.metadata = groupMetadata input.ingress routes.length := by
  intro routes
  cases isGRPC : isGRPCIngress surroundings.text input.ingress with
  | true =>
      simp only [routes, httpRoutes_of_grpc isGRPC]
      rfl
  | false =>
      simp only [routes, httpRoutes_of_http isGRPC, convertToHTTPRoutes, List.map_map,
        List.length_map]
      exact metadata_routesOfGroups input.ingress

theorem metadata_grpcRoutes (surroundings : Surroundings) (input : Input) :
    let routes := (convertIngressWithServices surroundings input).grpcRoutes
    routes.map GRPCRoute.metadata = groupMetadata input.ingress routes.length := by
  intro routes
  cases isGRPC : isGRPCIngress surroundings.text input.ingress with
  | true =>
      simp only [routes, grpcRoutes_of_grpc isGRPC, convertToGRPCRoutes, List.map_map,
        List.length_map]
      exact metadata_routesOfGroups input.ingress
  | false =>
      simp only [routes, grpcRoutes_of_http isGRPC]
      rfl

/-! ## The number of routes -/

section Counting

variable (surroundings : Surroundings) (input : Input)

def httpGroupKey (host : String) : String × Bool :=
  let filters := (convertAnnotations surroundings.text input.skipPolicyWarnings
    input.ingress.metadata.annotations).filters
  hostGroupKey (rulesSignature surroundings.marshalHTTP "rules-")
    (defaultHTTPRule surroundings input filters) input.transformHost
    (convertPath surroundings input filters) input.ingress.spec.rules host

def grpcGroupKey (host : String) : String × Bool :=
  hostGroupKey (rulesSignature surroundings.marshalGRPC "grpc-rules-")
    (defaultGRPCRule surroundings input) input.transformHost (grpcPathRule surroundings input)
    input.ingress.spec.rules host

/-- A route for each group of hosts, or one for the default backend alone. -/
def Input.routeCount (key : String → String × Bool) : Nat :=
  let hosts := hostsWithRules input.transformHost input.ingress.spec.rules
  if hosts = [] then input.hasDefaultService.toNat else (hosts.map key).dedup.length

def httpRouteCount : Nat :=
  if isGRPCIngress surroundings.text input.ingress then 0
  else input.routeCount (httpGroupKey surroundings input)

def grpcRouteCount : Nat :=
  if isGRPCIngress surroundings.text input.ingress then
    input.routeCount (grpcGroupKey surroundings input)
  else 0

variable {surroundings input}

theorem length_routesOfGroups {ρ : Type} {signature : List ρ → String}
    {order : GoMap.RangeOrder String} {convertPath : HTTPIngressPath → ρ} {defaultRule : Option ρ}
    (isDefault : defaultRule.isSome = input.hasDefaultService) (ingressName : String) :
    (routesOfGroups ingressName (groupHostsByRules signature order
        (collectHostRules input.transformHost convertPath input.ingress.spec.rules) defaultRule)
        defaultRule).length =
      input.routeCount (hostGroupKey signature defaultRule input.transformHost convertPath
        input.ingress.spec.rules) := by
  have isLength : ∀ groups : List (HostRuleGroup ρ),
      (routesOfGroups ingressName groups defaultRule).length =
        if groups.length = 0 then defaultRule.isSome.toNat else groups.length := by
    intro groups
    cases groups <;> cases defaultRule <;> simp [routesOfGroups]
  rw [isLength, length_groupHostsByRules, isDefault, Input.routeCount, ruleGroupCount]
  by_cases noHosts : hostsWithRules input.transformHost input.ingress.spec.rules = []
  · simp [noHosts]
  · rw [if_neg noHosts, if_neg]
    rwa [List.length_eq_zero_iff, List.dedup_eq_nil, List.map_eq_nil_iff]

theorem length_httpRoutes :
    (convertIngressWithServices surroundings input).httpRoutes.length =
      httpRouteCount surroundings input := by
  unfold httpRouteCount
  cases isGRPC : isGRPCIngress surroundings.text input.ingress with
  | true =>
      rw [httpRoutes_of_grpc isGRPC]
      rfl
  | false =>
      rw [httpRoutes_of_http isGRPC]
      simp only [convertToHTTPRoutes, List.length_map, Bool.false_eq_true, if_false]
      exact length_routesOfGroups (isSome_defaultHTTPRule _) _

theorem length_grpcRoutes :
    (convertIngressWithServices surroundings input).grpcRoutes.length =
      grpcRouteCount surroundings input := by
  unfold grpcRouteCount
  cases isGRPC : isGRPCIngress surroundings.text input.ingress with
  | true =>
      rw [grpcRoutes_of_grpc isGRPC]
      simp only [convertToGRPCRoutes, List.length_map, if_true]
      exact length_routesOfGroups isSome_defaultGRPCRule _
  | false =>
      rw [grpcRoutes_of_http isGRPC]
      rfl

theorem httpRouteCount_le_one_iff :
    httpRouteCount surroundings input ≤ 1 ↔
      isGRPCIngress surroundings.text input.ingress = true ∨
        ∀ host other, Tracked input.transformHost input.ingress.spec.rules host →
          Tracked input.transformHost input.ingress.spec.rules other →
          httpGroupKey surroundings input host = httpGroupKey surroundings input other := by
  unfold httpRouteCount
  cases isGRPC : isGRPCIngress surroundings.text input.ingress with
  | true => simp
  | false =>
      simp only [Bool.false_eq_true, if_false, false_or, Input.routeCount]
      by_cases noHosts : hostsWithRules input.transformHost input.ingress.spec.rules = []
      · rw [if_pos noHosts]
        refine iff_of_true (Bool.toNat_le _) ?_
        intro host other tracked
        rw [← mem_hostsWithRules, noHosts] at tracked
        cases tracked
      · rw [if_neg noHosts]
        exact ruleGroupCount_le_one_iff

end Counting

/-! ## Annotations with a policy -/

def YieldsSecurityPolicy (annotations : StringMap) : Prop :=
  let value := annotationValue annotations
  value .enableCORS = "true" ∨ parseStringList (value .whitelistSourceRange) ≠ [] ∨
    parseStringList (value .denylistSourceRange) ≠ [] ∨
    value .authType = "basic" ∧ value .authSecret ≠ ""

def YieldsTrafficPolicy (annotations : StringMap) : Prop :=
  let value := annotationValue annotations
  parseDuration (value .proxyConnectTimeout) ≠ "" ∨
    parseDuration (if value .proxyReadTimeout ≠ "" then value .proxyReadTimeout
      else value .proxySendTimeout) ≠ "" ∨
    0 < parseInt (value .limitRPS) ∨ 0 < parseInt (value .limitRPM) ∨
    0 < parseInt (value .limitConnections)

theorem securityPolicies_eq_nil_iff {input : PolicyConversionInput} :
    (convertToPolicies input).securityPolicies = [] ↔ ¬ YieldsSecurityPolicy input.annotations := by
  rw [show (convertToPolicies input).securityPolicies = (securityBuilder input).build.toList from
    congrArg Option.toList (buildSecurityPolicy_eq input), Option.toList_eq_nil_iff,
    SecurityPolicyBuilder.build, ite_eq_left_iff, SecurityPolicyBuilder.isEmpty]
  simp [securityBuilder, builtCORS, builtAuthorization, rangeAuthorization, builtBasicAuth,
    YieldsSecurityPolicy, and_assoc]

theorem backendTrafficPolicies_eq_nil_iff {input : PolicyConversionInput} :
    (convertToPolicies input).backendTrafficPolicies = [] ↔
      ¬ YieldsTrafficPolicy input.annotations := by
  have noLimit : builtRateLimit input = none ↔
      ¬ 0 < parseInt (annotationValue input.annotations .limitRPS) ∧
        ¬ 0 < parseInt (annotationValue input.annotations .limitRPM) := by
    simp only [builtRateLimit]
    split_ifs <;> simp_all
  rw [show (convertToPolicies input).backendTrafficPolicies =
    (trafficBuilder input).build.toList from
    congrArg Option.toList (buildBackendTrafficPolicy_eq input), Option.toList_eq_nil_iff,
    BackendTrafficPolicyBuilder.build, ite_eq_left_iff, BackendTrafficPolicyBuilder.isEmpty]
  simp [trafficBuilder, builtTimeout, builtDuration, noLimit, builtCircuitBreaker,
    YieldsTrafficPolicy, and_assoc]

/-! ## Targets -/

/-- The reference of a policy names the route. Policies refer to their own namespace. -/
def Targets (targetRef : Option PolicyTargetReference) (policy : ObjectMeta) (route : HTTPRoute) :
    Prop :=
  targetRef = some
      { group := "gateway.networking.k8s.io", kind := "HTTPRoute", name := route.metadata.name } ∧
    policy.ns = route.metadata.ns

/-- Every route is a target of every policy. -/
structure CoversRoutes (policies : PolicyConversionResult) (routes : List HTTPRoute) : Prop where
  security : ∀ policy ∈ policies.securityPolicies, ∀ route ∈ routes,
    Targets policy.spec.targetRef policy.metadata route
  traffic : ∀ policy ∈ policies.backendTrafficPolicies, ∀ route ∈ routes,
    Targets policy.spec.targetRef policy.metadata route

theorem coversRoutes_empty (routes : List HTTPRoute) : CoversRoutes {} routes where
  security _ isPolicy := nomatch isPolicy
  traffic _ isPolicy := nomatch isPolicy

section Built

variable {input : PolicyConversionInput}

theorem target_of_mem_securityPolicies {policy : SecurityPolicy}
    (isPolicy : policy ∈ (convertToPolicies input).securityPolicies) :
    policy.spec.targetRef = some input.policyTargetRef ∧
      policy.metadata = input.policyMetadata "-security" := by
  simp only [convertToPolicies, buildSecurityPolicy_eq, SecurityPolicyBuilder.build,
    Option.mem_toList, Option.ite_none_left_eq_some, Option.some.injEq] at isPolicy
  obtain ⟨-, rfl⟩ := isPolicy
  exact ⟨rfl, rfl⟩

theorem target_of_mem_backendTrafficPolicies {policy : BackendTrafficPolicy}
    (isPolicy : policy ∈ (convertToPolicies input).backendTrafficPolicies) :
    policy.spec.targetRef = some input.policyTargetRef ∧
      policy.metadata = input.policyMetadata "-backend" := by
  simp only [convertToPolicies, buildBackendTrafficPolicy_eq, BackendTrafficPolicyBuilder.build,
    Option.mem_toList, Option.ite_none_left_eq_some, Option.some.injEq] at isPolicy
  obtain ⟨-, rfl⟩ := isPolicy
  exact ⟨rfl, rfl⟩

/-- Policies with the target of the input cover the routes that have its name. -/
theorem forall_targets_iff {α : Type} {policies : List α}
    {targetRef : α → Option PolicyTargetReference} {metadata : α → ObjectMeta} {suffix : String}
    (built : ∀ policy ∈ policies, targetRef policy = some input.policyTargetRef ∧
      metadata policy = input.policyMetadata suffix)
    {routes : List HTTPRoute}
    (sameNamespace : ∀ route ∈ routes, route.metadata.ns = input.ingressNamespace) :
    (∀ policy ∈ policies, ∀ route ∈ routes, Targets (targetRef policy) (metadata policy) route) ↔
      policies = [] ∨ ∀ route ∈ routes, route.metadata.name = input.routeName := by
  have targets_iff (policy : α) (isPolicy : policy ∈ policies) :
      (∀ route ∈ routes, Targets (targetRef policy) (metadata policy) route) ↔
        ∀ route ∈ routes, route.metadata.name = input.routeName := by
    refine forall₂_congr fun route isRoute => ?_
    simp only [Targets, built policy isPolicy, PolicyBuilder.policyTargetRef, Option.some.injEq,
      PolicyTargetReference.mk.injEq, true_and, PolicyBuilder.policyMetadata,
      sameNamespace route isRoute, and_true, eq_comm]
  refine (forall₂_congr targets_iff).trans ?_
  cases policies with
  | nil => simp
  | cons policy policies =>
      rw [or_iff_right (List.cons_ne_nil _ _)]
      exact ⟨fun all => all policy List.mem_cons_self, fun sameName _ _ => sameName⟩

theorem coversRoutes_convertToPolicies_iff {routes : List HTTPRoute}
    (sameNamespace : ∀ route ∈ routes, route.metadata.ns = input.ingressNamespace) :
    CoversRoutes (convertToPolicies input) routes ↔
      (convertToPolicies input).securityPolicies = [] ∧
          (convertToPolicies input).backendTrafficPolicies = [] ∨
        ∀ route ∈ routes, route.metadata.name = input.routeName := by
  have security_iff := forall_targets_iff
    (fun policy isPolicy => target_of_mem_securityPolicies isPolicy) sameNamespace
  have traffic_iff := forall_targets_iff
    (fun policy isPolicy => target_of_mem_backendTrafficPolicies isPolicy) sameNamespace
  rw [and_or_right, ← security_iff, ← traffic_iff]
  exact ⟨fun covers => ⟨covers.security, covers.traffic⟩, fun both => ⟨both.1, both.2⟩⟩

end Built

theorem forall_name_eq_head_iff {first : HTTPRoute} {rest : List HTTPRoute}
    (distinct : ((first :: rest).map (fun route => route.metadata.name)).Nodup) :
    (∀ route ∈ first :: rest, route.metadata.name = first.metadata.name) ↔ rest = [] := by
  constructor
  · intro sameName
    by_contra hasOthers
    obtain ⟨other, isOther⟩ := List.exists_mem_of_ne_nil rest hasOthers
    rw [List.map_cons, List.nodup_cons] at distinct
    apply distinct.1
    rw [← sameName other (List.mem_cons_of_mem _ isOther)]
    exact List.mem_map_of_mem isOther
  · rintro rfl route isRoute
    rw [List.mem_singleton.mp isRoute]

/-- The policies of a reconcile cover its HTTPRoutes exactly if the Ingress is for gRPC, the
policies are disabled, the annotations give none, or all hosts have the same rules, so that
they share one HTTPRoute. -/
theorem coversRoutes_generatedPolicies_iff (reconciler : Reconciler) (surroundings : Surroundings)
    (ingress : Ingress) (services : GoMap ObjectKey Service) :
    let input := reconciler.input ingress services
    let result := convertIngressWithServices surroundings input
    CoversRoutes (reconciler.generatedPolicies ingress result)
        (reconciler.desiredHTTPRoutes ingress result) ↔
      isGRPCIngress surroundings.text ingress = true ∨
        reconciler.disableEnvoyGatewayFeatures = true ∨
        ¬ (YieldsSecurityPolicy ingress.metadata.annotations ∨
          YieldsTrafficPolicy ingress.metadata.annotations) ∨
        ∀ host other, Tracked input.transformHost ingress.spec.rules host →
          Tracked input.transformHost ingress.spec.rules other →
          httpGroupKey surroundings input host = httpGroupKey surroundings input other := by
  intro input result
  have fewRoutes : result.httpRoutes.length ≤ 1 ↔
      isGRPCIngress surroundings.text ingress = true ∨
        ∀ host other, Tracked input.transformHost ingress.spec.rules host →
          Tracked input.transformHost ingress.spec.rules other →
          httpGroupKey surroundings input host = httpGroupKey surroundings input other :=
    length_httpRoutes ▸ httpRouteCount_le_one_iff
  have isMetadata : result.httpRoutes.map HTTPRoute.metadata =
      groupMetadata ingress result.httpRoutes.length := metadata_httpRoutes surroundings input
  have distinct : (result.httpRoutes.map (fun route => route.metadata.name)).Nodup := by
    have names := nodup_names_groupMetadata ingress result.httpRoutes.length
    rw [← isMetadata, List.map_map] at names
    exact names
  have sameNamespace : ∀ route ∈ result.httpRoutes, route.metadata.ns = ingress.metadata.ns :=
    fun route isRoute => ns_of_mem_groupMetadata (isMetadata ▸ List.mem_map_of_mem isRoute)
  rw [or_left_comm, or_left_comm (b := ¬ _), ← fewRoutes]
  cases isRoutes : result.httpRoutes with
  | nil =>
      refine iff_of_true ?_ (Or.inr (Or.inr (Nat.zero_le 1)))
      rw [Reconciler.generatedPolicies, isRoutes]
      exact coversRoutes_empty _
  | cons first rest =>
      rw [isRoutes] at distinct sameNamespace
      cases disabled : reconciler.disableEnvoyGatewayFeatures with
      | true =>
          refine iff_of_true ?_ (Or.inl rfl)
          rw [Reconciler.generatedPolicies, isRoutes]
          simp only [disabled, if_true]
          exact coversRoutes_empty _
      | false =>
          have sameNames : (∀ route ∈ reconciler.desiredHTTPRoutes ingress result,
              route.metadata.name = first.metadata.name) ↔
              ∀ route ∈ first :: rest, route.metadata.name = first.metadata.name := by
            simp only [Reconciler.desiredHTTPRoutes, isRoutes, List.forall_mem_map]
            rfl
          have oneRoute : (first :: rest).length ≤ 1 ↔ rest = [] := by
            rw [List.length_cons, Nat.le_one_iff_eq_zero_or_eq_one]
            simp
          rw [Reconciler.generatedPolicies, isRoutes]
          simp only [disabled, Bool.false_eq_true, if_false, false_or]
          rw [coversRoutes_convertToPolicies_iff, sameNames, forall_name_eq_head_iff distinct,
            securityPolicies_eq_nil_iff, backendTrafficPolicies_eq_nil_iff, not_or, oneRoute]
          simp only [Reconciler.desiredHTTPRoutes, isRoutes, List.forall_mem_map]
          exact sameNamespace

/-! ## Two hosts -/

def orderedSurroundings : Surroundings :=
  { plainSurroundings with order := GoMap.RangeOrder.increasing String }

def twoHostIngress : Ingress where
  metadata :=
    { name := "shop", ns := "default"
      annotations := Finmap.singleton Annotation.whitelistSourceRange.key "10.0.0.0/8" }
  spec :=
    { rules := [
        { host := "shop.example.com", http := some [servicePath "/" "shop" 80] },
        { host := "admin.example.com"
          http := some [servicePath "/" "admin" 80, servicePath "/metrics" "metrics" 80] }] }

/-- The policy of the Ingress is for one of its two routes. -/
theorem second_route_not_covered :
    let reconciler : Reconciler := { gatewayName := "kubelb" }
    let result := convertIngressWithServices orderedSurroundings
      (reconciler.input twoHostIngress ∅)
    let policies := reconciler.generatedPolicies twoHostIngress result
    (reconciler.desiredHTTPRoutes twoHostIngress result).map (fun route =>
        (route.metadata.name, route.spec.hostnames)) =
        [("shop-1", ["shop.example.com"]), ("shop-2", ["admin.example.com"])] ∧
      policies.securityPolicies.map (fun policy => policy.spec.targetRef) =
        [some { group := "gateway.networking.k8s.io", kind := "HTTPRoute", name := "shop-1" }] := by
  decide +kernel

end KubeLB.Conversion
