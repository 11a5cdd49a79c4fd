import KubeLB.Conversion.Controller
import KubeLB.Conversion.PolicyTargets
import KubeLB.Conversion.Warnings

/-!
Contract: which restrictions of an Ingress reach a policy or a warning.

Owns: the annotations that control access or set limits, the fields of the policies
that carry them, and the values for which one of them is lost without a warning.

Does not own: what a policy with such a field does to a request.
-/

set_option autoImplicit false

namespace KubeLB.Conversion

open KubeLB.Library KubeLB.Core KubeLB.Networking KubeLB.GatewayApi KubeLB.EnvoyGateway
  KubeLB.Controllers

/-! ## Restrictions -/

def limitAnnotations : List Annotation :=
  [.whitelistSourceRange, .denylistSourceRange, .authType, .authSecret, .limitRPS, .limitRPM,
    .limitConnections, .proxyConnectTimeout, .proxyReadTimeout, .proxySendTimeout, .enableCORS]

def Restricting (annotations : StringMap) (kind : Annotation) : Prop :=
  kind ∈ limitAnnotations ∧
    if kind = .enableCORS then annotationValue annotations kind = "true"
    else annotationValue annotations kind ≠ ""

instance (annotations : StringMap) (kind : Annotation) :
    Decidable (Restricting annotations kind) :=
  inferInstanceAs (Decidable (_ ∧ _))

def HasRangeRule (policies : PolicyConversionResult) (action : AuthorizationAction)
    (ranges : List String) : Prop :=
  ∃ policy ∈ policies.securityPolicies, ∃ authorization, policy.spec.authorization =
    some authorization ∧ ∃ rule ∈ authorization.rules,
      rule.action = action ∧ rule.clientCIDRs = ranges

def HasRateLimit (policies : PolicyConversionResult) (unit : RateLimitUnit) (requests : Int) :
    Prop :=
  ∃ policy ∈ policies.backendTrafficPolicies, ∃ rateLimit, policy.spec.rateLimit =
    some rateLimit ∧ ∃ rule ∈ rateLimit.localRules,
      rule.unit = unit ∧ (rule.requests.toNat : Int) = requests

/-- A field of a policy carries the value of the annotation. -/
def Reflected (policies : PolicyConversionResult) (kind : Annotation) (value : String) :
    Prop :=
  match kind with
  | .whitelistSourceRange => HasRangeRule policies .allow (parseStringList value)
  | .denylistSourceRange => HasRangeRule policies .deny (parseStringList value)
  | .authType => value = "basic" ∧
      ∃ policy ∈ policies.securityPolicies, policy.spec.basicAuth.isSome
  | .authSecret => ∃ policy ∈ policies.securityPolicies,
      policy.spec.basicAuth.map BasicAuth.name = some value
  | .limitRPS => HasRateLimit policies .second (parseInt value)
  | .limitRPM => HasRateLimit policies .minute (parseInt value)
  | .limitConnections => ∃ policy ∈ policies.backendTrafficPolicies,
      (policy.spec.circuitBreaker.bind CircuitBreaker.maxConnections).map Int64.toInt =
        some (parseInt value)
  | .proxyConnectTimeout => ∃ policy ∈ policies.backendTrafficPolicies,
      policy.spec.timeout.bind Timeout.connectTimeout = some (parseDuration value)
  | .proxyReadTimeout | .proxySendTimeout => ∃ policy ∈ policies.backendTrafficPolicies,
      policy.spec.timeout.bind Timeout.requestTimeout = some (parseDuration value)
  | .enableCORS => ∃ policy ∈ policies.securityPolicies, policy.spec.cors.isSome
  | _ => False

/-- The values that a policy can carry next to the other annotations. -/
def Expressible (annotations : StringMap) (kind : Annotation) : Prop :=
  let value := annotationValue annotations
  match kind with
  | .whitelistSourceRange | .denylistSourceRange => parseStringList (value kind) ≠ []
  | .authType => value .authType = "basic" ∧ value .authSecret ≠ ""
  | .authSecret => value .authType = "basic"
  | .limitRPS => 0 < parseInt (value .limitRPS) ∧ parseInt (value .limitRPS) < 2 ^ 32
  | .limitRPM => parseInt (value .limitRPS) ≤ 0 ∧
      0 < parseInt (value .limitRPM) ∧ parseInt (value .limitRPM) < 2 ^ 32
  | .limitConnections => 0 < parseInt (value .limitConnections)
  | .proxyConnectTimeout | .proxyReadTimeout => parseDuration (value kind) ≠ ""
  | .proxySendTimeout => parseDuration (value .proxySendTimeout) ≠ "" ∧
      (value .proxyReadTimeout = "" ∨
        parseDuration (value .proxyReadTimeout) = parseDuration (value .proxySendTimeout))
  | .enableCORS => True
  | _ => False

/-! ## Fields of policies -/

section Fields

variable {input : PolicyConversionInput}

theorem exists_securityPolicy_iff (P : SecurityPolicySpec → Prop)
    (needsPart : ∀ spec, P spec →
      (spec.cors.isNone && spec.authorization.isNone && spec.basicAuth.isNone) = false) :
    (∃ policy ∈ (convertToPolicies input).securityPolicies, P policy.spec) ↔
      P { targetRef := some input.policyTargetRef, cors := builtCORS input
          authorization := builtAuthorization input, basicAuth := builtBasicAuth input } := by
  have asOption : (convertToPolicies input).securityPolicies =
      (securityBuilder input).build.toList :=
    congrArg Option.toList (buildSecurityPolicy_eq input)
  rw [asOption, SecurityPolicyBuilder.build]
  cases isEmpty : (securityBuilder input).isEmpty with
  | true =>
      rw [if_pos rfl, Option.toList_none]
      constructor
      · rintro ⟨policy, isPolicy, -⟩
        cases isPolicy
      · intro holds
        simp only [SecurityPolicyBuilder.isEmpty, securityBuilder, needsPart _ holds,
          Bool.false_eq_true] at isEmpty
  | false => simp [securityBuilder]

theorem exists_backendTrafficPolicy_iff (P : BackendTrafficPolicySpec → Prop)
    (needsPart : ∀ spec, P spec →
      (spec.timeout.isNone && spec.rateLimit.isNone && spec.circuitBreaker.isNone) = false) :
    (∃ policy ∈ (convertToPolicies input).backendTrafficPolicies, P policy.spec) ↔
      P { targetRef := some input.policyTargetRef, timeout := builtTimeout input
          circuitBreaker := builtCircuitBreaker input, rateLimit := builtRateLimit input } := by
  have asOption : (convertToPolicies input).backendTrafficPolicies =
      (trafficBuilder input).build.toList :=
    congrArg Option.toList (buildBackendTrafficPolicy_eq input)
  rw [asOption, BackendTrafficPolicyBuilder.build]
  cases isEmpty : (trafficBuilder input).isEmpty with
  | true =>
      rw [if_pos rfl, Option.toList_none]
      constructor
      · rintro ⟨policy, isPolicy, -⟩
        cases isPolicy
      · intro holds
        have notEmpty := needsPart _ holds
        simp only at notEmpty
        simp only [BackendTrafficPolicyBuilder.isEmpty, trafficBuilder, notEmpty,
          Bool.false_eq_true] at isEmpty
  | false => simp [trafficBuilder]

theorem hasRangeRule_iff (action : AuthorizationAction) (ranges : List String) :
    HasRangeRule (convertToPolicies input) action ranges ↔
      ∃ rule ∈ rangeRules
          (parseStringList (annotationValue input.annotations .whitelistSourceRange))
          (parseStringList (annotationValue input.annotations .denylistSourceRange)),
        rule.action = action ∧ rule.clientCIDRs = ranges := by
  refine (exists_securityPolicy_iff (fun spec => ∃ authorization, spec.authorization =
    some authorization ∧ ∃ rule ∈ authorization.rules,
      rule.action = action ∧ rule.clientCIDRs = ranges) ?_).trans ?_
  · rintro spec ⟨authorization, isAuthorization, -⟩
    simp [isAuthorization]
  · simp only [builtAuthorization, rangeAuthorization]
    split
    · next noRanges => simp [rangeRules, noRanges]
    · simp

theorem hasRateLimit_iff (unit : RateLimitUnit) (requests : Int) :
    HasRateLimit (convertToPolicies input) unit requests ↔
      ∃ rateLimit, builtRateLimit input = some rateLimit ∧ ∃ rule ∈ rateLimit.localRules,
        rule.unit = unit ∧ (rule.requests.toNat : Int) = requests := by
  refine exists_backendTrafficPolicy_iff (fun spec => ∃ rateLimit, spec.rateLimit =
    some rateLimit ∧ ∃ rule ∈ rateLimit.localRules,
      rule.unit = unit ∧ (rule.requests.toNat : Int) = requests) ?_
  rintro spec ⟨rateLimit, isRateLimit, -⟩
  simp [isRateLimit]

/-- A limit survives the 32 bits of the field exactly if it fits in them. -/
theorem toNat_ofNat_eq_iff {requests : Int} (positive : 0 < requests) :
    (((UInt32.ofNat requests.toNat).toNat : Int) = requests) ↔ requests < 2 ^ 32 := by
  rw [UInt32.toNat_ofNat']
  omega

theorem hasRateLimit_second_iff :
    HasRateLimit (convertToPolicies input) .second
        (parseInt (annotationValue input.annotations .limitRPS)) ↔
      Expressible input.annotations .limitRPS := by
  simp only [hasRateLimit_iff, Expressible, builtRateLimit]
  by_cases hasRPS : 0 < parseInt (annotationValue input.annotations .limitRPS)
  · simp only [hasRPS, if_true, Option.some.injEq, exists_eq_left', List.mem_singleton,
      exists_eq_left, true_and, toNat_ofNat_eq_iff hasRPS]
  · by_cases hasRPM : 0 < parseInt (annotationValue input.annotations .limitRPM) <;>
      simp [hasRPS, hasRPM]

theorem hasRateLimit_minute_iff :
    HasRateLimit (convertToPolicies input) .minute
        (parseInt (annotationValue input.annotations .limitRPM)) ↔
      Expressible input.annotations .limitRPM := by
  simp only [hasRateLimit_iff, Expressible, builtRateLimit]
  by_cases hasRPS : 0 < parseInt (annotationValue input.annotations .limitRPS)
  · simp [hasRPS]
  · by_cases hasRPM : 0 < parseInt (annotationValue input.annotations .limitRPM)
    · simp only [hasRPS, hasRPM, if_false, if_true, Option.some.injEq, exists_eq_left',
        List.mem_singleton, exists_eq_left, true_and, toNat_ofNat_eq_iff hasRPM,
        not_lt.mp hasRPS]
    · simp [hasRPS, hasRPM]

theorem maxConnections_builtCircuitBreaker :
    ((builtCircuitBreaker input).bind CircuitBreaker.maxConnections).map Int64.toInt =
        some (parseInt (annotationValue input.annotations .limitConnections)) ↔
      Expressible input.annotations .limitConnections := by
  simp only [builtCircuitBreaker, Expressible]
  have fits := parseInt_lt (annotationValue input.annotations .limitConnections)
  by_cases hasLimit : 0 < parseInt (annotationValue input.annotations .limitConnections)
  · simp only [hasLimit, if_true, Option.bind_some, Option.map_some, iff_true]
    rw [Int64.toInt_ofInt_of_le (by omega) fits]
  · simp [hasLimit]

theorem builtDuration_eq_some_iff {value duration : String} :
    builtDuration value = some duration ↔ parseDuration value = duration ∧ duration ≠ "" := by
  unfold builtDuration
  split
  · next isEmpty => simp [isEmpty, eq_comm]
  · next notEmpty =>
      rw [Option.some.injEq]
      constructor
      · intro same
        exact ⟨same, same ▸ notEmpty⟩
      · exact And.left

theorem timeout_fields (connect request : Option String) :
    let timeout : Option Timeout :=
      if connect = none ∧ request = none then none
      else some { connectTimeout := connect, requestTimeout := request }
    timeout.bind Timeout.connectTimeout = connect ∧
      timeout.bind Timeout.requestTimeout = request := by
  cases connect <;> cases request <;> simp

theorem connectTimeout_builtTimeout :
    (builtTimeout input).bind Timeout.connectTimeout =
      builtDuration (annotationValue input.annotations .proxyConnectTimeout) := by
  simp only [builtTimeout]
  exact (timeout_fields _ _).1

theorem requestTimeout_builtTimeout :
    (builtTimeout input).bind Timeout.requestTimeout =
      builtDuration (if annotationValue input.annotations .proxyReadTimeout ≠ "" then
        annotationValue input.annotations .proxyReadTimeout
      else annotationValue input.annotations .proxySendTimeout) := by
  simp only [builtTimeout]
  exact (timeout_fields _ _).2

theorem timeout_iff {field : Timeout → Option String} {duration : String} :
    (∃ policy ∈ (convertToPolicies input).backendTrafficPolicies,
        policy.spec.timeout.bind field = some duration) ↔
      (builtTimeout input).bind field = some duration := by
  rw [exists_backendTrafficPolicy_iff (fun spec => spec.timeout.bind field = some duration)]
  intro spec isSet
  obtain ⟨timeout, isTimeout, -⟩ := Option.bind_eq_some_iff.mp isSet
  simp [isTimeout]

theorem maxConnections_iff {connections : Int} :
    (∃ policy ∈ (convertToPolicies input).backendTrafficPolicies,
        (policy.spec.circuitBreaker.bind CircuitBreaker.maxConnections).map Int64.toInt =
          some connections) ↔
      ((builtCircuitBreaker input).bind CircuitBreaker.maxConnections).map Int64.toInt =
        some connections := by
  refine exists_backendTrafficPolicy_iff (fun spec =>
    (spec.circuitBreaker.bind CircuitBreaker.maxConnections).map Int64.toInt = some connections)
    (fun spec isSet => ?_)
  obtain ⟨limit, isLimit, -⟩ := Option.map_eq_some_iff.mp isSet
  obtain ⟨breaker, isBreaker, -⟩ := Option.bind_eq_some_iff.mp isLimit
  simp [isBreaker]

theorem basicAuth_iff (P : Option BasicAuth → Prop) (needsSome : ¬ P none) :
    (∃ policy ∈ (convertToPolicies input).securityPolicies, P policy.spec.basicAuth) ↔
      P (builtBasicAuth input) := by
  refine exists_securityPolicy_iff (fun spec => P spec.basicAuth) (fun spec holds => ?_)
  cases isBasic : spec.basicAuth with
  | none => exact absurd (isBasic ▸ holds) needsSome
  | some basicAuth => simp

theorem cors_iff :
    (∃ policy ∈ (convertToPolicies input).securityPolicies, policy.spec.cors.isSome) ↔
      annotationValue input.annotations .enableCORS = "true" := by
  refine (exists_securityPolicy_iff (fun spec => spec.cors.isSome) (fun spec isSome => ?_)).trans ?_
  · obtain ⟨cors, isCORS⟩ := Option.isSome_iff_exists.mp isSome
    simp [isCORS]
  · simp only [builtCORS]
    split <;> simp_all

/-- A restriction reaches the policies exactly for the values that they can carry. -/
theorem reflected_iff_expressible {kind : Annotation}
    (restricting : Restricting input.annotations kind) :
    Reflected (convertToPolicies input) kind (annotationValue input.annotations kind) ↔
      Expressible input.annotations kind := by
  obtain ⟨isLimit, isSet⟩ := restricting
  simp only [limitAnnotations, List.mem_cons, List.not_mem_nil, or_false] at isLimit
  rcases isLimit with rfl | rfl | rfl | rfl | rfl | rfl | rfl | rfl | rfl | rfl | rfl
  · rw [Reflected, hasRangeRule_iff]
    simp only [Expressible, rangeRules]
    by_cases noAllowed : parseStringList
        (annotationValue input.annotations .whitelistSourceRange) = [] <;>
      by_cases noDenied : parseStringList
        (annotationValue input.annotations .denylistSourceRange) = [] <;>
      simp [noAllowed, noDenied]
  · rw [Reflected, hasRangeRule_iff]
    simp only [Expressible, rangeRules]
    by_cases noAllowed : parseStringList
        (annotationValue input.annotations .whitelistSourceRange) = [] <;>
      by_cases noDenied : parseStringList
        (annotationValue input.annotations .denylistSourceRange) = [] <;>
      simp [noAllowed, noDenied]
  · rw [Reflected, basicAuth_iff (fun basicAuth => basicAuth.isSome) (by decide)]
    simp only [Expressible, builtBasicAuth]
    split <;> simp_all
  · rw [Reflected, basicAuth_iff (fun basicAuth => basicAuth.map BasicAuth.name =
      some (annotationValue input.annotations .authSecret)) (by simp)]
    have hasSecret : annotationValue input.annotations .authSecret ≠ "" := isSet
    simp only [Expressible, builtBasicAuth, hasSecret, ne_eq, not_false_eq_true, and_true]
    split <;> simp_all
  · exact hasRateLimit_second_iff
  · exact hasRateLimit_minute_iff
  · exact maxConnections_iff.trans maxConnections_builtCircuitBreaker
  · rw [Reflected, timeout_iff, connectTimeout_builtTimeout, builtDuration_eq_some_iff]
    simp [Expressible]
  · have hasRead : annotationValue input.annotations .proxyReadTimeout ≠ "" := isSet
    rw [Reflected, timeout_iff, requestTimeout_builtTimeout, if_pos hasRead,
      builtDuration_eq_some_iff]
    simp [Expressible]
  · rw [Reflected, timeout_iff, requestTimeout_builtTimeout, builtDuration_eq_some_iff]
    simp only [Expressible]
    by_cases noRead : annotationValue input.annotations .proxyReadTimeout = "" <;>
      simp [noRead, and_comm]
  · exact cors_iff.trans (by simpa [Expressible] using isSet)

end Fields

/-! ## Routes and warnings -/

/-- Some host has rules, or there is a default backend with a Service. -/
def YieldsRoutes (input : Input) : Prop :=
  (∃ host, Tracked (fun host => transformHostname host input.domainReplace input.domainSuffix)
      input.ingress.spec.rules host) ∨
    ∃ backend, input.ingress.spec.defaultBackend = some backend ∧ backend.service.isSome

theorem defaultHTTPRule_eq_none_iff {surroundings : Surroundings} {input : Input}
    {filters : List HTTPRouteFilter} :
    defaultHTTPRule surroundings input filters = none ↔
      ¬ ∃ backend, input.ingress.spec.defaultBackend = some backend ∧ backend.service.isSome := by
  unfold defaultHTTPRule
  cases input.ingress.spec.defaultBackend with
  | none => simp
  | some backend =>
      simp only [Option.bind_some, Option.map_eq_none_iff, convertDefaultBackendWithServices,
        convertDefaultReference, Option.some.injEq, exists_eq_left']
      cases backend.service <;> cases backend.resource <;> simp

theorem httpRoutes_eq_nil_iff {surroundings : Surroundings} {input : Input}
    (notGRPC : isGRPCIngress surroundings.text input.ingress = false) :
    (convertIngressWithServices surroundings input).httpRoutes = [] ↔ ¬ YieldsRoutes input := by
  rw [httpRoutes_of_http notGRPC]
  simp only [convertToHTTPRoutes, List.map_eq_nil_iff, routesOfGroups_eq_nil_iff,
    groups_eq_nil_iff, defaultHTTPRule_eq_none_iff, YieldsRoutes, not_or, not_exists]

section Mentions

variable {text : GoText} {annotations : StringMap} {kind : Annotation}

theorem isSome_of_restricting (restricting : Restricting annotations kind) :
    (annotations.lookup kind.key).isSome := by
  obtain ⟨-, isSet⟩ := restricting
  cases isValue : annotations.lookup kind.key with
  | some value => rfl
  | none =>
      have isEmpty : annotationValue annotations kind = "" := by
        rw [annotationValue, StringMap.get, isValue, Option.getD_none]
      rw [isEmpty] at isSet
      split at isSet
      · exact absurd isSet (by decide)
      · exact absurd rfl isSet

/-- With policies to come, only an authentication that is not basic is warned about. -/
theorem names_handle_iff (restricting : Restricting annotations kind) :
    (∃ warning ∈ (kind.handle text true (annotationValue annotations kind)
        annotations).warnings, Names warning kind) ↔
      kind = .authType ∧ annotationValue annotations .authType ≠ "basic" := by
  obtain ⟨isLimit, isSet⟩ := restricting
  simp only [limitAnnotations, List.mem_cons, List.not_mem_nil, or_false] at isLimit
  rcases isLimit with rfl | rfl | rfl | rfl | rfl | rfl | rfl | rfl | rfl | rfl | rfl
  case inr.inr.inl =>
    have hasType : annotationValue annotations .authType ≠ "" := isSet
    by_cases isBasic : annotationValue annotations .authType = "basic"
    · simp [handleAuthType, Annotation.handle, isBasic]
    · simp only [isBasic, not_false_eq_true, ne_eq, and_self, iff_true]
      have warned : (handleAuthType text true (annotationValue annotations .authType)
          annotations).warnings ≠ [] := by
        simp only [handleAuthType, hasType, isBasic, if_false]
        split <;> simp
      obtain ⟨warning, isWarning⟩ := List.exists_mem_of_ne_nil _ warned
      exact ⟨warning, isWarning, names_of_mem_handleAuthType isWarning⟩
  all_goals
    unfold Annotation.handle
    simp

end Mentions

/-! ## Coverage -/

section Coverage

variable {reconciler : Reconciler} {surroundings : Surroundings} {ingress : Ingress}
  {services : GoMap ObjectKey Service} {kind : Annotation}

theorem not_reflected_empty : ¬ Reflected {} kind (annotationValue
    ingress.metadata.annotations kind) := by
  unfold Reflected HasRangeRule HasRateLimit
  split <;> simp

theorem generatedPolicies_of_nil {result : ConversionResult} (noRoutes : result.httpRoutes = []) :
    reconciler.generatedPolicies ingress result = {} := by
  rw [Reconciler.generatedPolicies, noRoutes]

variable (ingress) in
theorem exists_generatedPolicies {result : ConversionResult}
    (enabled : reconciler.disableEnvoyGatewayFeatures = false)
    (hasRoutes : result.httpRoutes ≠ []) :
    ∃ input : PolicyConversionInput, input.annotations = ingress.metadata.annotations ∧
      reconciler.generatedPolicies ingress result = convertToPolicies input := by
  unfold Reconciler.generatedPolicies
  cases isRoutes : result.httpRoutes with
  | nil => exact absurd isRoutes hasRoutes
  | cons first rest =>
      simp only [enabled, Bool.false_eq_true, if_false]
      exact ⟨_, rfl, rfl⟩

/-- The policies carry a restriction of an HTTP Ingress with routes as far as they can,
and those of other Ingresses not at all. -/
theorem reflected_generatedPolicies_iff
    (enabled : reconciler.disableEnvoyGatewayFeatures = false)
    (restricting : Restricting ingress.metadata.annotations kind) :
    Reflected (reconciler.generatedPolicies ingress
        (convertIngressWithServices surroundings (reconciler.input ingress services)))
        kind (annotationValue ingress.metadata.annotations kind) ↔
      isGRPCIngress surroundings.text ingress = false ∧
        YieldsRoutes (reconciler.input ingress services) ∧
        Expressible ingress.metadata.annotations kind := by
  cases isGRPC : isGRPCIngress surroundings.text ingress with
  | true =>
      rw [generatedPolicies_of_nil (httpRoutes_of_grpc isGRPC)]
      simp [not_reflected_empty]
  | false =>
      have noRoutes_iff : (convertIngressWithServices surroundings
          (reconciler.input ingress services)).httpRoutes = [] ↔
          ¬ YieldsRoutes (reconciler.input ingress services) :=
        httpRoutes_eq_nil_iff isGRPC
      by_cases noRoutes : (convertIngressWithServices surroundings
          (reconciler.input ingress services)).httpRoutes = []
      · rw [generatedPolicies_of_nil noRoutes]
        simp [not_reflected_empty, noRoutes_iff.mp noRoutes]
      · obtain ⟨input, sameAnnotations, isPolicies⟩ :=
          exists_generatedPolicies ingress enabled noRoutes
        rw [isPolicies, ← sameAnnotations,
          reflected_iff_expressible (sameAnnotations ▸ restricting)]
        simp [not_not.mp (mt noRoutes_iff.mpr noRoutes)]

/-- No warning of the policies is about a restriction. -/
theorem not_names_generatedPolicies {result : ConversionResult} {warning : String}
    (enabled : reconciler.disableEnvoyGatewayFeatures = false)
    (restricting : Restricting ingress.metadata.annotations kind)
    (isWarning : warning ∈ (reconciler.generatedPolicies ingress result).warnings) :
    ¬ Names warning kind := by
  intro names
  by_cases noRoutes : result.httpRoutes = []
  · rw [generatedPolicies_of_nil noRoutes] at isWarning
    cases isWarning
  · obtain ⟨input, -, isPolicies⟩ := exists_generatedPolicies ingress enabled noRoutes
    rw [isPolicies] at isWarning
    have isNamed := names_convertToPolicies isWarning names
    have disjoint : ∀ kind ∈ ([.affinity, .authURL, .proxyBodySize] : List Annotation),
        kind ∉ limitAnnotations := by
      decide
    exact disjoint kind isNamed restricting.1

/-- With policies enabled, a restriction reaches a policy or a warning exactly if the
Ingress is not for gRPC and the policies can carry the value or the authentication is
not a basic one. -/
theorem reflected_or_mentioned_iff (quotes : surroundings.text.QuotesKeys)
    (enabled : reconciler.disableEnvoyGatewayFeatures = false)
    (restricting : Restricting ingress.metadata.annotations kind) :
    let input := reconciler.input ingress services
    let result := convertIngressWithServices surroundings input
    let policies := reconciler.generatedPolicies ingress result
    (Reflected policies kind (annotationValue ingress.metadata.annotations kind) ∨
        ∃ warning ∈ result.warnings ++ policies.warnings, Names warning kind) ↔
      isGRPCIngress surroundings.text ingress = false ∧
        (YieldsRoutes input ∧ Expressible ingress.metadata.annotations kind ∨
          kind = .authType ∧
            annotationValue ingress.metadata.annotations .authType ≠ "basic") := by
  intro input result policies
  have mentioned_iff : (∃ warning ∈ result.warnings ++ policies.warnings,
      Names warning kind) ↔ ∃ warning ∈ result.warnings, Names warning kind := by
    constructor
    · rintro ⟨warning, isWarning, names⟩
      rcases List.mem_append.mp isWarning with isWarning | isWarning
      · exact ⟨warning, isWarning, names⟩
      · exact absurd names (not_names_generatedPolicies enabled restricting isWarning)
    · rintro ⟨warning, isWarning, names⟩
      exact ⟨warning, List.mem_append_left _ isWarning, names⟩
  rw [reflected_generatedPolicies_iff enabled restricting, mentioned_iff]
  cases isGRPC : isGRPCIngress surroundings.text ingress with
  | true =>
      simp only [Bool.true_eq_false, false_and, false_or, iff_false]
      rintro ⟨warning, isWarning, names⟩
      have isProtocol := eq_backendProtocol_of_grpc isGRPC isWarning names
      rw [isProtocol] at restricting
      exact absurd restricting.1 (by decide)
  | false =>
      have skipped : input.skipPolicyWarnings = true := by
        simp [input, Reconciler.input, enabled]
      rw [names_convertIngress_of_http isGRPC, skipped, names_convertAnnotations_iff quotes,
        show input.ingress = ingress from rfl, names_handle_iff restricting]
      simp [isSome_of_restricting restricting, input]

end Coverage

/-! ## Lost restrictions -/

def quotingText : GoText :=
  { plainText with quote := fun text => "\"" ++ text ++ "\"" }

def quotingSurroundings : Surroundings := { orderedSurroundings with text := quotingText }

def annotatedIngress (annotations : StringMap) : Ingress where
  metadata := { name := "shop", ns := "default", annotations := annotations }
  spec :=
    { rules := [
        { host := "shop.example.com", http := some [servicePath "/" "shop" 80] }] }

def grpcIngress : Ingress :=
  annotatedIngress (((∅ : StringMap).insert Annotation.backendProtocol.key "GRPC").insert
    Annotation.whitelistSourceRange.key "10.0.0.0/8")

def limitedIngress : Ingress :=
  annotatedIngress ((∅ : StringMap).insert Annotation.limitRPS.key "5r/s")

/-- The clients of the gRPC Ingress are not restricted and its warning does not say so;
the limit that is no number is neither set nor warned about. -/
theorem restrictions_lost :
    let reconciler : Reconciler := { gatewayName := "kubelb" }
    let converted (ingress : Ingress) :=
      convertIngressWithServices quotingSurroundings (reconciler.input ingress ∅)
    Restricting grpcIngress.metadata.annotations .whitelistSourceRange ∧
      reconciler.generatedPolicies grpcIngress (converted grpcIngress) = {} ∧
      (∀ warning ∈ (converted grpcIngress).warnings, ¬ Names warning .whitelistSourceRange) ∧
      Restricting limitedIngress.metadata.annotations .limitRPS ∧
      reconciler.generatedPolicies limitedIngress (converted limitedIngress) = {} ∧
      (converted limitedIngress).warnings = [] := by
  decide +kernel

/-- A number is carried by the policy. -/
theorem numeric_limit_kept :
    let reconciler : Reconciler := { gatewayName := "kubelb" }
    let ingress := annotatedIngress ((∅ : StringMap).insert Annotation.limitRPS.key "5")
    let result := convertIngressWithServices quotingSurroundings (reconciler.input ingress ∅)
    let policies := reconciler.generatedPolicies ingress result
    Reflected policies .limitRPS "5" ∨
      ∃ warning ∈ result.warnings ++ policies.warnings, Names warning .limitRPS := by
  refine (reflected_or_mentioned_iff (fun _ => rfl) rfl (by decide +kernel)).mpr ⟨?_, ?_⟩
  · decide +kernel
  · refine Or.inl ⟨Or.inl ⟨"shop.example.com", by decide +kernel⟩, ?_, ?_⟩
    · decide +kernel
    · decide +kernel

end KubeLB.Conversion
