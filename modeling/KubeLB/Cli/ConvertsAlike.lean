import KubeLB.Cli.IngressConversion
import KubeLB.Conversion.Coverage

/-!
Contract: the command line tool and the controller compared on one Ingress.

Owns: what both produce, the annotations as the tool reads them, and the Ingresses on
which both do the same.

Does not own: names, labels and owners of what is produced.
-/

set_option autoImplicit false

namespace KubeLB.Cli

open KubeLB.Library KubeLB.Core KubeLB.Networking KubeLB.GatewayApi KubeLB.EnvoyGateway
  KubeLB.Controllers KubeLB.Conversion

/-! ## What is produced -/

structure GeneratedSpecs where
  httpRoutes : List HTTPRouteSpec
  grpcRoutes : List GRPCRouteSpec
  securityPolicies : List SecurityPolicySpec
  backendTrafficPolicies : List BackendTrafficPolicySpec
  deriving DecidableEq

def IngressConversion.specs (conversion : IngressConversion) : GeneratedSpecs where
  httpRoutes := conversion.convResult.httpRoutes.map HTTPRoute.spec
  grpcRoutes := conversion.convResult.grpcRoutes.map GRPCRoute.spec
  securityPolicies :=
    (conversion.policyResult.bind PolicyConversion.securityPolicy).toList.map SecurityPolicy.spec
  backendTrafficPolicies :=
    (conversion.policyResult.bind PolicyConversion.backendTrafficPolicy).toList.map
      BackendTrafficPolicy.spec

def controllerSpecs (reconciler : Reconciler) (surroundings : Surroundings) (ingress : Ingress)
    (services : GoMap ObjectKey Service) : GeneratedSpecs :=
  let result := convertIngressWithServices surroundings (reconciler.input ingress services)
  let policies := reconciler.generatedPolicies ingress result
  { httpRoutes := (reconciler.desiredHTTPRoutes ingress result).map HTTPRoute.spec
    grpcRoutes := (reconciler.desiredGRPCRoutes ingress result).map GRPCRoute.spec
    securityPolicies := policies.securityPolicies.map SecurityPolicy.spec
    backendTrafficPolicies := policies.backendTrafficPolicies.map BackendTrafficPolicy.spec }

/-- Both skip an Ingress, or both produce the same from it. -/
structure ConvertsAlike (options : Options) (surroundings : Surroundings) (ingress : Ingress)
    (services : GoMap ObjectKey Service) : Prop where
  selects : convertIngress options surroundings ingress services = none ↔
    (options.reconciler.shouldConvert ingress).shouldConvert = false
  produces : ∀ conversion, convertIngress options surroundings ingress services = some conversion →
    conversion.specs = controllerSpecs options.reconciler surroundings ingress services

/-! ## Which Ingresses are skipped -/

/-- The reasons to skip an Ingress that both know. -/
def SkippedByBoth (options : Options) (ingress : Ingress) : Prop :=
  ingress.metadata.annotations.get annotationSkipConversion = "true" ∨
    annotationValue ingress.metadata.annotations .canary = "true" ∨
    options.ingressClass ≠ "" ∧
      ingress.spec.ingressClassName.getD
        (ingress.metadata.annotations.get annotationIngressClass) ≠ options.ingressClass

/-- The label that only the tool reads. -/
def LabelledToSkip (ingress : Ingress) : Prop :=
  ingress.metadata.labels.get annotationSkipConversion = "true"

/-- The status that only the controller reads. -/
def MarkedPartly (ingress : Ingress) : Prop :=
  ingress.metadata.annotations.get annotationConversionStatus =
    ConversionStatus.partlyConverted.text

section Selection

variable {options : Options} {ingress : Ingress}

theorem skips_iff :
    skips options ingress = true ↔ LabelledToSkip ingress ∨ SkippedByBoth options ingress := by
  have mismatched : (decide (options.ingressClass ≠ "") &&
      !matchesIngressClass ingress options.ingressClass) = true ↔
      options.ingressClass ≠ "" ∧
        ingress.spec.ingressClassName.getD
          (ingress.metadata.annotations.get annotationIngressClass) ≠ options.ingressClass := by
    rw [Bool.and_eq_true, decide_eq_true_iff, Bool.not_eq_true', ← Bool.not_eq_true]
    exact and_congr_right (fun isClass => not_congr (matchesIngressClass_iff isClass))
  simp only [skips, shouldSkip, Bool.or_eq_true, mismatched, decide_eq_true_iff, LabelledToSkip,
    SkippedByBoth, or_assoc]

theorem refuses_iff :
    (options.reconciler.shouldConvert ingress).shouldConvert = false ↔
      (ingress.metadata.annotations.get annotationConversionStatus =
          ConversionStatus.converted.text ∨ MarkedPartly ingress) ∨
        SkippedByBoth options ingress := by
  simp only [Reconciler.shouldConvert, Options.reconciler, SkippedByBoth, MarkedPartly]
  by_cases annotated : ingress.metadata.annotations.get annotationSkipConversion = "true"
  · simp [annotated]
  by_cases marked : ingress.metadata.annotations.get annotationConversionStatus =
      ConversionStatus.converted.text ∨
    ingress.metadata.annotations.get annotationConversionStatus =
      ConversionStatus.partlyConverted.text
  · simp [annotated, marked]
  by_cases isCanary : annotationValue ingress.metadata.annotations .canary = "true"
  · simp [annotated, marked, isCanary]
  rw [if_neg annotated, if_neg marked, if_neg isCanary]
  simp only [annotated, marked, isCanary, false_or]
  split_ifs with mismatched <;> simp [mismatched]

theorem selects_iff {surroundings : Surroundings} {services : GoMap ObjectKey Service}
    (notConverted : ingress.metadata.annotations.get annotationConversionStatus ≠
      ConversionStatus.converted.text) :
    (convertIngress options surroundings ingress services = none ↔
        (options.reconciler.shouldConvert ingress).shouldConvert = false) ↔
      SkippedByBoth options ingress ∨ (LabelledToSkip ingress ↔ MarkedPartly ingress) := by
  have skipped_iff : convertIngress options surroundings ingress services = none ↔
      skips options ingress = true := by
    simp [convertIngress]
  rw [skipped_iff, skips_iff, refuses_iff]
  tauto

end Selection

/-! ## Policies -/

section Policies

variable {ingress : Ingress} {routeName : String}

/-- The annotations as the tool reads them: every authentication is basic, and there is
no send timeout. -/
def readByTool (annotations : StringMap) : StringMap :=
  (annotations.insert Annotation.authType.key "basic").insert Annotation.proxySendTimeout.key ""

theorem annotationValue_readByTool (annotations : StringMap) (kind : Annotation) :
    annotationValue (readByTool annotations) kind =
      if kind = .proxySendTimeout then ""
      else if kind = .authType then "basic"
      else annotationValue annotations kind := by
  have otherKey {other : Annotation} (different : kind ≠ other) : kind.key ≠ other.key :=
    Annotation.key_injective.ne different
  unfold readByTool annotationValue StringMap.get
  split_ifs with isSend isType
  · rw [isSend, Finmap.lookup_insert]
    rfl
  · rw [Finmap.lookup_insert_of_ne _ (otherKey isSend), isType, Finmap.lookup_insert]
    rfl
  · rw [Finmap.lookup_insert_of_ne _ (otherKey isSend),
      Finmap.lookup_insert_of_ne _ (otherKey isType)]

def policyInput (ingress : Ingress) (routeName : String) (annotations : StringMap) :
    PolicyConversionInput where
  toPolicyBuilder := policyBase ingress routeName
  annotations := annotations

theorem securityPolicyFromAnnotations_eq :
    securityPolicyFromAnnotations ingress routeName =
      buildSecurityPolicy
        (policyInput ingress routeName (readByTool ingress.metadata.annotations)) := by
  have noSecret (builder : SecurityPolicyBuilder) (secret ns : String) :
      (if secret ≠ "" then builder.setBasicAuth secret ns else builder) =
        builder.setBasicAuth secret ns := by
    by_cases empty : secret = ""
    · simp [empty, SecurityPolicyBuilder.setBasicAuth]
    · rw [if_pos empty]
  simp only [securityPolicyFromAnnotations, buildSecurityPolicy, policyInput,
    annotationValue_readByTool, noSecret, reduceCtorEq, if_false, if_true]
  rfl

theorem backendTrafficPolicyFromAnnotations_eq :
    backendTrafficPolicyFromAnnotations ingress routeName =
      (buildBackendTrafficPolicy
        (policyInput ingress routeName (readByTool ingress.metadata.annotations))).1 := by
  simp only [backendTrafficPolicyFromAnnotations, buildBackendTrafficPolicy, policyInput,
    annotationValue_readByTool, reduceCtorEq, if_false, if_true, ne_eq, not_true_eq_false,
    false_and]

theorem securitySpecs_eq_iff {left right : SecurityPolicyBuilder}
    (sameBase : left.toPolicyBuilder = right.toPolicyBuilder) :
    left.build.toList.map SecurityPolicy.spec = right.build.toList.map SecurityPolicy.spec ↔
      left.cors = right.cors ∧ left.authorization = right.authorization ∧
        left.basicAuth = right.basicAuth := by
  obtain ⟨leftBase, leftCORS, leftAuthorization, leftAuth⟩ := left
  obtain ⟨rightBase, rightCORS, rightAuthorization, rightAuth⟩ := right
  cases sameBase
  cases leftCORS <;> cases leftAuthorization <;> cases leftAuth <;>
    cases rightCORS <;> cases rightAuthorization <;> cases rightAuth <;>
    simp [SecurityPolicyBuilder.build, SecurityPolicyBuilder.isEmpty]

theorem trafficSpecs_eq_iff {left right : BackendTrafficPolicyBuilder}
    (sameBase : left.toPolicyBuilder = right.toPolicyBuilder) :
    left.build.toList.map BackendTrafficPolicy.spec =
        right.build.toList.map BackendTrafficPolicy.spec ↔
      left.timeout = right.timeout ∧ left.rateLimit = right.rateLimit ∧
        left.circuitBreaker = right.circuitBreaker := by
  obtain ⟨leftBase, leftTimeout, leftLimit, leftBreaker⟩ := left
  obtain ⟨rightBase, rightTimeout, rightLimit, rightBreaker⟩ := right
  cases sameBase
  cases leftTimeout <;> cases leftLimit <;> cases leftBreaker <;>
    cases rightTimeout <;> cases rightLimit <;> cases rightBreaker <;>
    simp [BackendTrafficPolicyBuilder.build, BackendTrafficPolicyBuilder.isEmpty, and_comm]

/-- No secret without basic authentication, and no send timeout that counts. -/
def ReadAlike (annotations : StringMap) : Prop :=
  (annotationValue annotations .authSecret = "" ∨
      annotationValue annotations .authType = "basic") ∧
    (annotationValue annotations .proxyReadTimeout ≠ "" ∨
      parseDuration (annotationValue annotations .proxySendTimeout) = "")

instance (annotations : StringMap) : Decidable (ReadAlike annotations) :=
  inferInstanceAs (Decidable (_ ∧ _))

section Read

variable {annotations : StringMap}

theorem builtBasicAuth_readByTool_iff :
    builtBasicAuth (policyInput ingress routeName (readByTool annotations)) =
        builtBasicAuth (policyInput ingress routeName annotations) ↔
      annotationValue annotations .authSecret = "" ∨
        annotationValue annotations .authType = "basic" := by
  simp only [builtBasicAuth, policyInput, annotationValue_readByTool, reduceCtorEq, if_false,
    if_true, true_and]
  by_cases noSecret : annotationValue annotations .authSecret = ""
  · simp [noSecret]
  · by_cases isBasic : annotationValue annotations .authType = "basic" <;>
      simp [noSecret, isBasic]

theorem builtTimeout_readByTool_iff :
    builtTimeout (policyInput ingress routeName (readByTool annotations)) =
        builtTimeout (policyInput ingress routeName annotations) ↔
      annotationValue annotations .proxyReadTimeout ≠ "" ∨
        parseDuration (annotationValue annotations .proxySendTimeout) = "" := by
  simp only [builtTimeout, policyInput, annotationValue_readByTool, reduceCtorEq, if_false,
    if_true]
  by_cases hasRead : annotationValue annotations .proxyReadTimeout ≠ ""
  · simp [hasRead]
  · simp only [hasRead, false_or]
    by_cases noSend : parseDuration (annotationValue annotations .proxySendTimeout) = ""
    · simp [builtDuration, noSend]
    · cases builtDuration (annotationValue annotations .proxyConnectTimeout) <;>
        simp [builtDuration, noSend]

/-- The parts that neither the type of the authentication nor the send timeout is in. -/
theorem builders_readByTool :
    builtCORS (policyInput ingress routeName (readByTool annotations)) =
        builtCORS (policyInput ingress routeName annotations) ∧
      builtAuthorization (policyInput ingress routeName (readByTool annotations)) =
        builtAuthorization (policyInput ingress routeName annotations) ∧
      builtRateLimit (policyInput ingress routeName (readByTool annotations)) =
        builtRateLimit (policyInput ingress routeName annotations) ∧
      builtCircuitBreaker (policyInput ingress routeName (readByTool annotations)) =
        builtCircuitBreaker (policyInput ingress routeName annotations) := by
  simp only [builtCORS, builtAuthorization, builtRateLimit, builtCircuitBreaker, policyInput,
    annotationValue_readByTool, reduceCtorEq, if_false]
  refine ⟨?_, trivial, ?_, ?_⟩ <;> congr

theorem policySpecs_eq_iff :
    (securityPolicyFromAnnotations ingress routeName).toList.map SecurityPolicy.spec =
          (convertToPolicies (policyInput ingress routeName
            ingress.metadata.annotations)).securityPolicies.map SecurityPolicy.spec ∧
        (backendTrafficPolicyFromAnnotations ingress routeName).toList.map
            BackendTrafficPolicy.spec =
          (convertToPolicies (policyInput ingress routeName
            ingress.metadata.annotations)).backendTrafficPolicies.map BackendTrafficPolicy.spec ↔
      ReadAlike ingress.metadata.annotations := by
  obtain ⟨sameCORS, sameRanges, sameLimit, sameBreaker⟩ :=
    @builders_readByTool ingress routeName ingress.metadata.annotations
  have security := @securitySpecs_eq_iff
    (securityBuilder (policyInput ingress routeName (readByTool ingress.metadata.annotations)))
    (securityBuilder (policyInput ingress routeName ingress.metadata.annotations)) rfl
  have traffic := @trafficSpecs_eq_iff
    (trafficBuilder (policyInput ingress routeName (readByTool ingress.metadata.annotations)))
    (trafficBuilder (policyInput ingress routeName ingress.metadata.annotations)) rfl
  simp only [convertToPolicies, securityPolicyFromAnnotations_eq,
    backendTrafficPolicyFromAnnotations_eq, buildSecurityPolicy_eq, buildBackendTrafficPolicy_eq]
  rw [security, traffic]
  simp only [securityBuilder, trafficBuilder, sameCORS, sameRanges, sameLimit, sameBreaker,
    true_and, and_true, builtBasicAuth_readByTool_iff, builtTimeout_readByTool_iff, ReadAlike]

end Read

end Policies

/-! ## Both together -/

section Alike

variable {options : Options} {surroundings : Surroundings} {ingress : Ingress}
  {services : GoMap ObjectKey Service}

/-- No policies are built, as without a host with rules or a default Service and for gRPC, or
both read the annotations alike. -/
def PoliciesAlike (options : Options) (surroundings : Surroundings) (ingress : Ingress)
    (services : GoMap ObjectKey Service) : Prop :=
  options.disableEnvoyGatewayFeatures = true ∨
    (isGRPCIngress surroundings.text ingress = true ∨
      ¬ YieldsRoutes (conversionInput options ingress services)) ∨
    ReadAlike ingress.metadata.annotations

theorem httpRoutes_conversionInput_eq_nil_iff :
    (convertIngressWithServices surroundings
        (conversionInput options ingress services)).httpRoutes = [] ↔
      isGRPCIngress surroundings.text ingress = true ∨
        ¬ YieldsRoutes (conversionInput options ingress services) := by
  cases isGRPC : isGRPCIngress surroundings.text ingress with
  | true => exact iff_of_true (httpRoutes_of_grpc isGRPC) (Or.inl rfl)
  | false =>
      have noRoutes_iff : (convertIngressWithServices surroundings
          (conversionInput options ingress services)).httpRoutes = [] ↔
          ¬ YieldsRoutes (conversionInput options ingress services) :=
        httpRoutes_eq_nil_iff isGRPC
      simp [noRoutes_iff]

theorem buildPoliciesFromAnnotations_parts (routeName : String) :
    (buildPoliciesFromAnnotations ingress routeName).bind PolicyConversion.securityPolicy =
        securityPolicyFromAnnotations ingress routeName ∧
      (buildPoliciesFromAnnotations ingress routeName).bind
          PolicyConversion.backendTrafficPolicy =
        backendTrafficPolicyFromAnnotations ingress routeName := by
  simp only [buildPoliciesFromAnnotations]
  split_ifs with nothing
  · exact ⟨nothing.1.symm, nothing.2.symm⟩
  · exact ⟨rfl, rfl⟩

/-- The routes are always the same, the policies on the annotations that are read
alike. -/
theorem specs_eq_iff :
    let convResult :=
      convertIngressWithServices surroundings (conversionInput options ingress services)
    IngressConversion.specs
        { ingress := ingress
          convResult := convResult
          policyResult := conversionPolicies options ingress convResult } =
        controllerSpecs options.reconciler surroundings ingress services ↔
      PoliciesAlike options surroundings ingress services := by
  intro convResult
  have sameInput : options.reconciler.input ingress services =
      conversionInput options ingress services := rfl
  have sameFeatures : options.reconciler.disableEnvoyGatewayFeatures =
      options.disableEnvoyGatewayFeatures := rfl
  have sameHTTPRoutes : (options.reconciler.desiredHTTPRoutes ingress convResult).map
      HTTPRoute.spec = convResult.httpRoutes.map HTTPRoute.spec := by
    rw [Reconciler.desiredHTTPRoutes, List.map_map]
    rfl
  have sameGRPCRoutes : (options.reconciler.desiredGRPCRoutes ingress convResult).map
      GRPCRoute.spec = convResult.grpcRoutes.map GRPCRoute.spec := by
    rw [Reconciler.desiredGRPCRoutes, List.map_map]
    rfl
  simp only [IngressConversion.specs, controllerSpecs, sameInput, GeneratedSpecs.mk.injEq]
  rw [show convertIngressWithServices surroundings (conversionInput options ingress services) =
    convResult from rfl, sameHTTPRoutes, sameGRPCRoutes]
  simp only [true_and, PoliciesAlike, ← httpRoutes_conversionInput_eq_nil_iff]
  rw [show convertIngressWithServices surroundings (conversionInput options ingress services) =
    convResult from rfl]
  cases isRoutes : convResult.httpRoutes with
  | nil => simp [conversionPolicies, Reconciler.generatedPolicies, isRoutes]
  | cons first rest =>
      cases disabled : options.disableEnvoyGatewayFeatures with
      | true =>
          simp [conversionPolicies, Reconciler.generatedPolicies, isRoutes, disabled, sameFeatures]
      | false =>
          have parts := @buildPoliciesFromAnnotations_parts ingress first.metadata.name
          simp only [conversionPolicies, Reconciler.generatedPolicies, isRoutes, disabled,
            sameFeatures, Bool.false_eq_true, if_false, parts, List.cons_ne_nil, false_or]
          exact policySpecs_eq_iff

/-- Both convert an Ingress alike exactly if they skip it for the same reason, or the
label agrees with the status and an Ingress without the label has no policy that is
read differently. -/
theorem convertsAlike_iff (options : Options) (surroundings : Surroundings) (ingress : Ingress)
    (services : GoMap ObjectKey Service)
    (notConverted : ingress.metadata.annotations.get annotationConversionStatus ≠
      ConversionStatus.converted.text) :
    ConvertsAlike options surroundings ingress services ↔
      SkippedByBoth options ingress ∨
        (LabelledToSkip ingress ↔ MarkedPartly ingress) ∧
          (LabelledToSkip ingress ∨ PoliciesAlike options surroundings ingress services) := by
  have selected := @selects_iff options ingress surroundings services notConverted
  have produced : (∀ conversion,
      convertIngress options surroundings ingress services = some conversion →
        conversion.specs = controllerSpecs options.reconciler surroundings ingress services) ↔
      (LabelledToSkip ingress ∨ SkippedByBoth options ingress) ∨
        PoliciesAlike options surroundings ingress services := by
    rw [← skips_iff]
    have specs := @specs_eq_iff options surroundings ingress services
    cases isSkipped : skips options ingress with
    | true => simp [convertIngress, isSkipped]
    | false => simpa [convertIngress, isSkipped] using specs
  constructor
  · intro alike
    rcases selected.mp alike.selects with both | agrees
    · exact Or.inl both
    · rcases produced.mp alike.produces with (labelled | both) | policies
      · exact Or.inr ⟨agrees, Or.inl labelled⟩
      · exact Or.inl both
      · exact Or.inr ⟨agrees, Or.inr policies⟩
  · rintro (both | ⟨agrees, labelled | policies⟩)
    · exact ⟨selected.mpr (Or.inl both), produced.mpr (Or.inl (Or.inr both))⟩
    · exact ⟨selected.mpr (Or.inr agrees), produced.mpr (Or.inl (Or.inl labelled))⟩
    · exact ⟨selected.mpr (Or.inr agrees), produced.mpr (Or.inr policies)⟩

/-- An Ingress with the label is skipped by the tool only, and one with a secret but
without a type of authentication is protected by the tool only. -/
theorem label_and_secret_read_differently :
    let options : Options := {}
    let labelled : Ingress :=
      { annotatedIngress ∅ with
        metadata :=
          { name := "shop", ns := "default"
            labels := (∅ : StringMap).insert annotationSkipConversion "true" } }
    let secured := annotatedIngress ((∅ : StringMap).insert Annotation.authSecret.key "users")
    (convertIngress options quotingSurroundings labelled ∅).isNone = true ∧
      (options.reconciler.shouldConvert labelled).shouldConvert = true ∧
      (options.reconciler.shouldConvert secured).shouldConvert = true ∧
      (convertIngress options quotingSurroundings secured ∅).map
          (fun conversion => conversion.specs.securityPolicies.map SecurityPolicySpec.basicAuth) =
        some [some { name := "users", ns := some "default" }] ∧
      (controllerSpecs options.reconciler quotingSurroundings secured ∅).securityPolicies = [] := by
  decide +kernel

/-- An Ingress with basic authentication and a read timeout is converted alike. -/
theorem secured_converts_alike :
    let ingress := annotatedIngress
      ((((∅ : StringMap).insert Annotation.authType.key "basic").insert
        Annotation.authSecret.key "users").insert Annotation.proxyReadTimeout.key "30")
    ConvertsAlike {} quotingSurroundings ingress ∅ :=
  (convertsAlike_iff {} quotingSurroundings _ ∅ (by decide +kernel)).mpr
    (Or.inr ⟨by unfold LabelledToSkip MarkedPartly; decide +kernel,
      Or.inr (Or.inr (Or.inr (by decide +kernel)))⟩)

end Alike

end KubeLB.Cli
