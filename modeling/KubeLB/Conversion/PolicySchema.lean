import KubeLB.Conversion.Coverage
import KubeLB.Library.Durations
import KubeLB.Library.Text

/-!
Contract: when the API server admits the policies of an Ingress.

Owns: what the schema of Envoy Gateway asks of durations, ranges and references to
secrets in a policy, and the annotations whose policies all keep it.

Does not own: the other fields of the schema.
-/

set_option autoImplicit false

namespace KubeLB.Conversion

open KubeLB.Library KubeLB.Core KubeLB.EnvoyGateway KubeLB.Resources

/-! ## Schema -/

/-- An address and, after a slash, the length of its prefix. -/
def IsCIDR (range : String) : Prop :=
  ∃ address length : List Char, range.toList = address ++ '/' :: length ∧
    address ≠ [] ∧ '/' ∉ address ∧ length ≠ [] ∧ ∀ char ∈ length, char.isDigit = true

/-- A name without a namespace. -/
def IsSecretName (name : String) : Prop := '/' ∉ name.toList

structure AdmissibleSecurityPolicy (spec : SecurityPolicySpec) : Prop where
  ranges : ∀ authorization, spec.authorization = some authorization →
    ∀ rule ∈ authorization.rules, ∀ range ∈ rule.clientCIDRs, IsCIDR range
  secret : ∀ basicAuth, spec.basicAuth = some basicAuth → IsSecretName basicAuth.name
  maxAge : ∀ cors, spec.cors = some cors → ∀ duration, cors.maxAge = some duration →
    IsDuration duration

structure AdmissibleBackendTrafficPolicy (spec : BackendTrafficPolicySpec) : Prop where
  connect : ∀ duration, spec.timeout.bind Timeout.connectTimeout = some duration →
    IsDuration duration
  request : ∀ duration, spec.timeout.bind Timeout.requestTimeout = some duration →
    IsDuration duration

/-! ## Annotations -/

/-- The value stands for a duration, or for none. -/
def DurationOrNone (value : String) : Prop :=
  parseDuration value = "" ∨ IsDuration (parseDuration value)

/-- The values that make admissible policies. -/
structure WellFormed (annotations : StringMap) : Prop where
  whitelist : ∀ range ∈ parseStringList (annotationValue annotations .whitelistSourceRange),
    IsCIDR range
  denylist : ∀ range ∈ parseStringList (annotationValue annotations .denylistSourceRange),
    IsCIDR range
  secret : annotationValue annotations .authType = "basic" →
    IsSecretName (annotationValue annotations .authSecret)
  maxAge : annotationValue annotations .enableCORS = "true" →
    ∀ seconds, atoi (annotationValue annotations .corsMaxAge) = some seconds →
      0 ≤ seconds ∧ seconds < 100000
  connect : DurationOrNone (annotationValue annotations .proxyConnectTimeout)
  request : DurationOrNone (if annotationValue annotations .proxyReadTimeout ≠ "" then
    annotationValue annotations .proxyReadTimeout
    else annotationValue annotations .proxySendTimeout)

/-! ## Parts of policies -/

/-- Seconds that fit into one group. -/
theorem isDuration_intText_iff (seconds : Int) :
    IsDuration (toString seconds ++ "s") ↔ 0 ≤ seconds ∧ seconds < 100000 := by
  rcases intText_cases seconds with ⟨number, isNumber, isText⟩ | ⟨number, isNumber, isText⟩
  · rw [isText, isDuration_natText_iff]
    omega
  · have startsWithDash : (toString seconds ++ "s").toList =
        '-' :: (toString (number + 1) ++ "s").toList := by
      rw [isText, String.append_assoc, String.toList_append]
      rfl
    refine iff_of_false (not_isDuration_of_head startsWithDash (by decide)) ?_
    omega

theorem forall_builtDuration_iff {value : String} :
    (∀ duration, builtDuration value = some duration → IsDuration duration) ↔
      DurationOrNone value := by
  simp only [builtDuration_eq_some_iff, DurationOrNone]
  constructor
  · intro holds
    by_cases isEmpty : parseDuration value = ""
    · exact Or.inl isEmpty
    · exact Or.inr (holds _ ⟨rfl, isEmpty⟩)
  · rintro holds duration ⟨rfl, notEmpty⟩
    exact holds.resolve_left notEmpty

section Built

variable {input : PolicyConversionInput}

theorem forall_securityPolicies_iff (P : SecurityPolicySpec → Prop)
    (ofNone : ∀ spec, spec.cors = none → spec.authorization = none → spec.basicAuth = none →
      P spec) :
    (∀ policy ∈ (convertToPolicies input).securityPolicies, P policy.spec) ↔
      P { targetRef := some input.policyTargetRef, cors := builtCORS input
          authorization := builtAuthorization input, basicAuth := builtBasicAuth input } := by
  rw [← not_iff_not]
  simp only [not_forall, exists_prop]
  refine exists_securityPolicy_iff (fun spec => ¬ P spec) (fun spec fails => ?_)
  by_contra isNone
  simp only [Bool.not_eq_false, Bool.and_eq_true, Option.isNone_iff_eq_none] at isNone
  exact fails (ofNone spec isNone.1.1 isNone.1.2 isNone.2)

theorem forall_backendTrafficPolicies_iff (P : BackendTrafficPolicySpec → Prop)
    (ofNone : ∀ spec, spec.timeout = none → spec.rateLimit = none → spec.circuitBreaker = none →
      P spec) :
    (∀ policy ∈ (convertToPolicies input).backendTrafficPolicies, P policy.spec) ↔
      P { targetRef := some input.policyTargetRef, timeout := builtTimeout input
          circuitBreaker := builtCircuitBreaker input, rateLimit := builtRateLimit input } := by
  rw [← not_iff_not]
  simp only [not_forall, exists_prop]
  refine exists_backendTrafficPolicy_iff (fun spec => ¬ P spec) (fun spec fails => ?_)
  by_contra isNone
  simp only [Bool.not_eq_false, Bool.and_eq_true, Option.isNone_iff_eq_none] at isNone
  exact fails (ofNone spec isNone.1.1 isNone.1.2 isNone.2)

theorem ranges_admissible_iff :
    (∀ authorization, builtAuthorization input = some authorization →
        ∀ rule ∈ authorization.rules, ∀ range ∈ rule.clientCIDRs, IsCIDR range) ↔
      (∀ range ∈ parseStringList (annotationValue input.annotations .whitelistSourceRange),
        IsCIDR range) ∧
      ∀ range ∈ parseStringList (annotationValue input.annotations .denylistSourceRange),
        IsCIDR range := by
  simp only [builtAuthorization, rangeAuthorization, rangeRules]
  generalize parseStringList (annotationValue input.annotations .whitelistSourceRange) = allowed
  generalize parseStringList (annotationValue input.annotations .denylistSourceRange) = denied
  by_cases noAllowed : allowed = [] <;> by_cases noDenied : denied = [] <;>
    simp [noAllowed, noDenied]

theorem secret_admissible_iff :
    (∀ basicAuth, builtBasicAuth input = some basicAuth → IsSecretName basicAuth.name) ↔
      (annotationValue input.annotations .authType = "basic" →
        IsSecretName (annotationValue input.annotations .authSecret)) := by
  simp only [builtBasicAuth]
  by_cases isBasic : annotationValue input.annotations .authType = "basic" <;>
    by_cases noSecret : annotationValue input.annotations .authSecret = "" <;>
    simp [isBasic, noSecret, IsSecretName]

theorem maxAge_admissible_iff :
    (∀ cors, builtCORS input = some cors → ∀ duration, cors.maxAge = some duration →
        IsDuration duration) ↔
      (annotationValue input.annotations .enableCORS = "true" →
        ∀ seconds, atoi (annotationValue input.annotations .corsMaxAge) = some seconds →
          0 ≤ seconds ∧ seconds < 100000) := by
  simp only [builtCORS]
  by_cases enabled : annotationValue input.annotations .enableCORS = "true"
  · simp only [enabled, if_true, Option.some.injEq, forall_eq', true_implies, parseInt64]
    constructor
    · intro holds seconds isSeconds
      exact (isDuration_intText_iff seconds).mp (holds _ (by rw [isSeconds, Option.map_some]))
    · intro holds duration isDuration
      obtain ⟨seconds, isSeconds, rfl⟩ := Option.map_eq_some_iff.mp isDuration
      exact (isDuration_intText_iff seconds).mpr (holds seconds isSeconds)
  · simp [enabled]

/-- The API server admits all policies exactly if no annotation is malformed. -/
theorem admissible_policies_iff :
    ((∀ policy ∈ (convertToPolicies input).securityPolicies,
          AdmissibleSecurityPolicy policy.spec) ∧
        ∀ policy ∈ (convertToPolicies input).backendTrafficPolicies,
          AdmissibleBackendTrafficPolicy policy.spec) ↔
      WellFormed input.annotations := by
  rw [forall_securityPolicies_iff AdmissibleSecurityPolicy,
    forall_backendTrafficPolicies_iff AdmissibleBackendTrafficPolicy]
  · constructor
    · rintro ⟨security, traffic⟩
      obtain ⟨whitelist, denylist⟩ := ranges_admissible_iff.mp security.ranges
      have connect := traffic.connect
      have request := traffic.request
      simp only [connectTimeout_builtTimeout, requestTimeout_builtTimeout] at connect request
      exact
        { whitelist := whitelist
          denylist := denylist
          secret := secret_admissible_iff.mp security.secret
          maxAge := maxAge_admissible_iff.mp security.maxAge
          connect := forall_builtDuration_iff.mp connect
          request := forall_builtDuration_iff.mp request }
    · intro wellFormed
      constructor
      · exact
          { ranges := ranges_admissible_iff.mpr ⟨wellFormed.whitelist, wellFormed.denylist⟩
            secret := secret_admissible_iff.mpr wellFormed.secret
            maxAge := maxAge_admissible_iff.mpr wellFormed.maxAge }
      · constructor <;> simp only [connectTimeout_builtTimeout, requestTimeout_builtTimeout]
        · exact forall_builtDuration_iff.mpr wellFormed.connect
        · exact forall_builtDuration_iff.mpr wellFormed.request
  · intro spec noTimeout _ _
    constructor <;> simp [noTimeout]
  · intro spec noCORS noAuthorization noBasicAuth
    constructor <;> simp [noCORS, noAuthorization, noBasicAuth]

end Built

/-! ## An address in place of a range -/

def addressInput : PolicyConversionInput where
  ingressName := "shop"
  ingressNamespace := "default"
  routeName := "shop"
  annotations :=
    (((∅ : StringMap).insert Annotation.whitelistSourceRange.key "10.0.0.1").insert
      Annotation.authType.key "basic").insert Annotation.authSecret.key "users"

/-- The address makes the API server reject the policy with the authentication. -/
theorem address_not_admissible :
    ∃ policy ∈ (convertToPolicies addressInput).securityPolicies,
      policy.spec.basicAuth = some { name := "users", ns := some "default" } ∧
        ¬ AdmissibleSecurityPolicy policy.spec := by
  have isPolicies : (convertToPolicies addressInput).securityPolicies.map
      (fun policy => (policy.spec.basicAuth, policy.spec.authorization)) =
      [(some { name := "users", ns := some "default" }, some
        { rules := [{ name := some "ip-allowlist", action := .allow, clientCIDRs := ["10.0.0.1"] }]
          defaultAction := some .deny })] := by
    decide +kernel
  obtain ⟨policy, isPolicy, isSpec⟩ := List.mem_map.mp (isPolicies ▸ List.mem_singleton_self _)
  obtain ⟨isBasicAuth, isAuthorization⟩ := Prod.mk.inj isSpec
  refine ⟨policy, isPolicy, isBasicAuth, fun admissible => ?_⟩
  obtain ⟨address, length, isText, -⟩ := admissible.ranges _ isAuthorization _
    (List.mem_singleton_self _) "10.0.0.1" (List.mem_singleton_self _)
  have hasSlash : '/' ∈ "10.0.0.1".toList := by
    rw [isText]
    exact List.mem_append_right _ List.mem_cons_self
  exact absurd hasSlash (by decide)

end KubeLB.Conversion
