import KubeLB.Conversion.Coverage

/-!
Contract: the rate limits that policies set for the annotations that ask for them.

Owns: the limits that a conversion emits, what it means that a requested limit is kept,
and the numbers for which it is.

Does not own: requests that are counted against a limit.
-/

set_option autoImplicit false

namespace KubeLB.Conversion

open KubeLB.Library KubeLB.Core KubeLB.EnvoyGateway

/-- The unit of the annotations that ask for a rate limit. -/
def Annotation.rateLimitUnit : Annotation → Option RateLimitUnit
  | .limitRPS => some .second
  | .limitRPM => some .minute
  | _ => none

def emittedLimits (policies : PolicyConversionResult) : List RateLimitValue :=
  policies.backendTrafficPolicies.flatMap (fun policy =>
    (policy.spec.rateLimit.map RateLimitSpec.localRules).getD [])

/-- The requested limit is emitted as it is, or no limit is and a warning says so. -/
def LimitKept (policies : PolicyConversionResult) (kind : Annotation)
    (unit : RateLimitUnit) (requests : Int) : Prop :=
  (∃ rule, emittedLimits policies = [rule] ∧ rule.unit = unit ∧
      (rule.requests.toNat : Int) = requests) ∨
    emittedLimits policies = [] ∧ ∃ warning ∈ policies.warnings, Names warning kind

/-- No limit for the unit is smaller than the requested one. -/
def NotLowered (policies : PolicyConversionResult) (unit : RateLimitUnit) (requests : Int) :
    Prop :=
  ∀ rule ∈ emittedLimits policies, rule.unit = unit → requests ≤ rule.requests.toNat

section Emitted

variable {input : PolicyConversionInput}

theorem emittedLimits_convertToPolicies :
    emittedLimits (convertToPolicies input) =
      ((builtRateLimit input).map RateLimitSpec.localRules).getD [] := by
  have asOption : (convertToPolicies input).backendTrafficPolicies =
      (trafficBuilder input).build.toList :=
    congrArg Option.toList (buildBackendTrafficPolicy_eq input)
  rw [emittedLimits, asOption, BackendTrafficPolicyBuilder.build]
  cases isEmpty : (trafficBuilder input).isEmpty with
  | true =>
      have noLimit : builtRateLimit input = none := by
        simp only [BackendTrafficPolicyBuilder.isEmpty, trafficBuilder, Bool.and_eq_true,
          Option.isNone_iff_eq_none] at isEmpty
        exact isEmpty.1.2
      rw [noLimit]
      rfl
  | false => simp [trafficBuilder]

/-- Requests per second are emitted, cut to 32 bits. -/
theorem emittedLimits_of_rps
    (positive : 0 < parseInt (annotationValue input.annotations .limitRPS)) :
    emittedLimits (convertToPolicies input) =
      [⟨UInt32.ofNat (parseInt (annotationValue input.annotations .limitRPS)).toNat, .second⟩] := by
  rw [emittedLimits_convertToPolicies]
  simp [builtRateLimit, positive]

/-- Requests per minute are emitted without requests per second, cut to 32 bits. -/
theorem emittedLimits_of_rpm
    (noRPS : ¬ 0 < parseInt (annotationValue input.annotations .limitRPS))
    (positive : 0 < parseInt (annotationValue input.annotations .limitRPM)) :
    emittedLimits (convertToPolicies input) =
      [⟨UInt32.ofNat (parseInt (annotationValue input.annotations .limitRPM)).toNat, .minute⟩] := by
  rw [emittedLimits_convertToPolicies]
  simp [builtRateLimit, noRPS, positive]

theorem kept_iff_of_emitted {policies : PolicyConversionResult} {kind : Annotation}
    {unit : RateLimitUnit} {requests : Int} (positive : 0 < requests)
    (emitted : emittedLimits policies = [⟨UInt32.ofNat requests.toNat, unit⟩]) :
    LimitKept policies kind unit requests ∧ NotLowered policies unit requests ↔
      requests < 2 ^ 32 := by
  have exact_iff := toNat_ofNat_eq_iff positive
  simp only [LimitKept, NotLowered, emitted, List.cons.injEq, and_true, exists_eq_left',
    true_and, List.cons_ne_nil, false_and, or_false, List.mem_singleton, forall_eq, exact_iff]
  constructor
  · exact And.left
  · intro fits
    exact ⟨fits, fun _ => le_of_eq (exact_iff.mpr fits).symm⟩

end Emitted

/-- A positive limit is kept exactly if it fits in 32 bits and, for requests per minute,
no requests per second are asked for. -/
theorem limitKept_iff (input : PolicyConversionInput) {kind : Annotation}
    {unit : RateLimitUnit} (isLimit : kind.rateLimitUnit = some unit)
    (positive : 0 < parseInt (annotationValue input.annotations kind)) :
    LimitKept (convertToPolicies input) kind unit
          (parseInt (annotationValue input.annotations kind)) ∧
        NotLowered (convertToPolicies input) unit
          (parseInt (annotationValue input.annotations kind)) ↔
      parseInt (annotationValue input.annotations kind) < 2 ^ 32 ∧
        (kind = .limitRPM → parseInt (annotationValue input.annotations .limitRPS) ≤ 0) := by
  cases kind with
  | limitRPS =>
      cases isLimit
      rw [kept_iff_of_emitted positive (emittedLimits_of_rps positive)]
      simp
  | limitRPM =>
      cases isLimit
      by_cases hasRPS : 0 < parseInt (annotationValue input.annotations .limitRPS)
      · -- the one limit that is emitted is that of the other annotation
        have emitted := emittedLimits_of_rps hasRPS
        simp [LimitKept, emitted, hasRPS]
      · rw [kept_iff_of_emitted positive (emittedLimits_of_rpm hasRPS positive)]
        simp [not_lt.mp hasRPS]
  | _ => cases isLimit

def shopLimits (kind : Annotation) (value : String) : PolicyConversionInput where
  ingressName := "shop"
  ingressNamespace := "default"
  routeName := "shop"
  annotations := (∅ : StringMap).insert kind.key value

/-- A limit of 2^32 requests becomes a limit of none, without a warning. -/
theorem wide_limit_wraps :
    let input := shopLimits .limitRPS "4294967296"
    parseInt (annotationValue input.annotations .limitRPS) = 4294967296 ∧
      emittedLimits (convertToPolicies input) = [⟨0, .second⟩] ∧
      ¬ LimitKept (convertToPolicies input) .limitRPS .second 4294967296 ∧
      ¬ NotLowered (convertToPolicies input) .second 4294967296 := by
  intro input
  have isNumber : parseInt (annotationValue input.annotations .limitRPS) = 4294967296 := by
    decide +kernel
  have emitted : emittedLimits (convertToPolicies input) = [⟨0, .second⟩] := by
    decide +kernel
  refine ⟨isNumber, emitted, ?_, ?_⟩
  · rintro (⟨rule, isRule, -, isExact⟩ | ⟨noLimit, -⟩)
    · rw [emitted, List.cons.injEq] at isRule
      rw [← isRule.1] at isExact
      exact absurd isExact (by decide)
    · rw [emitted] at noLimit
      cases noLimit
  · intro notLowered
    rw [NotLowered, emitted] at notLowered
    exact absurd (notLowered _ List.mem_cons_self rfl) (by decide)

/-- A limit of 100 requests per minute is kept. -/
theorem small_limit_kept :
    let input := shopLimits .limitRPM "100"
    0 < parseInt (annotationValue input.annotations .limitRPM) ∧
      LimitKept (convertToPolicies input) .limitRPM .minute
        (parseInt (annotationValue input.annotations .limitRPM)) ∧
      NotLowered (convertToPolicies input) .minute
        (parseInt (annotationValue input.annotations .limitRPM)) := by
  intro input
  have positive : 0 < parseInt (annotationValue input.annotations .limitRPM) := by
    decide +kernel
  exact ⟨positive, (limitKept_iff input rfl positive).mpr ⟨by decide +kernel, fun _ => by
    decide +kernel⟩⟩

end KubeLB.Conversion
