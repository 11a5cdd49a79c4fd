import KubeLB.Conversion.Policies

/-!
Contract: which clients the SecurityPolicy of an Ingress lets through.

Owns: the decision of an authorization about a client address, the ranges that the
annotations list, and for which addresses the decision is the one both lists ask for.

Does not own: what a range covers, which comes as a parameter. IPv4 ranges are there
for examples.
-/

set_option autoImplicit false

namespace KubeLB.Conversion

open KubeLB.Library KubeLB.Core KubeLB.EnvoyGateway KubeLB.Resources

section Decision

variable {α : Type} (covers : String → α → Bool)

def InRanges (ranges : List String) (address : α) : Prop :=
  ranges.any (fun range => covers range address) = true

instance (ranges : List String) (address : α) : Decidable (InRanges covers ranges address) :=
  inferInstanceAs (Decidable (_ = true))

/-- The first matching rule decides, else the default action, which is to deny unless
set. -/
def authorizationDecision (authorization : Authorization) (address : α) : AuthorizationAction :=
  match authorization.rules.find? (fun rule =>
      rule.clientCIDRs.any (fun range => covers range address)) with
  | some rule => rule.action
  | none => authorization.defaultAction.getD .deny

/-- Without a policy or without an authorization every client is allowed. -/
def clientDecision (policy : Option SecurityPolicy) (address : α) : AuthorizationAction :=
  match policy.bind (fun policy => policy.spec.authorization) with
  | none => .allow
  | some authorization => authorizationDecision covers authorization address

variable {covers} {address : α}

theorem decision_rangeAuthorization (allowed denied : List String) :
    (match rangeAuthorization allowed denied with
      | none => AuthorizationAction.allow
      | some authorization => authorizationDecision covers authorization address) = .allow ↔
      InRanges covers allowed address ∨ allowed = [] ∧ denied = [] ∨
        denied ≠ [] ∧ ¬ InRanges covers denied address := by
  unfold rangeAuthorization authorizationDecision rangeRules InRanges
  by_cases noAllowed : allowed = [] <;> by_cases noDenied : denied = []
  · simp [noAllowed, noDenied]
  · by_cases isDenied : denied.any (fun range => covers range address) = true <;>
      simp [noAllowed, noDenied, isDenied]
  · by_cases isAllowed : allowed.any (fun range => covers range address) = true <;>
      simp [noAllowed, noDenied, isAllowed]
  · by_cases isAllowed : allowed.any (fun range => covers range address) = true <;>
      by_cases isDenied : denied.any (fun range => covers range address) = true <;>
      simp [noAllowed, noDenied, isAllowed, isDenied]

theorem authorization_buildSecurityPolicy (input : PolicyConversionInput) :
    (buildSecurityPolicy input).bind (fun policy => policy.spec.authorization) =
      builtAuthorization input := by
  rw [buildSecurityPolicy_eq, SecurityPolicyBuilder.build]
  split
  · next isEmpty =>
      simp only [SecurityPolicyBuilder.isEmpty, securityBuilder, Bool.and_eq_true,
        Option.isNone_iff_eq_none] at isEmpty
      rw [isEmpty.1.2]
      rfl
  · rfl

/-- The client is in no denied range and, with an allowlist, in an allowed one. -/
def Permitted (covers : String → α → Bool) (allowed denied : List String) (address : α) : Prop :=
  ¬ InRanges covers denied address ∧ (allowed = [] ∨ InRanges covers allowed address)

/-- The decision is what both lists ask for unless there are two lists and the address
is in both of them or in neither. -/
theorem clientDecision_eq_allow_iff_permitted_iff (input : PolicyConversionInput) :
    let allowed := parseStringList (annotationValue input.annotations .whitelistSourceRange)
    let denied := parseStringList (annotationValue input.annotations .denylistSourceRange)
    (clientDecision covers (buildSecurityPolicy input) address = .allow ↔
        Permitted covers allowed denied address) ↔
      (allowed = [] ∨ denied = [] ∨
        (InRanges covers allowed address ↔ ¬ InRanges covers denied address)) := by
  intro allowed denied
  have decision : clientDecision covers (buildSecurityPolicy input) address = .allow ↔
      InRanges covers allowed address ∨ allowed = [] ∧ denied = [] ∨
        denied ≠ [] ∧ ¬ InRanges covers denied address := by
    rw [clientDecision, authorization_buildSecurityPolicy]
    exact decision_rangeAuthorization allowed denied
  have noRange (ranges : List String) (isEmpty : ranges = []) :
      ¬ InRanges covers ranges address := by
    rw [isEmpty]
    exact Bool.false_ne_true
  rw [decision, Permitted]
  by_cases noAllowed : allowed = []
  · by_cases noDenied : denied = []
    · simp [noAllowed, noDenied, noRange]
    · simp [noAllowed, noDenied, noRange]
  · by_cases noDenied : denied = []
    · simp [noAllowed, noDenied, noRange]
    · by_cases isAllowed : InRanges covers allowed address <;>
        by_cases isDenied : InRanges covers denied address <;>
        simp [noAllowed, noDenied, isAllowed, isDenied]

end Decision

/-! ## IPv4 ranges -/

/-- The four numbers of a dotted address as 32 bits. -/
def parseIPv4 (text : List Char) : Option (BitVec 32) :=
  match (text.splitOn '.').mapM (fun part => atoi (String.ofList part)) with
  | some [first, second, third, fourth] =>
      some (BitVec.ofInt 32 (((first * 256 + second) * 256 + third) * 256 + fourth))
  | _ => none

/-- The range has the first bits of the address as its prefix length says. -/
def coversIPv4 (range : String) (address : BitVec 32) : Bool :=
  match range.toList.splitOn '/' with
  | [start, length] =>
      match parseIPv4 start, atoi (String.ofList length) with
      | some start, some length =>
          decide (start >>> (32 - length.toNat) = address >>> (32 - length.toNat))
      | _, _ => false
  | _ => false

def rangedInput : PolicyConversionInput where
  ingressName := "shop"
  ingressNamespace := "default"
  routeName := "shop"
  annotations :=
    ((∅ : StringMap).insert Annotation.whitelistSourceRange.key "10.0.0.0/8").insert
      Annotation.denylistSourceRange.key "10.1.0.0/16"

/-- A denied client of the allowed network is let through, and so is a client from
anywhere else. -/
theorem denied_and_unlisted_clients_allowed :
    let allowed := ["10.0.0.0/8"]
    let denied := ["10.1.0.0/16"]
    parseStringList (annotationValue rangedInput.annotations .whitelistSourceRange) = allowed ∧
      parseStringList (annotationValue rangedInput.annotations .denylistSourceRange) = denied ∧
      parseIPv4 "10.1.2.3".toList = some 0x0A010203 ∧
      clientDecision coversIPv4 (buildSecurityPolicy rangedInput) 0x0A010203 = .allow ∧
      InRanges coversIPv4 denied 0x0A010203 ∧
      parseIPv4 "192.0.2.1".toList = some 0xC0000201 ∧
      clientDecision coversIPv4 (buildSecurityPolicy rangedInput) 0xC0000201 = .allow ∧
      ¬ InRanges coversIPv4 allowed 0xC0000201 := by
  decide +kernel

end KubeLB.Conversion
