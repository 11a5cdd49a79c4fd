import KubeLB.Conversion.Controller

/-!
Contract: what the controller and the command line tool share to convert Ingresses.

Owns: `Options`, the controller that `SetupReconciler` makes of them, `ShouldSkip` and
`MatchesIngressClass`.

Does not own: the flags that fill the options.
-/

set_option autoImplicit false

namespace KubeLB.Conversion

open KubeLB.Library KubeLB.Core KubeLB.Networking KubeLB.Controllers

/-- `Options`. Whether the controller is started at all is left out. -/
structure Options where
  gatewayName : String := "kubelb"
  gatewayNamespace : String := "kubelb"
  gatewayClassName : String := "kubelb"
  ingressClass : String := ""
  domainReplace : String := ""
  domainSuffix : String := ""
  propagateExternalDNS : Bool := true
  gatewayAnnotations : StringMap := ∅
  disableEnvoyGatewayFeatures : Bool := false
  copyTLSSecrets : Bool := true

/-- The controller of `SetupReconciler`. -/
def Options.reconciler (options : Options) : Reconciler where
  gatewayName := options.gatewayName
  gatewayNamespace := options.gatewayNamespace
  gatewayClassName := options.gatewayClassName
  ingressClass := options.ingressClass
  domainReplace := options.domainReplace
  domainSuffix := options.domainSuffix
  propagateExternalDNS := options.propagateExternalDNS
  gatewayAnnotations := options.gatewayAnnotations
  disableEnvoyGatewayFeatures := options.disableEnvoyGatewayFeatures
  copyTLSSecrets := options.copyTLSSecrets

/-! ## Which Ingresses are converted -/

def shouldSkip (ingress : Ingress) : Bool :=
  decide (ingress.metadata.labels.get annotationSkipConversion = "true") ||
    decide (ingress.metadata.annotations.get annotationSkipConversion = "true") ||
    decide (annotationValue ingress.metadata.annotations .canary = "true")

def matchesIngressClass (ingress : Ingress) (ingressClass : String) : Bool :=
  match ingress.spec.ingressClassName with
  | some name => decide (name = ingressClass)
  | none =>
      match ingress.metadata.annotations.lookup annotationIngressClass with
      | some name => decide (name = ingressClass)
      | none => false

/-- A class that is asked for is matched by the name that the controller compares. -/
theorem matchesIngressClass_iff {ingress : Ingress} {ingressClass : String}
    (isClass : ingressClass ≠ "") :
    matchesIngressClass ingress ingressClass = true ↔
      ingress.spec.ingressClassName.getD
        (ingress.metadata.annotations.get annotationIngressClass) = ingressClass := by
  unfold matchesIngressClass StringMap.get
  cases ingress.spec.ingressClassName with
  | some name => simp
  | none =>
      cases ingress.metadata.annotations.lookup annotationIngressClass with
      | some name => simp
      | none => simpa using isClass.symm

end KubeLB.Conversion
