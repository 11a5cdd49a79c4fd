import KubeLB.Api.GatewayApi
import KubeLB.Api.Networking
import KubeLB.Controllers.Cluster
import KubeLB.Library.Slices

/-!
Contract: the Services that a source object refers to.

Owns: which backend references stand for a Service, the references of a rule in the
order of the source's loops, and `GetServicesFromIngress`, `GetServicesFromHTTPRoute`
and `GetServicesFromGRPCRoute`.

Does not own: the Services themselves.
-/

set_option autoImplicit false

namespace KubeLB.Resources

open KubeLB.Library KubeLB.Networking KubeLB.GatewayApi KubeLB.Controllers

def serviceKind : String := "Service"

/-- A reference of kind Service; the group is not looked at. -/
def IsServiceReference (ref : BackendObjectReference) : Prop :=
  ref.kind = none ∨ ref.kind = some serviceKind

instance (ref : BackendObjectReference) : Decidable (IsServiceReference ref) :=
  inferInstanceAs (Decidable (_ ∨ _))

/-- The Service behind a reference of an object in namespace `ns`. -/
def serviceReference (ns : String) (ref : BackendObjectReference) : ObjectKey where
  ns := ref.ns.getD ns
  name := ref.name

section Rules

variable {μ φ : Type} (requestMirror : φ → Option HTTPRequestMirrorFilter)

/-- The backends to which filters mirror requests. -/
def mirrorReferences (filters : List φ) : List BackendObjectReference :=
  filters.filterMap (fun filter => (requestMirror filter).map (·.backendRef))

/-- Every reference of a rule: of its filters, of its backends and of their filters. -/
def ruleReferences (rule : RouteRule μ φ) : List BackendObjectReference :=
  mirrorReferences requestMirror rule.filters ++
    rule.backendRefs.flatMap (fun ref =>
      ref.toBackendObjectReference :: mirrorReferences requestMirror ref.filters)

/-- The Services of the rules without duplicates. -/
def servicesFromRules (ns : String) (rules : List (RouteRule μ φ)) : List ObjectKey :=
  keepFirst id
    (((rules.flatMap (ruleReferences requestMirror)).filter
      (fun ref => IsServiceReference ref)).map (serviceReference ns)) ∅

end Rules

def getServicesFromHTTPRoute (ns : String) (spec : HTTPRouteSpec) : List ObjectKey :=
  servicesFromRules HTTPRouteFilter.requestMirror ns spec.rules

def getServicesFromGRPCRoute (ns : String) (spec : GRPCRouteSpec) : List ObjectKey :=
  servicesFromRules GRPCRouteFilter.requestMirror ns spec.rules

/-- `GetServicesFromIngress`; `none` is the panic on a rule without paths or a path
without a Service. -/
def getServicesFromIngress (ns : String) (spec : IngressSpec) : Option (List ObjectKey) := do
  let ofRules ← spec.rules.mapM (fun rule => do
    let paths ← rule.http
    paths.mapM (fun path => path.backend.service.map (fun service =>
      (⟨ns, service.name⟩ : ObjectKey))))
  let ofDefault := ((spec.defaultBackend.bind (·.service)).map (fun service =>
    (⟨ns, service.name⟩ : ObjectKey))).toList
  pure (keepFirst id (ofRules.flatten ++ ofDefault) ∅)

/-- The extraction follows a pointer in every rule and in every path. -/
theorem isSome_getServicesFromIngress {ns : String} {spec : IngressSpec} :
    (getServicesFromIngress ns spec).isSome ↔
      ∀ rule ∈ spec.rules, ∃ paths, rule.http = some paths ∧
        ∀ path ∈ paths, path.backend.service ≠ none := by
  have rules : (getServicesFromIngress ns spec).isSome ↔
      (spec.rules.mapM (fun rule : IngressRule => rule.http.bind (fun paths =>
        paths.mapM (fun path => path.backend.service.map (fun service =>
          (⟨ns, service.name⟩ : ObjectKey)))))).isSome := by
    simp only [getServicesFromIngress, Option.bind_eq_bind, Option.pure_def]
    cases (spec.rules.mapM _ : Option (List (List ObjectKey))) <;> rfl
  rw [rules, isSome_mapM_iff]
  refine forall₂_congr (fun rule _ => ?_)
  cases rule.http with
  | none => simp
  | some paths =>
      rw [Option.bind_some, isSome_mapM_iff]
      simp [Option.isSome_iff_ne_none]

end KubeLB.Resources
