import KubeLB.Ccm.Shared
import KubeLB.Controllers.RouteResource
import KubeLB.Resources.Route

/-!
Contract: tenant Services and the LoadBalancers of the management cluster that mirror
them.

Owns: the tenant's Service and its mirror with the fields the reconciler uses,
`MapLoadBalancer`, and the comparison of specifications in
`LoadBalancerIsDesiredState`.

Does not own: the passes of `KubeLBServiceReconciler`. Names of ports are ASCII.
-/

set_option autoImplicit false

namespace KubeLB.Ccm

open KubeLB.Library KubeLB.Core KubeLB.V1Alpha1 KubeLB.Naming KubeLB.Resources
  KubeLB.Controllers

/-! ## Objects -/

inductive ServiceAffinity where
  | clientIP
  | none
  deriving DecidableEq, Repr

/-- A Service of the tenant cluster. -/
structure TenantService extends Service where
  sessionAffinity : ServiceAffinity := .none
  externalTrafficPolicy : String := ""
  deriving DecidableEq

/-- The specification of a LoadBalancer with the fields that only the mirroring
uses. -/
structure MirrorSpec extends LoadBalancerSpec where
  type : ServiceType := .unset
  externalTrafficPolicy : String := ""
  deriving DecidableEq

/-- A LoadBalancer of the management cluster. -/
structure Mirror where
  metadata : ObjectMeta
  spec : MirrorSpec := {}
  deriving DecidableEq

/-! ## The desired LoadBalancer -/

def labelTenantName : String := "kubelb.k8c.io/tenant"

def mirrorPortName (port : Core.ServicePort) : String :=
  if port.name ≠ "" then port.name.toLower
  else toString port.port.toInt ++ "-" ++ port.protocol.text.toLower

def mapLoadBalancer (userService : TenantService) (clusterEndpoints : List EndpointAddress)
    (useAddressesReference : Bool) (clusterName : String) : Mirror :=
  let ports := userService.spec.ports
  { metadata :=
      { name := userService.metadata.uid
        ns := clusterName
        labels := ((∅ : StringMap).insert labelOriginNamespace userService.metadata.ns).insert
          labelOriginName userService.metadata.name |>.insert labelTenantName clusterName
        annotations := userService.metadata.annotations.erase lastAppliedConfigAnnotation }
    spec :=
      { ports := ports.map (fun port =>
          { name := mirrorPortName port, port := port.port, protocol := port.protocol })
        endpoints :=
          [{ ports := ports.map (fun port =>
              { name := mirrorPortName port, port := port.nodePort, protocol := port.protocol })
             addresses := if useAddressesReference then [] else clusterEndpoints
             addressesReference :=
               if useAddressesReference then some defaultAddressName else none }]
        type := userService.spec.type
        externalTrafficPolicy := userService.externalTrafficPolicy
        persistence :=
          if userService.sessionAffinity = .clientIP then some ⟨.sourceIP⟩ else none } }

def sameEntries {α : Type} (same : α → α → Bool) (actual desired : List α) : Bool :=
  decide (actual.length = desired.length) &&
    (actual.zip desired).all (fun pair => same pair.1 pair.2)

theorem sameEntries_iff {α : Type} {same : α → α → Bool} {actual desired : List α} :
    sameEntries same actual desired = true ↔
      List.Forall₂ (fun left right => same left right = true) actual desired := by
  rw [sameEntries, Bool.and_eq_true, decide_eq_true_eq, List.forall₂_iff_zip]
  simp [List.all_eq_true]

/-- The comparison of the specifications in `LoadBalancerIsDesiredState`. -/
def specIsDesiredState (actual desired : MirrorSpec) : Bool :=
  decide (actual.type = desired.type) &&
  decide (actual.externalTrafficPolicy = desired.externalTrafficPolicy) &&
  decide (actual.persistence = desired.persistence) &&
  sameEntries (fun left right : LoadBalancerPort =>
      decide (left.protocol = right.protocol ∧ left.port = right.port))
    actual.ports desired.ports &&
  sameEntries (fun left right : LoadBalancerEndpoints =>
      sameEntries (fun address other : EndpointAddress =>
          decide (address.hostname = other.hostname ∧ address.ip = other.ip))
        left.addresses right.addresses &&
      sameEntries (fun port other : EndpointPort =>
          decide (port.port = other.port ∧ port.protocol = other.protocol))
        left.ports right.ports)
    actual.endpoints desired.endpoints

structure EndpointAgrees (actual desired : LoadBalancerEndpoints) : Prop where
  addresses : actual.addresses = desired.addresses
  ports : List.Forall₂ (fun port other : EndpointPort =>
    port.port = other.port ∧ port.protocol = other.protocol) actual.ports desired.ports

/-- What the comparison of the specifications finds out. -/
structure SpecAgrees (actual desired : MirrorSpec) : Prop where
  type : actual.type = desired.type
  externalTrafficPolicy : actual.externalTrafficPolicy = desired.externalTrafficPolicy
  persistence : actual.persistence = desired.persistence
  ports : List.Forall₂ (fun left right : LoadBalancerPort =>
    left.protocol = right.protocol ∧ left.port = right.port) actual.ports desired.ports
  endpoints : List.Forall₂ EndpointAgrees actual.endpoints desired.endpoints

theorem specIsDesiredState_iff {actual desired : MirrorSpec} :
    specIsDesiredState actual desired = true ↔ SpecAgrees actual desired := by
  have sameAddress (left right : EndpointAddress) :
      left.hostname = right.hostname ∧ left.ip = right.ip ↔ left = right := by
    cases left
    cases right
    simp [and_comm]
  have agrees : (fun left right : LoadBalancerEndpoints => left.addresses = right.addresses ∧
      List.Forall₂ (fun port other : EndpointPort =>
        port.port = other.port ∧ port.protocol = other.protocol) left.ports right.ports) =
      EndpointAgrees := by
    funext left right
    exact propext ⟨fun both => ⟨both.1, both.2⟩, fun agree => ⟨agree.addresses, agree.ports⟩⟩
  simp only [specIsDesiredState, Bool.and_eq_true, decide_eq_true_eq, sameEntries_iff,
    sameAddress, List.forall₂_eq_eq_eq, agrees]
  exact ⟨fun ⟨⟨⟨⟨type, policy⟩, persistence⟩, ports⟩, endpoints⟩ =>
      ⟨type, policy, persistence, ports, endpoints⟩,
    fun agree => ⟨⟨⟨⟨agree.type, agree.externalTrafficPolicy⟩, agree.persistence⟩, agree.ports⟩,
      agree.endpoints⟩⟩

end KubeLB.Ccm
