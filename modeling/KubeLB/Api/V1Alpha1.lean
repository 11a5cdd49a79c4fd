import KubeLB.Api.Core

/-!
Contract: the `kubelb.k8c.io/v1alpha1` objects.

Owns: the LoadBalancer, Route, Config and Tenant types with the fields the modelled
functions use, under the names of the Go types.

Does not own: the hostname, load-balancer address and traffic-policy fields of a
LoadBalancer, the transition times of a condition, and the proxy, class, DNS and
certificate settings of a Config or Tenant.
-/

set_option autoImplicit false

namespace KubeLB.V1Alpha1

open KubeLB.Library

structure EndpointAddress where
  ip : String := ""
  hostname : String := ""
  deriving DecidableEq, Repr

structure EndpointPort where
  name : String := ""
  port : Int32
  protocol : Core.Protocol := .tcp
  deriving DecidableEq, Repr

/-- A group of addresses with a common set of ports. -/
structure LoadBalancerEndpoints where
  name : String := ""
  addresses : List EndpointAddress := []
  /-- The name of the referenced Addresses object. -/
  addressesReference : Option String := none
  ports : List EndpointPort := []
  deriving DecidableEq, Repr

/-! ## LoadBalancer -/

structure LoadBalancerPort where
  name : String := ""
  protocol : Core.Protocol := .tcp
  port : Int32
  deriving DecidableEq, Repr

/-- `LoadBalancerPersistenceType`; any text other than `SourceIP` asks for
nothing. -/
inductive LoadBalancerPersistenceType where
  | sourceIP
  | other (spelling : String)
  deriving DecidableEq, Repr

structure LoadBalancerPersistence where
  type : LoadBalancerPersistenceType
  deriving DecidableEq, Repr

structure LoadBalancerSpec where
  endpoints : List LoadBalancerEndpoints := []
  ports : List LoadBalancerPort := []
  persistence : Option LoadBalancerPersistence := none
  deriving DecidableEq, Repr

/-- A Service port together with the tenant port behind it. -/
structure ServicePort extends Core.ServicePort where
  upstreamTargetPort : Int32
  deriving DecidableEq

structure ServiceStatus where
  ports : List ServicePort := []
  deriving DecidableEq

structure LoadBalancerStatus where
  service : ServiceStatus := {}
  deriving DecidableEq

structure LoadBalancer where
  metadata : Core.ObjectMeta
  spec : LoadBalancerSpec := {}
  status : LoadBalancerStatus := {}
  deriving DecidableEq

/-! ## Route -/

/-- `KubernetesSource`: the mirrored object and its backend services. -/
structure KubernetesSource where
  route : Core.Unstructured
  services : List Core.Service := []
  deriving DecidableEq

structure RouteSpec where
  endpoints : List LoadBalancerEndpoints := []
  /-- `Source.Kubernetes`, nil when no source is defined. -/
  source : Option KubernetesSource := none
  deriving DecidableEq

structure Condition where
  type : String
  status : Bool
  reason : String
  message : String
  deriving DecidableEq, Repr

structure ResourceState where
  apiVersion : String := ""
  kind : String := ""
  name : String := ""
  ns : String := ""
  generatedName : String := ""
  status : Core.ResourceStatus := {}
  conditions : List Condition := []
  deriving DecidableEq, Repr

structure RouteServiceStatus extends ResourceState where
  ports : List Core.ServicePort := []
  deriving DecidableEq

structure RouteResourcesStatus where
  services : GoMap String RouteServiceStatus := ∅
  route : ResourceState := {}
  deriving DecidableEq

structure RouteStatus where
  resources : RouteResourcesStatus := {}
  deriving DecidableEq

structure Route where
  metadata : Core.ObjectMeta
  spec : RouteSpec := {}
  status : RouteStatus := {}
  deriving DecidableEq

/-! ## Annotation settings -/

inductive AnnotatedResource where
  | all
  | service
  | ingress
  | gateway
  | httpRoute
  | grpcRoute
  | tcpRoute
  | udpRoute
  | tlsRoute
  deriving DecidableEq, Repr

/-- Which annotations a generated object takes over. -/
structure AnnotationSettings where
  propagatedAnnotations : Option Core.StringMap := none
  propagateAllAnnotations : Option Bool := none
  deniedAnnotations : List String := []
  defaultAnnotations : GoMap AnnotatedResource Core.StringMap := ∅

/-! ## Config and Tenant -/

/-- The settings that a Config and a Tenant share, as far as the reconcilers of
LoadBalancers and Routes read them. A field that falls back from the Tenant to the
Config is `none` when it is nil. -/
structure Settings where
  propagatedAnnotations : Option Core.StringMap := none
  propagateAllAnnotations : Option Bool := none
  deniedAnnotations : Option (List String) := none
  defaultAnnotations : Option (GoMap AnnotatedResource Core.StringMap) := none
  /-- `LoadBalancer.Disable`. -/
  disableLoadBalancer : Bool := false
  /-- `GatewayAPI.Disable`. -/
  disableGatewayAPI : Bool := false

structure Config where
  spec : Settings := {}

structure Tenant where
  spec : Settings := {}

end KubeLB.V1Alpha1
