import KubeLB.Envoy.Resource
import KubeLB.Library.Slices
import KubeLB.PortLookup.Mapper

/-!
Contract: `MapSnapshot`.

Owns: the resources of every LoadBalancer port and Route service port, the cache
of referenced addresses, the sorting, the removal of listeners on a taken
address, and the snapshot.

Does not own: the wire encoding and hash, which are a parameter. Every caller
passes an allocator, so a nil allocator is not modelled. The snapshot name is
used for metrics only.
-/

set_option autoImplicit false

namespace KubeLB.Envoy

open KubeLB.Library KubeLB.Core KubeLB.V1Alpha1 KubeLB.Naming KubeLB.PortLookup

/-! ## The resources of one port -/

/-- What one port adds to the three resource slices. -/
structure PortResources where
  listener : Option Listener
  cluster : Cluster
  loadAssignment : ClusterLoadAssignment
  deriving DecidableEq, Repr

/-- The load assignment is a resource of its own for EDS clusters only. -/
def PortResources.endpoints (resources : PortResources) : List ClusterLoadAssignment :=
  if resources.cluster.discoveryType = .eds then [resources.loadAssignment] else []

/-- The port a listener binds: the allocated one, else the port itself. -/
def listenerPort (pa : PortAllocator) (endpointKey : String) (port : Int32)
    (protocol : Protocol) : UInt32 :=
  match pa.lookup endpointKey (envoyListenerPattern port protocol) with
  | some value => UInt32.ofInt value
  | none => port.toUInt32

def annotationProxyProtocol : String := "kubelb.k8c.io/proxy-protocol"

/-- The loop body of `MapSnapshot` for one port of a LoadBalancer endpoint. -/
def loadBalancerPortResources (pa : PortAllocator) (headerLimits : HeaderLimits)
    (lb : LoadBalancer) (index : Nat) (addresses : List EndpointAddress)
    (port : EndpointPort) : PortResources :=
  let key := envoyResourceIdentifierPattern lb.metadata.ns lb.metadata.name index
    port.port port.protocol
  let bindPort := listenerPort pa
    (envoyEndpointPattern lb.metadata.ns lb.metadata.name index) port.port port.protocol
  let proxyProtocol := decide (port.protocol = .tcp) &&
    decide (lb.metadata.annotations.get annotationProxyProtocol = "v2")
  let cla : ClusterLoadAssignment :=
    ⟨key, addresses.map (fun addr => makeEndpoint addr port.port.toUInt32)⟩
  { listener :=
      match port.protocol with
      | .tcp => some (makeTCPListener key key bindPort lb.spec.persistence)
      | .udp => some (makeUDPListener key key bindPort lb.spec.persistence)
      | _ => none
    cluster := makeCluster key port.protocol "" proxyProtocol lb.spec.persistence
      (pickClusterDiscoveryType addresses) cla headerLimits
    loadAssignment := cla }

/-- The loop body of `MapSnapshot` for one port of a Route's service. `addresses`
are the addresses of the Route's endpoints. -/
def routePortResources (pa : PortAllocator) (headerLimits : HeaderLimits) (route : Route)
    (addresses : List (List EndpointAddress)) (svc : Service) (port : Core.ServicePort) :
    PortResources :=
  let routeKind := getRouteKind route
  let useHTTPListener := isHTTPRoute routeKind && !isTLSBackend route
  let clusterRouteKind := if useHTTPListener then routeKind else ""
  let key := envoyRoutePortIdentifierPattern route.metadata.ns svc.metadata.ns
    svc.metadata.name (getOriginalRouteNamespace route) (getOriginalRouteName route)
    port.port port.protocol
  let bindPort := listenerPort pa (routeEndpointKey route svc) port.port port.protocol
  let cla : ClusterLoadAssignment :=
    ⟨key, addresses.flatten.map (fun addr => makeEndpoint addr port.nodePort.toUInt32)⟩
  { listener := makeRouteListener key bindPort port.protocol useHTTPListener headerLimits
    cluster := makeCluster key port.protocol clusterRouteKind false none
      (pickClusterDiscoveryType addresses.flatten) cla headerLimits
    loadAssignment := cla }

/-! ## Referenced addresses -/

inductive SnapshotError where
  | failedToGetAddresses (cause : ApiError)
  | failedToMarshalResource (cause : ApiError)
  deriving DecidableEq, Repr

/-- `client.Get` of an Addresses object by namespace and name. -/
abbrev AddressesClient := String → String → Except ApiError (List EndpointAddress)

/-- `addressesMap`, the cache of one `MapSnapshot` call. -/
abbrev AddressesMap := GoMap String (List EndpointAddress)

def endpointAddressReferencePattern (ns name : String) : String := ns ++ "-address-" ++ name

/-- The addresses of one endpoint: its own, or the referenced ones, read once and
then taken from the cache. -/
def resolveAddresses (client : AddressesClient) (ns : String)
    (endpoint : LoadBalancerEndpoints) (addressesMap : AddressesMap) :
    Except SnapshotError (List EndpointAddress × AddressesMap) :=
  match endpoint.addressesReference with
  | none => .ok (endpoint.addresses, addressesMap)
  | some name =>
      let cacheKey := endpointAddressReferencePattern ns name
      match addressesMap.lookup cacheKey with
      | some addresses => .ok (addresses, addressesMap)
      | none =>
          match client ns name with
          | .error cause => .error (.failedToGetAddresses cause)
          | .ok addresses => .ok (addresses, addressesMap.insert cacheKey addresses)

/-- `resolveRouteAddresses`, likewise the resolving part of the LoadBalancer loop:
the addresses of each endpoint in order. -/
def resolveRouteAddresses (client : AddressesClient) (ns : String) :
    List LoadBalancerEndpoints → AddressesMap →
    Except SnapshotError (List (List EndpointAddress) × AddressesMap)
  | [], addressesMap => .ok ([], addressesMap)
  | endpoint :: endpoints, addressesMap =>
      match resolveAddresses client ns endpoint addressesMap with
      | .error error => .error error
      | .ok (addresses, addressesMap) =>
          match resolveRouteAddresses client ns endpoints addressesMap with
          | .error error => .error error
          | .ok (others, addressesMap) => .ok (addresses :: others, addressesMap)

/-! ## All ports -/

/-- The resources of a LoadBalancer whose endpoint addresses are known. -/
def loadBalancerResources (pa : PortAllocator) (headerLimits : HeaderLimits)
    (lb : LoadBalancer) (addresses : List (List EndpointAddress)) : List PortResources :=
  (lb.spec.endpoints.zipIdx.zip addresses).flatMap (fun resolved =>
    resolved.1.1.ports.map
      (loadBalancerPortResources pa headerLimits lb resolved.1.2 resolved.2))

/-- The resources of a Route whose endpoint addresses are known. -/
def routeResources (pa : PortAllocator) (headerLimits : HeaderLimits) (route : Route)
    (addresses : List (List EndpointAddress)) : List PortResources :=
  (routeServices route).flatMap (fun svc =>
    svc.spec.ports.map (routePortResources pa headerLimits route addresses svc))

/-- The LoadBalancer loop of `MapSnapshot`. -/
def mapLoadBalancers (client : AddressesClient) (pa : PortAllocator)
    (headerLimits : HeaderLimits) :
    List LoadBalancer → AddressesMap → Except SnapshotError (List PortResources × AddressesMap)
  | [], addressesMap => .ok ([], addressesMap)
  | lb :: loadBalancers, addressesMap =>
      match resolveRouteAddresses client lb.metadata.ns lb.spec.endpoints addressesMap with
      | .error error => .error error
      | .ok (addresses, addressesMap) =>
          match mapLoadBalancers client pa headerLimits loadBalancers addressesMap with
          | .error error => .error error
          | .ok (others, addressesMap) =>
              .ok (loadBalancerResources pa headerLimits lb addresses ++ others, addressesMap)

/-- The Route loop of `MapSnapshot`; a Route without a source is skipped before
its addresses are read. -/
def mapRoutes (client : AddressesClient) (pa : PortAllocator) (headerLimits : HeaderLimits) :
    List Route → AddressesMap → Except SnapshotError (List PortResources × AddressesMap)
  | [], addressesMap => .ok ([], addressesMap)
  | route :: routes, addressesMap =>
      if route.spec.source.isNone then mapRoutes client pa headerLimits routes addressesMap
      else
        match resolveRouteAddresses client route.metadata.ns route.spec.endpoints
            addressesMap with
        | .error error => .error error
        | .ok (addresses, addressesMap) =>
            match mapRoutes client pa headerLimits routes addressesMap with
            | .error error => .error error
            | .ok (others, addressesMap) =>
                .ok (routeResources pa headerLimits route addresses ++ others, addressesMap)

/-- The resources of every port, in the order of the loops. -/
def buildResources (client : AddressesClient) (loadBalancers : List LoadBalancer)
    (routes : List Route) (pa : PortAllocator) (headerLimits : HeaderLimits) :
    Except SnapshotError (List PortResources) :=
  match mapLoadBalancers client pa headerLimits loadBalancers ∅ with
  | .error error => .error error
  | .ok (first, addressesMap) =>
      match mapRoutes client pa headerLimits routes addressesMap with
      | .error error => .error error
      | .ok (second, _) => .ok (first ++ second)

/-! ## The snapshot -/

/-- The text by which `dedupListenersByAddress` compares listeners. -/
def bindKey (address : SocketAddress) : String :=
  address.address ++ ":" ++ toString address.portValue.toNat ++ "/" ++ address.protocol.text

def dedupListenersByAddress (listeners : List Listener) : List Listener :=
  if listeners.length < 2 then listeners
  else keepFirst (fun listener => bindKey listener.address) listeners ∅

inductive Resource where
  | cluster (cluster : Cluster)
  | listener (listener : Listener)
  | endpoints (assignment : ClusterLoadAssignment)

/-- `envoycache.MarshalResource` and `envoycache.HashResource`. -/
structure ResourceCodec where
  marshalResource : Resource → Except ApiError (List UInt8)
  hashResource : List UInt8 → String

/-- A snapshot indexes each resource type by name; a repeated name keeps the last
resource. -/
structure Snapshot where
  version : String
  clusters : GoMap String Cluster
  listeners : GoMap String Listener
  endpoints : GoMap String ClusterLoadAssignment

/-- The bytes of all resources in order. -/
def marshalAll (codec : ResourceCodec) : List Resource → Except SnapshotError (List UInt8)
  | [] => .ok []
  | resource :: resources =>
      match codec.marshalResource resource with
      | .error cause => .error (.failedToMarshalResource cause)
      | .ok bytes =>
          match marshalAll codec resources with
          | .error error => .error error
          | .ok others => .ok (bytes ++ others)

/-- The listeners that a snapshot publishes: sorted, then without those on a
taken address. -/
def publishedListeners (sort : SliceSort String) (built : List PortResources) :
    List Listener :=
  dedupListenersByAddress (sort.run Listener.name (built.filterMap PortResources.listener))

def mapSnapshot (client : AddressesClient) (loadBalancers : List LoadBalancer)
    (routes : List Route) (pa : PortAllocator) (headerLimits : HeaderLimits)
    (sort : SliceSort String) (codec : ResourceCodec) : Except SnapshotError Snapshot :=
  match buildResources client loadBalancers routes pa headerLimits with
  | .error error => .error error
  | .ok built =>
      let cluster := sort.run Cluster.name (built.map PortResources.cluster)
      let listener := publishedListeners sort built
      let endpoints := sort.run ClusterLoadAssignment.clusterName
        (built.flatMap PortResources.endpoints)
      match marshalAll codec (cluster.map .cluster ++ listener.map .listener ++
          endpoints.map .endpoints) with
      | .error error => .error error
      | .ok content =>
          .ok
            { version := codec.hashResource content
              clusters := indexBy Cluster.name cluster
              listeners := indexBy Listener.name listener
              endpoints := indexBy ClusterLoadAssignment.clusterName endpoints }

end KubeLB.Envoy
