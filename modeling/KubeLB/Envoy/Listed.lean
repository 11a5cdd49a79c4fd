import KubeLB.Envoy.Published

/-!
Contract: the ports of the objects that a snapshot is made of.

Owns: the ports in the order in which `MapSnapshot` visits them, what each of them
prints and publishes, and the theorem that `MapSnapshot` builds the resources of
exactly these ports when the objects are in one namespace.

Does not own: what remains of the resources after sorting and deduplication.
-/

set_option autoImplicit false

namespace KubeLB.Envoy

open KubeLB.Library KubeLB.Core KubeLB.V1Alpha1 KubeLB.Naming KubeLB.PortLookup

/-! ## Visited ports -/

/-- A port that `MapSnapshot` visits: of an endpoint of a LoadBalancer or of a service
of a Route. -/
inductive SnapshotPort where
  | ofLoadBalancer (lb : LoadBalancer) (index : Nat) (endpoint : LoadBalancerEndpoints)
      (port : EndpointPort)
  | ofRoute (route : Route) (svc : Service) (port : Core.ServicePort)

def loadBalancerPorts (lb : LoadBalancer) : List SnapshotPort :=
  lb.spec.endpoints.zipIdx.flatMap (fun indexed =>
    indexed.1.ports.map (.ofLoadBalancer lb indexed.2 indexed.1))

def routePorts (route : Route) : List SnapshotPort :=
  (routeServices route).flatMap (fun svc => svc.spec.ports.map (.ofRoute route svc))

/-- All ports, in the order of the loops of `MapSnapshot`. -/
def snapshotPorts (loadBalancers : List LoadBalancer) (routes : List Route) :
    List SnapshotPort :=
  loadBalancers.flatMap loadBalancerPorts ++ routes.flatMap routePorts

namespace SnapshotPort

/-- Allocator key, identifier, number and protocol of a port. -/
def entry : SnapshotPort → PortEntry
  | ofLoadBalancer lb index _ port =>
      ⟨envoyEndpointPattern lb.metadata.ns lb.metadata.name index,
        envoyEndpointPattern lb.metadata.ns lb.metadata.name index, port.port, port.protocol⟩
  | ofRoute route svc port =>
      ⟨routeEndpointKey route svc, serviceIdentifier route svc, port.port, port.protocol⟩

/-- The name that is printed for the listener and the cluster of a port. -/
def name (port : SnapshotPort) : String := port.entry.listenerName

/-- The addresses behind a port, read without the cache. -/
def addresses (client : AddressesClient) : SnapshotPort → List EndpointAddress
  | ofLoadBalancer lb _ endpoint _ => endpointAddresses client lb.metadata.ns endpoint
  | ofRoute route _ _ =>
      (route.spec.endpoints.map (endpointAddresses client route.metadata.ns)).flatten

/-- The port at those addresses: the endpoint port itself, or the node port of the
service port. -/
def upstreamPort : SnapshotPort → Int32
  | ofLoadBalancer _ _ _ port => port.port
  | ofRoute _ _ port => port.nodePort

/-- The endpoints that a port is to lead to. -/
def lbEndpoints (client : AddressesClient) (port : SnapshotPort) : List LbEndpoint :=
  (port.addresses client).map (fun addr => makeEndpoint addr port.upstreamPort.toUInt32)

def discoveryType (client : AddressesClient) (port : SnapshotPort) : DiscoveryType :=
  pickClusterDiscoveryType (port.addresses client)

/-- Connections are spread by their source address. -/
def hashesSource : SnapshotPort → Bool
  | ofLoadBalancer lb _ _ port => isSourceIP lb.spec.persistence && decide port.protocol.Served
  | ofRoute _ _ _ => false

/-- The HTTP version towards the endpoints, for a Route of an HTTP kind whose backend
does not speak TLS itself. -/
def upstreamProtocol : SnapshotPort → Option UpstreamProtocol
  | ofLoadBalancer _ _ _ _ => none
  | ofRoute route _ _ =>
      if isHTTPRoute (getRouteKind route) && !isTLSBackend route then
        if getRouteKind route = "GRPCRoute" then some .http2 else some .http1
      else none

def proxyProtocol : SnapshotPort → Bool
  | ofLoadBalancer lb _ _ port => decide (port.protocol = .tcp) &&
      decide (lb.metadata.annotations.get annotationProxyProtocol = "v2")
  | ofRoute _ _ _ => false

/-- What `MapSnapshot` builds for a port from the addresses read without the cache. -/
def resources (client : AddressesClient) (pa : PortAllocator) (headerLimits : HeaderLimits) :
    SnapshotPort → PortResources
  | ofLoadBalancer lb index endpoint port =>
      loadBalancerPortResources pa headerLimits lb index
        (endpointAddresses client lb.metadata.ns endpoint) port
  | ofRoute route svc port =>
      routePortResources pa headerLimits route
        (route.spec.endpoints.map (endpointAddresses client route.metadata.ns)) svc port

/-! ## The resources of one port -/

section Resources

variable (client : AddressesClient) (pa : PortAllocator) (headerLimits : HeaderLimits)
  (port : SnapshotPort)

theorem resources_loadAssignment :
    (port.resources client pa headerLimits).loadAssignment =
      ⟨port.name, port.lbEndpoints client⟩ := by
  cases port with
  | ofLoadBalancer lb index endpoint port =>
      simp [resources, loadBalancerPortResources, name, entry, PortEntry.listenerName,
        lbEndpoints, addresses, upstreamPort, envoyResourceIdentifierPattern,
        envoyEndpointPattern]
  | ofRoute route svc port => rfl

theorem resources_cluster :
    (port.resources client pa headerLimits).cluster =
      { name := port.name
        discoveryType := port.discoveryType client
        loadAssignment :=
          match port.discoveryType client with
          | .strictDNS => some ⟨port.name, port.lbEndpoints client⟩
          | .eds => none
        healthCheck := decide (port.entry.protocol ≠ .udp)
        tcpKeepalive := decide (port.entry.protocol ≠ .udp)
        maglev := port.hashesSource
        upstreamHTTP := port.upstreamProtocol.map (fun protocol =>
          ⟨protocol, headerLimits.maxRequestHeadersCount, headerLimits.maxResponseHeadersKb⟩)
        proxyProtocol := port.proxyProtocol } := by
  have assignment := resources_loadAssignment client pa headerLimits port
  cases port with
  | ofLoadBalancer lb index endpoint port =>
      simp only [resources, loadBalancerPortResources] at assignment ⊢
      simp only [assignment, makeCluster, Cluster.mk.injEq]
      refine ⟨congrArg ClusterLoadAssignment.clusterName assignment, rfl, rfl, rfl, rfl, rfl,
        ?_, rfl⟩
      simp [upstreamProtocol, isHTTPRoute]
  | ofRoute route svc port =>
      simp only [resources, routePortResources, makeCluster, Cluster.mk.injEq]
      refine ⟨rfl, rfl, rfl, rfl, rfl, rfl, ?_, rfl⟩
      simp only [upstreamProtocol]
      cases isHTTP : isHTTPRoute (getRouteKind route) && !isTLSBackend route with
      | false => simp [isHTTPRoute]
      | true =>
          have isKind := (Bool.and_eq_true_iff.mp isHTTP).1
          by_cases isGRPC : getRouteKind route = "GRPCRoute" <;> simp [isGRPC, isKind]

theorem resources_listenerAt :
    (port.resources client pa headerLimits).listenerAt = port.entry.listenerAt pa := by
  cases port with
  | ofLoadBalancer lb index endpoint port =>
      exact loadBalancerPortResources_listenerAt pa headerLimits lb index _ port
  | ofRoute route svc port => exact routePortResources_listenerAt pa headerLimits route _ svc port

theorem isSome_upstreamProtocol_ofRoute (route : Route) (svc : Service)
    (port : Core.ServicePort) :
    (ofRoute route svc port).upstreamProtocol.isSome =
      (isHTTPRoute (getRouteKind route) && !isTLSBackend route) := by
  simp only [upstreamProtocol]
  cases isHTTPRoute (getRouteKind route) && !isTLSBackend route with
  | false => rfl
  | true =>
      rw [if_pos rfl]
      split <;> rfl

theorem resources_listener (served : port.entry.protocol.Served) :
    (port.resources client pa headerLimits).listener = some
      { name := port.name
        address := port.entry.bindAddress pa
        filter :=
          if port.entry.protocol = .udp then .udpProxy port.name port.hashesSource
          else if port.upstreamProtocol.isSome then
            .httpConnectionManager port.name headerLimits.maxRequestHeadersKb
              headerLimits.maxRequestHeadersCount
          else .tcpProxy port.name port.hashesSource } := by
  have isName := congrArg ClusterLoadAssignment.clusterName
    (resources_loadAssignment client pa headerLimits port)
  cases port with
  | ofLoadBalancer lb index endpoint port =>
      obtain ⟨portName, number, protocol⟩ := port
      simp only [resources, loadBalancerPortResources] at isName ⊢
      rcases served with isTCP | isUDP
      · obtain rfl : protocol = .tcp := isTCP
        simp [isName, makeTCPListener, upstreamProtocol, hashesSource, Protocol.Served, entry,
          PortEntry.bindAddress, socketProtocol]
      · obtain rfl : protocol = .udp := isUDP
        simp [isName, makeUDPListener, hashesSource, Protocol.Served, entry,
          PortEntry.bindAddress, socketProtocol]
  | ofRoute route svc port =>
      obtain ⟨portName, protocol, number, targetPort, nodePort⟩ := port
      simp only [resources, routePortResources] at isName ⊢
      rcases served with isTCP | isUDP
      · obtain rfl : protocol = .tcp := isTCP
        rw [isSome_upstreamProtocol_ofRoute]
        cases isHTTPRoute (getRouteKind route) && !isTLSBackend route <;>
          simp [isName, makeRouteListener, makeTCPListener, makeHTTPListener, hashesSource, entry,
            PortEntry.bindAddress, socketProtocol, isSourceIP]
      · obtain rfl : protocol = .udp := isUDP
        simp [isName, makeRouteListener, makeUDPListener, hashesSource, entry,
          PortEntry.bindAddress, socketProtocol, isSourceIP]

end Resources

end SnapshotPort

/-! ## All ports -/

theorem map_entry_snapshotPorts (loadBalancers : List LoadBalancer) (routes : List Route) :
    (snapshotPorts loadBalancers routes).map SnapshotPort.entry =
      portEntries loadBalancers routes := by
  simp only [snapshotPorts, loadBalancerPorts, routePorts, portEntries, portGroups,
    loadBalancerGroups, routeGroups, PortGroup.entries, List.map_append, List.flatMap_append,
    List.map_flatMap, List.flatMap_map, List.flatMap_assoc, List.map_map, Function.comp_def,
    SnapshotPort.entry]

theorem mem_servedEntries_iff {loadBalancers : List LoadBalancer} {routes : List Route}
    {entry : PortEntry} :
    entry ∈ servedEntries loadBalancers routes ↔
      ∃ port ∈ snapshotPorts loadBalancers routes, port.entry = entry ∧
        entry.protocol.Served := by
  rw [servedEntries, ← map_entry_snapshotPorts]
  simp only [List.mem_filter, List.mem_map, decide_eq_true_eq]
  constructor
  · rintro ⟨⟨port, member, isEntry⟩, served⟩
    exact ⟨port, member, isEntry, served⟩
  · rintro ⟨port, member, isEntry, served⟩
    exact ⟨⟨port, member, isEntry⟩, served⟩

structure AllReadable (client : AddressesClient) (ns : String)
    (loadBalancers : List LoadBalancer) (routes : List Route) : Prop where
  loadBalancers : ∀ lb ∈ loadBalancers, ∀ endpoint ∈ lb.spec.endpoints,
    Readable client ns endpoint
  routes : ∀ route ∈ routes, route.spec.source.isSome → ∀ endpoint ∈ route.spec.endpoints,
    Readable client ns endpoint

structure InNamespace (ns : String) (loadBalancers : List LoadBalancer) (routes : List Route) :
    Prop where
  loadBalancers : ∀ lb ∈ loadBalancers, lb.metadata.ns = ns
  routes : ∀ route ∈ routes, route.metadata.ns = ns

section Built

variable {client : AddressesClient} {ns : String} {loadBalancers : List LoadBalancer}
  {routes : List Route} {pa : PortAllocator} {headerLimits : HeaderLimits}
  {built : List PortResources}

theorem loadBalancerResources_eq (lb : LoadBalancer) :
    loadBalancerResources pa headerLimits lb
        (lb.spec.endpoints.map (endpointAddresses client lb.metadata.ns)) =
      (loadBalancerPorts lb).map (SnapshotPort.resources client pa headerLimits) := by
  have zipped : lb.spec.endpoints.zipIdx.zip
      (lb.spec.endpoints.map (endpointAddresses client lb.metadata.ns)) =
      lb.spec.endpoints.zipIdx.map (fun indexed =>
        (indexed, endpointAddresses client lb.metadata.ns indexed.1)) := by
    generalize lb.spec.endpoints = endpoints
    generalize 0 = start
    induction endpoints generalizing start with
    | nil => rfl
    | cons endpoint endpoints ih =>
        simp [List.zipIdx_cons, ih]
  simp only [loadBalancerResources, zipped, loadBalancerPorts, List.flatMap_map,
    List.map_flatMap, List.map_map]
  rfl

theorem routeResources_eq (route : Route) :
    routeResources pa headerLimits route
        (route.spec.endpoints.map (endpointAddresses client route.metadata.ns)) =
      (routePorts route).map (SnapshotPort.resources client pa headerLimits) := by
  simp only [routeResources, routePorts, List.map_flatMap, List.map_map]
  rfl

/-- In one namespace `MapSnapshot` builds the resources of the visited ports, provided
that all addresses can be read. -/
theorem buildResources_ok_iff (inNamespace : InNamespace ns loadBalancers routes) :
    buildResources client loadBalancers routes pa headerLimits = .ok built ↔
      AllReadable client ns loadBalancers routes ∧
      built = (snapshotPorts loadBalancers routes).map
        (SnapshotPort.resources client pa headerLimits) := by
  have listed : loadBalancers.flatMap (fun lb => loadBalancerResources pa headerLimits lb
        (lb.spec.endpoints.map (endpointAddresses client ns))) ++
      routes.flatMap (fun route => routeResources pa headerLimits route
        (route.spec.endpoints.map (endpointAddresses client ns))) =
      (snapshotPorts loadBalancers routes).map
        (SnapshotPort.resources client pa headerLimits) := by
    simp only [snapshotPorts, List.map_append, List.map_flatMap]
    congr 1
    · apply List.flatMap_congr
      intro lb member
      rw [← inNamespace.loadBalancers lb member, loadBalancerResources_eq]
    · apply List.flatMap_congr
      intro route member
      rw [← inNamespace.routes route member, routeResources_eq]
  have shape {result : List PortResources}
      (isBuilt : buildResources client loadBalancers routes pa headerLimits = .ok result) :
      AllReadable client ns loadBalancers routes ∧
      result = (snapshotPorts loadBalancers routes).map
        (SnapshotPort.resources client pa headerLimits) := by
    unfold buildResources at isBuilt
    split at isBuilt
    · cases isBuilt
    · rename_i first addressesMap isFirst
      split at isBuilt
      · cases isBuilt
      · rename_i second last isSecond
        cases isBuilt
        obtain ⟨readable, rfl, sound⟩ :=
          mapLoadBalancers_ok inNamespace.loadBalancers (cacheSound_empty client ns) isFirst
        obtain ⟨readableRoutes, rfl⟩ := mapRoutes_ok inNamespace.routes sound isSecond
        exact ⟨⟨readable, readableRoutes⟩, listed⟩
  constructor
  · exact shape
  · rintro ⟨readable, rfl⟩
    obtain ⟨result, isResult⟩ : ∃ result,
        buildResources client loadBalancers routes pa headerLimits = .ok result :=
      buildResources_of_readable
        (fun lb member => (inNamespace.loadBalancers lb member).symm ▸
          readable.loadBalancers lb member)
        (fun route member => (inNamespace.routes route member).symm ▸
          readable.routes route member)
        pa headerLimits
    rw [isResult, (shape isResult).2]

end Built

end KubeLB.Envoy
