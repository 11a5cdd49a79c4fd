import KubeLB.Envoy.Snapshot
import KubeLB.PortLookup.HeldPorts

/-!
Contract: the listeners of a snapshot, seen as one entry for each port of each
stored object.

Owns: the entries of LoadBalancers and Routes with the allocator key and the
xDS identifier of each, and the theorem that the listeners `MapSnapshot` builds
are exactly those of the served entries.

Does not own: when names and bind addresses of different entries differ.
-/

set_option autoImplicit false

namespace KubeLB.Envoy

open KubeLB.Library KubeLB.Core KubeLB.V1Alpha1 KubeLB.Naming KubeLB.PortLookup

/-- The ports of one LoadBalancer endpoint or one Route service, with the two
texts that are printed for it. -/
structure PortGroup where
  endpointKey : String
  identifier : String
  ports : List (Int32 × Protocol)
  deriving DecidableEq

def loadBalancerGroups (lb : LoadBalancer) : List PortGroup :=
  lb.spec.endpoints.zipIdx.map (fun indexed =>
    { endpointKey := envoyEndpointPattern lb.metadata.ns lb.metadata.name indexed.2
      identifier := envoyEndpointPattern lb.metadata.ns lb.metadata.name indexed.2
      ports := indexed.1.ports.map (fun port => (port.port, port.protocol)) })

/-- What is printed before the port in the xDS name of a Route's service. -/
def serviceIdentifier (route : Route) (svc : Service) : String :=
  routeIdentifier route.metadata.ns svc.metadata.ns svc.metadata.name
    (getOriginalRouteNamespace route) (getOriginalRouteName route)

def routeGroups (route : Route) : List PortGroup :=
  (routeServices route).map (fun svc =>
    { endpointKey := routeEndpointKey route svc
      identifier := serviceIdentifier route svc
      ports := svc.spec.ports.map (fun port => (port.port, port.protocol)) })

/-- All groups, in the order of the loops of `MapSnapshot`. -/
def portGroups (loadBalancers : List LoadBalancer) (routes : List Route) : List PortGroup :=
  loadBalancers.flatMap loadBalancerGroups ++ routes.flatMap routeGroups

/-- The allocation that the mapper makes for a group. -/
def PortGroup.slot (group : PortGroup) : Slot where
  endpointKey := group.endpointKey
  portKeys := group.ports.map (fun port => envoyListenerPattern port.1 port.2)

theorem loadBalancerSlots_eq (lb : LoadBalancer) :
    loadBalancerSlots lb = (loadBalancerGroups lb).map PortGroup.slot := by
  simp [loadBalancerSlots, loadBalancerGroups, PortGroup.slot, Function.comp_def]

theorem routeSlots_eq (route : Route) :
    routeSlots route = (routeGroups route).map PortGroup.slot := by
  simp [routeSlots, routeGroups, PortGroup.slot, servicePortKeys, Function.comp_def]

/-! ## Entries -/

/-- One port of a group. -/
structure PortEntry where
  endpointKey : String
  identifier : String
  port : Int32
  protocol : Protocol
  deriving DecidableEq

def PortGroup.entries (group : PortGroup) : List PortEntry :=
  group.ports.map (fun port => ⟨group.endpointKey, group.identifier, port.1, port.2⟩)

def portEntries (loadBalancers : List LoadBalancer) (routes : List Route) : List PortEntry :=
  (portGroups loadBalancers routes).flatMap PortGroup.entries

/-- The entries for which a listener is opened. -/
def servedEntries (loadBalancers : List LoadBalancer) (routes : List Route) :
    List PortEntry :=
  (portEntries loadBalancers routes).filter (fun entry => decide entry.protocol.Served)

def PortEntry.listenerName (entry : PortEntry) : String :=
  entry.identifier ++ portSuffix entry.port entry.protocol

/-- The socket protocol of a listener; only `UDP` is not served over TCP. -/
def socketProtocol : Protocol → SocketProtocol
  | .udp => .udp
  | _ => .tcp

def PortEntry.bindAddress (pa : PortAllocator) (entry : PortEntry) : SocketAddress where
  protocol := socketProtocol entry.protocol
  address := wildcardBindAddress
  portValue := listenerPort pa entry.endpointKey entry.port entry.protocol

/-- Name and bind address of the listener of an entry. -/
def PortEntry.listenerAt (pa : PortAllocator) (entry : PortEntry) :
    Option (String × SocketAddress) :=
  if entry.protocol.Served then some (entry.listenerName, entry.bindAddress pa) else none

def PortResources.listenerAt (resources : PortResources) : Option (String × SocketAddress) :=
  resources.listener.map (fun listener => (listener.name, listener.address))

theorem loadBalancerPortResources_listenerAt (pa : PortAllocator)
    (headerLimits : HeaderLimits) (lb : LoadBalancer) (index : Nat)
    (addresses : List EndpointAddress) (port : EndpointPort) :
    (loadBalancerPortResources pa headerLimits lb index addresses port).listenerAt =
      PortEntry.listenerAt pa
        ⟨envoyEndpointPattern lb.metadata.ns lb.metadata.name index,
          envoyEndpointPattern lb.metadata.ns lb.metadata.name index,
          port.port, port.protocol⟩ := by
  obtain ⟨name, number, protocol⟩ := port
  cases protocol <;>
    simp [loadBalancerPortResources, PortResources.listenerAt, PortEntry.listenerAt,
      PortEntry.listenerName, PortEntry.bindAddress, makeTCPListener, makeUDPListener,
      Protocol.Served, socketProtocol, envoyResourceIdentifierPattern, envoyEndpointPattern]

theorem routePortResources_listenerAt (pa : PortAllocator) (headerLimits : HeaderLimits)
    (route : Route) (addresses : List (List EndpointAddress)) (svc : Service)
    (port : Core.ServicePort) :
    (routePortResources pa headerLimits route addresses svc port).listenerAt =
      PortEntry.listenerAt pa
        ⟨routeEndpointKey route svc, serviceIdentifier route svc,
          port.port, port.protocol⟩ := by
  obtain ⟨name, protocol, number, targetPort, nodePort⟩ := port
  cases protocol with
  | tcp =>
      simp only [routePortResources, PortResources.listenerAt, PortEntry.listenerAt,
        makeRouteListener, Protocol.Served]
      split <;> rfl
  | udp => rfl
  | sctp => rfl
  | other spelling unlisted => rfl

/-! ## Built listeners -/

theorem resolveRouteAddresses_length {client : AddressesClient} {ns : String}
    {endpoints : List LoadBalancerEndpoints} {addressesMap after : AddressesMap}
    {addresses : List (List EndpointAddress)}
    (resolved : resolveRouteAddresses client ns endpoints addressesMap =
      .ok (addresses, after)) :
    addresses.length = endpoints.length := by
  induction endpoints generalizing addressesMap addresses with
  | nil =>
      cases resolved
      rfl
  | cons endpoint endpoints ih =>
      simp only [resolveRouteAddresses] at resolved
      split at resolved
      · cases resolved
      · split at resolved
        · cases resolved
        · rename_i others later isLater
          cases resolved
          simp [ih isLater]

/-- What `view` reads of the resources of a port is what `viewOf` says of its entry. -/
structure ReadsEntry {τ : Type} (pa : PortAllocator) (headerLimits : HeaderLimits)
    (view : PortResources → τ) (viewOf : PortEntry → τ) : Prop where
  loadBalancer : ∀ (lb : LoadBalancer) (index : Nat) (addresses : List EndpointAddress)
    (port : EndpointPort),
    view (loadBalancerPortResources pa headerLimits lb index addresses port) =
      viewOf
        ⟨envoyEndpointPattern lb.metadata.ns lb.metadata.name index,
          envoyEndpointPattern lb.metadata.ns lb.metadata.name index, port.port, port.protocol⟩
  route : ∀ (route : Route) (addresses : List (List EndpointAddress)) (svc : Service)
    (port : Core.ServicePort),
    view (routePortResources pa headerLimits route addresses svc port) =
      viewOf
        ⟨routeEndpointKey route svc, serviceIdentifier route svc, port.port, port.protocol⟩

section Views

variable {τ : Type} {pa : PortAllocator} {headerLimits : HeaderLimits}
  {view : PortResources → τ} {viewOf : PortEntry → τ}

theorem ReadsEntry.loadBalancerResources (reads : ReadsEntry pa headerLimits view viewOf)
    (lb : LoadBalancer) (addresses : List (List EndpointAddress))
    (complete : addresses.length = lb.spec.endpoints.length) :
    (loadBalancerResources pa headerLimits lb addresses).map view =
      ((loadBalancerGroups lb).flatMap PortGroup.entries).map viewOf := by
  have zipped : ((lb.spec.endpoints.zipIdx.zip addresses).map Prod.fst) =
      lb.spec.endpoints.zipIdx :=
    List.map_fst_zip (by simp [complete])
  have byEndpoint : (lb.spec.endpoints.zipIdx.zip addresses).flatMap (fun resolved =>
        resolved.1.1.ports.map (fun port => viewOf
          ⟨envoyEndpointPattern lb.metadata.ns lb.metadata.name resolved.1.2,
            envoyEndpointPattern lb.metadata.ns lb.metadata.name resolved.1.2,
            port.port, port.protocol⟩)) =
      ((lb.spec.endpoints.zipIdx.zip addresses).map Prod.fst).flatMap (fun indexed =>
        indexed.1.ports.map (fun port => viewOf
          ⟨envoyEndpointPattern lb.metadata.ns lb.metadata.name indexed.2,
            envoyEndpointPattern lb.metadata.ns lb.metadata.name indexed.2,
            port.port, port.protocol⟩)) := by
    rw [List.flatMap_map]
  simp only [Envoy.loadBalancerResources, List.map_flatMap, List.map_map, Function.comp_def,
    reads.loadBalancer]
  rw [byEndpoint, zipped]
  simp [loadBalancerGroups, PortGroup.entries, List.flatMap_map, Function.comp_def]

theorem ReadsEntry.routeResources (reads : ReadsEntry pa headerLimits view viewOf)
    (route : Route) (addresses : List (List EndpointAddress)) :
    (routeResources pa headerLimits route addresses).map view =
      ((routeGroups route).flatMap PortGroup.entries).map viewOf := by
  simp [Envoy.routeResources, routeGroups, PortGroup.entries, List.map_flatMap, List.flatMap_map,
    Function.comp_def, reads.route]

private theorem mapLoadBalancers_view (reads : ReadsEntry pa headerLimits view viewOf)
    {client : AddressesClient} {loadBalancers : List LoadBalancer}
    {addressesMap after : AddressesMap} {built : List PortResources}
    (mapped : mapLoadBalancers client pa headerLimits loadBalancers addressesMap =
      .ok (built, after)) :
    built.map view =
      ((loadBalancers.flatMap loadBalancerGroups).flatMap PortGroup.entries).map viewOf := by
  induction loadBalancers generalizing addressesMap built with
  | nil =>
      cases mapped
      rfl
  | cons lb loadBalancers ih =>
      simp only [mapLoadBalancers] at mapped
      split at mapped
      · cases mapped
      · rename_i addresses later isResolved
        split at mapped
        · cases mapped
        · rename_i others last isMapped
          cases mapped
          rw [List.map_append, ih isMapped,
            reads.loadBalancerResources _ _ (resolveRouteAddresses_length isResolved)]
          simp

private theorem mapRoutes_view (reads : ReadsEntry pa headerLimits view viewOf)
    {client : AddressesClient} {routes : List Route} {addressesMap after : AddressesMap}
    {built : List PortResources}
    (mapped : mapRoutes client pa headerLimits routes addressesMap = .ok (built, after)) :
    built.map view = ((routes.flatMap routeGroups).flatMap PortGroup.entries).map viewOf := by
  induction routes generalizing addressesMap built with
  | nil =>
      cases mapped
      rfl
  | cons route routes ih =>
      simp only [mapRoutes] at mapped
      split at mapped
      · rename_i isNone
        have noServices : routeGroups route = [] := by
          simp [routeGroups, routeServices, Option.isNone_iff_eq_none.mp isNone]
        rw [ih mapped]
        simp [noServices]
      · split at mapped
        · cases mapped
        · split at mapped
          · cases mapped
          · rename_i others last isMapped
            cases mapped
            rw [List.map_append, ih isMapped, reads.routeResources]
            simp

/-- What `MapSnapshot` builds, read port by port, follows the entries in order. -/
theorem ReadsEntry.buildResources (reads : ReadsEntry pa headerLimits view viewOf)
    {client : AddressesClient} {loadBalancers : List LoadBalancer} {routes : List Route}
    {built : List PortResources}
    (isBuilt : buildResources client loadBalancers routes pa headerLimits = .ok built) :
    built.map view = (portEntries loadBalancers routes).map viewOf := by
  unfold Envoy.buildResources at isBuilt
  split at isBuilt
  · cases isBuilt
  · rename_i first addressesMap isFirst
    split at isBuilt
    · cases isBuilt
    · rename_i second last isSecond
      cases isBuilt
      rw [List.map_append, mapLoadBalancers_view reads isFirst, mapRoutes_view reads isSecond]
      simp [portEntries, portGroups]

end Views

section Built

variable {client : AddressesClient} {loadBalancers : List LoadBalancer} {routes : List Route}
  {pa : PortAllocator} {headerLimits : HeaderLimits} {built : List PortResources}
  (isBuilt : buildResources client loadBalancers routes pa headerLimits = .ok built)
include isBuilt

theorem buildResources_listenerAt :
    built.map PortResources.listenerAt =
      (portEntries loadBalancers routes).map (PortEntry.listenerAt pa) := by
  have reads : ReadsEntry pa headerLimits PortResources.listenerAt (PortEntry.listenerAt pa) :=
    ⟨loadBalancerPortResources_listenerAt pa headerLimits,
      routePortResources_listenerAt pa headerLimits⟩
  exact reads.buildResources isBuilt

end Built

/-- The listener slice before sorting: one listener for each served entry. -/
theorem built_listeners {client : AddressesClient}
    {loadBalancers : List LoadBalancer} {routes : List Route} {pa : PortAllocator}
    {headerLimits : HeaderLimits} {built : List PortResources}
    (isBuilt : buildResources client loadBalancers routes pa headerLimits = .ok built) :
    (built.filterMap PortResources.listener).map
        (fun listener => (listener.name, listener.address)) =
      (servedEntries loadBalancers routes).map
        (fun entry => (entry.listenerName, entry.bindAddress pa)) := by
  have asFilterMap := congrArg (List.filterMap id) (buildResources_listenerAt isBuilt)
  rw [List.filterMap_map, List.filterMap_map] at asFilterMap
  have left : (built.filterMap PortResources.listener).map
      (fun listener => (listener.name, listener.address)) =
      built.filterMap PortResources.listenerAt := by
    rw [List.map_filterMap]
    rfl
  have right : (servedEntries loadBalancers routes).map
      (fun entry => (entry.listenerName, entry.bindAddress pa)) =
      (portEntries loadBalancers routes).filterMap (PortEntry.listenerAt pa) := by
    rw [servedEntries, ← List.filterMap_eq_map, List.filterMap_filter]
    apply List.filterMap_congr
    intro entry _
    simp [PortEntry.listenerAt]
  rw [left, right]
  exact asFilterMap

end KubeLB.Envoy
