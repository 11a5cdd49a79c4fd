import KubeLB.Envoy.Behind
import KubeLB.Envoy.Separation
import KubeLB.LoadBalancers.ServicePorts

/-!
Contract: where the Service ports of a LoadBalancer lead.

Owns: the endpoint port that a spec port designates, and the exact condition under
which every Service port targets the published listener of that endpoint port.

Does not own: endpoints after the first one. The Service is built from the first
endpoint only.

`CreateServicePorts` searches the endpoint port by name alone, while the status
writer and the reload compare name and protocol. A reload can give two ports of one
endpoint the same port; one of their listeners is then dropped.
-/

set_option autoImplicit false

namespace KubeLB.LoadBalancers

open KubeLB.Library KubeLB.Core KubeLB.V1Alpha1 KubeLB.Naming KubeLB.PortLookup
open KubeLB.Envoy

/-- The endpoint port that a spec port designates: the one with its name and
protocol, or the one at its index when no endpoint port carries its name. -/
def designatedPort (ports : List EndpointPort) (lbPort : LoadBalancerPort) (index : Nat) :
    Option EndpointPort :=
  match ports.find? (fun port => port.name = lbPort.name ∧ port.protocol = lbPort.protocol) with
  | some port => some port
  | none =>
      if ports.any (fun port => port.name = lbPort.name) then none else ports[index]?

/-- A Service port targets the published listener of an endpoint port with the number of
the designated port and its own protocol, and the cluster behind the listener sends to that
number at the addresses of the endpoint. -/
def TargetsDesignated (client : AddressesClient) (pa : PortAllocator) (lb : LoadBalancer)
    (endpoint : LoadBalancerEndpoints) (snapshot : Snapshot) (lbPort : LoadBalancerPort × Nat)
    (port : Core.ServicePort) : Prop :=
  lbPort.1.protocol.Served →
  ∀ designated, designatedPort endpoint.ports lbPort.1 lbPort.2 = some designated →
  ∃ backend ∈ endpoint.ports, backend.port = designated.port ∧
    backend.protocol = lbPort.1.protocol ∧ ∃ listener,
      snapshot.listeners.lookup (SnapshotPort.ofLoadBalancer lb 0 endpoint backend).name =
        some listener ∧
      listener.address = (SnapshotPort.ofLoadBalancer lb 0 endpoint backend).entry.bindAddress pa ∧
      snapshot.clusterEndpoints listener.filter.cluster =
        some ((SnapshotPort.ofLoadBalancer lb 0 endpoint backend).lbEndpoints client) ∧
      port.targetPort.intValue = listener.address.portValue.toNat

/-- `CreateServicePorts` returns one Service port for each spec port, and each
leads where its spec port designates. -/
def ServiceReachesDesignated (client : AddressesClient) (pa : PortAllocator) (lb : LoadBalancer)
    (endpoint : LoadBalancerEndpoints) (snapshot : Snapshot) (existingService : Service)
    (sort : SliceSort String) : Prop :=
  ∃ created, createServicePorts sort lb existingService pa =
      some (sort.run Core.ServicePort.name created) ∧
    List.Forall₂ (fun lbPort port =>
      (∃ byIndex, endpoint.ports[lbPort.2]? = some byIndex ∧
        port = servicePort pa lb existingService endpoint.ports lbPort.1 byIndex) ∧
      TargetsDesignated client pa lb endpoint snapshot lbPort port)
      lb.spec.ports.zipIdx created

/-- The allocator has the same port for two port numbers of the first endpoint, or only the
second one has a port, which is the first number. -/
def SamePort (pa : PortAllocator) (lb : LoadBalancer) (resolved number : Int32)
    (protocol : Protocol) : Prop :=
  let held (number : Int32) := pa.lookup
    (envoyEndpointPattern lb.metadata.ns lb.metadata.name 0) (envoyListenerPattern number protocol)
  held resolved = held number ∨ (held resolved = none ∧ held number = some resolved.toInt)

/-- For every served spec port that designates an endpoint port, some endpoint port has that
number and the protocol, the search by name finds its port in the allocator, and the snapshot
shows its listener. -/
def NamesResolve (client : AddressesClient) (pa : PortAllocator)
    (loadBalancers : List LoadBalancer) (routes : List Route) (lb : LoadBalancer)
    (endpoint : LoadBalancerEndpoints) : Prop :=
  ∀ lbPort ∈ lb.spec.ports.zipIdx, lbPort.1.protocol.Served →
  ∀ byIndex, endpoint.ports[lbPort.2]? = some byIndex →
  ∀ designated, designatedPort endpoint.ports lbPort.1 lbPort.2 = some designated →
    ∃ backend ∈ endpoint.ports, backend.port = designated.port ∧
      backend.protocol = lbPort.1.protocol ∧
      SamePort pa lb (resolvedPort endpoint.ports lbPort.1 byIndex) backend.port
        backend.protocol ∧
      Shown client pa loadBalancers routes (.ofLoadBalancer lb 0 endpoint backend)

def HoldsPorts (pa : PortAllocator) (lb : LoadBalancer) (endpoint : LoadBalancerEndpoints) :
    Prop :=
  ∀ port ∈ endpoint.ports, ∃ value, pa.lookup
    (envoyEndpointPattern lb.metadata.ns lb.metadata.name 0)
    (envoyListenerPattern port.port port.protocol) = some value

/-! ## Targets -/

/-- The target port is the bind port of a held port exactly when the allocator has the same
port for both. -/
theorem target_eq_bind_iff {pa : PortAllocator} (numbers : HoldsOnly IsPortNumber pa)
    {lb : LoadBalancer} {ports : List EndpointPort} {lbPort : LoadBalancerPort}
    {byIndex : EndpointPort} {number : Int32} {value : Int}
    (found : pa.lookup (envoyEndpointPattern lb.metadata.ns lb.metadata.name 0)
      (envoyListenerPattern number lbPort.protocol) = some value)
    (existingService : Service) :
    (servicePort pa lb existingService ports lbPort byIndex).targetPort.intValue =
        (listenerPort pa (envoyEndpointPattern lb.metadata.ns lb.metadata.name 0) number
          lbPort.protocol).toNat ↔
      SamePort pa lb (resolvedPort ports lbPort byIndex) number lbPort.protocol := by
  have valid := numbers _ _ _ found
  have bind : ((listenerPort pa (envoyEndpointPattern lb.metadata.ns lb.metadata.name 0) number
      lbPort.protocol).toNat : Int) = value := by
    simp only [listenerPort, found, valid.toNat_ofInt]
    exact Int.toNat_of_nonneg valid.1
  rw [bind, servicePort_target]
  simp only [SamePort, found]
  cases isHeld : pa.lookup (envoyEndpointPattern lb.metadata.ns lb.metadata.name 0)
      (envoyListenerPattern (resolvedPort ports lbPort byIndex) lbPort.protocol) with
  | some held => simp [targetPort_of_held isHeld, (numbers _ _ _ isHeld).toInt_ofInt]
  | none => simp [targetPort_of_missing isHeld, eq_comm]

def firstSlot (lb : LoadBalancer) (endpoint : LoadBalancerEndpoints) : Slot where
  endpointKey := envoyEndpointPattern lb.metadata.ns lb.metadata.name 0
  portKeys := endpoint.ports.map (fun port => envoyListenerPattern port.port port.protocol)

theorem holdsPorts_of_allocated {loadBalancers : List LoadBalancer} {pa pa' : PortAllocator}
    {draws rest : List Draw} {lb : LoadBalancer}
    {endpoint : LoadBalancerEndpoints} {others : List LoadBalancerEndpoints}
    (isEndpoints : lb.spec.endpoints = endpoint :: others)
    (oneNamespace : ∀ other ∈ loadBalancers, other.metadata.ns = lb.metadata.ns)
    (distinctNames : (loadBalancers.map (·.metadata.name)).Nodup)
    (allocated : pa.allocatePortsForLoadBalancers loadBalancers draws = some (pa', rest))
    (member : lb ∈ loadBalancers) : HoldsPorts pa' lb endpoint := by
  have inSlots : firstSlot lb endpoint ∈ loadBalancers.flatMap loadBalancerSlots := by
    refine List.mem_flatMap.mpr ⟨lb, member, ?_⟩
    simp [loadBalancerSlots, isEndpoints, List.zipIdx_cons, firstSlot]
  have last := lastSlot_of_nodup (loadBalancerKeys_nodup oneNamespace distinctNames) inSlots
  exact fun port inPorts => ((allocateSlots_effect allocated).held last _).mpr
    (List.mem_map.mpr ⟨port, inPorts, rfl⟩)

/-! ## The exact condition -/

theorem targetsDesignated_iff {client : AddressesClient} {pa : PortAllocator} {lb : LoadBalancer}
    {endpoint : LoadBalancerEndpoints} {snapshot : Snapshot} {lbPort : LoadBalancerPort × Nat}
    {port : Core.ServicePort} :
    TargetsDesignated client pa lb endpoint snapshot lbPort port ↔
      (lbPort.1.protocol.Served →
        ∀ designated, designatedPort endpoint.ports lbPort.1 lbPort.2 = some designated →
        ∃ backend ∈ endpoint.ports, backend.port = designated.port ∧
          backend.protocol = lbPort.1.protocol ∧
          snapshot.Serves client pa (.ofLoadBalancer lb 0 endpoint backend) ∧
          port.targetPort.intValue = ((SnapshotPort.ofLoadBalancer lb 0 endpoint
            backend).entry.bindAddress pa).portValue.toNat) := by
  refine imp_congr_right fun _ => forall₂_congr fun designated _ => exists_congr fun backend =>
    and_congr_right fun _ => and_congr_right fun _ => and_congr_right fun _ => ?_
  constructor
  · rintro ⟨listener, found, address, behind, isTarget⟩
    exact ⟨⟨listener, found, address, behind⟩, address ▸ isTarget⟩
  · rintro ⟨⟨listener, found, address, behind⟩, isTarget⟩
    exact ⟨listener, found, address, behind, address ▸ isTarget⟩

/-- The name and the endpoints of an endpoint port depend on its number and protocol only. -/
theorem serves_of_sameNumber {client : AddressesClient} {pa : PortAllocator} {lb : LoadBalancer}
    {endpoint : LoadBalancerEndpoints} {snapshot : Snapshot} {port other : EndpointPort}
    (sameNumber : other.port = port.port) (sameProtocol : other.protocol = port.protocol)
    (serves : snapshot.Serves client pa (.ofLoadBalancer lb 0 endpoint other)) :
    snapshot.Serves client pa (.ofLoadBalancer lb 0 endpoint port) := by
  have sameEntry : (SnapshotPort.ofLoadBalancer lb 0 endpoint other).entry =
      (SnapshotPort.ofLoadBalancer lb 0 endpoint port).entry := by
    simp only [SnapshotPort.entry, sameNumber, sameProtocol]
  have sameEndpoints : (SnapshotPort.ofLoadBalancer lb 0 endpoint other).lbEndpoints client =
      (SnapshotPort.ofLoadBalancer lb 0 endpoint port).lbEndpoints client := by
    simp only [SnapshotPort.lbEndpoints, SnapshotPort.addresses, SnapshotPort.upstreamPort,
      sameNumber]
  rwa [Snapshot.Serves, SnapshotPort.name, sameEntry, sameEndpoints] at serves

section Exact

variable {client : AddressesClient} {ns : String} {loadBalancers : List LoadBalancer}
  {routes : List Route} {pa : PortAllocator} {headerLimits : HeaderLimits} {lb : LoadBalancer}
  {endpoint : LoadBalancerEndpoints} {others : List LoadBalancerEndpoints}
  (isEndpoints : lb.spec.endpoints = endpoint :: others)
  (enough : lb.spec.ports.length ≤ endpoint.ports.length)
  (member : lb ∈ loadBalancers)
  (inNamespace : InNamespace ns loadBalancers routes)
  (readable : AllReadable client ns loadBalancers routes)
  (numbers : HoldsOnly IsPortNumber pa)
  (held : HoldsPorts pa lb endpoint)
  (existingService : Service)

include isEndpoints member inNamespace readable numbers held

/-- One Service port targets its designated port in every snapshot exactly when its search
by name finds the port in the allocator and the snapshot shows the listener. -/
theorem targetsDesignated_servicePort_iff (lbPort : LoadBalancerPort × Nat)
    (byIndex : EndpointPort) :
    (∀ sort codec snapshot,
      mapSnapshot client loadBalancers routes pa headerLimits sort codec = .ok snapshot →
      TargetsDesignated client pa lb endpoint snapshot lbPort
        (servicePort pa lb existingService endpoint.ports lbPort.1 byIndex)) ↔
    (lbPort.1.protocol.Served →
      ∀ designated, designatedPort endpoint.ports lbPort.1 lbPort.2 = some designated →
      ∃ backend ∈ endpoint.ports, backend.port = designated.port ∧
        backend.protocol = lbPort.1.protocol ∧
        SamePort pa lb (resolvedPort endpoint.ports lbPort.1 byIndex) backend.port
          backend.protocol ∧
        Shown client pa loadBalancers routes (.ofLoadBalancer lb 0 endpoint backend)) := by
  have serves {backend : EndpointPort} (inPorts : backend ∈ endpoint.ports)
      (served : backend.protocol.Served) :=
    @serves_iff client pa loadBalancers routes ns headerLimits
      (.ofLoadBalancer lb 0 endpoint backend) inNamespace readable
      (List.mem_append_left _ (List.mem_flatMap.mpr ⟨lb, member, List.mem_flatMap.mpr
        ⟨(endpoint, 0), by rw [isEndpoints, List.zipIdx_cons]; exact List.mem_cons_self,
          List.mem_map_of_mem inPorts⟩⟩)) served
  have target {backend : EndpointPort} (inPorts : backend ∈ endpoint.ports)
      (sameProtocol : backend.protocol = lbPort.1.protocol) :
      (servicePort pa lb existingService endpoint.ports lbPort.1 byIndex).targetPort.intValue =
          ((SnapshotPort.ofLoadBalancer lb 0 endpoint backend).entry.bindAddress
            pa).portValue.toNat ↔
        SamePort pa lb (resolvedPort endpoint.ports lbPort.1 byIndex) backend.port
          backend.protocol := by
    obtain ⟨value, found⟩ := held backend inPorts
    rw [sameProtocol] at found ⊢
    rw [← target_eq_bind_iff numbers found existingService, ← sameProtocol]
    rfl
  have isBuilt := (@buildResources_ok_iff client ns _ _ pa headerLimits _ inNamespace).mpr
    ⟨readable, rfl⟩
  have encodable : ResourceCodec.Total ⟨fun _ => .ok [], fun _ => ""⟩ := fun _ => ⟨[], rfl⟩
  simp only [targetsDesignated_iff]
  constructor
  · intro targets isServed designated isDesignated
    obtain ⟨first, isFirst⟩ := mapSnapshot_of_built isBuilt (SliceSort.stable String) encodable
    obtain ⟨backend, inPorts, samePort, sameProtocol, -, isTarget⟩ :=
      targets _ _ first isFirst isServed designated isDesignated
    refine ⟨backend, inPorts, samePort, sameProtocol, (target inPorts sameProtocol).mp isTarget,
      (serves inPorts (sameProtocol ▸ isServed)).mp fun sort codec snapshot mapped => ?_⟩
    obtain ⟨other, -, otherPort, otherProtocol, isServing, -⟩ :=
      targets sort codec snapshot mapped isServed designated isDesignated
    exact serves_of_sameNumber (otherPort.trans samePort.symm)
      (otherProtocol.trans sameProtocol.symm) isServing
  · intro resolve sort codec snapshot mapped isServed designated isDesignated
    obtain ⟨backend, inPorts, samePort, sameProtocol, sameHeld, shown⟩ :=
      resolve isServed designated isDesignated
    exact ⟨backend, inPorts, samePort, sameProtocol,
      (serves inPorts (sameProtocol ▸ isServed)).mpr shown sort codec snapshot mapped,
      (target inPorts sameProtocol).mpr sameHeld⟩

include enough

/-- In every snapshot the Service reaches the designated ports exactly when the names
resolve to them and their listeners are shown. -/
theorem serviceReachesDesignated_iff (serviceSort : SliceSort String) :
    (∀ sort codec snapshot,
      mapSnapshot client loadBalancers routes pa headerLimits sort codec = .ok snapshot →
      ServiceReachesDesignated client pa lb endpoint snapshot existingService serviceSort) ↔
    NamesResolve client pa loadBalancers routes lb endpoint := by
  obtain ⟨created, isCreated, paired⟩ :=
    createServicePorts_of_enough lb existingService pa isEndpoints enough
  have targets_iff := @targetsDesignated_servicePort_iff _ _ _ _ _ headerLimits _ _ _ isEndpoints
    member inNamespace readable numbers held existingService
  constructor
  · intro reaches lbPort inSpec isServed byIndex isByIndex
    refine (targets_iff lbPort byIndex).mp (fun sort codec snapshot mapped => ?_) isServed
    obtain ⟨ports, -, allTarget⟩ := reaches sort codec snapshot mapped
    obtain ⟨port, -, ⟨atIndex, isAtIndex, rfl⟩, targets⟩ := forall₂_partner allTarget inSpec
    rwa [Option.some.inj (isAtIndex.symm.trans isByIndex)] at targets
  · intro resolve sort codec snapshot mapped
    refine ⟨created, isCreated serviceSort, ?_⟩
    rw [List.forall₂_iff_get] at paired ⊢
    refine ⟨paired.1, fun index bound bound' => ?_⟩
    obtain ⟨byIndex, isByIndex, isPort⟩ := paired.2 index bound bound'
    refine ⟨⟨byIndex, isByIndex, isPort⟩, ?_⟩
    rw [isPort]
    exact (targets_iff _ byIndex).mpr
      (fun isServed => resolve _ (List.get_mem _ _) isServed byIndex isByIndex)
      sort codec snapshot mapped

end Exact

/-! ## One name for two protocols -/

/-- A backend that serves the one name `dns` over UDP and TCP. -/
def dnsEndpoint : LoadBalancerEndpoints where
  addresses := [{ ip := "10.0.0.1" }]
  ports := [⟨"dns", 30053, .udp⟩, ⟨"dns", 31053, .tcp⟩]

def dnsLoadBalancer (ports : List LoadBalancerPort) : LoadBalancer where
  metadata := { name := "resolver", ns := "tenant-a" }
  spec := { endpoints := [dnsEndpoint], ports := ports }

/-- Exposing UDP only, the Service reaches the designated port. -/
theorem udp_reaches_designated :
    ∃ pa rest, newPortAllocator.allocatePortsForLoadBalancers
        [dnsLoadBalancer [⟨"dns", .udp, 53⟩]] [0, 1] = some (pa, rest) ∧
      ∀ sort codec snapshot,
        mapSnapshot (fun _ _ => .ok []) [dnsLoadBalancer [⟨"dns", .udp, 53⟩]] [] pa {} sort codec =
          .ok snapshot →
        ServiceReachesDesignated (fun _ _ => .ok []) pa (dnsLoadBalancer [⟨"dns", .udp, 53⟩])
          dnsEndpoint snapshot { metadata := { name := "envoy-resolver", ns := "tenant-a" } }
          (SliceSort.stable String) := by
  have evaluated : (newPortAllocator.allocatePortsForLoadBalancers
      [dnsLoadBalancer [⟨"dns", .udp, 53⟩]] [0, 1]).map (fun allocated =>
        decide (Shown (fun _ _ => .ok []) allocated.1 [dnsLoadBalancer [⟨"dns", .udp, 53⟩]] []
          (.ofLoadBalancer (dnsLoadBalancer [⟨"dns", .udp, 53⟩]) 0 dnsEndpoint
            ⟨"dns", 30053, .udp⟩))) = some true := by
    decide +kernel
  obtain ⟨⟨pa, rest⟩, allocated, shown⟩ := Option.map_eq_some_iff.mp evaluated
  refine ⟨pa, rest, allocated, ?_⟩
  have inNamespace : InNamespace "tenant-a" [dnsLoadBalancer [⟨"dns", .udp, 53⟩]] [] :=
    ⟨fun lb isLb => by rw [List.mem_singleton.mp isLb]; rfl, by simp⟩
  refine (serviceReachesDesignated_iff rfl (by decide) List.mem_cons_self inNamespace
    ⟨fun _ _ _ _ _ _ => ⟨_, rfl⟩, by simp⟩
    (duplicateFree_newPortAllocator.portNumbers.allocateSlots
      (fun draw _ => isPortNumber_draw draw) allocated)
    (holdsPorts_of_allocated rfl (fun lb isLb => inNamespace.loadBalancers lb isLb) (by simp)
      allocated List.mem_cons_self) _ _).mpr ?_
  intro lbPort inSpec _ byIndex isByIndex designated isDesignated
  obtain rfl : lbPort = (⟨"dns", .udp, 53⟩, 0) := List.mem_singleton.mp inSpec
  cases isByIndex
  cases isDesignated
  exact ⟨⟨"dns", 30053, .udp⟩, List.mem_cons_self, rfl, rfl, Or.inl rfl, of_decide_eq_true shown⟩

/-- Exposing both, the TCP port of the Service targets 30053, the number of the
UDP endpoint port. The TCP listener binds 10001. -/
theorem dns_over_tcp_misses_its_listener :
    (newPortAllocator.allocatePortsForLoadBalancers
      [dnsLoadBalancer [⟨"dns", .tcp, 53⟩, ⟨"dns", .udp, 53⟩]] [0, 1]).map (fun allocated =>
        (createServicePorts (SliceSort.stable String)
            (dnsLoadBalancer [⟨"dns", .tcp, 53⟩, ⟨"dns", .udp, 53⟩])
            { metadata := { name := "envoy-resolver", ns := "tenant-a" } } allocated.1).map
          (List.map (fun port => (port.protocol, port.targetPort.intValue)))) =
      some (some [(.tcp, 30053), (.udp, 10000)]) ∧
    (newPortAllocator.allocatePortsForLoadBalancers
      [dnsLoadBalancer [⟨"dns", .tcp, 53⟩, ⟨"dns", .udp, 53⟩]] [0, 1]).bind (fun allocated =>
        (mapSnapshot (fun _ _ => .ok [])
            [dnsLoadBalancer [⟨"dns", .tcp, 53⟩, ⟨"dns", .udp, 53⟩]] [] allocated.1 {}
            (SliceSort.stable String) ⟨fun _ => .ok [], fun _ => ""⟩).toOption.map (fun snapshot =>
          dnsEndpoint.ports.map (fun port =>
            let name := (SnapshotPort.ofLoadBalancer (dnsLoadBalancer []) 0 dnsEndpoint port).name
            ((snapshot.listeners.lookup name).map (fun listener => listener.address.portValue),
              snapshot.clusterEndpoints name)))) =
      some [(some 10000, some [⟨"10.0.0.1", 30053⟩]), (some 10001, some [⟨"10.0.0.1", 31053⟩])] :=
  ⟨by decide, by decide +kernel⟩

end KubeLB.LoadBalancers
