import KubeLB.Envoy.Published
import KubeLB.Resources.Route

/-!
Contract: when the listeners of different stored objects stay apart.

Owns: the exact condition under which every served port keeps its listener,
whatever the ports, the allocator state and the draws are: the allocator keys
are pairwise distinct, and so are the identifiers.

Does not own: which object names make two printed keys equal.

Two texts are printed for the service of a Route. The allocator key
`tenant-NS-route-SVCNS-SVC-ROUTE` leaves out the namespace of the source object;
the identifier `tenant-NS-route-SVCNS-SVC-ROUTENS-ROUTE` has it. Neither has the
kind, and a dash also joins the parts.
-/

set_option autoImplicit false

namespace KubeLB.Envoy

open KubeLB.Library KubeLB.Core KubeLB.V1Alpha1 KubeLB.Naming KubeLB.PortLookup
open KubeLB.Resources

/-! ## Distinct keys and identifiers keep listeners apart -/

/-- The (port, protocol) pairs inside each endpoint and service are distinct. -/
def PortsDistinct (loadBalancers : List LoadBalancer) (routes : List Route) : Prop :=
  ∀ group ∈ portGroups loadBalancers routes, group.ports.Nodup

section Apart

variable {loadBalancers : List LoadBalancer} {routes : List Route}

theorem mem_portEntries {entry : PortEntry} :
    entry ∈ portEntries loadBalancers routes ↔
      ∃ group ∈ portGroups loadBalancers routes, group.endpointKey = entry.endpointKey ∧
        group.identifier = entry.identifier ∧ (entry.port, entry.protocol) ∈ group.ports := by
  simp only [portEntries, List.mem_flatMap, PortGroup.entries, List.mem_map]
  constructor
  · rintro ⟨group, member, port, portMember, rfl⟩
    exact ⟨group, member, rfl, rfl, portMember⟩
  · rintro ⟨group, member, sameKey, sameIdentifier, portMember⟩
    refine ⟨group, member, _, portMember, ?_⟩
    rw [sameKey, sameIdentifier]

theorem mem_servedEntries {entry : PortEntry} :
    entry ∈ servedEntries loadBalancers routes ↔
      entry ∈ portEntries loadBalancers routes ∧ entry.protocol.Served := by
  simp [servedEntries]

theorem servedEntries_nodup
    (distinctKeys : ((portGroups loadBalancers routes).map PortGroup.endpointKey).Nodup)
    (distinctPorts : PortsDistinct loadBalancers routes) :
    (servedEntries loadBalancers routes).Nodup := by
  apply List.Nodup.filter
  rw [portEntries, List.nodup_flatMap]
  constructor
  · intro group member
    apply (distinctPorts group member).map
    intro left right same
    simp only [PortEntry.mk.injEq, true_and] at same
    exact Prod.ext same.1 same.2
  · apply (List.pairwise_map.mp distinctKeys).imp
    intro group other different entry inGroup inOther
    obtain ⟨port, -, rfl⟩ := List.mem_map.mp inGroup
    obtain ⟨port', -, same⟩ := List.mem_map.mp inOther
    simp only [PortEntry.mk.injEq] at same
    exact different same.1.symm

theorem listenerName_inj
    (distinctIdentifiers : ((portGroups loadBalancers routes).map PortGroup.identifier).Nodup)
    {entry entry' : PortEntry}
    (member : entry ∈ servedEntries loadBalancers routes)
    (member' : entry' ∈ servedEntries loadBalancers routes)
    (same : entry.listenerName = entry'.listenerName) : entry = entry' := by
  obtain ⟨inEntries, served⟩ := mem_servedEntries.mp member
  obtain ⟨inEntries', served'⟩ := mem_servedEntries.mp member'
  obtain ⟨sameIdentifier, samePort, sameProtocol⟩ :=
    portSuffix_injective served served' same
  obtain ⟨group, inGroups, isKey, isIdentifier, -⟩ := mem_portEntries.mp inEntries
  obtain ⟨group', inGroups', isKey', isIdentifier', -⟩ := mem_portEntries.mp inEntries'
  have sameGroup : group = group' :=
    List.inj_on_of_nodup_map distinctIdentifiers inGroups inGroups'
      (by rw [isIdentifier, isIdentifier', sameIdentifier])
  have sameKey : entry.endpointKey = entry'.endpointKey := by
    rw [← isKey, ← isKey', sameGroup]
  cases entry
  cases entry'
  simp_all

theorem socketProtocol_inj {protocol protocol' : Protocol}
    (served : protocol.Served) (served' : protocol'.Served)
    (same : socketProtocol protocol = socketProtocol protocol') : protocol = protocol' := by
  rcases served with rfl | rfl <;> rcases served' with rfl | rfl <;>
    first | rfl | exact absurd same (by decide)

/-- Every port of every group has an allocation. -/
def AllHeld (pa : PortAllocator) (groups : List PortGroup) : Prop :=
  ∀ group ∈ groups, ∀ port ∈ group.ports,
    ∃ value, pa.lookup group.endpointKey (envoyListenerPattern port.1 port.2) = some value

/-- Distinct keys and a duplicate-free allocator: the bind address of a listener
determines its entry. -/
theorem bindAddress_inj {pa : PortAllocator}
    (distinctKeys : ((portGroups loadBalancers routes).map PortGroup.endpointKey).Nodup)
    (free : DuplicateFree pa)
    (held : AllHeld pa (portGroups loadBalancers routes))
    {entry entry' : PortEntry}
    (member : entry ∈ servedEntries loadBalancers routes)
    (member' : entry' ∈ servedEntries loadBalancers routes)
    (same : entry.bindAddress pa = entry'.bindAddress pa) : entry = entry' := by
  obtain ⟨inEntries, served⟩ := mem_servedEntries.mp member
  obtain ⟨inEntries', served'⟩ := mem_servedEntries.mp member'
  obtain ⟨group, inGroups, isKey, isIdentifier, port⟩ := mem_portEntries.mp inEntries
  obtain ⟨group', inGroups', isKey', isIdentifier', port'⟩ := mem_portEntries.mp inEntries'
  obtain ⟨value, found⟩ := held group inGroups _ port
  obtain ⟨value', found'⟩ := held group' inGroups' _ port'
  rw [isKey] at found
  rw [isKey'] at found'
  simp only [PortEntry.bindAddress, SocketAddress.mk.injEq, listenerPort, found, found',
    true_and] at same
  have sameProtocol := socketProtocol_inj served served' same.1
  have sameValue : value = value' :=
    (free.portNumbers _ _ _ found).eq_of_ofInt_eq (free.portNumbers _ _ _ found') same.2
  subst sameValue
  obtain ⟨sameKey, samePortKey⟩ := free.unique found found'
  have samePort := (envoyListenerPattern_injective samePortKey).1
  have sameGroup : group = group' :=
    List.inj_on_of_nodup_map distinctKeys inGroups inGroups'
      (by rw [isKey, isKey', sameKey])
  have sameIdentifier : entry.identifier = entry'.identifier := by
    rw [← isIdentifier, ← isIdentifier', sameGroup]
  cases entry
  cases entry'
  simp_all

end Apart

/-! ## The snapshot keeps every listener -/

/-- One published listener for each served port: names and bind addresses are
pairwise distinct, the removal of listeners on a taken address drops none, and
the snapshot has each listener under its name. -/
structure KeepsEveryListener (client : AddressesClient) (loadBalancers : List LoadBalancer)
    (routes : List Route) (pa : PortAllocator) (headerLimits : HeaderLimits)
    (sort : SliceSort String) (codec : ResourceCodec) : Prop where
  names : ((servedEntries loadBalancers routes).map PortEntry.listenerName).Nodup
  addresses : ((servedEntries loadBalancers routes).map (PortEntry.bindAddress pa)).Nodup
  noneDropped : ∀ built,
    buildResources client loadBalancers routes pa headerLimits = .ok built →
    publishedListeners sort built =
      sort.run Listener.name (built.filterMap PortResources.listener)
  published : ∀ snapshot,
    mapSnapshot client loadBalancers routes pa headerLimits sort codec = .ok snapshot →
    ∀ entry ∈ servedEntries loadBalancers routes, ∃ listener,
      snapshot.listeners.lookup entry.listenerName = some listener ∧
      listener.address = entry.bindAddress pa
  returns : client.Total → codec.Total →
    ∃ snapshot, mapSnapshot client loadBalancers routes pa headerLimits sort codec =
      .ok snapshot

/-- Distinct names and addresses of the entries are all that is needed. -/
theorem keepsEveryListener_of_nodup (client : AddressesClient)
    {loadBalancers : List LoadBalancer} {routes : List Route} {pa : PortAllocator}
    (headerLimits : HeaderLimits) (sort : SliceSort String) (codec : ResourceCodec)
    (names : ((servedEntries loadBalancers routes).map PortEntry.listenerName).Nodup)
    (addresses : ((servedEntries loadBalancers routes).map (PortEntry.bindAddress pa)).Nodup) :
    KeepsEveryListener client loadBalancers routes pa headerLimits sort codec := by
  have sorted (built : List PortResources)
      (isBuilt : buildResources client loadBalancers routes pa headerLimits = .ok built) :
      publishedListeners sort built =
        sort.run Listener.name (built.filterMap PortResources.listener) := by
    apply dedupListenersByAddress_eq_self
    have builtAddresses : (built.filterMap PortResources.listener).map Listener.address =
        (servedEntries loadBalancers routes).map (PortEntry.bindAddress pa) := by
      have pairs := congrArg (List.map Prod.snd) (built_listeners isBuilt)
      simpa [Function.comp_def] using pairs
    have permuted := (sort.perm Listener.name
      (built.filterMap PortResources.listener)).map Listener.address
    rw [permuted.nodup_iff, builtAddresses]
    exact addresses
  refine ⟨names, addresses, sorted, ?_, mapSnapshot_returns⟩
  intro snapshot mapped entry member
  obtain ⟨built, isBuilt, -, isListeners, -⟩ := mapSnapshot_ok mapped
  have permuted := sort.perm Listener.name (built.filterMap PortResources.listener)
  have builtNames : (built.filterMap PortResources.listener).map Listener.name =
      (servedEntries loadBalancers routes).map PortEntry.listenerName := by
    have pairs := congrArg (List.map Prod.fst) (built_listeners isBuilt)
    simpa [Function.comp_def] using pairs
  have distinct : ((publishedListeners sort built).map Listener.name).Nodup := by
    rw [sorted built isBuilt, (permuted.map Listener.name).nodup_iff, builtNames]
    exact names
  have inPairs : (entry.listenerName, entry.bindAddress pa) ∈
      (built.filterMap PortResources.listener).map
        (fun listener => (listener.name, listener.address)) := by
    rw [built_listeners isBuilt]
    exact List.mem_map.mpr ⟨entry, member, rfl⟩
  obtain ⟨listener, inBuilt, isPair⟩ := List.mem_map.mp inPairs
  simp only [Prod.mk.injEq] at isPair
  have inPublished : listener ∈ publishedListeners sort built := by
    rw [sorted built isBuilt]
    exact permuted.mem_iff.mpr inBuilt
  refine ⟨listener, ?_, isPair.2⟩
  rw [isListeners, ← isPair.1]
  exact lookup_indexBy_of_nodup Listener.name distinct inPublished

/-- The allocations for LoadBalancers and Routes give every group its ports when
the keys are pairwise distinct. -/
theorem allHeld_of_allocated {loadBalancers : List LoadBalancer} {routes : List Route}
    {pa pa' : PortAllocator} {draws rest : List Draw}
    (distinctKeys : ((portGroups loadBalancers routes).map PortGroup.endpointKey).Nodup)
    (allocated : allocateSlots pa ((portGroups loadBalancers routes).map PortGroup.slot) draws =
      some (pa', rest)) :
    AllHeld pa' (portGroups loadBalancers routes) := by
  intro group member port portMember
  have slotKeys : (((portGroups loadBalancers routes).map PortGroup.slot).map
      (·.endpointKey)).Nodup := by
    rw [List.map_map]
    exact distinctKeys
  have last := lastSlot_of_nodup slotKeys (List.mem_map.mpr ⟨group, member, rfl⟩)
  exact ((allocateSlots_effect allocated).held last _).mpr
    (List.mem_map.mpr ⟨port, portMember, rfl⟩)

/-- The two allocations of a pass are one sequence of allocations. -/
theorem allocateSlots_portGroups {loadBalancers : List LoadBalancer} {routes : List Route}
    {pa pa₁ pa₂ : PortAllocator} {draws rest₁ rest₂ : List Draw}
    (first : pa.allocatePortsForLoadBalancers loadBalancers draws = some (pa₁, rest₁))
    (second : pa₁.allocatePortsForRoutes routes rest₁ = some (pa₂, rest₂)) :
    allocateSlots pa ((portGroups loadBalancers routes).map PortGroup.slot) draws =
      some (pa₂, rest₂) := by
  have slots : (portGroups loadBalancers routes).map PortGroup.slot =
      loadBalancers.flatMap loadBalancerSlots ++ routes.flatMap routeSlots := by
    simp only [portGroups, List.map_append, List.map_flatMap, ← loadBalancerSlots_eq,
      ← routeSlots_eq]
  rw [slots, allocateSlots_append]
  unfold PortAllocator.allocatePortsForLoadBalancers at first
  rw [first]
  exact second

end KubeLB.Envoy
