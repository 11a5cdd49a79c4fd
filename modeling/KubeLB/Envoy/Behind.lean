import KubeLB.Envoy.Listed

/-!
Contract: which ports a snapshot serves.

Owns: how a snapshot resolves a cluster name, and the exact conditions under which
every order that `sort.Slice` may choose leads to the same endpoints, and under which
the listener of a port is published with its own endpoints behind it.

Does not own: which ports print the same cluster name.

A snapshot keeps one listener, one cluster and one load assignment for each name.
When several ports print the same name, the last one after an unstable sort is kept;
when several bind one address, the one with the smallest name.
-/

set_option autoImplicit false

namespace KubeLB.Envoy

open KubeLB.Library KubeLB.Core KubeLB.V1Alpha1 KubeLB.Naming KubeLB.PortLookup

def Snapshot.clusterEndpoints (snapshot : Snapshot) (name : String) :
    Option (List LbEndpoint) :=
  match snapshot.clusters.lookup name with
  | none => none
  | some cluster =>
      match cluster.discoveryType with
      | .eds => (snapshot.endpoints.lookup name).map (·.lbEndpoints)
      | .strictDNS => cluster.loadAssignment.map (·.lbEndpoints)

theorem Snapshot.clusterEndpoints_eq {snapshot : Snapshot} {name : String} {cluster : Cluster}
    (found : snapshot.clusters.lookup name = some cluster) :
    snapshot.clusterEndpoints name =
      match cluster.discoveryType with
      | .eds => (snapshot.endpoints.lookup name).map (·.lbEndpoints)
      | .strictDNS => cluster.loadAssignment.map (·.lbEndpoints) := by
  simp only [Snapshot.clusterEndpoints, found]

/-- Cluster and load assignment of one port go together. -/
structure PortResources.Coherent (resources : PortResources) : Prop where
  clusterName : resources.loadAssignment.clusterName = resources.cluster.name
  inlined : resources.cluster.loadAssignment =
    match resources.cluster.discoveryType with
    | .strictDNS => some resources.loadAssignment
    | .eds => none

section Snapshots

variable {client : AddressesClient} {loadBalancers : List LoadBalancer} {routes : List Route}
  {pa : PortAllocator} {headerLimits : HeaderLimits} {built : List PortResources}

/-! ## The endpoints of a name -/

theorem clusterEndpoints_of_agree {sort : SliceSort String} {codec : ResourceCodec}
    {snapshot : Snapshot} {name : String} {endpoints : List LbEndpoint}
    (coherent : ∀ resources ∈ built, resources.Coherent)
    (isBuilt : buildResources client loadBalancers routes pa headerLimits = .ok built)
    (mapped : mapSnapshot client loadBalancers routes pa headerLimits sort codec = .ok snapshot)
    (present : ∃ resources ∈ built, resources.cluster.name = name)
    (agree : ∀ resources ∈ built, resources.cluster.name = name →
      resources.loadAssignment.lbEndpoints = endpoints) :
    snapshot.clusterEndpoints name = some endpoints := by
  obtain ⟨built', isBuilt', isClusters, -, isEndpoints⟩ := mapSnapshot_ok mapped
  obtain rfl : built = built' := Except.ok.inj (isBuilt.symm.trans isBuilt')
  obtain ⟨printed, printedMember, rfl⟩ := present
  have inClusters := (sort.perm Cluster.name (built.map PortResources.cluster)).mem_iff.mpr
    (List.mem_map_of_mem printedMember)
  obtain ⟨cluster, found⟩ := exists_lookup_indexBy Cluster.name inClusters
  obtain ⟨inSorted, sameName⟩ := mem_of_lookup_indexBy Cluster.name found
  obtain ⟨resources, member, rfl⟩ := List.mem_map.mp
    ((sort.perm Cluster.name (built.map PortResources.cluster)).mem_iff.mp inSorted)
  rw [← isClusters] at found
  rw [Snapshot.clusterEndpoints_eq found]
  cases isType : resources.cluster.discoveryType with
  | strictDNS =>
      have inlined := (coherent resources member).inlined
      rw [isType] at inlined
      simp only [inlined, Option.map_some, agree resources member sameName]
  | eds =>
      have inAssignments : resources.loadAssignment ∈ built.flatMap PortResources.endpoints :=
        List.mem_flatMap.mpr ⟨resources, member, by simp [PortResources.endpoints, isType]⟩
      obtain ⟨assignment, isAssignment⟩ := exists_lookup_indexBy
        ClusterLoadAssignment.clusterName
        ((sort.perm ClusterLoadAssignment.clusterName _).mem_iff.mpr inAssignments)
      obtain ⟨inSorted', sameName'⟩ :=
        mem_of_lookup_indexBy ClusterLoadAssignment.clusterName isAssignment
      obtain ⟨other, otherMember, inOther⟩ := List.mem_flatMap.mp
        ((sort.perm ClusterLoadAssignment.clusterName _).mem_iff.mp inSorted')
      have isOther : assignment = other.loadAssignment := by
        unfold PortResources.endpoints at inOther
        split at inOther
        · simpa using inOther
        · cases inOther
      have otherName : other.cluster.name = printed.cluster.name := by
        rw [← (coherent other otherMember).clusterName, ← isOther, sameName',
          (coherent resources member).clusterName, sameName]
      have isName : resources.loadAssignment.clusterName = printed.cluster.name := by
        rw [(coherent resources member).clusterName, sameName]
      rw [isName] at isAssignment
      simp only [isEndpoints, isAssignment, Option.map_some, isOther,
        agree other otherMember otherName]

/-- Either some port has a DNS cluster, or the assignments are those of all ports. -/
theorem flatMap_endpoints_of_length (resources : List PortResources)
    (sameLength : (resources.flatMap PortResources.endpoints).length = resources.length) :
    resources.flatMap PortResources.endpoints = resources.map PortResources.loadAssignment := by
  have atMostOne (current : PortResources) : current.endpoints.length ≤ 1 := by
    unfold PortResources.endpoints
    split <;> simp
  have atMostAll (all : List PortResources) :
      (all.flatMap PortResources.endpoints).length ≤ all.length := by
    induction all with
    | nil => simp
    | cons current all ih =>
        have := atMostOne current
        simp only [List.flatMap_cons, List.length_append, List.length_cons]
        omega
  induction resources with
  | nil => rfl
  | cons current resources ih =>
      have head := atMostOne current
      have tail := atMostAll resources
      simp only [List.flatMap_cons, List.length_append, List.length_cons] at sameLength
      rw [List.flatMap_cons, List.map_cons, ih (by omega)]
      have isOne : current.endpoints.length = 1 := by omega
      unfold PortResources.endpoints at isOne ⊢
      split at isOne
      · rename_i isType
        simp [isType]
      · simp at isOne

/-- The two slices have different lengths or the same entries at the same positions. -/
theorem exists_assignmentPosition {position : Nat} {resources : PortResources}
    (atPosition : built[position]? = some resources)
    (isType : resources.cluster.discoveryType = .eds) :
    ∃ index : Nat → Nat, index built.length = position ∧
      (built.flatMap PortResources.endpoints)[index
        (built.flatMap PortResources.endpoints).length]? = some resources.loadAssignment := by
  by_cases sameLength : (built.flatMap PortResources.endpoints).length = built.length
  · refine ⟨fun _ => position, rfl, ?_⟩
    rw [flatMap_endpoints_of_length built sameLength, List.getElem?_map, atPosition]
    rfl
  · have inAssignments : resources.loadAssignment ∈ built.flatMap PortResources.endpoints :=
      List.mem_flatMap.mpr ⟨resources, List.mem_of_getElem? atPosition,
        by simp [PortResources.endpoints, isType]⟩
    obtain ⟨other, otherRange, isOther⟩ := List.mem_iff_getElem.mp inAssignments
    refine ⟨fun length => if length = built.length then position else other, by simp, ?_⟩
    simp only [if_neg sameLength]
    rw [List.getElem?_eq_getElem otherRange, isOther]

/-- A sort that moves the port at a position last lets the snapshot find its cluster. -/
theorem exists_mapSnapshot_movingLast
    (isBuilt : buildResources client loadBalancers routes pa headerLimits = .ok built)
    {position : Nat} {resources : PortResources}
    (atPosition : built[position]? = some resources)
    {index : Nat → Nat} (isIndex : index built.length = position) :
    ∃ codec snapshot, mapSnapshot client loadBalancers routes pa headerLimits
        (SliceSort.movingLast String index) codec = .ok snapshot ∧
      snapshot.clusters.lookup resources.cluster.name = some resources.cluster ∧
      snapshot.endpoints = indexBy ClusterLoadAssignment.clusterName
        ((SliceSort.movingLast String index).run ClusterLoadAssignment.clusterName
          (built.flatMap PortResources.endpoints)) := by
  have encodable : ResourceCodec.Total ⟨fun _ => .ok [], fun _ => ""⟩ := fun _ => ⟨[], rfl⟩
  have movedCluster : (built.map PortResources.cluster)[index
      (built.map PortResources.cluster).length]? = some resources.cluster := by
    rw [List.length_map, isIndex, List.getElem?_map, atPosition]
    rfl
  obtain ⟨snapshot, mapped⟩ := mapSnapshot_of_built isBuilt (SliceSort.movingLast String index)
    encodable
  obtain ⟨built', isBuilt', isClusters, -, isEndpoints⟩ := mapSnapshot_ok mapped
  obtain rfl : built = built' := Except.ok.inj (isBuilt.symm.trans isBuilt')
  refine ⟨_, snapshot, mapped, ?_, isEndpoints⟩
  rw [isClusters]
  exact lookup_indexBy_movingLast Cluster.name movedCluster

/-- Some order of equal names lets the snapshot resolve a name to the endpoints of
any given port of that name. -/
theorem exists_sort_clusterEndpoints
    (coherent : ∀ resources ∈ built, resources.Coherent)
    (isBuilt : buildResources client loadBalancers routes pa headerLimits = .ok built)
    {resources : PortResources} (member : resources ∈ built) :
    ∃ (sort : SliceSort String) (codec : ResourceCodec) (snapshot : Snapshot),
      mapSnapshot client loadBalancers routes pa headerLimits sort codec = .ok snapshot ∧
      snapshot.clusterEndpoints resources.cluster.name =
        some resources.loadAssignment.lbEndpoints := by
  have coherent := coherent resources member
  obtain ⟨position, atPosition⟩ := List.mem_iff_getElem?.mp member
  cases isType : resources.cluster.discoveryType with
  | strictDNS =>
      obtain ⟨codec, snapshot, mapped, found, -⟩ :=
        @exists_mapSnapshot_movingLast _ _ _ _ _ _ isBuilt _ _ atPosition (fun _ => position) rfl
      refine ⟨_, codec, snapshot, mapped, ?_⟩
      have inlined := coherent.inlined
      rw [isType] at inlined
      simp only [Snapshot.clusterEndpoints_eq found, isType, inlined, Option.map_some]
  | eds =>
      obtain ⟨index, isIndex, atAssignment⟩ := exists_assignmentPosition atPosition isType
      obtain ⟨codec, snapshot, mapped, found, isEndpoints⟩ :=
        exists_mapSnapshot_movingLast isBuilt atPosition isIndex
      refine ⟨_, codec, snapshot, mapped, ?_⟩
      have foundAssignment := lookup_indexBy_movingLast ClusterLoadAssignment.clusterName
        atAssignment
      rw [coherent.clusterName] at foundAssignment
      simp only [Snapshot.clusterEndpoints_eq found, isType, isEndpoints, foundAssignment,
        Option.map_some]

/-- In every order of equal names the snapshot resolves a printed name to the same
endpoints exactly when all ports of that name have them. -/
theorem clusterEndpoints_iff {name : String} {endpoints : List LbEndpoint}
    (coherent : ∀ resources ∈ built, resources.Coherent)
    (isBuilt : buildResources client loadBalancers routes pa headerLimits = .ok built)
    (present : ∃ resources ∈ built, resources.cluster.name = name) :
    (∀ (sort : SliceSort String) (codec : ResourceCodec) (snapshot : Snapshot),
      mapSnapshot client loadBalancers routes pa headerLimits sort codec = .ok snapshot →
      snapshot.clusterEndpoints name = some endpoints) ↔
    ∀ resources ∈ built, resources.cluster.name = name →
      resources.loadAssignment.lbEndpoints = endpoints := by
  constructor
  · intro always resources member sameName
    obtain ⟨sort, codec, snapshot, mapped, resolved⟩ :=
      exists_sort_clusterEndpoints coherent isBuilt member
    rw [sameName, always sort codec snapshot mapped] at resolved
    exact (Option.some.inj resolved).symm
  · intro agree sort codec snapshot mapped
    exact clusterEndpoints_of_agree coherent isBuilt mapped present agree

end Snapshots

/-! ## Served ports -/

def Listener.bindKey (listener : Listener) : String := Envoy.bindKey listener.address

theorem publishedListeners_eq (sort : SliceSort String) (built : List PortResources) :
    publishedListeners sort built = keepFirst Listener.bindKey
      (sort.run Listener.name (built.filterMap PortResources.listener)) ∅ := by
  unfold publishedListeners dedupListenersByAddress
  split
  · next short =>
      symm
      apply keepFirst_eq_self
      · simp
      · generalize sort.run Listener.name (built.filterMap PortResources.listener) = listeners
          at short
        rcases listeners with _ | ⟨listener, _ | ⟨next, rest⟩⟩
        · simp
        · simp
        · simp only [List.length_cons] at short
          omega
  · rfl

/-- The snapshot has the listener of a port under its name, and the cluster behind it
has the endpoints of the port. -/
def Snapshot.Serves (snapshot : Snapshot) (client : AddressesClient) (pa : PortAllocator)
    (port : SnapshotPort) : Prop :=
  ∃ listener, snapshot.listeners.lookup port.name = some listener ∧
    listener.address = port.entry.bindAddress pa ∧
    snapshot.clusterEndpoints listener.filter.cluster = some (port.lbEndpoints client)

section Served

variable (client : AddressesClient) (pa : PortAllocator) (loadBalancers : List LoadBalancer)
  (routes : List Route)

/-- A served port of a smaller name binds the address of the entry. -/
def Dropped (entry : PortEntry) : Prop :=
  Hidden PortEntry.listenerName (PortEntry.bindAddress pa) (servedEntries loadBalancers routes)
    entry

instance (entry : PortEntry) : Decidable (Dropped pa loadBalancers routes entry) :=
  inferInstanceAs (Decidable (Hidden _ _ _ _))

/-- No port of a smaller name takes the address of the port, and no port that prints its
name leads elsewhere. -/
structure Shown (port : SnapshotPort) : Prop where
  kept : ¬ Dropped pa loadBalancers routes port.entry
  sameAddress : ∀ other ∈ servedEntries loadBalancers routes, other.listenerName = port.name →
    ¬ Dropped pa loadBalancers routes other → other.bindAddress pa = port.entry.bindAddress pa
  sameEndpoints : ∀ other ∈ snapshotPorts loadBalancers routes, other.name = port.name →
    other.lbEndpoints client = port.lbEndpoints client

instance (port : SnapshotPort) : Decidable (Shown client pa loadBalancers routes port) :=
  decidable_of_iff (_ ∧ _ ∧ _)
    ⟨fun all => ⟨all.1, all.2.1, all.2.2⟩, fun shown => ⟨shown.1, shown.2, shown.3⟩⟩

variable {client pa loadBalancers routes} {ns : String} {headerLimits : HeaderLimits}
  {port : SnapshotPort}

theorem coherent_resources (ports : List SnapshotPort) :
    ∀ resources ∈ ports.map (SnapshotPort.resources client pa headerLimits),
      resources.Coherent := by
  intro resources member
  obtain ⟨port, -, rfl⟩ := List.mem_map.mp member
  constructor
  · rw [SnapshotPort.resources_cluster, SnapshotPort.resources_loadAssignment]
  · cases isType : port.discoveryType client <;>
      simp [SnapshotPort.resources_cluster, SnapshotPort.resources_loadAssignment, isType]

def portListeners (client : AddressesClient) (pa : PortAllocator) (headerLimits : HeaderLimits)
    (ports : List SnapshotPort) : List Listener :=
  (ports.map (SnapshotPort.resources client pa headerLimits)).filterMap PortResources.listener

theorem mem_portListeners {ports : List SnapshotPort} {listener : Listener}
    (member : listener ∈ portListeners client pa headerLimits ports) :
    ∃ port ∈ ports, port.entry.protocol.Served ∧ listener.name = port.name ∧
      listener.address = port.entry.bindAddress pa ∧ listener.filter.cluster = port.name ∧
      (port.resources client pa headerLimits).listener = some listener := by
  obtain ⟨resources, inResources, isListener⟩ := List.mem_filterMap.mp member
  obtain ⟨port, inPorts, rfl⟩ := List.mem_map.mp inResources
  by_cases served : port.entry.protocol.Served
  · have isOwn := port.resources_listener client pa headerLimits served
    rw [isOwn] at isListener
    cases isListener
    refine ⟨port, inPorts, served, rfl, rfl, ?_, isOwn⟩
    dsimp only
    split
    · rfl
    · split <;> rfl
  · have isNone := port.resources_listenerAt client pa headerLimits
    rw [PortEntry.listenerAt, if_neg served, PortResources.listenerAt, isListener] at isNone
    cases isNone

theorem exists_portListener {ports : List SnapshotPort} (member : port ∈ ports)
    (served : port.entry.protocol.Served) :
    ∃ listener ∈ portListeners client pa headerLimits ports,
      listener.name = port.name ∧ listener.address = port.entry.bindAddress pa :=
  ⟨_, List.mem_filterMap.mpr ⟨_, List.mem_map_of_mem member,
    port.resources_listener client pa headerLimits served⟩, rfl, rfl⟩

/-- A listener is hidden exactly when its entry is dropped. -/
theorem hidden_iff_dropped {listener : Listener} (sameName : listener.name = port.name)
    (sameAddress : listener.address = port.entry.bindAddress pa) :
    Hidden Listener.name Listener.bindKey
        (portListeners client pa headerLimits (snapshotPorts loadBalancers routes)) listener ↔
      Dropped pa loadBalancers routes port.entry := by
  constructor
  · rintro ⟨other, member, sameKey, smaller⟩
    obtain ⟨otherPort, inPorts, served, otherName, otherAddress, -⟩ := mem_portListeners member
    refine ⟨otherPort.entry, mem_servedEntries_iff.mpr ⟨otherPort, inPorts, rfl, served⟩, ?_, ?_⟩
    · rw [← otherAddress, ← sameAddress]
      exact bindKey_injective sameKey
    · rw [otherName, sameName] at smaller
      exact smaller
  · rintro ⟨other, member, sameAddress', smaller⟩
    obtain ⟨otherPort, inPorts, rfl, served⟩ := mem_servedEntries_iff.mp member
    obtain ⟨otherListener, inListeners, otherName, otherAddress⟩ :=
      @exists_portListener client pa headerLimits otherPort _ inPorts served
    refine ⟨otherListener, inListeners, ?_, ?_⟩
    · rw [Listener.bindKey, Listener.bindKey, otherAddress, sameAddress', sameAddress]
    · rw [otherName, sameName]
      exact smaller

theorem listeners_of_mapped (inNamespace : InNamespace ns loadBalancers routes)
    {sort : SliceSort String} {codec : ResourceCodec} {snapshot : Snapshot}
    (mapped : mapSnapshot client loadBalancers routes pa headerLimits sort codec = .ok snapshot) :
    snapshot.listeners = indexBy Listener.name (keepFirst Listener.bindKey (sort.run Listener.name
      (portListeners client pa headerLimits (snapshotPorts loadBalancers routes))) ∅) := by
  obtain ⟨built, isBuilt, -, isIndex, -⟩ := mapSnapshot_ok mapped
  obtain ⟨-, rfl⟩ := (buildResources_ok_iff inNamespace).mp isBuilt
  rw [isIndex, publishedListeners_eq]
  rfl

/-- A listener that is found leads to the cluster of the printed name. -/
theorem cluster_of_found (inNamespace : InNamespace ns loadBalancers routes)
    {sort : SliceSort String} {codec : ResourceCodec} {snapshot : Snapshot}
    (mapped : mapSnapshot client loadBalancers routes pa headerLimits sort codec = .ok snapshot)
    {name : String} {listener : Listener}
    (found : snapshot.listeners.lookup name = some listener) :
    listener.filter.cluster = name := by
  rw [listeners_of_mapped inNamespace mapped] at found
  obtain ⟨inKept, isName⟩ := mem_of_lookup_indexBy Listener.name found
  obtain ⟨other, -, -, otherName, -, cluster, -⟩ := mem_portListeners
    ((sort.perm Listener.name _).mem_iff.mp ((keepFirst_sublist _ _ ∅).subset inKept))
  rw [cluster, ← otherName, isName]

section Published

variable (inNamespace : InNamespace ns loadBalancers routes)
  (readable : AllReadable client ns loadBalancers routes)
  (member : port ∈ snapshotPorts loadBalancers routes)

include inNamespace readable member

/-- Every snapshot has the listener of a port exactly when no port of a smaller name takes
its address and the ports of its name that are not dropped bind it too. -/
theorem listener_published_iff (served : port.entry.protocol.Served) :
    (∀ (sort : SliceSort String) (codec : ResourceCodec) (snapshot : Snapshot),
      mapSnapshot client loadBalancers routes pa headerLimits sort codec = .ok snapshot →
      ∃ listener, snapshot.listeners.lookup port.name = some listener ∧
        listener.address = port.entry.bindAddress pa) ↔
    ¬ Dropped pa loadBalancers routes port.entry ∧
      ∀ other ∈ servedEntries loadBalancers routes, other.listenerName = port.name →
        ¬ Dropped pa loadBalancers routes other →
        other.bindAddress pa = port.entry.bindAddress pa := by
  have isBuilt := (@buildResources_ok_iff client ns _ _ pa headerLimits _ inNamespace).mpr
    ⟨readable, rfl⟩
  obtain ⟨own, inListeners, ownName, ownAddress⟩ :=
    @exists_portListener client pa headerLimits port _ member served
  have sameKey_iff (listener : Listener) :
      listener.bindKey = own.bindKey ↔ listener.address = port.entry.bindAddress pa := by
    rw [← ownAddress]
    exact bindKey_injective.eq_iff
  have published := lookup_keepFirst_iff Listener.name Listener.bindKey inListeners
  rw [ownName, hidden_iff_dropped ownName ownAddress] at published
  simp only [sameKey_iff] at published
  have encodable : ResourceCodec.Total ⟨fun _ => .ok [], fun _ => ""⟩ := fun _ => ⟨[], rfl⟩
  constructor
  · intro always
    obtain ⟨kept, others⟩ := published.mp fun sort => by
      obtain ⟨snapshot, mapped⟩ := mapSnapshot_of_built isBuilt sort encodable
      rw [← listeners_of_mapped inNamespace mapped]
      exact always sort _ snapshot mapped
    refine ⟨kept, fun other inEntries sameName otherKept => ?_⟩
    obtain ⟨otherPort, inPorts, rfl, otherServed⟩ := mem_servedEntries_iff.mp inEntries
    obtain ⟨listener, isListener, otherName, otherAddress⟩ :=
      @exists_portListener client pa headerLimits otherPort _ inPorts otherServed
    rw [← otherAddress]
    exact others listener isListener (otherName.trans sameName)
      (mt (hidden_iff_dropped otherName otherAddress).mp otherKept)
  · rintro ⟨kept, sameAddress⟩ sort codec snapshot mapped
    rw [listeners_of_mapped inNamespace mapped]
    refine published.mpr ⟨kept, fun other inOthers sameName shown => ?_⟩ sort
    obtain ⟨otherPort, inPorts, otherServed, otherName, otherAddress, -⟩ :=
      mem_portListeners inOthers
    rw [hidden_iff_dropped otherName otherAddress] at shown
    rw [otherAddress]
    exact sameAddress otherPort.entry
      (mem_servedEntries_iff.mpr ⟨otherPort, inPorts, rfl, otherServed⟩)
      (otherName.symm.trans sameName) shown

/-- Every snapshot resolves the name of a port to its endpoints exactly when the ports of
this name have them. -/
theorem endpoints_published_iff :
    (∀ (sort : SliceSort String) (codec : ResourceCodec) (snapshot : Snapshot),
      mapSnapshot client loadBalancers routes pa headerLimits sort codec = .ok snapshot →
      snapshot.clusterEndpoints port.name = some (port.lbEndpoints client)) ↔
    ∀ other ∈ snapshotPorts loadBalancers routes, other.name = port.name →
      other.lbEndpoints client = port.lbEndpoints client := by
  have isBuilt := (@buildResources_ok_iff client ns _ _ pa headerLimits _ inNamespace).mpr
    ⟨readable, rfl⟩
  have present : ∃ resources ∈ (snapshotPorts loadBalancers routes).map
      (SnapshotPort.resources client pa headerLimits), resources.cluster.name = port.name :=
    ⟨_, List.mem_map_of_mem member, by rw [SnapshotPort.resources_cluster]⟩
  rw [clusterEndpoints_iff (coherent_resources _) isBuilt present, List.forall_mem_map]
  simp only [SnapshotPort.resources_cluster, SnapshotPort.resources_loadAssignment]

/-- In every snapshot the listener of a port is published with its endpoints exactly when
the port is shown. -/
theorem serves_iff (served : port.entry.protocol.Served) :
    (∀ (sort : SliceSort String) (codec : ResourceCodec) (snapshot : Snapshot),
      mapSnapshot client loadBalancers routes pa headerLimits sort codec = .ok snapshot →
      snapshot.Serves client pa port) ↔
    Shown client pa loadBalancers routes port := by
  have listener_iff :=
    @listener_published_iff client pa _ _ ns headerLimits _ inNamespace readable member served
  have endpoints_iff :=
    @endpoints_published_iff client pa _ _ ns headerLimits _ inNamespace readable member
  constructor
  · intro always
    obtain ⟨kept, sameAddress⟩ := listener_iff.mp fun sort codec snapshot mapped => by
      obtain ⟨listener, found, address, -⟩ := always sort codec snapshot mapped
      exact ⟨listener, found, address⟩
    refine ⟨kept, sameAddress, endpoints_iff.mp fun sort codec snapshot mapped => ?_⟩
    obtain ⟨listener, found, -, behind⟩ := always sort codec snapshot mapped
    rwa [cluster_of_found inNamespace mapped found] at behind
  · rintro ⟨kept, sameAddress, sameEndpoints⟩ sort codec snapshot mapped
    obtain ⟨listener, found, address⟩ :=
      listener_iff.mpr ⟨kept, sameAddress⟩ sort codec snapshot mapped
    refine ⟨listener, found, address, ?_⟩
    rw [cluster_of_found inNamespace mapped found]
    exact endpoints_iff.mpr sameEndpoints sort codec snapshot mapped

end Published

end Served

end KubeLB.Envoy
