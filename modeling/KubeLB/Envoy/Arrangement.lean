import KubeLB.Envoy.Behind

/-!
Contract: when a snapshot does not depend on the order of the listed objects.

Owns: order independence and referential integrity of `MapSnapshot`, and the
equivalence of both with a condition on the ports that print the same name.

Does not own: which objects print the same names.

The lists come from a cache in any order. Resources are sorted by name, and the
sort may order equal names in any way, so that ports of one name have to publish
the same.
-/

set_option autoImplicit false

namespace KubeLB.Envoy

open KubeLB.Library KubeLB.Core KubeLB.V1Alpha1 KubeLB.PortLookup

theorem snapshotPorts_perm {loadBalancers loadBalancers' : List LoadBalancer}
    {routes routes' : List Route} (lbPerm : loadBalancers'.Perm loadBalancers)
    (routePerm : routes'.Perm routes) :
    (snapshotPorts loadBalancers' routes').Perm (snapshotPorts loadBalancers routes) :=
  (lbPerm.flatMap_right _).append (routePerm.flatMap_right _)

/-! ## What a snapshot is made of -/

def Resource.cluster? : Resource → Option Cluster
  | .cluster value => some value
  | _ => none

def Resource.listener? : Resource → Option Listener
  | .listener value => some value
  | _ => none

def Resource.endpoints? : Resource → Option ClusterLoadAssignment
  | .endpoints value => some value
  | _ => none

def publishedResources (sort : SliceSort String) (built : List PortResources) : List Resource :=
  (sort.run Cluster.name (built.map PortResources.cluster)).map .cluster ++
    (publishedListeners sort built).map .listener ++
    (sort.run ClusterLoadAssignment.clusterName
      (built.flatMap PortResources.endpoints)).map .endpoints

theorem publishedResources_eq_iff {sort sort' : SliceSort String}
    {built built' : List PortResources} :
    publishedResources sort' built' = publishedResources sort built ↔
      sort'.run Cluster.name (built'.map PortResources.cluster) =
        sort.run Cluster.name (built.map PortResources.cluster) ∧
      publishedListeners sort' built' = publishedListeners sort built ∧
      sort'.run ClusterLoadAssignment.clusterName (built'.flatMap PortResources.endpoints) =
        sort.run ClusterLoadAssignment.clusterName (built.flatMap PortResources.endpoints) := by
  constructor
  · intro same
    have clusters := congrArg (List.filterMap Resource.cluster?) same
    have listeners := congrArg (List.filterMap Resource.listener?) same
    have endpoints := congrArg (List.filterMap Resource.endpoints?) same
    simp only [publishedResources, List.filterMap_append, List.filterMap_map,
      Function.comp_def, Resource.cluster?, Resource.listener?, Resource.endpoints?,
      List.filterMap_none, List.filterMap_some, List.append_nil, List.nil_append]
      at clusters listeners endpoints
    exact ⟨clusters, listeners, endpoints⟩
  · rintro ⟨clusters, listeners, endpoints⟩
    simp only [publishedResources, clusters, listeners, endpoints]

/-- `MapSnapshot` after the resources are built. -/
def snapshotOf (sort : SliceSort String) (codec : ResourceCodec) (built : List PortResources) :
    Except SnapshotError Snapshot :=
  match marshalAll codec (publishedResources sort built) with
  | .error error => .error error
  | .ok content =>
      .ok
        { version := codec.hashResource content
          clusters := indexBy Cluster.name
            (sort.run Cluster.name (built.map PortResources.cluster))
          listeners := indexBy Listener.name (publishedListeners sort built)
          endpoints := indexBy ClusterLoadAssignment.clusterName
            (sort.run ClusterLoadAssignment.clusterName
              (built.flatMap PortResources.endpoints)) }

theorem mapSnapshot_eq
    {client : AddressesClient} {loadBalancers : List LoadBalancer} {routes : List Route}
    {pa : PortAllocator} {headerLimits : HeaderLimits} {built : List PortResources}
    (sort : SliceSort String) (codec : ResourceCodec)
    (isBuilt : buildResources client loadBalancers routes pa headerLimits = .ok built) :
    mapSnapshot client loadBalancers routes pa headerLimits sort codec =
      snapshotOf sort codec built := by
  simp only [mapSnapshot, isBuilt]
  rfl

theorem snapshotOf_congr {sort sort' : SliceSort String} {built built' : List PortResources}
    (same : publishedResources sort' built' = publishedResources sort built)
    (codec : ResourceCodec) : snapshotOf sort' codec built' = snapshotOf sort codec built := by
  obtain ⟨clusters, listeners, endpoints⟩ := publishedResources_eq_iff.mp same
  simp only [snapshotOf, same, clusters, listeners, endpoints]

/-- An encoding of each resource as one byte. -/
def ResourceCodec.byte (code : Resource → UInt8) (hash : List UInt8 → String) :
    ResourceCodec where
  marshalResource resource := .ok [code resource]
  hashResource := hash

theorem marshalAll_byte (code : Resource → UInt8) (hash : List UInt8 → String)
    (resources : List Resource) :
    marshalAll (ResourceCodec.byte code hash) resources = .ok (resources.map code) := by
  induction resources with
  | nil => rfl
  | cons resource resources ih =>
      simp only [marshalAll, ih]
      rfl

/-- Different slices are told apart by some encoding. -/
theorem publishedResources_eq_of_snapshotOf
    {sort sort' : SliceSort String} {built built' : List PortResources}
    (same : ∀ (codec : ResourceCodec) (snapshot : Snapshot),
      snapshotOf sort codec built = .ok snapshot → snapshotOf sort' codec built' = .ok snapshot) :
    publishedResources sort' built' = publishedResources sort built := by
  by_contra different
  obtain ⟨code, apart⟩ := exists_map_ne different (0 : UInt8) 1 (by decide)
  let original := (publishedResources sort built).map code
  let codec := ResourceCodec.byte code (fun content => if content = original then "1" else "0")
  have encoded := marshalAll_byte code (fun content => if content = original then "1" else "0")
  have result : ∃ snapshot, snapshotOf sort codec built = .ok snapshot ∧
      snapshot.version = "1" := by
    simp only [snapshotOf, codec, encoded]
    exact ⟨_, rfl, if_pos rfl⟩
  obtain ⟨snapshot, isSnapshot, isOne⟩ := result
  have moved := same codec snapshot isSnapshot
  simp only [snapshotOf, codec, encoded, Except.ok.injEq] at moved
  rw [← moved] at isOne
  simp [ResourceCodec.byte, original, apart] at isOne

/-! ## Integrity -/

/-- The references between the resources of a snapshot. -/
structure Snapshot.Intact (snapshot : Snapshot) : Prop where
  target : ∀ name listener, snapshot.listeners.lookup name = some listener →
    ∃ cluster, snapshot.clusters.lookup listener.filter.cluster = some cluster
  assigned : ∀ name cluster, snapshot.clusters.lookup name = some cluster →
    cluster.discoveryType = .eds →
    ∃! assignment, ∃ key, snapshot.endpoints.lookup key = some assignment ∧
      assignment.clusterName = cluster.name
  used : ∀ name assignment, snapshot.endpoints.lookup name = some assignment →
    ∃ cluster, snapshot.clusters.lookup assignment.clusterName = some cluster ∧
      cluster.discoveryType = .eds

theorem mem_endpoints_iff {built : List PortResources} {assignment : ClusterLoadAssignment} :
    assignment ∈ built.flatMap PortResources.endpoints ↔
      ∃ resources ∈ built, resources.cluster.discoveryType = .eds ∧
        resources.loadAssignment = assignment := by
  simp only [List.mem_flatMap, PortResources.endpoints]
  constructor
  · rintro ⟨resources, member, inEndpoints⟩
    split at inEndpoints
    · next isType => exact ⟨resources, member, isType, (List.mem_singleton.mp inEndpoints).symm⟩
    · cases inEndpoints
  · rintro ⟨resources, member, isType, rfl⟩
    exact ⟨resources, member, by simp [isType]⟩

/-! ## Ports of one name -/

/-- Two ports publish the same cluster and the same endpoints under their name. -/
structure SnapshotPort.Alike (client : AddressesClient) (left right : SnapshotPort) : Prop where
  discoveryType : left.discoveryType client = right.discoveryType client
  lbEndpoints : left.lbEndpoints client = right.lbEndpoints client
  udp : left.entry.protocol = .udp ↔ right.entry.protocol = .udp
  hashesSource : left.hashesSource = right.hashesSource
  upstreamProtocol : left.upstreamProtocol = right.upstreamProtocol
  proxyProtocol : left.proxyProtocol = right.proxyProtocol

instance (client : AddressesClient) (left right : SnapshotPort) :
    Decidable (left.Alike client right) :=
  decidable_of_iff (_ ∧ _ ∧ _ ∧ _ ∧ _ ∧ _)
    ⟨fun all => ⟨all.1, all.2.1, all.2.2.1, all.2.2.2.1, all.2.2.2.2.1, all.2.2.2.2.2⟩,
      fun alike => ⟨alike.1, alike.2, alike.3, alike.4, alike.5, alike.6⟩⟩

/-- Ports that print one name are alike, and those of them whose listener no port of a
smaller name drops bind one address. -/
structure NamesSettled (client : AddressesClient) (pa : PortAllocator)
    (loadBalancers : List LoadBalancer) (routes : List Route) : Prop where
  alike : ∀ left ∈ snapshotPorts loadBalancers routes,
    ∀ right ∈ snapshotPorts loadBalancers routes, left.name = right.name →
      left.Alike client right
  sameAddress : ∀ left ∈ servedEntries loadBalancers routes,
    ∀ right ∈ servedEntries loadBalancers routes, left.listenerName = right.listenerName →
      ¬ Dropped pa loadBalancers routes left → ¬ Dropped pa loadBalancers routes right →
      left.bindAddress pa = right.bindAddress pa

section Alike

variable {client : AddressesClient} {pa : PortAllocator} {headerLimits : HeaderLimits}
  {left right : SnapshotPort}

theorem SnapshotPort.Alike.resources_eq (alike : left.Alike client right)
    (sameName : left.name = right.name) :
    (left.resources client pa headerLimits).cluster =
        (right.resources client pa headerLimits).cluster ∧
      (left.resources client pa headerLimits).loadAssignment =
        (right.resources client pa headerLimits).loadAssignment := by
  simp only [SnapshotPort.resources_cluster, SnapshotPort.resources_loadAssignment, sameName,
    alike.discoveryType, alike.lbEndpoints, alike.udp, alike.hashesSource,
    alike.upstreamProtocol, alike.proxyProtocol, ne_eq, and_self]

/-- The endpoints stand in the cluster itself when they are not published on their own. -/
theorem SnapshotPort.alike_of_cluster_eq
    (clusters : (left.resources client pa headerLimits).cluster =
      (right.resources client pa headerLimits).cluster)
    (assignments : left.discoveryType client = .eds →
      (left.resources client pa headerLimits).loadAssignment =
        (right.resources client pa headerLimits).loadAssignment) :
    left.Alike client right := by
  rw [SnapshotPort.resources_cluster, SnapshotPort.resources_cluster, Cluster.mk.injEq] at clusters
  obtain ⟨-, sameType, inlined, health, -, hashes, upstream, proxy⟩ := clusters
  refine ⟨sameType, ?_, by simpa using health, hashes, ?_, proxy⟩
  · cases isType : left.discoveryType client with
    | eds =>
        have same := assignments isType
        rw [SnapshotPort.resources_loadAssignment, SnapshotPort.resources_loadAssignment,
          ClusterLoadAssignment.mk.injEq] at same
        exact same.2
    | strictDNS =>
        rw [← sameType, isType] at inlined
        simp only [Option.some.injEq, ClusterLoadAssignment.mk.injEq] at inlined
        exact inlined.2
  · refine Option.map_injective (fun protocol protocol' same => ?_) upstream
    rw [UpstreamHTTP.mk.injEq] at same
    exact same.1

variable {ns : String} {loadBalancers : List LoadBalancer} {routes : List Route}
  {sort : SliceSort String} {codec : ResourceCodec} {snapshot : Snapshot}
  {built : List PortResources} {ports : List SnapshotPort}

/-- A name stands for one cluster and one assignment exactly when its ports are alike. -/
theorem agreeByKey_iff_alike :
    AgreeByKey Cluster.name ((ports.map (SnapshotPort.resources client pa headerLimits)).map
        PortResources.cluster) ∧
      AgreeByKey ClusterLoadAssignment.clusterName
        ((ports.map (SnapshotPort.resources client pa headerLimits)).flatMap
          PortResources.endpoints) ↔
    ∀ left ∈ ports, ∀ right ∈ ports, left.name = right.name → left.Alike client right := by
  have inResources {port : SnapshotPort} (member : port ∈ ports) :
      port.resources client pa headerLimits ∈
        ports.map (SnapshotPort.resources client pa headerLimits) := List.mem_map_of_mem member
  constructor
  · rintro ⟨clusters, endpoints⟩ left leftMember right rightMember sameName
    have sameCluster := clusters _ (List.mem_map_of_mem (inResources leftMember)) _
      (List.mem_map_of_mem (inResources rightMember))
      (by rw [SnapshotPort.resources_cluster, SnapshotPort.resources_cluster]; exact sameName)
    refine SnapshotPort.alike_of_cluster_eq sameCluster fun isType => ?_
    have isEDS : (left.resources client pa headerLimits).cluster.discoveryType = .eds := by
      rw [SnapshotPort.resources_cluster]
      exact isType
    refine endpoints _ (mem_endpoints_iff.mpr ⟨_, inResources leftMember, isEDS, rfl⟩) _
      (mem_endpoints_iff.mpr ⟨_, inResources rightMember, sameCluster ▸ isEDS, rfl⟩) ?_
    rw [SnapshotPort.resources_loadAssignment, SnapshotPort.resources_loadAssignment]
    exact sameName
  · refine fun alike => ⟨fun left leftMember right rightMember sameName => ?_,
      fun left leftMember right rightMember sameName => ?_⟩
    · simp only [List.map_map, List.mem_map, Function.comp_apply] at leftMember rightMember
      obtain ⟨leftPort, inLeft, rfl⟩ := leftMember
      obtain ⟨rightPort, inRight, rfl⟩ := rightMember
      rw [SnapshotPort.resources_cluster, SnapshotPort.resources_cluster] at sameName
      exact ((alike _ inLeft _ inRight sameName).resources_eq sameName).1
    · obtain ⟨resources, inResources, -, rfl⟩ := mem_endpoints_iff.mp leftMember
      obtain ⟨resources', inResources', -, rfl⟩ := mem_endpoints_iff.mp rightMember
      obtain ⟨leftPort, inLeft, rfl⟩ := List.mem_map.mp inResources
      obtain ⟨rightPort, inRight, rfl⟩ := List.mem_map.mp inResources'
      rw [SnapshotPort.resources_loadAssignment, SnapshotPort.resources_loadAssignment] at sameName
      exact ((alike _ inLeft _ inRight sameName).resources_eq sameName).2

/-- Every entry that is not dropped has a visible listener. -/
theorem exists_visible_listener {entry : PortEntry}
    (served : entry ∈ servedEntries loadBalancers routes)
    (kept : ¬ Dropped pa loadBalancers routes entry) :
    ∃ listener ∈ visible Listener.name Listener.bindKey
        (portListeners client pa headerLimits (snapshotPorts loadBalancers routes)),
      listener.name = entry.listenerName ∧ listener.address = entry.bindAddress pa := by
  obtain ⟨port, inPorts, rfl, isServed⟩ := mem_servedEntries_iff.mp served
  obtain ⟨listener, member, isName, isAddress⟩ :=
    @exists_portListener client pa headerLimits port _ inPorts isServed
  exact ⟨listener, mem_visible.mpr ⟨member,
    mt (hidden_iff_dropped isName isAddress).mp kept⟩, isName, isAddress⟩

/-- Visible listeners are those of served ports that are not dropped. -/
theorem exists_port_of_visible {listener : Listener}
    (shown : listener ∈ visible Listener.name Listener.bindKey
      (portListeners client pa headerLimits (snapshotPorts loadBalancers routes))) :
    ∃ port ∈ snapshotPorts loadBalancers routes, port.entry.protocol.Served ∧
      listener.name = port.name ∧ port.entry ∈ servedEntries loadBalancers routes ∧
      ¬ Dropped pa loadBalancers routes port.entry ∧
      (port.resources client pa headerLimits).listener = some listener := by
  obtain ⟨member, kept⟩ := mem_visible.mp shown
  obtain ⟨port, inPorts, served, isName, isAddress, -, isListener⟩ := mem_portListeners member
  exact ⟨port, inPorts, served, isName, mem_servedEntries_iff.mpr ⟨port, inPorts, rfl, served⟩,
    mt (hidden_iff_dropped isName isAddress).mpr kept, isListener⟩

/-- In the three slices a name stands for one resource exactly when the names are
settled. -/
theorem agreeByKey_iff_settled :
    AgreeByKey Cluster.name (((snapshotPorts loadBalancers routes).map
        (SnapshotPort.resources client pa headerLimits)).map PortResources.cluster) ∧
      AgreeByKey Listener.name (visible Listener.name Listener.bindKey
        (portListeners client pa headerLimits (snapshotPorts loadBalancers routes))) ∧
      AgreeByKey ClusterLoadAssignment.clusterName (((snapshotPorts loadBalancers routes).map
        (SnapshotPort.resources client pa headerLimits)).flatMap PortResources.endpoints) ↔
    NamesSettled client pa loadBalancers routes := by
  constructor
  · rintro ⟨clusters, listeners, endpoints⟩
    refine ⟨agreeByKey_iff_alike.mp ⟨clusters, endpoints⟩, ?_⟩
    intro left leftServed right rightServed sameName leftKept rightKept
    obtain ⟨leftListener, leftShown, leftName, leftAddress⟩ :=
      exists_visible_listener leftServed leftKept
    obtain ⟨rightListener, rightShown, rightName, rightAddress⟩ :=
      exists_visible_listener rightServed rightKept
    rw [← leftAddress, ← rightAddress, listeners _ leftShown _ rightShown
      (by rw [leftName, rightName, sameName])]
  · intro settled
    obtain ⟨clusters, endpoints⟩ := agreeByKey_iff_alike.mpr settled.alike
    refine ⟨clusters, fun left leftShown right rightShown sameName => ?_, endpoints⟩
    obtain ⟨leftPort, inLeft, leftServed, leftName, leftEntry, leftKept, isLeft⟩ :=
      exists_port_of_visible leftShown
    obtain ⟨rightPort, inRight, rightServed, rightName, rightEntry, rightKept, isRight⟩ :=
      exists_port_of_visible rightShown
    have samePrinted : leftPort.name = rightPort.name := by rw [← leftName, ← rightName, sameName]
    have alike := settled.alike _ inLeft _ inRight samePrinted
    have sameAddress := settled.sameAddress leftPort.entry leftEntry rightPort.entry rightEntry
      samePrinted leftKept rightKept
    apply Option.some.inj
    rw [← isLeft, ← isRight, leftPort.resources_listener _ _ _ leftServed,
      rightPort.resources_listener _ _ _ rightServed]
    simp only [samePrinted, sameAddress, alike.udp, alike.hashesSource, alike.upstreamProtocol]

theorem exists_cluster_of_built
    (isClusters : snapshot.clusters = indexBy Cluster.name
      (sort.run Cluster.name (built.map PortResources.cluster)))
    {resources : PortResources} (member : resources ∈ built) :
    ∃ other ∈ built, snapshot.clusters.lookup resources.cluster.name = some other.cluster ∧
      other.cluster.name = resources.cluster.name := by
  obtain ⟨cluster, found⟩ := exists_lookup_indexBy Cluster.name
    ((sort.perm Cluster.name (built.map PortResources.cluster)).mem_iff.mpr
      (List.mem_map_of_mem member))
  obtain ⟨inSorted, sameName⟩ := mem_of_lookup_indexBy Cluster.name found
  obtain ⟨other, otherMember, rfl⟩ := List.mem_map.mp
    ((sort.perm Cluster.name (built.map PortResources.cluster)).mem_iff.mp inSorted)
  exact ⟨other, otherMember, isClusters ▸ found, sameName⟩

theorem exists_built_of_assignment
    (isEndpoints : snapshot.endpoints = indexBy ClusterLoadAssignment.clusterName
      (sort.run ClusterLoadAssignment.clusterName (built.flatMap PortResources.endpoints)))
    {name : String} {assignment : ClusterLoadAssignment}
    (found : snapshot.endpoints.lookup name = some assignment) :
    assignment.clusterName = name ∧ ∃ resources ∈ built,
      resources.cluster.discoveryType = .eds ∧ resources.loadAssignment = assignment := by
  rw [isEndpoints] at found
  obtain ⟨inSorted, sameName⟩ := mem_of_lookup_indexBy ClusterLoadAssignment.clusterName found
  exact ⟨sameName, mem_endpoints_iff.mp
    ((sort.perm ClusterLoadAssignment.clusterName _).mem_iff.mp inSorted)⟩

/-- Every reference resolves, and no assignment is left without its cluster when
the ports of each name agree. -/
theorem intact_of_settled
    (inNamespace : InNamespace ns loadBalancers routes)
    (settled : NamesSettled client pa loadBalancers routes)
    (mapped : mapSnapshot client loadBalancers routes pa headerLimits sort codec =
      .ok snapshot) :
    snapshot.Intact := by
  obtain ⟨built, isBuilt, isClusters, isListeners, isEndpoints⟩ := mapSnapshot_ok mapped
  obtain ⟨-, rfl⟩ := (buildResources_ok_iff inNamespace).mp isBuilt
  set built := (snapshotPorts loadBalancers routes).map
    (SnapshotPort.resources client pa headerLimits)
  have coherent : ∀ resources ∈ built, resources.Coherent := coherent_resources _
  refine ⟨fun name listener found => ?_, fun name cluster found isType => ?_,
    fun name assignment found => ?_⟩
  · rw [isListeners] at found
    obtain ⟨published, -⟩ := mem_of_lookup_indexBy Listener.name found
    have inBuilt := (sort.perm Listener.name _).mem_iff.mp
      ((dedupListenersByAddress_sublist _).subset published)
    obtain ⟨port, inPorts, -, -, -, isTarget, -⟩ := mem_portListeners inBuilt
    obtain ⟨other, -, isCluster, -⟩ :=
      exists_cluster_of_built isClusters (List.mem_map_of_mem inPorts)
    rw [SnapshotPort.resources_cluster] at isCluster
    exact ⟨other.cluster, isTarget ▸ isCluster⟩
  · rw [isClusters] at found
    obtain ⟨inSorted, -⟩ := mem_of_lookup_indexBy Cluster.name found
    obtain ⟨resources, member, rfl⟩ := List.mem_map.mp
      ((sort.perm Cluster.name (built.map PortResources.cluster)).mem_iff.mp inSorted)
    have published : resources.loadAssignment ∈ built.flatMap PortResources.endpoints :=
      mem_endpoints_iff.mpr ⟨resources, member, isType, rfl⟩
    obtain ⟨assignment, isAssignment⟩ := exists_lookup_indexBy
      ClusterLoadAssignment.clusterName
      ((sort.perm ClusterLoadAssignment.clusterName _).mem_iff.mpr published)
    rw [← isEndpoints, (coherent resources member).clusterName] at isAssignment
    have assignmentName := (exists_built_of_assignment isEndpoints isAssignment).1
    refine ⟨assignment, ⟨_, isAssignment, assignmentName⟩, ?_⟩
    rintro other ⟨key, isOther, otherName⟩
    rw [← (exists_built_of_assignment isEndpoints isOther).1, otherName, isAssignment] at isOther
    exact (Option.some.inj isOther).symm
  · obtain ⟨-, resources, member, isType, rfl⟩ := exists_built_of_assignment isEndpoints found
    obtain ⟨other, otherMember, isCluster, sameName⟩ := exists_cluster_of_built isClusters member
    refine ⟨other.cluster, by rw [(coherent resources member).clusterName]; exact isCluster, ?_⟩
    obtain ⟨port, inPorts, rfl⟩ := List.mem_map.mp member
    obtain ⟨otherPort, otherInPorts, rfl⟩ := List.mem_map.mp otherMember
    simp only [SnapshotPort.resources_cluster] at sameName isType ⊢
    rw [(settled.alike _ otherInPorts _ inPorts sameName).discoveryType, isType]

end Alike

/-! ## Order independence -/

section Main

variable (client : AddressesClient) (loadBalancers : List LoadBalancer) (routes : List Route)
  (pa : PortAllocator) (headerLimits : HeaderLimits)

/-- Every arrangement of the two lists gives the same snapshot, and its references
resolve, whatever each call of `sort.Slice` does with equal names and however resources
are encoded. -/
def OrderIndependent : Prop :=
  ∀ (sort : SliceSort String) (codec : ResourceCodec) (snapshot : Snapshot),
    mapSnapshot client loadBalancers routes pa headerLimits sort codec = .ok snapshot →
    snapshot.Intact ∧
    ∀ (sort' : SliceSort String) loadBalancers' routes', loadBalancers'.Perm loadBalancers →
      routes'.Perm routes →
      mapSnapshot client loadBalancers' routes' pa headerLimits sort' codec = .ok snapshot

variable {client loadBalancers routes pa headerLimits}

/-- For the objects of one namespace, whose addresses can be read, a snapshot is
independent of their order and intact exactly when the names that their ports print are
settled. -/
theorem orderIndependent_iff
    {ns : String}
    (inNamespace : InNamespace ns loadBalancers routes) :
    OrderIndependent client loadBalancers routes pa headerLimits ↔
      (AllReadable client ns loadBalancers routes →
        NamesSettled client pa loadBalancers routes) := by
  constructor
  · intro independent readable
    have isBuilt := (@buildResources_ok_iff client ns _ _ pa headerLimits _ inNamespace).mpr
      ⟨readable, rfl⟩
    -- all encodings together see the published slices
    have same (sort sort' : SliceSort String) :
        publishedResources sort' ((snapshotPorts loadBalancers routes).map
          (SnapshotPort.resources client pa headerLimits)) =
        publishedResources sort ((snapshotPorts loadBalancers routes).map
          (SnapshotPort.resources client pa headerLimits)) := by
      apply publishedResources_eq_of_snapshotOf
      intro codec snapshot isSnapshot
      rw [← mapSnapshot_eq _ codec isBuilt] at isSnapshot ⊢
      exact (independent sort codec snapshot isSnapshot).2 sort' _ _ (List.Perm.refl _)
        (List.Perm.refl _)
    simp only [publishedResources_eq_iff, publishedListeners_eq] at same
    exact agreeByKey_iff_settled.mp ⟨agreeByKey_of_run_eq fun sort sort' => (same sort sort').1,
      agreeByKey_visible fun sort sort' => (same sort sort').2.1,
      agreeByKey_of_run_eq fun sort sort' => (same sort sort').2.2⟩
  · intro settledIfRead sort codec snapshot mapped
    obtain ⟨built, isBuilt, -⟩ := mapSnapshot_ok mapped
    obtain ⟨readable, rfl⟩ := (buildResources_ok_iff inNamespace).mp isBuilt
    have settled := settledIfRead readable
    refine ⟨intact_of_settled inNamespace settled mapped, ?_⟩
    intro sort' loadBalancers' routes' lbPerm routePerm
    have inNamespace' : InNamespace ns loadBalancers' routes' :=
      ⟨fun lb member => inNamespace.loadBalancers lb (lbPerm.mem_iff.mp member),
        fun route member => inNamespace.routes route (routePerm.mem_iff.mp member)⟩
    have readable' : AllReadable client ns loadBalancers' routes' :=
      ⟨fun lb member => readable.loadBalancers lb (lbPerm.mem_iff.mp member),
        fun route member => readable.routes route (routePerm.mem_iff.mp member)⟩
    have isBuilt' := (@buildResources_ok_iff client ns _ _ pa headerLimits _ inNamespace').mpr
      ⟨readable', rfl⟩
    have perm := (snapshotPorts_perm lbPerm routePerm).map
      (SnapshotPort.resources client pa headerLimits)
    obtain ⟨clusters, listeners, endpoints⟩ :=
      (@agreeByKey_iff_settled client pa headerLimits _ _).mpr settled
    have same : publishedResources sort' _ = publishedResources sort _ :=
      publishedResources_eq_iff.mpr ⟨clusters.run_eq (perm.map _) sort sort', by
        rw [publishedListeners_eq, publishedListeners_eq]
        exact keepFirst_run_eq_of_perm sort sort' listeners (perm.filterMap _),
        endpoints.run_eq (perm.flatMap_right _) sort sort'⟩
    rw [mapSnapshot_eq sort' codec isBuilt']
    rw [mapSnapshot_eq sort codec isBuilt] at mapped
    rw [snapshotOf_congr same, mapped]

end Main

/-! ## Two Routes of one name -/

def shopRoute (uid kind name : String) : Route where
  metadata := { name := uid, ns := "tenant-a" }
  spec :=
    { endpoints := [{ addresses := [{ ip := "10.0.0.1" }] }]
      source := some
        { route :=
            { gvk := ⟨"gateway.networking.k8s.io", "v1", kind⟩
              metadata := { name := name, ns := "shop" } }
          services := [
            { metadata := { name := "api", ns := "shop" }
              spec := { ports := [{ port := 80, nodePort := 30080 }] } }] } }

/-- An HTTPRoute and a GRPCRoute `shop/web`. -/
def namesakeRoutes : List Route :=
  [shopRoute "uid-x" "HTTPRoute" "web", shopRoute "uid-y" "GRPCRoute" "web"]

def noAddresses : AddressesClient := fun _ _ => .error ⟨"not found"⟩

def emptyCodec : ResourceCodec := ⟨fun _ => .ok [], fun _ => ""⟩

def shopProtocol (routes : List Route) : Option UpstreamProtocol :=
  match mapSnapshot noAddresses [] routes newPortAllocator {} (SliceSort.stable String)
      emptyCodec with
  | .error _ => none
  | .ok snapshot =>
      ((snapshot.clusters.lookup "tenant-tenant-a-route-shop-api-shop-web-port-80-TCP").bind
        (·.upstreamHTTP)).map (·.protocol)

/-- An HTTPRoute and a GRPCRoute of one name print one cluster name. The cluster
speaks HTTP/1 or HTTP/2 after the Route that is listed last. -/
theorem namesakes_depend_on_order :
    (∀ route ∈ namesakeRoutes, route.metadata.ns = "tenant-a") ∧
    (namesakeRoutes.map (·.metadata.name)).Nodup ∧
    shopProtocol namesakeRoutes = some .http2 ∧
    shopProtocol namesakeRoutes.reverse = some .http1 ∧
    ¬ OrderIndependent noAddresses [] namesakeRoutes newPortAllocator {} := by
  have first : shopProtocol namesakeRoutes = some .http2 := by decide +kernel
  have second : shopProtocol namesakeRoutes.reverse = some .http1 := by decide +kernel
  refine ⟨by decide, by decide, first, second, fun independent => ?_⟩
  unfold shopProtocol at first second
  cases mapped : mapSnapshot noAddresses [] namesakeRoutes newPortAllocator {}
      (SliceSort.stable String) emptyCodec with
  | error error =>
      rw [mapped] at first
      cases first
  | ok snapshot =>
      rw [(independent _ _ snapshot mapped).2 _ _ _ (List.Perm.refl _) (List.reverse_perm _)]
        at second
      rw [mapped] at first
      exact absurd (first.symm.trans second) (by decide)

instance (client : AddressesClient) (pa : PortAllocator) (loadBalancers : List LoadBalancer)
    (routes : List Route) : Decidable (NamesSettled client pa loadBalancers routes) :=
  decidable_of_iff (_ ∧ _)
    ⟨fun both => ⟨both.1, both.2⟩, fun settled => ⟨settled.1, settled.2⟩⟩

def strangerRoutes : List Route :=
  [shopRoute "uid-x" "HTTPRoute" "web", shopRoute "uid-y" "GRPCRoute" "admin"]

/-- Routes of different names are independent of their order. -/
theorem strangers_orderIndependent :
    (∀ route ∈ strangerRoutes, route.metadata.ns = "tenant-a") ∧
    OrderIndependent noAddresses [] strangerRoutes newPortAllocator {} := by
  have inTenant : ∀ route ∈ strangerRoutes, route.metadata.ns = "tenant-a" := by decide
  have settled : NamesSettled noAddresses newPortAllocator [] strangerRoutes := by decide +kernel
  exact ⟨inTenant, (orderIndependent_iff ⟨by simp, inTenant⟩).mpr fun _ => settled⟩

end KubeLB.Envoy
