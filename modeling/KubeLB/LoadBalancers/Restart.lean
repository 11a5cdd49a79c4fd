import KubeLB.LoadBalancers.ServicePorts
import KubeLB.PortLookup.HeldPorts

/-!
Contract: which LoadBalancer ports survive a restart of the manager.

Owns: the round trip from an allocator state through the Service ports, the
written status, the reload and the next allocation, and the exact condition under
which it gives back every port.

Does not own: Routes, whose statuses are written from other Services.

The status records the ports of one Service, which is built from the first
endpoint alone. The reload looks for every port of every endpoint in it, by name
and protocol or, without names, by the upstream port.
-/

set_option autoImplicit false

namespace KubeLB.LoadBalancers

open KubeLB.Library KubeLB.Core KubeLB.V1Alpha1 KubeLB.Naming KubeLB.PortLookup

/-! ## The round trip -/

/-- `Spec.Endpoints[0].Ports`. -/
def firstPorts (lb : LoadBalancer) : List EndpointPort :=
  match lb.spec.endpoints with
  | [] => []
  | endpoint :: _ => endpoint.ports

/-- The LoadBalancer with the status that is written for its Service. -/
def withServiceStatus (lb : LoadBalancer) (svcPorts : List Core.ServicePort) : LoadBalancer :=
  { lb with status := { service := { ports := buildServicePortStatus svcPorts (firstPorts lb) } } }

/-- The stored form of a LoadBalancer whose Service was built from the allocator. -/
def StoredFrom (sort : SliceSort String) (existing : LoadBalancer → Service)
    (pa : PortAllocator) (lb stored : LoadBalancer) : Prop :=
  ∃ svcPorts, createServicePorts sort lb (existing lb) pa = some svcPorts ∧
    stored = withServiceStatus lb svcPorts

/-- Every endpoint has a port for each of its port keys, and after a reload from the
stored objects the next allocation gives it the same one, whatever it could draw. -/
def SurvivesRestart (sort : SliceSort String) (existing : LoadBalancer → Service)
    (loadBalancers : List LoadBalancer) (pa : PortAllocator) : Prop :=
  ∀ stored, List.Forall₂ (StoredFrom sort existing pa) loadBalancers stored →
  ∀ (restarted : PortAllocator) (draws : List Draw), ∃ pa' rest,
    (restarted.loadState ⟨.ok stored, .ok []⟩).1.allocatePortsForLoadBalancers stored draws =
      some (pa', rest) ∧
    ∀ slot ∈ loadBalancers.flatMap loadBalancerSlots, ∀ portKey ∈ slot.portKeys, ∃ port,
      pa.lookup slot.endpointKey portKey = some port ∧
      pa'.lookup slot.endpointKey portKey = some port

/-! ## Which spec ports a reload may take -/

/-- The reload takes the recorded port of `lbPort` for the endpoint port. -/
def Candidate (first : List EndpointPort) (port : EndpointPort) (lbPort : LoadBalancerPort) :
    Prop :=
  lbPort.protocol = port.protocol ∧
    if port.name ≠ "" ∨ lbPort.name ≠ "" then lbPort.name = port.name
    else upstreamTargetPort first lbPort.name lbPort.protocol = port.port

instance (first : List EndpointPort) (port : EndpointPort) (lbPort : LoadBalancerPort) :
    Decidable (Candidate first port lbPort) :=
  inferInstanceAs (Decidable (_ ∧ _))

/-- A port of an endpoint of a LoadBalancer. -/
structure ListedPort where
  lb : LoadBalancer
  index : Nat
  port : EndpointPort

def ListedPort.endpointKey (listed : ListedPort) : String :=
  envoyEndpointPattern listed.lb.metadata.ns listed.lb.metadata.name listed.index

def ListedPort.portKey (listed : ListedPort) : String :=
  envoyListenerPattern listed.port.port listed.port.protocol

def listedPorts (loadBalancers : List LoadBalancer) : List ListedPort :=
  loadBalancers.flatMap (fun lb => lb.spec.endpoints.zipIdx.flatMap (fun indexed =>
    indexed.1.ports.map (fun port => ⟨lb, indexed.2, port⟩)))

/-- The listed ports with a pair of keys for which a status records something. -/
def recordedPorts (loadBalancers : List LoadBalancer) (endpointKey portKey : String) :
    List ListedPort :=
  (listedPorts loadBalancers).filter (fun listed =>
    (listed.endpointKey = endpointKey ∧ listed.portKey = portKey) ∧
    ∃ lbPort ∈ listed.lb.spec.ports, Candidate (firstPorts listed.lb) listed.port lbPort)

/-- Endpoints that print one allocator key list the same port keys. -/
def SharedKeysAgree (loadBalancers : List LoadBalancer) : Prop :=
  ∀ slot ∈ loadBalancers.flatMap loadBalancerSlots,
    ∀ other ∈ loadBalancers.flatMap loadBalancerSlots, other.endpointKey = slot.endpointKey →
      ∀ portKey ∈ slot.portKeys, portKey ∈ other.portKeys

/-- The recorded port of `lbPort` is the one that the endpoint at `index` holds for
the endpoint port: it is the first endpoint and the names lead to the same number,
or the Service had to fall back to a number that is the held port by chance. -/
def Recovers (pa : PortAllocator) (lb : LoadBalancer) (index : Nat) (port : EndpointPort)
    (lbPort : LoadBalancerPort) (byIndex : EndpointPort) : Prop :=
  (index = 0 ∧ resolvedPort (firstPorts lb) lbPort byIndex = port.port) ∨
  ((∀ other ∈ firstPorts lb, ¬(other.port = resolvedPort (firstPorts lb) lbPort byIndex ∧
      other.protocol = lbPort.protocol)) ∧
    pa.lookup (envoyEndpointPattern lb.metadata.ns lb.metadata.name index)
      (envoyListenerPattern port.port port.protocol) =
        some (resolvedPort (firstPorts lb) lbPort byIndex).toInt)

/-- Every port of every endpoint is recorded, and what may be taken for it is its
own port. -/
def Recoverable (pa : PortAllocator) (loadBalancers : List LoadBalancer) : Prop :=
  ∀ slot ∈ loadBalancers.flatMap loadBalancerSlots, ∀ portKey ∈ slot.portKeys, ∃ listed,
    (recordedPorts loadBalancers slot.endpointKey portKey).getLast? = some listed ∧
      ∀ lbPort ∈ listed.lb.spec.ports.zipIdx, ∀ byIndex,
        (firstPorts listed.lb)[lbPort.2]? = some byIndex →
        Candidate (firstPorts listed.lb) listed.port lbPort.1 →
        Recovers pa listed.lb listed.index listed.port lbPort.1 byIndex

/-! ## What the status records -/

def CreatedFrom (pa : PortAllocator) (lb : LoadBalancer) (existingService : Service)
    (created : List Core.ServicePort) : Prop :=
  List.Forall₂ (fun lbPort port => ∃ byIndex, (firstPorts lb)[lbPort.2]? = some byIndex ∧
    port = servicePort pa lb existingService (firstPorts lb) lbPort.1 byIndex)
    lb.spec.ports.zipIdx created

section Status

variable {pa : PortAllocator} {lb : LoadBalancer} {existingService : Service}
  {created : List Core.ServicePort}

theorem storedPort_buildServicePortStatus (svcPorts : List Core.ServicePort)
    (first : List EndpointPort) (port : EndpointPort) :
    storedPort (buildServicePortStatus svcPorts first) port =
      (svcPorts.find? (fun svcPort => statusPortMatches port (portStatus first svcPort))).map
        (·.targetPort.intValue) := by
  unfold storedPort buildServicePortStatus
  rw [List.find?_map, Option.map_map]
  rfl

/-- The status of a created port matches exactly the ports its spec port is a
candidate for. -/
theorem statusPortMatches_iff (first : List EndpointPort) (port : EndpointPort)
    (lbPort : LoadBalancerPort) (byIndex : EndpointPort) :
    statusPortMatches port
        (portStatus first (servicePort pa lb existingService first lbPort byIndex)) = true ↔
      Candidate first port lbPort := by
  unfold statusPortMatches Candidate
  by_cases sameProtocol : lbPort.protocol = port.protocol
  · by_cases named : port.name ≠ "" ∨ lbPort.name ≠ ""
    · simp [portStatus, servicePort, sameProtocol, named]
    · simp [portStatus, servicePort, sameProtocol, named]
  · simp [portStatus, servicePort, sameProtocol]

theorem candidate_of_storedPort (from' : CreatedFrom pa lb existingService created)
    {sort : SliceSort String} {port : EndpointPort} {value : Int}
    (stored : storedPort (buildServicePortStatus (sort.run Core.ServicePort.name created)
      (firstPorts lb)) port = some value) :
    ∃ lbPort ∈ lb.spec.ports.zipIdx, ∃ byIndex, (firstPorts lb)[lbPort.2]? = some byIndex ∧
      Candidate (firstPorts lb) port lbPort.1 ∧
      value = (targetPort pa lb (firstPorts lb) lbPort.1 byIndex).toInt := by
  rw [storedPort_buildServicePortStatus] at stored
  obtain ⟨svcPort, isFound, rfl⟩ := Option.map_eq_some_iff.mp stored
  have inCreated := (sort.perm Core.ServicePort.name created).mem_iff.mp
    (List.mem_of_find?_eq_some isFound)
  obtain ⟨lbPort, inSpec, byIndex, isByIndex, rfl⟩ := forall₂_partner from'.flip inCreated
  have matched := List.find?_some isFound
  rw [statusPortMatches_iff] at matched
  exact ⟨lbPort, inSpec, byIndex, isByIndex, matched, servicePort_target _ _ _ _ _ _⟩

theorem storedPort_isSome_iff (from' : CreatedFrom pa lb existingService created)
    (sort : SliceSort String) (port : EndpointPort) :
    (storedPort (buildServicePortStatus (sort.run Core.ServicePort.name created)
      (firstPorts lb)) port).isSome ↔
      ∃ lbPort ∈ lb.spec.ports, Candidate (firstPorts lb) port lbPort := by
  constructor
  · intro recorded
    obtain ⟨value, stored⟩ := Option.isSome_iff_exists.mp recorded
    obtain ⟨lbPort, inSpec, -, -, candidate, -⟩ := candidate_of_storedPort from' stored
    exact ⟨lbPort.1, List.fst_mem_of_mem_zipIdx inSpec, candidate⟩
  · rintro ⟨lbPort, inSpec, candidate⟩
    obtain ⟨index, inRange, rfl⟩ := List.mem_iff_getElem.mp inSpec
    have indexed : (lb.spec.ports[index], index) ∈ lb.spec.ports.zipIdx :=
      List.mk_mem_zipIdx_iff_getElem?.mpr (List.getElem?_eq_getElem inRange)
    obtain ⟨svcPort, inCreated, byIndex, -, rfl⟩ := forall₂_partner from' indexed
    rw [storedPort_buildServicePortStatus, Option.isSome_map, List.find?_isSome]
    exact ⟨_, (sort.perm _ _).mem_iff.mpr inCreated, (statusPortMatches_iff _ _ _ _).mpr candidate⟩

theorem Candidate.name_eq {first : List EndpointPort} {port : EndpointPort}
    {lbPort lbPort' : LoadBalancerPort}
    (candidate : Candidate first port lbPort) (candidate' : Candidate first port lbPort') :
    lbPort.name = lbPort'.name := by
  have isName {current : LoadBalancerPort} (isCandidate : Candidate first port current) :
      current.name = port.name := by
    have second := isCandidate.2
    split at second
    · exact second
    · rename_i unnamed
      rw [not_or, not_not, not_not] at unnamed
      rw [unnamed.1, unnamed.2]
  rw [isName candidate, isName candidate']

/-- Any candidate may be the one that the reload takes. -/
theorem exists_sort_storedPort (from' : CreatedFrom pa lb existingService created)
    {port : EndpointPort} {lbPort : LoadBalancerPort × Nat}
    (inSpec : lbPort ∈ lb.spec.ports.zipIdx) {byIndex : EndpointPort}
    (isByIndex : (firstPorts lb)[lbPort.2]? = some byIndex)
    (candidate : Candidate (firstPorts lb) port lbPort.1) :
    ∃ sort : SliceSort String,
      storedPort (buildServicePortStatus (sort.run Core.ServicePort.name created)
        (firstPorts lb)) port =
        some (targetPort pa lb (firstPorts lb) lbPort.1 byIndex).toInt := by
  refine ⟨SliceSort.movingFirst String lbPort.2, ?_⟩
  have specAt : lb.spec.ports.zipIdx[lbPort.2]? = some lbPort := by
    rw [List.getElem?_zipIdx, List.mk_mem_zipIdx_iff_getElem?.mp inSpec]
    simp
  obtain ⟨svcPort, createdAt, byIndex', isByIndex', rfl⟩ := forall₂_getElem? from' specAt
  obtain rfl : byIndex' = byIndex := Option.some.inj (isByIndex'.symm.trans isByIndex)
  rw [storedPort_buildServicePortStatus, find?_movingFirst Core.ServicePort.name createdAt
    ((statusPortMatches_iff _ _ _ _).mpr candidate), Option.map_some, servicePort_target]
  intro other inCreated matched
  obtain ⟨lbPort', inSpec', byIndex', -, rfl⟩ := forall₂_partner from'.flip inCreated
  exact ((statusPortMatches_iff _ _ _ _).mp matched).name_eq candidate

/-- In a duplicate-free state that holds exactly the ports of the first endpoint
under its key, a recorded target is the held port exactly when it recovers it. -/
theorem target_eq_held_iff (free : DuplicateFree pa)
    (first : ∀ portKey, (∃ value,
      pa.lookup (envoyEndpointPattern lb.metadata.ns lb.metadata.name 0) portKey = some value) ↔
      portKey ∈ (firstPorts lb).map (fun port => envoyListenerPattern port.port port.protocol))
    {index : Nat} {port : EndpointPort} {lbPort : LoadBalancerPort} {byIndex : EndpointPort}
    {value : Int}
    (found : pa.lookup (envoyEndpointPattern lb.metadata.ns lb.metadata.name index)
      (envoyListenerPattern port.port port.protocol) = some value)
    (sameProtocol : lbPort.protocol = port.protocol) :
    (targetPort pa lb (firstPorts lb) lbPort byIndex).toInt = value ↔
      Recovers pa lb index port lbPort byIndex := by
  have listed := first (envoyListenerPattern (resolvedPort (firstPorts lb) lbPort byIndex)
    lbPort.protocol)
  unfold Recovers
  cases isHeld : pa.lookup (envoyEndpointPattern lb.metadata.ns lb.metadata.name 0)
      (envoyListenerPattern (resolvedPort (firstPorts lb) lbPort byIndex) lbPort.protocol) with
  | some held =>
      obtain ⟨other, otherMember, sameKey⟩ := List.mem_map.mp (listed.mp ⟨held, isHeld⟩)
      have isOther := envoyListenerPattern_injective sameKey
      have noFallback : ¬∀ other ∈ firstPorts lb,
          ¬(other.port = resolvedPort (firstPorts lb) lbPort byIndex ∧
            other.protocol = lbPort.protocol) :=
        fun absent => absent other otherMember isOther
      rw [targetPort_of_held isHeld, (free.portNumbers _ _ _ isHeld).toInt_ofInt]
      simp only [noFallback, false_and, or_false]
      constructor
      · rintro rfl
        obtain ⟨sameEndpoint, samePort⟩ := free.unique found isHeld
        exact ⟨(envoyEndpointPattern_injective sameEndpoint).2,
          (envoyListenerPattern_injective samePort).1.symm⟩
      · rintro ⟨rfl, samePort⟩
        rw [samePort, sameProtocol, found] at isHeld
        exact (Option.some.inj isHeld).symm
  | none =>
      have fallback : ∀ other ∈ firstPorts lb,
          ¬(other.port = resolvedPort (firstPorts lb) lbPort byIndex ∧
            other.protocol = lbPort.protocol) := by
        intro other otherMember isOther
        obtain ⟨held, isSome⟩ := listed.mpr (List.mem_map.mpr
          ⟨other, otherMember, by rw [isOther.1, isOther.2]⟩)
        rw [isHeld] at isSome
        cases isSome
      have notFirst : ¬(index = 0 ∧
          resolvedPort (firstPorts lb) lbPort byIndex = port.port) := by
        rintro ⟨rfl, samePort⟩
        rw [samePort, sameProtocol, found] at isHeld
        cases isHeld
      rw [targetPort_of_missing isHeld]
      simp only [notFirst, false_or, found, Option.some.injEq]
      exact ⟨fun same => ⟨fallback, same.symm⟩, fun both => both.2.symm⟩

end Status

/-! ## The stored list -/

section Stored

variable {pa : PortAllocator} {stored : List LoadBalancer}

theorem slot_of_write {write : Write} (member : write ∈ stored.flatMap loadBalancerWrites) :
    ∃ slot ∈ stored.flatMap loadBalancerSlots, slot.endpointKey = write.endpointKey ∧
      write.portKey ∈ slot.portKeys := by
  obtain ⟨lb, inStored, inLb⟩ := List.mem_flatMap.mp member
  obtain ⟨indexed, inEndpoints, inEndpoint⟩ := List.mem_flatMap.mp inLb
  obtain ⟨port, inPorts, inPort⟩ := List.mem_flatMap.mp inEndpoint
  obtain ⟨value, -, rfl⟩ := Option.map_eq_some_iff.mp (Option.mem_toList.mp inPort)
  refine ⟨_, List.mem_flatMap.mpr ⟨lb, inStored, List.mem_map.mpr ⟨indexed, inEndpoints, rfl⟩⟩,
    rfl, List.mem_map.mpr ⟨port, inPorts, rfl⟩⟩

/-- A duplicate-free state comes back after a restart exactly when endpoints of one key
agree and the reload reads every one of their ports. -/
theorem restart_iff_reads (free : DuplicateFree pa) :
    (∀ (restarted : PortAllocator) (draws : List Draw), ∃ pa' rest,
      (restarted.loadState ⟨.ok stored, .ok []⟩).1.allocatePortsForLoadBalancers stored draws =
        some (pa', rest) ∧
      ∀ slot ∈ stored.flatMap loadBalancerSlots, ∀ portKey ∈ slot.portKeys, ∃ port,
        pa.lookup slot.endpointKey portKey = some port ∧
        pa'.lookup slot.endpointKey portKey = some port) ↔
    SharedKeysAgree stored ∧
    ∀ slot ∈ stored.flatMap loadBalancerSlots, ∀ portKey ∈ slot.portKeys, ∃ port,
      pa.lookup slot.endpointKey portKey = some port ∧
      lastWrite slot.endpointKey portKey (stored.flatMap loadBalancerWrites) = some port := by
  have table (endpointKey portKey : String) :
      cell (loadTable stored []) endpointKey portKey =
        lastWrite endpointKey portKey (stored.flatMap loadBalancerWrites) := by
    rw [cell_loadTable, List.flatMap_nil, List.append_nil]
  constructor
  · intro survives
    obtain ⟨pa', rest, allocated, same⟩ := survives newPortAllocator []
    constructor
    · intro slot member other otherMember sameKey portKey listed
      obtain ⟨port, -, after⟩ := same slot member portKey listed
      exact listed_of_allocateSlots_nil allocated after other otherMember sameKey
    · intro slot member portKey listed
      obtain ⟨port, before, after⟩ := same slot member portKey listed
      refine ⟨port, before, ?_⟩
      -- Without draws the port can only come from the reload.
      rcases (allocateSlots_effect allocated).origin after with loaded | ⟨draw, none, -⟩
      · rw [← table]
        exact cell_of_lookup_loadState loaded
      · cases none
  · rintro ⟨shared, reads⟩ restarted draws
    have agree : ∀ endpointKey portKey port,
        cell (loadTable stored []) endpointKey portKey = some port →
        pa.lookup endpointKey portKey = some port := by
      intro endpointKey portKey port found
      rw [table] at found
      obtain ⟨slot, member, rfl, listed⟩ := slot_of_write (mem_of_lastWrite found)
      obtain ⟨held, before, read⟩ := reads slot member portKey listed
      rw [before, ← read]
      exact found
    have loaded : ∀ slot ∈ stored.flatMap loadBalancerSlots, ∀ portKey ∈ slot.portKeys, ∃ port,
        pa.lookup slot.endpointKey portKey = some port ∧
        (restarted.loadState ⟨.ok stored, .ok []⟩).1.lookup slot.endpointKey portKey =
          some port := by
      intro slot member portKey listed
      obtain ⟨port, before, read⟩ := reads slot member portKey listed
      exact ⟨port, before, by rw [free.lookup_loadState agree, table, read]⟩
    have listedBy {slot : Slot} (member : slot ∈ stored.flatMap loadBalancerSlots)
        {portKey : String} (listed : portKey ∈ slot.portKeys) :=
      fun other otherMember sameKey => shared slot member other otherMember sameKey portKey listed
    obtain ⟨pa', allocated⟩ := allocateSlots_of_held (fun slot member portKey listed =>
      ⟨(loaded slot member portKey listed).imp fun _ both => both.2, listedBy member listed⟩) draws
    refine ⟨pa', draws, allocated, fun slot member portKey listed => ?_⟩
    obtain ⟨port, before, isLoaded⟩ := loaded slot member portKey listed
    exact ⟨port, before,
      (allocateSlots_effect allocated).kept isLoaded (listedBy member listed)⟩

end Stored

/-! ## The exact condition -/

section Exact

variable {loadBalancers : List LoadBalancer} {existing : LoadBalancer → Service}
  {pa₀ pa : PortAllocator} {draws rest : List Draw}

/-- The LoadBalancer has an endpoint, and its first one has enough ports for
`CreateServicePorts` to return. -/
def HasEnoughPorts (lb : LoadBalancer) : Prop :=
  lb.spec.endpoints ≠ [] ∧ lb.spec.ports.length ≤ (firstPorts lb).length

theorem created_of_enough {lb : LoadBalancer} (enough : HasEnoughPorts lb)
    (existingService : Service) (pa : PortAllocator) :
    ∃ created, (∀ sort, createServicePorts sort lb existingService pa =
        some (sort.run Core.ServicePort.name created)) ∧
      CreatedFrom pa lb existingService created := by
  obtain ⟨endpoint, others, isEndpoints⟩ := List.exists_cons_of_ne_nil enough.1
  have isFirst : firstPorts lb = endpoint.ports := by simp [firstPorts, isEndpoints]
  have lengths := enough.2
  unfold CreatedFrom
  rw [isFirst] at lengths ⊢
  exact createServicePorts_of_enough lb existingService pa isEndpoints lengths

def statusPorts (sort : SliceSort String) (created : LoadBalancer → List Core.ServicePort)
    (lb : LoadBalancer) : List V1Alpha1.ServicePort :=
  buildServicePortStatus (sort.run Core.ServicePort.name (created lb)) (firstPorts lb)

def storedList (sort : SliceSort String) (created : LoadBalancer → List Core.ServicePort)
    (loadBalancers : List LoadBalancer) : List LoadBalancer :=
  loadBalancers.map (fun lb => withServiceStatus lb (sort.run Core.ServicePort.name (created lb)))

theorem slots_storedList (sort : SliceSort String)
    (created : LoadBalancer → List Core.ServicePort) (loadBalancers : List LoadBalancer) :
    (storedList sort created loadBalancers).flatMap loadBalancerSlots =
      loadBalancers.flatMap loadBalancerSlots := by
  rw [storedList, List.flatMap_map]
  rfl

/-- What the reload reads for a cell: the record of the last recorded port. -/
theorem lastWrite_storedList {created : LoadBalancer → List Core.ServicePort}
    (creates : ∀ lb ∈ loadBalancers, CreatedFrom pa lb (existing lb) (created lb))
    (sort : SliceSort String) (endpointKey portKey : String) :
    lastWrite endpointKey portKey
        ((storedList sort created loadBalancers).flatMap loadBalancerWrites) =
      (recordedPorts loadBalancers endpointKey portKey).getLast?.bind (fun listed =>
        storedPort (statusPorts sort created listed.lb) listed.port) := by
  have writes : (storedList sort created loadBalancers).flatMap loadBalancerWrites =
      (listedPorts loadBalancers).flatMap (fun listed =>
        ((storedPort (statusPorts sort created listed.lb) listed.port).map (fun port =>
          { endpointKey := listed.endpointKey, portKey := listed.portKey
            port := port : Write })).toList) := by
    simp only [storedList, listedPorts, List.flatMap_map, List.flatMap_assoc]
    rfl
  have recorded : (listedPorts loadBalancers).filter (fun listed =>
        (listed.endpointKey = endpointKey ∧ listed.portKey = portKey) ∧
        (storedPort (statusPorts sort created listed.lb) listed.port).isSome) =
      recordedPorts loadBalancers endpointKey portKey := by
    apply List.filter_congr
    intro listed member
    obtain ⟨lb, inList, inLb⟩ := List.mem_flatMap.mp member
    obtain ⟨indexed, -, inEndpoint⟩ := List.mem_flatMap.mp inLb
    obtain ⟨port, -, rfl⟩ := List.mem_map.mp inEndpoint
    simp only [statusPorts, storedPort_isSome_iff (creates lb inList) sort port]
  rw [writes, lastWrite_flatMap_toList, recorded]

theorem held_iff_listed
    (allocated : pa₀.allocatePortsForLoadBalancers loadBalancers draws = some (pa, rest))
    (shared : SharedKeysAgree loadBalancers) {slot : Slot}
    (member : slot ∈ loadBalancers.flatMap loadBalancerSlots) (portKey : String) :
    (∃ port, pa.lookup slot.endpointKey portKey = some port) ↔ portKey ∈ slot.portKeys := by
  obtain ⟨last, inSlots, isKey, isLast⟩ := exists_lastSlot_of_mem member
  rw [(allocateSlots_effect allocated).held isLast]
  exact ⟨shared last inSlots slot member isKey.symm portKey,
    shared slot member last inSlots isKey portKey⟩

theorem firstPorts_held
    (allocated : pa₀.allocatePortsForLoadBalancers loadBalancers draws = some (pa, rest))
    (shared : SharedKeysAgree loadBalancers) {lb : LoadBalancer} (member : lb ∈ loadBalancers)
    (nonempty : lb.spec.endpoints ≠ []) (portKey : String) :
    (∃ port, pa.lookup (envoyEndpointPattern lb.metadata.ns lb.metadata.name 0) portKey =
      some port) ↔
      portKey ∈ (firstPorts lb).map (fun port => envoyListenerPattern port.port port.protocol) := by
  obtain ⟨endpoint, others, isEndpoints⟩ := List.exists_cons_of_ne_nil nonempty
  have isFirst : firstPorts lb = endpoint.ports := by simp [firstPorts, isEndpoints]
  have inSlots : (⟨envoyEndpointPattern lb.metadata.ns lb.metadata.name 0,
      endpoint.ports.map (fun port => envoyListenerPattern port.port port.protocol)⟩ : Slot) ∈
      loadBalancers.flatMap loadBalancerSlots := by
    refine List.mem_flatMap.mpr ⟨lb, member, ?_⟩
    simp [loadBalancerSlots, isEndpoints, List.zipIdx_cons]
  rw [isFirst]
  exact held_iff_listed allocated shared inSlots portKey

theorem mem_recordedPorts {endpointKey portKey : String} {listed : ListedPort}
    (isLast : (recordedPorts loadBalancers endpointKey portKey).getLast? = some listed) :
    listed.lb ∈ loadBalancers ∧ listed.endpointKey = endpointKey ∧ listed.portKey = portKey ∧
      ∃ lbPort ∈ listed.lb.spec.ports,
        Candidate (firstPorts listed.lb) listed.port lbPort := by
  obtain ⟨member, kept⟩ := List.mem_filter.mp (List.mem_of_getLast? isLast)
  simp only [decide_eq_true_eq] at kept
  obtain ⟨lb, inList, inLb⟩ := List.mem_flatMap.mp member
  obtain ⟨indexed, -, inEndpoint⟩ := List.mem_flatMap.mp inLb
  obtain ⟨port, -, rfl⟩ := List.mem_map.mp inEndpoint
  exact ⟨inList, kept.1.1, kept.1.2, kept.2⟩

/-- The reload reads the port of a cell, in whatever order the Service ports of equal
names are sorted, exactly when its last record recovers it. -/
theorem reads_iff_recovers {created : LoadBalancer → List Core.ServicePort}
    (enough : ∀ lb ∈ loadBalancers, HasEnoughPorts lb) (free : DuplicateFree pa)
    (allocated : pa₀.allocatePortsForLoadBalancers loadBalancers draws = some (pa, rest))
    (shared : SharedKeysAgree loadBalancers)
    (creates : ∀ lb ∈ loadBalancers, CreatedFrom pa lb (existing lb) (created lb))
    {endpointKey portKey : String} {port : Int}
    (found : pa.lookup endpointKey portKey = some port) :
    (∀ sort, lastWrite endpointKey portKey
      ((storedList sort created loadBalancers).flatMap loadBalancerWrites) = some port) ↔
    ∃ listed, (recordedPorts loadBalancers endpointKey portKey).getLast? = some listed ∧
      ∀ lbPort ∈ listed.lb.spec.ports.zipIdx, ∀ byIndex,
        (firstPorts listed.lb)[lbPort.2]? = some byIndex →
        Candidate (firstPorts listed.lb) listed.port lbPort.1 →
        Recovers pa listed.lb listed.index listed.port lbPort.1 byIndex := by
  have recovers_iff {listed : ListedPort}
      (isLast : (recordedPorts loadBalancers endpointKey portKey).getLast? = some listed)
      {lbPort : LoadBalancerPort} {byIndex : EndpointPort}
      (candidate : Candidate (firstPorts listed.lb) listed.port lbPort) :
      (targetPort pa listed.lb (firstPorts listed.lb) lbPort byIndex).toInt = port ↔
        Recovers pa listed.lb listed.index listed.port lbPort byIndex := by
    obtain ⟨inList, rfl, rfl, -⟩ := mem_recordedPorts isLast
    exact target_eq_held_iff free
      (firstPorts_held allocated shared inList (enough _ inList).1) found candidate.1
  simp only [lastWrite_storedList creates]
  constructor
  · intro reads
    obtain ⟨listed, isLast, -⟩ := Option.bind_eq_some_iff.mp (reads (SliceSort.stable String))
    refine ⟨listed, isLast, fun lbPort inSpec byIndex isByIndex candidate => ?_⟩
    obtain ⟨sort, isStored⟩ := exists_sort_storedPort
      (creates _ (mem_recordedPorts isLast).1) inSpec isByIndex candidate
    have read := reads sort
    rw [isLast, Option.bind_some, statusPorts, isStored] at read
    exact (recovers_iff isLast candidate).mp (Option.some.inj read)
  · rintro ⟨listed, isLast, recovers⟩ sort
    obtain ⟨inList, -, -, recorded⟩ := mem_recordedPorts isLast
    obtain ⟨value, isStored⟩ := Option.isSome_iff_exists.mp
      ((storedPort_isSome_iff (creates _ inList) sort listed.port).mpr recorded)
    obtain ⟨lbPort, inSpec, byIndex, isByIndex, candidate, rfl⟩ :=
      candidate_of_storedPort (creates _ inList) isStored
    rw [isLast, Option.bind_some, statusPorts, isStored]
    exact congrArg some ((recovers_iff isLast candidate).mpr
      (recovers lbPort inSpec byIndex isByIndex candidate))

/-- With enough ports the stored form is the one of the created Service ports. -/
theorem forall₂_storedFrom_iff {created : LoadBalancer → List Core.ServicePort}
    {sort : SliceSort String}
    (isCreated : ∀ lb ∈ loadBalancers, createServicePorts sort lb (existing lb) pa =
      some (sort.run Core.ServicePort.name (created lb))) (stored : List LoadBalancer) :
    List.Forall₂ (StoredFrom sort existing pa) loadBalancers stored ↔
      stored = storedList sort created loadBalancers := by
  induction loadBalancers generalizing stored with
  | nil => simp [storedList]
  | cons lb loadBalancers ih =>
      rw [List.forall_mem_cons] at isCreated
      rw [List.forall₂_cons_left_iff]
      constructor
      · rintro ⟨first, others, ⟨svcPorts, isPorts, rfl⟩, paired, rfl⟩
        rw [(ih isCreated.2 others).mp paired,
          Option.some.inj (isPorts.symm.trans isCreated.1)]
        rfl
      · rintro rfl
        exact ⟨_, _, ⟨_, isCreated.1, rfl⟩, (ih isCreated.2 _).mpr rfl, rfl⟩

/-- The ports of LoadBalancers survive a restart, in whatever order the Service ports of
equal names are sorted, exactly when endpoints of one allocator key list the same port keys
and every port is recoverable. -/
theorem survivesRestart_iff
    (enough : ∀ lb ∈ loadBalancers, HasEnoughPorts lb)
    (free : DuplicateFree pa)
    (allocated : pa₀.allocatePortsForLoadBalancers loadBalancers draws = some (pa, rest)) :
    (∀ sort, SurvivesRestart sort existing loadBalancers pa) ↔
      SharedKeysAgree loadBalancers ∧ Recoverable pa loadBalancers := by
  have exists_created : ∀ lb, ∃ created, lb ∈ loadBalancers →
      (∀ sort, createServicePorts sort lb (existing lb) pa =
        some (sort.run Core.ServicePort.name created)) ∧
      CreatedFrom pa lb (existing lb) created := by
    intro lb
    by_cases member : lb ∈ loadBalancers
    · obtain ⟨created, both⟩ := created_of_enough (enough lb member) (existing lb) pa
      exact ⟨created, fun _ => both⟩
    · exact ⟨[], fun isMember => absurd isMember member⟩
  choose created isCreated using exists_created
  have creates : ∀ lb ∈ loadBalancers, CreatedFrom pa lb (existing lb) (created lb) :=
    fun lb member => (isCreated lb member).2
  have survives (sort : SliceSort String) :
      SurvivesRestart sort existing loadBalancers pa ↔ SharedKeysAgree loadBalancers ∧
        ∀ slot ∈ loadBalancers.flatMap loadBalancerSlots, ∀ portKey ∈ slot.portKeys, ∃ port,
          pa.lookup slot.endpointKey portKey = some port ∧
          lastWrite slot.endpointKey portKey
            ((storedList sort created loadBalancers).flatMap loadBalancerWrites) = some port := by
    have restart := @restart_iff_reads pa (storedList sort created loadBalancers) free
    simp only [SharedKeysAgree, slots_storedList] at restart
    rw [← SharedKeysAgree] at restart
    rw [← restart]
    simp only [SurvivesRestart,
      forall₂_storedFrom_iff (fun lb member => (isCreated lb member).1 sort), forall_eq]
  have recovered := @reads_iff_recovers loadBalancers existing _ pa _ _ created enough free
    allocated
  constructor
  · intro always
    have shared := ((survives (SliceSort.stable String)).mp (always _)).1
    refine ⟨shared, fun slot member portKey listed => ?_⟩
    obtain ⟨port, found⟩ := (held_iff_listed allocated shared member portKey).mpr listed
    refine (recovered shared creates found).mp fun sort => ?_
    obtain ⟨held, isHeld, read⟩ := ((survives sort).mp (always sort)).2 slot member portKey listed
    rw [read, ← isHeld, found]
  · rintro ⟨shared, recoverable⟩ sort
    refine (survives sort).mpr ⟨shared, fun slot member portKey listed => ?_⟩
    obtain ⟨port, found⟩ := (held_iff_listed allocated shared member portKey).mpr listed
    exact ⟨port, found, (recovered shared creates found).mpr
      (recoverable slot member portKey listed) sort⟩

end Exact

/-! ## One and two endpoints -/

def zone (ip : String) : LoadBalancerEndpoints where
  addresses := [{ ip := ip }]
  ports := [⟨"http", 30080, .tcp⟩]

def zonedLoadBalancer (zones : List LoadBalancerEndpoints) : LoadBalancer where
  metadata := { name := "web", ns := "tenant-a" }
  spec := { endpoints := zones, ports := [⟨"http", .tcp, 80⟩] }

def emptyService (lb : LoadBalancer) : Service where
  metadata := { name := lb.metadata.name, ns := lb.metadata.ns }

/-- The ports of one zone survive. -/
theorem one_zone_survives_restart :
    ∃ pa rest, newPortAllocator.allocatePortsForLoadBalancers
        [zonedLoadBalancer [zone "10.0.0.1"]] [0] = some (pa, rest) ∧
      ∀ sort, SurvivesRestart sort emptyService [zonedLoadBalancer [zone "10.0.0.1"]] pa := by
  have evaluated : (newPortAllocator.allocatePortsForLoadBalancers
      [zonedLoadBalancer [zone "10.0.0.1"]] [0]).isSome = true := by
    decide
  obtain ⟨⟨pa, rest⟩, allocated⟩ := Option.isSome_iff_exists.mp evaluated
  refine ⟨pa, rest, allocated, ?_⟩
  have onlySlot : ∀ slot ∈ [zonedLoadBalancer [zone "10.0.0.1"]].flatMap loadBalancerSlots,
      slot = ⟨"tenant-a-web-ep-0", ["30080-TCP"]⟩ :=
    fun slot member => List.mem_singleton.mp member
  apply (survivesRestart_iff _ (duplicateFree_newPortAllocator.allocateSlots allocated)
    allocated).mpr
  · constructor
    · intro slot member other otherMember _ portKey listed
      rw [onlySlot other otherMember, ← onlySlot slot member]
      exact listed
    · intro slot member portKey listed
      obtain rfl := onlySlot slot member
      obtain rfl : portKey = "30080-TCP" := List.mem_singleton.mp listed
      refine ⟨⟨zonedLoadBalancer [zone "10.0.0.1"], 0, ⟨"http", 30080, .tcp⟩⟩, rfl,
        fun lbPort inSpec byIndex isByIndex _ => ?_⟩
      obtain rfl : lbPort = (⟨"http", .tcp, 80⟩, 0) := List.mem_singleton.mp inSpec
      cases isByIndex
      exact Or.inl ⟨rfl, by decide⟩
  · intro lb member
    obtain rfl : lb = zonedLoadBalancer [zone "10.0.0.1"] := List.mem_singleton.mp member
    exact ⟨by decide, by decide⟩

/-- With two zones the reload reads the port of the first one for both, healing
clears the second, and the next allocation draws another port for it. -/
theorem second_zone_moves_on_restart :
    (newPortAllocator.allocatePortsForLoadBalancers
      [zonedLoadBalancer [zone "10.0.0.1", zone "10.0.1.1"]] [0, 1]).bind (fun before =>
        (createServicePorts (SliceSort.stable String)
          (zonedLoadBalancer [zone "10.0.0.1", zone "10.0.1.1"])
          (emptyService (zonedLoadBalancer [])) before.1).bind (fun svcPorts =>
            let stored := withServiceStatus
              (zonedLoadBalancer [zone "10.0.0.1", zone "10.0.1.1"]) svcPorts
            ((newPortAllocator.loadState
                ⟨.ok [stored], .ok []⟩).1.allocatePortsForLoadBalancers [stored] [5]).map
              (fun after => (loadBalancerSlots stored).map (fun slot =>
                (slot.endpointKey, before.1.lookup slot.endpointKey "30080-TCP",
                  after.1.lookup slot.endpointKey "30080-TCP"))))) =
      some [("tenant-a-web-ep-0", some 10000, some 10000),
        ("tenant-a-web-ep-1", some 10001, some 10005)] := by
  decide

end KubeLB.LoadBalancers
