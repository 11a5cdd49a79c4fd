import KubeLB.Library.Slices
import KubeLB.PortLookup.Mapper

/-!
Contract: the Service ports of a LoadBalancer and the status written from them.

Owns: `CreateServicePorts` with its search for the endpoint port, the allocator
lookup and the preserved node ports, and `buildServicePortStatus`.

Does not own: the Service object around the ports. Indexing past the last
endpoint port, where the program panics, has no result.
-/

set_option autoImplicit false

namespace KubeLB.LoadBalancers

open KubeLB.Library KubeLB.Core KubeLB.V1Alpha1 KubeLB.Naming KubeLB.PortLookup

/-- The endpoint port whose number `CreateServicePorts` takes: the first one of
the same name, else the one at the index. -/
def resolvedPort (ports : List EndpointPort) (lbPort : LoadBalancerPort)
    (byIndex : EndpointPort) : Int32 :=
  ((ports.find? (fun port => port.name = lbPort.name)).getD byIndex).port

/-- The target port of a spec port: the allocated one, else the endpoint port. -/
def targetPort (pa : PortAllocator) (lb : LoadBalancer) (ports : List EndpointPort)
    (lbPort : LoadBalancerPort) (byIndex : EndpointPort) : Int32 :=
  let resolved := resolvedPort ports lbPort byIndex
  match pa.lookup (envoyEndpointPattern lb.metadata.ns lb.metadata.name 0)
      (envoyListenerPattern resolved lbPort.protocol) with
  | some value => Int32.ofInt value
  | none => resolved

/-- The port of the existing Service whose node port is preserved. -/
def existingPort (existingService : Service) (lbPort : LoadBalancerPort) :
    Option Core.ServicePort :=
  existingService.spec.ports.find? (fun port =>
    port.name = lbPort.name ∨ (port.port = lbPort.port ∧ port.protocol = lbPort.protocol))

def servicePort (pa : PortAllocator) (lb : LoadBalancer) (existingService : Service)
    (ports : List EndpointPort) (lbPort : LoadBalancerPort) (byIndex : EndpointPort) :
    Core.ServicePort where
  name := lbPort.name
  protocol := lbPort.protocol
  port := lbPort.port
  targetPort := .fromInt (targetPort pa lb ports lbPort byIndex).toInt
  nodePort :=
    match existingPort existingService lbPort with
    | some existing => existing.nodePort
    | none => 0

/-- The loop of `CreateServicePorts`; `none` when an index is out of range. -/
def desiredPorts (pa : PortAllocator) (lb : LoadBalancer) (existingService : Service)
    (ports : List EndpointPort) : List (LoadBalancerPort × Nat) → Option (List Core.ServicePort)
  | [] => some []
  | (lbPort, index) :: rest =>
      match ports[index]? with
      | none => none
      | some byIndex =>
          match desiredPorts pa lb existingService ports rest with
          | none => none
          | some others =>
              some (servicePort pa lb existingService ports lbPort byIndex :: others)

def createServicePorts (sort : SliceSort String) (lb : LoadBalancer)
    (existingService : Service) (pa : PortAllocator) : Option (List Core.ServicePort) :=
  match lb.spec.endpoints with
  | [] => some []
  | endpoint :: _ =>
      match desiredPorts pa lb existingService endpoint.ports lb.spec.ports.zipIdx with
      | none => none
      | some ports => some (sort.run Core.ServicePort.name ports)

/-- The search of `buildServicePortStatus`: the endpoint port of the name and
protocol, zero without one. -/
def upstreamTargetPort (endpointPorts : List EndpointPort) (name : String)
    (protocol : Protocol) : Int32 :=
  match endpointPorts.find? (fun port => port.name = name ∧ port.protocol = protocol) with
  | some port => port.port
  | none => 0

/-- One round of `buildServicePortStatus`. -/
def portStatus (endpointPorts : List EndpointPort) (svcPort : Core.ServicePort) :
    V1Alpha1.ServicePort :=
  { toServicePort := svcPort
    upstreamTargetPort := upstreamTargetPort endpointPorts svcPort.name svcPort.protocol }

def buildServicePortStatus (svcPorts : List Core.ServicePort)
    (endpointPorts : List EndpointPort) : List V1Alpha1.ServicePort :=
  svcPorts.map (portStatus endpointPorts)

/-! ## Results of `CreateServicePorts` -/

theorem targetPort_of_held {pa : PortAllocator} {lb : LoadBalancer} {ports : List EndpointPort}
    {lbPort : LoadBalancerPort} {byIndex : EndpointPort} {value : Int}
    (held : pa.lookup (envoyEndpointPattern lb.metadata.ns lb.metadata.name 0)
      (envoyListenerPattern (resolvedPort ports lbPort byIndex) lbPort.protocol) = some value) :
    targetPort pa lb ports lbPort byIndex = Int32.ofInt value := by
  simp only [targetPort, held]

theorem targetPort_of_missing {pa : PortAllocator} {lb : LoadBalancer}
    {ports : List EndpointPort} {lbPort : LoadBalancerPort} {byIndex : EndpointPort}
    (missing : pa.lookup (envoyEndpointPattern lb.metadata.ns lb.metadata.name 0)
      (envoyListenerPattern (resolvedPort ports lbPort byIndex) lbPort.protocol) = none) :
    targetPort pa lb ports lbPort byIndex = resolvedPort ports lbPort byIndex := by
  simp only [targetPort, missing]

theorem servicePort_target (pa : PortAllocator) (lb : LoadBalancer) (existingService : Service)
    (ports : List EndpointPort) (lbPort : LoadBalancerPort) (byIndex : EndpointPort) :
    (servicePort pa lb existingService ports lbPort byIndex).targetPort.intValue =
      (targetPort pa lb ports lbPort byIndex).toInt := by
  simp [servicePort, IntOrString.fromInt, IntOrString.intValue]

theorem desiredPorts_of_inRange (pa : PortAllocator) (lb : LoadBalancer)
    (existingService : Service) (ports : List EndpointPort)
    (indexed : List (LoadBalancerPort × Nat))
    (inRange : ∀ lbPort ∈ indexed, lbPort.2 < ports.length) :
    ∃ created, desiredPorts pa lb existingService ports indexed = some created ∧
      List.Forall₂ (fun lbPort port => ∃ byIndex, ports[lbPort.2]? = some byIndex ∧
        port = servicePort pa lb existingService ports lbPort.1 byIndex) indexed created := by
  induction indexed with
  | nil => exact ⟨[], rfl, List.Forall₂.nil⟩
  | cons lbPort indexed ih =>
      obtain ⟨lbPort, index⟩ := lbPort
      have bound : index < ports.length := inRange (lbPort, index) List.mem_cons_self
      obtain ⟨created, isCreated, paired⟩ := ih
        (fun later member => inRange later (List.mem_cons_of_mem _ member))
      have found : ports[index]? = some ports[index] := List.getElem?_eq_getElem bound
      refine ⟨_, ?_, List.Forall₂.cons ⟨ports[index], found, rfl⟩ paired⟩
      simp only [desiredPorts, found, isCreated]

/-- With enough endpoint ports `CreateServicePorts` returns, for every sort, the
sorted Service ports of all spec ports. -/
theorem createServicePorts_of_enough (lb : LoadBalancer)
    (existingService : Service) (pa : PortAllocator)
    {endpoint : LoadBalancerEndpoints} {others : List LoadBalancerEndpoints}
    (isEndpoints : lb.spec.endpoints = endpoint :: others)
    (enough : lb.spec.ports.length ≤ endpoint.ports.length) :
    ∃ created, (∀ sort, createServicePorts sort lb existingService pa =
        some (sort.run Core.ServicePort.name created)) ∧
      List.Forall₂ (fun lbPort port => ∃ byIndex, endpoint.ports[lbPort.2]? = some byIndex ∧
        port = servicePort pa lb existingService endpoint.ports lbPort.1 byIndex)
        lb.spec.ports.zipIdx created := by
  obtain ⟨created, isCreated, paired⟩ := desiredPorts_of_inRange pa lb existingService
    endpoint.ports lb.spec.ports.zipIdx (fun lbPort member => by
      have bound := List.snd_lt_of_mem_zipIdx member
      omega)
  refine ⟨created, fun sort => ?_, paired⟩
  simp only [createServicePorts, isEndpoints, isCreated]

def resolvedPorts (lbPorts : List LoadBalancerPort) (ports : List EndpointPort) :
    List (LoadBalancerPort × Int32) :=
  List.zipWith (fun lbPort byIndex => (lbPort, resolvedPort ports lbPort byIndex)) lbPorts ports

def resolvedServicePort (pa : PortAllocator) (ns name : String) (existingService : Service)
    (entry : LoadBalancerPort × Int32) : Core.ServicePort where
  name := entry.1.name
  protocol := entry.1.protocol
  port := entry.1.port
  targetPort :=
    .fromInt
      (match pa.lookup (envoyEndpointPattern ns name 0)
          (envoyListenerPattern entry.2 entry.1.protocol) with
        | some value => Int32.ofInt value
        | none => entry.2).toInt
  nodePort :=
    match existingPort existingService entry.1 with
    | some existing => existing.nodePort
    | none => 0

theorem map_fst_resolvedPorts {lbPorts : List LoadBalancerPort} {ports : List EndpointPort}
    (enough : lbPorts.length ≤ ports.length) :
    (resolvedPorts lbPorts ports).map Prod.fst = lbPorts := by
  have paired : (resolvedPorts lbPorts ports).map Prod.fst = (lbPorts.zip ports).map Prod.fst := by
    rw [resolvedPorts, List.map_zipWith, List.zip, List.map_zipWith]
  rw [paired, List.map_fst_zip enough]

theorem desiredPorts_zipIdx (pa : PortAllocator) (lb : LoadBalancer) (existingService : Service)
    (ports : List EndpointPort) (lbPorts : List LoadBalancerPort) (start : Nat)
    (enough : start + lbPorts.length ≤ ports.length) :
    desiredPorts pa lb existingService ports (lbPorts.zipIdx start) =
      some (List.zipWith (servicePort pa lb existingService ports) lbPorts
        (ports.drop start)) := by
  induction lbPorts generalizing start with
  | nil => rfl
  | cons lbPort lbPorts ih =>
      rw [List.length_cons] at enough
      have inRange : start < ports.length := by omega
      have tail := ih (start + 1) (by omega)
      rw [List.drop_eq_getElem_cons inRange, List.zipIdx_cons, desiredPorts, tail,
        List.getElem?_eq_getElem inRange, List.zipWith_cons_cons]

/-- What `CreateServicePorts` takes from a LoadBalancer: its name and its resolved ports. -/
theorem createServicePorts_eq_map (sort : SliceSort String) (lb : LoadBalancer)
    (existingService : Service) (pa : PortAllocator)
    {endpoint : LoadBalancerEndpoints} {others : List LoadBalancerEndpoints}
    (isEndpoints : lb.spec.endpoints = endpoint :: others)
    (enough : lb.spec.ports.length ≤ endpoint.ports.length) :
    createServicePorts sort lb existingService pa =
      some (sort.run Core.ServicePort.name ((resolvedPorts lb.spec.ports endpoint.ports).map
        (resolvedServicePort pa lb.metadata.ns lb.metadata.name existingService))) := by
  simp only [createServicePorts, isEndpoints]
  rw [desiredPorts_zipIdx pa lb existingService endpoint.ports lb.spec.ports 0 (by omega),
    List.drop_zero, resolvedPorts, List.map_zipWith]
  rfl

theorem desiredPorts_eq_none (pa : PortAllocator) (lb : LoadBalancer) (existingService : Service)
    (ports : List EndpointPort) {indexed : List (LoadBalancerPort × Nat)}
    (outOfRange : ∃ lbPort ∈ indexed, ports.length ≤ lbPort.2) :
    desiredPorts pa lb existingService ports indexed = none := by
  induction indexed with
  | nil => simp at outOfRange
  | cons lbPort indexed ih =>
      obtain ⟨lbPort, index⟩ := lbPort
      rw [List.exists_mem_cons_iff] at outOfRange
      rw [desiredPorts]
      rcases outOfRange with here | later
      · rw [List.getElem?_eq_none here]
      · rw [ih later]
        split <;> rfl

/-- With too few endpoint ports the loop indexes past the last one. -/
theorem createServicePorts_of_missing (sort : SliceSort String) (lb : LoadBalancer)
    (existingService : Service) (pa : PortAllocator)
    {endpoint : LoadBalancerEndpoints} {others : List LoadBalancerEndpoints}
    (isEndpoints : lb.spec.endpoints = endpoint :: others)
    (missing : endpoint.ports.length < lb.spec.ports.length) :
    createServicePorts sort lb existingService pa = none := by
  have outOfRange : ∃ lbPort ∈ lb.spec.ports.zipIdx, endpoint.ports.length ≤ lbPort.2 := by
    have inRange : endpoint.ports.length < lb.spec.ports.zipIdx.length := by
      rwa [List.length_zipIdx]
    refine ⟨_, List.getElem_mem inRange, ?_⟩
    simp
  simp only [createServicePorts, isEndpoints,
    desiredPorts_eq_none pa lb existingService endpoint.ports outOfRange]

end KubeLB.LoadBalancers
