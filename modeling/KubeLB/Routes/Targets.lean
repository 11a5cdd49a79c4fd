import KubeLB.Envoy.Behind
import KubeLB.PortLookup.HeldPorts
import KubeLB.Resources.Route
import KubeLB.Resources.Service

/-!
Contract: where the generated Services of a Route lead.

Owns: the exact condition under which a generated Service port targets the
published listener of its own port and the cluster behind that listener has the node
port of that port at the Route's addresses.

Does not own: LoadBalancers.

The Service falls back to the node port when the allocator has no entry, the
listener to the service port. The two agree only by coincidence, so the target
depends on the allocator key of the service, which joins names with dashes.
-/

set_option autoImplicit false

namespace KubeLB.Routes

open KubeLB.Library KubeLB.Core KubeLB.V1Alpha1 KubeLB.Naming KubeLB.PortLookup
open KubeLB.Envoy KubeLB.Resources

/-- The port at `index` of the generated Service targets the listener that the snapshot
has for the same port of `svc`, and the cluster behind the listener has the node port at
the addresses of the Route's endpoints. -/
def ReachesBackend (client : AddressesClient) (pa : PortAllocator)
    (annotations : AnnotationSettings) (snapshot : Snapshot) (route : Route) (svc : Service)
    (index : Nat) (port : Core.ServicePort) : Prop :=
  ∃ listener generated,
    snapshot.listeners.lookup (SnapshotPort.ofRoute route svc port).name = some listener ∧
    listener.address = (SnapshotPort.ofRoute route svc port).entry.bindAddress pa ∧
    (generatedService route pa annotations svc).spec.ports[index]? = some generated ∧
    generated.targetPort.intValue = listener.address.portValue.toNat ∧
    snapshot.clusterEndpoints listener.filter.cluster =
      some ((SnapshotPort.ofRoute route svc port).lbEndpoints client)

/-- The last allocation under the key of the service asks for the port. -/
def KeepsPort (allocated : List Route) (route : Route) (svc : Service)
    (port : Core.ServicePort) : Prop :=
  ∃ slot, lastSlot (routeEndpointKey route svc) (allocated.flatMap routeSlots) = some slot ∧
    envoyListenerPattern port.port port.protocol ∈ slot.portKeys

/-! ## Targets -/

theorem fallback_eq_iff (nodePort port : Int32) :
    nodePort.toInt = port.toUInt32.toNat ↔ nodePort = port ∧ 0 ≤ port.toInt := by
  have signed : port.toInt = if port.toUInt32.toNat < 2 ^ 31 then (port.toUInt32.toNat : Int)
      else port.toUInt32.toNat - 2 ^ 32 := by
    have asBits : port.toInt = port.toBitVec.toInt := rfl
    have asNat : port.toUInt32.toNat = port.toBitVec.toNat := rfl
    rw [asBits, BitVec.toInt_eq_toNat_cond, asNat]
    split <;> split <;> omega
  have upper := nodePort.toInt_lt
  have bound := port.toUInt32.toNat_lt
  rw [← Int32.toInt_inj]
  split at signed <;> omega

/-- A generated port targets the bind port exactly when the allocator has an entry
for it or the fallbacks agree. -/
theorem target_eq_bind_iff {pa : PortAllocator} (numbers : HoldsOnly IsPortNumber pa)
    (endpointKey : String) (port : Core.ServicePort) :
    (generatedPort pa endpointKey port).targetPort.intValue =
        (listenerPort pa endpointKey port.port port.protocol).toNat ↔
      (∃ value, pa.lookup endpointKey (envoyListenerPattern port.port port.protocol) =
        some value) ∨ (port.nodePort = port.port ∧ 0 ≤ port.port.toInt) := by
  unfold generatedPort listenerPort
  cases found : pa.lookup endpointKey (envoyListenerPattern port.port port.protocol) with
  | some value =>
      have valid := numbers _ _ _ found
      simp only [IntOrString.fromInt, IntOrString.intValue,
        valid.toInt_ofInt, valid.toNat_ofInt, Int.toNat_of_nonneg valid.1]
      simp
  | none =>
      simp only [IntOrString.fromInt, IntOrString.intValue, Int32.ofInt_toInt,
        fallback_eq_iff]
      simp

/-- After the allocation for a list with the Route, exactly the port keys of the
last slot of a service's key are held. -/
theorem keepsPort_iff {allocated : List Route} {pa pa' : PortAllocator}
    {draws rest : List Draw} {route : Route} {svc : Service}
    (isAllocated : pa.allocatePortsForRoutes allocated draws = some (pa', rest))
    (member : route ∈ allocated) (inServices : svc ∈ routeServices route)
    (port : Core.ServicePort) :
    (∃ value, pa'.lookup (routeEndpointKey route svc)
      (envoyListenerPattern port.port port.protocol) = some value) ↔
      KeepsPort allocated route svc port := by
  obtain ⟨last, isLast⟩ := exists_lastSlot member inServices
  have held := (allocateSlots_effect isAllocated).held isLast
  rw [held]
  constructor
  · exact fun listed => ⟨last, isLast, listed⟩
  · rintro ⟨slot, isSlot, listed⟩
    rw [isLast] at isSlot
    cases isSlot
    exact listed

/-! ## The exact condition -/

section Exact

variable {client : AddressesClient} {ns : String} {loadBalancers : List LoadBalancer}
  {routes allocated : List Route} {pa pa' : PortAllocator} {draws rest : List Draw}
  {headerLimits : HeaderLimits} {route : Route}

/-- One service port: its target and the cluster behind its listener are right in every
snapshot exactly when its port is kept, or its fallbacks agree, and it is shown. -/
theorem reachesBackend_iff
    (numbers : HoldsOnly IsPortNumber pa)
    (isAllocated : pa.allocatePortsForRoutes allocated draws = some (pa', rest))
    (member : route ∈ allocated)
    (inNamespace : InNamespace ns loadBalancers routes)
    (readable : AllReadable client ns loadBalancers routes)
    (shown : route ∈ routes)
    (annotations : AnnotationSettings)
    {svc : Service} (inServices : svc ∈ routeServices route)
    {index : Nat} {port : Core.ServicePort} (atIndex : svc.spec.ports[index]? = some port)
    (served : port.protocol.Served) :
    (∀ sort codec snapshot,
      mapSnapshot client loadBalancers routes pa' headerLimits sort codec = .ok snapshot →
      ReachesBackend client pa' annotations snapshot route svc index port) ↔
      (KeepsPort allocated route svc port ∨
        (port.nodePort = port.port ∧ 0 ≤ port.port.toInt)) ∧
      Shown client pa' loadBalancers routes (.ofRoute route svc port) := by
  have inPorts : SnapshotPort.ofRoute route svc port ∈ snapshotPorts loadBalancers routes :=
    List.mem_append_right _ (List.mem_flatMap.mpr ⟨route, shown, List.mem_flatMap.mpr
      ⟨svc, inServices, List.mem_map_of_mem (List.mem_of_getElem? atIndex)⟩⟩)
  have numbers' : HoldsOnly IsPortNumber pa' :=
    numbers.allocateSlots (fun draw _ => isPortNumber_draw draw) isAllocated
  have target := target_eq_bind_iff numbers' (routeEndpointKey route svc) port
  rw [keepsPort_iff isAllocated member inServices port] at target
  have generatedAt : (generatedService route pa' annotations svc).spec.ports[index]? =
      some (generatedPort pa' (routeEndpointKey route svc) port) := by
    simp only [generatedService, generateServiceForLBCluster, List.getElem?_map, atIndex]
    rfl
  have isBuilt := (@buildResources_ok_iff client ns _ _ pa' headerLimits _ inNamespace).mpr
    ⟨readable, rfl⟩
  have encodable : ResourceCodec.Total ⟨fun _ => .ok [], fun _ => ""⟩ := fun _ => ⟨[], rfl⟩
  rw [← target, ← @serves_iff client pa' _ _ ns headerLimits _ inNamespace readable inPorts served]
  constructor
  · intro reaches
    refine ⟨?_, fun sort codec snapshot mapped => ?_⟩
    · obtain ⟨snapshot, mapped⟩ := mapSnapshot_of_built isBuilt (SliceSort.stable String) encodable
      obtain ⟨listener, generated, -, address, isGenerated, isTarget, -⟩ :=
        reaches _ _ snapshot mapped
      obtain rfl := Option.some.inj (isGenerated.symm.trans generatedAt)
      rw [isTarget, address]
      rfl
    · obtain ⟨listener, -, found, address, -, -, behind⟩ := reaches sort codec snapshot mapped
      exact ⟨listener, found, address, behind⟩
  · rintro ⟨isTarget, serves⟩ sort codec snapshot mapped
    obtain ⟨listener, found, address, behind⟩ := serves sort codec snapshot mapped
    refine ⟨listener, _, found, address, generatedAt, ?_, behind⟩
    rw [isTarget, address]
    rfl

/-- All served ports of a Route reach their backends in every snapshot exactly when each
one's port is kept, or its fallbacks agree, and each is shown. -/
theorem routeReachesBackends_iff
    (numbers : HoldsOnly IsPortNumber pa)
    (isAllocated : pa.allocatePortsForRoutes allocated draws = some (pa', rest))
    (member : route ∈ allocated)
    (inNamespace : InNamespace ns loadBalancers routes)
    (readable : AllReadable client ns loadBalancers routes)
    (shown : route ∈ routes)
    (annotations : AnnotationSettings) :
    (∀ sort codec snapshot,
      mapSnapshot client loadBalancers routes pa' headerLimits sort codec = .ok snapshot →
      ∀ svc ∈ routeServices route, ∀ index port, svc.spec.ports[index]? = some port →
        port.protocol.Served →
          ReachesBackend client pa' annotations snapshot route svc index port) ↔
    ∀ svc ∈ routeServices route, ∀ port ∈ svc.spec.ports, port.protocol.Served →
      (KeepsPort allocated route svc port ∨
        (port.nodePort = port.port ∧ 0 ≤ port.port.toInt)) ∧
      Shown client pa' loadBalancers routes (.ofRoute route svc port) := by
  constructor
  · intro reaches svc inServices port portMember served
    obtain ⟨index, atIndex⟩ := List.mem_iff_getElem?.mp portMember
    exact (@reachesBackend_iff client ns loadBalancers _ _ _ _ _ _ headerLimits _ numbers
      isAllocated member inNamespace readable shown annotations _ inServices _ _ atIndex served).mp
        fun sort codec snapshot mapped =>
          reaches sort codec snapshot mapped svc inServices index port atIndex served
  · intro condition sort codec snapshot mapped svc inServices index port atIndex served
    exact (reachesBackend_iff numbers isAllocated member inNamespace readable shown annotations
      inServices atIndex served).mpr
        (condition svc inServices port (List.mem_of_getElem? atIndex) served)
        sort codec snapshot mapped

end Exact

/-! ## One route -/

def shopRoute (services : List Service) : Route :=
  generateRoute
    { gvk := ⟨"gateway.networking.k8s.io", "v1", "HTTPRoute"⟩
      metadata := { name := "web", ns := "shop", uid := "uid-web" } } services "tenant-x"

def backend (ns name : String) (port nodePort : Int32) : Service where
  metadata := { name := name, ns := ns }
  spec := { ports := [{ port := port, nodePort := nodePort }], type := .nodePort }

def nodeAddresses : AddressesClient := fun _ _ => .ok [{ ip := "10.0.0.1" }]

def shopServices : List Service := [backend "shop" "api" 80 30080, backend "shop" "cart" 80 30081]

/-- A Route with two backends reaches both. -/
theorem backends_reached :
    ∃ pa rest, newPortAllocator.allocatePortsForRoutes [shopRoute shopServices] [0, 1] =
        some (pa, rest) ∧
      ∀ sort codec snapshot,
        mapSnapshot nodeAddresses [] [shopRoute shopServices] pa {} sort codec = .ok snapshot →
        ∀ svc ∈ routeServices (shopRoute shopServices), ∀ index port,
          svc.spec.ports[index]? = some port → port.protocol.Served →
          ReachesBackend nodeAddresses pa {} snapshot (shopRoute shopServices) svc index port := by
  have evaluated : (newPortAllocator.allocatePortsForRoutes [shopRoute shopServices] [0, 1]).map
      (fun allocated => shopServices.all (fun svc => svc.spec.ports.all (fun port =>
        decide (Shown nodeAddresses allocated.1 [] [shopRoute shopServices]
          (.ofRoute (shopRoute shopServices) svc port))))) = some true := by
    decide +kernel
  obtain ⟨⟨pa, rest⟩, isAllocated, isEvaluated⟩ := Option.map_eq_some_iff.mp evaluated
  simp only [List.all_eq_true, decide_eq_true_eq] at isEvaluated
  refine ⟨pa, rest, isAllocated, ?_⟩
  have inNamespace : InNamespace "tenant-x" [] [shopRoute shopServices] :=
    ⟨by simp, fun route isRoute => by rw [List.mem_singleton.mp isRoute]; rfl⟩
  have readable : AllReadable nodeAddresses "tenant-x" [] [shopRoute shopServices] :=
    ⟨by simp, fun _ _ _ _ _ _ _ => ⟨_, rfl⟩⟩
  apply (routeReachesBackends_iff duplicateFree_newPortAllocator.portNumbers isAllocated
    List.mem_cons_self inNamespace readable List.mem_cons_self {}).mpr
  intro svc inServices port portMember _
  refine ⟨Or.inl ?_, isEvaluated svc inServices port portMember⟩
  rcases List.mem_cons.mp inServices with rfl | inRest
  · obtain rfl := List.mem_singleton.mp portMember
    exact ⟨_, rfl, by decide⟩
  · obtain rfl := List.mem_singleton.mp inRest
    obtain rfl := List.mem_singleton.mp portMember
    exact ⟨_, rfl, by decide⟩

/-! ## Two services with one key -/

/-- The services `team/web-api` and `team-web/api` print one allocator key. -/
def dashedServices : List Service :=
  [backend "team" "web-api" 80 30080, backend "team-web" "api" 81 30081]

/-- The second allocation drops the port of the first service. Its Service targets
the node port 30080, its listener binds the service port 80. -/
theorem dashed_service_misses_its_listener :
    (dashedServices.map (fun svc => (svc.metadata.ns, svc.metadata.name))).Nodup ∧
    (newPortAllocator.allocatePortsForRoutes [shopRoute dashedServices] [0, 1]).map
      (fun allocated => dashedServices.map (fun svc =>
        (generatedService (shopRoute dashedServices) allocated.1 {} svc).spec.ports.map
          (fun port => port.targetPort.intValue))) = some [[30080], [10001]] ∧
    (newPortAllocator.allocatePortsForRoutes [shopRoute dashedServices] [0, 1]).bind
      (fun allocated => (mapSnapshot nodeAddresses [] [shopRoute dashedServices] allocated.1 {}
          (SliceSort.stable String) ⟨fun _ => .ok [], fun _ => ""⟩).toOption.map (fun snapshot =>
        dashedServices.flatMap (fun svc => svc.spec.ports.map (fun port =>
          ((snapshot.listeners.lookup
              (SnapshotPort.ofRoute (shopRoute dashedServices) svc port).name).map
            (fun listener => listener.address.portValue),
          snapshot.clusterEndpoints
            (SnapshotPort.ofRoute (shopRoute dashedServices) svc port).name))))) =
      some [(some 80, some [⟨"10.0.0.1", 30080⟩]), (some 10001, some [⟨"10.0.0.1", 30081⟩])] := by
  refine ⟨by decide, by decide, by decide +kernel⟩

end KubeLB.Routes
