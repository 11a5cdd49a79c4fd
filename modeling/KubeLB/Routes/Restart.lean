import KubeLB.Routes.Status
import KubeLB.Routes.Targets

/-!
Contract: which Route ports a restart of the manager gives back.

Owns: the round trip from an allocator state through the generated Services, the
recorded status and the reload, and the exact condition under which it gives back
the ports of every service and healing clears none.

Does not own: LoadBalancers, whose status has another form.

A Service is recorded under its origin labels, while the reload searches with the
namespace of the service. The allocator key has neither.
-/

set_option autoImplicit false

namespace KubeLB.Routes

open KubeLB.Library KubeLB.Core KubeLB.V1Alpha1 KubeLB.Naming KubeLB.PortLookup
open KubeLB.Resources

/-! ## The round trip -/

def storedRoute (pa : PortAllocator) (annotations : AnnotationSettings)
    (outcome : Route → Service → ServiceOutcome) (route : Route) : Route :=
  { route with
    status := recordServices
      { resources := { route := route.status.resources.route } } (outcome route)
      ((routeServices route).map (generatedService route pa annotations)) }

/-- A reload from the stored Routes gives every endpoint key of every Route the
ports it had, and healing clears none. -/
structure RestoresRoutes (pa : PortAllocator) (annotations : AnnotationSettings)
    (outcome : Route → Service → ServiceOutcome) (routes : List Route) : Prop where
  same : ∀ (restarted : PortAllocator), ∀ route ∈ routes, ∀ svc ∈ routeServices route,
    ∀ portKey, (restarted.loadState
      ⟨.ok [], .ok (routes.map (storedRoute pa annotations outcome))⟩).1.lookup
        (routeEndpointKey route svc) portKey = pa.lookup (routeEndpointKey route svc) portKey
  noneHealed : ∀ (restarted : PortAllocator) (endpointKey portKey : String),
    (restarted.loadState
      ⟨.ok [], .ok (routes.map (storedRoute pa annotations outcome))⟩).1.lookup
        endpointKey portKey =
      cell (loadTable [] (routes.map (storedRoute pa annotations outcome))) endpointKey portKey

/-! ## What is recorded -/

/-- The service of the Route whose entry the reload reads for `svc`. -/
def readService (route : Route) (svc : Service) : Option Service :=
  ((routeServices route).filter (fun other =>
    recordKey other = routeServiceMapKey svc.metadata.ns (getName svc.metadata))).getLast?

/-- A recorded port that the reload reads for an endpoint key, with the key of the
service it was recorded for. -/
structure RecordedPort where
  endpointKey : String
  source : String
  port : Core.ServicePort
  deriving DecidableEq

/-- The recorded ports of all Routes, in the order in which they are read. -/
def recordedPorts (routes : List Route) : List RecordedPort :=
  routes.flatMap (fun route => (routeServices route).flatMap (fun svc =>
    (readService route svc).toList.flatMap (fun other => other.spec.ports.map (fun port =>
      { endpointKey := routeEndpointKey route svc
        source := routeEndpointKey route other
        port := port }))))

def lastRecorded (routes : List Route) (endpointKey portKey : String) : Option RecordedPort :=
  ((recordedPorts routes).filter (fun recorded => recorded.endpointKey = endpointKey ∧
    envoyListenerPattern recorded.port.port recorded.port.protocol = portKey)).getLast?

/-- For every service and every port key of the last slot with its key, the last
recorded port was recorded for that key, or its node port is the held port by
chance; for other port keys nothing is recorded. -/
def RecordsOwnPorts (pa : PortAllocator) (routes : List Route) : Prop :=
  ∀ route ∈ routes, ∀ svc ∈ routeServices route, ∀ slot,
    lastSlot (routeEndpointKey route svc) (routes.flatMap routeSlots) = some slot →
    ∀ portKey,
      (portKey ∈ slot.portKeys → ∃ recorded,
        lastRecorded routes (routeEndpointKey route svc) portKey = some recorded ∧
        (recorded.source = routeEndpointKey route svc ∨
          (pa.lookup recorded.source portKey = none ∧
            pa.lookup (routeEndpointKey route svc) portKey =
              some recorded.port.nodePort.toInt))) ∧
      (portKey ∉ slot.portKeys →
        lastRecorded routes (routeEndpointKey route svc) portKey = none)

/-! ## What the reload reads -/

def recordedTarget (pa : PortAllocator) (recorded : RecordedPort) : Int :=
  (generatedPort pa recorded.source recorded.port).targetPort.intValue

def recordedWrite (pa : PortAllocator) (recorded : RecordedPort) : Write where
  endpointKey := recorded.endpointKey
  portKey := envoyListenerPattern recorded.port.port recorded.port.protocol
  port := recordedTarget pa recorded

theorem serviceWrites_storedRoute (pa : PortAllocator) (annotations : AnnotationSettings)
    (outcome : Route → Service → ServiceOutcome) (route : Route) (svc : Service) :
    serviceWrites (storedRoute pa annotations outcome route) svc =
      ((readService route svc).toList.flatMap (fun other => other.spec.ports.map (fun port =>
        { endpointKey := routeEndpointKey route svc
          source := routeEndpointKey route other
          port := port }))).map (recordedWrite pa) := by
  have filtered : ((routeServices route).map (generatedService route pa annotations)).filter
      (fun other => recordKey other = routeServiceMapKey svc.metadata.ns (getName svc.metadata)) =
      ((routeServices route).filter (fun other =>
        recordKey other = routeServiceMapKey svc.metadata.ns (getName svc.metadata))).map
        (generatedService route pa annotations) := by
    rw [List.filter_map]
    simp only [Function.comp_def, recordKey_generatedService]
  rcases lookup_recordServices { resources := { route := route.status.resources.route } }
    (outcome route) ((routeServices route).map (generatedService route pa annotations))
    (routeServiceMapKey svc.metadata.ns (getName svc.metadata)) with
    ⟨generated, entry, isLast, records, found⟩ | ⟨absent, found⟩
  · rw [filtered, List.getLast?_map] at isLast
    obtain ⟨other, isRead, rfl⟩ := Option.map_eq_some_iff.mp isLast
    have loaded : loadedService (storedRoute pa annotations outcome route) svc = some entry :=
      found
    have read : readService route svc = some other := isRead
    simp only [serviceWrites, loaded, read, records.ports]
    simp only [generatedService, generateServiceForLBCluster, List.map_map, Option.toList_some,
      List.flatMap_cons, List.flatMap_nil, List.append_nil]
    rfl
  · have loaded : loadedService (storedRoute pa annotations outcome route) svc = none := found
    have read : readService route svc = none := by
      rw [readService, List.getLast?_eq_none_iff, List.filter_eq_nil_iff]
      intro other member isKey
      refine absent _ (List.mem_map.mpr ⟨other, member, rfl⟩) ?_
      rw [recordKey_generatedService]
      simpa using isKey
    simp only [serviceWrites, loaded, read, Option.toList_none, List.flatMap_nil, List.map_nil]

theorem cell_loadTable_stored (pa : PortAllocator) (annotations : AnnotationSettings)
    (outcome : Route → Service → ServiceOutcome) (routes : List Route)
    (endpointKey portKey : String) :
    cell (loadTable [] (routes.map (storedRoute pa annotations outcome))) endpointKey portKey =
      (lastRecorded routes endpointKey portKey).map (recordedTarget pa) := by
  have routeWise (route : Route) : routeWrites (storedRoute pa annotations outcome route) =
      (routeServices route).flatMap (fun svc =>
        serviceWrites (storedRoute pa annotations outcome route) svc) := by
    unfold routeWrites routeServices storedRoute
    cases route.spec.source <;> rfl
  have writes : (routes.map (storedRoute pa annotations outcome)).flatMap routeWrites =
      (recordedPorts routes).map (recordedWrite pa) := by
    simp only [List.flatMap_map, routeWise, serviceWrites_storedRoute, recordedPorts,
      List.map_flatMap]
  rw [cell_loadTable, List.flatMap_nil, List.nil_append, writes, lastWrite_map]
  rfl

/-! ## The exact condition -/

section Exact

variable {pa₀ pa : PortAllocator} {draws rest : List Draw} {routes : List Route}

theorem recordedTarget_eq (numbers : HoldsOnly IsPortNumber pa) (recorded : RecordedPort) :
    recordedTarget pa recorded =
      (pa.lookup recorded.source (envoyListenerPattern recorded.port.port
        recorded.port.protocol)).getD recorded.port.nodePort.toInt := by
  unfold recordedTarget generatedPort
  cases found : pa.lookup recorded.source
      (envoyListenerPattern recorded.port.port recorded.port.protocol) with
  | some value =>
      simp [IntOrString.fromInt, IntOrString.intValue, (numbers _ _ _ found).toInt_ofInt]
  | none => simp [IntOrString.fromInt, IntOrString.intValue]

theorem lastRecorded_spec {endpointKey portKey : String} {recorded : RecordedPort}
    (last : lastRecorded routes endpointKey portKey = some recorded) :
    recorded ∈ recordedPorts routes ∧ recorded.endpointKey = endpointKey ∧
      envoyListenerPattern recorded.port.port recorded.port.protocol = portKey := by
  have member := List.mem_filter.mp (List.mem_of_getLast? last)
  simpa using member

/-- The cells of one key are read back exactly when the last recorded ports are its
own. -/
theorem reads_iff (free : DuplicateFree pa) {endpointKey portKey : String} :
    (lastRecorded routes endpointKey portKey).map (recordedTarget pa) =
        pa.lookup endpointKey portKey ↔
      ((∃ value, pa.lookup endpointKey portKey = some value) → ∃ recorded,
        lastRecorded routes endpointKey portKey = some recorded ∧
        (recorded.source = endpointKey ∨ (pa.lookup recorded.source portKey = none ∧
          pa.lookup endpointKey portKey = some recorded.port.nodePort.toInt))) ∧
      (¬(∃ value, pa.lookup endpointKey portKey = some value) →
        lastRecorded routes endpointKey portKey = none) := by
  cases isLast : lastRecorded routes endpointKey portKey with
  | none =>
      cases found : pa.lookup endpointKey portKey <;> simp
  | some recorded =>
      obtain ⟨-, -, isKey⟩ := lastRecorded_spec isLast
      rw [Option.map_some, recordedTarget_eq free.portNumbers, isKey]
      cases found : pa.lookup endpointKey portKey with
      | none => simp
      | some value =>
          cases isSource : pa.lookup recorded.source portKey with
          | none =>
              have notOwn : recorded.source ≠ endpointKey := by
                intro own
                rw [own, found] at isSource
                cases isSource
              have chance : recorded.port.nodePort.toInt = value ↔
                  value = recorded.port.nodePort.toInt := eq_comm
              simp [notOwn, isSource, chance]
          | some held =>
              have own : held = value ↔ recorded.source = endpointKey := by
                constructor
                · rintro rfl
                  exact (free.unique isSource found).1
                · intro same
                  rw [same, found] at isSource
                  exact (Option.some.inj isSource).symm
              simp [own, isSource]

theorem service_of_recorded {recorded : RecordedPort} (member : recorded ∈ recordedPorts routes) :
    ∃ route ∈ routes, ∃ svc ∈ routeServices route,
      recorded.endpointKey = routeEndpointKey route svc := by
  obtain ⟨route, inRoutes, inRoute⟩ := List.mem_flatMap.mp member
  obtain ⟨svc, inServices, inService⟩ := List.mem_flatMap.mp inRoute
  obtain ⟨other, -, inOther⟩ := List.mem_flatMap.mp inService
  obtain ⟨port, -, rfl⟩ := List.mem_map.mp inOther
  exact ⟨route, inRoutes, svc, inServices, rfl⟩

/-- The Routes of a duplicate-free state are restored, with nothing healed, exactly
when every service has its own ports recorded. -/
theorem restoresRoutes_iff (free : DuplicateFree pa)
    (allocated : pa₀.allocatePortsForRoutes routes draws = some (pa, rest))
    (annotations : AnnotationSettings) (outcome : Route → Service → ServiceOutcome) :
    RestoresRoutes pa annotations outcome routes ↔ RecordsOwnPorts pa routes := by
  have held (endpointKey : String) (slot : Slot)
      (last : lastSlot endpointKey (routes.flatMap routeSlots) = some slot) (portKey : String) :=
    (allocateSlots_effect allocated).held last portKey
  constructor
  · intro restores route inRoutes svc inServices slot last portKey
    have read := restores.same newPortAllocator route inRoutes svc inServices portKey
    rw [restores.noneHealed, cell_loadTable_stored, reads_iff free,
      held _ slot last portKey] at read
    exact read
  · intro records
    have reads : ∀ route ∈ routes, ∀ svc ∈ routeServices route, ∀ portKey,
        cell (loadTable [] (routes.map (storedRoute pa annotations outcome)))
          (routeEndpointKey route svc) portKey =
        pa.lookup (routeEndpointKey route svc) portKey := by
      intro route inRoutes svc inServices portKey
      obtain ⟨slot, last⟩ := exists_lastSlot inRoutes inServices
      rw [cell_loadTable_stored, reads_iff free, held _ slot last portKey]
      exact records route inRoutes svc inServices slot last portKey
    have agree : ∀ endpointKey portKey port,
        cell (loadTable [] (routes.map (storedRoute pa annotations outcome))) endpointKey portKey =
          some port → pa.lookup endpointKey portKey = some port := by
      intro endpointKey portKey port found
      have isRead := found
      rw [cell_loadTable_stored] at isRead
      obtain ⟨recorded, last, -⟩ := Option.map_eq_some_iff.mp isRead
      obtain ⟨member, rfl, -⟩ := lastRecorded_spec last
      obtain ⟨route, inRoutes, svc, inServices, isKey⟩ := service_of_recorded member
      rw [isKey] at found ⊢
      rw [← reads route inRoutes svc inServices portKey]
      exact found
    refine ⟨fun restarted route inRoutes svc inServices portKey => ?_,
      fun restarted endpointKey portKey => free.lookup_loadState agree restarted _ _⟩
    rw [free.lookup_loadState agree, reads route inRoutes svc inServices portKey]

end Exact

/-! ## One and two services -/

/-- A Route with one backend is restored. -/
theorem single_backend_restored :
    ∃ pa rest, newPortAllocator.allocatePortsForRoutes
        [shopRoute [backend "shop" "api" 80 30080]] [0] = some (pa, rest) ∧
      RestoresRoutes pa {} (fun _ _ => {}) [shopRoute [backend "shop" "api" 80 30080]] := by
  have evaluated : (newPortAllocator.allocatePortsForRoutes
      [shopRoute [backend "shop" "api" 80 30080]] [0]).isSome = true := by
    decide
  obtain ⟨⟨pa, rest⟩, allocated⟩ := Option.isSome_iff_exists.mp evaluated
  refine ⟨pa, rest, allocated, ?_⟩
  apply (restoresRoutes_iff (duplicateFree_newPortAllocator.allocateSlots allocated) allocated {}
    (fun _ _ => {})).mpr
  intro route inRoutes svc inServices slot last portKey
  obtain rfl : route = shopRoute [backend "shop" "api" 80 30080] := List.mem_singleton.mp inRoutes
  obtain rfl : svc = backend "shop" "api" 80 30080 := List.mem_singleton.mp inServices
  cases last
  constructor
  · intro listed
    obtain rfl : portKey = "80-TCP" := List.mem_singleton.mp listed
    exact ⟨_, rfl, Or.inl rfl⟩
  · intro unlisted
    have other : ¬envoyListenerPattern 80 .tcp = portKey :=
      fun isKey => unlisted (List.mem_singleton.mpr isKey.symm)
    rw [lastRecorded, List.getLast?_eq_none_iff, List.filter_eq_nil_iff]
    intro recorded member
    obtain rfl := List.mem_singleton.mp member
    simp [other]

/-- Of the two services with one key the allocator holds the port of the second
alone. The reload adds the node port that was recorded for the first. -/
theorem dashed_services_not_restored :
    dashedServices.map (routeEndpointKey (shopRoute dashedServices)) =
      ["tenant-tenant-x-route-team-web-api-web", "tenant-tenant-x-route-team-web-api-web"] ∧
    (newPortAllocator.allocatePortsForRoutes [shopRoute dashedServices] [0, 1]).map
      (fun allocated => ["80-TCP", "81-TCP"].map (fun portKey =>
        (allocated.1.lookup "tenant-tenant-x-route-team-web-api-web" portKey,
          (newPortAllocator.loadState ⟨.ok [], .ok [storedRoute allocated.1 {} (fun _ _ => {})
            (shopRoute dashedServices)]⟩).1.lookup
              "tenant-tenant-x-route-team-web-api-web" portKey))) =
      some [(none, some 30080), (some 10001, some 10001)] := by
  decide

end KubeLB.Routes
