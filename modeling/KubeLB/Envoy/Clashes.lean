import KubeLB.Envoy.Separation
import KubeLB.PortLookup.Filled
import Mathlib.Data.List.Duplicate

/-!
Contract: the condition of `Separation` is also necessary.

Owns: the identities of stored objects, the choice of ports for them, and the
equivalence between "every listener is kept for every choice of ports, state and
draws" and "keys and identifiers are pairwise distinct".

Does not own: the sufficiency proof, which is in `Separation`.
-/

set_option autoImplicit false

namespace KubeLB.Envoy

open KubeLB.Library KubeLB.Core KubeLB.V1Alpha1 KubeLB.Naming KubeLB.PortLookup
open KubeLB.Resources

/-! ## Identities -/

def loadBalancerIdentity (lb : LoadBalancer) : String × String × Nat :=
  (lb.metadata.ns, lb.metadata.name, lb.spec.endpoints.length)

/-- What the names of a Route's resources depend on: its metadata, the source
object and the metadata of the services. -/
def routeIdentity (route : Route) :
    ObjectMeta × Option (Unstructured × List ObjectMeta) :=
  (route.metadata, route.spec.source.map (fun source =>
    (source.route, source.services.map (·.metadata))))

def PortGroup.texts (group : PortGroup) : String × String :=
  (group.endpointKey, group.identifier)

theorem loadBalancerGroups_texts (lb : LoadBalancer) :
    (loadBalancerGroups lb).map PortGroup.texts =
      (List.range lb.spec.endpoints.length).map (fun index =>
        (envoyEndpointPattern lb.metadata.ns lb.metadata.name index,
          envoyEndpointPattern lb.metadata.ns lb.metadata.name index)) := by
  have indices : lb.spec.endpoints.zipIdx.map Prod.snd =
      List.range lb.spec.endpoints.length := by
    rw [List.zipIdx_map_snd, List.range_eq_range']
  rw [← indices]
  simp only [loadBalancerGroups, PortGroup.texts, List.map_map, Function.comp_def]

theorem loadBalancerGroups_texts_congr {lb lb' : LoadBalancer}
    (same : loadBalancerIdentity lb = loadBalancerIdentity lb') :
    (loadBalancerGroups lb).map PortGroup.texts =
      (loadBalancerGroups lb').map PortGroup.texts := by
  simp only [loadBalancerIdentity, Prod.mk.injEq] at same
  rw [loadBalancerGroups_texts, loadBalancerGroups_texts, same.1, same.2.1, same.2.2]

theorem routeGroups_texts_congr {route route' : Route}
    (same : routeIdentity route = routeIdentity route') :
    (routeGroups route).map PortGroup.texts = (routeGroups route').map PortGroup.texts := by
  obtain ⟨metadata, ⟨endpoints, source⟩, status⟩ := route
  obtain ⟨metadata', ⟨endpoints', source'⟩, status'⟩ := route'
  simp only [routeIdentity, Prod.mk.injEq] at same
  obtain ⟨rfl, sameSource⟩ := same
  cases source with
  | none =>
      cases source' with
      | none => rfl
      | some source' => cases sameSource
  | some source =>
      cases source' with
      | none => cases sameSource
      | some source' =>
          simp only [Option.map_some, Option.some.injEq, Prod.mk.injEq] at sameSource
          obtain ⟨sameRoute, sameServices⟩ := sameSource
          -- both texts are functions of the metadata of the service
          have texts (source : KubernetesSource) (endpoints : List LoadBalancerEndpoints)
              (status : RouteStatus) :
              (routeGroups ⟨metadata, ⟨endpoints, some source⟩, status⟩).map PortGroup.texts =
                (source.services.map (·.metadata)).map (fun service =>
                  (envoyEndpointRoutePattern metadata.ns service.ns service.name
                    (getOriginalRouteName ⟨metadata, ⟨[], some ⟨source.route, []⟩⟩, {}⟩),
                  routeIdentifier metadata.ns service.ns service.name
                    (getOriginalRouteNamespace ⟨metadata, ⟨[], some ⟨source.route, []⟩⟩, {}⟩)
                    (getOriginalRouteName ⟨metadata, ⟨[], some ⟨source.route, []⟩⟩, {}⟩))) := by
            simp [routeGroups, routeServices, PortGroup.texts, routeEndpointKey,
              serviceIdentifier, getOriginalRouteName, getOriginalRouteNamespace,
              Function.comp_def]
          rw [texts, texts, sameRoute, sameServices]

private theorem flatMap_congr_of_map_eq {α β γ : Type} (identity : α → β) (view : α → List γ)
    (congruent : ∀ value value', identity value = identity value' → view value = view value')
    {values values' : List α} (same : values.map identity = values'.map identity) :
    values.flatMap view = values'.flatMap view := by
  induction values generalizing values' with
  | nil =>
      have empty : values' = [] := by simpa using same.symm
      rw [empty]
  | cons value values ih =>
      cases values' with
      | nil => cases same
      | cons value' values' =>
          simp only [List.map_cons, List.cons.injEq] at same
          rw [List.flatMap_cons, List.flatMap_cons, congruent _ _ same.1,
            ih same.2]

theorem portGroups_texts_congr {loadBalancers loadBalancers' : List LoadBalancer}
    {routes routes' : List Route}
    (sameLoadBalancers : loadBalancers.map loadBalancerIdentity =
      loadBalancers'.map loadBalancerIdentity)
    (sameRoutes : routes.map routeIdentity = routes'.map routeIdentity) :
    (portGroups loadBalancers routes).map PortGroup.texts =
      (portGroups loadBalancers' routes').map PortGroup.texts := by
  simp only [portGroups, List.map_append, List.map_flatMap]
  rw [flatMap_congr_of_map_eq loadBalancerIdentity _
      (fun _ _ => loadBalancerGroups_texts_congr) sameLoadBalancers,
    flatMap_congr_of_map_eq routeIdentity _ (fun _ _ => routeGroups_texts_congr) sameRoutes]

/-! ## Choosing ports -/

/-- Give every endpoint of a LoadBalancer the ports chosen for its key. -/
def withEndpointPorts (choose : String → List EndpointPort) (lb : LoadBalancer) :
    LoadBalancer :=
  { lb with
    spec :=
      { lb.spec with
        endpoints := (List.range lb.spec.endpoints.length).map (fun index =>
          { ports := choose (envoyEndpointPattern lb.metadata.ns lb.metadata.name index) }) } }

/-- Give every service of a Route the ports chosen for its key. -/
def withServicePorts (choose : String → List Core.ServicePort) (route : Route) : Route :=
  { route with
    spec :=
      { route.spec with
        source := route.spec.source.map (fun source =>
          { source with
            services := source.services.map (fun svc =>
              { svc with
                spec := { svc.spec with ports := choose (routeEndpointKey route svc) } }) }) } }

theorem loadBalancerIdentity_withEndpointPorts (choose : String → List EndpointPort)
    (lb : LoadBalancer) :
    loadBalancerIdentity (withEndpointPorts choose lb) = loadBalancerIdentity lb := by
  simp [loadBalancerIdentity, withEndpointPorts]

theorem routeIdentity_withServicePorts (choose : String → List Core.ServicePort)
    (route : Route) :
    routeIdentity (withServicePorts choose route) = routeIdentity route := by
  simp [routeIdentity, withServicePorts, Function.comp_def]

/-- Replace the ports of a group by those chosen for its key. -/
def PortGroup.withPorts (choose : String → List (Int32 × Protocol)) (group : PortGroup) :
    PortGroup :=
  { group with ports := choose group.endpointKey }

theorem loadBalancerGroups_withEndpointPorts (choose : String → List EndpointPort)
    (lb : LoadBalancer) :
    loadBalancerGroups (withEndpointPorts choose lb) =
      (loadBalancerGroups lb).map (PortGroup.withPorts (fun key =>
        (choose key).map (fun port => (port.port, port.protocol)))) := by
  apply List.ext_getElem
  · simp [loadBalancerGroups, withEndpointPorts]
  · intro index left right
    simp [loadBalancerGroups, withEndpointPorts, PortGroup.withPorts]

theorem routeGroups_withServicePorts (choose : String → List Core.ServicePort)
    (route : Route) :
    routeGroups (withServicePorts choose route) =
      (routeGroups route).map (PortGroup.withPorts (fun key =>
        (choose key).map (fun port => (port.port, port.protocol)))) := by
  obtain ⟨metadata, ⟨endpoints, source⟩, status⟩ := route
  cases source with
  | none => rfl
  | some source =>
      simp [routeGroups, routeServices, withServicePorts, PortGroup.withPorts,
        routeEndpointKey, serviceIdentifier, getOriginalRouteName, getOriginalRouteNamespace,
        Function.comp_def]

/-- One TCP port for the selected keys, no port for the others. -/
def onePort (selected : List String) (key : String) : List (Int32 × Protocol) :=
  if key ∈ selected then [(80, .tcp)] else []

def selectLoadBalancer (selected : List String) : LoadBalancer → LoadBalancer :=
  withEndpointPorts (fun key => (onePort selected key).map (fun port =>
    { port := port.1, protocol := port.2 }))

def selectRoute (selected : List String) : Route → Route :=
  withServicePorts (fun key => (onePort selected key).map (fun port =>
    { port := port.1, protocol := port.2 }))

section Selected

variable (selected : List String) (loadBalancers : List LoadBalancer) (routes : List Route)

theorem portGroups_selected :
    portGroups (loadBalancers.map (selectLoadBalancer selected))
        (routes.map (selectRoute selected)) =
      (portGroups loadBalancers routes).map (PortGroup.withPorts (onePort selected)) := by
  have restored (key : String) :
      ((onePort selected key).map (fun port => ({ port := port.1, protocol := port.2 } :
        EndpointPort))).map (fun port => (port.port, port.protocol)) = onePort selected key := by
    simp [Function.comp_def]
  have restored' (key : String) :
      ((onePort selected key).map (fun port => ({ port := port.1, protocol := port.2 } :
        Core.ServicePort))).map (fun port => (port.port, port.protocol)) =
          onePort selected key := by
    simp [Function.comp_def]
  simp only [portGroups, List.map_append, List.flatMap_map, List.map_flatMap,
    selectLoadBalancer, selectRoute, loadBalancerGroups_withEndpointPorts,
    routeGroups_withServicePorts, restored, restored']

/-- The entries are one TCP port for each group with a selected key. -/
theorem servedEntries_selected :
    servedEntries (loadBalancers.map (selectLoadBalancer selected))
        (routes.map (selectRoute selected)) =
      ((portGroups loadBalancers routes).filter (fun group =>
        group.endpointKey ∈ selected)).map (fun group =>
          ⟨group.endpointKey, group.identifier, 80, .tcp⟩) := by
  rw [servedEntries, portEntries, portGroups_selected]
  induction portGroups loadBalancers routes with
  | nil => rfl
  | cons group groups ih =>
      simp only [List.map_cons, List.flatMap_cons, List.filter_append, ih]
      by_cases isSelected : group.endpointKey ∈ selected
      · simp [PortGroup.withPorts, PortGroup.entries, onePort, isSelected, Protocol.Served]
      · simp [PortGroup.withPorts, PortGroup.entries, onePort, isSelected]

theorem portsDistinct_selected :
    PortsDistinct (loadBalancers.map (selectLoadBalancer selected))
      (routes.map (selectRoute selected)) := by
  intro group member
  rw [portGroups_selected] at member
  obtain ⟨original, -, rfl⟩ := List.mem_map.mp member
  simp only [PortGroup.withPorts, onePort]
  split <;> simp

end Selected

/-! ## A state that holds the chosen ports -/

section Held

variable (first second : String) (loadBalancers : List LoadBalancer) (routes : List Route)

/-- The allocations that the mapper makes for the chosen ports. -/
def selectedSlots : List Slot :=
  (portGroups (loadBalancers.map (selectLoadBalancer [first, second]))
    (routes.map (selectRoute [first, second]))).map PortGroup.slot

theorem portKeys_of_mem_selectedSlots {slot : Slot}
    (member : slot ∈ selectedSlots first second loadBalancers routes) :
    slot.portKeys = (onePort [first, second] slot.endpointKey).map
      (fun port => envoyListenerPattern port.1 port.2) := by
  rw [selectedSlots, portGroups_selected, List.map_map] at member
  obtain ⟨group, -, rfl⟩ := List.mem_map.mp member
  rfl

/-- The state holds port 10001 for the second key and 10000 for the first. -/
def heldAllocator : PortAllocator :=
  filledAllocator (fun endpointKey _ => if endpointKey = second then 10001 else 10000)
    (selectedSlots first second loadBalancers routes)

theorem duplicateFree_heldAllocator :
    DuplicateFree (heldAllocator first second loadBalancers routes) := by
  have shape {cell : String × String}
      (member : cell ∈ slotCells (selectedSlots first second loadBalancers routes)) :
      (cell.1 = first ∨ cell.1 = second) ∧ cell.2 = envoyListenerPattern 80 .tcp := by
    obtain ⟨slot, inSlots, isKey, inKeys⟩ := mem_slotCells.mp member
    rw [portKeys_of_mem_selectedSlots _ _ _ _ inSlots, isKey] at inKeys
    simp only [onePort] at inKeys
    split at inKeys
    · rename_i isSelected
      exact ⟨by simpa using isSelected, by simpa using inKeys⟩
    · simp at inKeys
  apply filledAllocator_duplicateFree
  · intro endpointKey portKey
    unfold IsPortNumber
    split <;> omega
  · intro cell cell' member member' same
    obtain ⟨isKey, isPort⟩ := shape member
    obtain ⟨isKey', isPort'⟩ := shape member'
    refine Prod.ext ?_ (isPort.trans isPort'.symm)
    split_ifs at same with isSecond isSecond' isSecond'
    · exact isSecond.trans isSecond'.symm
    · omega
    · omega
    · exact (isKey.resolve_right isSecond).trans (isKey'.resolve_right isSecond').symm

/-- The allocations for the chosen ports return from that state without a draw. -/
theorem allocated_selected :
    ∃ pa₁ pa₂,
      (heldAllocator first second loadBalancers routes).allocatePortsForLoadBalancers
        (loadBalancers.map (selectLoadBalancer [first, second])) [] = some (pa₁, []) ∧
      pa₁.allocatePortsForRoutes (routes.map (selectRoute [first, second])) [] =
        some (pa₂, []) := by
  have agree : SlotsAgree (selectedSlots first second loadBalancers routes) := by
    intro slot member other otherMember same
    rw [portKeys_of_mem_selectedSlots _ _ _ _ member,
      portKeys_of_mem_selectedSlots _ _ _ _ otherMember, same]
  obtain ⟨pa₂, allocated, -⟩ := allocateSlots_filled
    (fun endpointKey _ => if endpointKey = second then 10001 else 10000) agree []
  have slots : selectedSlots first second loadBalancers routes =
      (loadBalancers.map (selectLoadBalancer [first, second])).flatMap loadBalancerSlots ++
        (routes.map (selectRoute [first, second])).flatMap routeSlots := by
    simp only [selectedSlots, portGroups, List.map_append, List.map_flatMap,
      ← loadBalancerSlots_eq, ← routeSlots_eq]
  rw [slots, allocateSlots_append, Option.bind_eq_some_iff] at allocated
  obtain ⟨⟨pa₁, rest⟩, isFirst, isSecond⟩ := allocated
  have noRest : rest = [] := by
    have subset := allocateSlots_rest isFirst
    simpa using subset
  subst noRest
  refine ⟨pa₁, pa₂, ?_, isSecond⟩
  rw [heldAllocator, slots]
  exact isFirst

end Held

/-! ## The exact condition -/

private theorem pair_of_not_nodup {α β : Type} {view : α → β} {values : List α}
    (repeated : ¬(values.map view).Nodup) :
    ∃ first second, [first, second].Sublist values ∧ view first = view second := by
  obtain ⟨value, duplicate⟩ := List.exists_duplicate_iff_not_nodup.mpr repeated
  rw [List.duplicate_iff_sublist, List.sublist_map_iff] at duplicate
  obtain ⟨pair, sublist, isPair⟩ := duplicate
  have two : pair.length = 2 := by simpa using (congrArg List.length isPair).symm
  obtain ⟨first, second, rfl⟩ := List.length_eq_two.mp two
  simp only [List.map_cons, List.map_nil, List.cons.injEq, and_true] at isPair
  exact ⟨first, second, sublist, isPair.1.symm.trans isPair.2⟩

/-- Two groups with a common key or a common identifier lose a listener for some
choice of ports. -/
private theorem clash_of_pair {loadBalancers : List LoadBalancer} {routes : List Route}
    {first second : PortGroup}
    (pair : [first, second].Sublist (portGroups loadBalancers routes))
    (common : first.endpointKey = second.endpointKey ∨ first.identifier = second.identifier)
    (pa : PortAllocator)
    (names : ((servedEntries
      (loadBalancers.map (selectLoadBalancer [first.endpointKey, second.endpointKey]))
      (routes.map (selectRoute [first.endpointKey, second.endpointKey]))).map
        PortEntry.listenerName).Nodup)
    (addresses : ((servedEntries
      (loadBalancers.map (selectLoadBalancer [first.endpointKey, second.endpointKey]))
      (routes.map (selectRoute [first.endpointKey, second.endpointKey]))).map
        (PortEntry.bindAddress pa)).Nodup) : False := by
  let entry (group : PortGroup) : PortEntry := ⟨group.endpointKey, group.identifier, 80, .tcp⟩
  have selected : [first, second].Sublist ((portGroups loadBalancers routes).filter
      (fun group => group.endpointKey ∈ [first.endpointKey, second.endpointKey])) := by
    have filtered := pair.filter
      (fun group => group.endpointKey ∈ [first.endpointKey, second.endpointKey])
    simpa using filtered
  rw [servedEntries_selected] at names addresses
  rcases common with sameKey | sameIdentifier
  · have twice := addresses.sublist ((selected.map entry).map (PortEntry.bindAddress pa))
    simp [entry, PortEntry.bindAddress, sameKey] at twice
  · have twice := names.sublist ((selected.map entry).map PortEntry.listenerName)
    simp [entry, PortEntry.listenerName, sameIdentifier] at twice

/-- Every served port keeps its listener, for every choice of ports and every
duplicate-free allocator, exactly when the allocator keys of all LoadBalancer
endpoints and Route services are pairwise distinct and so are their identifiers. -/
theorem keepsEveryListener_iff (loadBalancers : List LoadBalancer) (routes : List Route) :
    (∀ loadBalancers' routes',
      loadBalancers'.map loadBalancerIdentity = loadBalancers.map loadBalancerIdentity →
      routes'.map routeIdentity = routes.map routeIdentity →
      PortsDistinct loadBalancers' routes' →
      ∀ pa, DuplicateFree pa → ∀ draws pa₁ rest₁ pa₂ rest₂,
      pa.allocatePortsForLoadBalancers loadBalancers' draws = some (pa₁, rest₁) →
      pa₁.allocatePortsForRoutes routes' rest₁ = some (pa₂, rest₂) →
      ∀ client headerLimits sort codec,
      KeepsEveryListener client loadBalancers' routes' pa₂ headerLimits sort codec) ↔
    ((portGroups loadBalancers routes).map PortGroup.endpointKey).Nodup ∧
      ((portGroups loadBalancers routes).map PortGroup.identifier).Nodup := by
  constructor
  · intro kept
    have refuted (first second : PortGroup)
        (pair : [first, second].Sublist (portGroups loadBalancers routes))
        (common : first.endpointKey = second.endpointKey ∨
          first.identifier = second.identifier) : False := by
      obtain ⟨pa₁, pa₂, isFirst, isSecond⟩ := allocated_selected first.endpointKey
        second.endpointKey loadBalancers routes
      have keeps := kept
        (loadBalancers.map (selectLoadBalancer [first.endpointKey, second.endpointKey]))
        (routes.map (selectRoute [first.endpointKey, second.endpointKey]))
        (by simp [Function.comp_def, selectLoadBalancer, loadBalancerIdentity_withEndpointPorts])
        (by simp [Function.comp_def, selectRoute, routeIdentity_withServicePorts])
        (portsDistinct_selected _ _ _) _ (duplicateFree_heldAllocator _ _ _ _) _ _ _ _ _
        isFirst isSecond (fun _ _ => .ok []) {} (SliceSort.stable String)
        ⟨fun _ => .ok [], fun _ => ""⟩
      exact clash_of_pair pair common pa₂ keeps.names keeps.addresses
    constructor
    · by_contra repeated
      obtain ⟨first, second, pair, same⟩ := pair_of_not_nodup repeated
      exact refuted first second pair (Or.inl same)
    · by_contra repeated
      obtain ⟨first, second, pair, same⟩ := pair_of_not_nodup repeated
      exact refuted first second pair (Or.inr same)
  · rintro ⟨distinctKeys, distinctIdentifiers⟩ loadBalancers' routes' sameLoadBalancers
      sameRoutes distinctPorts pa free draws pa₁ rest₁ pa₂ rest₂ first second
      client headerLimits sort codec
    have texts := portGroups_texts_congr sameLoadBalancers sameRoutes
    have keys : ((portGroups loadBalancers' routes').map PortGroup.endpointKey).Nodup := by
      have view := congrArg (List.map Prod.fst) texts
      simp only [List.map_map, Function.comp_def, PortGroup.texts] at view
      rw [view]
      exact distinctKeys
    have identifiers : ((portGroups loadBalancers' routes').map PortGroup.identifier).Nodup := by
      have view := congrArg (List.map Prod.snd) texts
      simp only [List.map_map, Function.comp_def, PortGroup.texts] at view
      rw [view]
      exact distinctIdentifiers
    have allocated := allocateSlots_portGroups first second
    have entries := servedEntries_nodup keys distinctPorts
    apply keepsEveryListener_of_nodup
    · exact entries.map_on fun entry member entry' member' same =>
        listenerName_inj identifiers member member' same
    · exact entries.map_on fun entry member entry' member' same =>
        bindAddress_inj keys (free.allocateSlots allocated) (allHeld_of_allocated keys allocated)
          member member' same

/-! ## Same-named routes -/

def webRoute (originNamespace uid : String) : Unstructured where
  gvk := ⟨"gateway.networking.k8s.io", "v1", "HTTPRoute"⟩
  metadata := { name := "web", ns := originNamespace, uid := uid }

def sharedService : Service where
  metadata := { name := "api", ns := "shared" }
  spec := { ports := [{ port := 80, nodePort := 30080 }] }

/-- Two Routes mirrored from `team-a/web` and `team-b/web` with one backend. -/
def sameNamedRoutes : List Route :=
  [generateRoute (webRoute "team-a" "uid-a") [sharedService] "tenant-x",
    generateRoute (webRoute "team-b" "uid-b") [sharedService] "tenant-x"]

/-- Both Routes have a served port, but the snapshot has the listener of the
first one only: their services share one allocator key. -/
theorem same_named_routes_lose_a_listener :
    (newPortAllocator.allocatePortsForRoutes sameNamedRoutes [0]).map (fun allocated =>
      match mapSnapshot (fun _ _ => .ok []) [] sameNamedRoutes allocated.1 {}
          (SliceSort.stable String) ⟨fun _ => .ok [], fun _ => ""⟩ with
      | .error _ => []
      | .ok snapshot => (servedEntries [] sameNamedRoutes).map (fun entry =>
          (entry.listenerName, (snapshot.listeners.lookup entry.listenerName).isSome))) =
      some [("tenant-tenant-x-route-shared-api-team-a-web-port-80-TCP", true),
        ("tenant-tenant-x-route-shared-api-team-b-web-port-80-TCP", false)] := by
  decide

end KubeLB.Envoy
