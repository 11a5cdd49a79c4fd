import KubeLB.Envoy.Snapshot

/-!
Contract: the addresses that `MapSnapshot` uses for an endpoint.

Owns: soundness of the address cache inside one namespace, when all addresses can
be read, and the fact that the built resources of an object are made from the
addresses of its own endpoints.

Does not own: snapshots over several namespaces. The cache key joins namespace
and name with `-address-`, which does not keep the two apart.
-/

set_option autoImplicit false

namespace KubeLB.Envoy

open KubeLB.Library KubeLB.V1Alpha1 KubeLB.PortLookup

/-- The addresses of an endpoint: those written in it, or those of the referenced
object. -/
def Resolves (client : AddressesClient) (ns : String) (endpoint : LoadBalancerEndpoints)
    (addresses : List EndpointAddress) : Prop :=
  match endpoint.addressesReference with
  | none => addresses = endpoint.addresses
  | some name => client ns name = .ok addresses

/-- The addresses of an endpoint, read without the cache. -/
def endpointAddresses (client : AddressesClient) (ns : String)
    (endpoint : LoadBalancerEndpoints) : List EndpointAddress :=
  match endpoint.addressesReference with
  | none => endpoint.addresses
  | some name =>
      match client ns name with
      | .ok addresses => addresses
      | .error _ => []

/-- The object that the endpoint refers to, if any, can be read. -/
def Readable (client : AddressesClient) (ns : String) (endpoint : LoadBalancerEndpoints) :
    Prop :=
  ∀ name, endpoint.addressesReference = some name → ∃ addresses, client ns name = .ok addresses

theorem Resolves.readable {client : AddressesClient} {ns : String}
    {endpoint : LoadBalancerEndpoints} {addresses : List EndpointAddress}
    (resolves : Resolves client ns endpoint addresses) :
    Readable client ns endpoint ∧ addresses = endpointAddresses client ns endpoint := by
  unfold Resolves at resolves
  unfold Readable endpointAddresses
  cases isReference : endpoint.addressesReference with
  | none =>
      rw [isReference] at resolves
      exact ⟨fun _ isSome => (by cases isSome), resolves⟩
  | some name =>
      simp only [isReference] at resolves
      refine ⟨fun other isOther => ?_, by simp only [resolves]⟩
      obtain rfl := Option.some.inj isOther
      exact ⟨addresses, resolves⟩

theorem readable_of_forall₂ {client : AddressesClient} {ns : String}
    {endpoints : List LoadBalancerEndpoints} {addresses : List (List EndpointAddress)}
    (resolve : List.Forall₂ (Resolves client ns) endpoints addresses) :
    (∀ endpoint ∈ endpoints, Readable client ns endpoint) ∧
      addresses = endpoints.map (endpointAddresses client ns) := by
  induction resolve with
  | nil => simp
  | cons resolves _ ih =>
      obtain ⟨readable, isAddresses⟩ := resolves.readable
      obtain ⟨readableTail, isTail⟩ := ih
      refine ⟨fun endpoint member => ?_, by rw [List.map_cons, ← isAddresses, ← isTail]⟩
      rcases List.mem_cons.mp member with rfl | inTail
      · exact readable
      · exact readableTail endpoint inTail

/-- What the cache holds for a namespace is what a read returns. -/
def CacheSound (client : AddressesClient) (ns : String) (addressesMap : AddressesMap) : Prop :=
  ∀ name addresses,
    addressesMap.lookup (endpointAddressReferencePattern ns name) = some addresses →
    client ns name = .ok addresses

theorem cacheSound_empty (client : AddressesClient) (ns : String) : CacheSound client ns ∅ := by
  intro name addresses found
  simp at found

theorem endpointAddressReferencePattern_inj {ns name name' : String}
    (same : endpointAddressReferencePattern ns name = endpointAddressReferencePattern ns name') :
    name = name' :=
  String.append_right_inj _ |>.mp same

section OneNamespace

variable {client : AddressesClient} {ns : String} {addressesMap after : AddressesMap}

theorem resolveAddresses_sound {endpoint : LoadBalancerEndpoints}
    {addresses : List EndpointAddress}
    (sound : CacheSound client ns addressesMap)
    (resolved : resolveAddresses client ns endpoint addressesMap = .ok (addresses, after)) :
    Resolves client ns endpoint addresses ∧ CacheSound client ns after := by
  unfold resolveAddresses at resolved
  unfold Resolves
  cases isReference : endpoint.addressesReference with
  | none =>
      rw [isReference] at resolved
      cases resolved
      exact ⟨rfl, sound⟩
  | some name =>
      simp only [isReference] at resolved
      cases isCached : addressesMap.lookup (endpointAddressReferencePattern ns name) with
      | some cached =>
          rw [isCached] at resolved
          cases resolved
          exact ⟨sound name addresses isCached, sound⟩
      | none =>
          rw [isCached] at resolved
          cases isRead : client ns name with
          | error cause =>
              rw [isRead] at resolved
              cases resolved
          | ok read =>
              rw [isRead] at resolved
              cases resolved
              refine ⟨isRead, fun other found isFound => ?_⟩
              by_cases same : other = name
              · subst same
                rw [Finmap.lookup_insert] at isFound
                cases isFound
                exact isRead
              · rw [Finmap.lookup_insert_of_ne] at isFound
                · exact sound other found isFound
                · exact fun sameKey => same (endpointAddressReferencePattern_inj sameKey)

theorem resolveRouteAddresses_sound {endpoints : List LoadBalancerEndpoints}
    {addresses : List (List EndpointAddress)}
    (sound : CacheSound client ns addressesMap)
    (resolved : resolveRouteAddresses client ns endpoints addressesMap =
      .ok (addresses, after)) :
    List.Forall₂ (Resolves client ns) endpoints addresses ∧ CacheSound client ns after := by
  induction endpoints generalizing addressesMap addresses with
  | nil =>
      cases resolved
      exact ⟨List.Forall₂.nil, sound⟩
  | cons endpoint endpoints ih =>
      simp only [resolveRouteAddresses] at resolved
      split at resolved
      · cases resolved
      · rename_i first between isFirst
        split at resolved
        · cases resolved
        · rename_i others last isOthers
          cases resolved
          obtain ⟨own, soundBetween⟩ := resolveAddresses_sound sound isFirst
          obtain ⟨later, soundAfter⟩ := ih soundBetween isOthers
          exact ⟨List.Forall₂.cons own later, soundAfter⟩

variable {pa : PortAllocator} {headerLimits : HeaderLimits} {built : List PortResources}

theorem mapLoadBalancers_ok {loadBalancers : List LoadBalancer}
    (oneNamespace : ∀ lb ∈ loadBalancers, lb.metadata.ns = ns)
    (sound : CacheSound client ns addressesMap)
    (mapped : mapLoadBalancers client pa headerLimits loadBalancers addressesMap =
      .ok (built, after)) :
    (∀ lb ∈ loadBalancers, ∀ endpoint ∈ lb.spec.endpoints, Readable client ns endpoint) ∧
    built = loadBalancers.flatMap (fun lb => loadBalancerResources pa headerLimits lb
      (lb.spec.endpoints.map (endpointAddresses client ns))) ∧
    CacheSound client ns after := by
  induction loadBalancers generalizing addressesMap built with
  | nil =>
      cases mapped
      exact ⟨fun lb member => absurd member (by simp), rfl, sound⟩
  | cons head loadBalancers ih =>
      simp only [mapLoadBalancers, oneNamespace head List.mem_cons_self] at mapped
      split at mapped
      · cases mapped
      · rename_i addresses between isResolved
        split at mapped
        · cases mapped
        · rename_i others last isMapped
          cases mapped
          obtain ⟨own, soundBetween⟩ := resolveRouteAddresses_sound sound isResolved
          obtain ⟨readable, rfl⟩ := readable_of_forall₂ own
          obtain ⟨later, rfl, soundAfter⟩ := ih
            (fun lb member => oneNamespace lb (List.mem_cons_of_mem _ member))
            soundBetween isMapped
          refine ⟨fun lb member => ?_, rfl, soundAfter⟩
          rcases List.mem_cons.mp member with rfl | member
          · exact readable
          · exact later lb member

theorem mapRoutes_ok {routes : List Route}
    (oneNamespace : ∀ route ∈ routes, route.metadata.ns = ns)
    (sound : CacheSound client ns addressesMap)
    (mapped : mapRoutes client pa headerLimits routes addressesMap = .ok (built, after)) :
    (∀ route ∈ routes, route.spec.source.isSome →
      ∀ endpoint ∈ route.spec.endpoints, Readable client ns endpoint) ∧
    built = routes.flatMap (fun route => routeResources pa headerLimits route
      (route.spec.endpoints.map (endpointAddresses client ns))) := by
  induction routes generalizing addressesMap built with
  | nil =>
      cases mapped
      exact ⟨fun route member => absurd member (by simp), rfl⟩
  | cons head routes ih =>
      have tailNamespace : ∀ route ∈ routes, route.metadata.ns = ns :=
        fun route member => oneNamespace route (List.mem_cons_of_mem _ member)
      simp only [mapRoutes, oneNamespace head List.mem_cons_self] at mapped
      split at mapped
      · rename_i isNone
        obtain ⟨readable, rfl⟩ := ih tailNamespace sound mapped
        have nothing : routeServices head = [] := by
          rw [routeServices, Option.isNone_iff_eq_none.mp isNone]
        refine ⟨fun route member isSome => ?_, by simp [routeResources, nothing]⟩
        rcases List.mem_cons.mp member with rfl | inTail
        · rw [Option.isNone_iff_eq_none.mp isNone] at isSome
          cases isSome
        · exact readable route inTail isSome
      · split at mapped
        · cases mapped
        · rename_i addresses between isResolved
          split at mapped
          · cases mapped
          · rename_i others last isMapped
            cases mapped
            obtain ⟨own, soundBetween⟩ := resolveRouteAddresses_sound sound isResolved
            obtain ⟨readable, rfl⟩ := readable_of_forall₂ own
            obtain ⟨later, rfl⟩ := ih tailNamespace soundBetween isMapped
            refine ⟨fun route member isSome => ?_, rfl⟩
            rcases List.mem_cons.mp member with rfl | inTail
            · exact readable
            · exact later route inTail isSome

end OneNamespace

/-! ## Readable addresses -/

section Returns

variable {client : AddressesClient}

theorem resolveRouteAddresses_of_readable {ns : String} {endpoints : List LoadBalancerEndpoints}
    (readable : ∀ endpoint ∈ endpoints, Readable client ns endpoint)
    (addressesMap : AddressesMap) :
    ∃ result, resolveRouteAddresses client ns endpoints addressesMap = .ok result := by
  induction endpoints generalizing addressesMap with
  | nil => exact ⟨_, rfl⟩
  | cons endpoint endpoints ih =>
      have head : ∃ result, resolveAddresses client ns endpoint addressesMap = .ok result := by
        unfold resolveAddresses
        split
        · exact ⟨_, rfl⟩
        · rename_i name isName
          dsimp only
          split
          · exact ⟨_, rfl⟩
          · obtain ⟨addresses, isRead⟩ := readable endpoint List.mem_cons_self name isName
            rw [isRead]
            exact ⟨_, rfl⟩
      obtain ⟨⟨addresses, after⟩, isHead⟩ := head
      obtain ⟨⟨others, last⟩, isTail⟩ := ih
        (fun later member => readable later (List.mem_cons_of_mem _ member)) after
      simp only [resolveRouteAddresses, isHead, isTail]
      exact ⟨_, rfl⟩

theorem mapLoadBalancers_of_readable {loadBalancers : List LoadBalancer}
    (readable : ∀ lb ∈ loadBalancers, ∀ endpoint ∈ lb.spec.endpoints,
      Readable client lb.metadata.ns endpoint)
    (pa : PortAllocator) (headerLimits : HeaderLimits) (addressesMap : AddressesMap) :
    ∃ result, mapLoadBalancers client pa headerLimits loadBalancers addressesMap =
      .ok result := by
  induction loadBalancers generalizing addressesMap with
  | nil => exact ⟨_, rfl⟩
  | cons lb loadBalancers ih =>
      obtain ⟨⟨addresses, after⟩, isHead⟩ :=
        resolveRouteAddresses_of_readable (readable lb List.mem_cons_self) addressesMap
      obtain ⟨⟨others, last⟩, isTail⟩ := ih
        (fun later member => readable later (List.mem_cons_of_mem _ member)) after
      simp only [mapLoadBalancers, isHead, isTail]
      exact ⟨_, rfl⟩

theorem mapRoutes_of_readable {routes : List Route}
    (readable : ∀ route ∈ routes, route.spec.source.isSome →
      ∀ endpoint ∈ route.spec.endpoints, Readable client route.metadata.ns endpoint)
    (pa : PortAllocator) (headerLimits : HeaderLimits) (addressesMap : AddressesMap) :
    ∃ result, mapRoutes client pa headerLimits routes addressesMap = .ok result := by
  induction routes generalizing addressesMap with
  | nil => exact ⟨_, rfl⟩
  | cons route routes ih =>
      have readableTail : ∀ later ∈ routes, later.spec.source.isSome →
          ∀ endpoint ∈ later.spec.endpoints, Readable client later.metadata.ns endpoint :=
        fun later member => readable later (List.mem_cons_of_mem _ member)
      simp only [mapRoutes]
      split
      · exact ih readableTail addressesMap
      · rename_i hasSource
        obtain ⟨⟨addresses, after⟩, isHead⟩ := resolveRouteAddresses_of_readable
          (readable route List.mem_cons_self (by simpa [Option.isSome_iff_ne_none] using hasSource))
          addressesMap
        obtain ⟨⟨others, last⟩, isTail⟩ := ih readableTail after
        simp only [isHead, isTail]
        exact ⟨_, rfl⟩

theorem buildResources_of_readable {loadBalancers : List LoadBalancer} {routes : List Route}
    (readable : ∀ lb ∈ loadBalancers, ∀ endpoint ∈ lb.spec.endpoints,
      Readable client lb.metadata.ns endpoint)
    (readableRoutes : ∀ route ∈ routes, route.spec.source.isSome →
      ∀ endpoint ∈ route.spec.endpoints, Readable client route.metadata.ns endpoint)
    (pa : PortAllocator) (headerLimits : HeaderLimits) :
    ∃ built, buildResources client loadBalancers routes pa headerLimits = .ok built := by
  obtain ⟨⟨first, after⟩, isFirst⟩ :=
    mapLoadBalancers_of_readable readable pa headerLimits ∅
  obtain ⟨⟨second, last⟩, isSecond⟩ :=
    mapRoutes_of_readable readableRoutes pa headerLimits after
  simp only [buildResources, isFirst, isSecond]
  exact ⟨_, rfl⟩

end Returns

/-! ## What is read of a LoadBalancer -/

section Alike

/-- Endpoints that give the same resources. -/
structure EndpointAlike (left right : LoadBalancerEndpoints) : Prop where
  addresses : left.addresses = right.addresses
  reference : left.addressesReference = right.addressesReference
  ports : List.Forall₂ (fun port other : EndpointPort =>
    port.port = other.port ∧ port.protocol = other.protocol) left.ports right.ports

structure LoadBalancerAlike (left right : LoadBalancer) : Prop where
  ns : left.metadata.ns = right.metadata.ns
  name : left.metadata.name = right.metadata.name
  persistence : left.spec.persistence = right.spec.persistence
  proxyProtocol : left.metadata.annotations.get annotationProxyProtocol =
    right.metadata.annotations.get annotationProxyProtocol
  endpoints : List.Forall₂ EndpointAlike left.spec.endpoints right.spec.endpoints

variable {left right : LoadBalancer}

theorem resolveRouteAddresses_congr {client : AddressesClient} {ns : String}
    {endpoints others : List LoadBalancerEndpoints}
    (alike : List.Forall₂ EndpointAlike endpoints others) (addressesMap : AddressesMap) :
    resolveRouteAddresses client ns endpoints addressesMap =
      resolveRouteAddresses client ns others addressesMap := by
  induction alike generalizing addressesMap with
  | nil => rfl
  | cons head _ ih =>
      simp only [resolveRouteAddresses, resolveAddresses, head.reference, head.addresses,
        ih]

theorem loadBalancerResources_congr (alike : LoadBalancerAlike left right) (pa : PortAllocator)
    (headerLimits : HeaderLimits) (addresses : List (List EndpointAddress)) :
    loadBalancerResources pa headerLimits left addresses =
      loadBalancerResources pa headerLimits right addresses := by
  have samePort {port other : EndpointPort}
      (same : port.port = other.port ∧ port.protocol = other.protocol) (index : Nat)
      (resolved : List EndpointAddress) :
      loadBalancerPortResources pa headerLimits left index resolved port =
        loadBalancerPortResources pa headerLimits right index resolved other := by
    simp only [loadBalancerPortResources, alike.ns, alike.name, alike.persistence,
      alike.proxyProtocol, same.1, same.2]
  have samePorts {ports others : List EndpointPort}
      (same : List.Forall₂ (fun port other : EndpointPort =>
        port.port = other.port ∧ port.protocol = other.protocol) ports others) (index : Nat)
      (resolved : List EndpointAddress) :
      ports.map (loadBalancerPortResources pa headerLimits left index resolved) =
        others.map (loadBalancerPortResources pa headerLimits right index resolved) := by
    induction same with
    | nil => rfl
    | cons head _ ih =>
        rw [List.map_cons, List.map_cons, samePort head, ih]
  have sameEndpoints := alike.endpoints
  simp only [loadBalancerResources]
  generalize left.spec.endpoints = endpoints at sameEndpoints
  generalize right.spec.endpoints = others at sameEndpoints
  generalize 0 = start
  induction sameEndpoints generalizing start addresses with
  | nil => rfl
  | cons head _ ih =>
      cases addresses with
      | nil => simp
      | cons resolved addresses =>
          simp only [List.zipIdx_cons, List.zip_cons_cons, List.flatMap_cons,
            samePorts head.ports, ih]

theorem mapLoadBalancers_congr (alike : LoadBalancerAlike left right) (client : AddressesClient)
    (pa : PortAllocator) (headerLimits : HeaderLimits) (before after : List LoadBalancer)
    (addressesMap : AddressesMap) :
    mapLoadBalancers client pa headerLimits (before ++ left :: after) addressesMap =
      mapLoadBalancers client pa headerLimits (before ++ right :: after) addressesMap := by
  induction before generalizing addressesMap with
  | nil =>
      simp only [List.nil_append, mapLoadBalancers, alike.ns,
        resolveRouteAddresses_congr alike.endpoints, loadBalancerResources_congr alike]
  | cons head before ih =>
      simp only [List.cons_append, mapLoadBalancers, ih]

/-- `MapSnapshot` reads nothing else of a LoadBalancer. -/
theorem mapSnapshot_congr (alike : LoadBalancerAlike left right) (client : AddressesClient)
    (before after : List LoadBalancer) (routes : List Route) (pa : PortAllocator)
    (headerLimits : HeaderLimits) (sort : SliceSort String) (codec : ResourceCodec) :
    mapSnapshot client (before ++ left :: after) routes pa headerLimits sort codec =
      mapSnapshot client (before ++ right :: after) routes pa headerLimits sort codec := by
  simp only [mapSnapshot, buildResources, mapLoadBalancers_congr alike]

end Alike

end KubeLB.Envoy
