import KubeLB.PortLookup.Invariant

/-!
Contract: the allocations that the mapper makes for LoadBalancers and Routes.

Owns: the endpoint key and port keys of every LoadBalancer endpoint and Route
service, the mapper's allocation and release functions, and what a sequence of
allocations leaves in the table.

Does not own: the order of the lists, which is the caller's.
-/

set_option autoImplicit false

namespace KubeLB.PortLookup

open KubeLB.Library KubeLB.Core KubeLB.V1Alpha1 KubeLB.Naming

/-- The arguments of one `AllocatePorts` call of the mapper. -/
structure Slot where
  endpointKey : String
  portKeys : List String
  deriving DecidableEq, Repr

/-- The endpoint keys and port keys of a LoadBalancer. -/
def loadBalancerSlots (lb : LoadBalancer) : List Slot :=
  lb.spec.endpoints.zipIdx.map (fun indexed =>
    { endpointKey := envoyEndpointPattern lb.metadata.ns lb.metadata.name indexed.2
      portKeys := indexed.1.ports.map (fun port =>
        envoyListenerPattern port.port port.protocol) })

/-- The endpoint key of a Route's service. -/
def routeEndpointKey (route : Route) (svc : Service) : String :=
  envoyEndpointRoutePattern route.metadata.ns svc.metadata.ns svc.metadata.name
    (getOriginalRouteName route)

def servicePortKeys (svc : Service) : List String :=
  svc.spec.ports.map (fun port => envoyListenerPattern port.port port.protocol)

/-- The services of a Route, none when it has no Kubernetes source. -/
def routeServices (route : Route) : List Service :=
  match route.spec.source with
  | none => []
  | some source => source.services

/-- The endpoint keys and port keys of a Route. -/
def routeSlots (route : Route) : List Slot :=
  (routeServices route).map (fun svc =>
    { endpointKey := routeEndpointKey route svc, portKeys := servicePortKeys svc })

/-- Allocate for one slot after the other. -/
def allocateSlots : PortAllocator → List Slot → List Draw →
    Option (PortAllocator × List Draw)
  | pa, [], draws => some (pa, draws)
  | pa, slot :: slots, draws =>
      match pa.allocatePorts slot.endpointKey slot.portKeys draws with
      | none => none
      | some (next, _, rest) => allocateSlots next slots rest

def PortAllocator.allocatePortsForLoadBalancers (pa : PortAllocator)
    (loadBalancers : List LoadBalancer) (draws : List Draw) :
    Option (PortAllocator × List Draw) :=
  allocateSlots pa (loadBalancers.flatMap loadBalancerSlots) draws

def PortAllocator.allocatePortsForRoutes (pa : PortAllocator) (routes : List Route)
    (draws : List Draw) : Option (PortAllocator × List Draw) :=
  allocateSlots pa (routes.flatMap routeSlots) draws

def PortAllocator.deallocatePortsForLoadBalancer (pa : PortAllocator) (lb : LoadBalancer) :
    PortAllocator :=
  pa.deallocateEndpoints ((loadBalancerSlots lb).map (·.endpointKey))

/-! ## Keys of LoadBalancers -/

theorem loadBalancerSlots_keys (lb : LoadBalancer) :
    (loadBalancerSlots lb).map (·.endpointKey) =
      (List.range lb.spec.endpoints.length).map
        (envoyEndpointPattern lb.metadata.ns lb.metadata.name) := by
  have indices : lb.spec.endpoints.zipIdx.map Prod.snd =
      List.range lb.spec.endpoints.length := by
    rw [List.zipIdx_map_snd, List.range_eq_range']
  rw [← indices]
  simp only [loadBalancerSlots, List.map_map, Function.comp_def]

/-- LoadBalancers of one namespace with distinct names have distinct keys. -/
theorem loadBalancerKeys_nodup {loadBalancers : List LoadBalancer} {ns : String}
    (oneNamespace : ∀ lb ∈ loadBalancers, lb.metadata.ns = ns)
    (distinctNames : (loadBalancers.map (·.metadata.name)).Nodup) :
    ((loadBalancers.flatMap loadBalancerSlots).map (·.endpointKey)).Nodup := by
  rw [List.map_flatMap, List.nodup_flatMap]
  constructor
  · intro lb _
    rw [loadBalancerSlots_keys]
    exact List.nodup_range.map fun _ _ same => (envoyEndpointPattern_injective same).2
  · apply (List.pairwise_map.mp distinctNames).imp_of_mem
    intro lb other member otherMember different key inLb inOther
    simp only [loadBalancerSlots_keys, oneNamespace lb member] at inLb
    simp only [loadBalancerSlots_keys, oneNamespace other otherMember] at inOther
    obtain ⟨index, -, rfl⟩ := List.mem_map.mp inLb
    obtain ⟨index', -, same⟩ := List.mem_map.mp inOther
    exact different (envoyEndpointPattern_injective same).1.symm

/-! ## What a sequence of allocations leaves -/

def lastSlot (endpointKey : String) : List Slot → Option Slot
  | [] => none
  | slot :: slots =>
      match lastSlot endpointKey slots with
      | some later => some later
      | none => if slot.endpointKey = endpointKey then some slot else none

theorem lastSlot_eq_none {endpointKey : String} {slots : List Slot} :
    lastSlot endpointKey slots = none ↔ ∀ slot ∈ slots, slot.endpointKey ≠ endpointKey := by
  induction slots with
  | nil => simp [lastSlot]
  | cons slot slots ih =>
      simp only [lastSlot, List.mem_cons, forall_eq_or_imp, ← ih]
      cases lastSlot endpointKey slots <;> simp

theorem mem_of_lastSlot {endpointKey : String} {slots : List Slot} {last : Slot}
    (isLast : lastSlot endpointKey slots = some last) :
    last ∈ slots ∧ last.endpointKey = endpointKey := by
  induction slots with
  | nil => cases isLast
  | cons slot slots ih =>
      simp only [lastSlot] at isLast
      cases isLater : lastSlot endpointKey slots with
      | some later =>
          rw [isLater] at isLast
          obtain ⟨member, isKey⟩ := ih (isLater.trans isLast)
          exact ⟨List.mem_cons_of_mem _ member, isKey⟩
      | none =>
          rw [isLater] at isLast
          simp only [Option.ite_none_right_eq_some, Option.some.injEq] at isLast
          exact ⟨isLast.2 ▸ List.mem_cons_self, isLast.2 ▸ isLast.1⟩

theorem exists_lastSlot {routes : List Route} {route : Route} {svc : Service}
    (inRoutes : route ∈ routes) (inServices : svc ∈ routeServices route) :
    ∃ slot, lastSlot (routeEndpointKey route svc) (routes.flatMap routeSlots) = some slot := by
  have inSlots : ⟨routeEndpointKey route svc, servicePortKeys svc⟩ ∈ routes.flatMap routeSlots :=
    List.mem_flatMap.mpr ⟨route, inRoutes, List.mem_map.mpr ⟨svc, inServices, rfl⟩⟩
  exact Option.ne_none_iff_exists'.mp (fun absent => lastSlot_eq_none.mp absent _ inSlots rfl)

theorem lastSlot_of_nodup {slots : List Slot}
    (distinct : (slots.map (·.endpointKey)).Nodup)
    {slot : Slot} (member : slot ∈ slots) :
    lastSlot slot.endpointKey slots = some slot := by
  induction slots with
  | nil => cases member
  | cons head slots ih =>
      obtain ⟨headFresh, distinctTail⟩ := List.nodup_cons.mp distinct
      simp only [lastSlot]
      rcases List.mem_cons.mp member with rfl | later
      · have noLater : lastSlot slot.endpointKey slots = none := by
          rw [lastSlot_eq_none]
          intro other otherMember same
          exact headFresh (List.mem_map.mpr ⟨other, otherMember, same⟩)
        simp [noLater]
      · rw [ih distinctTail later]

theorem allocateMissing_rest
    {portKeys : List String} {draws rest : List Draw} {before after : AllocationLoop}
    (allocated : allocateMissing portKeys before draws = some (after, rest)) :
    rest ⊆ draws := by
  induction portKeys generalizing before draws with
  | nil =>
      cases allocated
      exact List.Subset.refl _
  | cons portKey portKeys ih =>
      simp only [allocateMissing] at allocated
      split at allocated
      · exact ih allocated
      · split at allocated
        · cases allocated
        · rename_i port left isPort
          exact List.Subset.trans (ih allocated) (allocatePort_fresh isPort).2.2

theorem allocatePorts_rest
    {pa pa' : PortAllocator} {endpointKey : String} {portKeys : List String}
    {draws rest : List Draw} {updated : Bool}
    (allocated : pa.allocatePorts endpointKey portKeys draws = some (pa', updated, rest)) :
    rest ⊆ draws := by
  unfold PortAllocator.allocatePorts at allocated
  split at allocated
  · cases allocated
  · rename_i loop left isLoop
    cases allocated
    exact allocateMissing_rest isLoop

/-- The first slot of a sequence of allocations. -/
theorem allocateSlots_cons
    {pa pa' : PortAllocator} {slot : Slot} {slots : List Slot} {draws rest : List Draw}
    (allocated : allocateSlots pa (slot :: slots) draws = some (pa', rest)) :
    ∃ next left, AllocatesPorts pa slot.endpointKey slot.portKeys draws next ∧
      left ⊆ draws ∧ allocateSlots next slots left = some (pa', rest) := by
  simp only [allocateSlots] at allocated
  split at allocated
  · cases allocated
  · rename_i next updated left isNext
    exact ⟨next, left, allocatePorts_effect isNext, allocatePorts_rest isNext, allocated⟩

theorem allocateSlots_rest
    {pa pa' : PortAllocator} {slots : List Slot} {draws rest : List Draw}
    (allocated : allocateSlots pa slots draws = some (pa', rest)) :
    rest ⊆ draws := by
  induction slots generalizing pa draws with
  | nil =>
      cases allocated
      exact List.Subset.refl _
  | cons slot slots ih =>
      obtain ⟨next, left, -, leftSubset, later⟩ := allocateSlots_cons allocated
      exact List.Subset.trans (ih later) leftSubset

/-- The effect of a sequence of allocations. -/
structure AllocatesSlots (pa : PortAllocator) (slots : List Slot) (draws : List Draw)
    (pa' : PortAllocator) : Prop where
  untouched : ∀ {endpointKey}, lastSlot endpointKey slots = none →
    pa'.portLookup.lookup endpointKey = pa.portLookup.lookup endpointKey
  present : ∀ {endpointKey slot}, lastSlot endpointKey slots = some slot →
    ∃ ports, pa'.portLookup.lookup endpointKey = some ports
  held : ∀ {endpointKey slot}, lastSlot endpointKey slots = some slot → ∀ portKey,
    (∃ port, pa'.lookup endpointKey portKey = some port) ↔ portKey ∈ slot.portKeys
  kept : ∀ {endpointKey portKey port}, pa.lookup endpointKey portKey = some port →
    (∀ slot ∈ slots, slot.endpointKey = endpointKey → portKey ∈ slot.portKeys) →
    pa'.lookup endpointKey portKey = some port
  origin : ∀ {endpointKey portKey port}, pa'.lookup endpointKey portKey = some port →
    pa.lookup endpointKey portKey = some port ∨ ∃ draw ∈ draws, port = draw.port

private theorem allocatesSlots_nil (pa : PortAllocator) (draws : List Draw) :
    AllocatesSlots pa [] draws pa :=
  { untouched := fun _ => rfl
    present := fun last => nomatch last
    held := fun last => nomatch last
    kept := fun found _ => found
    origin := fun found => Or.inl found }

private theorem allocatesSlots_cons
    {pa next pa' : PortAllocator} {slot : Slot} {slots : List Slot} {draws left : List Draw}
    (first : AllocatesPorts pa slot.endpointKey slot.portKeys draws next)
    (leftSubset : left ⊆ draws)
    (others : AllocatesSlots next slots left pa') :
    AllocatesSlots pa (slot :: slots) draws pa' := by
  refine ⟨?_, ?_, ?_, ?_, ?_⟩
  · intro endpointKey absent
    rw [lastSlot_eq_none, List.forall_mem_cons] at absent
    rw [others.untouched (lastSlot_eq_none.mpr absent.2), first.elsewhere absent.1.symm]
  · intro endpointKey last isLast
    simp only [lastSlot] at isLast
    cases isLater : lastSlot endpointKey slots with
    | some later => exact others.present isLater
    | none =>
        rw [isLater] at isLast
        simp only [Option.ite_none_right_eq_some, Option.some.injEq] at isLast
        rw [others.untouched isLater, ← isLast.1]
        exact first.present
  · intro endpointKey last isLast portKey
    simp only [lastSlot] at isLast
    cases isLater : lastSlot endpointKey slots with
    | some later =>
        rw [isLater] at isLast
        cases isLast
        exact others.held isLater portKey
    | none =>
        rw [isLater] at isLast
        simp only [Option.ite_none_right_eq_some, Option.some.injEq] at isLast
        obtain ⟨rfl, rfl⟩ := isLast
        have same : pa'.lookup slot.endpointKey portKey = next.lookup slot.endpointKey portKey := by
          simp only [PortAllocator.lookup, cell, others.untouched isLater]
        rw [same]
        constructor
        · rintro ⟨port, found⟩
          by_contra absent
          rw [first.dropped absent] at found
          cases found
        · exact first.filled
  · intro endpointKey portKey port found listed
    apply others.kept _ (fun other member => listed other (List.mem_cons_of_mem _ member))
    by_cases here : endpointKey = slot.endpointKey
    · subst here
      exact first.kept (listed slot List.mem_cons_self rfl) found
    · rw [first.lookup_elsewhere here, found]
  · intro endpointKey portKey port found
    rcases others.origin found with earlier | ⟨draw, member, isPort⟩
    · rcases first.origin earlier with old | ⟨-, -, -, -, drawn⟩
      · exact Or.inl old
      · exact Or.inr drawn
    · exact Or.inr ⟨draw, leftSubset member, isPort⟩

theorem allocateSlots_effect
    {pa pa' : PortAllocator} {slots : List Slot} {draws rest : List Draw}
    (allocated : allocateSlots pa slots draws = some (pa', rest)) :
    AllocatesSlots pa slots draws pa' := by
  induction slots generalizing pa draws with
  | nil =>
      cases allocated
      exact allocatesSlots_nil _ _
  | cons slot slots ih =>
      obtain ⟨next, left, first, leftSubset, later⟩ := allocateSlots_cons allocated
      exact allocatesSlots_cons first leftSubset (ih later)

theorem allocateSlots_append (pa : PortAllocator) (slots more : List Slot)
    (draws : List Draw) :
    allocateSlots pa (slots ++ more) draws =
      (allocateSlots pa slots draws).bind (fun reached =>
        allocateSlots reached.1 more reached.2) := by
  induction slots generalizing pa draws with
  | nil => rfl
  | cons slot slots ih =>
      simp only [List.cons_append, allocateSlots]
      cases pa.allocatePorts slot.endpointKey slot.portKeys draws with
      | none => rfl
      | some result => exact ih result.1 result.2.2

theorem exists_lastSlot_of_mem {slots : List Slot} {slot : Slot} (member : slot ∈ slots) :
    ∃ last ∈ slots, last.endpointKey = slot.endpointKey ∧
      lastSlot slot.endpointKey slots = some last := by
  obtain ⟨last, isLast⟩ := Option.ne_none_iff_exists'.mp
    (fun absent => lastSlot_eq_none.mp absent slot member rfl)
  exact ⟨last, (mem_of_lastSlot isLast).1, (mem_of_lastSlot isLast).2, isLast⟩

/-! ## Allocation without draws -/

theorem listed_of_allocateSlots_nil {pa pa' : PortAllocator} {slots : List Slot}
    {rest : List Draw} (allocated : allocateSlots pa slots [] = some (pa', rest))
    {endpointKey portKey : String} {port : Int}
    (found : pa'.lookup endpointKey portKey = some port) :
    ∀ slot ∈ slots, slot.endpointKey = endpointKey → portKey ∈ slot.portKeys := by
  induction slots generalizing pa with
  | nil => simp
  | cons slot slots ih =>
      obtain ⟨next, left, first, leftSubset, later⟩ := allocateSlots_cons allocated
      obtain rfl : left = [] := List.subset_nil.mp leftSubset
      rw [List.forall_mem_cons]
      refine ⟨?_, ih later⟩
      rintro rfl
      by_contra unlisted
      rcases (allocateSlots_effect later).origin found with earlier | ⟨draw, none, -⟩
      · rw [first.dropped unlisted] at earlier
        cases earlier
      · cases none

theorem allocateMissing_of_held {portKeys : List String} {loop : AllocationLoop}
    (held : ∀ portKey ∈ portKeys, ∃ port, loop.ports.lookup portKey = some port)
    (draws : List Draw) :
    allocateMissing portKeys loop draws = some (loop, draws) := by
  induction portKeys with
  | nil => rfl
  | cons portKey portKeys ih =>
      obtain ⟨port, isPort⟩ := held portKey List.mem_cons_self
      simp only [allocateMissing, isPort]
      exact ih fun later member => held later (List.mem_cons_of_mem _ member)

/-- When every listed key has a port, `AllocatePorts` draws nothing. -/
theorem allocatePorts_of_held {pa : PortAllocator} {endpointKey : String}
    {portKeys : List String}
    (held : ∀ portKey ∈ portKeys, ∃ port, pa.lookup endpointKey portKey = some port)
    (draws : List Draw) :
    ∃ pa' updated, pa.allocatePorts endpointKey portKeys draws = some (pa', updated, draws) := by
  have loopHeld : ∀ portKey ∈ portKeys,
      ∃ port, (endpointPorts pa.portLookup endpointKey).lookup portKey = some port := by
    intro portKey member
    rw [lookup_endpointPorts]
    exact held portKey member
  unfold PortAllocator.allocatePorts
  rw [allocateMissing_of_held loopHeld]
  exact ⟨_, _, rfl⟩

/-- When every listed key has a port and no slot of the same endpoint key drops
it, a sequence of allocations draws nothing. -/
theorem allocateSlots_of_held {pa : PortAllocator} {slots : List Slot}
    (held : ∀ slot ∈ slots, ∀ portKey ∈ slot.portKeys,
      (∃ port, pa.lookup slot.endpointKey portKey = some port) ∧
        ∀ other ∈ slots, other.endpointKey = slot.endpointKey → portKey ∈ other.portKeys)
    (draws : List Draw) :
    ∃ pa', allocateSlots pa slots draws = some (pa', draws) := by
  induction slots generalizing pa with
  | nil => exact ⟨pa, rfl⟩
  | cons slot slots ih =>
      obtain ⟨next, updated, isNext⟩ := allocatePorts_of_held
        (fun portKey member => (held slot List.mem_cons_self portKey member).1) draws
      have effect := allocatePorts_effect isNext
      simp only [allocateSlots, isNext]
      apply ih
      intro later member portKey portMember
      obtain ⟨⟨port, found⟩, shared⟩ :=
        held later (List.mem_cons_of_mem _ member) portKey portMember
      refine ⟨⟨port, ?_⟩, fun other otherMember =>
        shared other (List.mem_cons_of_mem _ otherMember)⟩
      by_cases here : later.endpointKey = slot.endpointKey
      · rw [here] at found ⊢
        exact effect.kept (shared slot List.mem_cons_self here.symm) found
      · rw [effect.lookup_elsewhere here, found]

theorem UniqueBeyond.allocateSlots {loaded : LookupTable}
    {pa pa' : PortAllocator} {slots : List Slot} {draws rest : List Draw}
    (before : UniqueBeyond loaded pa)
    (allocated : PortLookup.allocateSlots pa slots draws = some (pa', rest)) :
    UniqueBeyond loaded pa' := by
  induction slots generalizing pa draws with
  | nil =>
      cases allocated
      exact before
  | cons slot slots ih =>
      obtain ⟨next, left, first, -, later⟩ := allocateSlots_cons allocated
      exact ih (before.allocatesPorts first) later

end KubeLB.PortLookup
