import KubeLB.PortLookup.Loading
import KubeLB.PortLookup.Mapper

/-!
Contract: properties of the port numbers that an allocator holds.

Owns: the rule that a property of single ports is an invariant when every draw
and every stored target port has it, and the two domains of states that later
modules use: duplicate-free states and states that hold port numbers.

Does not own: which ports are wanted.
-/

set_option autoImplicit false

namespace KubeLB.PortLookup

open KubeLB.Library KubeLB.V1Alpha1 KubeLB.Naming

def HoldsOnly (Good : Int → Prop) (pa : PortAllocator) : Prop :=
  ∀ endpointKey portKey port, pa.lookup endpointKey portKey = some port → Good port

section Preservation

variable {Good : Int → Prop}

theorem HoldsOnly.allocatesPorts {pa pa' : PortAllocator}
    {endpointKey : String} {portKeys : List String} {draws : List Draw}
    (before : HoldsOnly Good pa)
    (goodDraws : ∀ draw ∈ draws, Good draw.port)
    (effect : AllocatesPorts pa endpointKey portKeys draws pa') :
    HoldsOnly Good pa' := by
  intro other portKey port found
  rcases effect.origin found with old | ⟨-, -, -, -, draw, member, rfl⟩
  · exact before _ _ _ old
  · exact goodDraws draw member

theorem HoldsOnly.allocateSlots {pa pa' : PortAllocator} {slots : List Slot}
    {draws rest : List Draw}
    (before : HoldsOnly Good pa)
    (goodDraws : ∀ draw ∈ draws, Good draw.port)
    (allocated : PortLookup.allocateSlots pa slots draws = some (pa', rest)) :
    HoldsOnly Good pa' := by
  intro endpointKey portKey port found
  rcases (allocateSlots_effect allocated).origin found with old | ⟨draw, member, rfl⟩
  · exact before _ _ _ old
  · exact goodDraws draw member

/-! ## Reload -/

def StoredPortsAre (Good : Int → Prop) (loadBalancers : List LoadBalancer)
    (routes : List Route) : Prop :=
  (∀ lb ∈ loadBalancers, ∀ port ∈ lb.status.service.ports, Good port.targetPort.intValue) ∧
  (∀ route ∈ routes, ∀ key status, route.status.resources.services.lookup key = some status →
    ∀ port ∈ status.ports, Good port.targetPort.intValue)

/-- Every port that the statuses write is a stored target port. -/
theorem loadTable_holdsOnly {loadBalancers : List LoadBalancer} {routes : List Route}
    (stored : StoredPortsAre Good loadBalancers routes) {endpointKey portKey : String}
    {port : Int}
    (found : cell (loadTable loadBalancers routes) endpointKey portKey = some port) :
    Good port := by
  rw [cell_loadTable] at found
  rcases List.mem_append.mp (mem_of_lastWrite found) with inLoadBalancers | inRoutes
  · obtain ⟨lb, member, inLb⟩ := List.mem_flatMap.mp inLoadBalancers
    obtain ⟨indexed, -, inEndpoint⟩ := List.mem_flatMap.mp inLb
    obtain ⟨endpointPort, -, inPort⟩ := List.mem_flatMap.mp inEndpoint
    obtain ⟨value, isStored, isWrite⟩ := Option.map_eq_some_iff.mp (Option.mem_toList.mp inPort)
    obtain ⟨statusPort, isFound, rfl⟩ := Option.map_eq_some_iff.mp isStored
    cases isWrite
    exact stored.1 lb member statusPort (List.mem_of_find?_eq_some isFound)
  · obtain ⟨route, member, inRoute⟩ := List.mem_flatMap.mp inRoutes
    unfold routeWrites at inRoute
    split at inRoute
    · cases inRoute
    · obtain ⟨svc, -, inService⟩ := List.mem_flatMap.mp inRoute
      unfold serviceWrites at inService
      split at inService
      · cases inService
      · rename_i status isStatus
        obtain ⟨servicePort, portMember, isWrite⟩ := List.mem_map.mp inService
        cases isWrite
        exact stored.2 route member _ status isStatus servicePort portMember

/-! ## All calls -/

def Call.Uses (Good : Int → Prop) : Call → Prop
  | .loadState ⟨.ok loadBalancers, .ok routes⟩ => StoredPortsAre Good loadBalancers routes
  | .allocatePorts _ _ draws => ∀ draw ∈ draws, Good draw.port
  | _ => True

theorem HoldsOnly.step {pa pa' : PortAllocator} {call : Call}
    (before : HoldsOnly Good pa)
    (uses : call.Uses Good)
    (stepped : pa.step call = some pa') :
    HoldsOnly Good pa' := by
  cases call with
  | loadState apiReader =>
      cases stepped
      obtain ⟨loadBalancers, routes⟩ := apiReader
      cases loadBalancers with
      | error error => exact before
      | ok loadBalancers =>
          cases routes with
          | error error => exact before
          | ok routes =>
              intro endpointKey portKey port found
              have healed : cell (healLoadStateCollisions (loadTable loadBalancers routes))
                  endpointKey portKey = some port := found
              rw [cell_healLoadStateCollisions] at healed
              exact loadTable_holdsOnly uses healed.1
  | allocatePorts endpointKey portKeys draws =>
      obtain ⟨⟨next, updated, rest⟩, allocated, rfl⟩ := Option.map_eq_some_iff.mp stepped
      exact before.allocatesPorts uses (allocatePorts_effect allocated)
  | deallocatePorts endpointKey portKeys =>
      cases stepped
      intro other portKey port found
      rw [lookup_deallocatePorts] at found
      split at found
      · cases found
      · exact before _ _ _ found
  | deallocateEndpoints endpointKeys =>
      cases stepped
      intro other portKey port found
      rw [lookup_deallocateEndpoints] at found
      split at found
      · cases found
      · exact before _ _ _ found

/-- Every state of a run whose calls use only good ports holds only good ports. -/
theorem reached_holdsOnly {calls : List Call} {pa : PortAllocator}
    (uses : ∀ call ∈ calls, call.Uses Good)
    (run : runFrom PortAllocator.step newPortAllocator calls = some pa) :
    HoldsOnly Good pa := by
  refine run_induction
    (motive := fun history pa => (∀ call ∈ history, call.Uses Good) → HoldsOnly Good pa)
    ?_ ?_ run uses
  · intro _ endpointKey portKey port found
    simp [PortAllocator.lookup, newPortAllocator] at found
  · intro history state call next held stepped good
    exact (held fun earlier member => good earlier (List.mem_append_left _ member)).step
      (good call (by simp)) stepped

end Preservation

/-! ## Port numbers -/

/-- A TCP or UDP port number. -/
def IsPortNumber (port : Int) : Prop := 0 ≤ port ∧ port ≤ 65535

theorem isPortNumber_draw (draw : Draw) : IsPortNumber draw.port := by
  have bound : draw.val < 55535 := draw.isLt
  unfold IsPortNumber Draw.port startPort
  omega

theorem IsPortNumber.toNat_ofInt {port : Int} (valid : IsPortNumber port) :
    (UInt32.ofInt port).toNat = port.toNat := by
  unfold IsPortNumber at valid
  simp only [UInt32.ofInt, UInt32.toNat_ofNat']
  omega

theorem IsPortNumber.toInt_ofInt {port : Int} (valid : IsPortNumber port) :
    (Int32.ofInt port).toInt = port := by
  unfold IsPortNumber at valid
  apply Int32.toInt_ofInt_of_le <;> omega

theorem IsPortNumber.eq_of_ofInt_eq {port port' : Int}
    (valid : IsPortNumber port) (valid' : IsPortNumber port')
    (same : UInt32.ofInt port = UInt32.ofInt port') : port = port' := by
  have values := congrArg UInt32.toNat same
  rw [valid.toNat_ofInt, valid'.toNat_ofInt] at values
  unfold IsPortNumber at valid valid'
  omega

/-- A duplicate-free state: no two entries share a port, the reverse set is
exact, and what the table holds are port numbers. -/
structure DuplicateFree (pa : PortAllocator) : Prop where
  exact : ReverseExact pa
  portNumbers : HoldsOnly IsPortNumber pa
  unique : ∀ {endpointKey endpointKey' portKey portKey' port},
    pa.lookup endpointKey portKey = some port →
    pa.lookup endpointKey' portKey' = some port →
    endpointKey = endpointKey' ∧ portKey = portKey'

theorem DuplicateFree.uniqueBeyond {pa : PortAllocator} (free : DuplicateFree pa) :
    UniqueBeyond ∅ pa :=
  ⟨free.exact, fun found found' =>
    let both := free.unique found found'
    ⟨both.1, Or.inl both.2⟩⟩

theorem duplicateFree_newPortAllocator : DuplicateFree newPortAllocator := by
  have nothing (endpointKey portKey : String) :
      newPortAllocator.lookup endpointKey portKey = none := by
    simp [PortAllocator.lookup, newPortAllocator]
  refine ⟨rfl, fun endpointKey portKey port found => ?_, fun found _ => ?_⟩
  · rw [nothing] at found
    cases found
  · rw [nothing] at found
    cases found

/-! ## Restored states -/

theorem cell_of_lookup_loadState {pa : PortAllocator} {loadBalancers : List LoadBalancer}
    {routes : List Route} {endpointKey portKey : String} {port : Int}
    (found : (pa.loadState ⟨.ok loadBalancers, .ok routes⟩).1.lookup endpointKey portKey =
      some port) :
    cell (loadTable loadBalancers routes) endpointKey portKey = some port :=
  ((cell_healLoadStateCollisions _ _ _ _).mp found).1

/-- If the statuses hold nothing but ports of a duplicate-free state, healing
removes none of them. -/
theorem DuplicateFree.lookup_loadState {pa : PortAllocator} (free : DuplicateFree pa)
    {loadBalancers : List LoadBalancer} {routes : List Route}
    (agree : ∀ endpointKey portKey port,
      cell (loadTable loadBalancers routes) endpointKey portKey = some port →
      pa.lookup endpointKey portKey = some port)
    (restarted : PortAllocator) (endpointKey portKey : String) :
    (restarted.loadState ⟨.ok loadBalancers, .ok routes⟩).1.lookup endpointKey portKey =
      cell (loadTable loadBalancers routes) endpointKey portKey := by
  ext port
  constructor
  · exact cell_of_lookup_loadState
  · intro found
    refine (cell_healLoadStateCollisions _ _ _ _).mpr ⟨found, fun other portKey' isOther => ?_⟩
    exact le_of_eq (free.unique (agree _ _ _ found) (agree _ _ _ isOther)).1

/-- A sequence of allocations keeps a state duplicate-free. -/
theorem DuplicateFree.allocateSlots {pa pa' : PortAllocator} {slots : List Slot}
    {draws rest : List Draw}
    (before : DuplicateFree pa)
    (allocated : PortLookup.allocateSlots pa slots draws = some (pa', rest)) :
    DuplicateFree pa' := by
  have unique := before.uniqueBeyond.allocateSlots allocated
  refine ⟨unique.exact, before.portNumbers.allocateSlots (fun draw _ => isPortNumber_draw draw)
    allocated, fun found found' => ?_⟩
  obtain ⟨sameEndpoint, samePort | ⟨loaded, -⟩⟩ := unique.unique found found'
  · exact ⟨sameEndpoint, samePort⟩
  · simp at loaded

end KubeLB.PortLookup
