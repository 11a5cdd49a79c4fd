import KubeLB.PortLookup.Allocator

/-!
Contract: what each allocator operation does to the table, entry by entry.

Owns: the reads after a write, the set of assigned ports, and one effect lemma
for each of the allocation and release operations. Later proofs cite these
lemmas and do not unfold the operations.

Does not own: the reload, whose healing has its own module.
-/

set_option autoImplicit false

namespace KubeLB.PortLookup

open KubeLB.Library

/-! ## Tables -/

@[simp] theorem cell_empty (endpointKey portKey : String) :
    cell ∅ endpointKey portKey = none := by
  simp [cell]

theorem cell_insert (table : LookupTable) (written endpointKey portKey : String)
    (ports : GoMap String Int) :
    cell (table.insert written ports) endpointKey portKey =
      if endpointKey = written then ports.lookup portKey
      else cell table endpointKey portKey := by
  by_cases same : endpointKey = written
  · subst same
    simp [cell]
  · simp [cell, same, Finmap.lookup_insert_of_ne _ same]

theorem lookup_endpointPorts (table : LookupTable) (endpointKey portKey : String) :
    (endpointPorts table endpointKey).lookup portKey = cell table endpointKey portKey := by
  unfold endpointPorts cell
  cases table.lookup endpointKey <;> simp

theorem cell_setPort (table : LookupTable) (written writtenPort endpointKey portKey : String)
    (port : Int) :
    cell (setPort table written writtenPort port) endpointKey portKey =
      if endpointKey = written ∧ portKey = writtenPort then some port
      else cell table endpointKey portKey := by
  unfold setPort
  rw [cell_insert]
  by_cases here : endpointKey = written
  · subst here
    by_cases samePort : portKey = writtenPort
    · subst samePort
      simp
    · simp [samePort, Finmap.lookup_insert_of_ne _ samePort, lookup_endpointPorts]
  · simp [here]

theorem mem_assignedPorts (table : LookupTable) (port : Int) :
    port ∈ assignedPorts table ↔
      ∃ endpointKey portKey, cell table endpointKey portKey = some port := by
  simp only [assignedPorts, Finset.mem_biUnion, GoMap.mem_valueSet, cell,
    Option.bind_eq_some_iff]
  constructor
  · rintro ⟨ports, ⟨endpointKey, held⟩, portKey, found⟩
    exact ⟨endpointKey, portKey, ports, held, found⟩
  · rintro ⟨endpointKey, portKey, ports, held, found⟩
    exact ⟨ports, ⟨endpointKey, held⟩, portKey, found⟩

@[simp] theorem recomputeAvailablePorts_lookup (pa : PortAllocator)
    (endpointKey portKey : String) :
    pa.recomputeAvailablePorts.lookup endpointKey portKey =
      cell pa.portLookup endpointKey portKey := rfl

/-- The reverse set is the set of assigned ports. -/
def ReverseExact (pa : PortAllocator) : Prop :=
  pa.portLookupReverse = assignedPorts pa.portLookup

theorem recomputeAvailablePorts_exact (pa : PortAllocator) :
    ReverseExact pa.recomputeAvailablePorts := rfl

theorem ReverseExact.mem_iff {pa : PortAllocator} (exact : ReverseExact pa) (port : Int) :
    port ∈ pa.portLookupReverse ↔
      ∃ endpointKey portKey, pa.lookup endpointKey portKey = some port := by
  rw [exact, mem_assignedPorts]
  rfl

/-! ## Allocation -/

theorem allocatePort_fresh {used : Finset Int} {draws rest : List Draw} {port : Int}
    (allocated : allocatePort used draws = some (port, rest)) :
    port ∉ used ∧ (∃ draw ∈ draws, port = draw.port) ∧ rest ⊆ draws := by
  induction draws with
  | nil => cases allocated
  | cons draw draws ih =>
      simp only [allocatePort] at allocated
      split at allocated
      · obtain ⟨free, ⟨source, member, isPort⟩, restSubset⟩ := ih allocated
        exact ⟨free, ⟨source, List.mem_cons_of_mem _ member, isPort⟩,
          List.subset_cons_of_subset _ restSubset⟩
      · rename_i free
        cases allocated
        exact ⟨free, ⟨draw, List.mem_cons_self, rfl⟩, List.subset_cons_self draw _⟩

/-- The effect of the allocation loop over the listed keys. -/
structure AllocatesMissing (portKeys : List String) (draws : List Draw)
    (before after : AllocationLoop) : Prop where
  kept : ∀ {portKey port}, before.ports.lookup portKey = some port →
    after.ports.lookup portKey = some port
  filled : ∀ {portKey}, portKey ∈ portKeys → ∃ port, after.ports.lookup portKey = some port
  fresh : ∀ {portKey port}, before.ports.lookup portKey = none →
    after.ports.lookup portKey = some port →
    portKey ∈ portKeys ∧ port ∉ before.used ∧ ∃ draw ∈ draws, port = draw.port
  distinct : ∀ {portKey portKey' port}, before.ports.lookup portKey = none →
    before.ports.lookup portKey' = none →
    after.ports.lookup portKey = some port → after.ports.lookup portKey' = some port →
    portKey = portKey'

private theorem allocatesMissing_step
    {portKey : String} {portKeys : List String} {draws rest : List Draw}
    {before after : AllocationLoop} {port : Int}
    (missing : before.ports.lookup portKey = none)
    (free : port ∉ before.used)
    (drawn : ∃ draw ∈ draws, port = draw.port)
    (restSubset : rest ⊆ draws)
    (effect : AllocatesMissing portKeys rest
      { ports := before.ports.insert portKey port
        used := insert port before.used
        updated := true } after) :
    AllocatesMissing (portKey :: portKeys) draws before after := by
  have headStored : after.ports.lookup portKey = some port :=
    effect.kept (Finmap.lookup_insert _)
  have stillMissing {other : String} (different : other ≠ portKey)
      (absent : before.ports.lookup other = none) :
      (before.ports.insert portKey port).lookup other = none := by
    rw [Finmap.lookup_insert_of_ne _ different, absent]
  have laterFresh {other : String} {value : Int} (different : other ≠ portKey)
      (absent : before.ports.lookup other = none)
      (found : after.ports.lookup other = some value) :
      other ∈ portKeys ∧ value ∉ insert port before.used ∧ ∃ draw ∈ rest, value = draw.port :=
    effect.fresh (stillMissing different absent) found
  refine ⟨?_, ?_, ?_, ?_⟩
  · intro other value found
    apply effect.kept
    have different : other ≠ portKey := by
      rintro rfl
      rw [missing] at found
      cases found
    rw [Finmap.lookup_insert_of_ne _ different, found]
  · intro other member
    rcases List.mem_cons.mp member with rfl | later
    · exact ⟨port, headStored⟩
    · exact effect.filled later
  · intro other value absent found
    by_cases isHead : other = portKey
    · subst isHead
      rw [headStored] at found
      cases found
      exact ⟨List.mem_cons_self, free, drawn⟩
    · obtain ⟨member, unused, draw, drawMember, isPort⟩ := laterFresh isHead absent found
      exact ⟨List.mem_cons_of_mem _ member,
        fun used => unused (Finset.mem_insert_of_mem used), draw, restSubset drawMember, isPort⟩
  · -- the loop marked the head's port as used, so no later key can get it
    intro left right value leftAbsent rightAbsent leftFound rightFound
    by_cases leftHead : left = portKey <;> by_cases rightHead : right = portKey
    · rw [leftHead, rightHead]
    · subst leftHead
      rw [headStored] at leftFound
      cases leftFound
      exact absurd (Finset.mem_insert_self _ _) (laterFresh rightHead rightAbsent rightFound).2.1
    · subst rightHead
      rw [headStored] at rightFound
      cases rightFound
      exact absurd (Finset.mem_insert_self _ _) (laterFresh leftHead leftAbsent leftFound).2.1
    · exact effect.distinct (stillMissing leftHead leftAbsent)
        (stillMissing rightHead rightAbsent) leftFound rightFound

theorem allocateMissing_effect
    {portKeys : List String} {draws rest : List Draw} {before after : AllocationLoop}
    (allocated : allocateMissing portKeys before draws = some (after, rest)) :
    AllocatesMissing portKeys draws before after := by
  induction portKeys generalizing before draws with
  | nil =>
      cases allocated
      refine ⟨fun found => found, fun member => (List.not_mem_nil member).elim, ?_, ?_⟩
      · intro portKey port absent found
        rw [absent] at found
        cases found
      · intro portKey portKey' port absent _ found _
        rw [absent] at found
        cases found
  | cons portKey portKeys ih =>
      simp only [allocateMissing] at allocated
      split at allocated
      · rename_i held isHeld
        have effect := ih allocated
        refine ⟨effect.kept, ?_, ?_, effect.distinct⟩
        · intro other member
          rcases List.mem_cons.mp member with rfl | later
          · exact ⟨held, effect.kept isHeld⟩
          · exact effect.filled later
        · intro other port absent found
          obtain ⟨member, rest⟩ := effect.fresh absent found
          exact ⟨List.mem_cons_of_mem _ member, rest⟩
      · rename_i missing
        split at allocated
        · cases allocated
        · rename_i port left isPort
          obtain ⟨free, drawn, restSubset⟩ := allocatePort_fresh isPort
          exact allocatesMissing_step missing free drawn restSubset
            (ih allocated)

/-- The effect of `AllocatePorts`. -/
structure AllocatesPorts (pa : PortAllocator) (endpointKey : String)
    (portKeys : List String) (draws : List Draw) (pa' : PortAllocator) : Prop where
  elsewhere : ∀ {other}, other ≠ endpointKey →
    pa'.portLookup.lookup other = pa.portLookup.lookup other
  present : ∃ ports, pa'.portLookup.lookup endpointKey = some ports
  dropped : ∀ {portKey}, portKey ∉ portKeys → pa'.lookup endpointKey portKey = none
  kept : ∀ {portKey port}, portKey ∈ portKeys →
    pa.lookup endpointKey portKey = some port → pa'.lookup endpointKey portKey = some port
  filled : ∀ {portKey}, portKey ∈ portKeys →
    ∃ port, pa'.lookup endpointKey portKey = some port
  fresh : ∀ {portKey port}, pa.lookup endpointKey portKey = none →
    pa'.lookup endpointKey portKey = some port →
    port ∉ pa.portLookupReverse ∧ ∃ draw ∈ draws, port = draw.port
  distinct : ∀ {portKey portKey' port}, pa.lookup endpointKey portKey = none →
    pa.lookup endpointKey portKey' = none →
    pa'.lookup endpointKey portKey = some port → pa'.lookup endpointKey portKey' = some port →
    portKey = portKey'
  exact : ReverseExact pa'

theorem allocatePorts_effect
    {pa pa' : PortAllocator} {endpointKey : String} {portKeys : List String}
    {draws rest : List Draw} {updated : Bool}
    (allocated : pa.allocatePorts endpointKey portKeys draws = some (pa', updated, rest)) :
    AllocatesPorts pa endpointKey portKeys draws pa' := by
  unfold PortAllocator.allocatePorts at allocated
  split at allocated
  · cases allocated
  · rename_i loop left isLoop
    cases allocated
    have effect := allocateMissing_effect isLoop
    have before (portKey : String) :
        (endpointPorts pa.portLookup endpointKey).lookup portKey =
          pa.lookup endpointKey portKey :=
      lookup_endpointPorts _ _ _
    have after (portKey : String) :
        (PortAllocator.recomputeAvailablePorts
          { pa with
            portLookup := pa.portLookup.insert endpointKey
              (GoMap.retain (fun portKey => portKeys.contains portKey) loop.ports) }).lookup
            endpointKey portKey =
          if portKey ∈ portKeys then loop.ports.lookup portKey else none := by
      rw [recomputeAvailablePorts_lookup, cell_insert, if_pos rfl, GoMap.lookup_retain]
      simp only [List.contains_iff_mem]
    have listed {portKey : String} {port : Int}
        (found : (if portKey ∈ portKeys then loop.ports.lookup portKey else none) = some port) :
        loop.ports.lookup portKey = some port := by
      split at found
      · exact found
      · cases found
    refine ⟨?_, ⟨_, Finmap.lookup_insert _⟩, ?_, ?_, ?_, ?_, ?_,
      recomputeAvailablePorts_exact _⟩
    · intro other different
      exact Finmap.lookup_insert_of_ne _ different
    · intro portKey absent
      rw [after, if_neg absent]
    · intro portKey port member found
      rw [after, if_pos member]
      exact effect.kept ((before portKey).trans found)
    · intro portKey member
      rw [after, if_pos member]
      exact effect.filled member
    · intro portKey port missing found
      rw [after] at found
      exact (effect.fresh ((before portKey).trans missing) (listed found)).2
    · intro portKey portKey' port missing missing' found found'
      rw [after] at found found'
      exact effect.distinct ((before portKey).trans missing) ((before portKey').trans missing')
        (listed found) (listed found')

theorem AllocatesPorts.lookup_elsewhere
    {pa pa' : PortAllocator} {endpointKey : String} {portKeys : List String}
    {draws : List Draw}
    (effect : AllocatesPorts pa endpointKey portKeys draws pa')
    {other : String} (different : other ≠ endpointKey) (portKey : String) :
    pa'.lookup other portKey = pa.lookup other portKey := by
  simp only [PortAllocator.lookup, cell, effect.elsewhere different]

theorem AllocatesPorts.origin
    {pa pa' : PortAllocator} {endpointKey : String} {portKeys : List String}
    {draws : List Draw}
    (effect : AllocatesPorts pa endpointKey portKeys draws pa')
    {other portKey : String} {port : Int}
    (found : pa'.lookup other portKey = some port) :
    pa.lookup other portKey = some port ∨
      (other = endpointKey ∧ portKey ∈ portKeys ∧ pa.lookup endpointKey portKey = none ∧
        port ∉ pa.portLookupReverse ∧ ∃ draw ∈ draws, port = draw.port) := by
  by_cases here : other = endpointKey
  · subst here
    by_cases member : portKey ∈ portKeys
    · cases prior : pa.lookup other portKey with
      | some held =>
          left
          rw [← effect.kept member prior, found]
      | none =>
          right
          exact ⟨rfl, member, rfl, effect.fresh prior found⟩
    · rw [effect.dropped member] at found
      cases found
  · left
    rw [← effect.lookup_elsewhere here, found]

/-! ## Release -/

theorem lookup_deallocatePorts (pa : PortAllocator) (endpointKey : String)
    (portKeys : List String) (other portKey : String) :
    (pa.deallocatePorts endpointKey portKeys).1.lookup other portKey =
      if other = endpointKey ∧ portKey ∈ portKeys then none else pa.lookup other portKey := by
  unfold PortAllocator.deallocatePorts
  split
  · rename_i absent
    rw [recomputeAvailablePorts_lookup]
    split
    · rename_i both
      rw [both.1]
      simp [cell, absent]
    · rfl
  · rename_i ports held
    rw [recomputeAvailablePorts_lookup, cell_insert]
    by_cases here : other = endpointKey
    · subst here
      have read : pa.lookup other portKey = ports.lookup portKey := by
        simp [PortAllocator.lookup, cell, held]
      simp only [true_and, if_true, GoMap.lookup_eraseAll, read]
    · simp only [here, false_and, if_false]
      rfl

theorem deallocatePorts_exact (pa : PortAllocator) (endpointKey : String)
    (portKeys : List String) :
    ReverseExact (pa.deallocatePorts endpointKey portKeys).1 := by
  unfold PortAllocator.deallocatePorts
  split <;> exact recomputeAvailablePorts_exact _

theorem portLookup_deallocateEndpoints (pa : PortAllocator) (endpointKeys : List String)
    (endpointKey : String) :
    (pa.deallocateEndpoints endpointKeys).portLookup.lookup endpointKey =
      if endpointKey ∈ endpointKeys then none else pa.portLookup.lookup endpointKey :=
  GoMap.lookup_eraseAll _ _ _

theorem lookup_deallocateEndpoints (pa : PortAllocator) (endpointKeys : List String)
    (endpointKey portKey : String) :
    (pa.deallocateEndpoints endpointKeys).lookup endpointKey portKey =
      if endpointKey ∈ endpointKeys then none else pa.lookup endpointKey portKey := by
  simp only [PortAllocator.lookup, cell, portLookup_deallocateEndpoints]
  split <;> rfl

theorem deallocateEndpoints_exact (pa : PortAllocator) (endpointKeys : List String) :
    ReverseExact (pa.deallocateEndpoints endpointKeys) :=
  recomputeAvailablePorts_exact _

end KubeLB.PortLookup
