import KubeLB.LoadBalancers.ServicePorts

/-!
Contract: the node ports that `CreateServicePorts` preserves.

Owns: when the returned ports have distinct node ports, and when an unchanged port keeps
its own.

Does not own: the target ports.

Each desired port takes the node port of the first existing port that has its name, or its
number and protocol. Nothing stops two desired ports from taking the same one.
-/

set_option autoImplicit false

namespace KubeLB.LoadBalancers

open KubeLB.Library KubeLB.Core KubeLB.V1Alpha1 KubeLB.Naming KubeLB.PortLookup

/-! ## The two properties -/

/-- Non-zero node ports are distinct within a protocol. -/
def NodePortsDistinct (ports : List Core.ServicePort) : Prop :=
  ports.Pairwise (fun port other => port.protocol = other.protocol → port.nodePort ≠ 0 →
    port.nodePort ≠ other.nodePort)

instance (ports : List Core.ServicePort) : Decidable (NodePortsDistinct ports) :=
  inferInstanceAs (Decidable (List.Pairwise _ ports))

/-- A port whose name, number and protocol an existing port has keeps its node port. -/
def KeepsUnchanged (existing : Service) (ports : List Core.ServicePort) : Prop :=
  ∀ port ∈ ports, ∀ old ∈ existing.spec.ports,
    old.name = port.name → old.port = port.port → old.protocol = port.protocol →
      port.nodePort = old.nodePort

/-! ## Competing ports -/

/-- The index of the existing port whose node port a desired port takes. -/
def existingIndex (existing : Service) (lbPort : LoadBalancerPort) : Option Nat :=
  existing.spec.ports.findIdx? (fun port =>
    port.name = lbPort.name ∨ (port.port = lbPort.port ∧ port.protocol = lbPort.protocol))

/-- Two desired ports take the non-zero node port of one existing port, or equal ones of
existing ports of two protocols. -/
def Competes (existing : Service) (lbPort other : LoadBalancerPort) : Prop :=
  ∃ index index' found found',
    existingIndex existing lbPort = some index ∧ existing.spec.ports[index]? = some found ∧
      existingIndex existing other = some index' ∧ existing.spec.ports[index']? = some found' ∧
      found.nodePort ≠ 0 ∧
      (index = index' ∨ (found.protocol ≠ found'.protocol ∧ found.nodePort = found'.nodePort))

/-- An existing port is unchanged, and an earlier one with another node port matches too. -/
def Shadowed (existing : Service) (lbPort : LoadBalancerPort) : Prop :=
  ∃ old ∈ existing.spec.ports, old.name = lbPort.name ∧ old.port = lbPort.port ∧
    old.protocol = lbPort.protocol ∧
    ∃ first, existingPort existing lbPort = some first ∧ first.nodePort ≠ old.nodePort

def takenNodePort (existing : Service) (lbPort : LoadBalancerPort) : Int32 :=
  match existingPort existing lbPort with
  | some found => found.nodePort
  | none => 0

theorem existingPort_eq_bind (existing : Service) (lbPort : LoadBalancerPort) :
    existingPort existing lbPort =
      (existingIndex existing lbPort).bind (fun index => existing.spec.ports[index]?) :=
  List.find?_eq_bind_findIdx?_getElem?

theorem NodePortsDistinct.symm_rel {port other : Core.ServicePort}
    (apart : port.protocol = other.protocol → port.nodePort ≠ 0 → port.nodePort ≠ other.nodePort) :
    other.protocol = port.protocol → other.nodePort ≠ 0 → other.nodePort ≠ port.nodePort :=
  fun sameProtocol notZero same => apart sameProtocol.symm (same ▸ notZero) same.symm

theorem NodePortsDistinct.of_ne {ports : List Core.ServicePort} (distinct : NodePortsDistinct ports)
    {index index' : Nat} {port port' : Core.ServicePort} (different : index ≠ index')
    (isPort : ports[index]? = some port) (isPort' : ports[index']? = some port')
    (sameProtocol : port.protocol = port'.protocol) (notZero : port.nodePort ≠ 0) :
    port.nodePort ≠ port'.nodePort := by
  obtain ⟨bound, rfl⟩ := List.getElem?_eq_some_iff.mp isPort
  obtain ⟨bound', rfl⟩ := List.getElem?_eq_some_iff.mp isPort'
  rcases Nat.lt_or_gt_of_ne different with before | behind
  · exact List.pairwise_iff_getElem.mp distinct _ _ bound bound' before sameProtocol notZero
  · exact symm_rel (List.pairwise_iff_getElem.mp distinct _ _ bound' bound behind) sameProtocol
      notZero

/-- With distinct node ports on the existing Service, taking the same one is competing. -/
theorem competes_iff {existing : Service} (distinct : NodePortsDistinct existing.spec.ports)
    (lbPort other : LoadBalancerPort) :
    Competes existing lbPort other ↔
      takenNodePort existing lbPort ≠ 0 ∧
        takenNodePort existing lbPort = takenNodePort existing other := by
  have taken {port : LoadBalancerPort} {index : Nat} {found : Core.ServicePort}
      (isIndex : existingIndex existing port = some index)
      (isFound : existing.spec.ports[index]? = some found) :
      takenNodePort existing port = found.nodePort := by
    rw [takenNodePort, existingPort_eq_bind, isIndex, Option.bind_some, isFound]
  constructor
  · rintro ⟨index, index', found, found', isIndex, isFound, isIndex', isFound', notZero, same⟩
    rw [taken isIndex isFound, taken isIndex' isFound']
    refine ⟨notZero, ?_⟩
    rcases same with rfl | ⟨-, equal⟩
    · rw [Option.some.inj (isFound.symm.trans isFound')]
    · exact equal
  · rintro ⟨notZero, equal⟩
    have source {port : LoadBalancerPort} (notZero : takenNodePort existing port ≠ 0) :
        ∃ index found, existingIndex existing port = some index ∧
          existing.spec.ports[index]? = some found := by
      unfold takenNodePort at notZero
      split at notZero
      · rename_i found isFound
        rw [existingPort_eq_bind, Option.bind_eq_some_iff] at isFound
        obtain ⟨index, isIndex, isFound⟩ := isFound
        exact ⟨index, found, isIndex, isFound⟩
      · exact absurd rfl notZero
    obtain ⟨index, found, isIndex, isFound⟩ := source notZero
    obtain ⟨index', found', isIndex', isFound'⟩ := source (equal ▸ notZero)
    rw [taken isIndex isFound] at notZero equal
    rw [taken isIndex' isFound'] at equal
    refine ⟨index, index', found, found', isIndex, isFound, isIndex', isFound', notZero, ?_⟩
    by_contra apart
    rw [not_or, not_and, not_imp_not] at apart
    exact distinct.of_ne apart.1 isFound isFound' (apart.2 equal) notZero equal

theorem shadowed_iff (existing : Service) (lbPort : LoadBalancerPort) :
    Shadowed existing lbPort ↔
      ∃ old ∈ existing.spec.ports, old.name = lbPort.name ∧ old.port = lbPort.port ∧
        old.protocol = lbPort.protocol ∧ takenNodePort existing lbPort ≠ old.nodePort := by
  unfold Shadowed
  refine exists_congr fun old => and_congr_right fun isOld => and_congr_right fun sameName =>
    and_congr_right fun _ => and_congr_right fun _ => ?_
  have matched : (existingPort existing lbPort).isSome := by
    rw [existingPort, List.find?_isSome]
    exact ⟨old, isOld, by simp [sameName]⟩
  obtain ⟨first, isFirst⟩ := Option.isSome_iff_exists.mp matched
  simp [takenNodePort, isFirst]

/-! ## The created ports -/

/-- Name, protocol, number and node port of the created ports, before they are sorted. -/
theorem createServicePorts_shape {sort : SliceSort String} {lb : LoadBalancer}
    {existing : Service} {pa : PortAllocator} {created : List Core.ServicePort}
    (listsEndpoints : lb.spec.endpoints ≠ [])
    (isCreated : createServicePorts sort lb existing pa = some created) :
    ∃ unsorted : List Core.ServicePort, created.Perm unsorted ∧
      unsorted.map (fun port => (port.name, port.protocol, port.port, port.nodePort)) =
        lb.spec.ports.map (fun lbPort =>
          (lbPort.name, lbPort.protocol, lbPort.port, takenNodePort existing lbPort)) := by
  obtain ⟨endpoint, others, isEndpoints⟩ := List.exists_cons_of_ne_nil listsEndpoints
  have enough : lb.spec.ports.length ≤ endpoint.ports.length := by
    by_contra missing
    rw [createServicePorts_of_missing sort lb existing pa isEndpoints (not_le.mp missing)]
      at isCreated
    cases isCreated
  obtain ⟨unsorted, isRun, paired⟩ :=
    createServicePorts_of_enough lb existing pa isEndpoints enough
  rw [isRun, Option.some.injEq] at isCreated
  refine ⟨unsorted, isCreated ▸ sort.perm _ _, ?_⟩
  clear isCreated isRun
  have spelled : lb.spec.ports = lb.spec.ports.zipIdx.map Prod.fst := by
    rw [List.zipIdx_map_fst]
  rw [spelled, List.map_map]
  generalize lb.spec.ports.zipIdx = indexed at paired
  induction paired with
  | nil => rfl
  | cons head tail ih =>
      obtain ⟨byIndex, -, rfl⟩ := head
      rw [List.map_cons, List.map_cons, ih]
      rfl

/-- Created against themselves, the ports stay as they are exactly when each spec port finds
its own node port again. -/
theorem createServicePorts_again_iff {sort : SliceSort String} {lb : LoadBalancer}
    {existing again : Service} {pa : PortAllocator} {created : List Core.ServicePort}
    (isCreated : createServicePorts sort lb existing pa = some created) :
    createServicePorts sort lb again pa = some created ↔
      (lb.spec.endpoints ≠ [] → ∀ lbPort ∈ lb.spec.ports,
        takenNodePort again lbPort = takenNodePort existing lbPort) := by
  cases isEndpoints : lb.spec.endpoints with
  | nil =>
      simp only [createServicePorts, isEndpoints] at isCreated ⊢
      simp [isCreated]
  | cons endpoint others =>
      have enough : lb.spec.ports.length ≤ endpoint.ports.length := by
        by_contra missing
        rw [createServicePorts_of_missing sort lb existing pa isEndpoints (not_le.mp missing)]
          at isCreated
        cases isCreated
      rw [createServicePorts_eq_map sort lb existing pa isEndpoints enough,
        Option.some.injEq] at isCreated
      have specPorts := map_fst_resolvedPorts enough
      rw [createServicePorts_eq_map sort lb again pa isEndpoints enough, Option.some.injEq,
        ← isCreated]
      constructor
      · intro same _ lbPort isPort
        rw [← specPorts] at isPort
        obtain ⟨entry, isEntry, rfl⟩ := List.mem_map.mp isPort
        have perm := (sort.perm Core.ServicePort.name _).symm.trans
          ((List.Perm.of_eq same).trans (sort.perm _ _))
        -- the new port of the entry is the old port of an entry with the same spec port
        obtain ⟨other, isOther, samePort⟩ := List.mem_map.mp
          (perm.mem_iff.mp (List.mem_map_of_mem isEntry))
        have sameSpec : other.1 = entry.1 := by
          simp only [resolvedServicePort, Core.ServicePort.mk.injEq] at samePort
          obtain ⟨sameName, sameProtocol, sameNumber, -⟩ := samePort
          rcases other with ⟨⟨⟩, _⟩
          rcases entry with ⟨⟨⟩, _⟩
          simp_all
        have sameNodePort : takenNodePort existing other.1 = takenNodePort again entry.1 :=
          congrArg Core.ServicePort.nodePort samePort
        rw [← sameNodePort, sameSpec]
      · intro sameNodePorts
        congr 1
        apply List.map_congr_left
        intro entry isEntry
        have isPort : entry.1 ∈ lb.spec.ports := by
          rw [← specPorts]
          exact List.mem_map_of_mem isEntry
        have sameNodePort := sameNodePorts (List.cons_ne_nil _ _) entry.1 isPort
        have spelled (service : Service) :
            resolvedServicePort pa lb.metadata.ns lb.metadata.name service entry =
              { resolvedServicePort pa lb.metadata.ns lb.metadata.name existing entry with
                nodePort := takenNodePort service entry.1 } := rfl
        rw [spelled again, sameNodePort, ← spelled existing]

/-- With distinct names and distinct pairs of number and protocol, each spec port finds its own
node port among the created ports. -/
theorem takenNodePort_created {sort : SliceSort String} {lb : LoadBalancer}
    {existing stored : Service} {pa : PortAllocator} {created : List Core.ServicePort}
    (names : (lb.spec.ports.map (fun lbPort => lbPort.name)).Nodup)
    (pairs : (lb.spec.ports.map (fun lbPort => (lbPort.port, lbPort.protocol))).Nodup)
    (listsEndpoints : lb.spec.endpoints ≠ [])
    (isCreated : createServicePorts sort lb existing pa = some created)
    (isStored : stored.spec.ports = created) {lbPort : LoadBalancerPort}
    (isPort : lbPort ∈ lb.spec.ports) :
    takenNodePort stored lbPort = takenNodePort existing lbPort := by
  obtain ⟨unsorted, permuted, shape⟩ := createServicePorts_shape listsEndpoints isCreated
  -- the own port is there
  have hasOwn : (existingPort stored lbPort).isSome := by
    have inShape := List.mem_map_of_mem (f := fun lbPort : LoadBalancerPort =>
      (lbPort.name, lbPort.protocol, lbPort.port, takenNodePort existing lbPort)) isPort
    rw [← shape] at inShape
    obtain ⟨own, isOwn, sameFields⟩ := List.mem_map.mp inShape
    rw [existingPort, List.find?_isSome, isStored]
    exact ⟨own, permuted.mem_iff.mpr isOwn, by simp_all⟩
  obtain ⟨found, isFound⟩ := Option.isSome_iff_exists.mp hasOwn
  have isMatch := List.find?_some isFound
  -- and no other spec port has made the port that is found
  have inCreated : found ∈ unsorted :=
    permuted.mem_iff.mp (isStored ▸ List.mem_of_find?_eq_some isFound)
  have inShape := List.mem_map_of_mem (f := fun port : Core.ServicePort =>
    (port.name, port.protocol, port.port, port.nodePort)) inCreated
  rw [shape] at inShape
  obtain ⟨other, isOther, sameFields⟩ := List.mem_map.mp inShape
  simp only [Prod.mk.injEq] at sameFields
  obtain ⟨sameName, sameProtocol, sameNumber, sameNodePort⟩ := sameFields
  have isOwn : other = lbPort := by
    simp only [decide_eq_true_eq] at isMatch
    rcases isMatch with byName | ⟨byNumber, byProtocol⟩
    · exact List.inj_on_of_nodup_map names isOther isPort (sameName.trans byName)
    · exact List.inj_on_of_nodup_map pairs isOther isPort
        (Prod.ext (sameNumber.trans byNumber) (sameProtocol.trans byProtocol))
  rw [takenNodePort, isFound, ← isOwn, sameNodePort]

theorem nodePortsDistinct_iff {created unsorted : List Core.ServicePort}
    {lbPorts : List LoadBalancerPort} {existing : Service} (permuted : created.Perm unsorted)
    (shape : unsorted.map (fun port => (port.name, port.protocol, port.port, port.nodePort)) =
      lbPorts.map (fun lbPort =>
        (lbPort.name, lbPort.protocol, lbPort.port, takenNodePort existing lbPort))) :
    NodePortsDistinct created ↔ lbPorts.Pairwise (fun lbPort other =>
      lbPort.protocol = other.protocol → takenNodePort existing lbPort ≠ 0 →
        takenNodePort existing lbPort ≠ takenNodePort existing other) := by
  let Apart (left right : String × Protocol × Int32 × Int32) : Prop :=
    left.2.1 = right.2.1 → left.2.2.2 ≠ 0 → left.2.2.2 ≠ right.2.2.2
  have ofUnsorted : NodePortsDistinct unsorted ↔
      (unsorted.map (fun port => (port.name, port.protocol, port.port, port.nodePort))).Pairwise
        Apart := by
    rw [List.pairwise_map]
    rfl
  rw [NodePortsDistinct, permuted.pairwise_iff NodePortsDistinct.symm_rel]
  exact ofUnsorted.trans (shape ▸ List.pairwise_map)

theorem keepsUnchanged_iff {created unsorted : List Core.ServicePort}
    {lbPorts : List LoadBalancerPort} {existing : Service} (permuted : created.Perm unsorted)
    (shape : unsorted.map (fun port => (port.name, port.protocol, port.port, port.nodePort)) =
      lbPorts.map (fun lbPort =>
        (lbPort.name, lbPort.protocol, lbPort.port, takenNodePort existing lbPort))) :
    KeepsUnchanged existing created ↔ ∀ lbPort ∈ lbPorts, ¬ Shadowed existing lbPort := by
  let Keeps (fields : String × Protocol × Int32 × Int32) : Prop :=
    ∀ old ∈ existing.spec.ports, old.name = fields.1 → old.port = fields.2.2.1 →
      old.protocol = fields.2.1 → fields.2.2.2 = old.nodePort
  have ofCreated : KeepsUnchanged existing created ↔ ∀ fields ∈ unsorted.map (fun port =>
      (port.name, port.protocol, port.port, port.nodePort)), Keeps fields := by
    rw [List.forall_mem_map, KeepsUnchanged]
    exact forall_congr' fun port => imp_congr_left permuted.mem_iff
  rw [ofCreated, shape, List.forall_mem_map]
  refine forall₂_congr fun lbPort _ => ?_
  rw [shadowed_iff]
  push Not
  rfl

/-- The created ports have distinct node ports and keep those of unchanged ports exactly
when no two spec ports of a protocol compete for one and none is shadowed. -/
theorem nodePorts_preserved_iff (sort : SliceSort String) (lb : LoadBalancer) (existing : Service)
    (pa : PortAllocator) (created : List Core.ServicePort)
    (distinct : NodePortsDistinct existing.spec.ports)
    (isCreated : createServicePorts sort lb existing pa = some created) :
    (NodePortsDistinct created ∧ KeepsUnchanged existing created) ↔
      lb.spec.endpoints = [] ∨
        (lb.spec.ports.Pairwise (fun lbPort other =>
            lbPort.protocol = other.protocol → ¬ Competes existing lbPort other) ∧
          ∀ lbPort ∈ lb.spec.ports, ¬ Shadowed existing lbPort) := by
  by_cases listsEndpoints : lb.spec.endpoints = []
  · have nothing : created = [] := by
      rw [createServicePorts, listsEndpoints] at isCreated
      exact (Option.some.inj isCreated).symm
    subst nothing
    exact iff_of_true ⟨List.Pairwise.nil, fun port isPort => absurd isPort List.not_mem_nil⟩
      (Or.inl listsEndpoints)
  · obtain ⟨unsorted, permuted, shape⟩ := createServicePorts_shape listsEndpoints isCreated
    rw [nodePortsDistinct_iff permuted shape, keepsUnchanged_iff permuted shape,
      or_iff_right listsEndpoints]
    simp only [competes_iff distinct, not_and, ne_eq]

/-- Port 80 was renamed and a new port took its old name. -/
def renamedPorts : LoadBalancer where
  metadata := { name := "lb", ns := "tenant-a" }
  spec :=
    { endpoints :=
        [{ addresses := [{ ip := "10.0.0.1" }]
           ports := [{ name := "web", port := 31000 }, { name := "web-old", port := 31001 }] }]
      ports := [{ name := "web", port := 81 }, { name := "web-old", port := 80 }] }

def renamedService : Service where
  metadata := { name := "envoy-lb", ns := "tenant-a" }
  spec := { ports := [{ name := "web", port := 80, nodePort := 30001 }] }

/-- Both ports get the node port of the one that existed. -/
theorem renamed_ports_share_node_port :
    (renamedPorts.spec.ports.map (·.name)).Nodup ∧
      (renamedPorts.spec.ports.map (fun port => (port.port, port.protocol))).Nodup ∧
      NodePortsDistinct renamedService.spec.ports ∧
      ∃ created,
        createServicePorts (SliceSort.stable String) renamedPorts renamedService
          newPortAllocator = some created ∧
        created.map (fun port => (port.name, port.nodePort)) =
          [("web", 30001), ("web-old", 30001)] ∧
        ¬ NodePortsDistinct created := by
  refine ⟨by decide, by decide, by decide, ?_⟩
  have evaluated : (createServicePorts (SliceSort.stable String) renamedPorts renamedService
      newPortAllocator).any (fun created =>
        created.map (fun port => (port.name, port.nodePort)) =
          [("web", 30001), ("web-old", 30001)] ∧ ¬ NodePortsDistinct created) = true := by
    decide +kernel
  obtain ⟨created, isCreated, shared⟩ := (Option.any_eq_true _ _).mp evaluated
  exact ⟨created, isCreated, of_decide_eq_true shared⟩

/-- One port keeps its name, the other its number: each keeps its own node port. -/
def movedPorts : LoadBalancer where
  metadata := { name := "lb", ns := "tenant-a" }
  spec :=
    { endpoints :=
        [{ addresses := [{ ip := "10.0.0.1" }]
           ports := [{ name := "web", port := 31000 }, { name := "tls", port := 31001 }] }]
      ports := [{ name := "web", port := 81 }, { name := "tls", port := 443 }] }

def movedService : Service where
  metadata := { name := "envoy-lb", ns := "tenant-a" }
  spec :=
    { ports :=
        [{ name := "web", port := 80, nodePort := 30001 },
         { name := "secure", port := 443, nodePort := 30002 }] }

theorem moved_ports_keep_node_ports :
    ∃ created,
      createServicePorts (SliceSort.stable String) movedPorts movedService newPortAllocator =
        some created ∧
      (NodePortsDistinct created ∧ KeepsUnchanged movedService created ↔
        movedPorts.spec.endpoints = [] ∨
          (movedPorts.spec.ports.Pairwise (fun lbPort other =>
              lbPort.protocol = other.protocol → ¬ Competes movedService lbPort other) ∧
            ∀ lbPort ∈ movedPorts.spec.ports, ¬ Shadowed movedService lbPort)) ∧
      NodePortsDistinct created := by
  have evaluated : (createServicePorts (SliceSort.stable String) movedPorts movedService
      newPortAllocator).any (fun created => NodePortsDistinct created) = true := by
    decide +kernel
  obtain ⟨created, isCreated, distinct⟩ := (Option.any_eq_true _ _).mp evaluated
  exact ⟨created, isCreated,
    nodePorts_preserved_iff (SliceSort.stable String) movedPorts movedService newPortAllocator
      created (by decide) isCreated,
    of_decide_eq_true distinct⟩

end KubeLB.LoadBalancers
