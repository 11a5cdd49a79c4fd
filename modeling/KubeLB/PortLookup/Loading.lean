import KubeLB.PortLookup.Effects

/-!
Contract: what `LoadState` reads from the stored objects.

Owns: the ports that the statuses of LoadBalancers and Routes write into the
table, in order, and the fact that the last write of a cell decides its value.

Does not own: healing.
-/

set_option autoImplicit false

namespace KubeLB.PortLookup

open KubeLB.Library KubeLB.V1Alpha1 KubeLB.Naming

/-! ## Writes -/

/-- A cell of the table and the port written into it. -/
structure Write where
  endpointKey : String
  portKey : String
  port : Int
  deriving DecidableEq, Repr

def lastWrite (endpointKey portKey : String) : List Write → Option Int
  | [] => none
  | write :: writes =>
      match lastWrite endpointKey portKey writes with
      | some later => some later
      | none =>
          if write.endpointKey = endpointKey ∧ write.portKey = portKey then some write.port
          else none

theorem mem_of_lastWrite {endpointKey portKey : String} {writes : List Write} {port : Int}
    (last : lastWrite endpointKey portKey writes = some port) :
    { endpointKey := endpointKey, portKey := portKey, port := port } ∈ writes := by
  induction writes with
  | nil => cases last
  | cons write writes ih =>
      simp only [lastWrite] at last
      cases isLater : lastWrite endpointKey portKey writes with
      | some later =>
          rw [isLater] at last
          exact List.mem_cons_of_mem _ (ih (isLater.trans last))
      | none =>
          rw [isLater] at last
          simp only [Option.ite_none_right_eq_some, Option.some.injEq] at last
          obtain ⟨⟨rfl, rfl⟩, rfl⟩ := last
          exact List.mem_cons_self

theorem lastWrite_append (endpointKey portKey : String) (writes more : List Write) :
    lastWrite endpointKey portKey (writes ++ more) =
      (lastWrite endpointKey portKey more).or (lastWrite endpointKey portKey writes) := by
  induction writes with
  | nil => simp [lastWrite]
  | cons write writes ih =>
      simp only [List.cons_append, lastWrite, ih]
      cases lastWrite endpointKey portKey more <;> rfl

theorem lastWrite_map {β : Type} (toWrite : β → Write) (endpointKey portKey : String)
    (values : List β) :
    lastWrite endpointKey portKey (values.map toWrite) =
      (values.filter (fun value => (toWrite value).endpointKey = endpointKey ∧
        (toWrite value).portKey = portKey)).getLast?.map (fun value => (toWrite value).port) := by
  induction values with
  | nil => rfl
  | cons value values ih =>
      simp only [List.map_cons, lastWrite, ih]
      by_cases here : (toWrite value).endpointKey = endpointKey ∧ (toWrite value).portKey = portKey
      · simp only [here, and_self, decide_true, List.filter_cons_of_pos, List.getLast?_cons,
          Option.map_some, if_true]
        cases (values.filter (fun value => (toWrite value).endpointKey = endpointKey ∧
          (toWrite value).portKey = portKey)).getLast? <;> rfl
      · simp only [here, decide_false, Bool.false_eq_true, not_false_eq_true,
          List.filter_cons_of_neg, if_false]
        cases (values.filter (fun value => (toWrite value).endpointKey = endpointKey ∧
          (toWrite value).portKey = portKey)).getLast? <;> rfl

/-- The last write of a list in which not every value writes comes from the last value
that writes into the cell. -/
theorem lastWrite_flatMap_toList {β : Type} (keyOf portKeyOf : β → String)
    (read : β → Option Int) (endpointKey portKey : String) (values : List β) :
    lastWrite endpointKey portKey (values.flatMap (fun value => ((read value).map (fun port =>
        { endpointKey := keyOf value, portKey := portKeyOf value,
          port := port : Write })).toList)) =
      (values.filter (fun value => (keyOf value = endpointKey ∧ portKeyOf value = portKey) ∧
        (read value).isSome)).getLast?.bind read := by
  have written : values.flatMap (fun value => ((read value).map (fun port =>
        { endpointKey := keyOf value, portKey := portKeyOf value, port := port : Write })).toList) =
      (values.filter (fun value => (read value).isSome)).map (fun value =>
        { endpointKey := keyOf value, portKey := portKeyOf value
          port := (read value).getD 0 : Write }) := by
    induction values with
    | nil => rfl
    | cons value values ih =>
        rw [List.flatMap_cons, ih]
        cases isRead : read value <;> simp [isRead]
  rw [written, lastWrite_map, List.filter_filter]
  simp only [Bool.decide_and, Bool.decide_eq_true]
  cases isLast : (values.filter (fun value => decide (keyOf value = endpointKey) &&
      decide (portKeyOf value = portKey) && (read value).isSome)).getLast? with
  | none => rfl
  | some last =>
      have kept := (List.mem_filter.mp (List.mem_of_getLast? isLast)).2
      obtain ⟨port, isPort⟩ := Option.isSome_iff_exists.mp (Bool.and_eq_true_iff.mp kept).2
      simp [isPort]

/-! ## Cells of written tables -/

theorem cell_ensureEndpoint (table : LookupTable) (written endpointKey portKey : String) :
    cell (ensureEndpoint table written) endpointKey portKey =
      cell table endpointKey portKey := by
  unfold ensureEndpoint
  split
  · rfl
  · rename_i absent
    rw [cell_insert]
    split
    · rename_i same
      subst same
      simp [cell, absent]
    · rfl

/-- `after` has the cells of `before` with the writes on top. -/
def Applies (writes : List Write) (before after : LookupTable) : Prop :=
  ∀ endpointKey portKey, cell after endpointKey portKey =
    (lastWrite endpointKey portKey writes).or (cell before endpointKey portKey)

theorem applies_nil (table : LookupTable) : Applies [] table table :=
  fun _ _ => rfl

theorem Applies.trans {writes more : List Write} {first second third : LookupTable}
    (earlier : Applies writes first second) (later : Applies more second third) :
    Applies (writes ++ more) first third := by
  intro endpointKey portKey
  rw [later, earlier, lastWrite_append, Option.or_assoc]

theorem applies_ensureEndpoint (table : LookupTable) (written : String) :
    Applies [] table (ensureEndpoint table written) :=
  fun endpointKey portKey => cell_ensureEndpoint table written endpointKey portKey

theorem applies_setPort (table : LookupTable) (write : Write) :
    Applies [write] table (setPort table write.endpointKey write.portKey write.port) := by
  intro endpointKey portKey
  rw [cell_setPort]
  by_cases here : endpointKey = write.endpointKey ∧ portKey = write.portKey
  · obtain ⟨rfl, rfl⟩ := here
    simp [lastWrite]
  · have notHere : ¬(write.endpointKey = endpointKey ∧ write.portKey = portKey) :=
      fun both => here ⟨both.1.symm, both.2.symm⟩
    simp [lastWrite, here, notHere]

theorem Applies.foldl {α : Type} {update : LookupTable → α → LookupTable}
    {writesOf : α → List Write}
    (round : ∀ table value, Applies (writesOf value) table (update table value))
    (values : List α) (table : LookupTable) :
    Applies (values.flatMap writesOf) table (values.foldl update table) := by
  induction values generalizing table with
  | nil => exact applies_nil table
  | cons value values ih =>
      rw [List.flatMap_cons, List.foldl_cons]
      exact (round table value).trans (ih (update table value))

/-! ## Stored objects -/

def endpointWrites (statusPorts : List ServicePort) (endpointKey : String)
    (ports : List EndpointPort) : List Write :=
  ports.flatMap (fun port =>
    ((storedPort statusPorts port).map (fun stored =>
      { endpointKey := endpointKey
        portKey := envoyListenerPattern port.port port.protocol
        port := stored : Write })).toList)

def loadBalancerWrites (lb : LoadBalancer) : List Write :=
  lb.spec.endpoints.zipIdx.flatMap (fun indexed =>
    endpointWrites lb.status.service.ports
      (envoyEndpointPattern lb.metadata.ns lb.metadata.name indexed.2) indexed.1.ports)

/-- The status entry that `LoadState` reads for a service of a Route. -/
def loadedService (route : Route) (svc : Core.Service) : Option RouteServiceStatus :=
  route.status.resources.services.lookup
    (routeServiceMapKey svc.metadata.ns (getName svc.metadata))

def serviceWrites (route : Route) (svc : Core.Service) : List Write :=
  match loadedService route svc with
  | none => []
  | some status => status.ports.map (fun port =>
      { endpointKey := envoyEndpointRoutePattern route.metadata.ns svc.metadata.ns
          svc.metadata.name (getOriginalRouteName route)
        portKey := envoyListenerPattern port.port port.protocol
        port := port.targetPort.intValue })

def routeWrites (route : Route) : List Write :=
  match route.spec.source with
  | none => []
  | some source => source.services.flatMap (serviceWrites route)

theorem applies_loadEndpointPort (statusPorts : List ServicePort) (endpointKey : String)
    (table : LookupTable) (port : EndpointPort) :
    Applies (((storedPort statusPorts port).map (fun stored =>
        { endpointKey := endpointKey
          portKey := envoyListenerPattern port.port port.protocol
          port := stored : Write })).toList)
      table (loadEndpointPort statusPorts endpointKey table port) := by
  unfold loadEndpointPort
  cases storedPort statusPorts port with
  | none => exact applies_nil table
  | some stored => exact applies_setPort table _

theorem applies_loadLoadBalancer (table : LookupTable) (lb : LoadBalancer) :
    Applies (loadBalancerWrites lb) table (loadLoadBalancer table lb) := by
  apply Applies.foldl
  intro table indexed
  exact (applies_ensureEndpoint table _).trans
    (Applies.foldl (applies_loadEndpointPort _ _) indexed.1.ports _)

theorem applies_loadRoute (table : LookupTable) (route : Route) :
    Applies (routeWrites route) table (loadRoute table route) := by
  unfold routeWrites loadRoute
  cases route.spec.source with
  | none => exact applies_nil table
  | some source =>
      apply Applies.foldl
      intro table svc
      unfold serviceWrites loadedService
      dsimp only
      cases route.status.resources.services.lookup
          (routeServiceMapKey svc.metadata.ns (getName svc.metadata)) with
      | none => exact applies_ensureEndpoint table _
      | some status =>
          have written := Applies.foldl
            (fun table (port : Core.ServicePort) => applies_setPort table
              { endpointKey := envoyEndpointRoutePattern route.metadata.ns svc.metadata.ns
                  svc.metadata.name (getOriginalRouteName route)
                portKey := envoyListenerPattern port.port port.protocol
                port := port.targetPort.intValue })
            status.ports (ensureEndpoint table (envoyEndpointRoutePattern route.metadata.ns
              svc.metadata.ns svc.metadata.name (getOriginalRouteName route)))
          rw [← List.map_eq_flatMap] at written
          exact (applies_ensureEndpoint table _).trans written

/-- A cell of the loaded table holds its last write. -/
theorem cell_loadTable (loadBalancers : List LoadBalancer) (routes : List Route)
    (endpointKey portKey : String) :
    cell (loadTable loadBalancers routes) endpointKey portKey =
      lastWrite endpointKey portKey
        (loadBalancers.flatMap loadBalancerWrites ++ routes.flatMap routeWrites) := by
  have written : Applies
      (loadBalancers.flatMap loadBalancerWrites ++ routes.flatMap routeWrites) ∅
      (loadTable loadBalancers routes) :=
    (Applies.foldl applies_loadLoadBalancer loadBalancers ∅).trans
      (Applies.foldl applies_loadRoute routes _)
  rw [written, cell_empty, Option.or_none]

end KubeLB.PortLookup
