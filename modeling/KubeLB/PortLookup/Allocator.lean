import Mathlib.Algebra.GroupWithZero.Nat
import KubeLB.Naming.Patterns

/-!
Contract: the `PortAllocator` of package `portlookup` and its operations.

Owns: the lookup table and its reverse set, the random allocation loop, the
allocation, release and reload operations, and the healing pass of a reload.

Does not own: metrics, logging and locking. Every operation holds the
allocator's lock from its first read to its last write, so operations are
atomic. The draws of `rand.Intn` are an argument; a call that has not returned
when they are used up has no result.
-/

set_option autoImplicit false

namespace KubeLB.PortLookup

open KubeLB.Library KubeLB.Core KubeLB.V1Alpha1 KubeLB.Naming

/-- `LookupTable`: endpoint keys to port keys to allocated ports. -/
abbrev LookupTable := GoMap String (GoMap String Int)

structure PortAllocator where
  portLookup : LookupTable
  /-- `portLookupReverse`, a Go map used as a set. -/
  portLookupReverse : Finset Int
  deriving DecidableEq

def newPortAllocator : PortAllocator where
  portLookup := ∅
  portLookupReverse := ∅

def startPort : Nat := 10000
def endPort : Nat := 65535

/-- A value of `rand.Intn(endPort - startPort)`. -/
abbrev Draw := Fin (endPort - startPort)

instance : NeZero (endPort - startPort) := ⟨by decide⟩

/-- The port that a draw stands for. -/
def Draw.port (draw : Draw) : Int := (draw.val : Int) + startPort

/-- `portLookup[endpointKey][portKey]`. -/
def cell (table : LookupTable) (endpointKey portKey : String) : Option Int :=
  (table.lookup endpointKey).bind (fun ports => ports.lookup portKey)

/-- `Lookup`, with `none` for `(-1, false)`. -/
def PortAllocator.lookup (pa : PortAllocator) (endpointKey portKey : String) : Option Int :=
  cell pa.portLookup endpointKey portKey

def assignedPorts (table : LookupTable) : Finset Int :=
  (GoMap.valueSet table).biUnion GoMap.valueSet

def PortAllocator.recomputeAvailablePorts (pa : PortAllocator) : PortAllocator :=
  { pa with portLookupReverse := assignedPorts pa.portLookup }

/-! ## Allocation -/

/-- `allocatePort`: draw until a port is free. The caller marks the port as
used. -/
def allocatePort (used : Finset Int) : List Draw → Option (Int × List Draw)
  | [] => none
  | draw :: rest =>
      if draw.port ∈ used then allocatePort used rest else some (draw.port, rest)

/-- What the allocation loop of `AllocatePorts` changes. -/
structure AllocationLoop where
  ports : GoMap String Int
  used : Finset Int
  updated : Bool

/-- The first loop of `AllocatePorts`: every key without a port gets one, marked
as used at once. -/
def allocateMissing : List String → AllocationLoop → List Draw →
    Option (AllocationLoop × List Draw)
  | [], loop, draws => some (loop, draws)
  | portKey :: portKeys, loop, draws =>
      match loop.ports.lookup portKey with
      | some _ => allocateMissing portKeys loop draws
      | none =>
          match allocatePort loop.used draws with
          | none => none
          | some (port, rest) =>
              allocateMissing portKeys
                { ports := loop.ports.insert portKey port
                  used := insert port loop.used
                  updated := true } rest

def endpointPorts (table : LookupTable) (endpointKey : String) : GoMap String Int :=
  (table.lookup endpointKey).getD ∅

/-- `AllocatePorts`: the new allocator, whether it changed, and the draws left. -/
def PortAllocator.allocatePorts (pa : PortAllocator) (endpointKey : String)
    (portKeys : List String) (draws : List Draw) :
    Option (PortAllocator × Bool × List Draw) :=
  match allocateMissing portKeys
      { ports := endpointPorts pa.portLookup endpointKey
        used := pa.portLookupReverse
        updated := false } draws with
  | none => none
  | some (loop, rest) =>
      -- ports that are no longer needed
      let kept := GoMap.retain (fun portKey => portKeys.contains portKey) loop.ports
      let updated := loop.updated || decide (kept ≠ loop.ports)
      let pa : PortAllocator :=
        { pa with portLookup := pa.portLookup.insert endpointKey kept }
      some (pa.recomputeAvailablePorts, updated, rest)

/-! ## Release -/

/-- `DeallocatePorts`: the new allocator and whether it reports a change. -/
def PortAllocator.deallocatePorts (pa : PortAllocator) (endpointKey : String)
    (portKeys : List String) : PortAllocator × Bool :=
  match pa.portLookup.lookup endpointKey with
  | none => (pa.recomputeAvailablePorts, false)
  | some ports =>
      let pa : PortAllocator :=
        { pa with
          portLookup := pa.portLookup.insert endpointKey (GoMap.eraseAll ports portKeys) }
      (pa.recomputeAvailablePorts, !portKeys.isEmpty)

def PortAllocator.deallocateEndpoints (pa : PortAllocator) (endpointKeys : List String) :
    PortAllocator :=
  let pa : PortAllocator :=
    { pa with portLookup := GoMap.eraseAll pa.portLookup endpointKeys }
  pa.recomputeAvailablePorts

/-! ## Reload -/

/-- Add an empty endpoint unless the key exists. -/
def ensureEndpoint (table : LookupTable) (endpointKey : String) : LookupTable :=
  match table.lookup endpointKey with
  | some _ => table
  | none => table.insert endpointKey ∅

/-- `lookupTable[endpointKey][portKey] = port`. -/
def setPort (table : LookupTable) (endpointKey portKey : String) (port : Int) : LookupTable :=
  table.insert endpointKey ((endpointPorts table endpointKey).insert portKey port)

/-- Does a port of the stored status stand for an endpoint port? Names decide
when either side has one, the upstream port otherwise. -/
def statusPortMatches (endpointPort : EndpointPort) (port : V1Alpha1.ServicePort) : Bool :=
  if port.protocol ≠ endpointPort.protocol then false
  else if endpointPort.name ≠ "" ∨ port.name ≠ "" then
    decide (port.name = endpointPort.name)
  else decide (port.upstreamTargetPort = endpointPort.port)

/-- The stored port of an endpoint port: the first match wins. -/
def storedPort (statusPorts : List V1Alpha1.ServicePort) (endpointPort : EndpointPort) :
    Option Int :=
  (statusPorts.find? (statusPortMatches endpointPort)).map (·.targetPort.intValue)

/-- The loop over the ports of one LoadBalancer endpoint. -/
def loadEndpointPort (statusPorts : List V1Alpha1.ServicePort) (endpointKey : String)
    (table : LookupTable) (endpointPort : EndpointPort) : LookupTable :=
  match storedPort statusPorts endpointPort with
  | some port =>
      setPort table endpointKey
        (envoyListenerPattern endpointPort.port endpointPort.protocol) port
  | none => table

/-- The loop of `LoadState` over the endpoints of one LoadBalancer. -/
def loadLoadBalancer (table : LookupTable) (lb : LoadBalancer) : LookupTable :=
  lb.spec.endpoints.zipIdx.foldl (fun table indexed =>
    let endpointKey := envoyEndpointPattern lb.metadata.ns lb.metadata.name indexed.2
    indexed.1.ports.foldl (loadEndpointPort lb.status.service.ports endpointKey)
      (ensureEndpoint table endpointKey)) table

/-- The loop of `LoadState` over the services of one Route. -/
def loadRoute (table : LookupTable) (route : Route) : LookupTable :=
  match route.spec.source with
  | none => table
  | some source =>
      let originalRouteName := getOriginalRouteName route
      source.services.foldl (fun table svc =>
        let endpointKey := envoyEndpointRoutePattern route.metadata.ns svc.metadata.ns
          svc.metadata.name originalRouteName
        let table := ensureEndpoint table endpointKey
        let key := routeServiceMapKey svc.metadata.ns (getName svc.metadata)
        match route.status.resources.services.lookup key with
        | none => table
        | some svcPort =>
            svcPort.ports.foldl (fun table port =>
              setPort table endpointKey (envoyListenerPattern port.port port.protocol)
                port.targetPort.intValue) table) table

/-- The table that `LoadState` reads from the stored objects, before healing. -/
def loadTable (loadBalancers : List LoadBalancer) (routes : List Route) : LookupTable :=
  routes.foldl loadRoute (loadBalancers.foldl loadLoadBalancer ∅)

/-! ## Healing -/

/-- The inner loop of `healLoadStateCollisions` over the sorted port keys of one
endpoint. -/
def healPortKeys (endpointKey : String) : List String → GoMap String Int →
    GoMap Int String → GoMap String Int × GoMap Int String
  | [], ports, owners => (ports, owners)
  | portKey :: portKeys, ports, owners =>
      let port := (ports.lookup portKey).getD 0
      match owners.lookup port with
      | some owner =>
          if owner ≠ endpointKey then
            healPortKeys endpointKey portKeys (ports.erase portKey) owners
          else healPortKeys endpointKey portKeys ports (owners.insert port endpointKey)
      | none => healPortKeys endpointKey portKeys ports (owners.insert port endpointKey)

/-- The outer loop over the sorted endpoint keys. -/
def healEndpoints : List String → LookupTable → GoMap Int String → LookupTable
  | [], table, _ => table
  | endpointKey :: endpointKeys, table, owners =>
      let ports := endpointPorts table endpointKey
      let healed := healPortKeys endpointKey (GoMap.sortedKeys ports) ports owners
      healEndpoints endpointKeys (table.insert endpointKey healed.1) healed.2

def healLoadStateCollisions (table : LookupTable) : LookupTable :=
  healEndpoints (GoMap.sortedKeys table) table ∅

/-- A failed API read. -/
structure ApiError where
  message : String
  deriving DecidableEq, Repr

/-- The two lists that `LoadState` reads through the API reader. -/
structure ApiReader where
  loadBalancers : Except ApiError (List LoadBalancer)
  routes : Except ApiError (List Route)

/-- `LoadState`: the allocator after the call and the returned error. A failed
read leaves the allocator as it was. -/
def PortAllocator.loadState (pa : PortAllocator) (apiReader : ApiReader) :
    PortAllocator × Option ApiError :=
  match apiReader.loadBalancers with
  | .error error => (pa, some error)
  | .ok loadBalancers =>
      match apiReader.routes with
      | .error error => (pa, some error)
      | .ok routes =>
          let table := healLoadStateCollisions (loadTable loadBalancers routes)
          (({ pa with portLookup := table } : PortAllocator).recomputeAvailablePorts, none)

end KubeLB.PortLookup
