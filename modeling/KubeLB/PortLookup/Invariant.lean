import KubeLB.Library.Runs
import KubeLB.PortLookup.Healing

/-!
Contract: the invariant of the port allocator over every sequence of calls.

Owns: the calls as steps of one machine, the uniqueness of ports relative to the
table that the last reload installed, and the duplicate-free states.

Does not own: which calls the reconcilers make.

| Call | Ports it may duplicate |
|---|---|
| `LoadState` | two ports of one endpoint whose stored target ports agree |
| `AllocatePorts` | none: a fresh port is unused and marked at once |
| `DeallocatePorts`, `DeallocateEndpoints` | none: they only remove entries |
-/

set_option autoImplicit false

namespace KubeLB.PortLookup

open KubeLB.Library KubeLB.V1Alpha1

/-! ## The allocator as a machine -/

inductive Call where
  | loadState (apiReader : ApiReader)
  | allocatePorts (endpointKey : String) (portKeys : List String) (draws : List Draw)
  | deallocatePorts (endpointKey : String) (portKeys : List String)
  | deallocateEndpoints (endpointKeys : List String)

/-- One call; `none` while `allocatePort` is still drawing. -/
def PortAllocator.step (pa : PortAllocator) : Call → Option PortAllocator
  | .loadState apiReader => some (pa.loadState apiReader).1
  | .allocatePorts endpointKey portKeys draws =>
      (pa.allocatePorts endpointKey portKeys draws).map (·.1)
  | .deallocatePorts endpointKey portKeys => some (pa.deallocatePorts endpointKey portKeys).1
  | .deallocateEndpoints endpointKeys => some (pa.deallocateEndpoints endpointKeys)

/-- The table that a successful reload installs. -/
def Call.loaded : Call → Option LookupTable
  | .loadState ⟨.ok loadBalancers, .ok routes⟩ =>
      some (healLoadStateCollisions (loadTable loadBalancers routes))
  | _ => none

/-- The table of the last successful reload, empty when there was none. -/
def lastLoaded (calls : List Call) : LookupTable :=
  calls.foldl (fun table call => call.loaded.getD table) ∅

theorem lastLoaded_snoc (calls : List Call) (call : Call) :
    lastLoaded (calls ++ [call]) = call.loaded.getD (lastLoaded calls) := by
  simp [lastLoaded]

theorem loadState_cases (pa : PortAllocator) (apiReader : ApiReader) :
    ((Call.loadState apiReader).loaded = none ∧ (pa.loadState apiReader).1 = pa) ∨
    (∃ table, (Call.loadState apiReader).loaded = some (healLoadStateCollisions table) ∧
      (pa.loadState apiReader).1.portLookup = healLoadStateCollisions table ∧
      ReverseExact (pa.loadState apiReader).1) := by
  obtain ⟨loadBalancers, routes⟩ := apiReader
  cases loadBalancers with
  | error error => exact Or.inl ⟨rfl, rfl⟩
  | ok loadBalancers =>
      cases routes with
      | error error => exact Or.inl ⟨rfl, rfl⟩
      | ok routes => exact Or.inr ⟨loadTable loadBalancers routes, rfl, rfl, rfl⟩

/-! ## Unique ports -/

/-- The reverse set is exact, and two entries share a port only when they lie
under one endpoint key and both hold it in `loaded`. -/
structure UniqueBeyond (loaded : LookupTable) (pa : PortAllocator) : Prop where
  exact : ReverseExact pa
  unique : ∀ {endpointKey endpointKey' portKey portKey' port},
    pa.lookup endpointKey portKey = some port →
    pa.lookup endpointKey' portKey' = some port →
    endpointKey = endpointKey' ∧
      (portKey = portKey' ∨
        (cell loaded endpointKey portKey = some port ∧
          cell loaded endpointKey' portKey' = some port))

theorem UniqueBeyond.of_subset {loaded : LookupTable} {pa pa' : PortAllocator}
    (before : UniqueBeyond loaded pa)
    (exact : ReverseExact pa')
    (subset : ∀ {endpointKey portKey port}, pa'.lookup endpointKey portKey = some port →
      pa.lookup endpointKey portKey = some port) :
    UniqueBeyond loaded pa' :=
  ⟨exact, fun found found' => before.unique (subset found) (subset found')⟩

/-- Allocation keeps ports unique: a fresh port is in no entry, because the
reverse set covers them all, and two fresh ports differ. -/
theorem UniqueBeyond.allocatesPorts {loaded : LookupTable} {pa pa' : PortAllocator}
    {endpointKey : String} {portKeys : List String} {draws : List Draw}
    (before : UniqueBeyond loaded pa)
    (effect : AllocatesPorts pa endpointKey portKeys draws pa') :
    UniqueBeyond loaded pa' := by
  have notHeld {port : Int} (unused : port ∉ pa.portLookupReverse) (key portKey : String) :
      pa.lookup key portKey ≠ some port :=
    fun held => unused ((before.exact.mem_iff port).mpr ⟨key, portKey, held⟩)
  refine ⟨effect.exact, fun {left right leftPort rightPort port} found found' => ?_⟩
  rcases effect.origin found with old | ⟨rfl, -, missing, unused, -⟩
  · rcases effect.origin found' with old' | ⟨-, -, -, unused', -⟩
    · exact before.unique old old'
    · exact absurd old (notHeld unused' _ _)
  · rcases effect.origin found' with old' | ⟨rfl, -, missing', -⟩
    · exact absurd old' (notHeld unused _ _)
    · exact ⟨rfl, Or.inl (effect.distinct missing missing' found found')⟩

/-- One call keeps ports unique relative to the table loaded last. -/
theorem UniqueBeyond.step {loaded : LookupTable} {pa pa' : PortAllocator} {call : Call}
    (before : UniqueBeyond loaded pa)
    (stepped : pa.step call = some pa') :
    UniqueBeyond (call.loaded.getD loaded) pa' := by
  cases call with
  | loadState apiReader =>
      cases stepped
      rcases loadState_cases pa apiReader with ⟨isNone, same⟩ | ⟨table, isSome, stored, exact⟩
      · rw [isNone, same]
        exact before
      · rw [isSome]
        refine ⟨exact, fun found found' => ?_⟩
        simp only [PortAllocator.lookup, stored] at found found'
        exact ⟨healLoadStateCollisions_endpoint found found', Or.inr ⟨found, found'⟩⟩
  | allocatePorts endpointKey portKeys draws =>
      obtain ⟨⟨next, updated, rest⟩, allocated, rfl⟩ := Option.map_eq_some_iff.mp stepped
      exact before.allocatesPorts (allocatePorts_effect allocated)
  | deallocatePorts endpointKey portKeys =>
      cases stepped
      refine before.of_subset (deallocatePorts_exact _ _ _) fun found => ?_
      rw [lookup_deallocatePorts] at found
      split at found
      · cases found
      · exact found
  | deallocateEndpoints endpointKeys =>
      cases stepped
      refine before.of_subset (deallocateEndpoints_exact _ _) fun found => ?_
      rw [lookup_deallocateEndpoints] at found
      split at found
      · cases found
      · exact found

theorem uniqueBeyond_newPortAllocator (loaded : LookupTable) :
    UniqueBeyond loaded newPortAllocator := by
  refine ⟨rfl, fun found => ?_⟩
  simp [PortAllocator.lookup, newPortAllocator] at found

theorem reached_uniqueBeyond {calls : List Call} {pa : PortAllocator}
    (run : runFrom PortAllocator.step newPortAllocator calls = some pa) :
    UniqueBeyond (lastLoaded calls) pa := by
  refine run_induction (motive := fun history pa => UniqueBeyond (lastLoaded history) pa)
    (uniqueBeyond_newPortAllocator _) ?_ run
  intro history state call next before stepped
  rw [lastLoaded_snoc]
  exact before.step stepped

/-- In every reached state an entry shares its port with another one only inside
one endpoint, and only when both have held it since the last reload; the reverse
set is exactly the set of assigned ports. -/
theorem reached_ports_unique
    (calls : List Call) (pa : PortAllocator)
    (run : runFrom PortAllocator.step newPortAllocator calls = some pa) :
    (∀ endpointKey portKey endpointKey' portKey' port,
      pa.lookup endpointKey portKey = some port →
      pa.lookup endpointKey' portKey' = some port →
      (endpointKey, portKey) ≠ (endpointKey', portKey') →
      endpointKey = endpointKey' ∧
        cell (lastLoaded calls) endpointKey portKey = some port ∧
        cell (lastLoaded calls) endpointKey' portKey' = some port) ∧
    (∀ port, port ∈ pa.portLookupReverse ↔
      ∃ endpointKey portKey, pa.lookup endpointKey portKey = some port) := by
  have invariant := reached_uniqueBeyond run
  refine ⟨?_, invariant.exact.mem_iff⟩
  intro endpointKey portKey endpointKey' portKey' port found found' different
  obtain ⟨sameEndpoint, samePort | loaded⟩ := invariant.unique found found'
  · exact absurd (Prod.ext sameEndpoint samePort) different
  · exact ⟨sameEndpoint, loaded⟩

/-- A LoadBalancer with two endpoint ports of one name; its stored status has one
port of that name. -/
def repeatedNameLoadBalancer : LoadBalancer where
  metadata := { name := "web", ns := "tenant-a" }
  spec :=
    { endpoints := [{ ports := [{ name := "web", port := 80 }, { name := "web", port := 81 }] }]
      ports := [{ name := "web", port := 80 }] }
  status :=
    { service :=
      { ports := [
        { name := "web", port := 80, targetPort := .int 12345, upstreamTargetPort := 80 }] } }

def repeatedNameReader : ApiReader where
  loadBalancers := .ok [repeatedNameLoadBalancer]
  routes := .ok []

/-- A reload gives both ports of the endpoint the one stored port, and healing
keeps them: their owner is the same endpoint key. -/
theorem reload_keeps_duplicate_in_endpoint :
    (runFrom PortAllocator.step newPortAllocator [.loadState repeatedNameReader]).map
        (fun pa => (pa.lookup "tenant-a-web-ep-0" "80-TCP",
          pa.lookup "tenant-a-web-ep-0" "81-TCP")) =
      some (some 12345, some 12345) := by
  decide

/-- A reload with a surviving duplicate, then an allocation whose first draw is
the duplicated port. -/
def reloadThenAllocate : List Call :=
  [.loadState repeatedNameReader, .allocatePorts "tenant-a-db-ep-0" ["80-TCP"] [2345, 7]]

theorem reached_ports_unique_after_reload :
    ∃ pa, runFrom PortAllocator.step newPortAllocator reloadThenAllocate = some pa ∧
      pa.lookup "tenant-a-db-ep-0" "80-TCP" = some 10007 ∧
      (∀ endpointKey portKey, pa.lookup endpointKey portKey = some 10007 →
        (endpointKey, portKey) ≠ ("tenant-a-db-ep-0", "80-TCP") →
        cell (lastLoaded reloadThenAllocate) endpointKey portKey = some 10007) := by
  have evaluated :
      (runFrom PortAllocator.step newPortAllocator reloadThenAllocate).map
        (fun pa => pa.lookup "tenant-a-db-ep-0" "80-TCP") = some (some 10007) := by
    decide
  obtain ⟨pa, run, fresh⟩ := Option.map_eq_some_iff.mp evaluated
  refine ⟨pa, run, fresh, fun endpointKey portKey found different => ?_⟩
  exact ((reached_ports_unique reloadThenAllocate pa run).1 _ _ _ _ _ found fresh different).2.1

end KubeLB.PortLookup
