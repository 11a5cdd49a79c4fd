import KubeLB.Envoy.Separation

/-!
Contract: the ports that the Envoy pod binds before any snapshot arrives.

Owns: the ports of the bootstrap listeners and of the shutdown manager, and
which runs of the allocator keep clear of them.

Does not own: the rest of the bootstrap configuration.

The allocator draws from 10000 to 65534 and knows nothing of these ports. The
admin port lies below that range; the other four lie inside it.
-/

set_option autoImplicit false

namespace KubeLB.Envoy

open KubeLB.Library KubeLB.V1Alpha1 KubeLB.Naming KubeLB.PortLookup

def envoyAdminPort : UInt32 := 9001
def envoyStatsPort : UInt32 := 19001
def envoyReadinessPort : UInt32 := 19003
def envoyHealthCheckPort : UInt32 := 19004
def shutdownManagerPort : UInt32 := 19002

/-- The ports bound in the pod by the bootstrap and, unless graceful shutdown is
switched off, by the shutdown manager. -/
def boundPorts (gracefulShutdown : Bool) : List UInt32 :=
  [envoyAdminPort, envoyReadinessPort, envoyHealthCheckPort, envoyStatsPort] ++
    (if gracefulShutdown then [shutdownManagerPort] else [])

/-- A port of the allocator that no other process of the pod has bound. -/
def Unbound (gracefulShutdown : Bool) (port : Int) : Prop :=
  UInt32.ofInt port ∉ boundPorts gracefulShutdown

/-- The entries without an allocation, whose listeners bind the port itself, have no
bound port. -/
def FallbacksUnbound (gracefulShutdown : Bool) (pa : PortAllocator)
    (loadBalancers : List LoadBalancer) (routes : List Route) : Prop :=
  ∀ entry ∈ servedEntries loadBalancers routes,
    pa.lookup entry.endpointKey (envoyListenerPattern entry.port entry.protocol) = none →
    entry.port.toUInt32 ∉ boundPorts gracefulShutdown

theorem published_port_of_entry {client : AddressesClient} {loadBalancers : List LoadBalancer}
    {routes : List Route} {pa : PortAllocator} {headerLimits : HeaderLimits}
    {sort : SliceSort String} {codec : ResourceCodec} {snapshot : Snapshot}
    (mapped : mapSnapshot client loadBalancers routes pa headerLimits sort codec =
      .ok snapshot)
    {name : String} {listener : Listener}
    (published : snapshot.listeners.lookup name = some listener) :
    ∃ entry ∈ servedEntries loadBalancers routes,
      listener.address.portValue =
        listenerPort pa entry.endpointKey entry.port entry.protocol := by
  obtain ⟨built, isBuilt, -, isListeners, -⟩ := mapSnapshot_ok mapped
  rw [isListeners] at published
  have inPublished := (mem_of_lookup_indexBy Listener.name published).1
  have inBuilt : listener ∈ built.filterMap PortResources.listener :=
    (sort.perm Listener.name _).mem_iff.mp
      ((dedupListenersByAddress_sublist _).subset inPublished)
  have inPairs : (listener.name, listener.address) ∈
      (servedEntries loadBalancers routes).map
        (fun entry => (entry.listenerName, entry.bindAddress pa)) := by
    rw [← built_listeners isBuilt]
    exact List.mem_map.mpr ⟨listener, inBuilt, rfl⟩
  obtain ⟨entry, member, isPair⟩ := List.mem_map.mp inPairs
  refine ⟨entry, member, ?_⟩
  simp only [Prod.mk.injEq] at isPair
  rw [← isPair.2]
  rfl

/-- In a run whose draws and stored target ports avoid the bound ports, no held
port is a bound one, and no listener of a snapshot built from the reached state
binds one, unless a port without an allocation is itself a bound one. -/
theorem reached_ports_unbound (gracefulShutdown : Bool) (calls : List Call)
    (uses : ∀ call ∈ calls, call.Uses (Unbound gracefulShutdown))
    (pa : PortAllocator)
    (run : runFrom PortAllocator.step newPortAllocator calls = some pa) :
    (∀ endpointKey portKey port, pa.lookup endpointKey portKey = some port →
      UInt32.ofInt port ∉ boundPorts gracefulShutdown) ∧
    (∀ client loadBalancers routes headerLimits sort codec snapshot,
      FallbacksUnbound gracefulShutdown pa loadBalancers routes →
      mapSnapshot client loadBalancers routes pa headerLimits sort codec = .ok snapshot →
      ∀ name listener, snapshot.listeners.lookup name = some listener →
        listener.address.portValue ∉ boundPorts gracefulShutdown) := by
  have unbound : HoldsOnly (Unbound gracefulShutdown) pa := reached_holdsOnly uses run
  refine ⟨unbound, ?_⟩
  intro client loadBalancers routes headerLimits sort codec snapshot fallbacks mapped name
    listener published
  obtain ⟨entry, member, isPort⟩ := published_port_of_entry mapped published
  rw [isPort, listenerPort]
  split
  · rename_i port found
    exact unbound _ _ port found
  · rename_i missing
    exact fallbacks entry member missing

def singlePortLoadBalancer : LoadBalancer where
  metadata := { name := "web", ns := "tenant-a" }
  spec := { endpoints := [{ addresses := [{ ip := "10.0.0.1" }], ports := [{ port := 80 }] }]
            ports := [{ port := 80 }] }

def unallocatedLoadBalancer : LoadBalancer where
  metadata := { name := "api", ns := "tenant-a" }
  spec := { endpoints := [{ addresses := [{ ip := "10.0.0.2" }], ports := [{ port := 8443 }] }]
            ports := [{ port := 443 }] }

/-- One LoadBalancer with the port 10005 and one without an allocation. -/
theorem reached_ports_unbound_single_port :
    ∃ pa, runFrom PortAllocator.step newPortAllocator
        [.allocatePorts "tenant-a-web-ep-0" ["80-TCP"] [5]] = some pa ∧
      pa.lookup "tenant-a-web-ep-0" "80-TCP" = some 10005 ∧
      UInt32.ofInt 10005 ∉ boundPorts true ∧
      ∀ client headerLimits sort codec snapshot,
        mapSnapshot client [singlePortLoadBalancer, unallocatedLoadBalancer] [] pa headerLimits
          sort codec = .ok snapshot →
        ∀ name listener, snapshot.listeners.lookup name = some listener →
          listener.address.portValue ∉ boundPorts true := by
  have evaluated :
      (runFrom PortAllocator.step newPortAllocator
        [.allocatePorts "tenant-a-web-ep-0" ["80-TCP"] [5]]).map
        (fun pa => pa.lookup "tenant-a-web-ep-0" "80-TCP") = some (some 10005) := by
    decide
  obtain ⟨pa, run, found⟩ := Option.map_eq_some_iff.mp evaluated
  have uses : ∀ call ∈ [Call.allocatePorts "tenant-a-web-ep-0" ["80-TCP"] [5]],
      call.Uses (Unbound true) := by
    intro call member
    obtain rfl := List.mem_singleton.mp member
    intro draw drawMember
    obtain rfl := List.mem_singleton.mp drawMember
    unfold Unbound
    decide
  have fallbacks : FallbacksUnbound true pa [singlePortLoadBalancer, unallocatedLoadBalancer]
      [] := by
    intro entry member missing
    have entries : servedEntries [singlePortLoadBalancer, unallocatedLoadBalancer] [] =
        [⟨"tenant-a-web-ep-0", "tenant-a-web-ep-0", 80, .tcp⟩,
          ⟨"tenant-a-api-ep-0", "tenant-a-api-ep-0", 8443, .tcp⟩] := by
      decide
    rw [entries] at member
    rcases List.mem_cons.mp member with rfl | inRest
    · exact absurd (found.symm.trans missing) (by simp)
    · obtain rfl := List.mem_singleton.mp inRest
      decide
  have unbound := reached_ports_unbound true _ uses pa run
  exact ⟨pa, run, found, unbound.1 _ _ _ found,
    fun client headerLimits sort codec snapshot => unbound.2 client _ _ headerLimits sort codec
      snapshot fallbacks⟩

/-- The draw 9001 hands out port 19001, and the listener of the LoadBalancer
binds the port of the stats listener. -/
theorem allocated_port_meets_stats_listener :
    (runFrom PortAllocator.step newPortAllocator
        [.allocatePorts "tenant-a-web-ep-0" ["80-TCP"] [9001]]).map (fun pa =>
      (pa.lookup "tenant-a-web-ep-0" "80-TCP",
        match mapSnapshot (fun _ _ => .ok []) [singlePortLoadBalancer] [] pa {}
            (SliceSort.stable String) ⟨fun _ => .ok [], fun _ => ""⟩ with
        | .error _ => none
        | .ok snapshot =>
            (snapshot.listeners.lookup "tenant-a-web-ep-0-port-80-TCP").map
              (·.address.portValue))) =
      some (some 19001, some envoyStatsPort) := by
  decide

end KubeLB.Envoy
