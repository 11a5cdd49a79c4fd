import KubeLB.Envoy.Addresses
import KubeLB.Envoy.PortEntries

/-!
Contract: what a snapshot publishes.

Owns: when `MapSnapshot` returns and with what, the comparison of bind
addresses, and which of the built listeners are published.

Does not own: how the built listeners come about.
-/

set_option autoImplicit false

namespace KubeLB.Envoy

open KubeLB.Library KubeLB.V1Alpha1 KubeLB.PortLookup

/-! ## Results of `MapSnapshot` -/

section Results

variable {client : AddressesClient} {loadBalancers : List LoadBalancer} {routes : List Route}
  {pa : PortAllocator} {headerLimits : HeaderLimits} {sort : SliceSort String}
  {codec : ResourceCodec}

/-- A snapshot consists of the built resources, indexed by name. -/
theorem mapSnapshot_ok {snapshot : Snapshot}
    (mapped : mapSnapshot client loadBalancers routes pa headerLimits sort codec =
      .ok snapshot) :
    ∃ built, buildResources client loadBalancers routes pa headerLimits = .ok built ∧
      snapshot.clusters = indexBy Cluster.name
        (sort.run Cluster.name (built.map PortResources.cluster)) ∧
      snapshot.listeners = indexBy Listener.name (publishedListeners sort built) ∧
      snapshot.endpoints = indexBy ClusterLoadAssignment.clusterName
        (sort.run ClusterLoadAssignment.clusterName
          (built.flatMap PortResources.endpoints)) := by
  unfold mapSnapshot at mapped
  split at mapped
  · cases mapped
  · rename_i built isBuilt
    refine ⟨built, isBuilt, ?_⟩
    dsimp only at mapped
    split at mapped
    · cases mapped
    · cases mapped
      exact ⟨rfl, rfl, rfl⟩

/-- Every referenced Addresses object can be read. -/
def AddressesClient.Total (client : AddressesClient) : Prop :=
  ∀ ns name, ∃ addresses, client ns name = .ok addresses

/-- Every resource can be encoded. -/
def ResourceCodec.Total (codec : ResourceCodec) : Prop :=
  ∀ resource, ∃ bytes, codec.marshalResource resource = .ok bytes

theorem buildResources_returns (readable : client.Total) (loadBalancers : List LoadBalancer)
    (routes : List Route) (pa : PortAllocator) (headerLimits : HeaderLimits) :
    ∃ built, buildResources client loadBalancers routes pa headerLimits = .ok built :=
  buildResources_of_readable (fun _ _ _ _ name _ => readable _ name)
    (fun _ _ _ _ _ name _ => readable _ name) pa headerLimits

theorem marshalAll_returns (encodable : codec.Total) (resources : List Resource) :
    ∃ bytes, marshalAll codec resources = .ok bytes := by
  induction resources with
  | nil => exact ⟨_, rfl⟩
  | cons resource resources ih =>
      obtain ⟨bytes, isBytes⟩ := encodable resource
      obtain ⟨others, isOthers⟩ := ih
      simp only [marshalAll, isBytes, isOthers]
      exact ⟨_, rfl⟩

/-- Once the resources are built, `MapSnapshot` fails only when an encoding fails. -/
theorem mapSnapshot_of_built {built : List PortResources}
    (isBuilt : buildResources client loadBalancers routes pa headerLimits = .ok built)
    (sort : SliceSort String) (encodable : codec.Total) :
    ∃ snapshot, mapSnapshot client loadBalancers routes pa headerLimits sort codec =
      .ok snapshot := by
  simp only [mapSnapshot, isBuilt]
  obtain ⟨content, isContent⟩ := marshalAll_returns encodable
    ((sort.run Cluster.name (built.map PortResources.cluster)).map .cluster ++
      (publishedListeners sort built).map .listener ++
      (sort.run ClusterLoadAssignment.clusterName
        (built.flatMap PortResources.endpoints)).map .endpoints)
  rw [isContent]
  exact ⟨_, rfl⟩

/-- `MapSnapshot` fails only when a read or an encoding fails. -/
theorem mapSnapshot_returns (readable : client.Total) (encodable : codec.Total) :
    ∃ snapshot, mapSnapshot client loadBalancers routes pa headerLimits sort codec =
      .ok snapshot := by
  obtain ⟨built, isBuilt⟩ :=
    buildResources_returns readable loadBalancers routes pa headerLimits
  exact mapSnapshot_of_built isBuilt sort encodable

end Results

/-! ## Bind addresses -/

theorem SocketProtocol.text_injective : Function.Injective SocketProtocol.text := by
  intro left right same
  cases left <;> cases right <;> first | rfl | exact absurd same (by decide)

theorem bindKey_injective : Function.Injective bindKey := by
  rintro ⟨protocol, address, port⟩ ⟨protocol', address', port'⟩ same
  have noSlash (spoken : SocketProtocol) : Lacks '/' spoken.text := by
    cases spoken <;> decide
  obtain ⟨front, protocolText⟩ := cut_last_mark rfl (noSlash _) (noSlash _) same
  obtain ⟨addressText, portText⟩ := cut_last_mark rfl
    (lacks_natText (by decide) _) (lacks_natText (by decide) _) front
  have samePort : port = port' := UInt32.toNat_inj.mp (natText_injective portText)
  have sameProtocol : protocol = protocol' := SocketProtocol.text_injective protocolText
  have sameAddress : address = address' := addressText
  rw [samePort, sameProtocol, sameAddress]

/-! ## Published listeners -/

theorem dedupListenersByAddress_eq_self {listeners : List Listener}
    (distinct : (listeners.map Listener.address).Nodup) :
    dedupListenersByAddress listeners = listeners := by
  unfold dedupListenersByAddress
  split
  · rfl
  · apply keepFirst_eq_self
    · simp
    · have keys : listeners.map (fun listener => bindKey listener.address) =
          (listeners.map Listener.address).map bindKey := by
        simp
      rw [keys]
      exact distinct.map bindKey_injective

theorem dedupListenersByAddress_sublist (listeners : List Listener) :
    (dedupListenersByAddress listeners).Sublist listeners := by
  unfold dedupListenersByAddress
  split
  · exact List.Sublist.refl _
  · exact keepFirst_sublist _ _ _

end KubeLB.Envoy
