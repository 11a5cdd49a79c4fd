import KubeLB.Controllers.LoadBalancerReconciler
import KubeLB.PortLookup.Filled

/-!
Contract: when a pass of the LoadBalancer reconciler indexes a slice out of range.

Owns: the exact condition on a LoadBalancer, a Tenant and a Config under which no pass
does so, whatever its surroundings.

Does not own: what a pass writes.

Three places index without a check: a Service port needs an endpoint port at the same
index, and each hostname resource needs a first port.
-/

set_option autoImplicit false

namespace KubeLB.Controllers.Balancing

open KubeLB.Library KubeLB.Core KubeLB.V1Alpha1 KubeLB.Naming KubeLB.PortLookup KubeLB.Resources
open KubeLB.LoadBalancers

/-- No pass over the LoadBalancer with these settings and this Service indexes a slice out
of range, whatever the other LoadBalancers, the allocator, the API errors, the random bytes
and the clock are. `rand.Read` never fails. -/
def NeverOutOfRange (lb : HostedLoadBalancer) (tenant : HostingTenant) (config : HostingConfig)
    (existing : Option BalancerService) : Prop :=
  ∀ (pass : BalancerPass) (state : State), pass.tenant = tenant → pass.config = config →
    pass.random.isSome → state.loadBalancer = some lb → state.service = existing →
    ∀ site reached, reconcile pass state ≠ some (.error (.outOfRange site), reached)

def firstEndpointPorts (lb : HostedLoadBalancer) : List EndpointPort :=
  (lb.spec.endpoints.head?.map LoadBalancerEndpoints.ports).getD []

/-- The LoadBalancer has a hostname, or one can be generated for it. -/
def HasHostname (lb : HostedLoadBalancer) (tenant : HostingTenant) (config : HostingConfig) :
    Prop :=
  lb.statusHostname.getD "" ≠ "" ∨ lb.hostname ≠ "" ∨
    ∃ domain, wildcardDomain tenant.dns config.dns = some domain ∧
      isValidHostname (withoutWildcard domain) = true

/-- A hostname resource is never made for the LoadBalancer, or its port exists. -/
def HostnameInRange (lb : HostedLoadBalancer) (tenant : HostingTenant) (config : HostingConfig) :
    Prop :=
  shouldConfigureHostname lb.metadata.annotations lb.hostname tenant.dns config.dns = true →
    HasHostname lb tenant config →
    lb.spec.ports ≠ [] ∨ (useGatewayAPI tenant config = true ∧ defaultGateway tenant config = none)

/-- Either the pass ends before the Service, or every index of it is in range. -/
def InRange (lb : HostedLoadBalancer) (tenant : HostingTenant) (config : HostingConfig) : Prop :=
  lb.spec.endpoints = [] ∨ Deleting lb.metadata ∨ disabled tenant config = true ∨
    (lb.spec.ports.length ≤ (firstEndpointPorts lb).length ∧ HostnameInRange lb tenant config)

/-! ## Passes that stay in range -/

def OutOfRange (failure : Failure) : Prop := ∃ site, failure = .outOfRange site

section Avoiding

variable (pass : BalancerPass)

theorem avoids_call (call : Call) (message : String) :
    Pass.Avoids OutOfRange (pass.call call message) (fun _ => True) := by
  apply Pass.avoids_check
  rintro failure isFailure ⟨site, rfl⟩
  simp at isFailure

theorem avoids_indexed {α : Type} (site : Site) {value : Option α} (found : value.isSome) :
    Pass.Avoids OutOfRange (indexed site value) (fun _ => True) := by
  cases value with
  | none => cases found
  | some value => exact Pass.avoids_pure trivial

theorem avoids_reconcileService {lb : HostedLoadBalancer} (listsEndpoints : lb.spec.endpoints ≠ [])
    (enough : lb.spec.ports.length ≤ (firstEndpointPorts lb).length) (className : Option String)
    (annotations : AnnotationSettings) :
    Pass.Avoids OutOfRange (reconcileService pass lb className annotations) (fun _ => True) := by
  have created (existing : Service) (pa : PortAllocator) :
      (createServicePorts pass.sort lb.toLoadBalancer existing pa).isSome := by
    obtain ⟨endpoint, others, isEndpoints⟩ := List.exists_cons_of_ne_nil listsEndpoints
    rw [firstEndpointPorts, isEndpoints] at enough
    obtain ⟨ports, isCreated, -⟩ :=
      createServicePorts_of_enough lb.toLoadBalancer existing pa isEndpoints enough
    rw [isCreated]
    rfl
  unfold reconcileService
  refine Pass.avoids_bind (avoids_call pass _ _) fun _ _ => ?_
  refine Pass.avoids_bind_read fun found => ?_
  refine Pass.avoids_bind_read fun pa => ?_
  refine Pass.avoids_bind (avoids_indexed _ (created _ pa)) fun ports _ => ?_
  cases found with
  | none => exact Pass.avoids_bind (avoids_call pass _ _) fun _ _ => Pass.avoids_modify
  | some existing =>
      dsimp only
      split
      · exact Pass.avoids_bind (avoids_call pass _ _) fun _ _ => Pass.avoids_modify
      · exact Pass.avoids_pure trivial

theorem avoids_createOrUpdateHostnameResource (kind : String)
    (existing : State → Option (ObjectMeta × Bool)) (desired : ObjectMeta)
    (put : ObjectMeta → State → State) :
    Pass.Avoids OutOfRange (createOrUpdateHostnameResource pass kind existing desired put)
      (fun _ => True) := by
  unfold createOrUpdateHostnameResource
  refine Pass.avoids_bind (avoids_call pass _ _) fun _ _ => ?_
  refine Pass.avoids_bind_read fun found => ?_
  cases found with
  | none => exact Pass.avoids_bind (avoids_call pass _ _) fun _ _ => Pass.avoids_modify
  | some stored =>
      dsimp only
      split
      · exact Pass.avoids_bind (avoids_call pass _ _) fun _ _ => Pass.avoids_modify
      · exact Pass.avoids_pure trivial

theorem avoids_createHTTPRouteForHostname {lb : HostedLoadBalancer}
    (inRange : lb.spec.ports ≠ [] ∨ defaultGateway pass.tenant pass.config = none)
    (svcName hostname : String) (annotations : AnnotationSettings) :
    Pass.Avoids OutOfRange (createHTTPRouteForHostname pass lb svcName hostname annotations)
      (fun _ => True) := by
  unfold createHTTPRouteForHostname
  split
  · apply Pass.avoids_fail
    rintro ⟨site, isFailure⟩
    cases isFailure
  · rename_i gateway isGateway
    have listsPorts := inRange.resolve_right (by rw [isGateway]; exact Option.some_ne_none gateway)
    refine Pass.avoids_bind (avoids_indexed _ (List.isSome_head?.mpr listsPorts)) fun port _ => ?_
    exact avoids_createOrUpdateHostnameResource pass _ _ _ _

theorem avoids_createIngressForHostname {lb : HostedLoadBalancer} (listsPorts : lb.spec.ports ≠ [])
    (svcName hostname : String) (annotations : AnnotationSettings) :
    Pass.Avoids OutOfRange (createIngressForHostname pass lb svcName hostname annotations)
      (fun _ => True) := by
  unfold createIngressForHostname
  refine Pass.avoids_bind (avoids_indexed _ (List.isSome_head?.mpr listsPorts)) fun port _ => ?_
  exact avoids_createOrUpdateHostnameResource pass _ _ _ _

theorem newHostname_ne_empty_iff (hasRandom : pass.random.isSome) (lb : HostedLoadBalancer) :
    newHostname pass lb ≠ "" ↔ lb.hostname ≠ "" ∨
      ∃ domain, wildcardDomain pass.tenant.dns pass.config.dns = some domain ∧
        isValidHostname (withoutWildcard domain) = true := by
  obtain ⟨random, isRandom⟩ := Option.isSome_iff_exists.mp hasRandom
  unfold newHostname
  split
  · rename_i named
    exact iff_of_true named (Or.inl named)
  · rename_i unnamed
    rw [or_iff_right unnamed, isRandom, ← generateHostname_ne_nil_iff _ _ random pass.now,
      ne_eq, ne_eq, ← GoString.runes_eq_nil_iff, ← String.toList_eq_nil_iff, String.toList_ofList]

/-- The steps before the hostname resource keep the specification, and a hostname is chosen
only where there is one. -/
theorem avoids_chooseHostname (hasRandom : pass.random.isSome) (lb : HostedLoadBalancer) :
    Pass.Avoids OutOfRange (chooseHostname pass lb) (fun chosen => chosen.2.spec = lb.spec ∧
      (chosen.1 ≠ "" → HasHostname lb pass.tenant pass.config)) := by
  unfold chooseHostname
  dsimp only
  split
  · exact Pass.avoids_pure ⟨rfl, Or.inl⟩
  · split
    · exact Pass.avoids_pure ⟨rfl, fun chosen => absurd rfl chosen⟩
    · rename_i isNew
      refine Pass.avoids_bind (avoids_call pass _ _) fun _ _ => ?_
      refine Pass.avoids_bind Pass.avoids_modify fun _ _ => Pass.avoids_pure ⟨rfl, fun _ => ?_⟩
      exact Or.inr ((newHostname_ne_empty_iff pass hasRandom lb).mp isNew)

theorem avoids_addHostnameFinalizer (lb : HostedLoadBalancer) :
    Pass.Avoids OutOfRange (addHostnameFinalizer pass lb)
      (fun updated => updated.spec = lb.spec) := by
  unfold addHostnameFinalizer
  split
  · exact Pass.avoids_pure rfl
  · refine Pass.avoids_bind (avoids_call pass _ _) fun _ _ => ?_
    exact Pass.avoids_bind Pass.avoids_modify fun _ _ => Pass.avoids_pure rfl

theorem avoids_configureHostname (hasRandom : pass.random.isSome) {lb : HostedLoadBalancer}
    (inRange : HasHostname lb pass.tenant pass.config → lb.spec.ports ≠ [] ∨
      (useGatewayAPI pass.tenant pass.config = true ∧
        defaultGateway pass.tenant pass.config = none))
    (svcName : String) (annotations : AnnotationSettings) :
    Pass.Avoids OutOfRange (configureHostname pass lb svcName annotations) (fun _ => True) := by
  unfold configureHostname
  refine Pass.avoids_bind (avoids_chooseHostname pass hasRandom lb)
    fun chosen ⟨sameSpec, hasHostname⟩ => ?_
  split
  · exact Pass.avoids_pure trivial
  · rename_i isChosen
    refine Pass.avoids_bind (avoids_addHostnameFinalizer pass chosen.2) fun updated again => ?_
    have inRange := inRange (hasHostname isChosen)
    rw [← sameSpec, ← again] at inRange
    split
    · refine Pass.avoids_bind (avoids_createHTTPRouteForHostname pass
        (inRange.imp_right And.right) _ _ _) fun _ _ => Pass.avoids_pure trivial
    · rename_i notGateway
      have listsPorts := inRange.resolve_right fun both => notGateway both.1
      exact Pass.avoids_bind (avoids_createIngressForHostname pass listsPorts _ _ _)
        fun _ _ => Pass.avoids_pure trivial

theorem avoids_cleanup (lb : HostedLoadBalancer) :
    Pass.Avoids OutOfRange (cleanup pass lb) (fun _ => True) := by
  have hostnameResources :
      Pass.Avoids OutOfRange (cleanupHostnameResources pass lb) (fun _ => True) :=
    Pass.avoids_bind (avoids_call pass _ _) fun _ _ =>
      Pass.avoids_bind Pass.avoids_modify fun _ _ =>
        Pass.avoids_bind (avoids_call pass _ _) fun _ _ => Pass.avoids_modify
  unfold cleanup
  refine Pass.avoids_bind Pass.avoids_modify fun _ _ => ?_
  split
  · refine Pass.avoids_bind hostnameResources fun _ _ => ?_
    refine Pass.avoids_bind (avoids_call pass _ _) fun _ _ => ?_
    refine Pass.avoids_bind Pass.avoids_modify fun _ _ => ?_
    exact Pass.avoids_bind (avoids_call pass _ _) fun _ _ => Pass.avoids_modify
  · refine Pass.avoids_bind (avoids_call pass _ _) fun _ _ => ?_
    refine Pass.avoids_bind Pass.avoids_modify fun _ _ => ?_
    exact Pass.avoids_bind (avoids_call pass _ _) fun _ _ => Pass.avoids_modify

theorem avoids_configureWantedHostname (hasRandom : pass.random.isSome) {lb : HostedLoadBalancer}
    (inRange : HostnameInRange lb pass.tenant pass.config) (svcName : String)
    (annotations : AnnotationSettings) :
    Pass.Avoids OutOfRange (configureWantedHostname pass lb svcName annotations)
      (fun _ => True) := by
  unfold configureWantedHostname
  split
  · rename_i configures
    exact avoids_configureHostname pass hasRandom (inRange configures) svcName annotations
  · exact Pass.avoids_pure trivial

theorem avoids_addCleanupFinalizer (lb : HostedLoadBalancer) :
    Pass.Avoids OutOfRange (addCleanupFinalizer pass lb)
      (fun updated => updated.spec = lb.spec ∧ updated.hostname = lb.hostname ∧
        updated.statusHostname = lb.statusHostname ∧
          updated.metadata.annotations = lb.metadata.annotations) := by
  unfold addCleanupFinalizer
  split
  · exact Pass.avoids_pure ⟨rfl, rfl, rfl, rfl⟩
  · refine Pass.avoids_bind (avoids_call pass _ _) fun _ _ => ?_
    refine Pass.avoids_bind Pass.avoids_modify fun _ _ => Pass.avoids_pure ⟨rfl, rfl, rfl, ?_⟩
    simp only [removeFinalizer, addFinalizer]
    split <;> rfl

theorem avoids_balance (hasRandom : pass.random.isSome) {lb : HostedLoadBalancer}
    (listsEndpoints : lb.spec.endpoints ≠ [])
    (enough : lb.spec.ports.length ≤ (firstEndpointPorts lb).length)
    (inRange : HostnameInRange lb pass.tenant pass.config) :
    Pass.Avoids OutOfRange (balance pass lb) (fun _ => True) := by
  unfold balance
  refine Pass.avoids_bind (avoids_addCleanupFinalizer pass lb) fun updated same => ?_
  obtain ⟨sameSpec, sameHostname, sameStatus, sameAnnotations⟩ := same
  rw [firstEndpointPorts, ← sameSpec] at enough
  rw [← sameSpec] at listsEndpoints
  rw [HostnameInRange, HasHostname, ← sameSpec, ← sameHostname, ← sameStatus,
    ← sameAnnotations] at inRange
  refine Pass.avoids_bind Pass.avoids_await fun _ _ => ?_
  refine Pass.avoids_bind (avoids_reconcileService pass listsEndpoints enough _ _) fun _ _ => ?_
  refine Pass.avoids_bind (avoids_call pass _ _) fun _ _ => ?_
  refine Pass.avoids_bind (avoids_configureWantedHostname pass hasRandom inRange _ _) fun _ _ => ?_
  exact Pass.avoids_bind (avoids_call pass _ _) fun _ _ => Pass.avoids_modify

end Avoiding

theorem neverOutOfRange_of_inRange {lb : HostedLoadBalancer} {tenant : HostingTenant}
    {config : HostingConfig} (inRange : InRange lb tenant config)
    (existing : Option BalancerService) : NeverOutOfRange lb tenant config existing := by
  rintro pass state rfl rfl hasRandom isLoadBalancer - site reached run
  have avoids : (reconcile pass).Ensures state
      (Pass.either (fun _ _ => True) (fun failure _ => ¬ OutOfRange failure)) := by
    unfold reconcile
    apply Pass.ensures_bind_read
    rw [isLoadBalancer]
    dsimp only
    split
    · exact Pass.ensures_pure trivial
    · rename_i listsEndpoints
      refine Pass.avoids_bind (avoids_call pass _ _) (fun _ _ => ?_) state
      split
      · split
        · exact avoids_cleanup pass lb
        · exact Pass.avoids_pure trivial
      · rename_i notDeleting
        refine Pass.avoids_bind (avoids_call pass _ _) fun _ _ => ?_
        split
        · exact avoids_cleanup pass lb
        · split
          · exact Pass.avoids_pure trivial
          · rename_i notDisabled
            obtain ⟨enough, hostname⟩ :=
              ((inRange.resolve_left listsEndpoints).resolve_left notDeleting).resolve_left
                notDisabled
            exact avoids_balance pass hasRandom listsEndpoints enough hostname
  exact avoids.of_run run ⟨site, rfl⟩

/-! ## Passes that leave it -/

/-- A pass in which no call fails, alone in its namespace. -/
def undisturbed (lb : HostedLoadBalancer) (tenant : HostingTenant) (config : HostingConfig) :
    BalancerPass where
  tenant := tenant
  config := config
  listed := [lb.toLoadBalancer]
  sort := SliceSort.stable String
  random := some (.replicate 8 0)

def settledState (lb : HostedLoadBalancer) (existing : Option BalancerService) : State where
  loadBalancer := some lb
  service := existing
  portAllocator := filledAllocator (fun _ _ => startPort) (loadBalancerSlots lb.toLoadBalancer)

section Leaving

variable (lb : HostedLoadBalancer) (tenant : HostingTenant) (config : HostingConfig)

theorem undisturbed_tenant : (undisturbed lb tenant config).tenant = tenant := rfl

theorem undisturbed_config : (undisturbed lb tenant config).config = config := rfl

theorem returns_call (call : Call) (message : String) (state : State) :
    ((undisturbed lb tenant config).call call message).Returns state
      (fun _ reached => reached = state) :=
  ⟨⟨⟩, state, rfl, rfl⟩

theorem returns_indexed {α : Type} (site : Site) (value : α) (state : State) :
    (indexed site (some value)).Returns state (fun _ reached => reached = state) :=
  ⟨value, state, rfl, rfl⟩

theorem returns_addCleanupFinalizer (state : State) :
    (addCleanupFinalizer (undisturbed lb tenant config) lb).Returns state
      (fun updated reached => (updated.spec = lb.spec ∧ updated.hostname = lb.hostname ∧
        updated.statusHostname = lb.statusHostname ∧
        updated.metadata.annotations = lb.metadata.annotations) ∧
        reached.portAllocator = state.portAllocator) := by
  unfold addCleanupFinalizer
  split
  · exact Pass.returns_pure ⟨⟨rfl, rfl, rfl, rfl⟩, rfl⟩
  · refine Pass.returns_bind (returns_call lb tenant config _ _ state) ?_
    rintro _ _ rfl
    refine ⟨_, _, rfl, ⟨rfl, rfl, rfl, ?_⟩, rfl⟩
    simp only [removeFinalizer, addFinalizer]
    split <;> rfl

theorem returns_allocate (state : State)
    (settled : state.portAllocator =
      filledAllocator (fun _ _ => startPort) (loadBalancerSlots lb.toLoadBalancer)) :
    (Pass.await (fun state : State =>
      (state.portAllocator.allocatePortsForLoadBalancers (undisturbed lb tenant config).listed
        (undisturbed lb tenant config).draws).map
        (fun allocated => (PUnit.unit, { state with portAllocator := allocated.1 }))) :
      Balance PUnit).Returns state (fun _ _ => True) := by
  have agree : SlotsAgree (loadBalancerSlots lb.toLoadBalancer) := by
    apply slotsAgree_of_nodup
    rw [loadBalancerSlots_keys]
    exact List.nodup_range.map fun _ _ same => (envoyEndpointPattern_injective same).2
  obtain ⟨allocated, isAllocated, -⟩ := allocateSlots_filled (fun _ _ => (startPort : Int)) agree
    (undisturbed lb tenant config).draws
  refine ⟨⟨⟩, { state with portAllocator := allocated }, ?_, trivial⟩
  simp only [Pass.await, settled, PortAllocator.allocatePortsForLoadBalancers, undisturbed,
    List.flatMap_singleton] at isAllocated ⊢
  rw [isAllocated]
  rfl

theorem reconcileService_failsWith {updated : HostedLoadBalancer}
    {endpoint : LoadBalancerEndpoints} {others : List LoadBalancerEndpoints}
    (isEndpoints : updated.spec.endpoints = endpoint :: others)
    (missing : endpoint.ports.length < updated.spec.ports.length) (className : Option String)
    (annotations : AnnotationSettings) (state : State) :
    (reconcileService (undisturbed lb tenant config) updated className annotations).FailsWith state
      (.outOfRange .createServicePorts) := by
  unfold reconcileService
  refine Pass.failsWith_bind (returns_call lb tenant config _ _ state) ?_
  rintro _ _ rfl
  apply Pass.failsWith_bind_read
  apply Pass.failsWith_bind_read
  apply Pass.failsWith_bind_left
  rw [createServicePorts_of_missing _ updated.toLoadBalancer _ _ isEndpoints missing]
  exact Pass.failsWith_fail

theorem returns_reconcileService {updated : HostedLoadBalancer} (noPorts : updated.spec.ports = [])
    (className : Option String) (annotations : AnnotationSettings) (state : State) :
    (reconcileService (undisturbed lb tenant config) updated className annotations).Returns state
      (fun _ _ => True) := by
  have created (existing : Service) (pa : PortAllocator) :
      createServicePorts (undisturbed lb tenant config).sort updated.toLoadBalancer existing pa =
        some [] := by
    unfold createServicePorts
    split
    · rfl
    · rw [noPorts]
      rfl
  unfold reconcileService
  refine Pass.returns_bind (returns_call lb tenant config _ _ state) ?_
  rintro _ _ rfl
  apply Pass.returns_bind_read
  apply Pass.returns_bind_read
  rw [created]
  refine Pass.returns_bind (returns_indexed _ _ _) ?_
  rintro ports _ rfl
  split
  · exact ⟨_, _, rfl, trivial⟩
  · dsimp only
    split
    · exact ⟨_, _, rfl, trivial⟩
    · exact ⟨_, _, rfl, trivial⟩

theorem returns_chooseHostname {updated : HostedLoadBalancer}
    (hasHostname : HasHostname updated tenant config) (state : State) :
    (chooseHostname (undisturbed lb tenant config) updated).Returns state
      (fun chosen _ => chosen.1 ≠ "" ∧ chosen.2.spec = updated.spec) := by
  unfold chooseHostname
  dsimp only
  split
  · rename_i isSet
    exact Pass.returns_pure ⟨isSet, rfl⟩
  · rename_i notSet
    have isNew := (newHostname_ne_empty_iff (undisturbed lb tenant config) rfl updated).mpr
      (hasHostname.resolve_left notSet)
    rw [if_neg isNew]
    exact ⟨_, _, rfl, isNew, rfl⟩

theorem returns_addHostnameFinalizer (updated : HostedLoadBalancer) (state : State) :
    (addHostnameFinalizer (undisturbed lb tenant config) updated).Returns state
      (fun next _ => next.spec = updated.spec) := by
  unfold addHostnameFinalizer
  split
  · exact Pass.returns_pure rfl
  · exact ⟨_, _, rfl, rfl⟩

theorem configureHostname_failsWith {updated : HostedLoadBalancer}
    (noPorts : updated.spec.ports = []) (hasHostname : HasHostname updated tenant config)
    (hasGateway : useGatewayAPI tenant config = true → defaultGateway tenant config ≠ none)
    (svcName : String) (annotations : AnnotationSettings) (state : State) :
    ∃ site, (configureHostname (undisturbed lb tenant config) updated svcName
      annotations).FailsWith state (.outOfRange site) := by
  have outOfRange (site : Site) {next : HostedLoadBalancer} (same : next.spec = updated.spec)
      (reached : State) :
      (indexed site next.spec.ports.head?).FailsWith reached (.outOfRange site) := by
    rw [same, noPorts]
    exact Pass.failsWith_fail
  unfold configureHostname
  by_cases gatewayAPI : useGatewayAPI tenant config = true
  · refine ⟨.createHTTPRouteForHostname, Pass.failsWith_bind
      (returns_chooseHostname lb tenant config hasHostname state) fun chosen reached facts => ?_⟩
    rw [if_neg facts.1]
    refine Pass.failsWith_bind (returns_addHostnameFinalizer lb tenant config chosen.2 reached)
      fun next last same => ?_
    simp only [undisturbed_tenant, undisturbed_config, gatewayAPI, reduceIte]
    apply Pass.failsWith_bind_left
    unfold createHTTPRouteForHostname
    split
    · rename_i noGateway
      exact absurd noGateway (hasGateway gatewayAPI)
    · exact Pass.failsWith_bind_left (outOfRange _ (same.trans facts.2) last)
  · refine ⟨.createIngressForHostname, Pass.failsWith_bind
      (returns_chooseHostname lb tenant config hasHostname state) fun chosen reached facts => ?_⟩
    rw [if_neg facts.1]
    refine Pass.failsWith_bind (returns_addHostnameFinalizer lb tenant config chosen.2 reached)
      fun next last same => ?_
    simp only [undisturbed_tenant, undisturbed_config, gatewayAPI, Bool.false_eq_true,
      reduceIte]
    apply Pass.failsWith_bind_left
    exact Pass.failsWith_bind_left (outOfRange _ (same.trans facts.2) last)

theorem balance_failsWith (listsEndpoints : lb.spec.endpoints ≠ [])
    (outside : ¬ (lb.spec.ports.length ≤ (firstEndpointPorts lb).length ∧
      HostnameInRange lb tenant config)) (state : State)
    (settled : state.portAllocator =
      filledAllocator (fun _ _ => startPort) (loadBalancerSlots lb.toLoadBalancer)) :
    ∃ site, (balance (undisturbed lb tenant config) lb).FailsWith state (.outOfRange site) := by
  obtain ⟨endpoint, others, isEndpoints⟩ := List.exists_cons_of_ne_nil listsEndpoints
  have firstPorts : firstEndpointPorts lb = endpoint.ports := by
    rw [firstEndpointPorts, isEndpoints]
    rfl
  by_cases enough : lb.spec.ports.length ≤ (firstEndpointPorts lb).length
  · -- The Service is written, and the hostname resource lacks its port.
    rw [not_and, HostnameInRange, Classical.not_imp, Classical.not_imp, not_or, not_not,
      not_and] at outside
    obtain ⟨configures, hasHostname, noPorts, hasGateway⟩ := outside enough
    obtain ⟨updated, reached, added, ⟨sameSpec, sameHostname, sameStatus, sameAnnotations⟩, kept⟩ :=
      returns_addCleanupFinalizer lb tenant config state
    rw [← sameSpec] at noPorts
    rw [← sameHostname, ← sameAnnotations] at configures
    rw [HasHostname, ← sameHostname, ← sameStatus] at hasHostname
    obtain ⟨_, allocated, allocates, -⟩ :=
      returns_allocate lb tenant config reached (kept.trans settled)
    obtain ⟨_, written, writes, -⟩ := returns_reconcileService lb tenant config noPorts
      (tenant.classes.loadBalancerClass.or config.classes.loadBalancerClass)
      (getAnnotations tenant.toTenant config.toConfig) allocated
    obtain ⟨site, fails⟩ := configureHostname_failsWith lb tenant config noPorts hasHostname
      hasGateway (envoyResourceName updated.metadata.name)
      (getAnnotations tenant.toTenant config.toConfig) written
    refine ⟨site, ?_⟩
    unfold balance
    refine Pass.failsWith_bind_of_run added (Pass.failsWith_bind_of_run allocates
      (Pass.failsWith_bind_of_run writes ?_))
    refine Pass.failsWith_bind (returns_call lb tenant config _ _ written) ?_
    rintro _ _ rfl
    apply Pass.failsWith_bind_left
    simp only [configureWantedHostname, undisturbed_tenant, undisturbed_config, configures,
      reduceIte]
    exact fails
  · rw [firstPorts, not_le] at enough
    refine ⟨.createServicePorts, ?_⟩
    unfold balance
    refine Pass.failsWith_bind (returns_addCleanupFinalizer lb tenant config state)
      fun updated reached facts => ?_
    refine Pass.failsWith_bind (returns_allocate lb tenant config reached
      (facts.2.trans settled)) fun _ last _ => ?_
    apply Pass.failsWith_bind_left
    rw [← facts.1.1] at isEndpoints enough
    exact reconcileService_failsWith lb tenant config isEndpoints enough _ _ last

theorem reconcile_failsWith (outside : ¬ InRange lb tenant config)
    (existing : Option BalancerService) :
    ∃ site, (reconcile (undisturbed lb tenant config)).FailsWith (settledState lb existing)
      (.outOfRange site) := by
  rw [InRange, not_or, not_or, not_or] at outside
  obtain ⟨listsEndpoints, notDeleting, enabled, outside⟩ := outside
  obtain ⟨site, fails⟩ := balance_failsWith lb tenant config listsEndpoints outside
    (settledState lb existing) rfl
  refine ⟨site, ?_⟩
  unfold reconcile
  apply Pass.failsWith_bind_read
  dsimp only [settledState]
  rw [if_neg listsEndpoints]
  refine Pass.failsWith_bind (returns_call lb tenant config _ _ _) ?_
  rintro _ _ rfl
  rw [if_neg notDeleting]
  refine Pass.failsWith_bind (returns_call lb tenant config _ _ _) ?_
  rintro _ _ rfl
  simp only [undisturbed_tenant, undisturbed_config, enabled, Bool.false_eq_true,
    and_false, reduceIte]
  exact fails

end Leaving

/-- No pass indexes a slice out of range exactly when the pass ends before the Service, or
the first endpoint has at least as many ports as the specification and a hostname resource
finds a first port. -/
theorem neverOutOfRange_iff (lb : HostedLoadBalancer) (tenant : HostingTenant)
    (config : HostingConfig) (existing : Option BalancerService) :
    NeverOutOfRange lb tenant config existing ↔ InRange lb tenant config := by
  refine ⟨fun never => ?_, fun inRange => neverOutOfRange_of_inRange inRange existing⟩
  by_contra outside
  obtain ⟨site, reached, run⟩ := reconcile_failsWith lb tenant config outside existing
  exact never _ _ rfl rfl rfl rfl rfl site reached run

/-! ## A LoadBalancer that stops the pass -/

def twoPortsOneEndpointPort : HostedLoadBalancer where
  metadata := { name := "lb", ns := "tenant-a" }
  spec :=
    { endpoints :=
        [{ addresses := [{ ip := "10.0.0.1" }], ports := [{ name := "http", port := 30080 }] }]
      ports := [{ name := "http", port := 80 }, { name := "https", port := 443 }] }

def plainTenant : HostingTenant where
  dns := { wildcardDomain := none, allowExplicitHostnames := none }

def plainConfig : HostingConfig where
  dns := { wildcardDomain := [], allowExplicitHostnames := false }

/-- The CRD admits the LoadBalancer, and its first pass panics in `CreateServicePorts`. -/
theorem two_ports_one_endpoint_port_panics :
    twoPortsOneEndpointPort.spec.endpoints ≠ [] ∧
      (reconcile (undisturbed twoPortsOneEndpointPort plainTenant plainConfig)).FailsWith
        (settledState twoPortsOneEndpointPort none) (.outOfRange .createServicePorts) := by
  refine ⟨by decide, ?_⟩
  have evaluated : ((reconcile (undisturbed twoPortsOneEndpointPort plainTenant plainConfig))
      (settledState twoPortsOneEndpointPort none)).map (fun result =>
        match result.1 with
        | .ok _ => none
        | .error failure => some failure) =
      some (some (.outOfRange .createServicePorts)) := by decide +kernel
  obtain ⟨⟨outcome, reached⟩, run, isFailure⟩ := Option.map_eq_some_iff.mp evaluated
  cases outcome with
  | ok value => cases isFailure
  | error failure =>
      cases isFailure
      exact ⟨reached, run⟩

end KubeLB.Controllers.Balancing
