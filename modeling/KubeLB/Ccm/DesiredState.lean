import KubeLB.Ccm.ServiceReconciler
import KubeLB.Envoy.Published
import KubeLB.LoadBalancers.ServicePorts

/-!
Contract: what `LoadBalancerIsDesiredState` tells about a LoadBalancer.

Owns: objects whose annotations may be a nil map, the resources that two readers make of a
LoadBalancer, and when the check accepts exactly the LoadBalancers of which they make the
same.

Does not own: the status of a LoadBalancer, which neither reader uses.
-/

set_option autoImplicit false

namespace KubeLB.Ccm

open KubeLB.Library KubeLB.Core KubeLB.V1Alpha1 KubeLB.Naming KubeLB.Controllers
  KubeLB.LoadBalancers KubeLB.PortLookup KubeLB.Envoy

/-! ## Nil maps -/

/-- An object as the program holds it: with no annotations, its map is empty or nil. -/
structure Held {Object : Type} (metadata : Object → ObjectMeta) where
  object : Object
  annotations : Option StringMap
  same : annotations.getD ∅ = (metadata object).annotations

def Held.read {Object : Type} (metadata : Object → ObjectMeta) (object : Object) :
    Held metadata where
  object := object
  annotations := readAnnotations (metadata object).annotations
  same := getD_readAnnotations _

abbrev HeldMirror := Held Mirror.metadata
abbrev HeldService := Held (fun service : TenantService => service.metadata)

/-- `MapLoadBalancer`. A nil map stays nil. -/
def HeldService.mapLoadBalancer (userService : HeldService)
    (clusterEndpoints : List EndpointAddress) (useAddressesReference : Bool)
    (clusterName : String) : HeldMirror where
  object := Ccm.mapLoadBalancer userService.object clusterEndpoints useAddressesReference
    clusterName
  annotations := userService.annotations.map (·.erase lastAppliedConfigAnnotation)
  same := by
    have same := userService.same
    cases isHeld : userService.annotations with
    | none =>
        rw [isHeld, Option.getD_none] at same
        simp only [Ccm.mapLoadBalancer, ← same]
        decide
    | some annotations =>
        rw [isHeld, Option.getD_some] at same
        simp only [Ccm.mapLoadBalancer, ← same]
        rfl

/-- `LoadBalancerIsDesiredState`. -/
def HeldMirror.isDesiredState (actual desired : HeldMirror) : Bool :=
  specIsDesiredState actual.object.spec desired.object.spec &&
    compareAnnotations actual.annotations desired.annotations

/-- Annotations that differ at most in the one of kubectl. -/
def SameAnnotations (left right : ObjectMeta) : Prop :=
  left.annotations.erase lastAppliedConfigAnnotation =
    right.annotations.erase lastAppliedConfigAnnotation

theorem isDesiredState_iff {actual desired : HeldMirror} :
    actual.isDesiredState desired = true ↔
      SpecAgrees actual.object.spec desired.object.spec ∧
        (actual.annotations = none ↔ desired.annotations = none) ∧
        SameAnnotations actual.object.metadata desired.object.metadata := by
  rw [HeldMirror.isDesiredState, Bool.and_eq_true, specIsDesiredState_iff,
    compareAnnotations_iff, actual.same, desired.same, SameAnnotations]

/-! ## The two readers -/

def Mirror.loadBalancer (mirror : Mirror) : LoadBalancer where
  metadata := mirror.metadata
  spec := mirror.spec.toLoadBalancerSpec

def Mirror.replaced (actual desired : Mirror) : Mirror :=
  { actual with
    metadata := { actual.metadata with annotations := desired.metadata.annotations }
    spec := desired.spec }

/-- Replacing the LoadBalancer changes neither its Service ports nor the snapshots. -/
structure Unchanged (actual desired : Mirror) : Prop where
  ports : ∀ sort existingService pa,
    createServicePorts sort actual.loadBalancer existingService pa =
      createServicePorts sort (actual.replaced desired).loadBalancer existingService pa
  resources : ∀ client before after routes pa headerLimits sort codec,
    mapSnapshot client (before ++ actual.loadBalancer :: after) routes pa headerLimits sort codec =
      mapSnapshot client (before ++ (actual.replaced desired).loadBalancer :: after) routes pa
        headerLimits sort codec

/-- The check accepts only LoadBalancers that need no update, and all that have the desired
content. -/
structure CheckExact (actual desired : HeldMirror) : Prop where
  sound : actual.isDesiredState desired = true → Unchanged actual.object desired.object
  complete : actual.object.spec = desired.object.spec →
    SameAnnotations actual.object.metadata desired.object.metadata →
    actual.isDesiredState desired = true

/-! ## What the readers see beyond the check -/

def MirrorSpec.resolvedPorts (spec : MirrorSpec) : List (LoadBalancerPort × Int32) :=
  match spec.endpoints with
  | [] => []
  | endpoint :: _ => LoadBalancers.resolvedPorts spec.ports endpoint.ports

/-- Port names and address references give the same. Under different names the Service ports
are still the same when they are the same up to their order and have a name each. -/
structure ReadAlike (actual desired : MirrorSpec) : Prop where
  references : actual.endpoints.map (·.addressesReference) =
    desired.endpoints.map (·.addressesReference)
  ports : actual.resolvedPorts = desired.resolvedPorts ∨
    actual.resolvedPorts.Perm desired.resolvedPorts ∧
      AgreeByKey (fun entry => entry.1.name) desired.resolvedPorts

section Ports

variable {left right : List (LoadBalancerPort × Int32)}

theorem run_resolvedServicePort_congr
    (alike : left = right ∨ left.Perm right ∧ AgreeByKey (fun entry => entry.1.name) right)
    (sort : SliceSort String) (pa : PortAllocator) (ns name : String)
    (existingService : Service) :
    sort.run Core.ServicePort.name (left.map (resolvedServicePort pa ns name existingService)) =
      sort.run Core.ServicePort.name
        (right.map (resolvedServicePort pa ns name existingService)) := by
  rcases alike with rfl | ⟨perm, agree⟩
  · rfl
  · refine sort.run_eq_of_perm ?_ (perm.map _)
    intro port isPort other isOther sameName
    obtain ⟨entry, isEntry, rfl⟩ := List.mem_map.mp isPort
    obtain ⟨another, isAnother, rfl⟩ := List.mem_map.mp isOther
    rw [agree entry isEntry another isAnother sameName]

def noService : Service where
  metadata := { name := "", ns := "" }

theorem resolvedServicePort_injective (ns name : String) :
    Function.Injective (resolvedServicePort newPortAllocator ns name noService) := by
  rintro ⟨lbPort, resolved⟩ ⟨other, another⟩ same
  have unallocated (endpointKey portKey : String) :
      newPortAllocator.lookup endpointKey portKey = none := rfl
  simp only [resolvedServicePort, unallocated, Core.ServicePort.mk.injEq] at same
  obtain ⟨sameName, sameProtocol, samePort, sameTarget, -⟩ := same
  have sameNumber : resolved = another := by
    simpa [IntOrString.fromInt, Int32.toInt_inj] using sameTarget
  cases lbPort
  cases other
  simp_all

theorem alike_of_run_eq (ns name : String)
    (same : ∀ sort : SliceSort String,
      sort.run Core.ServicePort.name
          (left.map (resolvedServicePort newPortAllocator ns name noService)) =
        sort.run Core.ServicePort.name
          (right.map (resolvedServicePort newPortAllocator ns name noService))) :
    left = right ∨ left.Perm right ∧ AgreeByKey (fun entry => entry.1.name) right := by
  have injective := resolvedServicePort_injective ns name
  have perm : (left.map (resolvedServicePort newPortAllocator ns name noService)).Perm
      (right.map (resolvedServicePort newPortAllocator ns name noService)) := by
    have sorted := (SliceSort.stable String).perm Core.ServicePort.name
      (left.map (resolvedServicePort newPortAllocator ns name noService))
    rw [same] at sorted
    exact sorted.symm.trans ((SliceSort.stable String).perm _ _)
  rcases agreeByKey_or_eq_of_run_eq perm same with agree | equal
  · refine Or.inr ⟨(List.map_perm_map_iff injective).mp perm, ?_⟩
    intro entry isEntry other isOther sameName
    exact injective (agree _ (List.mem_map_of_mem isEntry) _ (List.mem_map_of_mem isOther) sameName)
  · exact Or.inl (List.map_injective_iff.mpr injective equal)

end Ports

section Exact

/-- The specification for a Service has one endpoint, with a port for each spec port. -/
structure OneEndpoint (spec : MirrorSpec) (endpoint : LoadBalancerEndpoints) : Prop where
  endpoints : spec.endpoints = [endpoint]
  enough : spec.ports.length = endpoint.ports.length

theorem SpecAgrees.oneEndpoint {actual desired : MirrorSpec} {endpoint : LoadBalancerEndpoints}
    (agrees : SpecAgrees actual desired) (one : OneEndpoint desired endpoint) :
    ∃ found, OneEndpoint actual found ∧ EndpointAgrees found endpoint := by
  have endpoints := agrees.endpoints
  rw [one.endpoints, List.forall₂_cons_right_iff] at endpoints
  obtain ⟨found, others, agree, noOthers, isEndpoints⟩ := endpoints
  rw [List.forall₂_nil_right_iff.mp noOthers] at isEndpoints
  refine ⟨found, ⟨isEndpoints, ?_⟩, agree⟩
  rw [agrees.ports.length_eq, one.enough, agree.ports.length_eq]

theorem SpecAgrees.refl (spec : MirrorSpec) : SpecAgrees spec spec where
  type := rfl
  externalTrafficPolicy := rfl
  persistence := rfl
  ports := List.forall₂_same.mpr (fun _ _ => ⟨rfl, rfl⟩)
  endpoints := List.forall₂_same.mpr (fun _ _ =>
    ⟨rfl, List.forall₂_same.mpr (fun _ _ => ⟨rfl, rfl⟩)⟩)

variable {actual desired : Mirror} {endpoint : LoadBalancerEndpoints}

theorem createServicePorts_of_oneEndpoint {mirror : Mirror}
    (one : OneEndpoint mirror.spec endpoint)
    (sort : SliceSort String) (existingService : Service) (pa : PortAllocator) :
    createServicePorts sort mirror.loadBalancer existingService pa =
      some (sort.run Core.ServicePort.name (mirror.spec.resolvedPorts.map
        (resolvedServicePort pa mirror.metadata.ns mirror.metadata.name existingService))) := by
  rw [createServicePorts_eq_map sort mirror.loadBalancer existingService pa one.endpoints
    one.enough.le, MirrorSpec.resolvedPorts, one.endpoints]
  rfl

theorem SameAnnotations.get_eq {left right : ObjectMeta} (same : SameAnnotations left right)
    {key : String} (notLastApplied : key ≠ lastAppliedConfigAnnotation) :
    left.annotations.get key = right.annotations.get key := by
  rw [StringMap.get, StringMap.get, ← Finmap.lookup_erase_ne notLastApplied, same,
    Finmap.lookup_erase_ne notLastApplied]

theorem unchanged_of_readAlike (one : OneEndpoint desired.spec endpoint)
    (agrees : SpecAgrees actual.spec desired.spec)
    (sameAnnotations : SameAnnotations actual.metadata desired.metadata)
    (alike : ReadAlike actual.spec desired.spec) : Unchanged actual desired := by
  obtain ⟨found, oneFound, agree⟩ := agrees.oneEndpoint one
  refine ⟨?_, ?_⟩
  · intro sort existingService pa
    have replaced : OneEndpoint (actual.replaced desired).spec endpoint := one
    rw [createServicePorts_of_oneEndpoint oneFound, createServicePorts_of_oneEndpoint replaced,
      run_resolvedServicePort_congr alike.ports]
    rfl
  · refine mapSnapshot_congr ⟨rfl, rfl, agrees.persistence, ?_, ?_⟩
    · exact sameAnnotations.get_eq (by decide)
    · have sameReference := alike.references
      rw [oneFound.endpoints, one.endpoints] at sameReference
      change List.Forall₂ EndpointAlike actual.spec.endpoints desired.spec.endpoints
      rw [oneFound.endpoints, one.endpoints]
      exact .cons ⟨agree.addresses, List.head_eq_of_cons_eq sameReference, agree.ports⟩ .nil

def unreadable (name : String) : AddressesClient := fun _ searched =>
  if searched = name then .error ⟨"unreadable"⟩ else .ok []

def silentCodec : ResourceCodec where
  marshalResource _ := .ok []
  hashResource _ := ""

theorem mapSnapshot_unreadable {mirror : Mirror} (one : OneEndpoint mirror.spec endpoint)
    (name : String) :
    (∃ snapshot, mapSnapshot (unreadable name) [mirror.loadBalancer] [] newPortAllocator {}
      (SliceSort.stable String) silentCodec = .ok snapshot) ↔
      endpoint.addressesReference ≠ some name := by
  constructor
  · rintro ⟨snapshot, isSnapshot⟩ isReference
    simp [mapSnapshot, buildResources, mapLoadBalancers, Mirror.loadBalancer, one.endpoints,
      resolveRouteAddresses, resolveAddresses, isReference, unreadable] at isSnapshot
  · intro other
    have readable : ∀ lb ∈ [mirror.loadBalancer], ∀ endpoint ∈ lb.spec.endpoints,
        Readable (unreadable name) lb.metadata.ns endpoint := by
      intro lb isLB found isFound searched isReference
      rw [List.mem_singleton] at isLB
      subst isLB
      have isEndpoint : found = endpoint := by
        rw [show mirror.loadBalancer.spec.endpoints = [endpoint] from one.endpoints] at isFound
        exact List.mem_singleton.mp isFound
      have notName : searched ≠ name := by
        rintro rfl
        exact other (isEndpoint ▸ isReference)
      exact ⟨[], if_neg notName⟩
    obtain ⟨built, isBuilt⟩ := buildResources_of_readable readable
      (fun _ isRoute => absurd isRoute List.not_mem_nil) newPortAllocator {}
    exact mapSnapshot_of_built isBuilt _ (fun _ => ⟨_, rfl⟩)

theorem readAlike_of_unchanged (one : OneEndpoint desired.spec endpoint)
    (agrees : SpecAgrees actual.spec desired.spec) (unchanged : Unchanged actual desired) :
    ReadAlike actual.spec desired.spec := by
  obtain ⟨found, oneFound, agree⟩ := agrees.oneEndpoint one
  have replaced : OneEndpoint (actual.replaced desired).spec endpoint := one
  refine ⟨?_, ?_⟩
  · have sameReference : found.addressesReference = endpoint.addressesReference := by
      apply Option.ext
      intro name
      have same := unchanged.resources (unreadable name) [] [] [] newPortAllocator {}
        (SliceSort.stable String) silentCodec
      have told := mapSnapshot_unreadable oneFound name
      rw [show [actual.loadBalancer] = [] ++ actual.loadBalancer :: [] from rfl, same,
        List.nil_append, mapSnapshot_unreadable replaced name] at told
      exact not_iff_not.mp told.symm
    rw [oneFound.endpoints, one.endpoints]
    exact congrArg (fun reference => [reference]) sameReference
  · refine alike_of_run_eq actual.metadata.ns actual.metadata.name ?_
    intro sort
    have same := unchanged.ports sort noService newPortAllocator
    rw [createServicePorts_of_oneEndpoint oneFound, createServicePorts_of_oneEndpoint replaced,
      Option.some.injEq] at same
    exact same

end Exact

/-- `LoadBalancerIsDesiredState` is exact when a LoadBalancer that agrees with the desired one
in the compared fields and in the annotations also has its port names and address references,
and a LoadBalancer of the desired content has a nil annotation map exactly when the Service
has. -/
theorem isDesiredState_exact_iff (userService : HeldService)
    (clusterEndpoints : List EndpointAddress) (useAddressesReference : Bool)
    (clusterName : String) (actual : HeldMirror) :
    CheckExact actual
        (userService.mapLoadBalancer clusterEndpoints useAddressesReference clusterName) ↔
      (SpecAgrees actual.object.spec
          (mapLoadBalancer userService.object clusterEndpoints useAddressesReference
            clusterName).spec →
        SameAnnotations actual.object.metadata
          (mapLoadBalancer userService.object clusterEndpoints useAddressesReference
            clusterName).metadata →
        (actual.annotations = none ↔ userService.annotations = none) →
        ReadAlike actual.object.spec
          (mapLoadBalancer userService.object clusterEndpoints useAddressesReference
            clusterName).spec) ∧
      (actual.object.spec =
          (mapLoadBalancer userService.object clusterEndpoints useAddressesReference
            clusterName).spec →
        SameAnnotations actual.object.metadata
          (mapLoadBalancer userService.object clusterEndpoints useAddressesReference
            clusterName).metadata →
        (actual.annotations = none ↔ userService.annotations = none)) := by
  have one : OneEndpoint (userService.mapLoadBalancer clusterEndpoints useAddressesReference
      clusterName).object.spec _ := ⟨rfl, by simp [HeldService.mapLoadBalancer, mapLoadBalancer]⟩
  have sameNil : (userService.mapLoadBalancer clusterEndpoints useAddressesReference
      clusterName).annotations = none ↔ userService.annotations = none := Option.map_eq_none_iff
  constructor
  · intro checks
    refine ⟨?_, ?_⟩
    · intro agrees sameAnnotations nilAlike
      have accepted := isDesiredState_iff.mpr ⟨agrees, nilAlike.trans sameNil.symm, sameAnnotations⟩
      exact readAlike_of_unchanged one agrees (checks.sound accepted)
    · intro sameSpec sameAnnotations
      rw [← sameNil]
      exact (isDesiredState_iff.mp (checks.complete sameSpec sameAnnotations)).2.1
  · rintro ⟨readAlike, nilAlike⟩
    refine ⟨?_, ?_⟩
    · intro accepted
      obtain ⟨agrees, nilAlike, sameAnnotations⟩ := isDesiredState_iff.mp accepted
      exact unchanged_of_readAlike one agrees sameAnnotations
        (readAlike agrees sameAnnotations (nilAlike.trans sameNil))
    · intro sameSpec sameAnnotations
      refine isDesiredState_iff.mpr ⟨?_, ?_, sameAnnotations⟩
      · rw [sameSpec]
        exact SpecAgrees.refl _
      · rw [sameNil]
        exact nilAlike sameSpec sameAnnotations

/-! ## Accepted and refused LoadBalancers -/

def namedWebService (portName : String) : TenantService where
  metadata := { name := "web", ns := "default", uid := "u1" }
  spec :=
    { type := .loadBalancer
      ports := [{ name := portName, port := 80, nodePort := 30080 }] }

def appliedWebService : TenantService where
  metadata :=
    { name := "web"
      ns := "default"
      uid := "u1"
      annotations := Finmap.singleton lastAppliedConfigAnnotation "\x7b\x7d" }
  spec := { type := .loadBalancer }

def desiredWeb (service : TenantService) (useAddressesReference : Bool) : HeldMirror :=
  HeldService.mapLoadBalancer (Held.read _ service) [] useAddressesReference "tenant-a"

/-- A renamed port and a change to referenced addresses go unnoticed, and a LoadBalancer of the
desired content is refused when the Service has no annotation but kubectl's. -/
theorem desired_state_check_inexact :
    (desiredWeb (namedWebService "http") false).isDesiredState
        (desiredWeb (namedWebService "web") false) = true ∧
      createServicePorts (SliceSort.stable String)
          (desiredWeb (namedWebService "http") false).object.loadBalancer noService
          newPortAllocator ≠
        createServicePorts (SliceSort.stable String)
          ((desiredWeb (namedWebService "http") false).object.replaced
            (desiredWeb (namedWebService "web") false).object).loadBalancer noService
          newPortAllocator ∧
      (desiredWeb (namedWebService "web") false).isDesiredState
        (desiredWeb (namedWebService "web") true) = true ∧
      ¬ Unchanged (desiredWeb (namedWebService "web") false).object
        (desiredWeb (namedWebService "web") true).object ∧
      HeldMirror.isDesiredState (Held.read _ (desiredWeb appliedWebService false).object)
        (desiredWeb appliedWebService false) = false := by
  refine ⟨by decide +kernel, by decide +kernel, by decide +kernel, ?_, by decide +kernel⟩
  intro unchanged
  have one : OneEndpoint (desiredWeb (namedWebService "web") true).object.spec _ := ⟨rfl, rfl⟩
  have agrees : SpecAgrees (desiredWeb (namedWebService "web") false).object.spec
      (desiredWeb (namedWebService "web") true).object.spec :=
    specIsDesiredState_iff.mp (by decide +kernel)
  have sameReferences := (readAlike_of_unchanged one agrees unchanged).references
  exact absurd sameReferences (by decide +kernel)

end KubeLB.Ccm
