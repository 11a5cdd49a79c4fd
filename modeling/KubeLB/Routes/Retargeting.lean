import KubeLB.Controllers.RouteResource
import KubeLB.Resources.Service
import KubeLB.Resources.ServiceReferences

/-!
Contract: the HTTPRoute and GRPCRoute that the management cluster serves for a Route.

Owns: `RetargetBackendRefToGeneratedService`, its loops over rules, backends and
filters, the objects of `CreateOrUpdateHTTPRoute` and `CreateOrUpdateGRPCRoute`, the
list of services that `manageRoutes` hands to them, and when every reference ends at
the Service that was generated for its own one.

Does not own: how the objects are written to the API server.
-/

set_option autoImplicit false

namespace KubeLB.Routes

open KubeLB.Library KubeLB.Core KubeLB.V1Alpha1 KubeLB.GatewayApi KubeLB.Naming
  KubeLB.Resources KubeLB.Controllers

/-! ## References inside rules -/

/-- The request mirror of a kind of filters, to read and to replace. -/
structure MirrorField (φ : Type) where
  get : φ → Option HTTPRequestMirrorFilter
  set : φ → HTTPRequestMirrorFilter → φ
  get_set : ∀ filter mirror, get (set filter mirror) = some mirror

def httpMirror : MirrorField HTTPRouteFilter where
  get := HTTPRouteFilter.requestMirror
  set filter mirror := { filter with requestMirror := some mirror }
  get_set _ _ := rfl

def grpcMirror : MirrorField GRPCRouteFilter where
  get := GRPCRouteFilter.requestMirror
  set filter mirror := { filter with requestMirror := some mirror }
  get_set _ _ := rfl

section References

variable {μ φ : Type} (field : MirrorField φ)
  (rewrite : BackendObjectReference → BackendObjectReference)

def mapFilterReference (filter : φ) : φ :=
  match field.get filter with
  | some mirror => field.set filter { mirror with backendRef := rewrite mirror.backendRef }
  | none => filter

/-- The loops over one rule: its filters, its backends, and the filters of these. -/
def mapRuleReferences (rule : RouteRule μ φ) : RouteRule μ φ :=
  { rule with
    filters := rule.filters.map (mapFilterReference field rewrite)
    backendRefs := rule.backendRefs.map (fun ref =>
      { toBackendObjectReference := rewrite ref.toBackendObjectReference
        filters := ref.filters.map (mapFilterReference field rewrite) }) }

theorem mirrorReferences_map (filters : List φ) :
    mirrorReferences field.get (filters.map (mapFilterReference field rewrite)) =
      (mirrorReferences field.get filters).map rewrite := by
  unfold mirrorReferences
  rw [List.filterMap_map, List.map_filterMap]
  congr 1
  funext filter
  simp only [Function.comp, mapFilterReference]
  cases mirrored : field.get filter with
  | none => simp [mirrored]
  | some mirror => simp [field.get_set]

/-- The loops reach every reference of the rule once. -/
theorem ruleReferences_map (rule : RouteRule μ φ) :
    ruleReferences field.get (mapRuleReferences field rewrite rule) =
      (ruleReferences field.get rule).map rewrite := by
  simp only [ruleReferences, mapRuleReferences, List.map_append, mirrorReferences_map,
    List.flatMap_map, List.map_flatMap, List.map_cons]

/-- The references of a specification in the order of the loops. -/
def specReferences (spec : RouteSpec μ φ) : List BackendObjectReference :=
  spec.rules.flatMap (ruleReferences field.get)

end References

/-! ## Retargeting -/

/-- The test of one round of the loop over the services. -/
def serviceMatches (ref : BackendObjectReference) (service : ObjectMeta) : Bool :=
  decide (ref.name = service.name) && decide (ref.ns = none ∨ ref.ns = some service.ns)

/-- `RetargetBackendRefToGeneratedService`. The first service that matches wins; without
one the reference stays as it is. -/
def retargetBackendRefToGeneratedService (referencedServices : List ObjectMeta)
    (routeName : String) (ref : BackendObjectReference) : BackendObjectReference :=
  match referencedServices.find? (serviceMatches ref) with
  | some service =>
      { ref with
        name := generateRouteServiceName routeName service.name service.ns
        ns := none }
  | none => ref

/-- The retargeting with the test of the kind in front of each call. -/
def retargetReference (referencedServices : List ObjectMeta) (routeName : String)
    (ref : BackendObjectReference) : BackendObjectReference :=
  if IsServiceReference ref then
    retargetBackendRefToGeneratedService referencedServices routeName ref
  else ref

def normalizeParentRefs (parentRefs : List ParentReference) : List ParentReference :=
  parentRefs.map (fun parentRef => { parentRef with ns := none })

/-- The specification that the two helpers write. -/
def retargetSpec {μ φ : Type} (field : MirrorField φ) (referencedServices : List ObjectMeta)
    (routeName : String) (spec : RouteSpec μ φ) : RouteSpec μ φ :=
  { spec with
    rules := spec.rules.map
      (mapRuleReferences field (retargetReference referencedServices routeName))
    parentRefs := normalizeParentRefs spec.parentRefs }

/-- The metadata that the two helpers write. -/
def generatedMetadata (resource : AnnotatedResource) (metadata : ObjectMeta) (ns : String)
    (annotations : AnnotationSettings) : ObjectMeta :=
  { metadata with
    name := generateName metadata.name metadata.ns
    ns := ns
    uid := ""
    labels := addKubeLBLabels metadata.labels metadata.name metadata.ns
    annotations := propagateAnnotations metadata.annotations annotations resource }

/-- It is the metadata under which the Route reconciler stores the resource. -/
theorem desiredResource_metadata (pass : RoutePass) {kind : ObjectKind} (source : Unstructured)
    (ns : String) (annotations : AnnotationSettings) (notGateway : kind ≠ .gateway) :
    (desiredResource pass kind source ns annotations).metadata =
      generatedMetadata (annotatedResource kind) source.metadata ns annotations := by
  rw [desiredResource, generatedResourceName, if_neg notGateway]
  rfl

/-- The object of `CreateOrUpdateHTTPRoute` before it is compared with the stored one. -/
def desiredHTTPRoute (object : HTTPRoute) (referencedServices : List ObjectMeta)
    (ns routeName : String) (annotations : AnnotationSettings) : HTTPRoute where
  metadata := generatedMetadata .httpRoute object.metadata ns annotations
  spec := retargetSpec httpMirror referencedServices routeName object.spec

/-- The object of `CreateOrUpdateGRPCRoute` before it is compared with the stored one. -/
def desiredGRPCRoute (object : GRPCRoute) (referencedServices : List ObjectMeta)
    (ns routeName : String) (annotations : AnnotationSettings) : GRPCRoute where
  metadata := generatedMetadata .grpcRoute object.metadata ns annotations
  spec := retargetSpec grpcMirror referencedServices routeName object.spec

/-- The services of a Route as `manageRoutes` hands them to the helpers. -/
def referencedServices (route : Route) : List ObjectMeta :=
  match route.spec.source with
  | none => []
  | some source => source.services.map (fun service =>
      { name := getName service.metadata
        ns := service.metadata.ns
        uid := service.metadata.uid })

section Own

variable (services : List ObjectMeta) (ns routeName : String)

/-- The Service that is generated for the one behind a reference. -/
def generatedFor (ref : BackendObjectReference) : String :=
  generateRouteServiceName routeName ref.name (ref.ns.getD ns)

/-- A reference of kind Service ends at the Service generated for its own one, in the
namespace of the route; another one stays as it is. -/
def ownReference (ref : BackendObjectReference) : BackendObjectReference :=
  if IsServiceReference ref then { ref with name := generatedFor ns routeName ref, ns := none }
  else ref

/-- The first service that matches the reference is its own one, up to the name that
is generated for it. Without a match the reference must be the generated one already. -/
def FindsOwn (ref : BackendObjectReference) : Prop :=
  match services.find? (serviceMatches ref) with
  | some service =>
      generateRouteServiceName routeName service.name service.ns = generatedFor ns routeName ref
  | none => ref.ns = none ∧ ref.name = generatedFor ns routeName ref

instance (ref : BackendObjectReference) : Decidable (FindsOwn services ns routeName ref) := by
  unfold FindsOwn
  split <;> infer_instance

/-- Between the specifications every reference went to its own generated Service. -/
def KeepsBackends {μ φ : Type} (field : MirrorField φ) (before after : RouteSpec μ φ) : Prop :=
  specReferences field after = (specReferences field before).map (ownReference ns routeName)

variable {services ns routeName}

theorem retargetReference_eq_own_iff {ref : BackendObjectReference} :
    retargetReference services routeName ref = ownReference ns routeName ref ↔
      (IsServiceReference ref → FindsOwn services ns routeName ref) := by
  unfold retargetReference ownReference
  by_cases isService : IsServiceReference ref
  · rw [if_pos isService, if_pos isService]
    unfold retargetBackendRefToGeneratedService FindsOwn
    cases services.find? (serviceMatches ref) with
    | some service => simp [isService]
    | none =>
        generalize generatedFor ns routeName ref = generated
        obtain ⟨kind, name, refNamespace, port⟩ := ref
        simp [isService, and_comm]
  · simp [isService]

theorem specReferences_retargetSpec {μ φ : Type} (field : MirrorField φ) (spec : RouteSpec μ φ) :
    specReferences field (retargetSpec field services routeName spec) =
      (specReferences field spec).map (retargetReference services routeName) := by
  simp only [specReferences, retargetSpec, List.flatMap_map, ruleReferences_map, List.map_flatMap]

theorem keepsBackends_retargetSpec_iff {μ φ : Type} (field : MirrorField φ)
    (spec : RouteSpec μ φ) :
    KeepsBackends ns routeName field spec (retargetSpec field services routeName spec) ↔
      ∀ ref ∈ specReferences field spec, IsServiceReference ref →
        FindsOwn services ns routeName ref := by
  rw [KeepsBackends, specReferences_retargetSpec, List.map_inj_left]
  exact forall₂_congr (fun ref _ => retargetReference_eq_own_iff)

/-- A list with the own service of the reference and without a second one of its name
decides nothing by its order. -/
theorem findsOwn_of_sole_name {ref : BackendObjectReference}
    (listed : ∃ service ∈ services, service.name = ref.name ∧ service.ns = ref.ns.getD ns)
    (soleName : ∀ service ∈ services, service.name = ref.name → service.ns = ref.ns.getD ns) :
    FindsOwn services ns routeName ref := by
  unfold FindsOwn
  split
  · next service isFound =>
      have isMatch := List.find?_some isFound
      simp only [serviceMatches, Bool.and_eq_true, decide_eq_true_eq] at isMatch
      have isNamespace := soleName service (List.mem_of_find?_eq_some isFound) isMatch.1.symm
      rw [generatedFor, isNamespace, isMatch.1]
  · next missing =>
      obtain ⟨service, isMember, isName, isNamespace⟩ := listed
      have noMatch := List.find?_eq_none.mp missing service isMember
      simp only [serviceMatches, isName, isNamespace] at noMatch
      cases given : ref.ns <;> simp [given] at noMatch

end Own

/-- What the management cluster serves for a Route refers to the Services generated for
that Route. -/
theorem retargeted_to_generatedService (route : Route) (pa : PortLookup.PortAllocator)
    (annotations : AnnotationSettings) (ref : BackendObjectReference) :
    let retargeted := retargetBackendRefToGeneratedService (referencedServices route)
      (getOriginalRouteName route) ref
    retargeted = ref ∨ ∃ source service, route.spec.source = some source ∧
      service ∈ source.services ∧ retargeted.ns = none ∧
      retargeted.name = (generatedService route pa annotations service).metadata.name := by
  intro retargeted
  unfold retargeted retargetBackendRefToGeneratedService
  split
  · next found isFound =>
      right
      have isMember := List.mem_of_find?_eq_some isFound
      unfold referencedServices at isMember
      split at isMember
      · cases isMember
      · next source isSource =>
          obtain ⟨service, isService, rfl⟩ := List.mem_map.mp isMember
          exact ⟨source, service, isSource, isService, rfl, rfl⟩
  · exact Or.inl rfl

/-- The two helpers keep every backend exactly when each reference finds its own
service first. -/
theorem keepsBackends_iff (services : List ObjectMeta) (ns routeName : String)
    (annotations : AnnotationSettings) :
    (∀ object : HTTPRoute,
      KeepsBackends object.metadata.ns routeName httpMirror object.spec
          (desiredHTTPRoute object services ns routeName annotations).spec ↔
        ∀ ref ∈ specReferences httpMirror object.spec, IsServiceReference ref →
          FindsOwn services object.metadata.ns routeName ref) ∧
      ∀ object : GRPCRoute,
        KeepsBackends object.metadata.ns routeName grpcMirror object.spec
            (desiredGRPCRoute object services ns routeName annotations).spec ↔
          ∀ ref ∈ specReferences grpcMirror object.spec, IsServiceReference ref →
            FindsOwn services object.metadata.ns routeName ref :=
  ⟨fun object => keepsBackends_retargetSpec_iff httpMirror object.spec,
    fun object => keepsBackends_retargetSpec_iff grpcMirror object.spec⟩

def collected (references : List ObjectKey) : List ObjectMeta :=
  references.map (fun key => { name := key.name, ns := key.ns })

/-- A route to two Services of one name, first to that of another namespace. -/
def twinBackends : HTTPRoute where
  metadata := { name := "web", ns := "default" }
  spec :=
    { rules := [{ backendRefs := [{ name := "api", ns := some "shop" }, { name := "api" }] }] }

/-- With the services in the order of the references, the second one ends at the
Service of the first one. -/
theorem twin_backends_not_kept :
    ¬ KeepsBackends "default" "web" httpMirror twinBackends.spec
        (desiredHTTPRoute twinBackends
          (collected (getServicesFromHTTPRoute "default" twinBackends.spec))
          "tenant-a" "web" {}).spec := by
  rw [desiredHTTPRoute, keepsBackends_retargetSpec_iff]
  intro kept
  have found := kept { name := "api" } (by decide) (by decide)
  exact absurd found (by decide +kernel)

end KubeLB.Routes
