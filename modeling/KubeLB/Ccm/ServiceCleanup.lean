import KubeLB.Ccm.SourceReconciler

/-!
Contract: the NodePort Services that the cleanup of a source deletes.

Owns: which Services a source refers to, the NodePort Service that mirrors one, which
of them a cleanup deletes, and when these are the ones nobody needs any more.

Does not own: the Routes of a source.
-/

set_option autoImplicit false

namespace KubeLB.Ccm

open KubeLB.Library KubeLB.Core KubeLB.V1Alpha1 KubeLB.Networking KubeLB.GatewayApi
  KubeLB.Naming KubeLB.Resources KubeLB.Controllers

/-! ## References -/

def backendNames (backend : IngressBackend) (name : String) : Prop :=
  ∃ service, backend.service = some service ∧ service.name = name

/-- Some rule has a reference of kind Service to the Service. -/
def rulesReference {μ φ : Type} (requestMirror : φ → Option HTTPRequestMirrorFilter) (ns : String)
    (rules : List (RouteRule μ φ)) (key : ObjectKey) : Prop :=
  ∃ rule ∈ rules, ∃ ref ∈ ruleReferences requestMirror rule,
    IsServiceReference ref ∧ serviceReference ns ref = key

def Source.References (source : Source) (key : ObjectKey) : Prop :=
  match source.spec with
  | .ingress spec =>
      key.ns = source.metadata.ns ∧
        ((∃ rule ∈ spec.rules, ∃ paths, rule.http = some paths ∧
            ∃ path ∈ paths, backendNames path.backend key.name) ∨
          ∃ backend, spec.defaultBackend = some backend ∧ backendNames backend key.name)
  | .httpRoute spec =>
      rulesReference HTTPRouteFilter.requestMirror source.metadata.ns spec.rules key
  | .grpcRoute spec =>
      rulesReference GRPCRouteFilter.requestMirror source.metadata.ns spec.rules key
  | .gateway _ => False

theorem mem_servicesFromRules {μ φ : Type} {requestMirror : φ → Option HTTPRequestMirrorFilter}
    {ns : String} {rules : List (RouteRule μ φ)} {key : ObjectKey} :
    key ∈ servicesFromRules requestMirror ns rules ↔ rulesReference requestMirror ns rules key := by
  simp only [servicesFromRules, mem_keepFirst_id, Finset.notMem_empty, not_false_eq_true, and_true,
    List.mem_map, List.mem_filter, List.mem_flatMap, decide_eq_true_eq, rulesReference]
  constructor
  · rintro ⟨ref, ⟨⟨rule, isRule, isRef⟩, isService⟩, isKey⟩
    exact ⟨rule, isRule, ref, isRef, isService, isKey⟩
  · rintro ⟨rule, isRule, ref, isRef, isService, isKey⟩
    exact ⟨ref, ⟨⟨rule, isRule, isRef⟩, isService⟩, isKey⟩

theorem mem_getServicesFromIngress {ns : String} {spec : IngressSpec} {services : List ObjectKey}
    (extracted : getServicesFromIngress ns spec = some services) {key : ObjectKey} :
    key ∈ services ↔ key.ns = ns ∧
      ((∃ rule ∈ spec.rules, ∃ paths, rule.http = some paths ∧
          ∃ path ∈ paths, backendNames path.backend key.name) ∨
        ∃ backend, spec.defaultBackend = some backend ∧ backendNames backend key.name) := by
  simp only [getServicesFromIngress, Option.bind_eq_bind, Option.bind_eq_some_iff, Option.pure_def,
    Option.some.injEq] at extracted
  obtain ⟨ofRules, isOfRules, rfl⟩ := extracted
  have isKey (backend : IngressBackend) :
      backend.service.map (fun service => (⟨ns, service.name⟩ : ObjectKey)) = some key ↔
        key.ns = ns ∧ backendNames backend key.name := by
    cases key
    simp only [Option.map_eq_some_iff, ObjectKey.mk.injEq, backendNames]
    constructor
    · rintro ⟨service, isService, rfl, rfl⟩
      exact ⟨rfl, service, isService, rfl⟩
    · rintro ⟨rfl, service, isService, rfl⟩
      exact ⟨service, isService, rfl, rfl⟩
  rw [mem_keepFirst_id, List.mem_append, List.mem_flatten, Option.mem_toList]
  have ofRules_iff : (∃ found ∈ ofRules, key ∈ found) ↔ ∃ rule ∈ spec.rules, ∃ paths,
      rule.http = some paths ∧ ∃ path ∈ paths, key.ns = ns ∧
        backendNames path.backend key.name := by
    constructor
    · rintro ⟨found, isFound, isMember⟩
      obtain ⟨rule, isRule, ofRule⟩ := (mem_mapM_iff isOfRules found).mp isFound
      obtain ⟨paths, isPaths, ofPaths⟩ := Option.bind_eq_some_iff.mp ofRule
      obtain ⟨path, isPath, ofPath⟩ := (mem_mapM_iff ofPaths key).mp isMember
      exact ⟨rule, isRule, paths, isPaths, path, isPath, (isKey _).mp ofPath⟩
    · rintro ⟨rule, isRule, paths, isPaths, path, isPath, names⟩
      obtain ⟨found, isFound, ofRule⟩ := exists_of_mapM isOfRules isRule
      simp only [isPaths, Option.bind_some] at ofRule
      exact ⟨found, isFound, (mem_mapM_iff ofRule key).mpr ⟨path, isPath, (isKey _).mpr names⟩⟩
  have ofDefault_iff : (spec.defaultBackend.bind (·.service)).map
      (fun service => (⟨ns, service.name⟩ : ObjectKey)) = some key ↔
        ∃ backend, spec.defaultBackend = some backend ∧ key.ns = ns ∧
          backendNames backend key.name := by
    cases spec.defaultBackend with
    | none => simp
    | some backend => simpa using isKey backend
  rw [ofRules_iff, ofDefault_iff]
  constructor
  · rintro ⟨⟨rule, isRule, paths, isPaths, path, isPath, isNamespace, names⟩ |
      ⟨backend, isBackend, isNamespace, names⟩, -⟩
    · exact ⟨isNamespace, Or.inl ⟨rule, isRule, paths, isPaths, path, isPath, names⟩⟩
    · exact ⟨isNamespace, Or.inr ⟨backend, isBackend, names⟩⟩
  · rintro ⟨isNamespace, ⟨rule, isRule, paths, isPaths, path, isPath, names⟩ |
      ⟨backend, isBackend, names⟩⟩
    · exact ⟨Or.inl ⟨rule, isRule, paths, isPaths, path, isPath, isNamespace, names⟩,
        Finset.notMem_empty _⟩
    · exact ⟨Or.inr ⟨backend, isBackend, isNamespace, names⟩, Finset.notMem_empty _⟩

theorem mem_extractServices {source : Source} {services : List ObjectKey}
    (extracted : extractServices source = some services) {key : ObjectKey} :
    key ∈ services ↔ source.References key := by
  unfold extractServices at extracted
  unfold Source.References
  cases isSpec : source.spec with
  | ingress spec =>
      rw [isSpec] at extracted
      exact mem_getServicesFromIngress extracted
  | httpRoute spec =>
      rw [isSpec] at extracted
      cases extracted
      exact mem_servicesFromRules
  | grpcRoute spec =>
      rw [isSpec] at extracted
      cases extracted
      exact mem_servicesFromRules
  | gateway spec =>
      rw [isSpec] at extracted
      cases extracted
      simp

def Source.Extractable (source : Source) : Prop :=
  match source.spec with
  | .ingress spec => ∀ rule ∈ spec.rules, ∃ paths, rule.http = some paths ∧
      ∀ path ∈ paths, path.backend.service ≠ none
  | _ => True

theorem isSome_extractServices {source : Source} :
    (extractServices source).isSome ↔ source.Extractable := by
  unfold extractServices Source.Extractable
  split
  · next spec isSpec =>
      rw [isSpec]
      exact isSome_getServicesFromIngress
  · simp [*]
  · simp [*]
  · simp [*]

/-! ## What a cleanup deletes -/

/-- No live object is left under the key. -/
def Gone (services : Store plainServiceKey) (key : ObjectKey) : Prop :=
  ∀ service, services.get key = some service → Deleting service.metadata

theorem gone_deleteObject (services : Store plainServiceKey) (key : ObjectKey) :
    Gone (deleteObject Service.metadata markedService services key) key := by
  intro service isService
  apply deleting_of_get_deleteObject Service.metadata markedService services _ _ isService
  · exact fun _ => rfl
  · exact fun _ => rfl

theorem Gone.deleteObject {services : Store plainServiceKey} {key : ObjectKey}
    (gone : Gone services key) (deleted : ObjectKey) :
    Gone (Controllers.deleteObject Service.metadata markedService services deleted) key := by
  by_cases same : key = deleted
  · rw [same]
    exact gone_deleteObject services deleted
  · intro service isService
    have sameKey : ∀ found, plainServiceKey (markedService found) = plainServiceKey found :=
      fun _ => rfl
    rw [get_deleteObject_of_ne Service.metadata markedService services sameKey same] at isService
    exact gone service isService

/-- Between the states the Services under some keys were deleted, the others kept. -/
structure Deletes (before after : Store plainServiceKey) (deleted : ObjectKey → Prop) : Prop where
  gone : ∀ key, deleted key → Gone after key
  kept : ∀ key, ¬ deleted key → after.get key = before.get key

theorem Deletes.refl (services : Store plainServiceKey) :
    Deletes services services (fun _ => False) :=
  ⟨fun _ => False.elim, fun _ _ => rfl⟩

theorem Deletes.deleteObject {before after : Store plainServiceKey} {deleted : ObjectKey → Prop}
    (deletes : Deletes before after deleted) (key : ObjectKey) :
    Deletes before (Controllers.deleteObject Service.metadata markedService after key)
      (fun other => other = key ∨ deleted other) where
  gone other isDeleted := by
    cases isDeleted with
    | inl same =>
        rw [same]
        exact gone_deleteObject after key
    | inr earlier => exact (deletes.gone other earlier).deleteObject key
  kept other notDeleted := by
    rw [not_or] at notDeleted
    have sameKey : ∀ found, plainServiceKey (markedService found) = plainServiceKey found :=
      fun _ => rfl
    rw [get_deleteObject_of_ne Service.metadata markedService after sameKey notDeleted.1]
    exact deletes.kept other notDeleted.2

theorem Deletes.congr {before after : Store plainServiceKey} {deleted other : ObjectKey → Prop}
    (deletes : Deletes before after deleted) (same : ∀ key, deleted key ↔ other key) :
    Deletes before after other :=
  ⟨fun key isOther => deletes.gone key ((same key).mpr isOther),
    fun key notOther => deletes.kept key (fun isDeleted => notOther ((same key).mp isDeleted))⟩

theorem Deletes.gone_iff {before after : Store plainServiceKey} {deleted : ObjectKey → Prop}
    (deletes : Deletes before after deleted) {key : ObjectKey} {service : Service}
    (isService : before.get key = some service) (live : ¬ Deleting service.metadata) :
    Gone after key ↔ deleted key := by
  constructor
  · intro gone
    by_contra notDeleted
    apply live
    apply gone service
    rw [deletes.kept key notDeleted, isService]
  · exact deletes.gone key

def Impacted (impactedServices : List ObjectKey) (service : Service) : Prop :=
  ⟨service.metadata.ns, originalServiceName service⟩ ∈ impactedServices

/-- Every call of the pass succeeds, and the list of Services holds those of the
namespace. -/
structure SourcePass.Reliable (pass : SourcePass) (objects : SourceObjects) (ns : String) :
    Prop where
  noFault : ∀ call, pass.fault call = none
  listed : objects.services.list (fun key => key.ns = ns) pass.serviceOrder ≠ none

section Loops

open Pass

variable {pass : SourcePass} {start : SourceObjects}

theorem returns_bind_call {α : Type} {call : SourceCall} {message : String}
    {next : PUnit → SourceReconcile α} {post : α → SourceObjects → Prop}
    (noFault : pass.fault call = none) (rest : (next ⟨⟩).Returns start post) :
    (pass.call call message >>= next).Returns start post := by
  rw [SourcePass.call, noFault]
  exact rest

theorem impacted_iff {impactedServices : List ObjectKey} {service : Service} :
    Impacted impactedServices service ↔ ∃ serviceRef ∈ impactedServices,
      serviceRef.name = originalServiceName service ∧ serviceRef.ns = service.metadata.ns := by
  constructor
  · intro impacted
    exact ⟨_, impacted, rfl, rfl⟩
  · rintro ⟨⟨ns, name⟩, isMember, isName, isNamespace⟩
    rw [Impacted, ← isName, ← isNamespace]
    exact isMember

/-- The loops delete each listed Service that is the mirror of a reference. -/
theorem cleanupServices_returns (noFault : ∀ call, pass.fault call = none)
    (impactedServices : List ObjectKey) (services : List Service) :
    (cleanupServices pass impactedServices services).Returns start (fun _ reached =>
      Deletes start.services reached.services (fun key =>
        ∃ service ∈ services, Impacted impactedServices service ∧
          key = plainServiceKey service)) := by
  let deletes (deleted : ObjectKey → Prop) (state : SourceObjects) : Prop :=
    Deletes start.services state.services deleted
  have loops : (cleanupServices pass impactedServices services).Returns start
      (fun _ => deletes (fun key => (∃ service ∈ services,
        Impacted impactedServices service ∧ key = plainServiceKey service) ∨ False)) := by
    refine returns_forM_collected services _ deletes ?_ (Deletes.refl start.services)
    intro service collected state before
    -- the inner loop adds the same key for every reference that matches
    refine (returns_forM_collected impactedServices
      (fun serviceRef key => (serviceRef.name = originalServiceName service ∧
        serviceRef.ns = service.metadata.ns) ∧ key = plainServiceKey service)
      deletes ?_ before).mono ?_
    · intro serviceRef known between earlier
      split
      · next isMatch =>
          apply returns_bind_call (noFault _)
          apply returns_modify
          simp only [isMatch, and_self, true_and]
          exact Deletes.deleteObject earlier (plainServiceKey service)
      · next noMatch =>
          apply returns_pure
          simpa only [noMatch, false_and, false_or] using earlier
    · intro _ reached deleted
      rw [impacted_iff]
      simpa only [← exists_and_right, and_assoc] using deleted
  apply loops.mono
  intro _ reached deleted
  simpa only [or_false] using deleted

def Managed (service : Service) : Prop :=
  MatchingLabels [(labelManagedBy, labelControllerName)] service.metadata.labels

theorem managedServices_returns {ns : String} (reliable : pass.Reliable start ns) :
    (managedServices pass ns).Returns start (fun services reached => reached = start ∧
      ∀ service, service ∈ services ↔ (service.metadata.ns = ns ∧
        start.services.get (plainServiceKey service) = some service) ∧ Managed service) := by
  apply returns_bind_call (reliable.noFault _)
  apply returns_bind_read
  split
  · next absent => exact absurd absent reliable.listed
  · next listed isListed =>
      refine returns_pure ⟨rfl, fun service => ?_⟩
      rw [List.mem_filter, Store.mem_list isListed, decide_eq_true_eq, decide_eq_true_eq]
      rfl

theorem cleanupRoute_returns (noFault : ∀ call, pass.fault call = none) (uid ns : String) :
    (cleanupRoute pass uid ns).Returns start
      (fun _ reached => reached.services = start.services) := by
  apply returns_bind_call (noFault _)
  apply returns_bind_read
  split
  · exact returns_pure rfl
  · apply returns_bind_call (noFault _)
    exact returns_modify rfl

theorem releaseSource_returns (noFault : ∀ call, pass.fault call = none) (resource : Source) :
    (releaseSource pass resource).Returns start
      (fun _ reached => reached.services = start.services) := by
  apply returns_bind_call (noFault _)
  exact returns_modify rfl

/-- A cleanup that does not panic returns, and has deleted the managed Services of the
namespace that carry the name of a reference. -/
theorem cleanup_returns (reconciler : SourceReconciler) {resource : Source}
    {impactedServices : List ObjectKey}
    (extracted : extractServices resource = some impactedServices)
    (reliable : pass.Reliable start resource.metadata.ns) :
    (reconciler.cleanup pass resource).Returns start (fun _ reached =>
      Deletes start.services reached.services (fun key =>
        ∃ service, start.services.get key = some service ∧ Managed service ∧
          key.ns = resource.metadata.ns ∧
          resource.References ⟨key.ns, originalServiceName service⟩)) := by
  unfold SourceReconciler.cleanup
  rw [extracted]
  apply returns_bind (managedServices_returns reliable)
  rintro services listed ⟨isStart, isListed⟩
  rw [isStart]
  apply returns_bind (cleanupServices_returns reliable.noFault impactedServices services)
  intro _ between deleted
  apply returns_bind (returns_mapError (cleanupRoute_returns reliable.noFault _ _))
  intro _ removed sameServices
  apply (releaseSource_returns reliable.noFault resource).mono
  intro _ reached unchanged
  rw [unchanged, sameServices]
  apply deleted.congr
  intro key
  constructor
  · rintro ⟨service, isMember, impacted, rfl⟩
    obtain ⟨⟨isNamespace, isService⟩, managed⟩ := (isListed service).mp isMember
    exact ⟨service, isService, managed, isNamespace, (mem_extractServices extracted).mp impacted⟩
  · rintro ⟨service, isService, managed, isNamespace, refers⟩
    have isKey : plainServiceKey service = key := Store.identity_of_get isService
    subst isKey
    exact ⟨service, (isListed service).mpr ⟨⟨isNamespace, isService⟩, managed⟩,
      (mem_extractServices extracted).mpr refers, rfl⟩

end Loops

/-! ## Mirrors nobody needs any more -/

def InScope (useIngressClass : Bool) (source : Source) : Prop :=
  ∃ kind ∈ [SourceKind.ingress useIngressClass, .httpRoute, .grpcRoute],
    kind.shouldReconcile source = true

/-- One of the other sources is live, in scope and refers to the Service. -/
def StillReferenced (useIngressClass : Bool) (others : List Source) (key : ObjectKey) : Prop :=
  ∃ other ∈ others, ¬ Deleting other.metadata ∧ InScope useIngressClass other ∧
    other.References key

def nodePortKey (key : ObjectKey) : ObjectKey := ⟨key.ns, nodePortServicePattern key.name⟩

/-- The live NodePort Service that KubeLB made for the Service. -/
structure IsNodePortMirror (services : Store plainServiceKey) (key : ObjectKey)
    (mirror : Service) : Prop where
  isService : services.get (nodePortKey key) = some mirror
  live : ¬ Deleting mirror.metadata
  managed : Managed mirror
  origin : mirror.metadata.labels.get labelOriginName = key.name
  named : key.name ≠ ""

theorem managed_nodePortService (service : Service) : Managed (nodePortService service) := by
  simp only [Managed, MatchingLabels, List.forall_mem_singleton, nodePortService]
  exact Finmap.lookup_insert _

theorem originOf_nodePortService (service : Service) :
    originOf (nodePortService service).metadata.labels = plainServiceKey service := by
  simp only [originOf, StringMap.get, nodePortService, plainServiceKey, keyOf, ObjectKey.mk.injEq]
  constructor
  · rw [Finmap.lookup_insert_of_ne _ (by decide), Finmap.lookup_insert_of_ne _ (by decide),
      Finmap.lookup_insert]
    rfl
  · rw [Finmap.lookup_insert_of_ne _ (by decide), Finmap.lookup_insert]
    rfl

/-- What `NormalizeAndReplicateServices` creates is such a mirror. -/
theorem isNodePortMirror_put (services : Store plainServiceKey) (numbers : List Int32)
    {service : Service} (named : service.metadata.name ≠ "") :
    IsNodePortMirror (services.put (withNodePorts numbers (nodePortService service)))
      (plainServiceKey service) (withNodePorts numbers (nodePortService service)) where
  isService := services.get_put_self (withNodePorts numbers (nodePortService service))
  live := by simp [withNodePorts, nodePortService, cleanseService, Deleting]
  managed := managed_nodePortService service
  origin := congrArg ObjectKey.name (originOf_nodePortService service)
  named := named

section Cleanup

variable (reconciler : SourceReconciler) (pass : SourcePass) (useIngressClass : Bool)
  (others : List Source) (resource : Source) (objects : SourceObjects) (key : ObjectKey)

/-- The cleanup of the source deletes the mirror of the Service exactly when nobody
else refers to the Service. -/
def DeletesExactly : Prop :=
  ∃ outcome reached, reconciler.cleanup pass resource objects = some (outcome, reached) ∧
    (Gone reached.services (nodePortKey key) ↔ ¬ StillReferenced useIngressClass others key)

variable {reconciler pass useIngressClass others resource objects key}

/-- The cleanup looks only at the references of the deleted source into its own
namespace. It is exact when these and the references of the others exclude each other
and leave nothing over. -/
theorem deletesExactly_iff {mirror : Service}
    (isMirror : IsNodePortMirror objects.services key mirror)
    (reliable : pass.Reliable objects resource.metadata.ns) :
    DeletesExactly reconciler pass useIngressClass others resource objects key ↔
      (resource.Extractable ∧ resource.References key ∧ key.ns = resource.metadata.ns ↔
        ¬ StillReferenced useIngressClass others key) := by
  have named : originalServiceName mirror = key.name := by
    rw [originalServiceName, isMirror.origin, if_pos isMirror.named]
  suffices decided : ∃ outcome reached,
      reconciler.cleanup pass resource objects = some (outcome, reached) ∧
        (Gone reached.services (nodePortKey key) ↔
          resource.Extractable ∧ resource.References key ∧ key.ns = resource.metadata.ns) by
    obtain ⟨outcome, reached, run, gone_iff⟩ := decided
    rw [← gone_iff]
    constructor
    · rintro ⟨_, _, sameRun, exactly⟩
      cases run.symm.trans sameRun
      exact exactly
    · intro exactly
      exact ⟨outcome, reached, run, exactly⟩
  cases extracted : extractServices resource with
  | none =>
      -- the panic comes before anything is deleted
      have notExtractable : ¬ resource.Extractable := by
        rw [← isSome_extractServices, extracted]
        simp
      refine ⟨_, objects, by rw [SourceReconciler.cleanup, extracted]; rfl, ?_⟩
      simp only [notExtractable, false_and, iff_false]
      intro gone
      exact isMirror.live (gone mirror isMirror.isService)
  | some impactedServices =>
      have extractable : resource.Extractable := by
        rw [← isSome_extractServices, extracted]
        rfl
      obtain ⟨_, reached, run, deletes⟩ := cleanup_returns reconciler extracted reliable
      refine ⟨_, reached, run, ?_⟩
      rw [deletes.gone_iff isMirror.isService isMirror.live]
      constructor
      · rintro ⟨service, isService, -, isNamespace, refers⟩
        cases isMirror.isService.symm.trans isService
        rw [named] at refers
        exact ⟨extractable, refers, isNamespace⟩
      · rintro ⟨-, refers, isNamespace⟩
        refine ⟨mirror, isMirror.isService, isMirror.managed, isNamespace, ?_⟩
        rw [named]
        exact refers

end Cleanup

def apiService : Service where
  metadata := { name := "api", ns := "default" }
  spec := { type := .clusterIP }

def apiKey : ObjectKey := ⟨"default", "api"⟩

def routeToAPI (name : String) (deletionTimestamp : Option Nat) : Source where
  metadata :=
    { name := name, ns := "default", uid := name, finalizers := [cleanupFinalizer]
      deletionTimestamp := deletionTimestamp }
  spec := .httpRoute
    { parentRefs := [{ name := parentGatewayName }]
      rules := [{ backendRefs := [{ name := "api" }] }] }

def apiObjects : SourceObjects where
  services := (Store.empty.put apiService).put (withNodePorts [] (nodePortService apiService))

def httpRouteReconciler : SourceReconciler where
  clusterName := "tenant-a"
  kind := .httpRoute

def apiPass : SourcePass where
  serviceOrder := [apiKey, nodePortKey apiKey]

theorem api_isNodePortMirror : IsNodePortMirror apiObjects.services apiKey
    (withNodePorts [] (nodePortService apiService)) :=
  isNodePortMirror_put _ _ (by decide)

theorem apiPass_reliable : apiPass.Reliable apiObjects "default" :=
  ⟨fun _ => rfl, by decide +kernel⟩

theorem routeToAPI_references (name : String) (deletionTimestamp : Option Nat) :
    (routeToAPI name deletionTimestamp).References apiKey :=
  ⟨_, List.mem_singleton_self _, { name := "api" }, by decide, by decide, rfl⟩

/-- Of two HTTPRoutes for one Service the first is deleted: the mirror goes although
the second one still needs it. -/
theorem shared_mirror_deleted :
    StillReferenced false [routeToAPI "shop" none] apiKey ∧
      ¬ DeletesExactly httpRouteReconciler apiPass false [routeToAPI "shop" none]
        (routeToAPI "web" (some 7)) apiObjects apiKey := by
  have shared : StillReferenced false [routeToAPI "shop" none] apiKey :=
    ⟨_, List.mem_singleton_self _, by decide, ⟨.httpRoute, by decide, by decide⟩,
      routeToAPI_references _ _⟩
  refine ⟨shared, ?_⟩
  rintro ⟨outcome, reached, run, exactly⟩
  have evaluated : (httpRouteReconciler.cleanup apiPass (routeToAPI "web" (some 7))
      apiObjects).map (fun result => result.2.services.get (nodePortKey apiKey)) = some none := by
    decide +kernel
  rw [run] at evaluated
  refine exactly.mp ?_ shared
  intro service isService
  cases isService.symm.trans (Option.some.inj evaluated)

/-- The last HTTPRoute for the Service takes the mirror with it. -/
theorem sole_route_deletes_mirror :
    DeletesExactly httpRouteReconciler apiPass false [] (routeToAPI "web" (some 7)) apiObjects
      apiKey := by
  apply (deletesExactly_iff api_isNodePortMirror apiPass_reliable).mpr
  have noOther : ¬ StillReferenced false [] apiKey := by
    rintro ⟨_, isMember, -⟩
    cases isMember
  exact ⟨fun _ => noOther, fun _ => ⟨trivial, routeToAPI_references _ _, rfl⟩⟩

end KubeLB.Ccm
