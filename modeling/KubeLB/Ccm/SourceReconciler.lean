import KubeLB.Ccm.Shared
import KubeLB.Controllers.RouteResource
import KubeLB.Resources.Route
import KubeLB.Resources.ServiceReferences

/-!
Contract: the reconcilers of tenant Ingresses, HTTPRoutes, GRPCRoutes and Gateways,
which mirror them as Routes of the management cluster.

Owns: the mirrored objects, their adapters, `NormalizeAndReplicateServices`, and
`cleanup` of `SourceReconciler`.

Does not own: the Routes that are written, the reaping of stale ones, metrics, logs and
Events. A conflict is retried on fresh objects, so a retry loop is one call. A panic is
recovered and reported as an error. Owner references, cluster addresses and traffic
policies of Services are left out.
-/

set_option autoImplicit false

namespace KubeLB.Ccm

open KubeLB.Library KubeLB.Core KubeLB.V1Alpha1 KubeLB.Networking KubeLB.GatewayApi
  KubeLB.Naming KubeLB.Resources KubeLB.Controllers

/-! ## Objects -/

inductive SourceSpec where
  | ingress (spec : IngressSpec)
  | httpRoute (spec : HTTPRouteSpec)
  | grpcRoute (spec : GRPCRouteSpec)
  | gateway (spec : GatewaySpec)
  deriving DecidableEq

/-- An object of the tenant cluster that is mirrored by a Route. -/
structure Source where
  metadata : ObjectMeta
  spec : SourceSpec
  deriving DecidableEq

def SourceSpec.gvk : SourceSpec → GroupVersionKind
  | .ingress _ => ingressGVK
  | .httpRoute _ => httpRouteGVK
  | .grpcRoute _ => grpcRouteGVK
  | .gateway _ => gatewayGVK

def sourceKey (source : Source) : ObjectKey := keyOf source.metadata

def plainServiceKey (service : Service) : ObjectKey := keyOf service.metadata

def markedService (service : Service) : Service :=
  { service with metadata := markDeleting service.metadata }

/-- The sources of one kind and the Services of the tenant cluster, and the Routes of
the management cluster. -/
structure SourceObjects where
  sources : Store sourceKey := Store.empty
  services : Store plainServiceKey := Store.empty
  routes : Store routeKey := Store.empty

/-! ## Adapters -/

def ingressClassName : String := "kubelb"
def parentGatewayName : String := "kubelb"
def gatewayClassName : String := "kubelb"

inductive SourceKind where
  | ingress (useIngressClass : Bool)
  | httpRoute
  | grpcRoute
  | gateway (useGatewayClass : Bool)
  deriving DecidableEq

def SourceKind.gvk : SourceKind → GroupVersionKind
  | .ingress _ => ingressGVK
  | .httpRoute => httpRouteGVK
  | .grpcRoute => grpcRouteGVK
  | .gateway _ => gatewayGVK

def soleParentIsGateway (parentRefs : List ParentReference) : Bool :=
  match parentRefs with
  | [parentRef] => parentRef.name = parentGatewayName
  | _ => false

def shouldReconcileResource (source : Source) (useGatewayClass : Bool) : Bool :=
  match source.spec with
  | .gateway spec =>
      decide (source.metadata.name = parentGatewayName) &&
        (!useGatewayClass || decide (spec.gatewayClassName = gatewayClassName))
  | .httpRoute spec => soleParentIsGateway spec.parentRefs
  | .grpcRoute spec => soleParentIsGateway spec.parentRefs
  | .ingress _ => false

/-- `ShouldReconcile` of the adapters and of `GatewayReconciler`. An object of another
type is not reconciled. -/
def SourceKind.shouldReconcile : SourceKind → Source → Bool
  | .ingress useIngressClass, source =>
      match source.spec with
      | .ingress spec => !useIngressClass || spec.ingressClassName = some ingressClassName
      | _ => false
  | .gateway useGatewayClass, source =>
      decide (source.spec.gvk = gatewayGVK) && shouldReconcileResource source useGatewayClass
  | kind, source => decide (source.spec.gvk = kind.gvk) && shouldReconcileResource source false

/-- `ExtractServices`; `none` is a panic. A Gateway has no backends. -/
def extractServices (source : Source) : Option (List ObjectKey) :=
  match source.spec with
  | .ingress spec => getServicesFromIngress source.metadata.ns spec
  | .httpRoute spec => some (getServicesFromHTTPRoute source.metadata.ns spec)
  | .grpcRoute spec => some (getServicesFromGRPCRoute source.metadata.ns spec)
  | .gateway _ => some []

/-! ## Passes -/

/-- A controller of sources in one tenant cluster. -/
structure SourceReconciler where
  clusterName : String
  kind : SourceKind

inductive SourceCall where
  | getMirror (name : String)
  | deleteMirror (name : String)
  | getService (key : ObjectKey)
  | getGenerated (key : ObjectKey)
  | createService (key : ObjectKey)
  | updateService (key : ObjectKey)
  | fetchService (key : ObjectKey)
  | listServices
  | deleteService (key : ObjectKey)
  | removeFinalizer
  deriving DecidableEq, Repr

/-- One pass with what its surroundings decide. -/
structure SourcePass where
  /-- The order of the listed Services. -/
  serviceOrder : List ObjectKey := []
  /-- The node ports that the API server gives to a Service. -/
  nodePorts : ObjectKey → List Int32 := fun _ => []
  fault : SourceCall → Option String := fun _ => none

abbrev SourceReconcile := Pass SourceObjects String

def SourcePass.call (pass : SourcePass) (call : SourceCall) (message : String) :
    SourceReconcile PUnit :=
  Pass.check ((pass.fault call).map (message ++ ·))

/-! ## Services behind a source -/

def cleanseService (svc : Service) (removeUID : Bool) : Service where
  metadata :=
    { name := svc.metadata.name
      ns := svc.metadata.ns
      labels := svc.metadata.labels
      annotations := svc.metadata.annotations.erase lastAppliedConfigAnnotation
      uid := if removeUID then "" else svc.metadata.uid }
  spec := svc.spec

def nodePortServicePattern (name : String) : String := name ++ "-nodeport"

def nodePortService (service : Service) : Service :=
  let cleansed := cleanseService service true
  { metadata :=
      { cleansed.metadata with
        name := nodePortServicePattern service.metadata.name
        labels := ((cleansed.metadata.labels.insert labelOriginNamespace service.metadata.ns).insert
          labelOriginName service.metadata.name).insert labelManagedBy labelControllerName }
    spec := { cleansed.spec with type := .nodePort } }

/-- The first loop of `NormalizeAndReplicateServices`: the Services that are used as
they are, and those to create or update. -/
def normalizeServices (pass : SourcePass) :
    List ObjectKey → SourceReconcile (List Service × List Service)
  | [] => pure ([], [])
  | serviceRef :: references => do
      pass.call (.getService serviceRef)
        ("failed to get service " ++ serviceRef.ns ++ "/" ++ serviceRef.name ++ ": ")
      match ← Pass.read (fun objects : SourceObjects => objects.services.get serviceRef) with
      | none => normalizeServices pass references
      | some service =>
          let rest ← normalizeServices pass references
          if service.spec.type ≠ .clusterIP then
            pure (cleanseService service false :: rest.1, rest.2)
          else pure (rest.1, nodePortService service :: rest.2)

/-- The API server gives each port of a NodePort Service a node port. -/
def withNodePorts (numbers : List Int32) (service : Service) : Service :=
  { service with
    spec := { service.spec with
      ports := (service.spec.ports.zipIdx).map (fun entry =>
        match numbers[entry.2]? with
        | some number => { entry.1 with nodePort := number }
        | none => entry.1) } }

def createOrUpdateService (pass : SourcePass) (obj : Service) : SourceReconcile PUnit := do
  let key := plainServiceKey obj
  pass.call (.getGenerated key) "failed to get Service: "
  match ← Pass.read (fun objects : SourceObjects => objects.services.get key) with
  | none =>
      pass.call (.createService key) "failed to create Service: "
      Pass.modify (fun objects =>
        { objects with services :=
            objects.services.put (withNodePorts (pass.nodePorts key) obj) })
  | some existingObj =>
      if existingObj.spec = obj.spec ∧ existingObj.metadata.labels = obj.metadata.labels ∧
          existingObj.metadata.annotations = obj.metadata.annotations then
        pure ⟨⟩
      else
        pass.call (.updateService key) "failed to update Service: "
        let updated : Service :=
          withNodePorts (pass.nodePorts key)
            { obj with
              metadata := { obj.metadata with
                uid := existingObj.metadata.uid
                deletionTimestamp := existingObj.metadata.deletionTimestamp } }
        Pass.modify (fun objects =>
          { objects with services :=
              writeObject Service.metadata objects.services updated })

/-- The last loop of `NormalizeAndReplicateServices`. -/
def fetchServices (pass : SourcePass) : List Service → SourceReconcile (List Service)
  | [] => pure []
  | svc :: services => do
      let key := plainServiceKey svc
      pass.call (.fetchService key) ("failed to get service " ++ key.ns ++ "/" ++ key.name ++ ": ")
      match ← Pass.read (fun objects : SourceObjects => objects.services.get key) with
      | none => fetchServices pass services
      | some service =>
          let rest ← fetchServices pass services
          pure (cleanseService service false :: rest)

def normalizeAndReplicateServices (pass : SourcePass) (references : List ObjectKey) :
    SourceReconcile (List Service) := do
  let normalized ← normalizeServices pass references
  normalized.2.forM (fun svc =>
    Pass.mapError ("failed to create or update Service: " ++ ·) (createOrUpdateService pass svc))
  let fetched ← fetchServices pass normalized.2
  pure (normalized.1 ++ fetched)

/-! ## Routes -/

def cleanupRoute (pass : SourcePass) (resourceUID ns : String) : SourceReconcile PUnit := do
  pass.call (.getMirror resourceUID) "failed to get Route from LB cluster: "
  match ← Pass.read (fun objects : SourceObjects => objects.routes.get ⟨ns, resourceUID⟩) with
  | none => pure ⟨⟩
  | some _ =>
      pass.call (.deleteMirror resourceUID) "failed to delete Route: "
      Pass.modify (fun objects =>
        { objects with routes :=
            deleteObject Route.metadata Route.marked objects.routes ⟨ns, resourceUID⟩ })

section Reconciler

variable (reconciler : SourceReconciler)

def SourceReconciler.shouldReconcile (source : Source) : Bool :=
  reconciler.kind.shouldReconcile source

/-- `EnqueueForService`: the sources in scope that refer to the Service or to the one
behind a NodePort Service. -/
def SourceReconciler.enqueueForService (objects : SourceObjects) (service : ObjectKey) :
    Finset ObjectKey :=
  objects.sources.objects.keys.filter (fun key =>
    key.ns = service.ns ∧ (objects.sources.get key).any (fun source =>
      reconciler.shouldReconcile source && ((extractServices source).getD []).any (fun ref =>
        decide (ref.ns = service.ns) &&
          decide (ref.name = service.name ∨ nodePortServicePattern ref.name = service.name))))

def releaseSource (pass : SourcePass) (resource : Source) : SourceReconcile PUnit := do
  pass.call .removeFinalizer "failed to remove finalizer: "
  let released : Source :=
    { resource with metadata := removeFinalizer cleanupFinalizer resource.metadata }
  Pass.modify (fun objects =>
    { objects with sources := writeObject (·.metadata) objects.sources released })

/-- The name of the Service that a managed Service was made for. -/
def originalServiceName (service : Service) : String :=
  if service.metadata.labels.get labelOriginName ≠ "" then
    service.metadata.labels.get labelOriginName
  else service.metadata.name

/-- The loop of `cleanup` over the listed Services. A Service that two references
match is deleted twice, and the second call fails; references have no duplicates. -/
def cleanupServices (pass : SourcePass) (impactedServices : List ObjectKey)
    (services : List Service) : SourceReconcile PUnit :=
  services.forM (fun service =>
    impactedServices.forM (fun serviceRef =>
      if serviceRef.name = originalServiceName service ∧ serviceRef.ns = service.metadata.ns then do
        pass.call (.deleteService (plainServiceKey service)) "failed to delete service: "
        let key := plainServiceKey service
        Pass.modify (fun objects =>
          { objects with services :=
              deleteObject Service.metadata markedService objects.services key })
      else pure ⟨⟩))

/-- The Services that `cleanup` lists. -/
def managedServices (pass : SourcePass) (ns : String) : SourceReconcile (List Service) := do
  pass.call .listServices "failed to list services: "
  match ← Pass.read (fun objects : SourceObjects =>
      objects.services.list (fun key => key.ns = ns) pass.serviceOrder) with
  | none => Pass.await (fun _ => none)
  | some listed =>
      pure (listed.filter (fun service =>
        MatchingLabels [(labelManagedBy, labelControllerName)] service.metadata.labels))

/-- `cleanup` of `SourceReconciler`. -/
def SourceReconciler.cleanup (pass : SourcePass) (resource : Source) : SourceReconcile PUnit := do
  match extractServices resource with
  | none => Pass.fail "panic: runtime error: invalid memory address or nil pointer dereference"
  | some impactedServices =>
      let services ← managedServices pass resource.metadata.ns
      cleanupServices pass impactedServices services
      Pass.mapError ("failed to cleanup route: " ++ ·)
        (cleanupRoute pass resource.metadata.uid reconciler.clusterName)
      releaseSource pass resource

end Reconciler

end KubeLB.Ccm
