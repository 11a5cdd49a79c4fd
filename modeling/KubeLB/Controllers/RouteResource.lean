import KubeLB.Controllers.Cluster
import KubeLB.Naming.Generated
import KubeLB.Resources.Annotations

/-!
Contract: the Ingress, Gateway, HTTPRoute or GRPCRoute that the Route reconciler
applies in the management cluster.

Owns: the supported kinds, the name, labels and annotations of the generated
resource, and `CreateOrUpdateIngress`, `CreateOrUpdateGateway`,
`CreateOrUpdateHTTPRoute` and `CreateOrUpdateGRPCRoute` with their errors.

Does not own: the specification after the helper rewrote backends, secrets, parents
and class, which is an input as the text it serialises to, and owner references.
-/

set_option autoImplicit false

namespace KubeLB.Controllers

open KubeLB.Library KubeLB.Core KubeLB.V1Alpha1 KubeLB.Naming KubeLB.Resources

/-! ## Inputs of a pass -/

/-- The API calls of a Route pass that may fail. -/
inductive Call where
  | listGateways
  | getResource
  | createResource
  | updateResource
  deriving DecidableEq, Repr

/-- One pass of the Route reconciler, with what its surroundings decide. -/
structure RoutePass where
  key : ObjectKey
  /-- The specification of the generated resource after the rewrites. -/
  spec : String := ""
  fault : Call → Option String := fun _ => none

/-- A call that fails with a text in front of the API error. -/
def RoutePass.call (pass : RoutePass) (call : Call) (message : String) : Reconcile PUnit :=
  Pass.check ((pass.fault call).map (message ++ ·))

/-! ## Kinds -/

/-- The types that `ConvertUnstructuredToObject` knows. -/
inductive ObjectKind where
  | ingress
  | service
  | gateway
  | httpRoute
  | grpcRoute
  deriving DecidableEq, Repr

def ingressGVK : GroupVersionKind := ⟨"networking.k8s.io", "v1", "Ingress"⟩

def gatewayGVK : GroupVersionKind := ⟨"gateway.networking.k8s.io", "v1", "Gateway"⟩
def httpRouteGVK : GroupVersionKind := ⟨"gateway.networking.k8s.io", "v1", "HTTPRoute"⟩
def grpcRouteGVK : GroupVersionKind := ⟨"gateway.networking.k8s.io", "v1", "GRPCRoute"⟩

/-! ## Annotations and labels -/

def lastAppliedConfigAnnotation : String := "kubectl.kubernetes.io/last-applied-configuration"

/-- `CompareAnnotations`. An object read from the API server has a nil map when it
has no annotations; nil and the empty map differ here. -/
def compareAnnotations : Option StringMap → Option StringMap → Bool
  | none, none => true
  | some a, some b =>
      decide (a = b) ||
        decide (a.erase lastAppliedConfigAnnotation = b.erase lastAppliedConfigAnnotation)
  | _, _ => false

def readAnnotations (annotations : StringMap) : Option StringMap :=
  if annotations = ∅ then none else some annotations

theorem getD_readAnnotations (stored : StringMap) : (readAnnotations stored).getD ∅ = stored := by
  unfold readAnnotations
  split
  · rename_i isEmpty
    exact isEmpty.symm
  · rfl

/-- Beside the content, `CompareAnnotations` compares whether the maps are nil. -/
theorem compareAnnotations_iff {a b : Option StringMap} :
    compareAnnotations a b = true ↔ (a = none ↔ b = none) ∧
      (a.getD ∅).erase lastAppliedConfigAnnotation =
        (b.getD ∅).erase lastAppliedConfigAnnotation := by
  cases a with
  | none =>
      cases b with
      | none => simp [compareAnnotations]
      | some b => simp [compareAnnotations]
  | some a =>
      cases b with
      | none => simp [compareAnnotations]
      | some b =>
          simp only [compareAnnotations, Bool.or_eq_true, decide_eq_true_eq, reduceCtorEq,
            true_and, Option.getD_some]
          exact ⟨fun either => either.elim (fun same => same ▸ rfl) id, Or.inr⟩

/-- `MergeAnnotations`, for a desired map that is not nil. -/
def mergeAnnotations (existing : Option StringMap) (desired : StringMap) : Option StringMap :=
  if compareAnnotations existing (some desired) then existing
  else some (desired ∪ existing.getD ∅)

/-- `AddKubeLBLabels` without a resource kind. -/
def addKubeLBLabels (labels : StringMap) (name ns : String) : StringMap :=
  ((labels.insert labelOriginName name).insert labelOriginNamespace ns).insert
    labelManagedBy labelControllerName

/-! ## The generated resource -/

def annotatedResource : ObjectKind → AnnotatedResource
  | .ingress => .ingress
  | .gateway => .gateway
  | .httpRoute => .httpRoute
  | .grpcRoute => .grpcRoute
  | .service => .service

/-- The name in the management cluster: a Gateway keeps its own. -/
def generatedResourceName (kind : ObjectKind) (source : Unstructured) : String :=
  if kind = .gateway then source.metadata.name
  else generateName source.metadata.name source.metadata.ns

/-- The source object after the transformations of its helper. -/
def desiredResource (pass : RoutePass) (kind : ObjectKind) (source : Unstructured)
    (ns : String) (annotations : AnnotationSettings) : Unstructured :=
  { source with
    metadata := { source.metadata with
      name := generatedResourceName kind source
      ns := ns
      uid := ""
      labels := addKubeLBLabels source.metadata.labels source.metadata.name source.metadata.ns
      annotations := propagateAnnotations source.metadata.annotations annotations
        (annotatedResource kind) }
    spec := pass.spec }

/-- The end that the four helpers share: read, then create, leave or update. -/
def createOrUpdateResource (pass : RoutePass) (object : Unstructured) : Reconcile PUnit := do
  pass.call .getResource ("failed to get " ++ object.gvk.kind ++ ": ")
  match ← Pass.read (fun cluster : Cluster =>
      cluster.resources.get (resourceKeyOf object.gvk (keyOf object.metadata))) with
  | none =>
      pass.call .createResource ("failed to create " ++ object.gvk.kind ++ ": ")
      Pass.modify (fun cluster =>
        { cluster with resources := cluster.resources.put ⟨object, pass.key, pass.key⟩ })
  | some existing =>
      let stored := existing.object
      let merged := mergeAnnotations (readAnnotations stored.metadata.annotations)
        object.metadata.annotations
      if stored.spec = object.spec ∧ stored.metadata.labels = object.metadata.labels ∧
          compareAnnotations (readAnnotations stored.metadata.annotations) merged then
        pure ⟨⟩
      else
        pass.call .updateResource ("failed to update " ++ object.gvk.kind ++ ": ")
        let updated : Unstructured :=
          { object with
            metadata := { object.metadata with
              uid := stored.metadata.uid
              annotations := merged.getD ∅ } }
        Pass.modify (fun cluster =>
          { cluster with
            resources := cluster.resources.put ⟨updated, existing.createdBy, pass.key⟩ })

/-! ## Gateways -/

def parentGatewayName : String := "kubelb"

def maxGatewaysPerTenant : Nat := 1

def Cluster.gateways (cluster : Cluster) (ns : String) : Finset ResourceKey :=
  cluster.resources.objects.keys.filter (fun key =>
    key.group = gatewayGVK.group ∧ key.kind = gatewayGVK.kind ∧ key.ns = ns)

/-- A Gateway that carries both origin labels and names another origin. -/
def claimedByOther (existing gateway : Unstructured) : Option (String × String) :=
  match existing.metadata.labels.lookup labelOriginName,
      existing.metadata.labels.lookup labelOriginNamespace with
  | some originName, some originNamespace =>
      if originName ≠ gateway.metadata.name ∨ originNamespace ≠ gateway.metadata.ns then
        some (originNamespace, originName)
      else none
  | _, _ => none

/-- The checks of `CreateOrUpdateGateway` before it touches the object: the first
origin keeps a name, and a tenant has a limited number of Gateways. -/
def admitGateway (pass : RoutePass) (gateway : Unstructured) (ns : String) :
    Reconcile PUnit := do
  pass.call .listGateways "failed to list Gateways: "
  match ← Pass.read (fun cluster : Cluster =>
      cluster.resources.get (resourceKeyOf gatewayGVK ⟨ns, gateway.metadata.name⟩)) with
  | some existing =>
      match claimedByOther existing.object gateway with
      | some (originNamespace, originName) =>
          Pass.fail ("gateway name \"" ++ gateway.metadata.name ++ "\" is already claimed by " ++
            originNamespace ++ "/" ++ originName ++ " in the tenant cluster; " ++
            "a Gateway name can only be owned by one source object per tenant")
      | none => pure ⟨⟩
  | none =>
      let count ← Pass.read (fun cluster : Cluster => (cluster.gateways ns).card)
      if maxGatewaysPerTenant ≤ count then
        Pass.fail ("maximum of " ++ toString maxGatewaysPerTenant ++
          " Gateway object(s) per tenant is supported")
      else pure ⟨⟩

/-- The helper of a kind: the object as the helper leaves it, and its error. A
Gateway that is not admitted is left as it was. -/
def applyResource (pass : RoutePass) (kind : ObjectKind) (source : Unstructured) (ns : String)
    (annotations : AnnotationSettings) : Reconcile (Unstructured × Option String) := do
  let admitted ← Pass.attempt
    (if kind = .gateway then admitGateway pass source ns else pure ⟨⟩)
  match admitted with
  | .error error => pure (source, some error)
  | .ok _ =>
      let object := desiredResource pass kind source ns annotations
      let applied ← Pass.attempt (createOrUpdateResource pass object)
      match applied with
      | .error error => pure (object, some error)
      | .ok _ => pure (object, none)

end KubeLB.Controllers
