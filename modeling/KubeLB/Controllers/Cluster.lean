import KubeLB.Library.Passes
import KubeLB.Library.Store
import KubeLB.PortLookup.Mapper

/-!
Contract: the management cluster as the reconcilers of package `kubelb` see it.

Owns: the stored objects, the port allocator that the reconcilers share, how the
API server treats finalizers, and the annotation settings of a tenant.

Does not own: the order of API lists and the errors of API calls, which are inputs
of a pass. A pass is atomic: no other writer acts between its first read and its
last write.

Who created and who last updated a generated object, and what a teardown deleted,
are recorded for the proofs. No reconciler reads them.
-/

set_option autoImplicit false

namespace KubeLB.Controllers

open KubeLB.Library KubeLB.Core KubeLB.V1Alpha1 KubeLB.PortLookup

/-! ## Identities -/

/-- `types.NamespacedName`. -/
structure ObjectKey where
  ns : String
  name : String
  deriving DecidableEq, Repr

def keyOf (metadata : ObjectMeta) : ObjectKey where
  ns := metadata.ns
  name := metadata.name

/-- What the API server finds a generated resource by. The version is no part of
it. -/
structure ResourceKey where
  group : String
  kind : String
  ns : String
  name : String
  deriving DecidableEq, Repr

def resourceKeyOf (gvk : GroupVersionKind) (key : ObjectKey) : ResourceKey where
  group := gvk.group
  kind := gvk.kind
  ns := key.ns
  name := key.name

/-- An object with the Routes that created it and last updated it. -/
structure Owned (α : Type) where
  object : α
  createdBy : ObjectKey
  updatedBy : ObjectKey

def loadBalancerKey (lb : LoadBalancer) : ObjectKey := keyOf lb.metadata
def routeKey (route : Route) : ObjectKey := keyOf route.metadata
def serviceKey (service : Owned Service) : ObjectKey := keyOf service.object.metadata
def resourceKey (resource : Owned Unstructured) : ResourceKey :=
  resourceKeyOf resource.object.gvk (keyOf resource.object.metadata)

/-! ## State -/

/-- A generated object that a Route's teardown deleted. -/
structure Teardown where
  route : ObjectKey
  createdBy : ObjectKey
  updatedBy : ObjectKey
  deriving DecidableEq, Repr

structure Cluster where
  config : Config := {}
  /-- The Tenants by name. -/
  tenants : GoMap String Tenant := ∅
  /-- `RouteReconciler.DisableGatewayAPI`. -/
  disableGatewayAPI : Bool := false
  loadBalancers : Store loadBalancerKey := Store.empty
  routes : Store routeKey := Store.empty
  /-- The Services generated for Routes. -/
  services : Store serviceKey := Store.empty
  /-- The generated Ingresses, Gateways, HTTPRoutes and GRPCRoutes. -/
  resources : Store resourceKey := Store.empty
  portAllocator : PortAllocator := newPortAllocator
  teardowns : List Teardown := []

/-- A reconcile pass; an error is the text it prints. -/
abbrev Reconcile := Pass Cluster String

/-! ## Finalizers -/

def cleanupFinalizer : String := "kubelb.k8c.io/cleanup"
def envoyProxyCleanupFinalizer : String := "kubelb.k8c.io/cleanup-envoy-proxy"
def hostnameCleanupFinalizer : String := "kubelb.k8c.io/cleanup-hostname"

/-- The object is marked for deletion. -/
def Deleting (metadata : ObjectMeta) : Prop := metadata.deletionTimestamp.isSome

instance (metadata : ObjectMeta) : Decidable (Deleting metadata) :=
  inferInstanceAs (Decidable (_ = true))

def addFinalizer (finalizer : String) (metadata : ObjectMeta) : ObjectMeta :=
  if finalizer ∈ metadata.finalizers then metadata
  else { metadata with finalizers := metadata.finalizers ++ [finalizer] }

def removeFinalizer (finalizer : String) (metadata : ObjectMeta) : ObjectMeta :=
  { metadata with finalizers := metadata.finalizers.filter (· ≠ finalizer) }

/-- The time of a deletion mark is of no concern. -/
def markDeleting (metadata : ObjectMeta) : ObjectMeta :=
  { metadata with deletionTimestamp := some 0 }

def Route.marked (route : Route) : Route :=
  { route with metadata := markDeleting route.metadata }

section ApiServer

variable {α : Type} {identity : α → ObjectKey}

/-- An update. The API server removes a deleting object with its last finalizer. -/
def writeObject (metadata : α → ObjectMeta) (store : Store identity) (object : α) :
    Store identity :=
  if Deleting (metadata object) ∧ (metadata object).finalizers = [] then
    store.remove (identity object)
  else store.put object

/-- A delete request: an object without finalizers goes at once, any other is
marked. -/
def deleteObject (metadata : α → ObjectMeta) (mark : α → α) (store : Store identity)
    (key : ObjectKey) : Store identity :=
  match store.get key with
  | none => store
  | some object =>
      if Deleting (metadata object) then store
      else if (metadata object).finalizers = [] then store.remove key
      else store.put (mark object)

end ApiServer

section Writes

variable {α : Type} {identity : α → ObjectKey} {metadata : α → ObjectMeta}
  {store : Store identity} {object : α}

theorem get_writeObject_of_ne (metadata : α → ObjectMeta) (store : Store identity)
    {key : ObjectKey} (different : key ≠ identity object) :
    (writeObject metadata store object).get key = store.get key := by
  unfold writeObject
  split
  · exact Store.get_remove_of_ne _ different
  · exact Store.get_put_of_ne _ different

theorem eq_of_get_writeObject {found : α}
    (isFound : (writeObject metadata store object).get (identity object) = some found) :
    found = object := by
  unfold writeObject at isFound
  split at isFound
  · simp at isFound
  · rw [Store.get_put_self] at isFound
    cases isFound
    rfl

end Writes

section DeleteObject

variable {α : Type} {identity : α → ObjectKey} (metadata : α → ObjectMeta) (mark : α → α)
  (store : Store identity)

theorem get_deleteObject_of_ne (sameKey : ∀ object, identity (mark object) = identity object)
    {key other : ObjectKey} (different : other ≠ key) :
    (deleteObject metadata mark store key).get other = store.get other := by
  unfold deleteObject
  split
  · rfl
  · rename_i object found
    split
    · rfl
    · split
      · exact Store.get_remove_of_ne _ different
      · apply Store.get_put_of_ne
        rw [sameKey, Store.identity_of_get found]
        exact different

theorem deleting_of_get_deleteObject
    (sameKey : ∀ object, identity (mark object) = identity object)
    (marks : ∀ object, Deleting (metadata (mark object))) {key : ObjectKey} {kept : α}
    (isKept : (deleteObject metadata mark store key).get key = some kept) :
    Deleting (metadata kept) := by
  unfold deleteObject at isKept
  split at isKept
  · next absent => cases absent.symm.trans isKept
  · next object found =>
      split at isKept
      · next deleting =>
          cases found.symm.trans isKept
          exact deleting
      · split at isKept
        · simp at isKept
        · rw [← Store.identity_of_get found, ← sameKey object, Store.get_put_self] at isKept
          cases isKept
          exact marks object

end DeleteObject

/-! ## Settings of a tenant -/

/-- `GetAnnotations`: the propagation policy falls back as a whole. -/
def getAnnotations (tenant : Tenant) (config : Config) : AnnotationSettings :=
  let policy :=
    if tenant.spec.propagateAllAnnotations.isSome ∨ tenant.spec.propagatedAnnotations.isSome then
      tenant.spec
    else config.spec
  { propagatedAnnotations := policy.propagatedAnnotations
    propagateAllAnnotations := policy.propagateAllAnnotations
    deniedAnnotations :=
      (tenant.spec.deniedAnnotations.or config.spec.deniedAnnotations).getD []
    defaultAnnotations :=
      (tenant.spec.defaultAnnotations.or config.spec.defaultAnnotations).getD ∅ }

end KubeLB.Controllers
