import KubeLB.Conversion.PolicyTargets
import KubeLB.Conversion.SecretSync

/-!
Contract: the stages of a pass that converts an Ingress.

Owns: what each stage writes when it succeeds, the Ingress that a pass converts, and
which objects a pass leaves alone.

Does not own: runs of several passes.
-/

set_option autoImplicit false

namespace KubeLB.Conversion

open KubeLB.Library KubeLB.Core KubeLB.Networking KubeLB.GatewayApi KubeLB.EnvoyGateway
  KubeLB.Controllers

/-! ## Generated objects -/

section Write

variable {α : Type} (generated : GeneratedStore α)

/-- What is stored for an object when `existing` was stored before. -/
def GeneratedStore.replaced (existing : Option α) (object : α) : α :=
  match existing with
  | none => object
  | some existing => generated.replace existing object

/-- The effect of `reconcile`. -/
def GeneratedStore.write (objects : ConversionObjects) (object : α) : ConversionObjects :=
  let stored := generated.stored objects
  generated.store
    (stored.put (generated.replaced (stored.get (keyOf (generated.metadata object))) object))
    objects

/-- A kind has a place of its own, and an update keeps the key and takes the labels. -/
structure GeneratedStore.Lawful : Prop where
  stored_store : ∀ stored objects, generated.stored (generated.store stored objects) = stored
  keyOf_replace : ∀ existing object,
    keyOf (generated.metadata (generated.replace existing object)) =
      keyOf (generated.metadata existing)
  labels_replace : ∀ existing object,
    (generated.metadata (generated.replace existing object)).labels =
      (generated.metadata object).labels

theorem lawful_httpRouteStore : httpRouteStore.Lawful :=
  ⟨fun _ _ => rfl, fun _ _ => rfl, fun _ _ => rfl⟩

theorem lawful_grpcRouteStore : grpcRouteStore.Lawful :=
  ⟨fun _ _ => rfl, fun _ _ => rfl, fun _ _ => rfl⟩

/-- The objects of a kind were written over those that were stored. -/
def GeneratedStore.Rewritten (objects : List α) (start reached : ConversionObjects) : Prop :=
  ∃ base, generated.stored base = generated.stored start ∧
    generated.stored reached = generated.stored (objects.foldl generated.write base)

variable {generated} {pass : ConversionPass} {start reached : ConversionObjects}

theorem eq_write_of_reconcile_ok {object : α}
    (run : generated.reconcile pass object start = some (.ok ⟨⟩, reached)) :
    reached = generated.write start object := by
  unfold GeneratedStore.reconcile at run
  obtain ⟨existing, isExisting, written⟩ := Pass.of_check_read run
  unfold GeneratedStore.write GeneratedStore.replaced
  cases existing with
  | none =>
      obtain rfl := Pass.of_check_modify written
      simp only [← isExisting]
  | some existing =>
      obtain rfl := Pass.of_check_modify written
      simp only [← isExisting]

theorem eq_foldl_write_of_forM_ok {objects : List α}
    (run : objects.forM (generated.reconcile pass) start = some (.ok ⟨⟩, reached)) :
    reached = objects.foldl generated.write start :=
  Pass.eq_foldl_of_forM_ok (fun _ _ _ written => eq_write_of_reconcile_ok written) run

/-- A part that storing objects of a kind keeps, reconciling them keeps as well. -/
theorem keeps_reconcile {γ : Type} (part : ConversionObjects → γ)
    (same : ∀ stored objects, part (generated.store stored objects) = part objects) (object : α) :
    Pass.Keeps part (generated.reconcile pass object) := by
  unfold GeneratedStore.reconcile
  refine Pass.keeps_check_read fun existing => ?_
  cases existing with
  | none =>
      exact Pass.keeps_check_modify (fun objects => same _ objects)
  | some existing =>
      exact Pass.keeps_check_modify (fun objects => same _ objects)

theorem foldl_write_keeps {γ : Type} (part : ConversionObjects → γ)
    (same : ∀ stored objects, part (generated.store stored objects) = part objects)
    (objects : List α) : part (objects.foldl generated.write start) = part start := by
  induction objects generalizing start with
  | nil => rfl
  | cons object rest ih =>
      rw [List.foldl_cons, ih]
      exact same _ start

section Lawful

variable (lawful : generated.Lawful)
include lawful

theorem get_write_self (object : α) :
    (generated.stored (generated.write start object)).get (keyOf (generated.metadata object)) =
      some (generated.replaced
        ((generated.stored start).get (keyOf (generated.metadata object))) object) := by
  have isKey : keyOf (generated.metadata (generated.replaced
      ((generated.stored start).get (keyOf (generated.metadata object))) object)) =
        keyOf (generated.metadata object) := by
    unfold GeneratedStore.replaced
    split
    · rfl
    · rename_i existing isExisting
      rw [lawful.keyOf_replace]
      exact (generated.stored start).keyed isExisting
  rw [GeneratedStore.write, lawful.stored_store]
  have stored := (generated.stored start).get_put_self (generated.replaced
    ((generated.stored start).get (keyOf (generated.metadata object))) object)
  rwa [isKey] at stored

theorem get_write_of_ne {object : α} {key : ObjectKey}
    (different : key ≠ keyOf (generated.metadata object)) :
    (generated.stored (generated.write start object)).get key =
      (generated.stored start).get key := by
  rw [GeneratedStore.write, lawful.stored_store]
  apply Store.get_put_of_ne
  unfold GeneratedStore.replaced
  split
  · exact different
  · rename_i existing isExisting
    rw [lawful.keyOf_replace, (generated.stored start).keyed isExisting]
    exact different

/-- Keys without an object keep what they have. -/
theorem get_foldl_write_of_notMem {objects : List α} {key : ObjectKey}
    (noKey : ∀ object ∈ objects, keyOf (generated.metadata object) ≠ key) :
    (generated.stored (objects.foldl generated.write start)).get key =
      (generated.stored start).get key := by
  induction objects generalizing start with
  | nil => rfl
  | cons object rest ih =>
      rw [List.forall_mem_cons] at noKey
      rw [List.foldl_cons, ih noKey.2,
        get_write_of_ne lawful (Ne.symm noKey.1)]

/-- An object of a list with distinct keys is stored over what was there before. -/
theorem get_foldl_write_of_mem {objects : List α}
    (distinct : (objects.map (fun object => keyOf (generated.metadata object))).Nodup)
    {object : α} (isObject : object ∈ objects) :
    (generated.stored (objects.foldl generated.write start)).get
        (keyOf (generated.metadata object)) =
      some (generated.replaced
        ((generated.stored start).get (keyOf (generated.metadata object))) object) := by
  induction objects generalizing start with
  | nil => cases isObject
  | cons head rest ih =>
      rw [List.map_cons, List.nodup_cons] at distinct
      rw [List.foldl_cons]
      rcases List.mem_cons.mp isObject with rfl | isLater
      · rw [get_foldl_write_of_notMem lawful, get_write_self lawful]
        intro other isOther sameKey
        exact distinct.1 (List.mem_map.mpr ⟨other, isOther, sameKey⟩)
      · have different : keyOf (generated.metadata object) ≠ keyOf (generated.metadata head) := by
          intro sameKey
          exact distinct.1 (List.mem_map.mpr ⟨object, isLater, sameKey⟩)
        rw [ih distinct.2 isLater, get_write_of_ne lawful different]

/-- Reconciling an object keeps what is stored under other keys, also when it fails. -/
theorem keeps_get_reconcile {object : α} {key : ObjectKey}
    (different : key ≠ keyOf (generated.metadata object)) :
    Pass.Keeps (fun objects => (generated.stored objects).get key)
      (generated.reconcile pass object) := by
  intro start
  unfold GeneratedStore.reconcile
  apply Pass.ensures_bind_check (fun _ => rfl)
  apply Pass.ensures_bind_read
  cases isExisting : (generated.stored start).get (keyOf (generated.metadata object)) with
  | none =>
      apply Pass.ensures_bind_check (fun _ => rfl)
      apply Pass.ensures_modify
      simp only [lawful.stored_store]
      exact Store.get_put_of_ne _ different
  | some existing =>
      apply Pass.ensures_bind_check (fun _ => rfl)
      apply Pass.ensures_modify
      simp only [lawful.stored_store]
      apply Store.get_put_of_ne
      rw [lawful.keyOf_replace, (generated.stored start).keyed isExisting]
      exact different

theorem labels_replaced (existing : Option α) (object : α) :
    (generated.metadata (generated.replaced existing object)).labels =
      (generated.metadata object).labels := by
  cases existing with
  | none => rfl
  | some existing => exact lawful.labels_replace existing object

theorem GeneratedStore.Rewritten.get_of_mem {objects : List α}
    (rewritten : generated.Rewritten objects start reached)
    (distinct : (objects.map (fun object => keyOf (generated.metadata object))).Nodup)
    {object : α} (isObject : object ∈ objects) :
    (generated.stored reached).get (keyOf (generated.metadata object)) =
      some (generated.replaced
        ((generated.stored start).get (keyOf (generated.metadata object))) object) := by
  obtain ⟨base, isBase, isReached⟩ := rewritten
  rw [isReached, get_foldl_write_of_mem lawful distinct isObject, isBase]

end Lawful

end Write

/-! ## Secrets -/

section Secrets

variable {reconciler : Reconciler} {pass : ConversionPass}

def ConversionObjects.withoutSecrets (objects : ConversionObjects) : ConversionObjects :=
  { objects with secrets := Store.empty }

theorem keeps_syncSecret (source : ObjectKey) :
    Pass.Keeps ConversionObjects.withoutSecrets (reconciler.syncSecret pass source) := by
  unfold Reconciler.syncSecret
  refine Pass.keeps_check_read fun found => ?_
  cases found with
  | none => exact Pass.keeps_pure _
  | some secret =>
      refine Pass.keeps_check_read fun target => ?_
      cases target with
      | none =>
          refine Pass.keeps_bind (Pass.keeps_check _) fun _ =>
            Pass.keeps_bind (Pass.keeps_modify ?_) (fun _ => Pass.keeps_pure _)
          exact fun _ => rfl
      | some existing =>
          simp only
          split
          · exact Pass.keeps_pure _
          · refine Pass.keeps_bind (Pass.keeps_check _) fun _ =>
              Pass.keeps_bind (Pass.keeps_modify ?_) (fun _ => Pass.keeps_pure _)
            exact fun _ => rfl

theorem keeps_syncRounds (listeners : List TLSListener) (seen : Finset String) :
    Pass.Keeps ConversionObjects.withoutSecrets (reconciler.syncRounds pass listeners seen) := by
  induction listeners generalizing seen with
  | nil => exact Pass.keeps_pure _
  | cons tls rest ih =>
      unfold Reconciler.syncRounds
      simp only
      split
      · exact Pass.keeps_bind (ih _) (fun _ => Pass.keeps_pure _)
      · split
        · exact Pass.keeps_bind (ih _) (fun _ => Pass.keeps_pure _)
        · apply Pass.keeps_bind (keeps_syncSecret _)
          intro _
          exact Pass.keeps_bind (ih _) (fun _ => Pass.keeps_pure _)

theorem keeps_syncTLSSecrets (listeners : List TLSListener) :
    Pass.Keeps ConversionObjects.withoutSecrets (reconciler.syncTLSSecrets pass listeners) := by
  unfold Reconciler.syncTLSSecrets
  split
  · exact keeps_syncRounds listeners ∅
  · exact Pass.keeps_pure _

end Secrets

/-! ## The Gateway -/

section Gateway

def Reconciler.writeGateway (reconciler : Reconciler) (ingress : Ingress)
    (listeners : List TLSListener) (objects : ConversionObjects) : ConversionObjects :=
  let config := reconciler.gatewayConfig ingress listeners
  match objects.gateways.get ⟨config.ns, config.name⟩ with
  | none => { objects with gateways := objects.gateways.put (buildGateway config) }
  | some existing =>
      if gatewayOutdated existing config then
        { objects with gateways := objects.gateways.put (mergeGateway existing config) }
      else objects

variable {reconciler : Reconciler} {pass : ConversionPass} {ingress : Ingress}
  {listeners : List TLSListener} {start reached : ConversionObjects}

theorem eq_writeGateway_of_ok
    (run : reconciler.reconcileGateway pass ingress listeners start = some (.ok ⟨⟩, reached)) :
    reached = reconciler.writeGateway ingress listeners start := by
  unfold Reconciler.reconcileGateway at run
  obtain ⟨existing, isExisting, written⟩ := Pass.of_check_read run
  unfold Reconciler.writeGateway
  simp only [← isExisting]
  cases existing with
  | none =>
      obtain rfl := Pass.of_check_modify written
      rfl
  | some existing =>
      simp only at written
      split at written
      · rename_i isOutdated
        obtain rfl := Pass.of_check_modify written
        simp only [isOutdated, if_true]
      · rename_i isCurrent
        simp only [isCurrent]
        exact (Pass.pure_eq_ok_iff.mp written).2

theorem keeps_reconcileGateway {γ : Type} (part : ConversionObjects → γ)
    (same : ∀ (gateways : Store fun gateway : Gateway => keyOf gateway.metadata) objects,
      part { objects with gateways := gateways } = part objects) :
    Pass.Keeps part (reconciler.reconcileGateway pass ingress listeners) := by
  unfold Reconciler.reconcileGateway
  refine Pass.keeps_check_read fun found => ?_
  cases found with
  | none =>
      exact Pass.keeps_check_modify (fun objects => same _ objects)
  | some existing =>
      simp only
      split
      · exact Pass.keeps_check_modify (fun objects => same _ objects)
      · exact Pass.keeps_pure _

theorem writeGateway_keeps {γ : Type} (part : ConversionObjects → γ)
    (same : ∀ (gateways : Store fun gateway : Gateway => keyOf gateway.metadata) objects,
      part { objects with gateways := gateways } = part objects) :
    part (reconciler.writeGateway ingress listeners start) = part start := by
  unfold Reconciler.writeGateway
  simp only
  split
  · exact same _ start
  · split
    · exact same _ start
    · rfl

end Gateway

/-! ## Policies -/

/-- The part of `reconcilePolicies` whose error becomes a warning. -/
def writePolicies (pass : ConversionPass) (policies : PolicyConversionResult) :
    Converting PUnit := do
  policies.securityPolicies.forM (securityPolicyStore.reconcile pass)
  policies.backendTrafficPolicies.forM (backendTrafficPolicyStore.reconcile pass)

def policyWarnings (policies : PolicyConversionResult) (outcome : Except String PUnit) :
    List String :=
  match outcome with
  | .ok _ => policies.warnings
  | .error error => policies.warnings ++ ["failed to reconcile policies: " ++ error]

section Policies

variable {pass : ConversionPass} {policies : PolicyConversionResult}
  {start reached : ConversionObjects}

theorem exists_outcome_of_reconcilePolicies_ok {warnings : List String}
    (run : reconcilePolicies pass policies start = some (.ok warnings, reached)) :
    ∃ outcome, writePolicies pass policies start = some (outcome, reached) ∧
      warnings = policyWarnings policies outcome := by
  unfold reconcilePolicies at run
  obtain ⟨outcome, between, attempted, finished⟩ := Pass.bind_eq_ok_iff.mp run
  have written := Pass.attempt_eq_ok_iff.mp attempted
  cases outcome with
  | ok value =>
      obtain ⟨rfl, rfl⟩ := Pass.pure_eq_ok_iff.mp finished
      exact ⟨.ok value, written, rfl⟩
  | error error =>
      obtain ⟨rfl, rfl⟩ := Pass.pure_eq_ok_iff.mp finished
      exact ⟨.error error, written, rfl⟩

theorem keeps_writePolicies {γ : Type} (part : ConversionObjects → γ)
    (security : ∀ stored objects, part (securityPolicyStore.store stored objects) = part objects)
    (traffic : ∀ stored objects,
      part (backendTrafficPolicyStore.store stored objects) = part objects) :
    Pass.Keeps part (writePolicies pass policies) :=
  Pass.keeps_bind (Pass.keeps_forM _ (keeps_reconcile part security))
    (fun _ => Pass.keeps_forM _ (keeps_reconcile part traffic))

end Policies

/-! ## Status -/

section Status

variable (pass : ConversionPass) (result : ConversionResult) (warnings : List String)

/-- The decision of `updateIngressStatusStaged` about the Ingress it reads. -/
def ConversionPass.statusDecision (current : Ingress) : StatusDecision :=
  determineConversionStatus pass.time pass.now
    (current.metadata.annotations.get annotationVerificationTimestamp)
    ((judgedRoutes pass result).all (fun route => route.verdict.accepted)) warnings
    ((judgedRoutes pass result).any JudgedRoute.timedOut)

def ConversionPass.withStatus (current : Ingress) : Ingress :=
  { current with
    metadata :=
      { current.metadata with
        annotations := statusAnnotations pass.time pass.now current.metadata.annotations
          (pass.statusDecision result warnings current) warnings
          (result.httpRoutes.map (fun route => sourceText (keyOf route.metadata)))
          (result.grpcRoutes.map (fun route => sourceText (keyOf route.metadata))) } }

variable {pass result warnings} {start reached : ConversionObjects} {requeue : Bool}

theorem keeps_updateIngressStatusStaged {γ : Type} (part : ConversionObjects → γ)
    (same : ∀ (ingresses : Store fun ingress : Ingress => keyOf ingress.metadata) objects,
      part { objects with ingresses := ingresses } = part objects) :
    Pass.Keeps part (updateIngressStatusStaged pass result warnings) := by
  unfold updateIngressStatusStaged
  refine Pass.keeps_check_read fun found => ?_
  cases found with
  | none => exact Pass.keeps_fail _
  | some current =>
      refine Pass.keeps_bind (Pass.keeps_check _) fun _ =>
        Pass.keeps_bind (Pass.keeps_modify ?_) (fun _ => Pass.keeps_pure _)
      exact fun objects => same _ objects

theorem updateIngressStatusStaged_ok
    (run : updateIngressStatusStaged pass result warnings start = some (.ok requeue, reached)) :
    ∃ current, start.ingresses.get pass.key = some current ∧
      requeue = (pass.statusDecision result warnings current).requeue ∧
      reached = { start with
        ingresses := start.ingresses.put (pass.withStatus result warnings current) } := by
  unfold updateIngressStatusStaged at run
  obtain ⟨found, isFound, written⟩ := Pass.of_check_read run
  cases found with
  | none => exact absurd written Pass.fail_ne_ok
  | some current =>
      simp only [Pass.bind_eq_ok_iff, Pass.check_eq_ok_iff, Pass.modify_eq_ok_iff,
        Pass.pure_eq_ok_iff] at written
      obtain ⟨-, _, ⟨-, rfl⟩, -, _, rfl, rfl, rfl⟩ := written
      exact ⟨current, isFound.symm, rfl, rfl⟩

end Status

/-! ## A pass -/

section Pass

variable (reconciler : Reconciler) (pass : ConversionPass)

def Reconciler.resultOf (objects : ConversionObjects) (ingress : Ingress) : ConversionResult :=
  convertIngressWithServices pass.surroundings
    (reconciler.input ingress (fetchServicesForIngress pass objects ingress))

/-- The routes and the Gateway that a pass writes. -/
def Reconciler.writeRoutes (ingress : Ingress) (result : ConversionResult)
    (listeners : List TLSListener) (objects : ConversionObjects) : ConversionObjects :=
  (reconciler.desiredGRPCRoutes ingress result).foldl grpcRouteStore.write
    ((reconciler.desiredHTTPRoutes ingress result).foldl httpRouteStore.write
      (reconciler.writeGateway ingress listeners objects))

def Reconciler.warningsOf (ingress : Ingress) (result : ConversionResult)
    (outcome : Except String PUnit) : List String :=
  result.warnings ++ policyWarnings (reconciler.generatedPolicies ingress result) outcome ++
    (judgedRoutes pass result).flatMap JudgedRoute.warnings

/-- A pass that converted an Ingress, stage by stage. -/
structure Stages (ingress : Ingress) (start reached : ConversionObjects) (requeue : Bool) where
  listeners : List TLSListener
  afterSecrets : ConversionObjects
  policyOutcome : Except String PUnit
  afterPolicies : ConversionObjects
  hasRoutes : (reconciler.resultOf pass start ingress).httpRoutes ≠ [] ∨
    (reconciler.resultOf pass start ingress).grpcRoutes ≠ []
  synced : reconciler.syncTLSSecrets pass (reconciler.tlsListenersOf ingress) start =
    some (.ok listeners, afterSecrets)
  policies : writePolicies pass
      (reconciler.generatedPolicies ingress (reconciler.resultOf pass start ingress))
      (reconciler.writeRoutes ingress (reconciler.resultOf pass start ingress) listeners
        afterSecrets) = some (policyOutcome, afterPolicies)
  status : updateIngressStatusStaged pass (reconciler.resultOf pass start ingress)
      (reconciler.warningsOf pass ingress (reconciler.resultOf pass start ingress) policyOutcome)
      afterPolicies = some (.ok requeue, reached)

variable {reconciler pass} {ingress : Ingress} {start reached : ConversionObjects} {requeue : Bool}

theorem tlsListeners_resultOf :
    (reconciler.resultOf pass start ingress).tlsListeners = reconciler.tlsListenersOf ingress := by
  unfold Reconciler.resultOf convertIngressWithServices
  simp only
  split <;> rfl

/-- A pass that succeeds went through every stage. -/
theorem nonempty_stages
    (run : reconciler.reconcileIngress pass ingress start = some (.ok requeue, reached)) :
    Nonempty (Stages reconciler pass ingress start reached requeue) := by
  unfold Reconciler.reconcileIngress at run
  simp only [Pass.bind_eq_ok_iff, Pass.check_eq_ok_iff, Pass.read_eq_ok_iff,
    Pass.mapError_eq_ok_iff] at run
  obtain ⟨_, _, ⟨rfl, rfl⟩, _, _, ⟨hasRoutes, rfl⟩, listeners, afterSecrets, synced, _,
    afterGateway, gateway, _, afterHTTP, http, _, afterGRPC, grpc, warnings, afterPolicies,
    policies, status⟩ := run
  have isGateway := eq_writeGateway_of_ok gateway
  have isHTTP := eq_foldl_write_of_forM_ok http
  have isGRPC := eq_foldl_write_of_forM_ok grpc
  subst isGateway isHTTP isGRPC
  obtain ⟨outcome, written, rfl⟩ := exists_outcome_of_reconcilePolicies_ok policies
  refine ⟨⟨listeners, afterSecrets, outcome, afterPolicies, ?_, ?_, written, status⟩⟩
  · by_contra noRoutes
    rw [not_or, not_not, not_not] at noRoutes
    rw [if_pos] at hasRoutes
    · cases hasRoutes
    · rw [Bool.and_eq_true, List.isEmpty_iff, List.isEmpty_iff]
      exact noRoutes
  · refine Eq.trans ?_ synced
    rw [← tlsListeners_resultOf]
    rfl

/-- A pass keeps what its loops over routes keep and its other stages do not concern,
whether it succeeds or fails. -/
theorem reconcileIngress_ensures_part {γ : Type} (part : ConversionObjects → γ)
    (ofSecrets : ∀ (secrets : Store fun secret : Secret => keyOf secret.metadata) objects,
      part { objects with secrets := secrets } = part objects)
    (ofGateways : ∀ (gateways : Store fun gateway : Gateway => keyOf gateway.metadata) objects,
      part { objects with gateways := gateways } = part objects)
    (ofSecurity : ∀ stored objects, part (securityPolicyStore.store stored objects) = part objects)
    (ofTraffic : ∀ stored objects,
      part (backendTrafficPolicyStore.store stored objects) = part objects)
    (ofIngresses : ∀ (ingresses : Store fun ingress : Ingress => keyOf ingress.metadata) objects,
      part { objects with ingresses := ingresses } = part objects)
    (ofHTTP : Pass.Keeps part ((reconciler.desiredHTTPRoutes ingress
      (reconciler.resultOf pass start ingress)).forM (httpRouteStore.reconcile pass)))
    (ofGRPC : Pass.Keeps part ((reconciler.desiredGRPCRoutes ingress
      (reconciler.resultOf pass start ingress)).forM (grpcRouteStore.reconcile pass))) :
    (reconciler.reconcileIngress pass ingress).Ensures start
      (fun _ reached => part reached = part start) := by
  have ofSync (listeners : List TLSListener) :
      Pass.Keeps part (reconciler.syncTLSSecrets pass listeners) := by
    intro before
    apply (keeps_syncTLSSecrets listeners before).mono
    intro _ after frame
    rw [← ofSecrets Store.empty after, ← ofSecrets Store.empty before]
    exact congrArg part frame
  unfold Reconciler.reconcileIngress
  apply Pass.ensures_bind_read
  apply Pass.ensures_bind_check (fun _ => rfl)
  refine Pass.keeps_bind (Pass.keeps_mapError (ofSync _)) (fun listeners => ?_) start
  refine Pass.keeps_bind (Pass.keeps_mapError (keeps_reconcileGateway part ofGateways))
    (fun _ => ?_)
  refine Pass.keeps_bind ofHTTP (fun _ => Pass.keeps_bind ofGRPC (fun _ => ?_))
  refine Pass.keeps_bind ?_ (fun warnings =>
    Pass.keeps_mapError (keeps_updateIngressStatusStaged part ofIngresses))
  unfold reconcilePolicies
  refine Pass.keeps_bind (Pass.keeps_attempt (keeps_writePolicies part ofSecurity ofTraffic)) ?_
  intro outcome
  cases outcome <;> exact Pass.keeps_pure _

namespace Stages

variable (stages : Stages reconciler pass ingress start reached requeue)
include stages

theorem withoutSecrets_afterSecrets :
    stages.afterSecrets.withoutSecrets = start.withoutSecrets :=
  (keeps_syncTLSSecrets _ start).of_run stages.synced

theorem part_reached {γ : Type} (part : ConversionObjects → γ)
    (ofIngresses : ∀ (ingresses : Store fun ingress : Ingress => keyOf ingress.metadata) objects,
      part { objects with ingresses := ingresses } = part objects) :
    part reached = part stages.afterPolicies := by
  obtain ⟨current, -, -, isReached⟩ := updateIngressStatusStaged_ok stages.status
  exact (congrArg part isReached).trans (ofIngresses _ _)

/-- What neither the status nor the policies concern. -/
theorem part_eq {γ : Type} (part : ConversionObjects → γ)
    (security : ∀ stored objects, part (securityPolicyStore.store stored objects) = part objects)
    (traffic : ∀ stored objects,
      part (backendTrafficPolicyStore.store stored objects) = part objects)
    (ingresses : ∀ (ingresses : Store fun ingress : Ingress => keyOf ingress.metadata) objects,
      part { objects with ingresses := ingresses } = part objects) :
    part reached = part (reconciler.writeRoutes ingress (reconciler.resultOf pass start ingress)
      stages.listeners stages.afterSecrets) :=
  (stages.part_reached part ingresses).trans
    ((keeps_writePolicies part security traffic _).of_run stages.policies)

theorem secrets : reached.secrets = stages.afterSecrets.secrets := by
  refine (stages.part_eq ConversionObjects.secrets (fun _ _ => rfl) (fun _ _ => rfl)
    (fun _ _ => rfl)).trans ?_
  rw [Reconciler.writeRoutes, foldl_write_keeps ConversionObjects.secrets (fun _ _ => rfl),
    foldl_write_keeps ConversionObjects.secrets (fun _ _ => rfl),
    writeGateway_keeps ConversionObjects.secrets (fun _ _ => rfl)]

theorem gateways :
    reached.gateways =
      (reconciler.writeGateway ingress stages.listeners stages.afterSecrets).gateways := by
  refine (stages.part_eq ConversionObjects.gateways (fun _ _ => rfl) (fun _ _ => rfl)
    (fun _ _ => rfl)).trans ?_
  rw [Reconciler.writeRoutes, foldl_write_keeps ConversionObjects.gateways (fun _ _ => rfl),
    foldl_write_keeps ConversionObjects.gateways (fun _ _ => rfl)]

theorem httpRoutes : httpRouteStore.Rewritten
    (reconciler.desiredHTTPRoutes ingress (reconciler.resultOf pass start ingress)) start
    reached := by
  refine ⟨reconciler.writeGateway ingress stages.listeners stages.afterSecrets, ?_, ?_⟩
  · have frame := congrArg ConversionObjects.httpRoutes stages.withoutSecrets_afterSecrets
    exact (writeGateway_keeps ConversionObjects.httpRoutes (fun _ _ => rfl)).trans frame
  · refine (stages.part_eq ConversionObjects.httpRoutes (fun _ _ => rfl) (fun _ _ => rfl)
      (fun _ _ => rfl)).trans ?_
    exact foldl_write_keeps ConversionObjects.httpRoutes (fun _ _ => rfl) _

theorem grpcRoutes : grpcRouteStore.Rewritten
    (reconciler.desiredGRPCRoutes ingress (reconciler.resultOf pass start ingress)) start
    reached := by
  refine ⟨(reconciler.desiredHTTPRoutes ingress
    (reconciler.resultOf pass start ingress)).foldl httpRouteStore.write
      (reconciler.writeGateway ingress stages.listeners stages.afterSecrets), ?_, ?_⟩
  · have frame := congrArg ConversionObjects.grpcRoutes stages.withoutSecrets_afterSecrets
    exact (foldl_write_keeps ConversionObjects.grpcRoutes (fun _ _ => rfl) _).trans
      ((writeGateway_keeps ConversionObjects.grpcRoutes (fun _ _ => rfl)).trans frame)
  · exact stages.part_eq ConversionObjects.grpcRoutes (fun _ _ => rfl) (fun _ _ => rfl)
      (fun _ _ => rfl)

/-- The state before the policies are written. -/
theorem part_writeRoutes {γ : Type} (part : ConversionObjects → γ)
    (ofSecrets : ∀ (secrets : Store fun secret : Secret => keyOf secret.metadata) objects,
      part { objects with secrets := secrets } = part objects)
    (ofGateways : ∀ (gateways : Store fun gateway : Gateway => keyOf gateway.metadata) objects,
      part { objects with gateways := gateways } = part objects)
    (ofHTTP : ∀ stored objects, part (httpRouteStore.store stored objects) = part objects)
    (ofGRPC : ∀ stored objects, part (grpcRouteStore.store stored objects) = part objects) :
    part (reconciler.writeRoutes ingress (reconciler.resultOf pass start ingress)
      stages.listeners stages.afterSecrets) = part start := by
  rw [Reconciler.writeRoutes, foldl_write_keeps part ofGRPC, foldl_write_keeps part ofHTTP,
    writeGateway_keeps part ofGateways, ← ofSecrets Store.empty, ← ofSecrets Store.empty start]
  exact congrArg part stages.withoutSecrets_afterSecrets

/-- The pass ends with the status of the Ingress. -/
theorem ingresses : ∃ current, start.ingresses.get pass.key = some current ∧
    requeue = (pass.statusDecision (reconciler.resultOf pass start ingress)
      (reconciler.warningsOf pass ingress (reconciler.resultOf pass start ingress)
        stages.policyOutcome) current).requeue ∧
    reached.ingresses = start.ingresses.put (pass.withStatus
      (reconciler.resultOf pass start ingress)
      (reconciler.warningsOf pass ingress (reconciler.resultOf pass start ingress)
        stages.policyOutcome) current) := by
  have same : stages.afterPolicies.ingresses = start.ingresses := by
    refine ((keeps_writePolicies ConversionObjects.ingresses (fun _ _ => rfl) (fun _ _ => rfl)
      _).of_run stages.policies).trans ?_
    exact stages.part_writeRoutes ConversionObjects.ingresses (fun _ _ => rfl) (fun _ _ => rfl)
      (fun _ _ => rfl) (fun _ _ => rfl)
  obtain ⟨current, isCurrent, isRequeue, isReached⟩ := updateIngressStatusStaged_ok stages.status
  rw [same] at isCurrent isReached
  exact ⟨current, isCurrent, isRequeue, congrArg ConversionObjects.ingresses isReached⟩

end Stages

/-! ## The Ingress of a pass -/

variable (reconciler) in
/-- The Ingress that a pass for a key converts. -/
def Reconciler.convertedIngress (objects : ConversionObjects) (key : ObjectKey) : Option Ingress :=
  (objects.ingresses.get key).filter (fun ingress =>
    !decide (Deleting ingress.metadata) && (reconciler.shouldConvert ingress).shouldConvert)

theorem reconcileIngress_of_reconcile
    (isConverted : reconciler.convertedIngress start pass.key = some ingress)
    (run : reconciler.reconcile pass start = some (.ok requeue, reached)) :
    reconciler.reconcileIngress pass ingress start = some (.ok requeue, reached) := by
  unfold Reconciler.reconcile at run
  obtain ⟨found, isFound, finished⟩ := Pass.of_check_read run
  obtain ⟨isIngress, converts⟩ := Option.filter_eq_some_iff.mp isConverted
  rw [isIngress] at isFound
  subst isFound
  simp only [Bool.and_eq_true, Bool.not_eq_true', decide_eq_false_iff_not] at converts
  simpa only [converts.1, converts.2, if_true, if_false] using finished

theorem annotateSkipped_ok {reason : String}
    (run : annotateSkipped pass reason start = some (.ok ⟨⟩, reached)) :
    reached = start ∨ ∃ current annotations, start.ingresses.get pass.key = some current ∧
      reached = { start with
        ingresses := start.ingresses.put
          { current with metadata := { current.metadata with annotations := annotations } } } := by
  unfold annotateSkipped at run
  obtain ⟨found, isFound, finished⟩ := Pass.of_check_read run
  cases found with
  | none => exact absurd finished Pass.fail_ne_ok
  | some current =>
      simp only at finished
      split at finished
      · exact Or.inl (Pass.pure_eq_ok_iff.mp finished).2
      · obtain rfl := Pass.of_check_modify finished
        exact Or.inr ⟨current, _, isFound.symm, rfl⟩

/-- A pass that converts nothing writes at most annotations. -/
theorem of_reconcile_of_none
    (noneConverted : reconciler.convertedIngress start pass.key = none)
    (run : reconciler.reconcile pass start = some (.ok requeue, reached)) :
    reached = start ∨ ∃ current annotations, start.ingresses.get pass.key = some current ∧
      reached = { start with
        ingresses := start.ingresses.put
          { current with metadata := { current.metadata with annotations := annotations } } } := by
  unfold Reconciler.reconcile at run
  obtain ⟨found, isFound, finished⟩ := Pass.of_check_read run
  cases found with
  | none => exact Or.inl (Pass.pure_eq_ok_iff.mp finished).2
  | some current =>
      rw [Reconciler.convertedIngress, ← isFound, Option.filter_some] at noneConverted
      simp only at finished
      split at finished
      · exact Or.inl (Pass.pure_eq_ok_iff.mp finished).2
      · rename_i notDeleting
        split at finished
        · rename_i converts
          simp [notDeleting, converts] at noneConverted
        · split at finished
          · obtain ⟨_, between, annotated, last⟩ := Pass.bind_eq_ok_iff.mp finished
            obtain ⟨-, rfl⟩ := Pass.pure_eq_ok_iff.mp last
            exact annotateSkipped_ok annotated
          · exact Or.inl (Pass.pure_eq_ok_iff.mp finished).2

end Pass

end KubeLB.Conversion
