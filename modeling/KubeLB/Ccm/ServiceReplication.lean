import KubeLB.Ccm.ServiceCleanup

/-!
Contract: the Services that `NormalizeAndReplicateServices` reads, writes and returns.

Owns: the frame of the replication over every list of references and every fault, the
origin of what it returns, and when it leaves the Services of users alone.

Does not own: the deletion of mirrors.
-/

set_option autoImplicit false

namespace KubeLB.Ccm

open KubeLB.Library KubeLB.Core KubeLB.V1Alpha1 KubeLB.Naming KubeLB.Resources
  KubeLB.Controllers

/-! ## Names of mirrors -/

theorem nodePortKey_injective : Function.Injective nodePortKey := by
  rintro ⟨ns, name⟩ ⟨otherNs, otherName⟩ same
  simp only [nodePortKey, nodePortServicePattern, ObjectKey.mk.injEq, String.append_left_inj]
    at same
  rw [same.1, same.2]

/-- The Service is the mirror that is written for a reference. -/
def Replicated (services : Store plainServiceKey) (references : List ObjectKey) (svc : Service) :
    Prop :=
  ∃ ref ∈ references, ∃ service, services.get ref = some service ∧
    service.spec.type = .clusterIP ∧ svc = nodePortService service

theorem Replicated.labelled {services : Store plainServiceKey} {references : List ObjectKey}
    {svc : Service} (replicated : Replicated services references svc) :
    ∃ ref ∈ references, plainServiceKey svc = nodePortKey ref ∧ Managed svc ∧
      originOf svc.metadata.labels = ref := by
  obtain ⟨ref, isRef, service, isService, -, rfl⟩ := replicated
  have isKey : plainServiceKey service = ref := Store.identity_of_get isService
  refine ⟨ref, isRef, ?_, managed_nodePortService service, ?_⟩
  · rw [← isKey]
    rfl
  · rw [originOf_nodePortService, isKey]

theorem Replicated.eq_of_key {services : Store plainServiceKey} {references : List ObjectKey}
    {svc other : Service} (replicated : Replicated services references svc)
    (otherReplicated : Replicated services references other)
    (sameKey : plainServiceKey svc = plainServiceKey other) : svc = other := by
  obtain ⟨ref, -, service, isService, -, rfl⟩ := replicated
  obtain ⟨otherRef, -, otherService, isOther, -, rfl⟩ := otherReplicated
  have sameService : plainServiceKey service = plainServiceKey otherService :=
    nodePortKey_injective sameKey
  rw [Store.identity_of_get isService, Store.identity_of_get isOther] at sameService
  subst sameService
  cases isService.symm.trans isOther
  rfl

section Steps

open Pass

variable {pass : SourcePass} {state : SourceObjects}

/-! ## The steps -/

theorem normalizeServices_ensures (references : List ObjectKey) :
    (normalizeServices pass references).Ensures state
      (either
        (fun normalized reached => reached = state ∧
          (∀ svc ∈ normalized.1, ∃ ref ∈ references, plainServiceKey svc = ref) ∧
          ∀ svc, svc ∈ normalized.2 ↔ Replicated state.services references svc)
        (fun _ reached => reached = state)) := by
  induction references with
  | nil => exact ensures_pure ⟨rfl, by simp, by simp [Replicated]⟩
  | cons serviceRef references ih =>
      apply ensures_bind_check (fun _ => rfl)
      apply ensures_bind_read
      cases isService : state.services.get serviceRef with
      | none =>
          apply ih.mono
          intro outcome reached rest
          cases outcome with
          | error error => exact rest
          | ok normalized =>
              obtain ⟨same, asTheyAre, replicated⟩ := rest
              refine ⟨same, ?_, ?_⟩
              · intro svc isMember
                obtain ⟨ref, isRef, isKey⟩ := asTheyAre svc isMember
                exact ⟨ref, List.mem_cons_of_mem _ isRef, isKey⟩
              · intro svc
                rw [replicated]
                simp [Replicated, isService]
      | some service =>
          have isKey : plainServiceKey service = serviceRef := Store.identity_of_get isService
          apply ensures_bind _ ih
          rintro rest reached ⟨rfl, asTheyAre, replicated⟩
          show (if service.spec.type ≠ .clusterIP then _ else _ : SourceReconcile _).Ensures _ _
          split
          · next notClusterIP =>
              refine ensures_pure ⟨rfl, ?_, ?_⟩
              · rw [List.forall_mem_cons]
                refine ⟨⟨serviceRef, List.mem_cons_self, isKey⟩, ?_⟩
                intro svc isMember
                obtain ⟨ref, isRef, isKey⟩ := asTheyAre svc isMember
                exact ⟨ref, List.mem_cons_of_mem _ isRef, isKey⟩
              · intro svc
                rw [replicated]
                simp [Replicated, isService, notClusterIP]
          · next isClusterIP =>
              rw [ne_eq, not_not] at isClusterIP
              refine ensures_pure ⟨rfl, ?_, ?_⟩
              · intro svc isMember
                obtain ⟨ref, isRef, isKey⟩ := asTheyAre svc isMember
                exact ⟨ref, List.mem_cons_of_mem _ isRef, isKey⟩
              · intro svc
                rw [List.mem_cons, replicated]
                simp [Replicated, isService, isClusterIP]

/-- Other Services stay, and what is found under the name has the labels that were asked
for. -/
theorem createOrUpdateService_ensures (obj : Service) :
    (createOrUpdateService pass obj).Ensures state
      (either
        (fun _ reached =>
          (∀ key, key ≠ plainServiceKey obj → reached.services.get key = state.services.get key) ∧
          ∀ found, reached.services.get (plainServiceKey obj) = some found →
            found.metadata.labels = obj.metadata.labels)
        (fun _ reached => reached = state)) := by
  apply ensures_bind_check (fun _ => rfl)
  apply ensures_bind_read
  cases isExisting : state.services.get (plainServiceKey obj) with
  | none =>
      apply ensures_bind_check (fun _ => rfl)
      apply ensures_modify
      refine ⟨fun key different => Store.get_put_of_ne _ different, ?_⟩
      intro found isFound
      rcases Store.cases_of_get_put isFound with ⟨-, rfl⟩ | before
      · rfl
      · cases isExisting.symm.trans before
  | some existingObj =>
      dsimp only
      split
      · next same =>
          refine ensures_pure ⟨fun _ _ => rfl, ?_⟩
          intro found isFound
          cases isExisting.symm.trans isFound
          exact same.2.1
      · apply ensures_bind_check (fun _ => rfl)
        apply ensures_modify
        refine ⟨fun key different => get_writeObject_of_ne _ _ different, ?_⟩
        intro found isFound
        rw [eq_of_get_writeObject isFound]
        rfl

/-- What the loop over the mirrors has done to the Services. -/
structure Replaces (before after : Store plainServiceKey) (mirrors : List Service) : Prop where
  kept : ∀ key, (∀ svc ∈ mirrors, key ≠ plainServiceKey svc) → after.get key = before.get key
  labelled : ∀ svc ∈ mirrors, ∀ found, after.get (plainServiceKey svc) = some found →
    found.metadata.labels = svc.metadata.labels

theorem replicate_ensures {mirrors : List Service}
    (oneEach : ∀ svc ∈ mirrors, ∀ other ∈ mirrors,
      plainServiceKey svc = plainServiceKey other → svc = other) :
    (mirrors.forM (fun svc => Pass.mapError ("failed to create or update Service: " ++ ·)
      (createOrUpdateService pass svc))).Ensures state
      (either (fun _ reached => Replaces state.services reached.services mirrors)
        (fun _ reached => ∀ key, (∀ svc ∈ mirrors, key ≠ plainServiceKey svc) →
          reached.services.get key = state.services.get key)) := by
  induction mirrors generalizing state with
  | nil => exact ensures_pure ⟨fun _ _ => rfl, by simp⟩
  | cons svc mirrors ih =>
      show (Pass.mapError _ (createOrUpdateService pass svc) >>= fun _ =>
        mirrors.forM _).Ensures state _
      apply ensures_bind (fun _ reached =>
        (∀ key, key ≠ plainServiceKey svc → reached.services.get key = state.services.get key) ∧
        ∀ found, reached.services.get (plainServiceKey svc) = some found →
          found.metadata.labels = svc.metadata.labels)
      · apply ensures_mapError
        apply (createOrUpdateService_ensures svc).mono
        intro outcome reached written
        cases outcome with
        | ok _ => exact written
        | error _ =>
            have same : reached = state := written
            exact fun _ _ => same ▸ rfl
      · rintro _ between ⟨others, labelled⟩
        have laterOneEach : ∀ item ∈ mirrors, ∀ other ∈ mirrors,
            plainServiceKey item = plainServiceKey other → item = other :=
          fun item isItem other isOther =>
            oneEach item (List.mem_cons_of_mem _ isItem) other (List.mem_cons_of_mem _ isOther)
        apply (ih laterOneEach).mono
        intro outcome reached later
        cases outcome with
        | error _ =>
            intro key different
            rw [List.forall_mem_cons] at different
            rw [later key different.2, others key different.1]
        | ok _ =>
            refine ⟨?_, ?_⟩
            · intro key different
              rw [List.forall_mem_cons] at different
              rw [later.kept key different.2, others key different.1]
            · rw [List.forall_mem_cons]
              refine ⟨?_, later.labelled⟩
              intro found isFound
              -- a later round writes the name again only with the same mirror
              by_cases again : svc ∈ mirrors
              · exact later.labelled svc again found isFound
              · rw [later.kept] at isFound
                · exact labelled found isFound
                · intro other isOther sameKey
                  have same := oneEach svc List.mem_cons_self other
                    (List.mem_cons_of_mem _ isOther) sameKey
                  exact again (same ▸ isOther)

theorem fetchServices_ensures (services : List Service) :
    (fetchServices pass services).Ensures state
      (either
        (fun fetched reached => reached = state ∧ ∀ svc ∈ fetched, ∃ item ∈ services, ∃ found,
          state.services.get (plainServiceKey item) = some found ∧
            svc = cleanseService found false)
        (fun _ reached => reached = state)) := by
  induction services with
  | nil => exact ensures_pure ⟨rfl, by simp⟩
  | cons item services ih =>
      apply ensures_bind_check (fun _ => rfl)
      apply ensures_bind_read
      cases isFound : state.services.get (plainServiceKey item) with
      | none =>
          apply ih.mono
          intro outcome reached rest
          cases outcome with
          | error _ => exact rest
          | ok fetched =>
              refine ⟨rest.1, fun svc isMember => ?_⟩
              obtain ⟨other, isOther, found⟩ := rest.2 svc isMember
              exact ⟨other, List.mem_cons_of_mem _ isOther, found⟩
      | some service =>
          apply ensures_bind _ ih
          rintro fetched reached ⟨rfl, later⟩
          refine ensures_pure ⟨rfl, ?_⟩
          rw [List.forall_mem_cons]
          refine ⟨⟨item, List.mem_cons_self, service, isFound, rfl⟩, ?_⟩
          intro svc isMember
          obtain ⟨other, isOther, found⟩ := later svc isMember
          exact ⟨other, List.mem_cons_of_mem _ isOther, found⟩

end Steps

/-! ## The whole replication -/

/-- The returned Service is the one referred to, or its mirror. -/
def Originates (ref : ObjectKey) (svc : Service) : Prop :=
  plainServiceKey svc = ref ∨
    (plainServiceKey svc = nodePortKey ref ∧ originOf svc.metadata.labels = ref)

/-- What the replication does to Services and what it returns. -/
structure ReplicationEffect (references : List ObjectKey) (start reached : SourceObjects)
    (outcome : Except String (List Service)) : Prop where
  written : ∀ key, reached.services.get key ≠ start.services.get key →
    ∃ svc, Replicated start.services references svc ∧ key = plainServiceKey svc
  labelled : ∀ services, outcome = .ok services → ∀ svc,
    Replicated start.services references svc → ∀ found,
      reached.services.get (plainServiceKey svc) = some found →
        found.metadata.labels = svc.metadata.labels
  origins : ∀ services, outcome = .ok services → ∀ svc ∈ services,
    ∃ ref ∈ references, Originates ref svc

theorem normalizeAndReplicateServices_ensures (pass : SourcePass) (references : List ObjectKey)
    (start : SourceObjects) :
    (normalizeAndReplicateServices pass references).Ensures start
      (fun outcome reached => ReplicationEffect references start reached outcome) := by
  have failedWith {reached : SourceObjects} {error : String}
      (written : ∀ key, reached.services.get key ≠ start.services.get key →
        ∃ svc, Replicated start.services references svc ∧ key = plainServiceKey svc) :
      ReplicationEffect references start reached (.error error) := ⟨written, nofun, nofun⟩
  apply Pass.ensures_bind (fun normalized reached => reached = start ∧
    (∀ svc ∈ normalized.1, ∃ ref ∈ references, plainServiceKey svc = ref) ∧
    ∀ svc, svc ∈ normalized.2 ↔ Replicated start.services references svc)
  · apply (normalizeServices_ensures references).mono
    intro outcome reached normalized
    cases outcome with
    | ok _ => exact normalized
    | error _ =>
        have same : reached = start := normalized
        exact failedWith (fun key changed => absurd (same ▸ rfl) changed)
  rintro normalized _ ⟨rfl, asTheyAre, replicated⟩
  rename_i start
  -- a name outside of the mirrors is never written
  have written {reached : SourceObjects}
      (kept : ∀ key, (∀ svc ∈ normalized.2, key ≠ plainServiceKey svc) →
        reached.services.get key = start.services.get key)
      (key : ObjectKey) (changed : reached.services.get key ≠ start.services.get key) :
      ∃ svc, Replicated start.services references svc ∧ key = plainServiceKey svc := by
    by_contra unknown
    refine changed (kept key ?_)
    intro svc isMember isKey
    exact unknown ⟨svc, (replicated svc).mp isMember, isKey⟩
  have oneEach : ∀ svc ∈ normalized.2, ∀ other ∈ normalized.2,
      plainServiceKey svc = plainServiceKey other → svc = other :=
    fun svc isMember other isOther =>
      ((replicated svc).mp isMember).eq_of_key ((replicated other).mp isOther)
  apply Pass.ensures_bind (fun _ reached =>
    Replaces start.services reached.services normalized.2)
  · apply (replicate_ensures oneEach).mono
    intro outcome reached replaced
    cases outcome with
    | ok _ => exact replaced
    | error _ => exact failedWith (written replaced)
  intro _ between replaced
  apply Pass.ensures_bind (fun fetched reached => reached = between ∧
    ∀ svc ∈ fetched, ∃ item ∈ normalized.2, ∃ found,
      between.services.get (plainServiceKey item) = some found ∧ svc = cleanseService found false)
  · apply (fetchServices_ensures normalized.2).mono
    intro outcome reached fetched
    cases outcome with
    | ok _ => exact fetched
    | error _ =>
        have same : reached = between := fetched
        exact failedWith (written (same ▸ replaced.kept))
  rintro fetched _ ⟨rfl, isFetched⟩
  refine Pass.ensures_pure ⟨written replaced.kept, ?_, ?_⟩
  · rintro services - svc isReplicated
    exact replaced.labelled svc ((replicated svc).mpr isReplicated)
  · rintro services isServices svc isMember
    cases isServices
    rcases List.mem_append.mp isMember with unchanged | isMirror
    · obtain ⟨ref, isRef, isKey⟩ := asTheyAre svc unchanged
      exact ⟨ref, isRef, Or.inl isKey⟩
    · obtain ⟨item, isItem, found, isFound, rfl⟩ := isFetched svc isMirror
      obtain ⟨ref, isRef, isKey, -, isOrigin⟩ := ((replicated item).mp isItem).labelled
      have foundKey : plainServiceKey found = plainServiceKey item := Store.identity_of_get isFound
      refine ⟨ref, isRef, Or.inr ⟨foundKey.trans isKey, ?_⟩⟩
      rw [← isOrigin, ← replaced.labelled item isItem found isFound]
      rfl

/-! ## Runs without faults -/

section Faultless

variable {pass : SourcePass} {state : SourceObjects} (noFault : ∀ call, pass.fault call = none)
include noFault

theorem normalizeServices_returns (references : List ObjectKey) :
    (normalizeServices pass references).Returns state (fun _ _ => True) := by
  induction references with
  | nil => exact Pass.returns_pure trivial
  | cons serviceRef references ih =>
      apply returns_bind_call (noFault _)
      apply Pass.returns_bind_read
      cases state.services.get serviceRef with
      | none => exact ih
      | some service =>
          apply Pass.returns_bind ih
          intro rest between _
          show (if service.spec.type ≠ .clusterIP then _ else _ : SourceReconcile _).Returns _ _
          split
          · exact Pass.returns_pure trivial
          · exact Pass.returns_pure trivial

theorem createOrUpdateService_returns (obj : Service) :
    (createOrUpdateService pass obj).Returns state (fun _ _ => True) := by
  apply returns_bind_call (noFault _)
  apply Pass.returns_bind_read
  cases state.services.get (plainServiceKey obj) with
  | none =>
      apply returns_bind_call (noFault _)
      exact Pass.returns_modify trivial
  | some existingObj =>
      dsimp only
      split
      · exact Pass.returns_pure trivial
      · apply returns_bind_call (noFault _)
        exact Pass.returns_modify trivial

theorem fetchServices_returns (services : List Service) :
    (fetchServices pass services).Returns state (fun _ _ => True) := by
  induction services with
  | nil => exact Pass.returns_pure trivial
  | cons svc services ih =>
      apply returns_bind_call (noFault _)
      apply Pass.returns_bind_read
      cases state.services.get (plainServiceKey svc) with
      | none => exact ih
      | some service =>
          apply Pass.returns_bind ih
          exact fun _ _ _ => Pass.returns_pure trivial

theorem normalizeAndReplicateServices_returns (references : List ObjectKey) :
    (normalizeAndReplicateServices pass references).Returns state (fun _ _ => True) := by
  apply Pass.returns_bind (normalizeServices_returns noFault references)
  intro normalized first _
  apply Pass.returns_bind (Pass.returns_forM (fun svc _ _ _ =>
    Pass.returns_mapError (createOrUpdateService_returns noFault svc)) trivial)
  intro _ second _
  apply Pass.returns_bind (fetchServices_returns noFault _)
  exact fun _ _ _ => Pass.returns_pure trivial

end Faultless

/-! ## Services of users -/

/-- The replication writes only Services that do not exist yet, or that are managed and
have the reference as origin, and returns only Services of the references. -/
structure ReplicatesOwn (references : List ObjectKey) (start reached : SourceObjects)
    (outcome : Except String (List Service)) : Prop where
  frame : ∀ key, reached.services.get key ≠ start.services.get key →
    ∃ ref ∈ references, key = nodePortKey ref ∧ ∀ existing,
      start.services.get key = some existing →
        Managed existing ∧ originOf existing.metadata.labels = ref
  origins : ∀ services, outcome = .ok services → ∀ svc ∈ services,
    ∃ ref ∈ references, Originates ref svc

/-- Nobody but KubeLB has a Service with the name of a mirror. -/
def MirrorNamesFree (references : List ObjectKey) (services : Store plainServiceKey) : Prop :=
  ∀ ref ∈ references, ∀ service, services.get ref = some service →
    service.spec.type = .clusterIP → ∀ existing, services.get (nodePortKey ref) = some existing →
      Managed existing ∧ originOf existing.metadata.labels = ref

/-- The update looks at the name of the mirror only, and replaces what it finds there. -/
theorem replicatesOwn_iff (references : List ObjectKey) (start : SourceObjects) :
    (∀ pass outcome reached, normalizeAndReplicateServices pass references start =
      some (outcome, reached) → ReplicatesOwn references start reached outcome) ↔
        MirrorNamesFree references start.services := by
  constructor
  · intro replicatesOwn ref isRef service isService isClusterIP existing isExisting
    obtain ⟨services, reached, run, -⟩ :
        (normalizeAndReplicateServices {} references).Returns start (fun _ _ => True) :=
      normalizeAndReplicateServices_returns (fun _ => rfl) references
    have effect := (normalizeAndReplicateServices_ensures _ references start).of_run run
    by_cases changed : reached.services.get (nodePortKey ref) = start.services.get (nodePortKey ref)
    · -- what is still there has the labels of the mirror
      have replicated : Replicated start.services references (nodePortService service) :=
        ⟨ref, isRef, service, isService, isClusterIP, rfl⟩
      have isKey : plainServiceKey (nodePortService service) = nodePortKey ref :=
        congrArg nodePortKey (Store.identity_of_get isService)
      have sameLabels := effect.labelled services rfl _ replicated existing
        (isKey ▸ changed.trans isExisting)
      rw [Managed, sameLabels]
      refine ⟨managed_nodePortService service, ?_⟩
      rw [originOf_nodePortService]
      exact Store.identity_of_get isService
    · obtain ⟨other, -, isKey, owned⟩ := (replicatesOwn _ _ _ run).frame _ changed
      cases nodePortKey_injective isKey
      exact owned existing isExisting
  · intro free pass outcome reached run
    have effect := (normalizeAndReplicateServices_ensures pass references start).of_run run
    refine ⟨?_, effect.origins⟩
    intro key changed
    obtain ⟨svc, ⟨ref, isRef, service, isService, isClusterIP, rfl⟩, rfl⟩ :=
      effect.written key changed
    have isKey : plainServiceKey (nodePortService service) = nodePortKey ref :=
      congrArg nodePortKey (Store.identity_of_get isService)
    refine ⟨ref, isRef, isKey, ?_⟩
    rw [isKey]
    exact free ref isRef service isService isClusterIP

def userService : Service where
  metadata := { name := "api-nodeport", ns := "default" }
  spec := { ports := [{ port := 9000 }], type := .clusterIP }

def userObjects : SourceObjects where
  services := (Store.empty.put apiService).put userService

/-- The replication of `default/api` replaces the user's Service. -/
theorem user_service_replaced :
    ∃ outcome reached, normalizeAndReplicateServices apiPass [apiKey] userObjects =
        some (outcome, reached) ∧
      userObjects.services.get ⟨"default", "api-nodeport"⟩ = some userService ∧
      ¬ Managed userService ∧
      reached.services.get ⟨"default", "api-nodeport"⟩ =
        some (withNodePorts [] (nodePortService apiService)) ∧
      ¬ ReplicatesOwn [apiKey] userObjects reached outcome := by
  have evaluated : (normalizeAndReplicateServices apiPass [apiKey] userObjects).any (fun result =>
      decide (result.2.services.get ⟨"default", "api-nodeport"⟩ =
        some (withNodePorts [] (nodePortService apiService)))) = true := by
    decide +kernel
  obtain ⟨⟨outcome, reached⟩, run, replaced⟩ := (Option.any_eq_true _ _).mp evaluated
  rw [decide_eq_true_eq] at replaced
  have isUser : userObjects.services.get ⟨"default", "api-nodeport"⟩ = some userService :=
    Store.get_put_self _ _
  have notManaged : ¬ Managed userService := by
    rw [Managed]
    decide +kernel
  refine ⟨outcome, reached, run, isUser, notManaged, replaced, ?_⟩
  intro own
  obtain ⟨ref, -, -, owned⟩ := own.frame ⟨"default", "api-nodeport"⟩ (by
    rw [replaced, isUser]
    decide +kernel)
  exact notManaged (owned userService isUser).1

end KubeLB.Ccm
