import KubeLB.Controllers.RouteResource
import KubeLB.Library.Runs

/-!
Contract: which source objects share the Gateways of a tenant namespace.

Owns: what one call of `CreateOrUpdateGateway` does to the stored Gateways, and over
every sequence of calls the number of Gateways, their owners and the refused calls.

Does not own: calls that overlap in time, and the deletion of Gateways.
-/

set_option autoImplicit false

namespace KubeLB.Controllers

open KubeLB.Library KubeLB.Core KubeLB.V1Alpha1 KubeLB.Naming KubeLB.Resources
  KubeLB.Library.Pass

/-! ## Parts that an admission keeps -/

section Keeps

variable {γ : Type} {part : Cluster → γ}

theorem keeps_call (pass : RoutePass) (call : Call) (message : String) :
    Keeps part (pass.call call message) :=
  keeps_check _

theorem keeps_admitGateway (pass : RoutePass) (gateway : Unstructured) (ns : String) :
    Keeps part (admitGateway pass gateway ns) := by
  apply keeps_bind (keeps_call _ _ _)
  intro _
  apply keeps_bind (keeps_read _)
  intro found
  cases found with
  | some existing =>
      dsimp only
      split
      · exact keeps_fail _
      · exact keeps_pure _
  | none =>
      apply keeps_bind (keeps_read _)
      intro count
      split
      · exact keeps_fail _
      · exact keeps_pure _

end Keeps

/-! ## Calls -/

/-- One call of `CreateOrUpdateGateway`, with the faults of its API calls. -/
structure GatewayCall where
  pass : RoutePass
  gateway : Unstructured
  isGateway : gateway.gvk = gatewayGVK
  annotations : AnnotationSettings := {}

def GatewayCall.origin (call : GatewayCall) : ObjectKey := keyOf call.gateway.metadata

/-- `CreateOrUpdateGateway` into a tenant namespace: the object and the error. -/
def createOrUpdateGateway (ns : String) (call : GatewayCall) :
    Reconcile (Unstructured × Option String) :=
  applyResource call.pass .gateway call.gateway ns call.annotations

def gatewayStep (ns : String) (cluster : Cluster) (call : GatewayCall) : Option Cluster :=
  (createOrUpdateGateway ns call cluster).map Prod.snd

def Cluster.gateway (cluster : Cluster) (ns name : String) : Option (Owned Unstructured) :=
  cluster.resources.get (resourceKeyOf gatewayGVK ⟨ns, name⟩)

def gatewayOrigin (gateway : Unstructured) : Option ObjectKey :=
  match gateway.metadata.labels.lookup labelOriginName,
      gateway.metadata.labels.lookup labelOriginNamespace with
  | some originName, some originNamespace => some ⟨originNamespace, originName⟩
  | _, _ => none

def Cluster.GatewaysLabelled (cluster : Cluster) (ns : String) : Prop :=
  ∀ name gateway, cluster.gateway ns name = some gateway → gatewayOrigin gateway.object ≠ none

theorem claimedByOther_eq_none_iff {existing gateway : Unstructured} {origin : ObjectKey}
    (isOrigin : gatewayOrigin existing = some origin) :
    claimedByOther existing gateway = none ↔ origin = keyOf gateway.metadata := by
  obtain ⟨originNamespace, originName⟩ := origin
  unfold gatewayOrigin at isOrigin
  unfold claimedByOther
  cases foundName : existing.metadata.labels.lookup labelOriginName with
  | none =>
      rw [foundName] at isOrigin
      cases isOrigin
  | some name =>
      cases foundNamespace : existing.metadata.labels.lookup labelOriginNamespace with
      | none =>
          rw [foundName, foundNamespace] at isOrigin
          cases isOrigin
      | some ns =>
          rw [foundName, foundNamespace] at isOrigin
          cases isOrigin
          simp only [ite_eq_right_iff, reduceCtorEq, imp_false, not_or, not_not, keyOf,
            ObjectKey.mk.injEq]
          exact and_comm

/-! ## One call -/

/-- The checks before the call touches anything. -/
structure Admits (ns : String) (cluster : Cluster) (call : GatewayCall) : Prop where
  unclaimed : ∀ existing, cluster.gateway ns call.gateway.metadata.name = some existing →
    claimedByOther existing.object call.gateway = none
  room : cluster.gateway ns call.gateway.metadata.name = none →
    (cluster.gateways ns).card < maxGatewaysPerTenant

def WritesGateway (ns : String) (call : GatewayCall) (before after : Cluster) : Prop :=
  ∃ written : Owned Unstructured,
    resourceKey written = resourceKeyOf gatewayGVK ⟨ns, call.gateway.metadata.name⟩ ∧
    gatewayOrigin written.object = some call.origin ∧
    after = { before with resources := before.resources.put written }

section Step

variable {ns : String} {call : GatewayCall} {before after : Cluster}

theorem gatewayOrigin_of_labels {object : Unstructured} {labels : StringMap} {name origin : String}
    (isLabels : object.metadata.labels = addKubeLBLabels labels name origin) :
    gatewayOrigin object = some ⟨origin, name⟩ := by
  have nameKept : (addKubeLBLabels labels name origin).lookup labelOriginName = some name := by
    rw [addKubeLBLabels, Finmap.lookup_insert_of_ne _ (by decide),
      Finmap.lookup_insert_of_ne _ (by decide), Finmap.lookup_insert]
  have originKept : (addKubeLBLabels labels name origin).lookup labelOriginNamespace =
      some origin := by
    rw [addKubeLBLabels, Finmap.lookup_insert_of_ne _ (by decide), Finmap.lookup_insert]
  rw [gatewayOrigin, isLabels, nameKept, originKept]

theorem createOrUpdateResource_puts {pass : RoutePass} (object : Unstructured) :
    (createOrUpdateResource pass object).Ensures before
      (either
        (fun _ reached => reached = before ∨ ∃ written : Owned Unstructured,
          resourceKey written = resourceKeyOf object.gvk (keyOf object.metadata) ∧
          written.object.metadata.labels = object.metadata.labels ∧
          reached = { before with resources := before.resources.put written })
        (fun _ reached => reached = before)) := by
  apply ensures_bind_check (fun _ => rfl)
  apply ensures_bind_read
  cases before.resources.get (resourceKeyOf object.gvk (keyOf object.metadata)) with
  | none =>
      apply ensures_bind_check (fun _ => rfl)
      exact ensures_modify (Or.inr ⟨_, rfl, rfl, rfl⟩)
  | some existing =>
      dsimp only
      split
      · exact ensures_pure (Or.inl rfl)
      · apply ensures_bind_check (fun _ => rfl)
        exact ensures_modify (Or.inr ⟨_, rfl, rfl, rfl⟩)

theorem admits_of_admitGateway {reached : Cluster}
    (admitted : admitGateway call.pass call.gateway ns before = some (.ok ⟨⟩, reached)) :
    Admits ns before call := by
  obtain ⟨_, first, called, rest⟩ := bind_eq_ok_iff.mp admitted
  obtain ⟨-, sameFirst⟩ := check_eq_ok_iff.mp called
  rw [sameFirst] at rest
  obtain ⟨found, second, isFound, rest⟩ := bind_eq_ok_iff.mp rest
  obtain ⟨isRead, sameSecond⟩ := read_eq_ok_iff.mp isFound
  rw [isRead, sameSecond] at rest
  cases isExisting : before.resources.get (resourceKeyOf gatewayGVK
      ⟨ns, call.gateway.metadata.name⟩) with
  | some existing =>
      rw [isExisting] at rest
      refine ⟨?_, fun absent => nomatch absent.symm.trans isExisting⟩
      intro other isOther
      cases isExisting.symm.trans isOther
      cases isClaimed : claimedByOther existing.object call.gateway with
      | none => rfl
      | some claimant =>
          simp only [isClaimed] at rest
          exact absurd rest fail_ne_ok
  | none =>
      rw [isExisting] at rest
      refine ⟨fun other isOther => (nomatch isOther.symm.trans isExisting), fun _ => ?_⟩
      obtain ⟨count, third, isCount, last⟩ := bind_eq_ok_iff.mp rest
      obtain ⟨rfl, -⟩ := read_eq_ok_iff.mp isCount
      split at last
      · exact absurd last fail_ne_ok
      · next room => exact not_le.mp room

/-- What a call can do: refuse and leave the cluster as it is, or write the Gateway of its
own name for its own origin, unless that is already as it should be. -/
theorem createOrUpdateGateway_cases
    {outcome : Except String (Unstructured × Option String)}
    (ran : createOrUpdateGateway ns call before = some (outcome, after)) :
    ∃ object, (∃ error, outcome = .ok (object, some error) ∧ after = before) ∨
      (outcome = .ok (object, none) ∧ Admits ns before call ∧
        (after = before ∨ WritesGateway ns call before after)) := by
  unfold createOrUpdateGateway applyResource at ran
  rw [if_pos rfl] at ran
  cases isAdmitted : admitGateway call.pass call.gateway ns before with
  | none => simp [bind, attempt, isAdmitted] at ran
  | some result =>
      obtain ⟨result, reached⟩ := result
      have reads : Keeps id (admitGateway call.pass call.gateway ns) := keeps_admitGateway _ _ _
      have same : reached = before := (reads before).of_run isAdmitted
      rw [same] at isAdmitted
      rw [bind_of_run (attempt_eq_ok_iff.mpr isAdmitted)] at ran
      cases result with
      | error error =>
          cases ran
          exact ⟨call.gateway, Or.inl ⟨error, rfl, rfl⟩⟩
      | ok _ =>
          have admits := admits_of_admitGateway isAdmitted
          dsimp only at ran
          generalize isObject : desiredResource call.pass .gateway call.gateway ns
            call.annotations = object at ran
          refine ⟨object, ?_⟩
          cases isApplied : createOrUpdateResource call.pass object before with
          | none => simp [bind, attempt, isApplied] at ran
          | some applied =>
              obtain ⟨applied, last⟩ := applied
              have writes := (createOrUpdateResource_puts object).of_run isApplied
              rw [bind_of_run (attempt_eq_ok_iff.mpr isApplied)] at ran
              cases applied with
              | error error =>
                  cases ran
                  exact Or.inl ⟨error, rfl, writes⟩
              | ok _ =>
                  cases ran
                  refine Or.inr ⟨rfl, admits, writes.imp_right ?_⟩
                  rintro ⟨written, isKey, isLabels, isAfter⟩
                  rw [← isObject] at isKey isLabels
                  refine ⟨written, ?_, gatewayOrigin_of_labels isLabels, isAfter⟩
                  rw [isKey, ← call.isGateway]
                  rfl

theorem gatewayStep_cases (stepped : gatewayStep ns before call = some after) :
    after = before ∨ (Admits ns before call ∧ WritesGateway ns call before after) := by
  obtain ⟨⟨outcome, reached⟩, ran, rfl⟩ := Option.map_eq_some_iff.mp stepped
  obtain ⟨object, ⟨error, -, same⟩ | ⟨-, admits, same | writes⟩⟩ := createOrUpdateGateway_cases ran
  · exact Or.inl same
  · exact Or.inl same
  · exact Or.inr ⟨admits, writes⟩

theorem WritesGateway.gateway_self (writes : WritesGateway ns call before after) :
    ∃ written, after.gateway ns call.gateway.metadata.name = some written ∧
      gatewayOrigin written.object = some call.origin := by
  obtain ⟨written, isKey, isOrigin, rfl⟩ := writes
  refine ⟨written, ?_, isOrigin⟩
  rw [Cluster.gateway, ← isKey]
  exact Store.get_put_self _ _

theorem WritesGateway.gateway_of_ne (writes : WritesGateway ns call before after) {name : String}
    (different : name ≠ call.gateway.metadata.name) :
    after.gateway ns name = before.gateway ns name := by
  obtain ⟨written, isKey, -, rfl⟩ := writes
  refine Store.get_put_of_ne _ ?_
  rw [isKey]
  intro same
  exact different (congrArg ResourceKey.name same)

theorem gateway_after_step (stepped : gatewayStep ns before call = some after) {name : String}
    {gateway : Owned Unstructured} {origin : ObjectKey}
    (isGateway : before.gateway ns name = some gateway)
    (isOrigin : gatewayOrigin gateway.object = some origin) :
    (∃ kept, after.gateway ns name = some kept ∧ gatewayOrigin kept.object = some origin) ∧
      (after.gateway ns name ≠ before.gateway ns name → call.origin = origin) := by
  rcases gatewayStep_cases stepped with rfl | ⟨admits, writes⟩
  · exact ⟨⟨gateway, isGateway, isOrigin⟩, fun changed => absurd rfl changed⟩
  · by_cases isName : name = call.gateway.metadata.name
    · subst isName
      have sameOrigin : origin = call.origin :=
        (claimedByOther_eq_none_iff isOrigin).mp (admits.unclaimed gateway isGateway)
      rw [sameOrigin]
      exact ⟨writes.gateway_self, fun _ => rfl⟩
    · have same := writes.gateway_of_ne isName
      exact ⟨⟨gateway, same.trans isGateway, isOrigin⟩, fun changed => absurd same changed⟩

theorem gateway_created_by_step (stepped : gatewayStep ns before call = some after)
    {name : String} {gateway : Owned Unstructured} (absent : before.gateway ns name = none)
    (isGateway : after.gateway ns name = some gateway) :
    gatewayOrigin gateway.object = some call.origin := by
  rcases gatewayStep_cases stepped with rfl | ⟨-, writes⟩
  · cases absent.symm.trans isGateway
  · by_cases isName : name = call.gateway.metadata.name
    · subst isName
      obtain ⟨written, isWritten, isOrigin⟩ := writes.gateway_self
      cases isGateway.symm.trans isWritten
      exact isOrigin
    · cases absent.symm.trans ((writes.gateway_of_ne isName).symm.trans isGateway)

theorem gatewaysLabelled_step (labelled : before.GatewaysLabelled ns)
    (stepped : gatewayStep ns before call = some after) : after.GatewaysLabelled ns := by
  intro name gateway isGateway
  cases isBefore : before.gateway ns name with
  | none => simp [gateway_created_by_step stepped isBefore isGateway]
  | some earlier =>
      obtain ⟨origin, isOrigin⟩ := Option.ne_none_iff_exists'.mp (labelled name earlier isBefore)
      obtain ⟨kept, isKept, keptOrigin⟩ := (gateway_after_step stepped isBefore isOrigin).1
      cases isGateway.symm.trans isKept
      simp [keptOrigin]

theorem mem_gateways {cluster : Cluster} {key : ResourceKey} :
    key ∈ cluster.gateways ns ↔
      key = resourceKeyOf gatewayGVK ⟨ns, key.name⟩ ∧ (cluster.gateway ns key.name).isSome := by
  obtain ⟨group, kind, keyNs, name⟩ := key
  simp only [Cluster.gateways, Finset.mem_filter, resourceKeyOf, ResourceKey.mk.injEq, and_true,
    Cluster.gateway]
  constructor
  · rintro ⟨isKey, rfl, rfl, rfl⟩
    exact ⟨⟨rfl, rfl, rfl⟩, Finmap.lookup_isSome.mpr (Finmap.mem_keys.mp isKey)⟩
  · rintro ⟨⟨rfl, rfl, rfl⟩, isSome⟩
    exact ⟨Finmap.mem_keys.mpr (Finmap.lookup_isSome.mp isSome), rfl, rfl, rfl⟩

theorem card_gateways_step (stepped : gatewayStep ns before call = some after) :
    (after.gateways ns).card ≤ max (before.gateways ns).card maxGatewaysPerTenant := by
  rcases gatewayStep_cases stepped with rfl | ⟨admits, writes⟩
  · exact le_max_left _ _
  · have grows : after.gateways ns ⊆
        insert (resourceKeyOf gatewayGVK ⟨ns, call.gateway.metadata.name⟩)
          (before.gateways ns) := by
      intro key isKey
      rw [mem_gateways] at isKey
      rw [Finset.mem_insert, mem_gateways]
      by_cases isName : key.name = call.gateway.metadata.name
      · exact Or.inl (isName ▸ isKey.1)
      · rw [← writes.gateway_of_ne isName]
        exact Or.inr isKey
    cases isBefore : before.gateway ns call.gateway.metadata.name with
    | none =>
        have room := admits.room isBefore
        calc (after.gateways ns).card
            ≤ (before.gateways ns).card + 1 :=
              (Finset.card_le_card grows).trans (Finset.card_insert_le _ _)
          _ ≤ maxGatewaysPerTenant := room
          _ ≤ max (before.gateways ns).card maxGatewaysPerTenant := le_max_right _ _
    | some existing =>
        have present : resourceKeyOf gatewayGVK ⟨ns, call.gateway.metadata.name⟩ ∈
            before.gateways ns := mem_gateways.mpr ⟨rfl, by simp [resourceKeyOf, isBefore]⟩
        rw [Finset.insert_eq_of_mem present] at grows
        exact (Finset.card_le_card grows).trans (le_max_left _ _)

end Step

/-! ## Sequences of calls -/

/-- What holds of every sequence of calls into a tenant namespace. -/
structure GatewaysGuarded (ns : String) (start : Cluster) (calls : List GatewayCall) : Prop where
  bounded : ∀ count reached, runFrom (gatewayStep ns) start (calls.take count) = some reached →
    (reached.gateways ns).card ≤ max (start.gateways ns).card maxGatewaysPerTenant
  /-- A Gateway that is created names the origin of its call. -/
  created : ∀ earlier call rest, calls = earlier ++ call :: rest → ∀ before after,
    runFrom (gatewayStep ns) start earlier = some before →
    gatewayStep ns before call = some after → ∀ name gateway,
      before.gateway ns name = none → after.gateway ns name = some gateway →
        gatewayOrigin gateway.object = some call.origin
  /-- A Gateway names an origin, and from then on only calls for it change the Gateway. -/
  owned : ∀ earlier middle call rest, calls = earlier ++ middle ++ call :: rest →
    ∀ seen before after, runFrom (gatewayStep ns) start earlier = some seen →
    runFrom (gatewayStep ns) seen middle = some before →
    gatewayStep ns before call = some after → ∀ name gateway,
      seen.gateway ns name = some gateway → ∃ origin, gatewayOrigin gateway.object = some origin ∧
        (after.gateway ns name ≠ before.gateway ns name → call.origin = origin)
  refused : ∀ earlier call rest, calls = earlier ++ call :: rest → ∀ before object error after,
    runFrom (gatewayStep ns) start earlier = some before →
    createOrUpdateGateway ns call before = some (.ok (object, some error), after) →
      after = before

theorem gateway_after_run {ns : String} {seen : Cluster} {calls : List GatewayCall}
    {reached : Cluster} (ran : runFrom (gatewayStep ns) seen calls = some reached) {name : String}
    {gateway : Owned Unstructured} {origin : ObjectKey}
    (isGateway : seen.gateway ns name = some gateway)
    (isOrigin : gatewayOrigin gateway.object = some origin) :
    ∃ kept, reached.gateway ns name = some kept ∧ gatewayOrigin kept.object = some origin := by
  refine run_induction (motive := fun _ state => ∃ kept, state.gateway ns name = some kept ∧
    gatewayOrigin kept.object = some origin) ⟨gateway, isGateway, isOrigin⟩ ?_ ran
  rintro _ state call next ⟨kept, isKept, keptOrigin⟩ stepped
  exact (gateway_after_step stepped isKept keptOrigin).1

/-- The limit, the owners and the refusals over every sequence of calls. -/
theorem gatewaysGuarded {ns : String} {start : Cluster} (labelled : start.GatewaysLabelled ns)
    (calls : List GatewayCall) : GatewaysGuarded ns start calls where
  bounded := by
    intro count reached ran
    refine run_induction (motive := fun _ state => (state.gateways ns).card ≤
      max (start.gateways ns).card maxGatewaysPerTenant) (le_max_left _ _) ?_ ran
    intro _ state call next bounded stepped
    exact (card_gateways_step stepped).trans (max_le bounded (le_max_right _ _))
  created := by
    rintro earlier call rest - before after - stepped name gateway absent isGateway
    exact gateway_created_by_step stepped absent isGateway
  owned := by
    rintro earlier middle call rest - seen before after prior ran stepped name gateway isGateway
    have seenLabelled : seen.GatewaysLabelled ns :=
      run_induction (motive := fun _ state => state.GatewaysLabelled ns) labelled
        (fun _ _ _ _ known => gatewaysLabelled_step known) prior
    obtain ⟨origin, isOrigin⟩ := Option.ne_none_iff_exists'.mp (seenLabelled name gateway isGateway)
    refine ⟨origin, isOrigin, ?_⟩
    obtain ⟨kept, isKept, keptOrigin⟩ := gateway_after_run ran isGateway isOrigin
    exact (gateway_after_step stepped isKept keptOrigin).2
  refused := by
    rintro earlier call rest - before object error after - ran
    obtain ⟨_, ⟨_, -, same⟩ | ⟨isOk, -⟩⟩ := createOrUpdateGateway_cases ran
    · exact same
    · cases isOk

def kubelbGatewayOf (team : String) : GatewayCall where
  pass := { key := ⟨"tenant-a", team⟩, spec := team }
  gateway := { gvk := gatewayGVK, metadata := { name := parentGatewayName, ns := team } }
  isGateway := rfl

/-- Two teams ask for the one Gateway: the first one keeps it, also after the second call. -/
theorem first_team_keeps_gateway :
    GatewaysGuarded "tenant-a" {} [kubelbGatewayOf "team-a", kubelbGatewayOf "team-b"] ∧
      (runFrom (gatewayStep "tenant-a") {}
        [kubelbGatewayOf "team-a", kubelbGatewayOf "team-b"]).any (fun final =>
          (final.gateway "tenant-a" parentGatewayName).any (fun gateway =>
            decide (gatewayOrigin gateway.object =
              some ⟨"team-a", parentGatewayName⟩))) = true := by
  refine ⟨gatewaysGuarded ?_ _, by decide +kernel⟩
  intro name gateway isGateway
  cases isGateway

end KubeLB.Controllers
