import KubeLB.Ccm.ServiceCleanup

/-!
Contract: which sources a change of a Service wakes up.

Owns: `EnqueueForService` with its panic, and when its requests are those of the sources
that refer to the Service.

Does not own: the passes that the requests lead to.
-/

set_option autoImplicit false

namespace KubeLB.Ccm

open KubeLB.Library KubeLB.Core KubeLB.V1Alpha1 KubeLB.GatewayApi KubeLB.Resources
  KubeLB.Controllers

def Source.Extracts (source : Source) (key : ObjectKey) : Prop :=
  ∃ services, extractServices source = some services ∧ key ∈ services

theorem Source.extracts_iff {source : Source} {key : ObjectKey} :
    source.Extracts key ↔ source.Extractable ∧ source.References key := by
  rw [← isSome_extractServices, Option.isSome_iff_exists]
  constructor
  · rintro ⟨services, extracted, isMember⟩
    exact ⟨⟨services, extracted⟩, (mem_extractServices extracted).mp isMember⟩
  · rintro ⟨⟨services, extracted⟩, refers⟩
    exact ⟨services, extracted, (mem_extractServices extracted).mpr refers⟩

/-- The test of the handler takes a reference for the changed object: its own name, or the
name of its mirror. -/
def TakenFor (ref changed : ObjectKey) : Prop := ref = changed ∨ nodePortKey ref = changed

theorem takenFor_iff {ref changed : ObjectKey} :
    TakenFor ref changed ↔ ref.ns = changed.ns ∧
      (ref.name = changed.name ∨ nodePortServicePattern ref.name = changed.name) := by
  obtain ⟨ns, name⟩ := ref
  obtain ⟨changedNs, changedName⟩ := changed
  simp only [TakenFor, nodePortKey, ObjectKey.mk.injEq, ← and_or_left]

namespace SourceReconciler

variable (reconciler : SourceReconciler)

def Watches (objects : SourceObjects) (key : ObjectKey) (source : Source) : Prop :=
  objects.sources.get key = some source ∧ reconciler.shouldReconcile source = true

def panicsIn (objects : SourceObjects) (ns : String) : Bool :=
  decide (∃ key ∈ objects.sources.objects.keys, key.ns = ns ∧
    (objects.sources.get key).any (fun source =>
      reconciler.shouldReconcile source && (extractServices source).isNone) = true)

/-- `EnqueueForService`; `none` is a panic. -/
def handleService (objects : SourceObjects) (changed : ObjectKey) : Option (Finset ObjectKey) :=
  if reconciler.panicsIn objects changed.ns then none
  else some (reconciler.enqueueForService objects changed)

/-- A change of the object wakes up the sources from which the Service is extracted, and no
other one. -/
def EnqueuesExactly (objects : SourceObjects) (changed service : ObjectKey) : Prop :=
  ∃ requests, reconciler.handleService objects changed = some requests ∧
    ∀ key, key ∈ requests ↔
      ∃ source, reconciler.Watches objects key source ∧ source.Extracts service

/-- What the handler takes for granted about the sources. -/
structure Coherent (objects : SourceObjects) (changed service : ObjectKey) : Prop where
  /-- No source of the namespace makes the extraction panic. -/
  extractable : ∀ key source, reconciler.Watches objects key source → key.ns = service.ns →
    source.Extractable
  /-- The Service is referred to from its own namespace only. -/
  sameNamespace : ∀ key source, reconciler.Watches objects key source →
    source.Extracts service → key.ns = service.ns
  /-- A reference that passes for the changed object comes with one to the Service. -/
  unambiguous : ∀ key source, reconciler.Watches objects key source → key.ns = service.ns →
    ∀ ref, source.Extracts ref → TakenFor ref changed → source.Extracts service

variable {reconciler} {objects : SourceObjects} {changed service : ObjectKey}

theorem panicsIn_eq_false_iff {ns : String} :
    reconciler.panicsIn objects ns = false ↔
      ∀ key source, reconciler.Watches objects key source → key.ns = ns →
        source.Extractable := by
  rw [panicsIn, decide_eq_false_iff_not]
  constructor
  · intro noPanic key source watches isNs
    by_contra notExtractable
    rw [← isSome_extractServices, Option.not_isSome_iff_eq_none] at notExtractable
    refine noPanic ⟨key, Store.mem_keys_of_get watches.1, isNs, ?_⟩
    simp [watches.1, watches.2, notExtractable]
  · rintro extractable ⟨key, -, isNs, panics⟩
    obtain ⟨source, isSource, both⟩ := (Option.any_eq_true _ _).mp panics
    obtain ⟨inScope, noResult⟩ := (Bool.and_eq_true _ _).mp both
    have extracted := isSome_extractServices.mpr (extractable key source ⟨isSource, inScope⟩ isNs)
    rw [Option.isNone_iff_eq_none.mp noResult] at extracted
    cases extracted

theorem mem_enqueueForService {key : ObjectKey} :
    key ∈ reconciler.enqueueForService objects changed ↔ key.ns = changed.ns ∧
      ∃ source, reconciler.Watches objects key source ∧
        ∃ ref, source.Extracts ref ∧ TakenFor ref changed := by
  have extracts_iff (source : Source) (ref : ObjectKey) :
      ref ∈ (extractServices source).getD [] ↔ source.Extracts ref := by
    cases extracted : extractServices source with
    | none => simp [Source.Extracts, extracted]
    | some services => simp [Source.Extracts, extracted]
  simp only [enqueueForService, Finset.mem_filter, Option.any_eq_true, Bool.and_eq_true,
    List.any_eq_true, decide_eq_true_eq, extracts_iff, ← takenFor_iff, Watches]
  constructor
  · rintro ⟨-, isNs, source, isSource, inScope, found⟩
    exact ⟨isNs, source, ⟨isSource, inScope⟩, found⟩
  · rintro ⟨isNs, source, ⟨isSource, inScope⟩, found⟩
    exact ⟨Store.mem_keys_of_get isSource, isNs, source, isSource, inScope, found⟩

/-- The handler searches the namespace of the changed object and compares names. -/
theorem enqueuesExactly_iff (concerns : TakenFor service changed) :
    reconciler.EnqueuesExactly objects changed service ↔
      reconciler.Coherent objects changed service := by
  have sameNs : service.ns = changed.ns := (takenFor_iff.mp concerns).1
  constructor
  · rintro ⟨requests, handled, exactly⟩
    unfold handleService at handled
    split at handled
    · cases handled
    · next noPanic =>
        cases handled
        simp only [mem_enqueueForService] at exactly
        refine ⟨?_, ?_, ?_⟩
        · rw [sameNs]
          exact panicsIn_eq_false_iff.mp (Bool.eq_false_iff.mpr noPanic)
        · intro key source watches extracts
          rw [sameNs]
          exact ((exactly key).mpr ⟨source, watches, extracts⟩).1
        · intro key source watches isNs ref extracts taken
          obtain ⟨found, foundWatches, foundExtracts⟩ :=
            (exactly key).mp ⟨isNs.trans sameNs, source, watches, ref, extracts, taken⟩
          cases foundWatches.1.symm.trans watches.1
          exact foundExtracts
  · rintro ⟨extractable, sameNamespace, unambiguous⟩
    have noPanic : reconciler.panicsIn objects changed.ns = false := by
      rw [panicsIn_eq_false_iff, ← sameNs]
      exact extractable
    refine ⟨reconciler.enqueueForService objects changed, ?_, ?_⟩
    · rw [handleService, noPanic]
      rfl
    · intro key
      rw [mem_enqueueForService, ← sameNs]
      constructor
      · rintro ⟨isNs, source, watches, ref, extracts, taken⟩
        exact ⟨source, watches, unambiguous key source watches isNs ref extracts taken⟩
      · rintro ⟨source, watches, extracts⟩
        exact ⟨sameNamespace key source watches extracts, source, watches, service, extracts,
          concerns⟩

end SourceReconciler

/-! ## A route in another namespace -/

def routeFrom (ns : String) : Source where
  metadata := { name := "web", ns := ns }
  spec := .httpRoute
    { parentRefs := [{ name := parentGatewayName }]
      rules := [{ backendRefs := [{ name := "api", ns := some "default" }] }] }

def routesFrom (ns : String) : SourceObjects where
  sources := Store.empty.put (routeFrom ns)

theorem routeFrom_extracts (ns : String) : (routeFrom ns).Extracts apiKey :=
  Source.extracts_iff.mpr ⟨trivial, _, List.mem_singleton_self _,
    { name := "api", ns := some "default" }, by decide, by decide, rfl⟩

theorem routeFrom_of_watches {ns : String} {key : ObjectKey} {source : Source}
    (watches : httpRouteReconciler.Watches (routesFrom ns) key source) :
    key = ⟨ns, "web"⟩ ∧ source = routeFrom ns := by
  rcases Store.cases_of_get_put watches.1 with stored | before
  · exact stored
  · cases before

/-- A change of `default/api` does not reach a route in the namespace `shop`. -/
theorem cross_namespace_route_missed :
    TakenFor apiKey apiKey ∧
      ¬ httpRouteReconciler.EnqueuesExactly (routesFrom "shop") apiKey apiKey := by
  refine ⟨Or.inl rfl, ?_⟩
  rintro ⟨requests, handled, exactly⟩
  have nothing : httpRouteReconciler.handleService (routesFrom "shop") apiKey = some ∅ := by
    decide +kernel
  cases nothing.symm.trans handled
  have watches : httpRouteReconciler.Watches (routesFrom "shop") ⟨"shop", "web"⟩
      (routeFrom "shop") := ⟨Store.get_put_self _ _, by decide⟩
  have requested := (exactly _).mpr ⟨_, watches, routeFrom_extracts "shop"⟩
  exact absurd requested (Finset.notMem_empty _)

/-- A change of the mirror of `default/api` reaches a route in its own namespace. -/
theorem own_namespace_route_enqueued :
    httpRouteReconciler.EnqueuesExactly (routesFrom "default") (nodePortKey apiKey) apiKey := by
  refine (SourceReconciler.enqueuesExactly_iff (Or.inr rfl)).mpr ⟨?_, ?_, ?_⟩
  · intro key source watches _
    obtain ⟨-, rfl⟩ := routeFrom_of_watches watches
    trivial
  · intro key source watches _
    rw [(routeFrom_of_watches watches).1]
    rfl
  · intro key source watches _ _ _ _
    obtain ⟨-, rfl⟩ := routeFrom_of_watches watches
    exact routeFrom_extracts "default"

end KubeLB.Ccm
