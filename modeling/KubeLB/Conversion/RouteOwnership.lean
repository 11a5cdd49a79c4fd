import KubeLB.Conversion.Stages

/-!
Contract: which Ingress a generated object belongs to.

Owns: the kinds and keys of what a conversion generates, when two Ingresses of one
namespace generate an object of the same kind and name, and when a pass overwrites a
route that another Ingress or somebody else made.

Does not own: objects of an earlier version of the same Ingress.
-/

set_option autoImplicit false

namespace KubeLB.Conversion

open KubeLB.Library KubeLB.Core KubeLB.Networking KubeLB.GatewayApi KubeLB.EnvoyGateway
  KubeLB.Controllers

/-! ## Names of routes -/

/-- The name is that of one of several routes of the other Ingress. -/
def IsIndexedName (name other : String) (count : Nat) : Prop :=
  count ≠ 1 ∧ ∃ index < count, name = other ++ "-" ++ toString (index + 1)

instance (name other : String) (count : Nat) : Decidable (IsIndexedName name other count) :=
  inferInstanceAs (Decidable (_ ∧ ∃ index < count, _))

/-- A single route of one Ingress has the name of one of several routes of the other. -/
def RouteNamesClash (name other : String) (count otherCount : Nat) : Prop :=
  count = 1 ∧ IsIndexedName name other otherCount ∨
    otherCount = 1 ∧ IsIndexedName other name count

instance (name other : String) (count otherCount : Nat) :
    Decidable (RouteNamesClash name other count otherCount) :=
  inferInstanceAs (Decidable (_ ∨ _))

/-- Names with an index tell the Ingresses apart, so that two routes of different
Ingresses have one name only when exactly one of them has no index. -/
theorem exists_generateRouteName_eq_iff {name other : String} (different : name ≠ other)
    (count otherCount : Nat) :
    (∃ index < count, ∃ otherIndex < otherCount,
        generateRouteName name index count = generateRouteName other otherIndex otherCount) ↔
      RouteNamesClash name other count otherCount := by
  unfold RouteNamesClash IsIndexedName
  constructor
  · rintro ⟨index, below, otherIndex, otherBelow, sameName⟩
    by_cases single : count = 1
    · by_cases otherSingle : otherCount = 1
      · simp only [generateRouteName, single, otherSingle, if_true] at sameName
        exact absurd sameName different
      · simp only [generateRouteName, single, otherSingle, if_true, if_false] at sameName
        exact Or.inl ⟨single, otherSingle, otherIndex, otherBelow, sameName⟩
    · by_cases otherSingle : otherCount = 1
      · simp only [generateRouteName, single, otherSingle, if_true, if_false] at sameName
        exact Or.inr ⟨otherSingle, single, index, below, sameName.symm⟩
      · simp only [generateRouteName, single, otherSingle, if_false] at sameName
        exact absurd (cut_last_dash (noDash_natText _) (noDash_natText _) sameName).1 different
  · rintro (⟨rfl, several, index, below, isName⟩ | ⟨rfl, several, index, below, isName⟩)
    · exact ⟨0, Nat.one_pos, index, below, by simp [generateRouteName, several, isName]⟩
    · exact ⟨index, below, 0, Nat.one_pos, by simp [generateRouteName, several, isName]⟩

/-! ## What a conversion generates -/

section Generated

variable (reconciler : Reconciler)

def Reconciler.generatedObjects (ingress : Ingress) (result : ConversionResult) :
    List (GeneratedKind × ObjectKey) :=
  let policies := reconciler.generatedPolicies ingress result
  (reconciler.desiredHTTPRoutes ingress result).map (fun route =>
      (.httpRoute, keyOf route.metadata)) ++
    (reconciler.desiredGRPCRoutes ingress result).map (fun route =>
      (.grpcRoute, keyOf route.metadata)) ++
    policies.securityPolicies.map (fun policy => (.securityPolicy, keyOf policy.metadata)) ++
    policies.backendTrafficPolicies.map (fun policy =>
      (.backendTrafficPolicy, keyOf policy.metadata))

variable {reconciler} {surroundings : Surroundings} {ingress : Ingress}
  {services : GoMap ObjectKey Service}

def routeKeys (ingress : Ingress) (count : Nat) : List ObjectKey :=
  (List.range count).map (fun index =>
    ⟨ingress.metadata.ns, generateRouteName ingress.metadata.name index count⟩)

theorem mem_routeKeys {count : Nat} {key : ObjectKey} :
    key ∈ routeKeys ingress count ↔ ∃ index < count,
      key = ⟨ingress.metadata.ns, generateRouteName ingress.metadata.name index count⟩ := by
  simp only [routeKeys, List.mem_map, List.mem_range, eq_comm]

theorem map_keyOf_groupMetadata (ingress : Ingress) (count : Nat) :
    (groupMetadata ingress count).map keyOf = routeKeys ingress count := by
  rw [groupMetadata, List.map_map]
  rfl

theorem nodup_routeKeys (count : Nat) : (routeKeys ingress count).Nodup := by
  have names := nodup_names_groupMetadata ingress count
  rw [← map_keyOf_groupMetadata]
  refine List.Nodup.of_map ObjectKey.name ?_
  rw [List.map_map]
  exact names

theorem keys_desiredHTTPRoutes (reconciler : Reconciler) (surroundings : Surroundings)
    (ingress : Ingress) (services : GoMap ObjectKey Service) :
    let result := convertIngressWithServices surroundings (reconciler.input ingress services)
    (reconciler.desiredHTTPRoutes ingress result).map (fun route => keyOf route.metadata) =
      routeKeys ingress (httpRouteCount surroundings (reconciler.input ingress services)) := by
  intro result
  rw [← map_keyOf_groupMetadata, ← length_httpRoutes]
  refine Eq.trans ?_ (congrArg (List.map keyOf)
    (metadata_httpRoutes surroundings (reconciler.input ingress services)))
  rw [Reconciler.desiredHTTPRoutes, List.map_map, List.map_map]
  rfl

theorem keys_desiredGRPCRoutes (reconciler : Reconciler) (surroundings : Surroundings)
    (ingress : Ingress) (services : GoMap ObjectKey Service) :
    let result := convertIngressWithServices surroundings (reconciler.input ingress services)
    (reconciler.desiredGRPCRoutes ingress result).map (fun route => keyOf route.metadata) =
      routeKeys ingress (grpcRouteCount surroundings (reconciler.input ingress services)) := by
  intro result
  rw [← map_keyOf_groupMetadata, ← length_grpcRoutes]
  refine Eq.trans ?_ (congrArg (List.map keyOf)
    (metadata_grpcRoutes surroundings (reconciler.input ingress services)))
  rw [Reconciler.desiredGRPCRoutes, List.map_map, List.map_map]
  rfl

theorem key_of_mem_securityPolicies {result : ConversionResult} {policy : SecurityPolicy}
    (isPolicy : policy ∈ (reconciler.generatedPolicies ingress result).securityPolicies) :
    keyOf policy.metadata = ⟨ingress.metadata.ns, ingress.metadata.name ++ "-security"⟩ := by
  unfold Reconciler.generatedPolicies at isPolicy
  split at isPolicy
  · cases isPolicy
  · split at isPolicy
    · cases isPolicy
    · rw [(target_of_mem_securityPolicies isPolicy).2]
      rfl

theorem key_of_mem_backendTrafficPolicies {result : ConversionResult}
    {policy : BackendTrafficPolicy}
    (isPolicy : policy ∈ (reconciler.generatedPolicies ingress result).backendTrafficPolicies) :
    keyOf policy.metadata = ⟨ingress.metadata.ns, ingress.metadata.name ++ "-backend"⟩ := by
  unfold Reconciler.generatedPolicies at isPolicy
  split at isPolicy
  · cases isPolicy
  · split at isPolicy
    · cases isPolicy
    · rw [(target_of_mem_backendTrafficPolicies isPolicy).2]
      rfl

end Generated

/-! ## Objects of two Ingresses -/

section Disjoint

variable {reconciler : Reconciler} {ingress : Ingress} {result : ConversionResult}
  {key : ObjectKey}

theorem httpRoute_mem_generatedObjects :
    (.httpRoute, key) ∈ reconciler.generatedObjects ingress result ↔
      key ∈ (reconciler.desiredHTTPRoutes ingress result).map (fun route =>
        keyOf route.metadata) := by
  simp [Reconciler.generatedObjects]

theorem grpcRoute_mem_generatedObjects :
    (.grpcRoute, key) ∈ reconciler.generatedObjects ingress result ↔
      key ∈ (reconciler.desiredGRPCRoutes ingress result).map (fun route =>
        keyOf route.metadata) := by
  simp [Reconciler.generatedObjects]

theorem securityPolicy_mem_generatedObjects :
    (.securityPolicy, key) ∈ reconciler.generatedObjects ingress result ↔
      key ∈ (reconciler.generatedPolicies ingress result).securityPolicies.map (fun policy =>
        keyOf policy.metadata) := by
  simp [Reconciler.generatedObjects]

theorem backendTrafficPolicy_mem_generatedObjects :
    (.backendTrafficPolicy, key) ∈ reconciler.generatedObjects ingress result ↔
      key ∈ (reconciler.generatedPolicies ingress result).backendTrafficPolicies.map
        (fun policy => keyOf policy.metadata) := by
  simp [Reconciler.generatedObjects]

theorem key_of_securityPolicy_mem
    (isGenerated : (.securityPolicy, key) ∈ reconciler.generatedObjects ingress result) :
    key = ⟨ingress.metadata.ns, ingress.metadata.name ++ "-security"⟩ := by
  obtain ⟨policy, isPolicy, rfl⟩ :=
    List.mem_map.mp (securityPolicy_mem_generatedObjects.mp isGenerated)
  exact key_of_mem_securityPolicies isPolicy

theorem key_of_backendTrafficPolicy_mem
    (isGenerated : (.backendTrafficPolicy, key) ∈ reconciler.generatedObjects ingress result) :
    key = ⟨ingress.metadata.ns, ingress.metadata.name ++ "-backend"⟩ := by
  obtain ⟨policy, isPolicy, rfl⟩ :=
    List.mem_map.mp (backendTrafficPolicy_mem_generatedObjects.mp isGenerated)
  exact key_of_mem_backendTrafficPolicies isPolicy

theorem exists_mem_routeKeys_iff {other : Ingress}
    (sameNs : ingress.metadata.ns = other.metadata.ns)
    (different : ingress.metadata.name ≠ other.metadata.name) (count otherCount : Nat) :
    (∃ key, key ∈ routeKeys ingress count ∧ key ∈ routeKeys other otherCount) ↔
      RouteNamesClash ingress.metadata.name other.metadata.name count otherCount := by
  rw [← exists_generateRouteName_eq_iff different]
  simp only [mem_routeKeys]
  constructor
  · rintro ⟨key, ⟨index, below, rfl⟩, otherIndex, otherBelow, sameKey⟩
    exact ⟨index, below, otherIndex, otherBelow, congrArg ObjectKey.name sameKey⟩
  · rintro ⟨index, below, otherIndex, otherBelow, sameName⟩
    refine ⟨_, ⟨index, below, rfl⟩, otherIndex, otherBelow, ?_⟩
    rw [sameNs, sameName]

theorem disjoint_generatedObjects_iff (reconciler : Reconciler)
    (surroundings otherSurroundings : Surroundings) {ingress other : Ingress}
    (services otherServices : GoMap ObjectKey Service)
    (sameNs : ingress.metadata.ns = other.metadata.ns)
    (different : ingress.metadata.name ≠ other.metadata.name) :
    let input := reconciler.input ingress services
    let otherInput := reconciler.input other otherServices
    (reconciler.generatedObjects ingress (convertIngressWithServices surroundings input)).Disjoint
        (reconciler.generatedObjects other
          (convertIngressWithServices otherSurroundings otherInput)) ↔
      ¬ RouteNamesClash ingress.metadata.name other.metadata.name
          (httpRouteCount surroundings input) (httpRouteCount otherSurroundings otherInput) ∧
        ¬ RouteNamesClash ingress.metadata.name other.metadata.name
          (grpcRouteCount surroundings input) (grpcRouteCount otherSurroundings otherInput) := by
  intro input otherInput
  rw [← exists_mem_routeKeys_iff sameNs different, ← exists_mem_routeKeys_iff sameNs different,
    ← keys_desiredHTTPRoutes, ← keys_desiredHTTPRoutes, ← keys_desiredGRPCRoutes,
    ← keys_desiredGRPCRoutes]
  constructor
  · intro disjoint
    constructor
    · rintro ⟨key, isKey, isOtherKey⟩
      exact disjoint (httpRoute_mem_generatedObjects.mpr isKey)
        (httpRoute_mem_generatedObjects.mpr isOtherKey)
    · rintro ⟨key, isKey, isOtherKey⟩
      exact disjoint (grpcRoute_mem_generatedObjects.mpr isKey)
        (grpcRoute_mem_generatedObjects.mpr isOtherKey)
  · rintro ⟨noHTTP, noGRPC⟩ ⟨kind, key⟩ isGenerated isOther
    -- Policies are named after their Ingress with one suffix.
    have sameName {suffix : String}
        (isKey : key = ⟨ingress.metadata.ns, ingress.metadata.name ++ suffix⟩)
        (isOtherKey : key = ⟨other.metadata.ns, other.metadata.name ++ suffix⟩) : False := by
      have sameKeyName := congrArg ObjectKey.name (isKey.symm.trans isOtherKey)
      exact different ((String.append_left_inj suffix).mp sameKeyName)
    cases kind with
    | httpRoute =>
        exact noHTTP ⟨key, httpRoute_mem_generatedObjects.mp isGenerated,
          httpRoute_mem_generatedObjects.mp isOther⟩
    | grpcRoute =>
        exact noGRPC ⟨key, grpcRoute_mem_generatedObjects.mp isGenerated,
          grpcRoute_mem_generatedObjects.mp isOther⟩
    | securityPolicy =>
        exact sameName (key_of_securityPolicy_mem isGenerated) (key_of_securityPolicy_mem isOther)
    | backendTrafficPolicy =>
        exact sameName (key_of_backendTrafficPolicy_mem isGenerated)
          (key_of_backendTrafficPolicy_mem isOther)

end Disjoint

/-! ## Routes of others -/

section Foreign

/-- The object does not carry the label of the Ingress. -/
def Foreign (ingress : Ingress) (metadata : ObjectMeta) : Prop :=
  metadata.labels.lookup labelSourceIngress ≠
    some (sourceIngress ingress.metadata.name ingress.metadata.ns)

/-- A pass leaves the routes of others as they are. -/
structure ForeignRoutesKept (ingress : Ingress) (start reached : ConversionObjects) : Prop where
  http : ∀ key route, start.httpRoutes.get key = some route → Foreign ingress route.metadata →
    reached.httpRoutes.get key = some route
  grpc : ∀ key route, start.grpcRoutes.get key = some route → Foreign ingress route.metadata →
    reached.grpcRoutes.get key = some route

/-- No route of others has one of the keys that the Ingress has by the number of its
routes. -/
structure OwnsRouteKeys (surroundings : Surroundings) (input : Input) (start : ConversionObjects) :
    Prop where
  http : ∀ key ∈ routeKeys input.ingress (httpRouteCount surroundings input), ∀ route,
    start.httpRoutes.get key = some route → ¬ Foreign input.ingress route.metadata
  grpc : ∀ key ∈ routeKeys input.ingress (grpcRouteCount surroundings input), ∀ route,
    start.grpcRoutes.get key = some route → ¬ Foreign input.ingress route.metadata

def Reconciler.inputOf (reconciler : Reconciler) (pass : ConversionPass)
    (objects : ConversionObjects) (ingress : Ingress) : Input :=
  reconciler.input ingress (fetchServicesForIngress pass objects ingress)

variable {reconciler : Reconciler} {pass : ConversionPass} {ingress : Ingress}
  {start reached : ConversionObjects}

theorem not_foreign_of_mem_desiredHTTPRoutes {result : ConversionResult} {route : HTTPRoute}
    (isRoute : route ∈ reconciler.desiredHTTPRoutes ingress result) :
    ¬ Foreign ingress route.metadata := by
  obtain ⟨converted, -, rfl⟩ := List.mem_map.mp isRoute
  simp [Foreign, applyRouteMetadata]

theorem not_foreign_of_mem_desiredGRPCRoutes {result : ConversionResult} {route : GRPCRoute}
    (isRoute : route ∈ reconciler.desiredGRPCRoutes ingress result) :
    ¬ Foreign ingress route.metadata := by
  obtain ⟨converted, -, rfl⟩ := List.mem_map.mp isRoute
  simp [Foreign, applyRouteMetadata]

/-- A pass that owns the keys of its routes keeps the routes of others, also when it
fails. -/
theorem foreignRoutesKept_of_ownsRouteKeys {outcome : Except String Bool}
    (owns : OwnsRouteKeys pass.surroundings (reconciler.inputOf pass start ingress) start)
    (run : reconciler.reconcileIngress pass ingress start = some (outcome, reached)) :
    ForeignRoutesKept ingress start reached := by
  constructor
  · intro key route isRoute isForeign
    rw [← isRoute]
    refine (reconcileIngress_ensures_part (fun objects => objects.httpRoutes.get key)
      (fun _ _ => rfl) (fun _ _ => rfl) (fun _ _ => rfl) (fun _ _ => rfl) (fun _ _ => rfl)
      ?_ ?_).of_run run
    · apply Pass.keeps_forM_of_mem
      intro desired isDesired
      apply keeps_get_reconcile lawful_httpRouteStore
      rintro rfl
      refine owns.http _ ?_ route isRoute isForeign
      exact keys_desiredHTTPRoutes reconciler pass.surroundings ingress _ ▸
        List.mem_map_of_mem isDesired
    · exact Pass.keeps_forM _ (keeps_reconcile _ (fun _ _ => rfl))
  · intro key route isRoute isForeign
    rw [← isRoute]
    refine (reconcileIngress_ensures_part (fun objects => objects.grpcRoutes.get key)
      (fun _ _ => rfl) (fun _ _ => rfl) (fun _ _ => rfl) (fun _ _ => rfl) (fun _ _ => rfl)
      ?_ ?_).of_run run
    · exact Pass.keeps_forM _ (keeps_reconcile _ (fun _ _ => rfl))
    · apply Pass.keeps_forM_of_mem
      intro desired isDesired
      apply keeps_get_reconcile lawful_grpcRouteStore
      rintro rfl
      refine owns.grpc _ ?_ route isRoute isForeign
      exact keys_desiredGRPCRoutes reconciler pass.surroundings ingress _ ▸
        List.mem_map_of_mem isDesired

theorem GeneratedStore.Rewritten.get_ne {α : Type} {generated : GeneratedStore α}
    (lawful : generated.Lawful) {objects : List α}
    (rewritten : generated.Rewritten objects start reached)
    (distinct : (objects.map (fun object => keyOf (generated.metadata object))).Nodup)
    {desired stored : α} (isDesired : desired ∈ objects)
    (own : ¬ Foreign ingress (generated.metadata desired))
    (isForeign : Foreign ingress (generated.metadata stored)) :
    (generated.stored reached).get (keyOf (generated.metadata desired)) ≠ some stored := by
  intro kept
  rw [rewritten.get_of_mem lawful distinct isDesired, Option.some.injEq] at kept
  apply own
  rw [Foreign, ← labels_replaced lawful _ desired, kept]
  exact isForeign

theorem ownsRouteKeys_of_foreignRoutesKept {requeue : Bool}
    (kept : ForeignRoutesKept ingress start reached)
    (run : reconciler.reconcileIngress pass ingress start = some (.ok requeue, reached)) :
    OwnsRouteKeys pass.surroundings (reconciler.inputOf pass start ingress) start := by
  obtain ⟨stages⟩ := nonempty_stages run
  constructor
  · intro key isKey route isRoute isForeign
    change key ∈ routeKeys ingress _ at isKey
    rw [Reconciler.inputOf, ← keys_desiredHTTPRoutes] at isKey
    obtain ⟨desired, isDesired, rfl⟩ := List.mem_map.mp isKey
    refine stages.httpRoutes.get_ne lawful_httpRouteStore ?_ isDesired
      (not_foreign_of_mem_desiredHTTPRoutes isDesired) isForeign
      (kept.http _ route isRoute isForeign)
    exact (keys_desiredHTTPRoutes reconciler _ ingress _).symm ▸ nodup_routeKeys _
  · intro key isKey route isRoute isForeign
    change key ∈ routeKeys ingress _ at isKey
    rw [Reconciler.inputOf, ← keys_desiredGRPCRoutes] at isKey
    obtain ⟨desired, isDesired, rfl⟩ := List.mem_map.mp isKey
    refine stages.grpcRoutes.get_ne lawful_grpcRouteStore ?_ isDesired
      (not_foreign_of_mem_desiredGRPCRoutes isDesired) isForeign
      (kept.grpc _ route isRoute isForeign)
    exact (keys_desiredGRPCRoutes reconciler _ ingress _).symm ▸ nodup_routeKeys _

end Foreign

/-- Two Ingresses of one namespace generate objects of different kinds or names exactly
when no Ingress with one group of hosts is named like one of several groups of the other. A
pass that does not find a route of others under the key of one of its groups leaves the
routes of others alone, and a successful pass does so only then. -/
theorem separate_and_kept_iff (reconciler : Reconciler) :
    (∀ surroundings otherSurroundings ingress other services otherServices,
      ingress.metadata.ns = other.metadata.ns → ingress.metadata.name ≠ other.metadata.name →
      let input := reconciler.input ingress services
      let otherInput := reconciler.input other otherServices
      ((reconciler.generatedObjects ingress
          (convertIngressWithServices surroundings input)).Disjoint
          (reconciler.generatedObjects other
            (convertIngressWithServices otherSurroundings otherInput)) ↔
        ¬ RouteNamesClash ingress.metadata.name other.metadata.name
            (httpRouteCount surroundings input) (httpRouteCount otherSurroundings otherInput) ∧
          ¬ RouteNamesClash ingress.metadata.name other.metadata.name
            (grpcRouteCount surroundings input) (grpcRouteCount otherSurroundings otherInput))) ∧
    ∀ pass ingress start outcome reached,
      reconciler.reconcileIngress pass ingress start = some (outcome, reached) →
      (OwnsRouteKeys pass.surroundings (reconciler.inputOf pass start ingress) start →
        ForeignRoutesKept ingress start reached) ∧
      ∀ requeue, outcome = .ok requeue →
        (ForeignRoutesKept ingress start reached ↔
          OwnsRouteKeys pass.surroundings (reconciler.inputOf pass start ingress) start) := by
  constructor
  · intro surroundings otherSurroundings ingress other services otherServices sameNs different
    exact disjoint_generatedObjects_iff reconciler surroundings otherSurroundings services
      otherServices sameNs different
  · intro pass ingress start outcome reached run
    refine ⟨fun owns => foreignRoutesKept_of_ownsRouteKeys owns run, ?_⟩
    rintro requeue rfl
    exact ⟨fun kept => ownsRouteKeys_of_foreignRoutesKept kept run,
      fun owns => foreignRoutesKept_of_ownsRouteKeys owns run⟩

/-! ## An Ingress named like a route -/

def oneHostIngress (name : String) : Ingress where
  metadata := { name := name, ns := "default" }
  spec :=
    { rules := [
        { host := "other.example.com", http := some [servicePath "/" "other" 80] }] }

/-- An Ingress named like the first route of another. -/
def indexedIngress : Ingress := oneHostIngress "shop-1"

def plainReconciler : Reconciler where
  gatewayName := "kubelb"
  gatewayNamespace := "kubelb"

/-- A cluster with the Ingress of two routes and the one named like the first of them. -/
def indexedObjects : ConversionObjects where
  ingresses := (Store.empty.put twoHostIngress).put indexedIngress

def sourceOfRoute (objects : ConversionObjects) (key : ObjectKey) : Option String :=
  (objects.httpRoutes.get key).bind (fun route => route.metadata.labels.lookup labelSourceIngress)

def generatedFrom (ingress : Ingress) : List (GeneratedKind × ObjectKey) :=
  plainReconciler.generatedObjects ingress
    (convertIngressWithServices orderedSurroundings (plainReconciler.input ingress ∅))

/-- Both Ingresses generate the HTTPRoute `shop-1`, and the pass of the second overwrites
the route of the first. -/
theorem first_route_overwritten :
    twoHostIngress.isValid = true ∧ indexedIngress.isValid = true ∧
      ¬ (generatedFrom twoHostIngress).Disjoint (generatedFrom indexedIngress) ∧
      ∃ between reached requeue,
        plainReconciler.reconcile (quietPass ⟨"default", "shop"⟩ 0) indexedObjects =
          some (.ok requeue, between) ∧
        plainReconciler.reconcile (quietPass ⟨"default", "shop-1"⟩ 0) between =
          some (.ok requeue, reached) ∧
        sourceOfRoute between ⟨"default", "shop-1"⟩ = some "shop.default" ∧
        sourceOfRoute reached ⟨"default", "shop-1"⟩ = some "shop-1.default" := by
  refine ⟨by decide +kernel, by decide +kernel, ?_, ?_⟩
  · intro disjoint
    have isShared : (.httpRoute, ⟨"default", "shop-1"⟩) ∈ generatedFrom twoHostIngress ∧
        (.httpRoute, ⟨"default", "shop-1"⟩) ∈ generatedFrom indexedIngress := by
      decide +kernel
    exact disjoint isShared.1 isShared.2
  · have evaluated : (plainReconciler.reconcile (quietPass ⟨"default", "shop"⟩ 0)
        indexedObjects).bind (fun first =>
          (plainReconciler.reconcile (quietPass ⟨"default", "shop-1"⟩ 0) first.2).map
            (fun second => (first.1.toOption, second.1.toOption,
              sourceOfRoute first.2 ⟨"default", "shop-1"⟩,
              sourceOfRoute second.2 ⟨"default", "shop-1"⟩))) =
        some (some true, some true, some "shop.default", some "shop-1.default") := by
      decide +kernel
    obtain ⟨⟨outcome, between⟩, first, rest⟩ := Option.bind_eq_some_iff.mp evaluated
    obtain ⟨⟨otherOutcome, reached⟩, second, values⟩ := Option.map_eq_some_iff.mp rest
    simp only [Prod.mk.injEq] at values
    obtain ⟨isOutcome, isOther, isBetween, isReached⟩ := values
    cases outcome with
    | error error => cases isOutcome
    | ok requeue =>
        cases otherOutcome with
        | error error => cases isOther
        | ok otherRequeue =>
            cases isOutcome
            cases isOther
            exact ⟨between, reached, true, first, second, isBetween, isReached⟩

/-- Two Ingresses whose routes have different names, and a pass that finds no route. -/
theorem other_names_separate :
    (generatedFrom twoHostIngress).Disjoint (generatedFrom (oneHostIngress "cart")) ∧
      ∃ reached requeue,
        plainReconciler.reconcileIngress (quietPass ⟨"default", "shop"⟩ 0) twoHostIngress
          indexedObjects = some (.ok requeue, reached) ∧
        ForeignRoutesKept twoHostIngress indexedObjects reached := by
  constructor
  · exact ((separate_and_kept_iff plainReconciler).1 orderedSurroundings orderedSurroundings
      twoHostIngress (oneHostIngress "cart") ∅ ∅ rfl (by decide)).mpr (by decide +kernel)
  · have evaluated : (plainReconciler.reconcileIngress (quietPass ⟨"default", "shop"⟩ 0)
        twoHostIngress indexedObjects).map (fun result => result.1.toOption) =
        some (some true) := by
      decide +kernel
    obtain ⟨⟨outcome, reached⟩, run, isOutcome⟩ := Option.map_eq_some_iff.mp evaluated
    cases outcome with
    | error error => cases isOutcome
    | ok requeue =>
        refine ⟨reached, requeue, run, ?_⟩
        refine ((separate_and_kept_iff plainReconciler).2 _ twoHostIngress indexedObjects _ reached
          run).1 ⟨?_, ?_⟩
        · intro key _ route isRoute
          cases isRoute
        · intro key _ route isRoute
          cases isRoute

end KubeLB.Conversion
