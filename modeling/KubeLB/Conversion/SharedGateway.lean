import KubeLB.Conversion.Stages

/-!
Contract: the Gateway that all converted Ingresses share.

Owns: what one pass does to the listeners of a Gateway, runs of passes over the
Ingresses of a cluster, and when every TLS host of a converted Ingress keeps a listener
of its own.

Does not own: listeners and Gateways written by others.
-/

set_option autoImplicit false

namespace KubeLB.Conversion

open KubeLB.Library KubeLB.Core KubeLB.Networking KubeLB.GatewayApi KubeLB.Controllers

/-! ## Listeners of one configuration -/

theorem listenerNameFromHostname_ne_http (hostname : String) :
    listenerNameFromHostname hostname ≠ httpListener.name := by
  unfold listenerNameFromHostname
  split
  · decide
  · intro same
    have sameText := congrArg String.toList same
    rw [String.toList_append] at sameText
    cases sameText

theorem nodup_names_buildListeners {tlsListeners : List TLSListener}
    (separate : ∀ tls ∈ tlsListeners, ∀ other ∈ tlsListeners,
      listenerNameFromHostname tls.hostname = listenerNameFromHostname other.hostname →
        tls.hostname = other.hostname) :
    ((buildListeners tlsListeners).map Listener.name).Nodup := by
  have isMember {tls : TLSListener}
      (isKept : tls ∈ keepFirst TLSListener.hostname tlsListeners ∅) : tls ∈ tlsListeners :=
    (keepFirst_sublist _ _ _).subset isKept
  rw [buildListeners, List.map_cons, List.nodup_cons, List.map_map]
  constructor
  · intro isName
    obtain ⟨tls, -, sameName⟩ := List.mem_map.mp isName
    exact listenerNameFromHostname_ne_http tls.hostname sameName
  · have hostnames := (keepFirst_keys TLSListener.hostname tlsListeners ∅).1
    apply List.Nodup.map_on _ hostnames.of_map
    intro tls isTLS other isOther sameName
    exact List.inj_on_of_nodup_map hostnames isTLS isOther
      (separate tls (isMember isTLS) other (isMember isOther) sameName)

theorem mem_iff_of_listenersEqual {left right : List Listener}
    (rightDistinct : (right.map Listener.name).Nodup) (equal : listenersEqual left right = true)
    (listener : Listener) :
    listener ∈ left ↔ listener ∈ right := by
  rw [listenersEqual, Bool.and_eq_true, decide_eq_true_eq, List.all_eq_true] at equal
  obtain ⟨sameLength, allKnown⟩ := equal
  have isSubset : right ⊆ left := by
    intro other isOther
    obtain ⟨known, found, sameConfig⟩ := (Option.any_eq_true _ _).mp (allKnown other isOther)
    obtain ⟨isKnown, sameName⟩ := mem_of_lookup_indexBy Listener.name found
    simp only [listenerConfigEqual, decide_eq_true_eq] at sameConfig
    have same : known = other := by
      cases known
      cases other
      simp_all
    exact same ▸ isKnown
  have permuted := (rightDistinct.of_map.subperm isSubset).perm_of_length_le sameLength.le
  exact permuted.mem_iff.symm

theorem isMerge_of_listenersEqual {present desired : List Listener}
    (distinct : (present.map Listener.name).Nodup)
    (desiredDistinct : (desired.map Listener.name).Nodup)
    (equal : listenersEqual present (mergeListeners present desired) = true) :
    IsMerge Listener.name present desired present where
  distinct := distinct
  mem_iff listener := by
    have isMerge := isMerge_mergeBy Listener.name distinct desiredDistinct
    exact (mem_iff_of_listenersEqual isMerge.distinct equal listener).trans
      (isMerge.mem_iff listener)

/-! ## Listeners of a Gateway -/

section Gateway

variable (reconciler : Reconciler)

def Reconciler.gatewayKey (ingress : Ingress) : ObjectKey where
  ns := reconciler.gatewayNamespaceFor ingress
  name := reconciler.gatewayName

def listenersAt (objects : ConversionObjects) (key : ObjectKey) : List Listener :=
  ((objects.gateways.get key).map (fun gateway => gateway.spec.listeners)).getD []

variable {reconciler} {ingress : Ingress} {tlsListeners : List TLSListener}
  {objects : ConversionObjects}

theorem get_writeGateway_of_ne {key : ObjectKey} (different : key ≠ reconciler.gatewayKey ingress) :
    (reconciler.writeGateway ingress tlsListeners objects).gateways.get key =
      objects.gateways.get key := by
  unfold Reconciler.writeGateway
  simp only
  split
  · exact Store.get_put_of_ne _ different
  · rename_i existing isExisting
    split
    · apply Store.get_put_of_ne
      have isKey := objects.gateways.keyed isExisting
      exact fun same => different (same.trans isKey)
    · rfl

theorem listenersAt_put {gateway : Gateway} {key : ObjectKey}
    (isKey : keyOf gateway.metadata = key) :
    listenersAt { objects with gateways := objects.gateways.put gateway } key =
      gateway.spec.listeners := by
  subst isKey
  simp only [listenersAt, Store.get_put_self, Option.map_some, Option.getD_some]

/-- The listeners of the configuration are merged into those of the Gateway. -/
theorem isMerge_writeGateway
    (distinct : ((listenersAt objects (reconciler.gatewayKey ingress)).map Listener.name).Nodup)
    (desiredDistinct : ((buildListeners tlsListeners).map Listener.name).Nodup) :
    IsMerge Listener.name (listenersAt objects (reconciler.gatewayKey ingress))
      (buildListeners tlsListeners)
      (listenersAt (reconciler.writeGateway ingress tlsListeners objects)
        (reconciler.gatewayKey ingress)) := by
  unfold Reconciler.writeGateway
  simp only
  split
  · rename_i isMissing
    have noGateway : objects.gateways.get (reconciler.gatewayKey ingress) = none := isMissing
    have isKey : keyOf (buildGateway (reconciler.gatewayConfig ingress tlsListeners)).metadata =
        reconciler.gatewayKey ingress := rfl
    rw [listenersAt_put isKey, listenersAt, noGateway]
    exact isMerge_nil Listener.name desiredDistinct
  · rename_i existing found
    have isExisting : objects.gateways.get (reconciler.gatewayKey ingress) = some existing := found
    have isPresent : listenersAt objects (reconciler.gatewayKey ingress) =
        existing.spec.listeners := by
      rw [listenersAt, isExisting]
      rfl
    rw [isPresent] at distinct ⊢
    split
    · have existingKey := objects.gateways.keyed isExisting
      have isKey : keyOf (mergeGateway existing
          (reconciler.gatewayConfig ingress tlsListeners)).metadata =
            reconciler.gatewayKey ingress := existingKey
      rw [listenersAt_put isKey, mergeGateway]
      simp only
      split
      · rename_i equal
        exact isMerge_of_listenersEqual distinct desiredDistinct equal
      · exact isMerge_mergeBy Listener.name distinct desiredDistinct
    · rename_i current
      rw [isPresent]
      simp only [gatewayOutdated, Bool.or_eq_true, Bool.not_eq_true', not_or,
        Bool.not_eq_false] at current
      exact isMerge_of_listenersEqual distinct desiredDistinct current.1

end Gateway

/-! ## Runs of passes -/

/-- The objects, and the keys of the Ingresses that were converted so far. -/
structure GatewayRun where
  objects : ConversionObjects
  reconciled : List ObjectKey := []

section Runs

variable (reconciler : Reconciler)

def Reconciler.gatewayStep (state : GatewayRun) (pass : ConversionPass) : Option GatewayRun :=
  match reconciler.reconcile pass state.objects with
  | some (.ok _, reached) =>
      some
        { objects := reached
          reconciled :=
            if (reconciler.convertedIngress state.objects pass.key).isSome then
              state.reconciled ++ [pass.key]
            else state.reconciled }
  | _ => none

/-- The TLS listeners of an Ingress after its secrets were copied. -/
def Reconciler.servedListeners (present : ObjectKey → Bool) (ingress : Ingress) :
    List TLSListener :=
  if reconciler.copyTLSSecrets then
    reconciler.syncedListeners present (reconciler.tlsListenersOf ingress) ∅
  else reconciler.tlsListenersOf ingress

/-- The listeners that the converted Ingresses want of a Gateway. -/
def Reconciler.requested (start : ConversionObjects) (reconciled : List ObjectKey)
    (gatewayKey : ObjectKey) : Set Listener :=
  { listener | ∃ key ∈ reconciled, ∃ ingress, start.ingresses.get key = some ingress ∧
      reconciler.gatewayKey ingress = gatewayKey ∧
      listener ∈ buildListeners (reconciler.servedListeners start.present ingress) }

/-- Each Gateway has listeners of distinct names, its HTTPS listeners have a host and a
certificate, and each TLS host of a converted Ingress has one of them. -/
structure GatewayServes (start : ConversionObjects) (reached : GatewayRun) : Prop where
  distinct : ∀ key, ((listenersAt reached.objects key).map Listener.name).Nodup
  named : ∀ key, ∀ listener ∈ listenersAt reached.objects key, listener.protocol = .https →
    ∃ hostname certificate, listener.hostname = some hostname ∧ hostname ≠ "*" ∧
      listener.certificateRefs = some [certificate] ∧ certificate ≠ ""
  served : ∀ key ∈ reached.reconciled, ∀ ingress, start.ingresses.get key = some ingress →
    ∀ tls ∈ reconciler.tlsListenersOf ingress,
      ∃! listener, listener ∈ listenersAt reached.objects (reconciler.gatewayKey ingress) ∧
        listener.protocol = .https ∧ listener.hostname = some tls.hostname

/-- Every TLS section of a converted Ingress has hosts and a secret, and the names of listeners
tell the hosts of one Gateway apart. -/
structure SeparateHosts (start : ConversionObjects) (reconciled : List ObjectKey) : Prop where
  named : ∀ key ∈ reconciled, ∀ ingress, start.ingresses.get key = some ingress →
    ∀ tls ∈ reconciler.tlsListenersOf ingress, tls.hostname ≠ "*" ∧ tls.secretName ≠ ""
  separate : ∀ key ∈ reconciled, ∀ otherKey ∈ reconciled, ∀ ingress other,
    start.ingresses.get key = some ingress → start.ingresses.get otherKey = some other →
    reconciler.gatewayKey ingress = reconciler.gatewayKey other →
    ∀ tls ∈ reconciler.tlsListenersOf ingress, ∀ otherTLS ∈ reconciler.tlsListenersOf other,
      listenerNameFromHostname tls.hostname = listenerNameFromHostname otherTLS.hostname →
        tls.hostname = otherTLS.hostname

/-- Different converted Ingresses name the same secret for a host that they share, and with
copies none of them uses a missing secret twice. -/
structure SameSecrets (start : ConversionObjects) (reconciled : List ObjectKey) : Prop where
  agree : ∀ key ∈ reconciled, ∀ otherKey ∈ reconciled, ∀ ingress other,
    start.ingresses.get key = some ingress → start.ingresses.get otherKey = some other →
    key ≠ otherKey → reconciler.gatewayKey ingress = reconciler.gatewayKey other →
    ∀ tls ∈ reconciler.tlsListenersOf ingress, ∀ otherTLS ∈ reconciler.tlsListenersOf other,
      tls.hostname = otherTLS.hostname → tls.source = otherTLS.source
  once : reconciler.copyTLSSecrets = true → ∀ key ∈ reconciled, ∀ ingress,
    start.ingresses.get key = some ingress →
      reconciler.MissingOnce start.present (reconciler.tlsListenersOf ingress)

/-- What holds along a run: passes keep the specs of Ingresses and the secrets of other
namespaces, and the Gateways collect what was requested. -/
structure SharedInvariant (start : ConversionObjects) (state : GatewayRun) : Prop where
  specs : ∀ key, (state.objects.ingresses.get key).map Ingress.spec =
    (start.ingresses.get key).map Ingress.spec
  secrets : ∀ key, key.ns ≠ reconciler.gatewayNamespace →
    state.objects.secrets.get key = start.secrets.get key
  collected : ∀ key, Collected Listener.name (reconciler.requested start state.reconciled key)
    (listenersAt state.objects key)

variable {reconciler} {start : ConversionObjects} {reconciled : List ObjectKey}

theorem tlsListenersOf_congr {ingress other : Ingress} (sameSpec : ingress.spec = other.spec)
    (sameNs : ingress.metadata.ns = other.metadata.ns) :
    reconciler.tlsListenersOf ingress = reconciler.tlsListenersOf other := by
  rw [Reconciler.tlsListenersOf, Reconciler.tlsListenersOf, sameSpec, sameNs]

theorem gatewayKey_congr {ingress other : Ingress}
    (sameNs : ingress.metadata.ns = other.metadata.ns) :
    reconciler.gatewayKey ingress = reconciler.gatewayKey other := by
  rw [Reconciler.gatewayKey, Reconciler.gatewayKey, Reconciler.gatewayNamespaceFor,
    Reconciler.gatewayNamespaceFor, sameNs]

theorem servedListeners_congr {present otherPresent : ObjectKey → Bool} {ingress other : Ingress}
    (samePresent : ∀ key, key.ns ≠ reconciler.gatewayNamespace → present key = otherPresent key)
    (sameListeners : reconciler.tlsListenersOf ingress = reconciler.tlsListenersOf other) :
    reconciler.servedListeners present ingress = reconciler.servedListeners otherPresent other := by
  unfold Reconciler.servedListeners
  rw [sameListeners, syncedListeners_congr reconciler _ ∅
    (fun tls _ copies => samePresent tls.source copies.2)]

/-- `syncTLSSecrets` for the listeners of an Ingress. -/
theorem syncTLSSecrets_ok {pass : ConversionPass} {ingress : Ingress}
    {listeners : List TLSListener} {reached : ConversionObjects}
    (run : reconciler.syncTLSSecrets pass (reconciler.tlsListenersOf ingress) start =
      some (.ok listeners, reached)) :
    listeners = reconciler.servedListeners start.present ingress ∧
      ∀ key, key.ns ≠ reconciler.gatewayNamespace →
        reached.secrets.get key = start.secrets.get key := by
  unfold Reconciler.syncTLSSecrets at run
  unfold Reconciler.servedListeners
  split at run
  · rename_i copying
    rw [if_pos copying]
    obtain ⟨isReturned, copied⟩ := (syncRounds_ensures _ ∅
      (fun tls isListener => (of_mem_tlsListenersOf isListener).1)).of_run run
    exact ⟨isReturned, fun key outside => copied.get_of_ns_ne outside⟩
  · rename_i notCopying
    obtain ⟨rfl, rfl⟩ := Pass.pure_eq_ok_iff.mp run
    exact ⟨by rw [if_neg notCopying], fun _ _ => rfl⟩

theorem specs_put {current updated : Ingress} {key : ObjectKey}
    (isCurrent : start.ingresses.get key = some current) (sameSpec : updated.spec = current.spec)
    (sameKey : keyOf updated.metadata = keyOf current.metadata) (searched : ObjectKey) :
    ((start.ingresses.put updated).get searched).map Ingress.spec =
      (start.ingresses.get searched).map Ingress.spec := by
  have isKey : keyOf updated.metadata = key := sameKey.trans (start.ingresses.keyed isCurrent)
  by_cases same : searched = keyOf updated.metadata
  · rw [same, Store.get_put_self, isKey, isCurrent, Option.map_some, Option.map_some, sameSpec]
  · rw [Store.get_put_of_ne start.ingresses same]

theorem SharedInvariant.original {state : GatewayRun}
    (invariant : SharedInvariant reconciler start state) {key : ObjectKey} {ingress : Ingress}
    (isIngress : state.objects.ingresses.get key = some ingress) :
    ∃ original, start.ingresses.get key = some original ∧ original.spec = ingress.spec ∧
      original.metadata.ns = ingress.metadata.ns := by
  have sameSpec := invariant.specs key
  rw [isIngress, Option.map_some] at sameSpec
  obtain ⟨original, isOriginal, isSpec⟩ := Option.map_eq_some_iff.mp sameSpec.symm
  have ofState : keyOf ingress.metadata = key := state.objects.ingresses.keyed isIngress
  have ofStart : keyOf original.metadata = key := start.ingresses.keyed isOriginal
  exact ⟨original, isOriginal, isSpec, congrArg ObjectKey.ns (ofStart.trans ofState.symm)⟩

theorem requested_snoc (reconciled : List ObjectKey) {key : ObjectKey} {ingress : Ingress}
    (isIngress : start.ingresses.get key = some ingress) (gatewayKey : ObjectKey) :
    reconciler.requested start (reconciled ++ [key]) gatewayKey =
      { listener | reconciler.gatewayKey ingress = gatewayKey ∧
          listener ∈ buildListeners (reconciler.servedListeners start.present ingress) } ∪
        reconciler.requested start reconciled gatewayKey := by
  ext listener
  simp only [Reconciler.requested, List.mem_append, List.mem_singleton, Set.mem_ofPred_eq,
    Set.mem_union]
  constructor
  · rintro ⟨other, isReconciled | rfl, found, isFound, holds⟩
    · exact Or.inr ⟨other, isReconciled, found, isFound, holds⟩
    · rw [isIngress, Option.some.injEq] at isFound
      exact Or.inl (isFound ▸ holds)
  · rintro (holds | ⟨other, isReconciled, found⟩)
    · exact ⟨key, Or.inr rfl, ingress, isIngress, holds⟩
    · exact ⟨other, Or.inl isReconciled, found⟩

/-- Copies change nothing but the names of certificates. -/
theorem forall₂_syncedListeners (present : ObjectKey → Bool) (listeners : List TLSListener)
    (seen : Finset String) :
    List.Forall₂ (fun tls synced => synced = tls ∨ synced = tls.synced) listeners
      (reconciler.syncedListeners present listeners seen) := by
  induction listeners generalizing seen with
  | nil => exact List.Forall₂.nil
  | cons tls rest ih =>
      unfold Reconciler.syncedListeners
      by_cases copies : reconciler.Copies tls
      · rw [if_pos copies]
        by_cases isSeen : sourceText tls.source ∈ seen
        · rw [if_pos isSeen]
          exact List.Forall₂.cons (Or.inr rfl) (ih seen)
        · rw [if_neg isSeen]
          refine List.Forall₂.cons ?_ (ih _)
          split
          · exact Or.inr rfl
          · exact Or.inl rfl
      · rw [if_neg copies]
        exact List.Forall₂.cons (Or.inl rfl) (ih seen)

theorem forall₂_servedListeners (present : ObjectKey → Bool) (ingress : Ingress) :
    List.Forall₂ (fun tls served => served = tls ∨ served = tls.synced)
      (reconciler.tlsListenersOf ingress) (reconciler.servedListeners present ingress) := by
  unfold Reconciler.servedListeners
  split
  · exact forall₂_syncedListeners present _ ∅
  · exact List.forall₂_same.mpr (fun tls _ => Or.inl rfl)

theorem of_mem_servedListeners {present : ObjectKey → Bool} {ingress : Ingress}
    {served : TLSListener} (isServed : served ∈ reconciler.servedListeners present ingress) :
    ∃ tls ∈ reconciler.tlsListenersOf ingress, served = tls ∨ served = tls.synced :=
  forall₂_partner (forall₂_servedListeners present ingress).flip isServed

theorem exists_servedListener (present : ObjectKey → Bool) {ingress : Ingress} {tls : TLSListener}
    (isTLS : tls ∈ reconciler.tlsListenersOf ingress) :
    ∃ served ∈ reconciler.servedListeners present ingress, served.hostname = tls.hostname := by
  obtain ⟨served, isServed, origin⟩ :=
    forall₂_partner (forall₂_servedListeners present ingress) isTLS
  refine ⟨served, isServed, ?_⟩
  rcases origin with rfl | rfl <;> rfl

theorem SeparateHosts.nodup (separate : SeparateHosts reconciler start reconciled)
    {key : ObjectKey} (isReconciled : key ∈ reconciled) {ingress : Ingress}
    (isIngress : start.ingresses.get key = some ingress) :
    ((buildListeners (reconciler.servedListeners start.present ingress)).map
      Listener.name).Nodup := by
  apply nodup_names_buildListeners
  intro served isServed other isOther sameName
  obtain ⟨tls, isTLS, origin⟩ := of_mem_servedListeners isServed
  obtain ⟨otherTLS, isOtherTLS, otherOrigin⟩ := of_mem_servedListeners isOther
  have sameHost := separate.separate key isReconciled key isReconciled ingress ingress isIngress
    isIngress rfl tls isTLS otherTLS isOtherTLS
  have isHost : served.hostname = tls.hostname := by rcases origin with rfl | rfl <;> rfl
  have isOtherHost : other.hostname = otherTLS.hostname := by
    rcases otherOrigin with rfl | rfl <;> rfl
  rw [isHost, isOtherHost] at sameName ⊢
  exact sameHost sameName

/-- A pass that converts an Ingress merges its listeners into its Gateway. -/
theorem SharedInvariant.convert (separate : SeparateHosts reconciler start reconciled)
    {state : GatewayRun} (invariant : SharedInvariant reconciler start state)
    {pass : ConversionPass} (isReconciled : pass.key ∈ reconciled) {ingress : Ingress}
    {reached : ConversionObjects} {requeue : Bool}
    (isIngress : state.objects.ingresses.get pass.key = some ingress)
    (stages : Stages reconciler pass ingress state.objects reached requeue) :
    SharedInvariant reconciler start
      { objects := reached, reconciled := state.reconciled ++ [pass.key] } := by
  obtain ⟨original, isOriginal, sameSpec, sameNs⟩ := invariant.original isIngress
  obtain ⟨isListeners, secretsKept⟩ := syncTLSSecrets_ok stages.synced
  have served : stages.listeners = reconciler.servedListeners start.present original := by
    rw [isListeners]
    refine servedListeners_congr ?_ (tlsListenersOf_congr sameSpec.symm sameNs.symm)
    intro key outside
    rw [ConversionObjects.present, invariant.secrets key outside]
    rfl
  constructor
  · intro key
    obtain ⟨current, isCurrent, -, isReached⟩ := stages.ingresses
    rw [isReached]
    refine (specs_put isCurrent ?_ ?_ key).trans (invariant.specs key) <;> rfl
  · intro key outside
    rw [stages.secrets, secretsKept key outside]
    exact invariant.secrets key outside
  · intro key
    rw [requested_snoc state.reconciled isOriginal key]
    have sameGateways : stages.afterSecrets.gateways = state.objects.gateways := by
      have frame := congrArg ConversionObjects.gateways stages.withoutSecrets_afterSecrets
      exact frame
    have before (key : ObjectKey) :
        listenersAt stages.afterSecrets key = listenersAt state.objects key := by
      rw [listenersAt, sameGateways]
      rfl
    have after (key : ObjectKey) : listenersAt reached key = listenersAt
        (reconciler.writeGateway ingress stages.listeners stages.afterSecrets) key := by
      rw [listenersAt, stages.gateways]
      rfl
    rw [after]
    have sameKey : reconciler.gatewayKey ingress = reconciler.gatewayKey original :=
      gatewayKey_congr sameNs.symm
    by_cases isGateway : key = reconciler.gatewayKey ingress
    · have isMerge : IsMerge Listener.name (listenersAt state.objects key)
          (buildListeners (reconciler.servedListeners start.present original))
          (listenersAt (reconciler.writeGateway ingress stages.listeners stages.afterSecrets)
            key) := by
        rw [isGateway, ← served, ← before]
        apply isMerge_writeGateway
        · rw [before]
          exact (invariant.collected _).distinct
        · rw [served]
          exact separate.nodup isReconciled isOriginal
      simpa only [isGateway, sameKey, true_and] using (invariant.collected key).merge isMerge
    · have noneRequested : ¬ reconciler.gatewayKey original = key :=
        fun same => isGateway (same.symm.trans sameKey.symm)
      have unchanged : listenersAt (reconciler.writeGateway ingress stages.listeners
          stages.afterSecrets) key = listenersAt state.objects key := by
        rw [listenersAt, get_writeGateway_of_ne isGateway, sameGateways]
        rfl
      rw [unchanged]
      simpa only [noneRequested, false_and, Set.ofPred_false, Set.empty_union] using
        invariant.collected key

theorem reconciled_subset_of_gatewayStep {state next : GatewayRun} {pass : ConversionPass}
    (isNext : reconciler.gatewayStep state pass = some next) :
    state.reconciled ⊆ next.reconciled := by
  unfold Reconciler.gatewayStep at isNext
  split at isNext
  · cases isNext
    dsimp only
    split
    · exact List.subset_append_left _ _
    · exact List.Subset.refl _
  · cases isNext

theorem SharedInvariant.step (separate : SeparateHosts reconciler start reconciled)
    {state next : GatewayRun} (invariant : SharedInvariant reconciler start state)
    {pass : ConversionPass} (isNext : reconciler.gatewayStep state pass = some next)
    (isPart : next.reconciled ⊆ reconciled) :
    SharedInvariant reconciler start next := by
  unfold Reconciler.gatewayStep at isNext
  split at isNext
  · rename_i requeue reached run
    cases isNext
    cases isConverted : reconciler.convertedIngress state.objects pass.key with
    | some ingress =>
        obtain ⟨stages⟩ := nonempty_stages (reconcileIngress_of_reconcile isConverted run)
        have isIngress := (Option.filter_eq_some_iff.mp isConverted).1
        refine invariant.convert separate (isPart ?_) isIngress stages
        simp [isConverted]
    | none =>
        rcases of_reconcile_of_none isConverted run with
          rfl | ⟨current, annotations, isCurrent, rfl⟩
        · exact invariant
        · refine ⟨fun key => ?_, invariant.secrets, invariant.collected⟩
          refine (specs_put isCurrent ?_ ?_ key).trans (invariant.specs key) <;> rfl
  · cases isNext

theorem sharedInvariant_of_run (noGateway : ∀ key, start.gateways.get key = none)
    (separate : SeparateHosts reconciler start reconciled) {passes : List ConversionPass}
    {reached : GatewayRun}
    (run : runFrom reconciler.gatewayStep ⟨start, []⟩ passes = some reached)
    (isPart : reached.reconciled ⊆ reconciled) :
    SharedInvariant reconciler start reached := by
  refine run_induction (motive := fun _ state => state.reconciled ⊆ reconciled →
    SharedInvariant reconciler start state) ?_ ?_ run isPart
  · intro _
    refine ⟨fun _ => rfl, fun _ _ => rfl, fun key => ?_⟩
    have noListeners : listenersAt start key = [] := by
      rw [listenersAt, noGateway]
      rfl
    rw [noListeners]
    refine ⟨List.nodup_nil, fun _ isListener => absurd isListener List.not_mem_nil, ?_⟩
    rintro listener ⟨reconciled, isReconciled, -⟩
    cases isReconciled
  · intro _ state pass next invariant isNext nextPart
    have statePart := List.Subset.trans (reconciled_subset_of_gatewayStep isNext) nextPart
    exact (invariant statePart).step separate isNext nextPart

/-! ## What the listeners serve -/

section Serves

variable {gatewayKey : ObjectKey} {listener : Listener}

theorem of_mem_requested
    (isRequested : listener ∈ reconciler.requested start reconciled gatewayKey) :
    listener = httpListener ∨ ∃ key ∈ reconciled, ∃ ingress,
      start.ingresses.get key = some ingress ∧ reconciler.gatewayKey ingress = gatewayKey ∧
      ∃ served ∈ keepFirst TLSListener.hostname
          (reconciler.servedListeners start.present ingress) ∅,
        listener = httpsListener served := by
  obtain ⟨key, isReconciled, ingress, isIngress, isGateway, isListener⟩ := isRequested
  rw [buildListeners, List.mem_cons, List.mem_map] at isListener
  rcases isListener with rfl | ⟨served, isServed, rfl⟩
  · exact Or.inl rfl
  · exact Or.inr ⟨key, isReconciled, ingress, isIngress, isGateway, served, isServed, rfl⟩

theorem SeparateHosts.of_mem_served (separate : SeparateHosts reconciler start reconciled)
    {key : ObjectKey} (isReconciled : key ∈ reconciled) {ingress : Ingress}
    (isIngress : start.ingresses.get key = some ingress)
    {served : TLSListener}
    (isServed : served ∈ reconciler.servedListeners start.present ingress) :
    served.hostname ≠ "*" ∧ served.secretName ≠ "" := by
  obtain ⟨tls, isTLS, rfl | rfl⟩ := of_mem_servedListeners isServed
  · exact separate.named key isReconciled ingress isIngress served isTLS
  · refine ⟨(separate.named key isReconciled ingress isIngress tls isTLS).1, ?_⟩
    intro isEmpty
    have noText := congrArg String.length isEmpty
    simp [TLSListener.synced, syncedName] at noText

theorem SeparateHosts.hostname_eq (separate : SeparateHosts reconciler start reconciled)
    {key otherKey : ObjectKey} (isReconciled : key ∈ reconciled)
    (otherReconciled : otherKey ∈ reconciled) {ingress other : Ingress}
    (isIngress : start.ingresses.get key = some ingress)
    (isOther : start.ingresses.get otherKey = some other)
    (sameGateway : reconciler.gatewayKey ingress = reconciler.gatewayKey other)
    {tls served : TLSListener} (isTLS : tls ∈ reconciler.tlsListenersOf ingress)
    (isServed : served ∈ reconciler.servedListeners start.present other)
    (sameName : listenerNameFromHostname tls.hostname =
      listenerNameFromHostname served.hostname) : tls.hostname = served.hostname := by
  obtain ⟨otherTLS, isOtherTLS, origin⟩ := of_mem_servedListeners isServed
  have isHost : served.hostname = otherTLS.hostname := by rcases origin with rfl | rfl <;> rfl
  rw [isHost] at sameName ⊢
  exact separate.separate key isReconciled otherKey otherReconciled ingress other isIngress isOther
    sameGateway tls isTLS otherTLS isOtherTLS sameName

theorem mem_of_mem_keepFirst {values : List TLSListener} {value : TLSListener}
    (isKept : value ∈ keepFirst TLSListener.hostname values ∅) : value ∈ values :=
  (keepFirst_sublist _ _ _).subset isKept

theorem SharedInvariant.serves {reached : GatewayRun}
    (separate : SeparateHosts reconciler start reached.reconciled)
    (invariant : SharedInvariant reconciler start reached) :
    GatewayServes reconciler start reached := by
  constructor
  · exact fun key => (invariant.collected key).distinct
  · intro key listener isListener isHTTPS
    rcases of_mem_requested ((invariant.collected key).origin listener isListener) with
      rfl | ⟨_, isReconciled, ingress, isIngress, -, served, isServed, rfl⟩
    · cases isHTTPS
    · obtain ⟨host, certificate⟩ :=
        separate.of_mem_served isReconciled isIngress (mem_of_mem_keepFirst isServed)
      exact ⟨served.hostname, served.secretName, rfl, host, rfl, certificate⟩
  · intro key isReconciled ingress isIngress tls isTLS
    obtain ⟨served, isServed, sameHost⟩ := exists_servedListener start.present isTLS
    obtain ⟨kept, isKept, keptHost⟩ := exists_mem_keepFirst TLSListener.hostname isServed
      (Finset.notMem_empty _)
    have isRequested : httpsListener kept ∈ reconciler.requested start reached.reconciled
        (reconciler.gatewayKey ingress) := by
      refine ⟨key, isReconciled, ingress, isIngress, rfl, ?_⟩
      exact List.mem_cons_of_mem _ (List.mem_map_of_mem isKept)
    have collected := invariant.collected (reconciler.gatewayKey ingress)
    have isHost : kept.hostname = tls.hostname := keptHost.trans sameHost
    obtain ⟨found, ⟨isFound, isName⟩, isOnly⟩ := collected.existsUnique isRequested
    refine ⟨found, ⟨isFound, ?_⟩, ?_⟩
    · rcases of_mem_requested (collected.origin found isFound) with
        rfl | ⟨_, otherReconciled, other, isOther, sameGateway, otherServed, isOtherServed, rfl⟩
      · exact absurd isName.symm (listenerNameFromHostname_ne_http kept.hostname)
      · refine ⟨rfl, congrArg some ?_⟩
        refine (separate.hostname_eq isReconciled otherReconciled isIngress isOther
          sameGateway.symm isTLS (mem_of_mem_keepFirst isOtherServed) ?_).symm
        rw [← isHost]
        exact isName.symm
    · rintro listener ⟨isListener, isHTTPS, listenerHost⟩
      refine isOnly listener ⟨isListener, ?_⟩
      rcases of_mem_requested (collected.origin listener isListener) with
        rfl | ⟨_, -, other, isOther, sameGateway, otherServed, isOtherServed, rfl⟩
      · cases isHTTPS
      · have sameOther : otherServed.hostname = tls.hostname := Option.some.inj listenerHost
        exact congrArg listenerNameFromHostname (sameOther.trans isHost.symm)

/-! ## The order of the passes -/

theorem SameSecrets.of_mem_served (same : SameSecrets reconciler start reconciled)
    {key : ObjectKey} (isReconciled : key ∈ reconciled) {ingress : Ingress}
    (isIngress : start.ingresses.get key = some ingress)
    {served : TLSListener}
    (isServed : served ∈ reconciler.servedListeners start.present ingress) :
    ∃ tls ∈ reconciler.tlsListenersOf ingress, served.hostname = tls.hostname ∧
      served.secretName = if reconciler.copyTLSSecrets then
        (reconciler.certificate start.present tls).secretName else tls.secretName := by
  unfold Reconciler.servedListeners at isServed
  by_cases copying : reconciler.copyTLSSecrets = true
  · rw [if_pos copying, syncedListeners_of_missingOnce _ ∅
      (fun tls isListener => (of_mem_tlsListenersOf isListener).1)
      (same.once copying key isReconciled ingress isIngress)
      (fun _ _ _ isSeen => absurd isSeen (Finset.notMem_empty _))] at isServed
    obtain ⟨tls, isTLS, rfl⟩ := List.mem_map.mp isServed
    refine ⟨tls, isTLS, ?_, by rw [if_pos copying]⟩
    unfold Reconciler.certificate
    split <;> rfl
  · rw [if_neg copying] at isServed
    exact ⟨served, isServed, rfl, by rw [if_neg copying]⟩

/-- Requested listeners with one name are the same one. -/
theorem SameSecrets.injOn_requested (same : SameSecrets reconciler start reconciled)
    (separate : SeparateHosts reconciler start reconciled) :
    Set.InjOn Listener.name (reconciler.requested start reconciled gatewayKey) := by
  intro left isLeft right isRight sameName
  rcases of_mem_requested isLeft with
    rfl | ⟨key, isReconciled, ingress, isIngress, isGateway, served, isServed, rfl⟩ <;>
  rcases of_mem_requested isRight with
    rfl | ⟨otherKey, otherReconciled, other, isOther, otherGateway, otherServed, isOtherServed, rfl⟩
  · rfl
  · exact absurd sameName.symm (listenerNameFromHostname_ne_http otherServed.hostname)
  · exact absurd sameName (listenerNameFromHostname_ne_http served.hostname)
  · obtain ⟨tls, isTLS, isHost, isSecret⟩ :=
      same.of_mem_served isReconciled isIngress (mem_of_mem_keepFirst isServed)
    obtain ⟨otherTLS, isOtherTLS, otherHost, otherSecret⟩ :=
      same.of_mem_served otherReconciled isOther (mem_of_mem_keepFirst isOtherServed)
    have sameGateway := isGateway.trans otherGateway.symm
    have sameHost : tls.hostname = otherServed.hostname :=
      separate.hostname_eq isReconciled otherReconciled isIngress isOther sameGateway isTLS
        (mem_of_mem_keepFirst isOtherServed) (isHost ▸ sameName)
    by_cases sameKey : key = otherKey
    · -- One Ingress has one listener for each host.
      subst sameKey
      rw [isIngress, Option.some.injEq] at isOther
      subst isOther
      have hostnames := (keepFirst_keys TLSListener.hostname
        (reconciler.servedListeners start.present ingress) ∅).1
      rw [List.inj_on_of_nodup_map hostnames isServed isOtherServed (isHost.trans sameHost)]
    · have sameSource := same.agree key isReconciled otherKey otherReconciled ingress other
        isIngress isOther sameKey sameGateway tls isTLS otherTLS isOtherTLS
        (sameHost.trans otherHost)
      have sameOwn : tls.secretName = otherTLS.secretName := by
        rw [(of_mem_tlsListenersOf isTLS).2, (of_mem_tlsListenersOf isOtherTLS).2]
        exact congrArg ObjectKey.name sameSource
      have sameSecret : served.secretName = otherServed.secretName := by
        rw [isSecret, otherSecret, sameOwn, secretName_certificate_congr sameSource sameOwn]
      rw [httpsListener, httpsListener, sameSecret, isHost, sameHost]

theorem requested_congr {others : List ObjectKey}
    (sameKeys : ∀ key, key ∈ others ↔ key ∈ reconciled) :
    reconciler.requested start others gatewayKey =
      reconciler.requested start reconciled gatewayKey := by
  ext listener
  simp only [Reconciler.requested, sameKeys, Set.mem_ofPred_eq]

end Serves

/-- From no Gateway on, in every run whose converted Ingresses have hosts and secrets in their
TLS sections and listener names of their own for their hosts, the Gateways serve every
converted Ingress. Which passes ran in which order does not matter when different
Ingresses agree on the secrets of their common hosts. -/
theorem gatewayServes_of_separateHosts (noGateway : ∀ key, start.gateways.get key = none)
    {passes : List ConversionPass} {reached : GatewayRun}
    (run : runFrom reconciler.gatewayStep ⟨start, []⟩ passes = some reached)
    (separate : SeparateHosts reconciler start reached.reconciled) :
    GatewayServes reconciler start reached ∧
      (SameSecrets reconciler start reached.reconciled → ∀ others other,
        runFrom reconciler.gatewayStep ⟨start, []⟩ others = some other →
        (∀ key, key ∈ other.reconciled ↔ key ∈ reached.reconciled) →
        ∀ gatewayKey listener, listener ∈ listenersAt other.objects gatewayKey ↔
          listener ∈ listenersAt reached.objects gatewayKey) := by
  have invariant := sharedInvariant_of_run noGateway separate run (List.Subset.refl _)
  refine ⟨invariant.serves separate, ?_⟩
  intro same others other otherRun sameKeys gatewayKey listener
  have otherInvariant := sharedInvariant_of_run noGateway separate otherRun
    (fun key isKey => (sameKeys key).mp isKey)
  have otherCollected := otherInvariant.collected gatewayKey
  rw [requested_congr sameKeys] at otherCollected
  rw [otherCollected.mem_iff (same.injOn_requested separate),
    (invariant.collected gatewayKey).mem_iff (same.injOn_requested separate)]

end Runs

/-! ## Two hosts with one name -/

def sharedReconciler : Reconciler where
  gatewayName := "kubelb"
  gatewayNamespace := "kubelb"

def twoIngresses (host otherHost : String) : ConversionObjects where
  ingresses := (Store.empty.put (tlsIngress "a" host "tls")).put (tlsIngress "b" otherHost "tls")

def twoPasses : List ConversionPass := [quietPass ⟨"a", "shop"⟩ 0, quietPass ⟨"b", "shop"⟩ 0]

/-- The listener of the second Ingress replaces that of the first one: dots and dashes of
a host give the same name. -/
theorem listener_replaced :
    (tlsIngress "a" "a-b.c.com" "tls").isValid = true ∧
      (tlsIngress "b" "a.b-c.com" "tls").isValid = true ∧
      ∃ reached, runFrom sharedReconciler.gatewayStep ⟨twoIngresses "a-b.c.com" "a.b-c.com", []⟩
          twoPasses = some reached ∧
        ¬ GatewayServes sharedReconciler (twoIngresses "a-b.c.com" "a.b-c.com") reached := by
  refine ⟨by decide +kernel, by decide +kernel, ?_⟩
  have evaluated : (runFrom sharedReconciler.gatewayStep
      ⟨twoIngresses "a-b.c.com" "a.b-c.com", []⟩ twoPasses).map (fun reached =>
        (reached.reconciled, (listenersAt reached.objects ⟨"kubelb", "kubelb"⟩).map
          Listener.hostname)) =
      some ([⟨"a", "shop"⟩, ⟨"b", "shop"⟩], [none, some "a.b-c.com"]) := by
    decide +kernel
  obtain ⟨reached, run, isReached⟩ := Option.map_eq_some_iff.mp evaluated
  obtain ⟨isReconciled, isHosts⟩ := Prod.mk.inj isReached
  refine ⟨reached, run, fun serves => ?_⟩
  obtain ⟨listener, ⟨isListener, -, isHost⟩, -⟩ := serves.served ⟨"a", "shop"⟩
    (by rw [isReconciled]; exact List.mem_cons_self) (tlsIngress "a" "a-b.c.com" "tls")
    (by decide +kernel)
    ⟨"a-b.c.com", "tls", "a", "tls"⟩ (by decide +kernel)
  have isMember := List.mem_map_of_mem (f := Listener.hostname) isListener
  have isKey : sharedReconciler.gatewayKey (tlsIngress "a" "a-b.c.com" "tls") =
      ⟨"kubelb", "kubelb"⟩ := by decide +kernel
  rw [isHost, isKey, isHosts] at isMember
  exact absurd isMember (by decide)

theorem eq_of_get_twoIngresses {host otherHost : String} {key : ObjectKey} {ingress : Ingress}
    (isIngress : (twoIngresses host otherHost).ingresses.get key = some ingress) :
    ingress = tlsIngress "a" host "tls" ∨ ingress = tlsIngress "b" otherHost "tls" := by
  have all : (twoIngresses host otherHost).ingresses.All (fun ingress =>
      ingress = tlsIngress "a" host "tls" ∨ ingress = tlsIngress "b" otherHost "tls") := by
    apply Store.All.put
    · apply Store.All.put
      · exact Store.all_empty _
      · exact Or.inl rfl
    · exact Or.inr rfl
  exact all isIngress

/-- Two hosts whose listeners have different names. -/
theorem two_hosts_served :
    ∃ reached, runFrom sharedReconciler.gatewayStep
        ⟨twoIngresses "a.example.com" "b.example.com", []⟩ twoPasses = some reached ∧
      GatewayServes sharedReconciler (twoIngresses "a.example.com" "b.example.com") reached := by
  obtain ⟨reached, run⟩ := Option.isSome_iff_exists.mp (show
    (runFrom sharedReconciler.gatewayStep ⟨twoIngresses "a.example.com" "b.example.com", []⟩
      twoPasses).isSome = true by decide +kernel)
  refine ⟨reached, run, (gatewayServes_of_separateHosts (fun _ => Store.get_empty _) run ?_).1⟩
  constructor
  · intro key _ ingress isIngress
    rcases eq_of_get_twoIngresses isIngress with rfl | rfl <;> decide +kernel
  · intro key _ otherKey _ ingress other isIngress isOther _
    rcases eq_of_get_twoIngresses isIngress with rfl | rfl <;>
      rcases eq_of_get_twoIngresses isOther with rfl | rfl <;> decide +kernel

end KubeLB.Conversion
