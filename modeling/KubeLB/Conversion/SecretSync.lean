import KubeLB.Conversion.PolicyTargets
import KubeLB.Library.Runs
import KubeLB.Library.Text

/-!
Contract: copies of TLS secrets in the namespace of the Gateway.

Owns: what one call of `syncTLSSecrets` writes and returns, runs of such calls, and
the Ingresses for which every listener names a copy of its own secret.

Does not own: changes of secrets by others.
-/

set_option autoImplicit false

namespace KubeLB.Conversion

open KubeLB.Library KubeLB.Core KubeLB.Networking KubeLB.Controllers

def TLSListener.source (tls : TLSListener) : ObjectKey where
  ns := tls.sourceSecretNamespace
  name := tls.sourceSecretName

section Sync

variable (reconciler : Reconciler)

/-- The secret of the listener is in another namespace than the Gateway. -/
def Reconciler.Copies (tls : TLSListener) : Prop :=
  tls.sourceSecretName ≠ "" ∧ tls.sourceSecretNamespace ≠ reconciler.gatewayNamespace

instance (tls : TLSListener) : Decidable (reconciler.Copies tls) :=
  inferInstanceAs (Decidable (_ ∧ _))

def TLSListener.synced (tls : TLSListener) : TLSListener :=
  { tls with secretName := syncedName tls.source.ns tls.source.name }

/-- What the loop of `syncTLSSecrets` returns, by the secrets that are present. -/
def Reconciler.syncedListeners (present : ObjectKey → Bool) :
    List TLSListener → Finset String → List TLSListener
  | [], _ => []
  | tls :: rest, seen =>
      if reconciler.Copies tls then
        if sourceText tls.source ∈ seen then
          tls.synced :: Reconciler.syncedListeners present rest seen
        else
          (if present tls.source then tls.synced else tls) ::
            Reconciler.syncedListeners present rest (insert (sourceText tls.source) seen)
      else tls :: Reconciler.syncedListeners present rest seen

def ConversionObjects.present (objects : ConversionObjects) (key : ObjectKey) : Bool :=
  (objects.secrets.get key).isSome

def Reconciler.written (objects : ConversionObjects) (listeners : List TLSListener)
    (seen : Finset String) : Set ObjectKey :=
  { source | ∃ tls ∈ listeners, reconciler.Copies tls ∧ tls.source = source ∧
      sourceText source ∉ seen ∧ objects.present source = true }

/-- The copies of the given secrets have their data, and nothing else is written.
Secrets with copies of the same name would overwrite each other. -/
structure SecretsCopied (sources : Set ObjectKey) (before after : ConversionObjects) : Prop where
  outside : ∀ source ∈ sources, source.ns ≠ reconciler.gatewayNamespace
  unchanged : ∀ key, (∀ source ∈ sources, key ≠ reconciler.targetKey source) →
    after.secrets.get key = before.secrets.get key
  copied : Set.InjOn reconciler.targetKey sources → ∀ source ∈ sources, ∀ secret,
    before.secrets.get source = some secret →
    ∃ copy, after.secrets.get (reconciler.targetKey source) = some copy ∧ copy.data = secret.data

end Sync

/-! ## Copies in sequence -/

section Copied

variable {reconciler : Reconciler} {sources others : Set ObjectKey}
  {before between after : ConversionObjects}

theorem SecretsCopied.refl (objects : ConversionObjects) :
    SecretsCopied reconciler ∅ objects objects where
  outside _ isSource := absurd isSource (Set.notMem_empty _)
  unchanged _ _ := rfl
  copied _ _ isSource := absurd isSource (Set.notMem_empty _)

/-- A secret outside the namespace of the Gateway is never written. -/
theorem SecretsCopied.get_of_ns_ne (copied : SecretsCopied reconciler sources before after)
    {key : ObjectKey} (outside : key.ns ≠ reconciler.gatewayNamespace) :
    after.secrets.get key = before.secrets.get key := by
  apply copied.unchanged
  rintro source - rfl
  exact outside rfl

theorem SecretsCopied.trans (first : SecretsCopied reconciler sources before between)
    (second : SecretsCopied reconciler others between after) :
    SecretsCopied reconciler (sources ∪ others) before after where
  outside source isSource := isSource.elim (first.outside source) (second.outside source)
  unchanged key noTarget := by
    rw [second.unchanged key (fun source isSource => noTarget source (Or.inr isSource)),
      first.unchanged key (fun source isSource => noTarget source (Or.inl isSource))]
  copied separate source isSource secret isSecret := by
    by_cases isLater : source ∈ others
    · apply second.copied (separate.mono Set.subset_union_right) source isLater
      rwa [first.get_of_ns_ne (second.outside source isLater)]
    · have isEarlier := isSource.resolve_right isLater
      rw [second.unchanged (reconciler.targetKey source) ?_]
      · exact first.copied (separate.mono Set.subset_union_left) source isEarlier secret isSecret
      · intro other isOther sameTarget
        have same := separate isSource (Or.inr isOther) sameTarget
        exact isLater (same ▸ isOther)

end Copied

/-! ## One secret -/

section Secret

variable {reconciler : Reconciler} {pass : ConversionPass} {start : ConversionObjects}

theorem keyOf_newTarget (source : ObjectKey) (secret : Secret) :
    keyOf (reconciler.newTarget source secret).metadata = reconciler.targetKey source := rfl

/-- A secret that is there is copied. -/
theorem syncSecret_ensures {source : ObjectKey}
    (outside : source.ns ≠ reconciler.gatewayNamespace) :
    (reconciler.syncSecret pass source).Ensures start (Pass.either
      (fun found reached => found = start.present source ∧
        SecretsCopied reconciler { key | key = source ∧ found = true } start reached)
      (fun _ _ => True)) := by
  -- The two writes store an object under the key of the copy.
  have ofPut (secret copy : Secret) (isSource : start.secrets.get source = some secret)
      (isKey : keyOf copy.metadata = reconciler.targetKey source)
      (sameData : copy.data = secret.data) :
      SecretsCopied reconciler { key | key = source ∧ true = true } start
        { start with secrets := start.secrets.put copy } := by
    refine ⟨fun key isKey => isKey.1 ▸ outside, ?_, ?_⟩
    · intro key noTarget
      exact Store.get_put_of_ne _ (isKey ▸ noTarget source ⟨rfl, rfl⟩)
    · rintro - key ⟨rfl, -⟩ found isFound
      refine ⟨copy, ?_, ?_⟩
      · rw [← isKey]
        exact Store.get_put_self start.secrets copy
      · rw [isFound, Option.some.injEq] at isSource
        rw [isSource, sameData]
  unfold Reconciler.syncSecret
  apply Pass.ensures_bind_check (fun _ => trivial)
  apply Pass.ensures_bind_read
  cases isSource : start.secrets.get source with
  | none =>
      apply Pass.ensures_pure
      refine ⟨by simp [ConversionObjects.present, isSource], ?_⟩
      simpa using SecretsCopied.refl start
  | some secret =>
      have isPresent : true = start.present source := by
        simp [ConversionObjects.present, isSource]
      apply Pass.ensures_bind_check (fun _ => trivial)
      apply Pass.ensures_bind_read
      cases isTarget : start.secrets.get (reconciler.targetKey source) with
      | none =>
          apply Pass.ensures_bind_check (fun _ => trivial)
          apply Pass.ensures_bind_modify
          apply Pass.ensures_pure
          exact ⟨isPresent, ofPut secret _ isSource (keyOf_newTarget source secret) rfl⟩
      | some existing =>
          have isKey : keyOf existing.metadata = reconciler.targetKey source :=
            start.secrets.keyed isTarget
          by_cases sameData : existing.data = secret.data
          · simp only [sameData, if_true]
            apply Pass.ensures_pure
            refine ⟨isPresent, fun key isKey => isKey.1 ▸ outside, fun _ _ => rfl, ?_⟩
            rintro - key ⟨rfl, -⟩ found isFound
            rw [isFound, Option.some.injEq] at isSource
            exact ⟨existing, isTarget, by rw [isSource, sameData]⟩
          · simp only [sameData, if_false]
            apply Pass.ensures_bind_check (fun _ => trivial)
            apply Pass.ensures_bind_modify
            apply Pass.ensures_pure
            exact ⟨isPresent, ofPut secret _ isSource isKey rfl⟩

/-! ## The loop -/

theorem sourceText_inj {source other : ObjectKey} (sameNs : source.ns = other.ns) :
    sourceText source = sourceText other ↔ source = other := by
  refine ⟨fun sameText => ?_, congrArg sourceText⟩
  rw [sourceText, sourceText, sameNs, String.append_right_inj] at sameText
  cases source
  cases other
  cases sameNs
  cases sameText
  rfl

variable (reconciler) in
theorem syncedListeners_congr {present other : ObjectKey → Bool} (listeners : List TLSListener)
    (seen : Finset String)
    (same : ∀ tls ∈ listeners, reconciler.Copies tls → present tls.source = other tls.source) :
    reconciler.syncedListeners present listeners seen =
      reconciler.syncedListeners other listeners seen := by
  induction listeners generalizing seen with
  | nil => rfl
  | cons tls rest ih =>
      have ofRest (seen : Finset String) := ih seen
        (fun later isLater => same later (List.mem_cons_of_mem _ isLater))
      simp only [Reconciler.syncedListeners, ofRest]
      by_cases copies : reconciler.Copies tls
      · rw [same tls List.mem_cons_self copies]
      · simp [copies]

theorem written_cons_new {tls : TLSListener} {rest : List TLSListener} {seen : Finset String}
    {ns : String} {between : ConversionObjects}
    (samePresent : ∀ other, reconciler.Copies other →
      between.present other.source = start.present other.source)
    (sameNs : tls.source.ns = ns ∧ ∀ other ∈ rest, other.source.ns = ns)
    (copies : reconciler.Copies tls) (unseen : sourceText tls.source ∉ seen) :
    reconciler.written start (tls :: rest) seen =
      { key | key = tls.source ∧ start.present tls.source = true } ∪
        reconciler.written between rest (insert (sourceText tls.source) seen) := by
  ext source
  simp only [Reconciler.written, List.exists_mem_cons_iff, Set.mem_ofPred_eq, Set.mem_union]
  constructor
  · rintro (⟨-, rfl, -, isPresent⟩ | ⟨other, isOther, copiesOther, rfl, unseenOther, isPresent⟩)
    · exact Or.inl ⟨rfl, isPresent⟩
    · by_cases same : other.source = tls.source
      · exact Or.inl ⟨same, same ▸ isPresent⟩
      · have otherText : sourceText other.source ≠ sourceText tls.source := fun sameText =>
          same ((sourceText_inj ((sameNs.2 other isOther).trans sameNs.1.symm)).mp sameText)
        refine Or.inr ⟨other, isOther, copiesOther, rfl, ?_, ?_⟩
        · rw [Finset.mem_insert, not_or]
          exact ⟨otherText, unseenOther⟩
        · rwa [samePresent other copiesOther]
  · rintro (⟨rfl, isPresent⟩ | ⟨other, isOther, copiesOther, rfl, unseenOther, isPresent⟩)
    · exact Or.inl ⟨copies, rfl, unseen, isPresent⟩
    · refine Or.inr ⟨other, isOther, copiesOther, rfl, ?_, ?_⟩
      · exact fun isSeen => unseenOther (Finset.mem_insert_of_mem isSeen)
      · rwa [← samePresent other copiesOther]

/-- The loop over listeners of one namespace returns them with the names of the copies
that it writes. -/
theorem syncRounds_ensures {ns : String} (listeners : List TLSListener) (seen : Finset String)
    (sameNs : ∀ tls ∈ listeners, tls.source.ns = ns) :
    (reconciler.syncRounds pass listeners seen).Ensures start (Pass.either
      (fun returned reached => returned = reconciler.syncedListeners start.present listeners seen ∧
        SecretsCopied reconciler (reconciler.written start listeners seen) start reached)
      (fun _ _ => True)) := by
  induction listeners generalizing seen start with
  | nil =>
      apply Pass.ensures_pure
      refine ⟨rfl, ?_⟩
      have noneWritten : reconciler.written start [] seen = ∅ := by simp [Reconciler.written]
      rw [noneWritten]
      exact SecretsCopied.refl start
  | cons tls rest ih =>
      rw [List.forall_mem_cons] at sameNs
      have ofRest (start : ConversionObjects) (seen : Finset String) :=
        @ih start seen sameNs.2
      have copies_iff : (tls.sourceSecretName = "" ∨
          tls.sourceSecretNamespace = reconciler.gatewayNamespace) ↔ ¬ reconciler.Copies tls := by
        rw [Reconciler.Copies, not_and_or, not_not, not_not]
      have isSource : (⟨tls.sourceSecretNamespace, tls.sourceSecretName⟩ : ObjectKey) =
          tls.source := rfl
      -- A round without a copy of its own adds nothing to what is written.
      have idle (isIdle : reconciler.Copies tls → sourceText tls.source ∈ seen) :
          reconciler.written start (tls :: rest) seen = reconciler.written start rest seen := by
        ext source
        simp only [Reconciler.written, List.exists_mem_cons_iff, Set.mem_ofPred_eq]
        refine or_iff_right ?_
        rintro ⟨copies, rfl, unseen, -⟩
        exact unseen (isIdle copies)
      unfold Reconciler.syncRounds
      simp only [copies_iff, isSource]
      by_cases copies : reconciler.Copies tls
      · rw [if_neg (not_not.mpr copies)]
        by_cases isSeen : sourceText tls.source ∈ seen
        · rw [if_pos isSeen]
          apply Pass.ensures_bind _ (ofRest start seen)
          rintro returned reached ⟨rfl, copied⟩
          apply Pass.ensures_pure
          refine ⟨?_, (idle (fun _ => isSeen)).symm ▸ copied⟩
          rw [Reconciler.syncedListeners, if_pos copies, if_pos isSeen]
          rfl
        · rw [if_neg isSeen]
          apply Pass.ensures_bind _ (syncSecret_ensures copies.2)
          rintro found between ⟨rfl, first⟩
          have samePresent (other : TLSListener) (copiesOther : reconciler.Copies other) :
              between.present other.source = start.present other.source := by
            rw [ConversionObjects.present, first.get_of_ns_ne copiesOther.2]
            rfl
          apply Pass.ensures_bind _ (ofRest between _)
          rintro returned reached ⟨rfl, later⟩
          apply Pass.ensures_pure
          constructor
          · rw [Reconciler.syncedListeners, if_pos copies, if_neg isSeen]
            congr 1
            exact syncedListeners_congr reconciler rest _ (fun other _ => samePresent other)
          · convert first.trans later using 1
            exact written_cons_new samePresent sameNs copies isSeen
      · rw [if_pos copies]
        apply Pass.ensures_bind _ (ofRest start seen)
        rintro returned reached ⟨rfl, copied⟩
        apply Pass.ensures_pure
        refine ⟨?_, (idle (fun isCopied => absurd isCopied copies)).symm ▸ copied⟩
        rw [Reconciler.syncedListeners, if_neg copies]

end Secret

/-! ## Names of certificates -/

section Certificates

variable (reconciler : Reconciler) (present : ObjectKey → Bool)

/-- The listener with the name of its certificate: of the copy when there is one. -/
def Reconciler.certificate (tls : TLSListener) : TLSListener :=
  if reconciler.Copies tls ∧ present tls.source = true then tls.synced else tls

/-- Listeners of one Ingress share a copied secret only when it is there. -/
def Reconciler.MissingOnce (listeners : List TLSListener) : Prop :=
  listeners.Pairwise (fun tls other => tls.source = other.source → reconciler.Copies tls →
    present tls.source = true)

instance (listeners : List TLSListener) : Decidable (reconciler.MissingOnce present listeners) :=
  inferInstanceAs (Decidable (List.Pairwise _ _))

variable {reconciler present}

theorem source_certificate (tls : TLSListener) :
    (reconciler.certificate present tls).source = tls.source := by
  unfold Reconciler.certificate
  split <;> rfl

theorem sourceSecretName_certificate (tls : TLSListener) :
    (reconciler.certificate present tls).sourceSecretName = tls.sourceSecretName :=
  congrArg ObjectKey.name (source_certificate tls)

theorem copies_congr {tls other : TLSListener} (same : tls.source = other.source) :
    reconciler.Copies tls ↔ reconciler.Copies other := by
  have sameNs := congrArg ObjectKey.ns same
  have sameName := congrArg ObjectKey.name same
  simp only [TLSListener.source] at sameNs sameName
  rw [Reconciler.Copies, Reconciler.Copies, sameNs, sameName]

theorem secretName_certificate_congr {tls other : TLSListener} (same : tls.source = other.source)
    (sameOwn : tls.secretName = other.secretName) :
    (reconciler.certificate present tls).secretName =
      (reconciler.certificate present other).secretName := by
  simp only [Reconciler.certificate, copies_congr same, same]
  split
  · simp only [TLSListener.synced, same]
  · exact sameOwn

theorem syncedName_ne (ns name : String) : syncedName ns name ≠ name := by
  intro same
  have sameLength := congrArg String.length same
  simp only [syncedName, String.length_append] at sameLength
  have : ("ingress-" : String).length = 8 := rfl
  omega

theorem synced_mem_syncedListeners {tls : TLSListener} {listeners : List TLSListener}
    {seen : Finset String} (isListener : tls ∈ listeners) (copies : reconciler.Copies tls)
    (isSeen : sourceText tls.source ∈ seen) :
    tls.synced ∈ reconciler.syncedListeners present listeners seen := by
  induction listeners generalizing seen with
  | nil => cases isListener
  | cons head rest ih =>
      rcases List.mem_cons.mp isListener with rfl | isLater
      · rw [Reconciler.syncedListeners, if_pos copies, if_pos isSeen]
        exact List.mem_cons_self
      · unfold Reconciler.syncedListeners
        have isMember (seen : Finset String) (isSeen : sourceText tls.source ∈ seen)
            (first : TLSListener) :=
          List.mem_cons_of_mem first (ih isLater isSeen)
        by_cases copiesHead : reconciler.Copies head
        · rw [if_pos copiesHead]
          by_cases seenHead : sourceText head.source ∈ seen
          · rw [if_pos seenHead]
            exact isMember seen isSeen _
          · rw [if_neg seenHead]
            exact isMember _ (Finset.mem_insert_of_mem isSeen) _
        · rw [if_neg copiesHead]
          exact isMember seen isSeen _

/-- With missing secrets used once the loop gives every listener its certificate. -/
theorem syncedListeners_of_missingOnce {ns : String} (listeners : List TLSListener)
    (seen : Finset String) (sameNs : ∀ tls ∈ listeners, tls.source.ns = ns)
    (once : reconciler.MissingOnce present listeners)
    (seenPresent : ∀ tls ∈ listeners, reconciler.Copies tls → sourceText tls.source ∈ seen →
      present tls.source = true) :
    reconciler.syncedListeners present listeners seen =
      listeners.map (reconciler.certificate present) := by
  induction listeners generalizing seen with
  | nil => rfl
  | cons tls rest ih =>
      rw [List.forall_mem_cons] at sameNs seenPresent
      obtain ⟨fromFirst, onceRest⟩ := List.pairwise_cons.mp once
      have ofRest := fun seen => ih seen sameNs.2 onceRest
      rw [Reconciler.syncedListeners, List.map_cons, Reconciler.certificate]
      by_cases copies : reconciler.Copies tls
      · by_cases isSeen : sourceText tls.source ∈ seen
        · rw [if_pos copies, if_pos isSeen, if_pos ⟨copies, seenPresent.1 copies isSeen⟩,
            ofRest seen seenPresent.2]
        · rw [if_pos copies, if_neg isSeen, ofRest]
          · simp only [copies, true_and]
          intro other isOther copiesOther seenOther
          rcases Finset.mem_insert.mp seenOther with sameText | seenOther
          · have same := (sourceText_inj
              ((sameNs.2 other isOther).trans sameNs.1.symm)).mp sameText
            rw [same]
            exact fromFirst other isOther same.symm copies
          · exact seenPresent.2 other isOther copiesOther seenOther
      · simp only [copies, if_false, false_and]
        rw [ofRest seen seenPresent.2]

theorem missingOnce_of_sameNames {ns : String} (listeners : List TLSListener)
    (seen : Finset String) (sameNs : ∀ tls ∈ listeners, tls.source.ns = ns)
    (ownNames : ∀ tls ∈ listeners, tls.secretName = tls.sourceSecretName)
    (seenPresent : ∀ tls ∈ listeners, reconciler.Copies tls → sourceText tls.source ∈ seen →
      present tls.source = true)
    (sameNames : ∀ tls ∈ reconciler.syncedListeners present listeners seen,
      ∀ other ∈ reconciler.syncedListeners present listeners seen,
        tls.source = other.source → tls.secretName = other.secretName) :
    reconciler.MissingOnce present listeners := by
  induction listeners generalizing seen with
  | nil => exact List.Pairwise.nil
  | cons tls rest ih =>
      rw [List.forall_mem_cons] at sameNs ownNames seenPresent
      unfold Reconciler.syncedListeners at sameNames
      by_cases copies : reconciler.Copies tls
      · by_cases isSeen : sourceText tls.source ∈ seen
        · rw [if_pos copies, if_pos isSeen] at sameNames
          refine List.pairwise_cons.mpr ⟨fun _ _ _ _ => seenPresent.1 copies isSeen, ?_⟩
          exact ih seen sameNs.2 ownNames.2 seenPresent.2
            (fun first isFirst second isSecond => sameNames first (List.mem_cons_of_mem _ isFirst)
              second (List.mem_cons_of_mem _ isSecond))
        · rw [if_pos copies, if_neg isSeen] at sameNames
          have fromFirst (other : TLSListener) (isOther : other ∈ rest)
              (same : tls.source = other.source) : present tls.source = true := by
            by_contra missing
            have isSynced : other.synced ∈ reconciler.syncedListeners present rest
                (insert (sourceText tls.source) seen) :=
              synced_mem_syncedListeners isOther ((copies_congr same).mp copies)
                (same ▸ Finset.mem_insert_self (sourceText tls.source) seen)
            have sameName := sameNames _ List.mem_cons_self _ (List.mem_cons_of_mem _ isSynced)
            rw [if_neg missing] at sameName
            have names := sameName same
            rw [ownNames.1] at names
            refine syncedName_ne other.source.ns other.source.name ?_
            exact names.symm.trans (congrArg ObjectKey.name same)
          refine List.pairwise_cons.mpr
            ⟨fun other isOther same _ => fromFirst other isOther same, ?_⟩
          apply ih _ sameNs.2 ownNames.2 _ (fun first isFirst second isSecond =>
            sameNames first (List.mem_cons_of_mem _ isFirst) second
              (List.mem_cons_of_mem _ isSecond))
          intro other isOther copiesOther seenOther
          rcases Finset.mem_insert.mp seenOther with sameText | seenOther
          · have same := (sourceText_inj
              ((sameNs.2 other isOther).trans sameNs.1.symm)).mp sameText
            rw [same]
            exact fromFirst other isOther same.symm
          · exact seenPresent.2 other isOther copiesOther seenOther
      · rw [if_neg copies] at sameNames
        refine List.pairwise_cons.mpr ⟨fun _ _ _ isCopied => absurd isCopied copies, ?_⟩
        exact ih seen sameNs.2 ownNames.2 seenPresent.2
          (fun first isFirst second isSecond => sameNames first (List.mem_cons_of_mem _ isFirst)
            second (List.mem_cons_of_mem _ isSecond))

end Certificates

/-! ## Runs -/

structure SyncCall where
  pass : ConversionPass
  ingress : Ingress

structure SyncState where
  objects : ConversionObjects
  returned : List TLSListener := []

section Runs

variable (reconciler : Reconciler)

def Reconciler.tlsListenersOf (ingress : Ingress) : List TLSListener :=
  convertTLSConfig ingress.spec.tls ingress.metadata.ns reconciler.domainReplace
    reconciler.domainSuffix

def Reconciler.syncStep (state : SyncState) (call : SyncCall) : Option SyncState :=
  match reconciler.syncTLSSecrets call.pass (reconciler.tlsListenersOf call.ingress)
      state.objects with
  | some (.ok listeners, reached) => some ⟨reached, state.returned ++ listeners⟩
  | _ => none

/-- Each listener of a run names the certificate of its own secret, and a listener
without a secret names no copy. -/
structure CertificatesKept (before : ConversionObjects) (reached : SyncState) : Prop where
  held : ∀ tls ∈ reached.returned, tls.sourceSecretName ≠ "" → ∀ secret,
    reached.objects.secrets.get tls.source = some secret →
    ∃ copy, reached.objects.secrets.get ⟨reconciler.gatewayNamespace, tls.secretName⟩ = some copy ∧
      copy.data = secret.data
  sameName : ∀ tls ∈ reached.returned, ∀ other ∈ reached.returned,
    tls.source = other.source → tls.secretName = other.secretName
  otherName : ∀ tls ∈ reached.returned, ∀ other ∈ reached.returned,
    tls.sourceSecretName ≠ "" → other.sourceSecretName ≠ "" →
    tls.source ≠ other.source → tls.secretName ≠ other.secretName
  notSynced : ∀ tls ∈ reached.returned, before.present tls.source = false →
    ∀ other ∈ reached.returned, reconciler.Copies other →
      tls.secretName ≠ other.synced.secretName

/-- Certificates have names of their own, and no Ingress uses a missing secret twice. -/
structure SeparateSecrets (objects : ConversionObjects) (ingresses : List Ingress) : Prop where
  separate : ∀ tls ∈ ingresses.flatMap reconciler.tlsListenersOf,
    ∀ other ∈ ingresses.flatMap reconciler.tlsListenersOf,
      tls.sourceSecretName ≠ "" → other.sourceSecretName ≠ "" →
      (reconciler.certificate objects.present tls).secretName =
        (reconciler.certificate objects.present other).secretName → tls.source = other.source
  missing : ∀ tls ∈ ingresses.flatMap reconciler.tlsListenersOf,
    objects.present tls.source = false →
    ∀ other ∈ ingresses.flatMap reconciler.tlsListenersOf, reconciler.Copies other →
      tls.secretName ≠ other.synced.secretName
  once : ∀ ingress ∈ ingresses,
    reconciler.MissingOnce objects.present (reconciler.tlsListenersOf ingress)

instance (objects : ConversionObjects) (ingresses : List Ingress) :
    Decidable (SeparateSecrets reconciler objects ingresses) :=
  decidable_of_iff (_ ∧ _ ∧ _)
    ⟨fun holds => ⟨holds.1, holds.2.1, holds.2.2⟩,
      fun holds => ⟨holds.separate, holds.missing, holds.once⟩⟩

variable {reconciler}

theorem of_mem_tlsListenersOf {ingress : Ingress} {tls : TLSListener}
    (isListener : tls ∈ reconciler.tlsListenersOf ingress) :
    tls.source.ns = ingress.metadata.ns ∧ tls.secretName = tls.sourceSecretName := by
  simp only [Reconciler.tlsListenersOf, convertTLSConfig, List.mem_flatMap, List.mem_append,
    List.mem_map, List.mem_ite_nil_right, List.mem_singleton] at isListener
  rcases isListener with ⟨config, -, ⟨host, -, rfl⟩ | ⟨-, rfl⟩⟩ <;> exact ⟨rfl, rfl⟩

theorem written_append (objects : ConversionObjects) (listeners more : List TLSListener) :
    reconciler.written objects (listeners ++ more) ∅ =
      reconciler.written objects listeners ∅ ∪ reconciler.written objects more ∅ := by
  ext source
  simp only [Reconciler.written, List.mem_append, or_and_right, exists_or, Set.mem_ofPred_eq,
    Set.mem_union]

theorem written_congr {objects others : ConversionObjects} (listeners : List TLSListener)
    (same : ∀ tls, reconciler.Copies tls → objects.present tls.source = others.present tls.source) :
    reconciler.written objects listeners ∅ = reconciler.written others listeners ∅ := by
  ext source
  simp only [Reconciler.written, Set.mem_ofPred_eq]
  refine exists_congr fun tls => and_congr_right fun _ => and_congr_right fun copies =>
    and_congr_right fun isSource => ?_
  rw [← isSource, same tls copies]

variable (reconciler) in
/-- What a run returned and wrote, by the secrets at its start. -/
structure SyncHistory (start : ConversionObjects) (calls : List SyncCall) (state : SyncState) :
    Prop where
  returned : state.returned = (calls.map SyncCall.ingress).flatMap (fun ingress =>
    reconciler.syncedListeners start.present (reconciler.tlsListenersOf ingress) ∅)
  copied : SecretsCopied reconciler
    (reconciler.written start ((calls.map SyncCall.ingress).flatMap reconciler.tlsListenersOf) ∅)
    start state.objects

theorem SyncHistory.snoc (copying : reconciler.copyTLSSecrets = true) {start : ConversionObjects}
    {calls : List SyncCall} {state next : SyncState} {call : SyncCall}
    (history : SyncHistory reconciler start calls state)
    (isNext : reconciler.syncStep state call = some next) :
    SyncHistory reconciler start (calls ++ [call]) next := by
  unfold Reconciler.syncStep at isNext
  split at isNext
  · rename_i listeners objects outcome
    cases isNext
    rw [Reconciler.syncTLSSecrets, if_pos copying] at outcome
    obtain ⟨rfl, copied⟩ := (syncRounds_ensures _ ∅
      (fun tls isListener => (of_mem_tlsListenersOf isListener).1)).of_run outcome
    have samePresent (tls : TLSListener) (copies : reconciler.Copies tls) :
        state.objects.present tls.source = start.present tls.source := by
      rw [ConversionObjects.present, history.copied.get_of_ns_ne copies.2]
      rfl
    have isReturned := history.returned
    constructor
    · simp only [List.map_append, List.map_cons, List.map_nil, List.flatMap_append,
        List.flatMap_cons, List.flatMap_nil, List.append_nil, isReturned]
      rw [syncedListeners_congr reconciler _ ∅ (fun tls _ => samePresent tls)]
    · simp only [List.map_append, List.map_cons, List.map_nil, List.flatMap_append,
        List.flatMap_cons, List.flatMap_nil, List.append_nil, written_append]
      rw [← written_congr (reconciler.tlsListenersOf call.ingress) samePresent]
      exact history.copied.trans copied
  · cases isNext

theorem syncHistory_of_run (copying : reconciler.copyTLSSecrets = true)
    {start : ConversionObjects} {calls : List SyncCall} {reached : SyncState}
    (run : runFrom reconciler.syncStep ⟨start, []⟩ calls = some reached) :
    SyncHistory reconciler start calls reached := by
  refine run_induction (motive := SyncHistory reconciler start) ?_ ?_ run
  · refine ⟨rfl, ?_⟩
    simpa [Reconciler.written] using SecretsCopied.refl start
  · intro calls state call next history isNext
    exact history.snoc copying isNext

/-! ## When every listener names its own certificate -/

section Kept

variable {start : ConversionObjects} {calls : List SyncCall} {reached : SyncState}

theorem flatMap_syncedListeners_of_once {ingresses : List Ingress}
    (once : ∀ ingress ∈ ingresses,
      reconciler.MissingOnce start.present (reconciler.tlsListenersOf ingress)) :
    ingresses.flatMap (fun ingress =>
        reconciler.syncedListeners start.present (reconciler.tlsListenersOf ingress) ∅) =
      (ingresses.flatMap reconciler.tlsListenersOf).map (reconciler.certificate start.present) := by
  rw [List.map_flatMap]
  apply List.flatMap_congr
  intro ingress isIngress
  exact syncedListeners_of_missingOnce _ ∅
    (fun tls isListener => (of_mem_tlsListenersOf isListener).1) (once ingress isIngress)
    (fun _ _ _ isSeen => absurd isSeen (Finset.notMem_empty _))

theorem SyncHistory.once (history : SyncHistory reconciler start calls reached)
    (sameName : ∀ tls ∈ reached.returned, ∀ other ∈ reached.returned,
      tls.source = other.source → tls.secretName = other.secretName) :
    ∀ ingress ∈ calls.map SyncCall.ingress,
      reconciler.MissingOnce start.present (reconciler.tlsListenersOf ingress) := by
  intro ingress isIngress
  apply missingOnce_of_sameNames _ ∅
    (fun tls isListener => (of_mem_tlsListenersOf isListener).1)
    (fun tls isListener => (of_mem_tlsListenersOf isListener).2)
    (fun _ _ _ isSeen => absurd isSeen (Finset.notMem_empty _))
  intro tls isTLS other isOther
  apply sameName
  · rw [history.returned]
    exact List.mem_flatMap_of_mem isIngress isTLS
  · rw [history.returned]
    exact List.mem_flatMap_of_mem isIngress isOther

theorem certificate_of_missing {tls : TLSListener}
    (missing : start.present tls.source = false) :
    reconciler.certificate start.present tls = tls := by
  rw [Reconciler.certificate, if_neg]
  rintro ⟨-, isPresent⟩
  rw [missing] at isPresent
  cases isPresent

theorem SeparateSecrets.injOn {ingresses : List Ingress}
    (separate : SeparateSecrets reconciler start ingresses) :
    Set.InjOn reconciler.targetKey
      (reconciler.written start (ingresses.flatMap reconciler.tlsListenersOf) ∅) := by
  rintro _ ⟨tls, isTLS, copies, rfl, -, isPresent⟩ _ ⟨other, isOther, copiesOther, rfl, -,
    otherPresent⟩ sameTarget
  apply separate.separate tls isTLS other isOther copies.1 copiesOther.1
  rw [Reconciler.certificate, if_pos ⟨copies, isPresent⟩, Reconciler.certificate,
    if_pos ⟨copiesOther, otherPresent⟩]
  exact congrArg ObjectKey.name sameTarget

theorem SyncHistory.held (history : SyncHistory reconciler start calls reached)
    (separate : SeparateSecrets reconciler start (calls.map SyncCall.ingress)) {tls : TLSListener}
    (isTLS : tls ∈ (calls.map SyncCall.ingress).flatMap reconciler.tlsListenersOf)
    (named : tls.sourceSecretName ≠ "") {secret : Secret}
    (isSecret : reached.objects.secrets.get tls.source = some secret) :
    ∃ copy, reached.objects.secrets.get ⟨reconciler.gatewayNamespace,
        (reconciler.certificate start.present tls).secretName⟩ = some copy ∧
      copy.data = secret.data := by
  by_cases copies : reconciler.Copies tls
  · rw [history.copied.get_of_ns_ne copies.2] at isSecret
    have isPresent : start.present tls.source = true := by
      rw [ConversionObjects.present, isSecret]
      rfl
    rw [Reconciler.certificate, if_pos ⟨copies, isPresent⟩]
    exact history.copied.copied separate.injOn tls.source
      ⟨tls, isTLS, copies, rfl, Finset.notMem_empty _, isPresent⟩ secret isSecret
  · -- The secret is in the namespace of the Gateway and keeps its name.
    have sameNs : tls.sourceSecretNamespace = reconciler.gatewayNamespace := by
      by_contra different
      exact copies ⟨named, different⟩
    obtain ⟨ingress, -, isListener⟩ := List.mem_flatMap.mp isTLS
    have isSource : (⟨reconciler.gatewayNamespace, tls.secretName⟩ : ObjectKey) = tls.source := by
      rw [(of_mem_tlsListenersOf isListener).2, ← sameNs]
      rfl
    rw [Reconciler.certificate, if_neg (fun isCopied => copies isCopied.1), isSource]
    exact ⟨secret, isSecret, rfl⟩

/-- A run keeps the certificates apart exactly when their names differ, no missing secret
has the name of a copy, and no Ingress uses a missing secret twice. -/
theorem certificatesKept_iff_separateSecrets (copying : reconciler.copyTLSSecrets = true)
    (run : runFrom reconciler.syncStep ⟨start, []⟩ calls = some reached) :
    CertificatesKept reconciler start reached ↔
      SeparateSecrets reconciler start (calls.map SyncCall.ingress) := by
  have history := syncHistory_of_run copying run
  constructor
  · intro kept
    have once := history.once kept.sameName
    have isReturned := history.returned.trans (flatMap_syncedListeners_of_once once)
    have returned {tls : TLSListener}
        (isTLS : tls ∈ (calls.map SyncCall.ingress).flatMap reconciler.tlsListenersOf) :
        reconciler.certificate start.present tls ∈ reached.returned := by
      rw [isReturned]
      exact List.mem_map_of_mem isTLS
    refine ⟨?_, ?_, once⟩
    · intro tls isTLS other isOther named otherNamed sameName
      by_contra different
      refine kept.otherName _ (returned isTLS) _ (returned isOther) ?_ ?_ ?_ sameName
      · rwa [sourceSecretName_certificate]
      · rwa [sourceSecretName_certificate]
      · rwa [source_certificate, source_certificate]
    · intro tls isTLS missing other isOther copies
      have sameOther : (reconciler.certificate start.present other).source = other.source :=
        source_certificate other
      have notSynced := kept.notSynced _ (returned isTLS)
        (by rwa [source_certificate]) _ (returned isOther) ((copies_congr sameOther).mpr copies)
      rw [certificate_of_missing missing] at notSynced
      rwa [TLSListener.synced, sameOther] at notSynced
  · intro separate
    have isReturned := history.returned.trans (flatMap_syncedListeners_of_once separate.once)
    constructor <;> simp only [isReturned, List.forall_mem_map, source_certificate,
      sourceSecretName_certificate]
    · intro tls isTLS named secret isSecret
      exact history.held separate isTLS named isSecret
    · intro tls isTLS other isOther same
      obtain ⟨_, -, isListener⟩ := List.mem_flatMap.mp isTLS
      obtain ⟨_, -, otherListener⟩ := List.mem_flatMap.mp isOther
      apply secretName_certificate_congr same
      rw [(of_mem_tlsListenersOf isListener).2, (of_mem_tlsListenersOf otherListener).2]
      exact congrArg ObjectKey.name same
    · intro tls isTLS other isOther named otherNamed different sameName
      exact different (separate.separate tls isTLS other isOther named otherNamed sameName)
    · intro tls isTLS missing other isOther copies
      have sameOther : (reconciler.certificate start.present other).source = other.source :=
        source_certificate other
      rw [certificate_of_missing missing, TLSListener.synced, sameOther]
      exact separate.missing tls isTLS missing other isOther ((copies_congr sameOther).mp copies)

end Kept

end Runs

/-! ## Secrets with one name for their copies -/

def quietPass (key : ObjectKey) (now : Int) : ConversionPass where
  key := key
  surroundings := orderedSurroundings
  time := tallyTime
  now := now
  acceptance _ _ := { accepted := true }

def tlsIngress (ns host secretName : String) : Ingress where
  metadata := { name := "shop", ns := ns }
  spec :=
    { tls := [{ hosts := [host], secretName := secretName }]
      rules := [
        { host := host, http := some [servicePath "/" "shop" 80] }] }

def syncCallFor (ingress : Ingress) : SyncCall where
  pass := quietPass (keyOf ingress.metadata) 0
  ingress := ingress

def tlsSecret (ns name : String) (certificate : List UInt8) : Secret where
  metadata := { name := name, ns := ns }
  data := Finmap.singleton "tls.crt" certificate

def copyingReconciler : Reconciler where
  gatewayName := "kubelb"
  gatewayNamespace := "kubelb"
  copyTLSSecrets := true

/-- Two secrets whose namespaces and names are joined to one text. -/
def joinedSecrets : ConversionObjects where
  secrets := (Store.empty.put (tlsSecret "a" "b-c" [1])).put (tlsSecret "a-b" "c" [2])

/-- The listener of the first Ingress gets the certificate of the second. -/
theorem certificate_overwritten :
    let first := tlsIngress "a" "first.example.com" "b-c"
    let second := tlsIngress "a-b" "second.example.com" "c"
    first.isValid = true ∧ second.isValid = true ∧
      ∃ reached, runFrom copyingReconciler.syncStep ⟨joinedSecrets, []⟩
          [syncCallFor first, syncCallFor second] = some reached ∧
        ¬ CertificatesKept copyingReconciler joinedSecrets reached := by
  intro first second
  refine ⟨by decide +kernel, by decide +kernel, ?_⟩
  obtain ⟨reached, run⟩ := Option.isSome_iff_exists.mp (show
    (runFrom copyingReconciler.syncStep ⟨joinedSecrets, []⟩
      [syncCallFor first, syncCallFor second]).isSome = true by decide +kernel)
  refine ⟨reached, run, fun kept => ?_⟩
  have evaluated : (runFrom copyingReconciler.syncStep ⟨joinedSecrets, []⟩
      [syncCallFor first, syncCallFor second]).map (fun reached =>
        (reached.returned.map (fun tls => (tls.source, tls.secretName)),
          (reached.objects.secrets.get ⟨"a", "b-c"⟩).map Secret.data,
          (reached.objects.secrets.get ⟨"kubelb", "ingress-a-b-c"⟩).map Secret.data)) =
      some ([(⟨"a", "b-c"⟩, "ingress-a-b-c"), (⟨"a-b", "c"⟩, "ingress-a-b-c")],
        some (Finmap.singleton "tls.crt" [1]), some (Finmap.singleton "tls.crt" [2])) := by
    decide +kernel
  rw [run] at evaluated
  simp only [Option.map_some, Option.some.injEq, Prod.mk.injEq] at evaluated
  obtain ⟨isReturned, isSource, isCopy⟩ := evaluated
  have isFirst : ((⟨"a", "b-c"⟩ : ObjectKey), "ingress-a-b-c") ∈
      reached.returned.map (fun tls => (tls.source, tls.secretName)) := by
    rw [isReturned]
    exact List.mem_cons_self
  obtain ⟨tls, isTLS, names⟩ := List.mem_map.mp isFirst
  obtain ⟨sameSource, sameName⟩ := Prod.mk.inj names
  obtain ⟨secret, isSecret, isData⟩ := Option.map_eq_some_iff.mp isSource
  have named : tls.sourceSecretName = "b-c" := congrArg ObjectKey.name sameSource
  obtain ⟨copy, found, sameData⟩ := kept.held tls isTLS (by rw [named]; decide) secret
    (by rw [sameSource]; exact isSecret)
  rw [sameName] at found
  obtain ⟨other, foundOther, otherData⟩ := Option.map_eq_some_iff.mp isCopy
  rw [show copyingReconciler.gatewayNamespace = "kubelb" from rfl, foundOther,
    Option.some.injEq] at found
  have overwritten : (Finmap.singleton "tls.crt" [2] : GoMap String (List UInt8)) =
      Finmap.singleton "tls.crt" [1] := by
    rw [← otherData, found, sameData, isData]
  exact absurd overwritten (by decide)

/-- Two Ingresses of different namespaces with secrets of the same name. -/
theorem same_names_kept :
    let objects : ConversionObjects :=
      { secrets := (Store.empty.put (tlsSecret "a" "tls" [1])).put (tlsSecret "b" "tls" [2]) }
    ∃ reached, runFrom copyingReconciler.syncStep ⟨objects, []⟩
        [syncCallFor (tlsIngress "a" "first.example.com" "tls"),
          syncCallFor (tlsIngress "b" "second.example.com" "tls")] = some reached ∧
      CertificatesKept copyingReconciler objects reached := by
  intro objects
  obtain ⟨reached, run⟩ := Option.isSome_iff_exists.mp (show
    (runFrom copyingReconciler.syncStep ⟨objects, []⟩
      [syncCallFor (tlsIngress "a" "first.example.com" "tls"),
        syncCallFor (tlsIngress "b" "second.example.com" "tls")]).isSome = true by decide +kernel)
  exact ⟨reached, run, (certificatesKept_iff_separateSecrets rfl run).mpr (by decide +kernel)⟩

end KubeLB.Conversion
