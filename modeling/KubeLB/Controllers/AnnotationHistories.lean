import KubeLB.Controllers.LoadBalancerReconciler
import KubeLB.Library.Runs

/-!
Contract: what becomes of annotations over the life of a generated object.

Owns: the one rule by which the reconcilers write annotations on each generated kind,
that `CreateOrUpdateIngress` and its siblings and `reconcileService` follow it, and the
histories in which passes and third-party edits alternate.

Does not own: the other fields of the objects.

The Service of a LoadBalancer records the keys that KubeLB put on it. The other kinds merge
what is desired into what is there and forget who put it there.
-/

set_option autoImplicit false

namespace KubeLB.Controllers

open KubeLB.Library KubeLB.Core KubeLB.V1Alpha1 KubeLB.Resources

/-! ## The rule of a kind -/

/-- What a pass merges into the annotations of an object that exists. -/
def mergedAnnotations (kind : ObjectKind) (stored desired : StringMap) : Option StringMap :=
  if kind = .service then some (reconcileAnnotations stored desired)
  else mergeAnnotations (readAnnotations stored) desired

/-- The annotations after a successful pass; `changed` is whether the object differs in
another field. -/
def writtenAnnotations (kind : ObjectKind) (desired : StringMap) (changed : Bool) :
    Option StringMap → StringMap
  | none => if kind = .service then reconcileAnnotations ∅ desired else desired
  | some stored =>
      let merged := mergedAnnotations kind stored desired
      if ¬ changed ∧ compareAnnotations (readAnnotations stored) merged then stored
      else merged.getD ∅

/-- The map that a pass wants on an object of the kind. -/
def yieldedAnnotations (kind : ObjectKind) (source : StringMap) (settings : AnnotationSettings) :
    StringMap :=
  propagateAnnotations source settings (annotatedResource kind)

/-! ## The passes follow the rule -/

def resourceAnnotations (cluster : Cluster) (key : ResourceKey) : Option StringMap :=
  (cluster.resources.get key).map (fun owned => owned.object.metadata.annotations)

/-- The helpers of the four Route kinds follow the rule when they succeed. -/
theorem createOrUpdateResource_writes (pass : RoutePass) (object : Unstructured)
    (cluster : Cluster) {kind : ObjectKind} (notService : kind ≠ .service) :
    (createOrUpdateResource pass object).Ensures cluster (Pass.either
      (fun _ reached => ∃ changed,
        resourceAnnotations reached (resourceKeyOf object.gvk (keyOf object.metadata)) =
          some (writtenAnnotations kind object.metadata.annotations changed
            (resourceAnnotations cluster (resourceKeyOf object.gvk (keyOf object.metadata)))))
      (fun _ _ => True)) := by
  unfold createOrUpdateResource
  refine Pass.ensures_bind_check (fun _ => trivial) (Pass.ensures_bind_read ?_)
  cases found : cluster.resources.get (resourceKeyOf object.gvk (keyOf object.metadata)) with
  | none =>
      refine Pass.ensures_bind_check (fun _ => trivial) (Pass.ensures_modify ⟨false, ?_⟩)
      have isStored := Store.get_put_self cluster.resources ⟨object, pass.key, pass.key⟩
      simp only [resourceAnnotations, found, Option.map_none, writtenAnnotations, if_neg notService]
      exact congrArg (Option.map _) isStored
  | some existing =>
      dsimp only
      have merged : mergedAnnotations kind existing.object.metadata.annotations
          object.metadata.annotations = mergeAnnotations
            (readAnnotations existing.object.metadata.annotations) object.metadata.annotations :=
        if_neg notService
      split
      · rename_i same
        refine Pass.ensures_pure ⟨false, ?_⟩
        simp only [resourceAnnotations, found, Option.map_some, writtenAnnotations, merged]
        rw [if_pos ⟨Bool.false_ne_true, same.2.2⟩]
      · refine Pass.ensures_bind_check (fun _ => trivial) (Pass.ensures_modify ⟨true, ?_⟩)
        have isStored := Store.get_put_self cluster.resources
          ⟨{ object with metadata := { object.metadata with
              uid := existing.object.metadata.uid
              annotations := (mergeAnnotations
                (readAnnotations existing.object.metadata.annotations)
                object.metadata.annotations).getD ∅ } }, existing.createdBy, pass.key⟩
        simp only [resourceAnnotations, found, Option.map_some, writtenAnnotations, merged]
        rw [if_neg (fun both => both.1 trivial)]
        exact congrArg (Option.map _) isStored

def serviceAnnotations (state : Balancing.State) : Option StringMap :=
  state.service.map (fun service => service.metadata.annotations)

/-- `reconcileService` follows the rule when it succeeds. -/
theorem reconcileService_writes (pass : Balancing.BalancerPass) (lb : Balancing.HostedLoadBalancer)
    (className : Option String) (settings : AnnotationSettings) (state : Balancing.State) :
    (Balancing.reconcileService pass lb className settings).Ensures state (Pass.either
      (fun _ reached => ∃ changed, serviceAnnotations reached =
        some (writtenAnnotations .service
          (yieldedAnnotations .service lb.metadata.annotations settings) changed
          (serviceAnnotations state)))
      (fun _ _ => True)) := by
  unfold Balancing.reconcileService
  refine Pass.ensures_bind_check (fun _ => trivial) (Pass.ensures_bind_read ?_)
  refine Pass.ensures_bind_read ?_
  refine Pass.ensures_bind (fun _ reached => reached = state) ?_ ?_
  · unfold Balancing.indexed
    split
    · exact Pass.ensures_fail trivial
    · exact Pass.ensures_pure rfl
  intro ports reached isState
  rw [isState]
  cases found : state.service with
  | none =>
      refine Pass.ensures_bind_check (fun _ => trivial) (Pass.ensures_modify ⟨false, ?_⟩)
      simp only [serviceAnnotations, found]
      rfl
  | some existing =>
      dsimp only
      split
      · refine Pass.ensures_bind_check (fun _ => trivial) (Pass.ensures_modify ⟨true, ?_⟩)
        simp only [serviceAnnotations, found]
        rfl
      · rename_i same
        rw [not_or, not_not] at same
        refine Pass.ensures_pure ⟨false, ?_⟩
        simp only [serviceAnnotations, found, Option.map_some, writtenAnnotations]
        rw [if_pos ⟨Bool.false_ne_true, same.2⟩]

/-! ## What the rule does to a key -/

section Rule

variable {kind : ObjectKind} {stored desired : StringMap} {key : String}

theorem lookup_eq_of_compareAnnotations {other : StringMap}
    (alike : compareAnnotations (readAnnotations stored) (some other) = true)
    (notLastApplied : key ≠ lastAppliedConfigAnnotation) :
    stored.lookup key = other.lookup key := by
  have sameRest := (compareAnnotations_iff.mp alike).2
  rw [getD_readAnnotations, Option.getD_some] at sameRest
  rw [← Finmap.lookup_erase_ne notLastApplied, sameRest, Finmap.lookup_erase_ne notLastApplied]

theorem lookup_mergeAnnotations (stored desired : StringMap) (key : String) :
    ((mergeAnnotations (readAnnotations stored) desired).getD ∅).lookup key =
      if compareAnnotations (readAnnotations stored) (some desired) then stored.lookup key
      else (desired.lookup key).or (stored.lookup key) := by
  unfold mergeAnnotations
  split
  · rw [getD_readAnnotations]
  · rw [Option.getD_some, GoMap.lookup_union, getD_readAnnotations]

theorem lookup_written_of_notMem (notService : kind ≠ .service) (notDesired : key ∉ desired)
    (changed : Bool) (before : Option StringMap) :
    (writtenAnnotations kind desired changed before).lookup key = (before.getD ∅).lookup key := by
  have noValue : desired.lookup key = none := Finmap.lookup_eq_none.mpr notDesired
  cases before with
  | none =>
      simp only [writtenAnnotations, if_neg notService, noValue, Option.getD_none,
        Finmap.lookup_empty]
  | some stored =>
      simp only [writtenAnnotations, mergedAnnotations, if_neg notService, Option.getD_some]
      split
      · rfl
      · rw [lookup_mergeAnnotations, noValue, Option.none_or, ite_self]

theorem mem_written_of_mem (notService : kind ≠ .service) (changed : Bool)
    (isStored : key ∈ stored) : key ∈ writtenAnnotations kind desired changed (some stored) := by
  simp only [writtenAnnotations, mergedAnnotations, if_neg notService]
  split
  · exact isStored
  · rw [Finmap.mem_iff] at isStored ⊢
    obtain ⟨value, isValue⟩ := isStored
    rw [lookup_mergeAnnotations, isValue]
    split
    · exact ⟨value, rfl⟩
    · cases desired.lookup key with
      | none => exact ⟨value, rfl⟩
      | some wanted => exact ⟨wanted, rfl⟩

theorem managedAnnotationsKey_ne_lastApplied :
    managedAnnotationsKey ≠ lastAppliedConfigAnnotation := by decide

/-- A Service has the record of the last pass, whether that pass wrote or not. -/
theorem lookup_written_record (changed : Bool) (before : Option StringMap) :
    (writtenAnnotations .service desired changed before).lookup managedAnnotationsKey =
      recordOf desired := by
  cases before with
  | none => exact lookup_reconcileAnnotations_record ∅ desired
  | some stored =>
      simp only [writtenAnnotations, mergedAnnotations, if_true]
      split
      · rename_i unwritten
        rw [lookup_eq_of_compareAnnotations unwritten.2 managedAnnotationsKey_ne_lastApplied]
        exact lookup_reconcileAnnotations_record stored desired
      · exact lookup_reconcileAnnotations_record stored desired

/-- On a Service a key that is not desired goes when it was recorded and stays otherwise. -/
theorem lookup_written_service (recordable : Recordable desired) (notDesired : key ∉ desired)
    (notRecord : key ≠ managedAnnotationsKey) (changed : Bool) (before : Option StringMap) :
    (writtenAnnotations .service desired changed before).lookup key =
      if key ∈ commaParts ((before.getD ∅).get managedAnnotationsKey) ∧ key ≠ "" then none
      else (before.getD ∅).lookup key := by
  have noValue : desired.lookup key = none := Finmap.lookup_eq_none.mpr notDesired
  have reconciled (stored : StringMap) : (reconcileAnnotations stored desired).lookup key =
      if key ∈ commaParts (stored.get managedAnnotationsKey) ∧ key ≠ "" then none
      else stored.lookup key := by
    rw [lookup_reconcileAnnotations stored desired notRecord, noValue, Option.none_or]
  cases before with
  | none => exact reconciled ∅
  | some stored =>
      simp only [writtenAnnotations, mergedAnnotations, if_true, Option.getD_some]
      split
      · -- Nothing was written, so the old record is that of the desired map.
        rename_i unwritten
        have sameRecord := lookup_eq_of_compareAnnotations unwritten.2
          managedAnnotationsKey_ne_lastApplied
        rw [lookup_reconcileAnnotations_record] at sameRecord
        rw [StringMap.get, sameRecord, if_neg]
        rw [mem_commaParts_recordOf recordable, mem_managedKeys]
        exact fun both => notDesired both.1
      · exact reconciled stored

/-- A desired key is there after the pass, but for kubectl's own and the record. -/
theorem mem_written_of_desired (isDesired : key ∈ desired)
    (notLastApplied : key ≠ lastAppliedConfigAnnotation)
    (notRecord : kind = .service → key ≠ managedAnnotationsKey) (changed : Bool)
    (before : Option StringMap) : key ∈ writtenAnnotations kind desired changed before := by
  have reconciled (isService : kind = .service) (stored : StringMap) :
      key ∈ reconcileAnnotations stored desired := by
    rw [Finmap.mem_iff] at isDesired ⊢
    obtain ⟨value, isValue⟩ := isDesired
    exact ⟨value, by rw [lookup_reconcileAnnotations _ _ (notRecord isService), isValue,
      Option.some_or]⟩
  have merged (stored : StringMap) :
      key ∈ (mergeAnnotations (readAnnotations stored) desired).getD ∅ := by
    rw [Finmap.mem_iff] at isDesired ⊢
    obtain ⟨value, isValue⟩ := isDesired
    rw [lookup_mergeAnnotations]
    split
    · rename_i alike
      exact ⟨value, (lookup_eq_of_compareAnnotations alike notLastApplied).trans isValue⟩
    · exact ⟨value, by rw [isValue, Option.some_or]⟩
  cases before with
  | none =>
      simp only [writtenAnnotations]
      split
      · rename_i isService
        exact reconciled isService ∅
      · exact isDesired
  | some stored =>
      have isMerged : key ∈ (mergedAnnotations kind stored desired).getD ∅ := by
        unfold mergedAnnotations
        split
        · rename_i isService
          exact reconciled isService stored
        · exact merged stored
      simp only [writtenAnnotations]
      split
      · rename_i unwritten
        cases isSome : mergedAnnotations kind stored desired with
        | none =>
            rw [isSome] at isMerged
            exact absurd isMerged Finmap.notMem_empty
        | some annotations =>
            rw [isSome] at unwritten isMerged
            rw [Option.getD_some, Finmap.mem_iff] at isMerged
            obtain ⟨value, isValue⟩ := isMerged
            rw [Finmap.mem_iff]
            exact ⟨value,
              (lookup_eq_of_compareAnnotations unwritten.2 notLastApplied).trans isValue⟩
      · exact isMerged

theorem recordable_of_written {changed : Bool} {before : Option StringMap}
    (admitted : Recordable (writtenAnnotations kind desired changed before)) :
    Recordable desired := by
  intro key isDesired
  by_cases isLastApplied : key = lastAppliedConfigAnnotation
  · rw [isLastApplied]
    decide
  · by_cases isRecord : key = managedAnnotationsKey
    · rw [isRecord]
      decide
    · exact admitted key (mem_written_of_desired isDesired isLastApplied (fun _ => isRecord)
        changed before)

end Rule

/-! ## Histories -/

/-- A third party sets or removes an annotation, or a pass succeeds. -/
inductive AnnotationEvent where
  | edit (key : String) (value : Option String)
  | reconcile (source : StringMap) (settings : AnnotationSettings) (changed : Bool)

/-- The API server admits annotations whose keys are qualified names. Of this only the
part is kept that matters here: a key is not empty and has no comma. -/
def admitsAnnotations (annotations : StringMap) : Bool :=
  (GoMap.sortedKeys annotations).all (fun key => decide (RecordableKey key))

theorem admitsAnnotations_iff {annotations : StringMap} :
    admitsAnnotations annotations = true ↔ Recordable annotations := by
  simp only [admitsAnnotations, List.all_eq_true, GoMap.mem_sortedKeys, decide_eq_true_eq,
    Recordable, Finmap.mem_iff]

/-- The annotations that an event leaves. An edit of an absent object is its creation by
the third party. -/
def AnnotationEvent.result (kind : ObjectKind) (before : Option StringMap) :
    AnnotationEvent → StringMap
  | .edit key value => editedAnnotations (before.getD ∅) key value
  | .reconcile source settings changed =>
      writtenAnnotations kind (yieldedAnnotations kind source settings) changed before

/-- The annotations of the object after an event; `none` when the API server refuses it. -/
def annotationStep (kind : ObjectKind) (before : Option StringMap) (event : AnnotationEvent) :
    Option (Option StringMap) :=
  if admitsAnnotations (event.result kind before) then some (some (event.result kind before))
  else none

def AnnotationEvent.thirdParty (annotations : StringMap) : AnnotationEvent → StringMap
  | .edit key value => editedAnnotations annotations key value
  | .reconcile _ _ _ => annotations

def yields (kind : ObjectKind) (events : List AnnotationEvent) : List StringMap :=
  events.filterMap (fun event =>
    match event with
    | .edit _ _ => none
    | .reconcile source settings _ => some (yieldedAnnotations kind source settings))

/-- A key that KubeLB has no business with: no pass yields it, and it is not the record. -/
def OtherKey (kind : ObjectKind) (maps : List StringMap) (key : String) : Prop :=
  (kind = .service → key ≠ managedAnnotationsKey) ∧ ∀ desired ∈ maps, key ∉ desired

/-- Third parties edit other keys only. -/
def EditsOtherKeys (kind : ObjectKind) (maps : List StringMap) (events : List AnnotationEvent) :
    Prop :=
  ∀ key value, .edit key value ∈ events → OtherKey kind maps key

/-- A pass of the history yielded the key, and the object had it afterwards. -/
def PutBefore (kind : ObjectKind) (events : List AnnotationEvent) (key : String) : Prop :=
  ∃ (earlier later : List AnnotationEvent) (source : StringMap) (settings : AnnotationSettings)
    (changed : Bool) (reached : StringMap),
    events = earlier ++ .reconcile source settings changed :: later ∧
      key ∈ yieldedAnnotations kind source settings ∧
      runFrom (annotationStep kind) none (earlier ++ [.reconcile source settings changed]) =
        some (some reached) ∧
      key ∈ reached

/-- After the last pass the keys that KubeLB put there and no longer wants are gone, and
those of third parties are as third parties left them. -/
def RemovedDisappear (kind : ObjectKind) (events : List AnnotationEvent) (last : StringMap)
    (final : StringMap) : Prop :=
  (∀ key, PutBefore kind events key → key ∉ last → key ∉ final) ∧
    ∀ key, OtherKey kind (last :: yields kind events) key →
      final.lookup key = (events.foldl AnnotationEvent.thirdParty ∅).lookup key

section Histories

variable {kind : ObjectKind} {maps : List StringMap} {events : List AnnotationEvent}

theorem annotationStep_eq_some {before after : Option StringMap} {event : AnnotationEvent}
    (isStep : annotationStep kind before event = some after) :
    after = some (event.result kind before) ∧ Recordable (event.result kind before) := by
  unfold annotationStep at isStep
  split at isStep
  · rename_i admitted
    exact ⟨(Option.some.inj isStep).symm, admitsAnnotations_iff.mp admitted⟩
  · cases isStep

theorem EditsOtherKeys.of_append {more : List AnnotationEvent}
    (ownEdits : EditsOtherKeys kind maps (events ++ more)) : EditsOtherKeys kind maps events :=
  fun key value isEdit => ownEdits key value (List.mem_append_left _ isEdit)

theorem yields_append (more : List AnnotationEvent) :
    yields kind (events ++ more) = yields kind events ++ yields kind more :=
  List.filterMap_append

theorem otherKey_of_mem_thirdParty (ownEdits : EditsOtherKeys kind maps events) {key : String}
    (isThere : key ∈ events.foldl AnnotationEvent.thirdParty ∅) : OtherKey kind maps key := by
  induction events using List.reverseRecOn with
  | nil => exact absurd isThere Finmap.notMem_empty
  | append_singleton events event ih =>
      rw [List.foldl_append] at isThere
      cases event with
      | edit edited value =>
          by_cases same : key = edited
          · rw [same]
            exact ownEdits edited value (List.mem_append_right _ List.mem_cons_self)
          · apply ih ownEdits.of_append
            rw [Finmap.mem_iff] at isThere ⊢
            simpa only [List.foldl_cons, List.foldl_nil, AnnotationEvent.thirdParty,
              lookup_editedAnnotations_of_ne _ same] using isThere
      | reconcile source settings changed => exact ih ownEdits.of_append isThere

theorem lookup_editedAnnotations_congr {left right : StringMap} {other : String} (key : String)
    (value : Option String) (same : left.lookup other = right.lookup other) :
    (editedAnnotations left key value).lookup other =
      (editedAnnotations right key value).lookup other := by
  by_cases isKey : other = key
  · rw [isKey, lookup_editedAnnotations, lookup_editedAnnotations]
  · rw [lookup_editedAnnotations_of_ne _ isKey, lookup_editedAnnotations_of_ne _ isKey, same]

theorem separate_thirdParty (ownEdits : EditsOtherKeys kind maps events) {previous : StringMap}
    (isEarlier : EarlierMap maps previous) :
    ∀ key ∈ previous, key ∉ events.foldl AnnotationEvent.thirdParty ∅ := by
  intro key isPrevious isThere
  rcases isEarlier with rfl | isMap
  · exact absurd isPrevious Finmap.notMem_empty
  · exact (otherKey_of_mem_thirdParty ownEdits isThere).2 previous isMap isPrevious

/-! ## Merging kinds -/

theorem mem_of_run (notService : kind ≠ .service) {key : String}
    (notOther : ¬ OtherKey kind maps key)
    (ownEdits : EditsOtherKeys kind maps events) {before : StringMap} {after : Option StringMap}
    (isThere : key ∈ before)
    (run : runFrom (annotationStep kind) (some before) events = some after) :
    ∃ annotations, after = some annotations ∧ key ∈ annotations := by
  refine run_induction (motive := fun history state => EditsOtherKeys kind maps history →
    ∃ annotations, state = some annotations ∧ key ∈ annotations)
    (fun _ => ⟨before, rfl, isThere⟩) ?_ run ownEdits
  intro history state event next earlier isStep edits
  obtain ⟨annotations, rfl, member⟩ := earlier edits.of_append
  obtain ⟨rfl, -⟩ := annotationStep_eq_some isStep
  refine ⟨_, rfl, ?_⟩
  cases event with
  | edit edited value =>
      have different : key ≠ edited := by
        rintro rfl
        exact notOther (edits key value (List.mem_append_right _ List.mem_cons_self))
      rw [Finmap.mem_iff] at member ⊢
      simpa only [AnnotationEvent.result, Option.getD_some,
        lookup_editedAnnotations_of_ne _ different] using member
  | reconcile source settings changed => exact mem_written_of_mem notService changed member

theorem lookup_of_run (notService : kind ≠ .service) {key : String}
    (notYielded : ∀ desired ∈ yields kind events, key ∉ desired) {after : Option StringMap}
    (run : runFrom (annotationStep kind) none events = some after) :
    (after.getD ∅).lookup key = (events.foldl AnnotationEvent.thirdParty ∅).lookup key := by
  refine run_induction (motive := fun history state =>
    (∀ desired ∈ yields kind history, key ∉ desired) →
      (state.getD ∅).lookup key = (history.foldl AnnotationEvent.thirdParty ∅).lookup key)
    (fun _ => rfl) ?_ run notYielded
  intro history state event next earlier isStep missing
  rw [yields_append, List.forall_mem_append] at missing
  have before := earlier missing.1
  obtain ⟨rfl, -⟩ := annotationStep_eq_some isStep
  rw [List.foldl_append]
  cases event with
  | edit edited value => exact lookup_editedAnnotations_congr edited value before
  | reconcile source settings changed =>
      have notDesired := missing.2 (yieldedAnnotations kind source settings) (by simp [yields])
      exact (lookup_written_of_notMem notService notDesired changed state).trans before

/-! ## The Service of a LoadBalancer -/

/-- The record is that of `previous`, and every key outside it is as third parties left
it. -/
structure Records (previous others annotations : StringMap) : Prop where
  recordable : Recordable previous
  record : annotations.lookup managedAnnotationsKey = recordOf previous
  rest : ∀ key, key ≠ managedAnnotationsKey → key ∉ previous →
    annotations.lookup key = others.lookup key

theorem records_empty : Records ∅ ∅ ∅ where
  recordable key isKey := absurd isKey Finmap.notMem_empty
  record := by decide
  rest _ _ _ := rfl

theorem Records.edit {previous others annotations : StringMap} {key : String}
    (records : Records previous others annotations) (notRecord : key ≠ managedAnnotationsKey)
    (value : Option String) :
    Records previous (editedAnnotations others key value)
      (editedAnnotations annotations key value) where
  recordable := records.recordable
  record := by rw [lookup_editedAnnotations_of_ne _ notRecord.symm, records.record]
  rest other isOther notPrevious :=
    lookup_editedAnnotations_congr key value (records.rest other isOther notPrevious)

/-- A pass replaces the record and drops the keys of the old one. -/
theorem Records.reconcile {previous others desired : StringMap} {before : Option StringMap}
    {changed : Bool} (records : Records previous others (before.getD ∅))
    (separate : ∀ key ∈ previous, key ∉ others)
    (admitted : Recordable (writtenAnnotations .service desired changed before)) :
    Records desired others (writtenAnnotations .service desired changed before) where
  recordable := recordable_of_written admitted
  record := lookup_written_record changed before
  rest := by
    intro key notRecord notDesired
    rw [lookup_written_service (recordable_of_written admitted) notDesired notRecord,
      StringMap.get, records.record]
    simp only [mem_commaParts_recordOf records.recordable, mem_managedKeys]
    split
    · rename_i isPrevious
      exact (Finmap.lookup_eq_none.mpr (separate key isPrevious.1)).symm
    · rename_i notPrevious
      exact records.rest key notRecord fun isPrevious => notPrevious ⟨isPrevious, notRecord⟩

theorem records_of_run (ownEdits : EditsOtherKeys .service maps events)
    (areYielded : yields .service events ⊆ maps) {after : Option StringMap}
    (run : runFrom (annotationStep .service) none events = some after) :
    ∃ previous, EarlierMap maps previous ∧
      Records previous (events.foldl AnnotationEvent.thirdParty ∅) (after.getD ∅) := by
  refine run_induction (motive := fun history (state : Option StringMap) =>
    EditsOtherKeys .service maps history → yields .service history ⊆ maps →
      ∃ previous, EarlierMap maps previous ∧
      Records previous (history.foldl AnnotationEvent.thirdParty ∅) (state.getD ∅))
    ?_ ?_ run ownEdits areYielded
  · exact fun _ _ => ⟨∅, Or.inl rfl, records_empty⟩
  · intro history state event next earlier isStep edits areMaps
    rw [yields_append, List.append_subset] at areMaps
    obtain ⟨previous, isEarlier, records⟩ := earlier edits.of_append areMaps.1
    obtain ⟨rfl, admitted⟩ := annotationStep_eq_some isStep
    rw [List.foldl_append]
    cases event with
    | edit edited value =>
        have isOther := edits edited value (List.mem_append_right _ List.mem_cons_self)
        exact ⟨previous, isEarlier, records.edit (isOther.1 rfl) value⟩
    | reconcile source settings changed =>
        have isMap : yieldedAnnotations .service source settings ∈ maps :=
          areMaps.2 (by simp [yields])
        refine ⟨_, Or.inr isMap, records.reconcile ?_ admitted⟩
        exact separate_thirdParty edits.of_append isEarlier

/-! ## Removed annotations -/

theorem PutBefore.not_otherKey {key : String} (wasPut : PutBefore kind events key)
    (areYielded : yields kind events ⊆ maps) : ¬ OtherKey kind maps key := by
  obtain ⟨earlier, later, source, settings, changed, -, rfl, isYielded, -⟩ := wasPut
  intro isOther
  exact isOther.2 _ (areYielded (by simp [yields])) isYielded

theorem PutBefore.mem_of_run (notService : kind ≠ .service) {key : String}
    (wasPut : PutBefore kind events key) (areYielded : yields kind events ⊆ maps)
    (ownEdits : EditsOtherKeys kind maps events) {last : AnnotationEvent}
    (ofPass : ∀ edited value, last ≠ .edit edited value) {final : StringMap}
    (run : runFrom (annotationStep kind) none (events ++ [last]) = some (some final)) :
    key ∈ final := by
  have notOther := wasPut.not_otherKey areYielded
  obtain ⟨earlier, later, source, settings, changed, reached, rfl, -, prior, isThere⟩ := wasPut
  have split : earlier ++ .reconcile source settings changed :: later ++ [last] =
      (earlier ++ [.reconcile source settings changed]) ++ (later ++ [last]) := by simp
  rw [split, runFrom_append, prior, Option.bind_some] at run
  have laterEdits : EditsOtherKeys kind maps (later ++ [last]) := by
    intro edited value isEdit
    rw [List.mem_append, List.mem_singleton] at isEdit
    rcases isEdit with inLater | isLast
    · exact ownEdits edited value (List.mem_append_right _ (List.mem_cons_of_mem _ inLater))
    · exact absurd isLast.symm (ofPass edited value)
  obtain ⟨annotations, isFinal, member⟩ :=
    Controllers.mem_of_run notService notOther laterEdits isThere run
  cases isFinal
  exact member

end Histories

/-- Removed annotations disappear exactly when none was removed or the object is the Service
of a LoadBalancer, where the record itself is no annotation to remove while it is in use. -/
theorem removedDisappear_iff (kind : ObjectKind) (events : List AnnotationEvent)
    (source : StringMap) (settings : AnnotationSettings) (changed : Bool) (final : StringMap)
    (ownEdits : EditsOtherKeys kind
      (yieldedAnnotations kind source settings :: yields kind events) events)
    (run : runFrom (annotationStep kind) none (events ++ [.reconcile source settings changed]) =
      some (some final)) :
    RemovedDisappear kind events (yieldedAnnotations kind source settings) final ↔
      ∀ key, PutBefore kind events key → key ∉ yieldedAnnotations kind source settings →
        kind = .service ∧
          (key = managedAnnotationsKey →
            managedKeys (yieldedAnnotations kind source settings) = []) := by
  have areYielded : yields kind events ⊆
      yieldedAnnotations kind source settings :: yields kind events := List.subset_cons_self _ _
  by_cases isService : kind = .service
  · subst isService
    obtain ⟨before, prior, isStep⟩ := runFrom_snoc run
    obtain ⟨previous, isEarlier, recordsBefore⟩ := records_of_run ownEdits areYielded prior
    obtain ⟨isFinal, admitted⟩ := annotationStep_eq_some isStep
    have records : Records (yieldedAnnotations .service source settings)
        (events.foldl AnnotationEvent.thirdParty ∅) final := by
      rw [Option.some.inj isFinal]
      exact recordsBefore.reconcile (separate_thirdParty ownEdits isEarlier) admitted
    have absent_iff : managedAnnotationsKey ∉ final ↔
        managedKeys (yieldedAnnotations .service source settings) = [] := by
      rw [← Finmap.lookup_eq_none, records.record, recordOf]
      split <;> simp_all
    constructor
    · intro disappear key wasPut notLast
      refine ⟨rfl, ?_⟩
      rintro rfl
      exact absent_iff.mp (disappear.1 _ wasPut notLast)
    · intro condition
      refine ⟨fun key wasPut notLast => ?_, fun key isOther => ?_⟩
      · by_cases isRecord : key = managedAnnotationsKey
        · subst isRecord
          exact absent_iff.mpr ((condition _ wasPut notLast).2 rfl)
        · rw [← Finmap.lookup_eq_none, records.rest key isRecord notLast, Finmap.lookup_eq_none]
          intro isThere
          exact wasPut.not_otherKey areYielded (otherKey_of_mem_thirdParty ownEdits isThere)
      · exact records.rest key (isOther.1 rfl) (isOther.2 _ List.mem_cons_self)
  · constructor
    · intro disappear key wasPut notLast
      have isThere := wasPut.mem_of_run isService areYielded ownEdits
        (fun _ _ isEdit => by cases isEdit) run
      exact absurd isThere (disappear.1 key wasPut notLast)
    · intro condition
      refine ⟨fun key wasPut notLast => absurd (condition key wasPut notLast).1 isService,
        fun key isOther => ?_⟩
      have notYielded : ∀ desired ∈ yields kind (events ++ [.reconcile source settings changed]),
          key ∉ desired := by
        rw [yields_append]
        intro desired isDesired
        refine isOther.2 desired ?_
        simpa [yields, or_comm] using isDesired
      have kept := lookup_of_run isService notYielded run
      rw [List.foldl_append] at kept
      exact kept

def propagateAll : AnnotationSettings where
  propagateAllAnnotations := some true

/-- The annotation of a source, propagated to its HTTPRoute, stays there after it was
removed from the source. -/
theorem removed_annotation_stays :
    EditsOtherKeys .httpRoute (yieldedAnnotations .httpRoute ∅ propagateAll ::
        yields .httpRoute [.reconcile (Finmap.singleton "a" "1") propagateAll false])
        [.reconcile (Finmap.singleton "a" "1") propagateAll false] ∧
      runFrom (annotationStep .httpRoute) none
        [.reconcile (Finmap.singleton "a" "1") propagateAll false,
          .reconcile ∅ propagateAll false] = some (some (Finmap.singleton "a" "1")) ∧
      ¬ RemovedDisappear .httpRoute [.reconcile (Finmap.singleton "a" "1") propagateAll false]
        (yieldedAnnotations .httpRoute ∅ propagateAll) (Finmap.singleton "a" "1") := by
  refine ⟨fun key value isEdit => by simp at isEdit, by decide +kernel, fun disappear => ?_⟩
  refine disappear.1 "a" ⟨[], [], Finmap.singleton "a" "1", propagateAll, false,
    Finmap.singleton "a" "1", rfl, by decide +kernel, by decide +kernel, by decide +kernel⟩
    (by decide +kernel) (by decide +kernel)

/-- On a Service it goes, and the annotation of a third party stays. -/
theorem removed_annotation_goes_from_service :
    RemovedDisappear .service
      [.reconcile (Finmap.singleton "a" "1") propagateAll false, .edit "other" (some "2")]
      (yieldedAnnotations .service ∅ propagateAll) (Finmap.singleton "other" "2") := by
  refine (removedDisappear_iff .service
    [.reconcile (Finmap.singleton "a" "1") propagateAll false, .edit "other" (some "2")] ∅
    propagateAll false (Finmap.singleton "other" "2") ?_ (by decide +kernel)).mpr
    fun key _ _ => ⟨rfl, fun _ => by decide +kernel⟩
  intro key value isEdit
  simp only [List.mem_cons, reduceCtorEq, AnnotationEvent.edit.injEq, List.not_mem_nil, or_false,
    false_or] at isEdit
  obtain ⟨rfl, rfl⟩ := isEdit
  refine ⟨fun _ => by decide, fun desired isDesired => ?_⟩
  simp only [yields, List.filterMap_cons, List.filterMap_nil, List.mem_cons, List.not_mem_nil,
    or_false] at isDesired
  rcases isDesired with rfl | rfl
  · decide +kernel
  · decide +kernel

end KubeLB.Controllers
