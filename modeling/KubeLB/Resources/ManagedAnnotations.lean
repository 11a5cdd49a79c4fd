import KubeLB.Resources.Annotations

/-!
Contract: the record of the annotations that KubeLB owns on a generated object.

Owns: `ReconcileAnnotations`, the record it keeps inside the map, and what a sequence of
desired maps with third-party edits between them comes to.

Does not own: when an object is written.
-/

set_option autoImplicit false

namespace KubeLB.Resources

open KubeLB.Library KubeLB.Core KubeLB.V1Alpha1

def managedAnnotationsKey : String := "kubelb.k8c.io/managed-annotations"

/-- `strings.Split(text, ",")`, as texts. -/
def commaParts (text : String) : List String := (splitComma text.toList).map String.ofList

/-- The sorted keys that `ReconcileAnnotations` records. -/
def managedKeys (desired : StringMap) : List String :=
  (GoMap.sortedKeys desired).filter (· ≠ managedAnnotationsKey)

def dropKey (desired merged : StringMap) (key : String) : StringMap :=
  if desired.lookup key = none ∧ key ≠ "" then merged.erase key else merged

def reconcileAnnotations (existing desired : StringMap) : StringMap :=
  let kept := (commaParts (existing.get managedAnnotationsKey)).foldl (dropKey desired) existing
  let merged := desired ∪ kept
  if managedKeys desired = [] then merged.erase managedAnnotationsKey
  else merged.insert managedAnnotationsKey (",".intercalate (managedKeys desired))

/-! ## The record -/

/-- A key that the record can hold: not empty, and without a comma. -/
def RecordableKey (key : String) : Prop := key ≠ "" ∧ ',' ∉ key.toList

instance (key : String) : Decidable (RecordableKey key) := inferInstanceAs (Decidable (_ ∧ _))

/-- Every key of the map can be recorded. -/
def Recordable (desired : StringMap) : Prop := ∀ key ∈ desired, RecordableKey key

def recordOf (desired : StringMap) : Option String :=
  if managedKeys desired = [] then none else some (",".intercalate (managedKeys desired))

theorem mem_managedKeys {desired : StringMap} {key : String} :
    key ∈ managedKeys desired ↔ key ∈ desired ∧ key ≠ managedAnnotationsKey := by
  simp only [managedKeys, List.mem_filter, GoMap.mem_sortedKeys, Finmap.mem_iff, decide_eq_true_eq]

theorem splitComma_eq_splitOn (text : List Char) : splitComma text = text.splitOn ',' := by
  induction text with
  | nil => rfl
  | cons char rest ih =>
      rw [List.splitOn_cons_eq_if_modifyHead, ← ih]
      by_cases isComma : char = ','
      · subst isComma
        simp [splitComma]
      · have notComma : (char == ',') = false := by simpa using isComma
        rw [notComma]
        cases split : splitComma rest with
        | nil => exact absurd (ih.symm.trans split) (List.splitOn_ne_nil _ _)
        | cons first others => simp [splitComma, split]

theorem commaParts_append (left right : String) :
    commaParts (left ++ "," ++ right) = commaParts left ++ commaParts right := by
  have joined : (left ++ "," ++ right).toList = left.toList ++ ',' :: right.toList := by
    simp [String.toList_append]
  simp only [commaParts, splitComma_eq_splitOn, joined, List.splitOn_append_cons_self,
    List.map_append]

/-- A joined text has the parts of its pieces. -/
theorem commaParts_intercalate_flatMap {pieces : List String} (notNil : pieces ≠ []) :
    commaParts (",".intercalate pieces) = pieces.flatMap commaParts := by
  induction pieces with
  | nil => exact absurd rfl notNil
  | cons piece pieces ih =>
      cases pieces with
      | nil => simp [String.intercalate_singleton]
      | cons second pieces =>
          rw [String.intercalate_cons_cons, commaParts_append,
            ih (List.cons_ne_nil _ _)]
          rfl

theorem commaParts_intercalate {parts : List String} (notNil : parts ≠ [])
    (noCommas : ∀ part ∈ parts, ',' ∉ part.toList) :
    commaParts (",".intercalate parts) = parts := by
  have separator : (",".toList : List Char) = [','] := rfl
  rw [commaParts, splitComma_eq_splitOn, String.toList_intercalate, separator,
    List.splitOn_intercalate, List.map_map]
  · simp [Function.comp_def]
  · intro part isPart
    obtain ⟨text, isText, rfl⟩ := List.mem_map.mp isPart
    exact noCommas text isText
  · simpa using notNil

theorem mem_commaParts_recordOf {desired : StringMap} (recordable : Recordable desired)
    {key : String} :
    (key ∈ commaParts ((recordOf desired).getD "") ∧ key ≠ "") ↔ key ∈ managedKeys desired := by
  have ofManaged {part : String} (isPart : part ∈ managedKeys desired) : RecordableKey part :=
    recordable part (mem_managedKeys.mp isPart).1
  unfold recordOf
  split
  · rename_i isNil
    simp [isNil, commaParts, splitComma]
  · rename_i notNil
    rw [Option.getD_some, commaParts_intercalate notNil (fun part isPart => (ofManaged isPart).2)]
    exact ⟨fun holds => holds.1, fun isKey => ⟨isKey, (ofManaged isKey).1⟩⟩

/-! ## One call -/

section Call

variable (existing desired : StringMap)

theorem lookup_foldl_dropKey (keys : List String) (merged : StringMap) (key : String) :
    (keys.foldl (dropKey desired) merged).lookup key =
      if key ∈ keys ∧ key ≠ "" ∧ desired.lookup key = none then none else merged.lookup key := by
  induction keys generalizing merged with
  | nil => simp
  | cons first keys ih =>
      rw [List.foldl_cons, ih]
      by_cases isFirst : key = first
      · subst isFirst
        unfold dropKey
        by_cases isDropped : desired.lookup key = none ∧ key ≠ ""
        · simp [isDropped]
        · rw [if_neg isDropped]
          have notDropped : ¬ (key ≠ "" ∧ desired.lookup key = none) := fun both =>
            isDropped ⟨both.2, both.1⟩
          simp [notDropped]
      · have same : (dropKey desired merged first).lookup key = merged.lookup key := by
          unfold dropKey
          split
          · exact Finmap.lookup_erase_ne isFirst
          · rfl
        rw [same]
        simp [isFirst]

theorem lookup_reconcileAnnotations_record :
    (reconcileAnnotations existing desired).lookup managedAnnotationsKey = recordOf desired := by
  unfold reconcileAnnotations recordOf
  simp only
  split <;> simp

/-- A desired key has its desired value, a recorded one that is not desired goes, and every
other key stays. -/
theorem lookup_reconcileAnnotations {key : String} (notRecord : key ≠ managedAnnotationsKey) :
    (reconcileAnnotations existing desired).lookup key =
      (desired.lookup key).or
        (if key ∈ commaParts (existing.get managedAnnotationsKey) ∧ key ≠ "" then none
          else existing.lookup key) := by
  have merged : (desired ∪ (commaParts (existing.get managedAnnotationsKey)).foldl
      (dropKey desired) existing).lookup key =
      (desired.lookup key).or
        (if key ∈ commaParts (existing.get managedAnnotationsKey) ∧ key ≠ "" then none
          else existing.lookup key) := by
    rw [GoMap.lookup_union, lookup_foldl_dropKey]
    cases desired.lookup key with
    | none => simp
    | some value => simp
  unfold reconcileAnnotations
  simp only
  split
  · rw [Finmap.lookup_erase_ne notRecord, merged]
  · rw [Finmap.lookup_insert_of_ne _ notRecord, merged]

theorem mem_commaParts_record {desired : StringMap} {key : String} (notEmpty : key ≠ "") :
    key ∈ commaParts ((recordOf desired).getD "") ↔
      ∃ managed ∈ managedKeys desired, key ∈ commaParts managed := by
  unfold recordOf
  split
  · rename_i isNil
    simp [isNil, commaParts, splitComma, notEmpty]
  · rename_i notNil
    rw [Option.getD_some, commaParts_intercalate_flatMap notNil, List.mem_flatMap]

/-- A second call drops the keys that are no desired ones and that the record of the first
call lists nevertheless, as parts of keys with a comma. -/
theorem lookup_reconcileAnnotations_again {key : String}
    (notRecord : key ≠ managedAnnotationsKey) :
    (reconcileAnnotations (reconcileAnnotations existing desired) desired).lookup key =
      if key ∉ desired ∧ key ≠ "" ∧ ∃ managed ∈ managedKeys desired, key ∈ commaParts managed
      then none else (reconcileAnnotations existing desired).lookup key := by
  have record : (reconcileAnnotations existing desired).get managedAnnotationsKey =
      (recordOf desired).getD "" := by
    rw [StringMap.get, lookup_reconcileAnnotations_record]
  rw [lookup_reconcileAnnotations _ _ notRecord, record]
  cases isDesired : desired.lookup key with
  | some value =>
      have member : key ∈ desired := Finmap.mem_of_lookup_eq_some isDesired
      have kept : ¬ (key ∉ desired ∧ key ≠ "" ∧
          ∃ managed ∈ managedKeys desired, key ∈ commaParts managed) := fun all => all.1 member
      rw [if_neg kept, lookup_reconcileAnnotations _ _ notRecord, isDesired]
      rfl
  | none =>
      have notMember : key ∉ desired := Finmap.lookup_eq_none.mp isDesired
      rw [Option.none_or]
      by_cases notEmpty : key = ""
      · simp [notEmpty]
      · simp [notMember, notEmpty, mem_commaParts_record notEmpty]

end Call

/-! ## Maps with a record -/

/-- Third-party annotations with desired ones and their record. -/
def bookkept (desired others : StringMap) : StringMap :=
  let own := desired.erase managedAnnotationsKey ∪ others
  match recordOf desired with
  | none => own
  | some record => own.insert managedAnnotationsKey record

/-- The third-party annotations have neither the record nor a key of the map. -/
def Separate (desired others : StringMap) : Prop :=
  managedAnnotationsKey ∉ others ∧ ∀ key ∈ desired, key ∉ others

section Bookkept

variable {previous desired others : StringMap} {key : String}

theorem lookup_bookkept (notRecord : key ≠ managedAnnotationsKey) :
    (bookkept desired others).lookup key = (desired.lookup key).or (others.lookup key) := by
  have own : (desired.erase managedAnnotationsKey ∪ others).lookup key =
      (desired.lookup key).or (others.lookup key) := by
    rw [GoMap.lookup_union, Finmap.lookup_erase_ne notRecord]
  unfold bookkept
  simp only
  split
  · exact own
  · rw [Finmap.lookup_insert_of_ne _ notRecord, own]

theorem lookup_bookkept_record (separate : managedAnnotationsKey ∉ others) :
    (bookkept desired others).lookup managedAnnotationsKey = recordOf desired := by
  unfold bookkept
  simp only
  split
  · rename_i noRecord
    rw [noRecord, GoMap.lookup_union, Finmap.lookup_erase, Option.none_or,
      Finmap.lookup_eq_none.mpr separate]
  · rename_i record isRecord
    rw [isRecord, Finmap.lookup_insert]

theorem bookkept_empty (separate : managedAnnotationsKey ∉ others) :
    bookkept ∅ others = others := by
  apply Finmap.ext_lookup
  intro key
  by_cases isRecord : key = managedAnnotationsKey
  · subst isRecord
    rw [lookup_bookkept_record separate, Finmap.lookup_eq_none.mpr separate]
    decide
  · rw [lookup_bookkept isRecord, Finmap.lookup_empty, Option.none_or]

/-- A call replaces the desired annotations and their record. -/
theorem reconcileAnnotations_bookkept (recordable : Recordable previous)
    (fromPrevious : Separate previous others) (fromDesired : Separate desired others) :
    reconcileAnnotations (bookkept previous others) desired = bookkept desired others := by
  apply Finmap.ext_lookup
  intro key
  by_cases isRecord : key = managedAnnotationsKey
  · subst isRecord
    rw [lookup_reconcileAnnotations_record, lookup_bookkept_record fromDesired.1]
  · have record : (bookkept previous others).get managedAnnotationsKey =
        (recordOf previous).getD "" := by
      rw [StringMap.get, lookup_bookkept_record fromPrevious.1]
    rw [lookup_reconcileAnnotations _ _ isRecord, record, lookup_bookkept isRecord,
      lookup_bookkept isRecord]
    simp only [mem_commaParts_recordOf recordable, mem_managedKeys]
    congr 1
    by_cases isPrevious : key ∈ previous
    · rw [if_pos ⟨isPrevious, isRecord⟩, Finmap.lookup_eq_none.mpr (fromPrevious.2 key isPrevious)]
    · rw [if_neg (fun both => isPrevious both.1), Finmap.lookup_eq_none.mpr isPrevious,
        Option.none_or]

end Bookkept

/-! ## Sequences -/

/-- A third party sets or removes an annotation, or KubeLB applies a desired map. -/
inductive AnnotationChange where
  | edit (key : String) (value : Option String)
  | apply (desired : StringMap)

def editedAnnotations (annotations : StringMap) (key : String) : Option String → StringMap
  | none => annotations.erase key
  | some value => annotations.insert key value

theorem lookup_editedAnnotations (annotations : StringMap) (key : String) (value : Option String) :
    (editedAnnotations annotations key value).lookup key = value := by
  cases value <;> simp [editedAnnotations]

theorem lookup_editedAnnotations_of_ne (annotations : StringMap) {key other : String}
    (different : other ≠ key) (value : Option String) :
    (editedAnnotations annotations key value).lookup other = annotations.lookup other := by
  cases value with
  | none => exact Finmap.lookup_erase_ne different
  | some value => exact Finmap.lookup_insert_of_ne _ different

def AnnotationChange.applied (annotations : StringMap) : AnnotationChange → StringMap
  | .edit key value => editedAnnotations annotations key value
  | .apply desired => reconcileAnnotations annotations desired

def AnnotationChange.thirdParty (annotations : StringMap) : AnnotationChange → StringMap
  | .edit key value => editedAnnotations annotations key value
  | .apply _ => annotations

def desiredMaps (changes : List AnnotationChange) : List StringMap :=
  changes.filterMap (fun change =>
    match change with
    | .edit _ _ => none
    | .apply desired => some desired)

/-- The key is neither the record nor in a desired map. -/
def ThirdPartyKey (desireds : List StringMap) (key : String) : Prop :=
  key ≠ managedAnnotationsKey ∧ ∀ desired ∈ desireds, key ∉ desired

def EditsOwnKeys (desireds : List StringMap) (changes : List AnnotationChange) : Prop :=
  ∀ key value, .edit key value ∈ changes → ThirdPartyKey desireds key

def ThirdPartyMap (desireds : List StringMap) (annotations : StringMap) : Prop :=
  ∀ key ∈ annotations, ThirdPartyKey desireds key

section Sequences

variable {desireds : List StringMap} {start : StringMap} {changes : List AnnotationChange}

theorem ThirdPartyMap.separate {others desired : StringMap} (third : ThirdPartyMap desireds others)
    (isDesired : desired ∈ desireds) : Separate desired others :=
  ⟨fun isRecord => (third _ isRecord).1 rfl,
    fun key isKey isOther => (third key isOther).2 desired isDesired isKey⟩

theorem ThirdPartyMap.edit {others : StringMap} (third : ThirdPartyMap desireds others)
    {key : String} (isOwn : ThirdPartyKey desireds key) (value : Option String) :
    ThirdPartyMap desireds (editedAnnotations others key value) := by
  intro other isOther
  by_cases same : other = key
  · rw [same]
    exact isOwn
  · apply third
    rw [Finmap.mem_iff] at isOther ⊢
    simpa only [lookup_editedAnnotations_of_ne others same] using isOther

/-- An edit of a third-party key concerns the third-party part only. -/
theorem editedAnnotations_bookkept {desired others : StringMap} {key : String}
    (notRecord : key ≠ managedAnnotationsKey) (notDesired : key ∉ desired)
    (noRecord : managedAnnotationsKey ∉ others) (value : Option String) :
    editedAnnotations (bookkept desired others) key value =
      bookkept desired (editedAnnotations others key value) := by
  have stillNoRecord : managedAnnotationsKey ∉ editedAnnotations others key value := by
    rw [← Finmap.lookup_eq_none] at noRecord ⊢
    rw [lookup_editedAnnotations_of_ne _ notRecord.symm]
    exact noRecord
  apply Finmap.ext_lookup
  intro other
  by_cases isRecord : other = managedAnnotationsKey
  · subst isRecord
    rw [lookup_editedAnnotations_of_ne _ notRecord.symm, lookup_bookkept_record noRecord,
      lookup_bookkept_record stillNoRecord]
  · rw [lookup_bookkept isRecord]
    by_cases same : other = key
    · subst same
      rw [lookup_editedAnnotations, lookup_editedAnnotations, Finmap.lookup_eq_none.mpr notDesired,
        Option.none_or]
    · rw [lookup_editedAnnotations_of_ne _ same, lookup_editedAnnotations_of_ne _ same,
        lookup_bookkept isRecord]

def EarlierMap (desireds : List StringMap) (previous : StringMap) : Prop :=
  previous = ∅ ∨ previous ∈ desireds

theorem EarlierMap.separate {previous others : StringMap} (isEarlier : EarlierMap desireds previous)
    (third : ThirdPartyMap desireds others) : Separate previous others := by
  rcases isEarlier with rfl | isDesired
  · exact ⟨fun isRecord => (third _ isRecord).1 rfl,
      fun key isKey => absurd isKey Finmap.notMem_empty⟩
  · exact third.separate isDesired

theorem EarlierMap.recordable {previous : StringMap} (isEarlier : EarlierMap desireds previous)
    (recordable : ∀ desired ∈ desireds, Recordable desired) : Recordable previous := by
  rcases isEarlier with rfl | isDesired
  · exact fun key isKey => absurd isKey Finmap.notMem_empty
  · exact recordable previous isDesired

theorem EarlierMap.notMem {previous : StringMap} (isEarlier : EarlierMap desireds previous)
    {key : String} (isOwn : ThirdPartyKey desireds key) : key ∉ previous := by
  rcases isEarlier with rfl | isDesired
  · exact Finmap.notMem_empty
  · exact isOwn.2 previous isDesired

theorem thirdPartyMap_foldl (ownEdits : EditsOwnKeys desireds changes)
    (third : ThirdPartyMap desireds start) :
    ThirdPartyMap desireds (changes.foldl AnnotationChange.thirdParty start) := by
  induction changes generalizing start with
  | nil => exact third
  | cons change changes ih =>
      have laterEdits : EditsOwnKeys desireds changes := fun key value isEdit =>
        ownEdits key value (List.mem_cons_of_mem _ isEdit)
      apply ih laterEdits
      cases change with
      | edit key value => exact third.edit (ownEdits key value List.mem_cons_self) value
      | apply desired => exact third

/-- After every change the map is the third-party part with one of the desired maps and its
record. -/
theorem foldl_applied_eq_bookkept (recordable : ∀ desired ∈ desireds, Recordable desired)
    (isPart : desiredMaps changes ⊆ desireds) (ownEdits : EditsOwnKeys desireds changes)
    (third : ThirdPartyMap desireds start) :
    ∃ previous, EarlierMap desireds previous ∧
      changes.foldl AnnotationChange.applied start =
        bookkept previous (changes.foldl AnnotationChange.thirdParty start) := by
  induction changes using List.reverseRecOn with
  | nil => exact ⟨∅, Or.inl rfl, (bookkept_empty fun isRecord => (third _ isRecord).1 rfl).symm⟩
  | append_singleton changes change ih =>
      have earlierEdits : EditsOwnKeys desireds changes := fun key value isEdit =>
        ownEdits key value (List.mem_append_left _ isEdit)
      have earlierPart : desiredMaps changes ⊆ desireds := fun desired isDesired =>
        isPart (by simpa [desiredMaps] using Or.inl isDesired)
      obtain ⟨previous, isEarlier, isBookkept⟩ := ih earlierPart earlierEdits
      have thirdBefore := thirdPartyMap_foldl earlierEdits third
      rw [List.foldl_append, List.foldl_append, isBookkept]
      cases change with
      | edit key value =>
          have isOwn := ownEdits key value (List.mem_append_right _ List.mem_cons_self)
          exact ⟨previous, isEarlier, editedAnnotations_bookkept isOwn.1 (isEarlier.notMem isOwn)
            (fun isRecord => (thirdBefore _ isRecord).1 rfl) value⟩
      | apply desired =>
          have isDesired : desired ∈ desireds := isPart (by simp [desiredMaps])
          exact ⟨desired, Or.inr isDesired, reconcileAnnotations_bookkept
            (isEarlier.recordable recordable) (isEarlier.separate thirdBefore)
            (thirdBefore.separate isDesired)⟩

/-- A sequence of desired maps with third-party edits between them ends with the surviving
third-party annotations, the last desired map and its record, and the next call with the
same map changes nothing. -/
theorem applied_eq_bookkept_last (start last : StringMap) (changes : List AnnotationChange)
    (recordable : ∀ desired ∈ last :: desiredMaps changes, Recordable desired)
    (ownEdits : EditsOwnKeys (last :: desiredMaps changes) changes)
    (third : ThirdPartyMap (last :: desiredMaps changes) start) :
    let result := reconcileAnnotations (changes.foldl AnnotationChange.applied start) last
    result = bookkept last (changes.foldl AnnotationChange.thirdParty start) ∧
      reconcileAnnotations result last = result := by
  obtain ⟨previous, isEarlier, isBookkept⟩ :=
    foldl_applied_eq_bookkept recordable (List.subset_cons_self _ _) ownEdits third
  have thirdAfter := thirdPartyMap_foldl ownEdits third
  have fromLast := thirdAfter.separate List.mem_cons_self
  have isResult := reconcileAnnotations_bookkept (isEarlier.recordable recordable)
    (isEarlier.separate thirdAfter) fromLast
  simp only
  rw [isBookkept, isResult]
  exact ⟨rfl, reconcileAnnotations_bookkept (recordable last List.mem_cons_self) fromLast fromLast⟩

end Sequences

/-- The record cannot hold an empty key, so that one stays when it is no longer desired, and it
takes the place of a desired value for its own key. -/
theorem empty_key_stays :
    let changes : List AnnotationChange := [.apply (Finmap.singleton "" "on")]
    let recordDesired : StringMap := (Finmap.singleton "a" "1").insert managedAnnotationsKey "mine"
    ((∀ desired ∈ ∅ :: desiredMaps changes, ∀ key ∈ desired, ',' ∉ key.toList) ∧
      EditsOwnKeys (∅ :: desiredMaps changes) changes ∧
      ThirdPartyMap (∅ :: desiredMaps changes) ∅ ∧
      reconcileAnnotations (changes.foldl AnnotationChange.applied ∅) ∅ ≠
        bookkept ∅ (changes.foldl AnnotationChange.thirdParty ∅)) ∧
    Recordable recordDesired ∧
      (reconcileAnnotations ∅ recordDesired).lookup managedAnnotationsKey = some "a" ∧
      recordDesired.lookup managedAnnotationsKey = some "mine" := by
  refine ⟨⟨?_, ?_, fun key isKey => absurd isKey Finmap.notMem_empty, by decide +kernel⟩,
    ?_, by decide +kernel, by decide +kernel⟩
  · intro desired isDesired key isKey
    simp only [desiredMaps, List.filterMap_cons, List.filterMap_nil, List.mem_cons,
      List.not_mem_nil, or_false] at isDesired
    rcases isDesired with rfl | rfl
    · exact absurd isKey Finmap.notMem_empty
    · rw [Finmap.mem_singleton] at isKey
      rw [isKey]
      decide
  · intro key value isEdit
    simp at isEdit
  · intro key isKey
    rw [Finmap.mem_insert, Finmap.mem_singleton] at isKey
    rcases isKey with rfl | rfl <;> decide

/-- A desired annotation is replaced while a third party adds one of its own. -/
theorem replaced_beside_third_party :
    let changes : List AnnotationChange :=
      [.apply (Finmap.singleton "a" "1"), .edit "other" (some "2")]
    reconcileAnnotations (changes.foldl AnnotationChange.applied ∅) (Finmap.singleton "b" "3") =
      bookkept (Finmap.singleton "b" "3") (Finmap.singleton "other" "2") := by
  refine (applied_eq_bookkept_last ∅ (Finmap.singleton "b" "3")
    [.apply (Finmap.singleton "a" "1"), .edit "other" (some "2")] ?_ ?_ ?_).1
  · intro desired isDesired key isKey
    simp only [desiredMaps, List.filterMap_cons, List.filterMap_nil, List.mem_cons,
      List.not_mem_nil, or_false] at isDesired
    rcases isDesired with rfl | rfl <;>
    · rw [Finmap.mem_singleton] at isKey
      rw [isKey]
      decide
  · intro key value isEdit
    simp only [List.mem_cons, reduceCtorEq, AnnotationChange.edit.injEq, List.not_mem_nil,
      or_false, false_or] at isEdit
    obtain ⟨rfl, rfl⟩ := isEdit
    refine ⟨by decide, fun desired isDesired => ?_⟩
    simp only [desiredMaps, List.filterMap_cons, List.filterMap_nil, List.mem_cons,
      List.not_mem_nil, or_false] at isDesired
    rcases isDesired with rfl | rfl <;>
    · rw [Finmap.mem_singleton]
      decide
  · exact fun key isKey => absurd isKey Finmap.notMem_empty

end KubeLB.Resources
