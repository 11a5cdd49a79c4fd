import KubeLB.Library.Slices

/-!
Contract: a slice of keyed values updated by another one.

Owns: the merge that replaces a value by the new one of its key, keeps values without
a new one and appends the others, and what a merge does to members and keys.

Does not own: which values are merged.
-/

set_option autoImplicit false

namespace KubeLB.Library

universe u

section Merging

variable {α : Type u} {κ : Type} [DecidableEq κ] (key : α → κ)

/-- The loop over the present values. A new value is used up by the first value of its
key. -/
def replacePresent : List α → GoMap κ α → List α × GoMap κ α
  | [], desired => ([], desired)
  | present :: rest, desired =>
      match desired.lookup (key present) with
      | some new =>
          let replaced := replacePresent rest (desired.erase (key present))
          (new :: replaced.1, replaced.2)
      | none =>
          let replaced := replacePresent rest desired
          (present :: replaced.1, replaced.2)

/-- The merged slice. -/
def mergeBy (present desired : List α) : List α :=
  let replaced := replacePresent key present (indexBy key desired)
  replaced.1 ++ desired.filter (fun value => (replaced.2.lookup (key value)).isSome)

/-! ## Members and keys -/

variable {key}

theorem replacePresent_of_nodup {present : List α} (desired : GoMap κ α)
    (distinct : (present.map key).Nodup) :
    (replacePresent key present desired).1 =
        present.map (fun value => (desired.lookup (key value)).getD value) ∧
      ∀ searched, (replacePresent key present desired).2.lookup searched =
        if searched ∈ present.map key then none else desired.lookup searched := by
  induction present generalizing desired with
  | nil => simp [replacePresent]
  | cons value rest ih =>
      rw [List.map_cons, List.nodup_cons] at distinct
      cases found : desired.lookup (key value) with
      | none =>
          obtain ⟨values, left⟩ := ih desired distinct.2
          simp only [replacePresent, found, values, List.map_cons, Option.getD_none, true_and]
          intro searched
          rw [left]
          by_cases same : searched = key value
          · subst same
            simp [found]
          · simp [same]
      | some new =>
          obtain ⟨values, left⟩ := ih (desired.erase (key value)) distinct.2
          simp only [replacePresent, found, values, List.map_cons, Option.getD_some]
          constructor
          · congr 1
            apply List.map_congr_left
            intro other isOther
            have different : key other ≠ key value := by
              intro same
              exact distinct.1 (same ▸ List.mem_map_of_mem isOther)
            rw [Finmap.lookup_erase_ne different]
          · intro searched
            rw [left]
            by_cases same : searched = key value
            · subst same
              simp
            · simp [same, Finmap.lookup_erase_ne same]

theorem map_key_mergeBy {present desired : List α} (distinct : (present.map key).Nodup) :
    (mergeBy key present desired).map key =
      present.map key ++ (desired.map key).filter (fun searched => searched ∉ present.map key) := by
  obtain ⟨values, left⟩ := replacePresent_of_nodup (indexBy key desired) distinct
  rw [mergeBy, List.map_append, values, List.map_map, List.filter_map]
  congr 1
  · apply List.map_congr_left
    intro value _
    cases found : (indexBy key desired).lookup (key value) with
    | none => simp [found]
    | some new => simpa [found] using (mem_of_lookup_indexBy key found).2
  · congr 1
    apply List.filter_congr
    intro value isDesired
    obtain ⟨last, found⟩ := exists_lookup_indexBy key isDesired
    rw [left, Function.comp_apply]
    by_cases isPresent : key value ∈ present.map key
    · simp only [isPresent, if_true, Option.isSome_none, not_true_eq_false, decide_false]
    · simp only [isPresent, if_false, found, Option.isSome_some, not_false_eq_true, decide_true]

theorem nodup_map_key_mergeBy {present desired : List α} (distinct : (present.map key).Nodup)
    (desiredDistinct : (desired.map key).Nodup) :
    ((mergeBy key present desired).map key).Nodup := by
  rw [map_key_mergeBy distinct]
  refine List.Nodup.append distinct (desiredDistinct.filter _) ?_
  intro searched isPresent isNew
  exact (of_decide_eq_true (List.mem_filter.mp isNew).2) isPresent

/-- With distinct keys a merge has the new values and the other ones without a new
value. -/
theorem mem_mergeBy {present desired : List α} (distinct : (present.map key).Nodup)
    (desiredDistinct : (desired.map key).Nodup) {value : α} :
    value ∈ mergeBy key present desired ↔
      value ∈ desired ∨ value ∈ present ∧ key value ∉ desired.map key := by
  obtain ⟨values, left⟩ := replacePresent_of_nodup (indexBy key desired) distinct
  have found_iff {searched : κ} {new : α} :
      (indexBy key desired).lookup searched = some new ↔ new ∈ desired ∧ key new = searched := by
    refine ⟨mem_of_lookup_indexBy key, ?_⟩
    rintro ⟨isDesired, rfl⟩
    exact lookup_indexBy_of_nodup key desiredDistinct isDesired
  rw [mergeBy, List.mem_append, values, List.mem_map, List.mem_filter, left]
  constructor
  · rintro (⟨other, isPresent, rfl⟩ | ⟨isDesired, -⟩)
    · cases found : (indexBy key desired).lookup (key other) with
      | none =>
          refine Or.inr ⟨isPresent, ?_⟩
          intro isKey
          obtain ⟨new, isNew, sameKey⟩ := List.mem_map.mp isKey
          rw [Option.getD_none] at sameKey
          rw [found_iff.mpr ⟨isNew, sameKey⟩] at found
          cases found
      | some new => exact Or.inl (found_iff.mp found).1
    · exact Or.inl isDesired
  · rintro (isDesired | ⟨isPresent, noKey⟩)
    · by_cases isKey : key value ∈ present.map key
      · obtain ⟨other, isPresent, sameKey⟩ := List.mem_map.mp isKey
        refine Or.inl ⟨other, isPresent, ?_⟩
        rw [found_iff.mpr ⟨isDesired, sameKey.symm⟩, Option.getD_some]
      · refine Or.inr ⟨isDesired, ?_⟩
        rw [if_neg isKey, found_iff.mpr ⟨isDesired, rfl⟩]
        rfl
    · refine Or.inl ⟨value, isPresent, ?_⟩
      cases found : (indexBy key desired).lookup (key value) with
      | none => rfl
      | some new =>
          obtain ⟨isDesired, sameKey⟩ := found_iff.mp found
          exact absurd (sameKey ▸ List.mem_map_of_mem isDesired) noKey

/-- A merge changes nothing exactly if all new values are present. -/
theorem mergeBy_eq_left_iff {present desired : List α} (distinct : (present.map key).Nodup)
    (desiredDistinct : (desired.map key).Nodup) :
    mergeBy key present desired = present ↔ ∀ value ∈ desired, value ∈ present := by
  constructor
  · intro same value isDesired
    rw [← same]
    exact (mem_mergeBy distinct desiredDistinct).mpr (Or.inl isDesired)
  · intro allPresent
    obtain ⟨values, left⟩ := replacePresent_of_nodup (indexBy key desired) distinct
    have replaced :
        present.map (fun value => ((indexBy key desired).lookup (key value)).getD value) =
          present := by
      refine (List.map_congr_left ?_).trans (List.map_id present)
      intro value isPresent
      cases found : (indexBy key desired).lookup (key value) with
      | none => rfl
      | some new =>
          obtain ⟨isDesired, sameKey⟩ := mem_of_lookup_indexBy key found
          exact List.inj_on_of_nodup_map distinct (allPresent new isDesired) isPresent sameKey
    have nothingNew : desired.filter (fun value =>
        ((replacePresent key present (indexBy key desired)).2.lookup (key value)).isSome) = [] := by
      rw [List.filter_eq_nil_iff]
      intro value isDesired
      rw [left, if_pos (List.mem_map_of_mem (allPresent value isDesired))]
      exact Bool.false_ne_true
    rw [mergeBy, values, replaced, nothingNew, List.append_nil]

/-- A second merge of the same values changes nothing. -/
theorem mergeBy_idempotent {present desired : List α} (distinct : (present.map key).Nodup)
    (desiredDistinct : (desired.map key).Nodup) :
    mergeBy key (mergeBy key present desired) desired = mergeBy key present desired := by
  rw [mergeBy_eq_left_iff (nodup_map_key_mergeBy distinct desiredDistinct) desiredDistinct]
  intro value isDesired
  exact (mem_mergeBy distinct desiredDistinct).mpr (Or.inl isDesired)

end Merging

/-! ## Merges of fewer fields -/

section Projections

variable {α β : Type u} {κ : Type} [DecidableEq κ] {key : α → κ} {projectedKey : β → κ}
  {project : α → β} (sameKey : ∀ value, projectedKey (project value) = key value)

include sameKey

theorem indexBy_map (values : List α) :
    indexBy projectedKey (values.map project) = (indexBy key values).mapValues project := by
  refine Finmap.ext_lookup (fun searched => ?_)
  rw [lookup_indexBy, GoMap.lookup_mapValues, lookup_indexBy, List.filter_map, List.getLast?_map]
  simp only [Function.comp_def, sameKey]

theorem lookup_mapValues_projected (desired : GoMap κ α) (value : α) :
    (desired.mapValues project).lookup (projectedKey (project value)) =
      (desired.lookup (key value)).map project := by
  rw [sameKey, GoMap.lookup_mapValues]

theorem erase_mapValues_projected (desired : GoMap κ α) (value : α) :
    (desired.mapValues project).erase (projectedKey (project value)) =
      GoMap.mapValues project (desired.erase (key value)) := by
  rw [sameKey]
  refine Finmap.ext_lookup (fun searched => ?_)
  by_cases same : searched = key value
  · rw [same, Finmap.lookup_erase, GoMap.lookup_mapValues, Finmap.lookup_erase, Option.map_none]
  · rw [Finmap.lookup_erase_ne same, GoMap.lookup_mapValues, GoMap.lookup_mapValues,
      Finmap.lookup_erase_ne same]

theorem replacePresent_map (present : List α) (desired : GoMap κ α) :
    replacePresent projectedKey (present.map project) (desired.mapValues project) =
      ((replacePresent key present desired).1.map project,
        (replacePresent key present desired).2.mapValues project) := by
  induction present generalizing desired with
  | nil => rfl
  | cons value rest ih =>
      rw [List.map_cons, replacePresent, replacePresent, lookup_mapValues_projected sameKey,
        erase_mapValues_projected sameKey]
      cases desired.lookup (key value) with
      | none => simp only [Option.map_none, ih, List.map_cons]
      | some new => simp only [Option.map_some, ih, List.map_cons]

/-- A merge can be made before or after fields other than the key are dropped. -/
theorem map_mergeBy (present desired : List α) :
    (mergeBy key present desired).map project =
      mergeBy projectedKey (present.map project) (desired.map project) := by
  simp only [mergeBy, indexBy_map sameKey, replacePresent_map sameKey, List.map_append,
    List.filter_map, Function.comp_def, lookup_mapValues_projected sameKey, Option.isSome_map]

end Projections

/-! ## Collections that several writers share -/

section Shared

variable {α : Type u} {κ : Type} (key : α → κ)

/-- A merge up to the order of its values. -/
structure IsMerge (present desired merged : List α) : Prop where
  distinct : (merged.map key).Nodup
  mem_iff : ∀ value, value ∈ merged ↔
    value ∈ desired ∨ value ∈ present ∧ key value ∉ desired.map key

theorem isMerge_mergeBy [DecidableEq κ] {present desired : List α}
    (distinct : (present.map key).Nodup)
    (desiredDistinct : (desired.map key).Nodup) :
    IsMerge key present desired (mergeBy key present desired) where
  distinct := nodup_map_key_mergeBy distinct desiredDistinct
  mem_iff _ := mem_mergeBy distinct desiredDistinct

theorem isMerge_nil {desired : List α} (desiredDistinct : (desired.map key).Nodup) :
    IsMerge key [] desired desired where
  distinct := desiredDistinct
  mem_iff value := by simp

/-- The values have keys of their own, were all requested, and have every requested
key. -/
structure Collected (requested : Set α) (values : List α) : Prop where
  distinct : (values.map key).Nodup
  origin : ∀ value ∈ values, value ∈ requested
  complete : ∀ value ∈ requested, key value ∈ values.map key

variable {key}

theorem Collected.merge {requested : Set α} {present desired merged : List α}
    (collected : Collected key requested present) (isMerge : IsMerge key present desired merged) :
    Collected key ({ value | value ∈ desired } ∪ requested) merged where
  distinct := isMerge.distinct
  origin value isValue := by
    rcases (isMerge.mem_iff value).mp isValue with isDesired | ⟨isPresent, -⟩
    · exact Or.inl isDesired
    · exact Or.inr (collected.origin value isPresent)
  complete value isRequested := by
    rcases isRequested with isDesired | isRequested
    · exact List.mem_map_of_mem ((isMerge.mem_iff value).mpr (Or.inl isDesired))
    · obtain ⟨present, isPresent, sameKey⟩ := List.mem_map.mp (collected.complete value isRequested)
      rw [← sameKey]
      by_cases isReplaced : key present ∈ desired.map key
      · obtain ⟨new, isNew, newKey⟩ := List.mem_map.mp isReplaced
        rw [← newKey]
        exact List.mem_map_of_mem ((isMerge.mem_iff new).mpr (Or.inl isNew))
      · exact List.mem_map_of_mem ((isMerge.mem_iff present).mpr (Or.inr ⟨isPresent, isReplaced⟩))

/-- The value of a requested key is the only one. -/
theorem Collected.existsUnique {requested : Set α} {values : List α}
    (collected : Collected key requested values) {value : α} (isRequested : value ∈ requested) :
    ∃! found, found ∈ values ∧ key found = key value := by
  obtain ⟨found, isFound, sameKey⟩ := List.mem_map.mp (collected.complete value isRequested)
  refine ⟨found, ⟨isFound, sameKey⟩, ?_⟩
  rintro other ⟨isOther, otherKey⟩
  exact List.inj_on_of_nodup_map collected.distinct isOther isFound (otherKey.trans sameKey.symm)

/-- Without conflicts the values are those requested, in whatever order. -/
theorem Collected.mem_iff {requested : Set α} {values : List α}
    (collected : Collected key requested values) (agree : Set.InjOn key requested) {value : α} :
    value ∈ values ↔ value ∈ requested := by
  refine ⟨collected.origin value, fun isRequested => ?_⟩
  obtain ⟨found, isFound, sameKey⟩ := List.mem_map.mp (collected.complete value isRequested)
  rwa [← agree (collected.origin found isFound) isRequested sameKey]

end Shared

end KubeLB.Library
