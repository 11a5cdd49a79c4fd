import Mathlib.Data.Finmap
import Mathlib.Data.List.Sort
import Mathlib.Data.Finset.Lattice.Fold
import Mathlib.Data.Finset.Sort
import Mathlib.Order.Lattice

/-!
Contract: Go's built-in `map` as a finite map without an order.

Owns: reads, writes and deletes through Mathlib's `Finmap`, the deletion of
every key a loop rejects, the sorted key slice that `sort.Strings` makes of the
keys, the set of stored values, and the entries in a given iteration order.

Does not own: the choice of the iteration order. A result that depends on it is
stated for every order by its caller.
-/

set_option autoImplicit false

namespace KubeLB.Library

universe u v

/-- A Go map. Equality is extensional, so no definition can observe the
iteration order. -/
abbrev GoMap (κ : Type u) (ν : Type v) := Finmap (fun _ : κ => ν)

namespace GoMap

variable {κ : Type u} {ν : Type v}

/-- Delete every key that `keep` rejects. -/
def retain (keep : κ → Bool) (m : GoMap κ ν) : GoMap κ ν where
  entries := m.entries.filter (fun entry => keep entry.1)
  nodupKeys := by
    have keysLe : (m.entries.filter (fun entry => keep entry.1)).keys ≤ m.entries.keys :=
      Multiset.map_le_map (Multiset.filter_le _ _)
    exact Multiset.nodup_keys.mp
      (Multiset.nodup_of_le keysLe (Multiset.nodup_keys.mpr m.nodupKeys))

def mapValues {μ : Type*} (change : ν → μ) (m : GoMap κ ν) : GoMap κ μ where
  entries := m.entries.map (fun entry => ⟨entry.1, change entry.2⟩)
  nodupKeys := by
    have sameKeys : (m.entries.map (fun entry => (⟨entry.1, change entry.2⟩ : Σ _ : κ, μ))).keys =
        m.entries.keys := by
      simp [Multiset.keys]
    rw [← Multiset.nodup_keys, sameKeys]
    exact Multiset.nodup_keys.mpr m.nodupKeys

section Decidable

variable [DecidableEq κ]

theorem lookup_mapValues {μ : Type*} (change : ν → μ) (m : GoMap κ ν) (key : κ) :
    (mapValues change m).lookup key = (m.lookup key).map change := by
  ext value
  rw [Finmap.lookup_eq_some_iff, Option.map_eq_some_iff]
  simp only [mapValues, Multiset.mem_map, Finmap.lookup_eq_some_iff]
  constructor
  · rintro ⟨⟨other, stored⟩, isEntry, same⟩
    cases same
    exact ⟨stored, isEntry, rfl⟩
  · rintro ⟨stored, isEntry, rfl⟩
    exact ⟨⟨key, stored⟩, isEntry, rfl⟩

theorem lookup_retain (keep : κ → Bool) (m : GoMap κ ν) (key : κ) :
    (retain keep m).lookup key = if keep key then m.lookup key else none := by
  ext value
  rw [Finmap.lookup_eq_some_iff]
  simp only [retain, Multiset.mem_filter]
  by_cases kept : keep key
  · simp [kept, Finmap.lookup_eq_some_iff]
  · simp [kept]

theorem retain_eq_self_iff {keep : κ → Bool} {m : GoMap κ ν} :
    m.retain keep = m ↔ ∀ key, (m.lookup key).isSome → keep key = true := by
  constructor
  · intro same key isKey
    by_contra dropped
    have absent := lookup_retain keep m key
    rw [same, if_neg dropped] at absent
    rw [absent] at isKey
    cases isKey
  · intro keepsAll
    refine Finmap.ext_lookup (fun key => ?_)
    rw [lookup_retain]
    split
    · rfl
    · next dropped =>
        cases isValue : m.lookup key with
        | none => rfl
        | some value => exact absurd (keepsAll key (by rw [isValue]; rfl)) dropped

theorem lookup_union (left right : GoMap κ ν) (key : κ) :
    (left ∪ right).lookup key = (left.lookup key).or (right.lookup key) := by
  by_cases isLeft : key ∈ left
  · obtain ⟨value, found⟩ := Finmap.mem_iff.mp isLeft
    rw [Finmap.lookup_union_left isLeft, found, Option.some_or]
  · rw [Finmap.lookup_union_right isLeft, Finmap.lookup_eq_none.mpr isLeft, Option.none_or]

theorem erase_eq_erase_iff {m m' : GoMap κ ν} {erased : κ} :
    m.erase erased = m'.erase erased ↔ ∀ key, key ≠ erased → m.lookup key = m'.lookup key := by
  constructor
  · intro same key isOther
    rw [← Finmap.lookup_erase_ne isOther, same, Finmap.lookup_erase_ne isOther]
  · intro same
    apply Finmap.ext_lookup
    intro key
    by_cases isErased : key = erased
    · rw [isErased, Finmap.lookup_erase, Finmap.lookup_erase]
    · rw [Finmap.lookup_erase_ne isErased, Finmap.lookup_erase_ne isErased, same key isErased]

def eraseAll (m : GoMap κ ν) (keys : List κ) : GoMap κ ν :=
  keys.foldl (fun current key => current.erase key) m

theorem lookup_eraseAll (m : GoMap κ ν) (keys : List κ) (key : κ) :
    (eraseAll m keys).lookup key = if key ∈ keys then none else m.lookup key := by
  induction keys generalizing m with
  | nil => simp [eraseAll]
  | cons head tail ih =>
      have unfolded : eraseAll m (head :: tail) = eraseAll (m.erase head) tail := rfl
      rw [unfolded, ih]
      by_cases isHead : key = head
      · subst isHead
        simp
      · simp [isHead, Finmap.lookup_erase_ne isHead]

def valueSet [DecidableEq ν] (m : GoMap κ ν) : Finset ν :=
  (m.entries.map Sigma.snd).toFinset

theorem mem_valueSet [DecidableEq ν] (m : GoMap κ ν) (value : ν) :
    value ∈ valueSet m ↔ ∃ key, m.lookup key = some value := by
  simp only [valueSet, Multiset.mem_toFinset, Multiset.mem_map]
  constructor
  · rintro ⟨⟨key, stored⟩, member, rfl⟩
    exact ⟨key, Finmap.lookup_eq_some_iff.mpr member⟩
  · rintro ⟨key, found⟩
    exact ⟨⟨key, value⟩, Finmap.lookup_eq_some_iff.mp found, rfl⟩

/-- The entries in the order in which a `range` loop visits them. An order that is
no enumeration of the keys stands for no execution. -/
def rangeIn (m : GoMap κ ν) (order : List κ) : Option (List (κ × ν)) :=
  if order.Nodup ∧ order.toFinset = m.keys then
    some (order.filterMap (fun key => (m.lookup key).map (fun value => (key, value))))
  else none

theorem mem_rangeIn {m : GoMap κ ν} {order : List κ} {entries : List (κ × ν)}
    (ranged : m.rangeIn order = some entries) (key : κ) (value : ν) :
    (key, value) ∈ entries ↔ m.lookup key = some value := by
  unfold rangeIn at ranged
  split at ranged
  · rename_i enumerates
    cases ranged
    simp only [List.mem_filterMap, Option.map_eq_some_iff, Prod.mk.injEq]
    constructor
    · rintro ⟨visited, -, stored, found, rfl, rfl⟩
      exact found
    · intro found
      have isKey : key ∈ m.keys := Finmap.mem_keys.mpr (Finmap.mem_of_lookup_eq_some found)
      rw [← enumerates.2, List.mem_toFinset] at isKey
      exact ⟨key, isKey, value, found, rfl, rfl⟩
  · cases ranged

/-- How the `range` loops of a run enumerate keys. -/
structure RangeOrder (κ : Type u) [DecidableEq κ] where
  visit : Finset κ → List κ
  nodup_visit : ∀ keys, (visit keys).Nodup
  mem_visit : ∀ {keys key}, key ∈ visit keys ↔ key ∈ keys

/-- The order of the images of the keys under an encoding. -/
def RangeOrder.encoded {τ : Type*} [DecidableEq τ] (order : RangeOrder τ) (encode : κ → τ)
    (decode : τ → κ) (decode_encode : ∀ key, decode (encode key) = key) : RangeOrder κ where
  visit keys := (order.visit (keys.image encode)).map decode
  nodup_visit keys := by
    refine List.Nodup.map_on ?_ (order.nodup_visit _)
    intro first isFirst second isSecond same
    obtain ⟨key, -, rfl⟩ := Finset.mem_image.mp (order.mem_visit.mp isFirst)
    obtain ⟨other, -, rfl⟩ := Finset.mem_image.mp (order.mem_visit.mp isSecond)
    rw [decode_encode, decode_encode] at same
    rw [same]
  mem_visit := by
    intro keys key
    simp only [List.mem_map, order.mem_visit, Finset.mem_image, exists_exists_and_eq_and,
      decode_encode, exists_eq_right]

def rangeBy (m : GoMap κ ν) (order : RangeOrder κ) : List (κ × ν) :=
  (order.visit m.keys).filterMap (fun key => (m.lookup key).map (fun value => (key, value)))

theorem mem_rangeBy {m : GoMap κ ν} {order : RangeOrder κ} {key : κ} {value : ν} :
    (key, value) ∈ m.rangeBy order ↔ m.lookup key = some value := by
  simp only [rangeBy, List.mem_filterMap, Option.map_eq_some_iff, Prod.mk.injEq, order.mem_visit]
  constructor
  · rintro ⟨visited, -, stored, found, rfl, rfl⟩
    exact found
  · intro found
    exact ⟨key, Finmap.mem_keys.mpr (Finmap.mem_of_lookup_eq_some found), value, found, rfl, rfl⟩

theorem nodup_keys_rangeBy (m : GoMap κ ν) (order : RangeOrder κ) :
    ((m.rangeBy order).map Prod.fst).Nodup := by
  have visited : (m.rangeBy order).map Prod.fst =
      (order.visit m.keys).filterMap (fun key => (m.lookup key).map (fun _ => key)) := by
    simp only [rangeBy, List.map_filterMap, Option.map_map]
    rfl
  rw [visited]
  refine (order.nodup_visit m.keys).filterMap ?_
  intro first second key isFirst isSecond
  obtain ⟨-, -, rfl⟩ := Option.map_eq_some_iff.mp isFirst
  obtain ⟨-, -, rfl⟩ := Option.map_eq_some_iff.mp isSecond
  rfl

theorem perm_rangeBy (m : GoMap κ ν) (order other : RangeOrder κ) :
    (m.rangeBy order).Perm (m.rangeBy other) := by
  have nodupEntries (visited : RangeOrder κ) : (m.rangeBy visited).Nodup :=
    (nodup_keys_rangeBy m visited).of_map
  refine (List.perm_ext_iff_of_nodup (nodupEntries order) (nodupEntries other)).mpr ?_
  rintro ⟨key, value⟩
  rw [mem_rangeBy, mem_rangeBy]

def insertAll (m : GoMap κ ν) (pairs : List (κ × ν)) : GoMap κ ν :=
  pairs.foldl (fun current pair => current.insert pair.1 pair.2) m

/-- The last pair of a key wins. -/
theorem lookup_insertAll (m : GoMap κ ν) (pairs : List (κ × ν)) (key : κ) :
    (m.insertAll pairs).lookup key =
      (((pairs.filter (fun pair => pair.1 = key)).getLast?).map Prod.snd).or (m.lookup key) := by
  induction pairs using List.reverseRecOn with
  | nil => rfl
  | append_singleton pairs pair ih =>
      rw [insertAll, List.foldl_append, List.filter_append]
      by_cases isKey : pair.1 = key
      · subst isKey
        simp
      · have different : key ≠ pair.1 := fun same => isKey same.symm
        simp only [List.foldl_cons, List.foldl_nil, Finmap.lookup_insert_of_ne _ different,
          isKey, decide_false, Bool.false_eq_true, not_false_eq_true, List.filter_cons_of_neg,
          List.filter_nil, List.append_nil]
        exact ih

theorem insertAll_append (m : GoMap κ ν) (pairs more : List (κ × ν)) :
    m.insertAll (pairs ++ more) = insertAll (m.insertAll pairs) more :=
  List.foldl_append

/-- The pairs of a `range` loop make the map again. -/
theorem insertAll_rangeBy (m : GoMap κ ν) (order : RangeOrder κ) :
    insertAll ∅ (m.rangeBy order) = m := by
  refine Finmap.ext_lookup (fun key => ?_)
  rw [lookup_insertAll, Finmap.lookup_empty, Option.or_none]
  have distinct := (nodup_keys_rangeBy m order)
  cases found : m.lookup key with
  | none =>
      have noPair : (m.rangeBy order).filter (fun pair => pair.1 = key) = [] := by
        rw [List.filter_eq_nil_iff]
        rintro ⟨other, value⟩ isPair
        rw [decide_eq_true_eq]
        rintro rfl
        rw [mem_rangeBy, found] at isPair
        cases isPair
      rw [noPair]
      rfl
  | some value =>
      have isPair : (key, value) ∈ (m.rangeBy order).filter (fun pair => pair.1 = key) :=
        List.mem_filter.mpr ⟨mem_rangeBy.mpr found, decide_eq_true rfl⟩
      obtain ⟨last, isLast⟩ := Option.ne_none_iff_exists'.mp
        (fun none => List.ne_nil_of_mem isPair (List.getLast?_eq_none_iff.mp none))
      obtain ⟨isEntry, sameKey⟩ := List.mem_filter.mp (List.mem_of_getLast? isLast)
      have same : last = (key, value) :=
        List.inj_on_of_nodup_map distinct isEntry (mem_rangeBy.mpr found)
          (of_decide_eq_true sameKey)
      rw [isLast, same]
      rfl

end Decidable

section Sorted

variable [LinearOrder κ]

/-- The run that visits keys in their order. -/
def RangeOrder.sorted (κ : Type u) [LinearOrder κ] : RangeOrder κ where
  visit keys := keys.sort
  nodup_visit keys := keys.sort_nodup _
  mem_visit := Finset.mem_sort _

theorem insertionSort_eq_of_perm {left right : List κ} (permuted : left.Perm right) :
    left.insertionSort (· ≤ ·) = right.insertionSort (· ≤ ·) := by
  refine List.Perm.eq_of_pairwise ?_ (List.pairwise_insertionSort _ _)
    (List.pairwise_insertionSort _ _) ?_
  · intro first second _ _ firstLe secondLe
    exact le_antisymm firstLe secondLe
  · exact (List.perm_insertionSort _ left).trans
      (permuted.trans (List.perm_insertionSort _ right).symm)

/-- The keys, collected into a slice and sorted. -/
def sortedKeys (m : GoMap κ ν) : List κ :=
  Quot.liftOn m.entries.keys (fun keys => keys.insertionSort (· ≤ ·))
    (fun _ _ permuted => insertionSort_eq_of_perm permuted)

/-- The run that visits keys in their order, by a sort that can be evaluated. -/
def RangeOrder.increasing (κ : Type u) [LinearOrder κ] : RangeOrder κ where
  visit keys := Quot.liftOn keys.val (fun keys => keys.insertionSort (· ≤ ·))
    (fun _ _ permuted => insertionSort_eq_of_perm permuted)
  nodup_visit keys := by
    obtain ⟨⟨keys⟩, distinct⟩ := keys
    exact (List.perm_insertionSort _ keys).nodup_iff.mpr distinct
  mem_visit := by
    rintro ⟨⟨keys⟩, distinct⟩ key
    exact (List.perm_insertionSort _ keys).mem_iff

theorem coe_sortedKeys (m : GoMap κ ν) :
    (sortedKeys m : Multiset κ) = m.entries.keys := by
  unfold sortedKeys
  generalize m.entries.keys = keys
  induction keys using Quotient.inductionOn with
  | h keys => exact Quotient.sound (List.perm_insertionSort _ keys)

theorem mem_sortedKeys (m : GoMap κ ν) (key : κ) :
    key ∈ sortedKeys m ↔ ∃ value, m.lookup key = some value := by
  rw [← Multiset.mem_coe, coe_sortedKeys, ← Finmap.mem_def, Finmap.mem_iff]

theorem nodup_sortedKeys (m : GoMap κ ν) : (sortedKeys m).Nodup := by
  rw [← Multiset.coe_nodup, coe_sortedKeys]
  exact Multiset.nodup_keys.mpr m.nodupKeys

theorem pairwise_sortedKeys (m : GoMap κ ν) :
    (sortedKeys m).Pairwise (· < ·) := by
  have ordered : (sortedKeys m).Pairwise (· ≤ ·) := by
    unfold sortedKeys
    generalize m.entries.keys = keys
    induction keys using Quotient.inductionOn with
    | h keys => exact List.pairwise_insertionSort _ keys
  exact (ordered.and (nodup_sortedKeys m)).imp
    (fun both => lt_of_le_of_ne both.1 both.2)

/-- The keys that a `range` loop collects into a slice, sorted. -/
def collectSorted (m : GoMap κ ν) (order : RangeOrder κ) : List κ :=
  (order.visit m.keys).insertionSort (· ≤ ·)

theorem collectSorted_eq_sortedKeys (m : GoMap κ ν) (order : RangeOrder κ) :
    m.collectSorted order = sortedKeys m := by
  have sameKeys : (m.collectSorted order).Perm (sortedKeys m) := by
    refine (List.perm_insertionSort _ _).trans ?_
    refine (List.perm_ext_iff_of_nodup (order.nodup_visit _) (nodup_sortedKeys m)).mpr ?_
    intro key
    rw [order.mem_visit, Finmap.mem_keys, Finmap.mem_iff, mem_sortedKeys]
  refine sameKeys.eq_of_pairwise ?_ (List.pairwise_insertionSort _ _)
    ((pairwise_sortedKeys m).imp le_of_lt)
  intro first second _ _ firstLe secondLe
  exact le_antisymm firstLe secondLe

/-- Sorted keys depend on the key set alone. -/
theorem sortedKeys_eq_of_isSome {μ : Type*} {m : GoMap κ ν} {m' : GoMap κ μ}
    (sameKeys : ∀ key, (m.lookup key).isSome ↔ (m'.lookup key).isSome) :
    sortedKeys m = sortedKeys m' := by
  refine List.Perm.eq_of_pairwise ?_ (pairwise_sortedKeys m)
    (pairwise_sortedKeys m') ?_
  · intro first second _ _ less greater
    exact absurd greater (lt_asymm less)
  · refine (List.perm_ext_iff_of_nodup (nodup_sortedKeys m) (nodup_sortedKeys m')).mpr ?_
    intro key
    rw [mem_sortedKeys, mem_sortedKeys, ← Option.isSome_iff_exists, ← Option.isSome_iff_exists]
    exact sameKeys key

end Sorted

end GoMap

end KubeLB.Library
