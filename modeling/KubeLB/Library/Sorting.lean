import Mathlib.Data.List.Sort

/-!
Contract: sorting a slice by a comparison that orders the values at hand.

Owns: `sort.Slice`, of whose result only the laws are known, and that the sorted slice is
determined when the comparison leaves no two values of it unordered.

Does not own: comparisons. They need to order the values of the slice only.
-/

set_option autoImplicit false

namespace KubeLB.Library

/-- A strict weak order on the values of a slice, which is what `sort.Slice` asks for. -/
structure StrictWeakOn {α : Type} (less : α → α → Bool) (values : List α) : Prop where
  asymm : ∀ left ∈ values, ∀ right ∈ values, less left right = true → less right left = false
  negTrans : ∀ first ∈ values, ∀ second ∈ values, ∀ third ∈ values,
    less first second = false → less second third = false → less first third = false

/-- `sort.Slice`. Only the two laws are known of the result, so a statement for every
`SortSlice` holds for an unstable sort. -/
structure SortSlice where
  run : {α : Type} → (α → α → Bool) → List α → List α
  perm : ∀ {α : Type} (less : α → α → Bool) (values : List α), (run less values).Perm values
  ordered : ∀ {α : Type} (less : α → α → Bool) (values : List α), StrictWeakOn less values →
    (run less values).Pairwise (fun left right => less right left = false)

/-- A sort that keeps values in order that the comparison leaves unordered. -/
def SortSlice.stable : SortSlice where
  run less values :=
    (values.attach.insertionSort (fun left right => less right.1 left.1 = false)).map Subtype.val
  perm less values := by
    have permuted := (List.perm_insertionSort
      (fun left right : { value // value ∈ values } => less right.1 left.1 = false)
      values.attach).map Subtype.val
    rwa [List.attach_map_subtype_val] at permuted
  ordered less values orders := by
    -- the comparison is total and transitive on the values of the slice
    have total : Std.Total
        (fun left right : { value // value ∈ values } => less right.1 left.1 = false) := by
      refine ⟨fun left right => ?_⟩
      cases isLess : less right.1 left.1 with
      | false => exact Or.inl rfl
      | true => exact Or.inr (orders.asymm _ right.2 _ left.2 isLess)
    have transitive : IsTrans { value // value ∈ values }
        (fun left right => less right.1 left.1 = false) :=
      ⟨fun first second third firstSecond secondThird =>
        orders.negTrans _ third.2 _ second.2 _ first.2 secondThird firstSecond⟩
    rw [List.pairwise_map]
    exact List.pairwise_insertionSort _ _

section Determined

variable {α : Type} {less : α → α → Bool} {values : List α}

/-- The comparison leaves no two values of the slice unordered. -/
structure StrictTotalOn (less : α → α → Bool) (values : List α) : Prop
    extends StrictWeakOn less values where
  connected : ∀ left ∈ values, ∀ right ∈ values,
    less left right = false → less right left = false → left = right

theorem StrictTotalOn.of_key {κ : Type} [LinearOrder κ] (key : α → κ)
    (compares : ∀ left ∈ values, ∀ right ∈ values,
      less left right = decide (key left < key right))
    (tells : ∀ left ∈ values, ∀ right ∈ values, key left = key right → left = right) :
    StrictTotalOn less values where
  asymm left isLeft right isRight isLess := by
    rw [compares left isLeft right isRight, decide_eq_true_eq] at isLess
    rw [compares right isRight left isLeft, decide_eq_false_iff_not]
    exact lt_asymm isLess
  negTrans first isFirst second isSecond third isThird notFirst notSecond := by
    rw [compares first isFirst second isSecond, decide_eq_false_iff_not, not_lt] at notFirst
    rw [compares second isSecond third isThird, decide_eq_false_iff_not, not_lt] at notSecond
    rw [compares first isFirst third isThird, decide_eq_false_iff_not, not_lt]
    exact le_trans notSecond notFirst
  connected left isLeft right isRight notLess notGreater := by
    rw [compares left isLeft right isRight, decide_eq_false_iff_not, not_lt] at notLess
    rw [compares right isRight left isLeft, decide_eq_false_iff_not, not_lt] at notGreater
    exact tells left isLeft right isRight (le_antisymm notGreater notLess)

/-- Two sorts of two orders of the values give one slice. -/
theorem SortSlice.run_eq_of_perm (sort sort' : SortSlice) {values' : List α}
    (permuted : values.Perm values') (orders : StrictTotalOn less values) :
    sort.run less values = sort'.run less values' := by
  have orders' : StrictWeakOn less values' :=
    ⟨fun left isLeft right isRight => orders.asymm _ (permuted.mem_iff.mpr isLeft) _
        (permuted.mem_iff.mpr isRight),
      fun first isFirst second isSecond third isThird =>
        orders.negTrans _ (permuted.mem_iff.mpr isFirst) _ (permuted.mem_iff.mpr isSecond) _
          (permuted.mem_iff.mpr isThird)⟩
  refine List.Perm.eq_of_pairwise ?_ (sort.ordered less values orders.toStrictWeakOn)
    (sort'.ordered less values' orders') ?_
  · intro left right isLeft isRight notGreater notLess
    exact orders.connected _ ((sort.perm less values).mem_iff.mp isLeft) _
      (permuted.mem_iff.mpr ((sort'.perm less values').mem_iff.mp isRight)) notLess notGreater
  · exact (sort.perm less values).trans (permuted.trans (sort'.perm less values').symm)

theorem SortSlice.pairwise_less (sort : SortSlice) (orders : StrictTotalOn less values)
    (distinct : values.Nodup) : (sort.run less values).Pairwise (fun left right =>
      less left right = true) := by
  have sortedDistinct : (sort.run less values).Nodup :=
    (sort.perm less values).nodup_iff.mpr distinct
  have isValue {value : α} (isSorted : value ∈ sort.run less values) : value ∈ values :=
    (sort.perm less values).mem_iff.mp isSorted
  refine ((sort.ordered less values orders.toStrictWeakOn).and sortedDistinct).imp_of_mem ?_
  rintro left right isLeft isRight ⟨notGreater, different⟩
  by_contra notLess
  exact different (orders.connected _ (isValue isLeft) _ (isValue isRight)
    (Bool.eq_false_of_not_eq_true notLess) notGreater)

end Determined

end KubeLB.Library
