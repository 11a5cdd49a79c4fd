import KubeLB.Library.GoMap
import Mathlib.Data.List.Find

/-!
Contract: what Go programs do with slices of keyed values.

Owns: `sort.Slice` with a key, which may order equal keys in any way; the loop
that keeps the first value of each key; the index of a slice by key, in which
the last value wins; and when the results do not depend on the order of the
slice.

Does not own: the keys.
-/

set_option autoImplicit false

namespace KubeLB.Library

universe u

/-! ## Sorting -/

/-- A sort by key. Only the two laws are known of the result, so a statement for
every `SliceSort` holds for an unstable sort. -/
structure SliceSort (κ : Type) [LinearOrder κ] where
  run : {α : Type} → (α → κ) → List α → List α
  perm : ∀ {α : Type} (key : α → κ) (values : List α), (run key values).Perm values
  ordered : ∀ {α : Type} (key : α → κ) (values : List α),
    (run key values).Pairwise (fun left right => key left ≤ key right)

/-- The sort that keeps values of equal keys in order. -/
def SliceSort.stable (κ : Type) [LinearOrder κ] : SliceSort κ where
  run key values := values.insertionSort (fun left right => key left ≤ key right)
  perm key values := List.perm_insertionSort _ values
  ordered key values := by
    have total : Std.Total (fun left right => key left ≤ key right) :=
      ⟨fun left right => le_total (key left) (key right)⟩
    have transitive : IsTrans _ (fun left right => key left ≤ key right) :=
      ⟨fun _ _ _ => le_trans⟩
    exact List.pairwise_insertionSort _ values

section Keyed

variable {α : Type u} {κ : Type} [DecidableEq κ] (key : α → κ)

/-! ## Keeping the first value of each key -/

def keepFirst : List α → Finset κ → List α
  | [], _ => []
  | value :: values, seen =>
      if key value ∈ seen then keepFirst values seen
      else value :: keepFirst values (insert (key value) seen)

theorem keepFirst_sublist (values : List α) (seen : Finset κ) :
    (keepFirst key values seen).Sublist values := by
  induction values generalizing seen with
  | nil => exact List.Sublist.refl _
  | cons value values ih =>
      simp only [keepFirst]
      split
      · exact (ih seen).cons _
      · exact (ih _).cons_cons _

theorem mem_keepFirst_id {τ : Type} [DecidableEq τ] {values : List τ} {seen : Finset τ}
    {value : τ} :
    value ∈ keepFirst id values seen ↔ value ∈ values ∧ value ∉ seen := by
  induction values generalizing seen with
  | nil => simp [keepFirst]
  | cons head values ih =>
      simp only [keepFirst, id]
      split
      · next isSeen =>
          rw [ih, List.mem_cons]
          constructor
          · rintro ⟨isMember, fresh⟩
            exact ⟨Or.inr isMember, fresh⟩
          · rintro ⟨rfl | isMember, fresh⟩
            · exact absurd isSeen fresh
            · exact ⟨isMember, fresh⟩
      · next notSeen =>
          rw [List.mem_cons, List.mem_cons, ih, Finset.mem_insert, not_or]
          constructor
          · rintro (rfl | ⟨isMember, -, fresh⟩)
            · exact ⟨Or.inl rfl, notSeen⟩
            · exact ⟨Or.inr isMember, fresh⟩
          · rintro ⟨rfl | isMember, fresh⟩
            · exact Or.inl rfl
            · by_cases same : value = head
              · exact Or.inl same
              · exact Or.inr ⟨isMember, same, fresh⟩

theorem mem_mapM_iff {τ υ : Type} {f : τ → Option υ} {values : List τ} {results : List υ}
    (isMapped : values.mapM f = some results) (result : υ) :
    result ∈ results ↔ ∃ value ∈ values, f value = some result := by
  induction values generalizing results with
  | nil =>
      cases isMapped
      simp
  | cons head values ih =>
      simp only [List.mapM_cons, Option.bind_eq_bind, Option.bind_eq_some_iff] at isMapped
      obtain ⟨first, isFirst, rest, isRest, isResults⟩ := isMapped
      cases isResults
      simp [ih isRest, isFirst, eq_comm]

theorem exists_of_mapM {τ υ : Type} {f : τ → Option υ} {values : List τ} {results : List υ}
    (isMapped : values.mapM f = some results) {value : τ} (isMember : value ∈ values) :
    ∃ result ∈ results, f value = some result := by
  induction values generalizing results with
  | nil => cases isMember
  | cons head values ih =>
      simp only [List.mapM_cons, Option.bind_eq_bind, Option.bind_eq_some_iff] at isMapped
      obtain ⟨first, isFirst, rest, isRest, isResults⟩ := isMapped
      cases isResults
      rcases List.mem_cons.mp isMember with rfl | later
      · exact ⟨first, List.mem_cons_self, isFirst⟩
      · obtain ⟨result, isResult, ofValue⟩ := ih isRest later
        exact ⟨result, List.mem_cons_of_mem _ isResult, ofValue⟩

theorem isSome_mapM_iff {τ υ : Type} {f : τ → Option υ} {values : List τ} :
    (values.mapM f).isSome ↔ ∀ value ∈ values, (f value).isSome := by
  induction values with
  | nil => simp
  | cons head values ih =>
      rw [List.forall_mem_cons, ← ih, List.mapM_cons]
      cases f head <;> cases values.mapM f <;> simp

theorem mapM_eq_some_map {τ υ : Type} {f : τ → Option υ} {g : τ → υ} {values : List τ}
    (each : ∀ value ∈ values, f value = some (g value)) :
    values.mapM f = some (values.map g) := by
  induction values with
  | nil => rfl
  | cons head values ih =>
      rw [List.forall_mem_cons] at each
      rw [List.mapM_cons, each.1, ih each.2]
      rfl

/-- A loop over distinct values that adds something at one of them only. -/
theorem flatMap_ite_eq {τ υ : Type} [DecidableEq τ] {values : List τ} (distinct : values.Nodup)
    {value : τ} (isMember : value ∈ values) (f : τ → υ) :
    values.flatMap (fun other => if value = other then [f other] else []) = [f value] := by
  induction values with
  | nil => cases isMember
  | cons head values ih =>
      rw [List.nodup_cons] at distinct
      rw [List.flatMap_cons]
      by_cases same : value = head
      · subst same
        have others :
            values.flatMap (fun other => if value = other then [f other] else []) = [] := by
          rw [List.flatMap_eq_nil_iff]
          intro other isOther
          rw [if_neg]
          rintro rfl
          exact distinct.1 isOther
        rw [others, if_pos rfl, List.append_nil]
      · have later := (List.mem_cons.mp isMember).resolve_left same
        rw [if_neg same, List.nil_append, ih distinct.2 later]

/-- Loops over two increasing lists collect the same if a value that is in one of them
only adds nothing. -/
theorem flatMap_eq_of_support {τ υ : Type} [LinearOrder τ] {values support : List τ}
    (increasing : values.Pairwise (· < ·)) (supportIncreasing : support.Pairwise (· < ·))
    {collect : τ → List υ} (outside : ∀ value ∈ values, value ∉ support → collect value = [])
    (absent : ∀ value ∈ support, value ∉ values → collect value = []) :
    values.flatMap collect = support.flatMap collect := by
  have restrict (visited others : List τ)
      (nothing : ∀ value ∈ visited, value ∉ others → collect value = []) :
      (visited.filter (· ∈ others)).flatMap collect = visited.flatMap collect := by
    induction visited with
    | nil => rfl
    | cons head visited ih =>
        have later := ih
          (fun value isValue => nothing value (List.mem_cons_of_mem _ isValue))
        by_cases isOther : head ∈ others
        · simp [isOther, later]
        · simp [isOther, later, nothing head List.mem_cons_self isOther]
  have ordered := increasing.sublist (List.filter_sublist (p := (· ∈ support)))
  have supportOrdered := supportIncreasing.sublist (List.filter_sublist (p := (· ∈ values)))
  have common : values.filter (· ∈ support) = support.filter (· ∈ values) := by
    refine List.Perm.eq_of_pairwise ?_ ordered supportOrdered ?_
    · intro left right _ _ lower upper
      exact absurd upper (lt_asymm lower)
    · refine (List.perm_ext_iff_of_nodup (ordered.imp ne_of_lt)
        (supportOrdered.imp ne_of_lt)).mpr ?_
      intro value
      simp [and_comm]
  rw [← restrict values support outside, ← restrict support values absent, common]

/-- Nothing is dropped when the keys are new and pairwise distinct. -/
theorem keepFirst_eq_self (values : List α) (seen : Finset κ)
    (fresh : ∀ value ∈ values, key value ∉ seen)
    (distinct : (values.map key).Nodup) :
    keepFirst key values seen = values := by
  induction values generalizing seen with
  | nil => rfl
  | cons value values ih =>
      obtain ⟨headFresh, distinctTail⟩ := List.nodup_cons.mp distinct
      have tailFresh : ∀ later ∈ values, key later ∉ insert (key value) seen := by
        intro later member inserted
        rcases Finset.mem_insert.mp inserted with same | old
        · exact headFresh (List.mem_map.mpr ⟨later, member, same⟩)
        · exact fresh later (List.mem_cons_of_mem _ member) old
      simp only [keepFirst, fresh value List.mem_cons_self, if_false]
      rw [ih _ tailFresh distinctTail]

theorem keepFirst_keys (values : List α) (seen : Finset κ) :
    ((keepFirst key values seen).map key).Nodup ∧
      ∀ value ∈ keepFirst key values seen, key value ∉ seen := by
  induction values generalizing seen with
  | nil => simp [keepFirst]
  | cons value values ih =>
      simp only [keepFirst]
      split
      · exact ih seen
      · rename_i unseen
        obtain ⟨distinct, later⟩ := ih (insert (key value) seen)
        have laterUnseen : ∀ other ∈ keepFirst key values (insert (key value) seen),
            key other ≠ key value ∧ key other ∉ seen := by
          intro other member
          have outside := later other member
          rw [Finset.mem_insert, not_or] at outside
          exact outside
        refine ⟨?_, ?_⟩
        · rw [List.map_cons, List.nodup_cons]
          refine ⟨?_, distinct⟩
          intro inTail
          obtain ⟨other, member, same⟩ := List.mem_map.mp inTail
          exact (laterUnseen other member).1 same
        · intro other member
          rcases List.mem_cons.mp member with rfl | inTail
          · exact unseen
          · exact (laterUnseen other inTail).2

/-- Every new key of the slice is kept. -/
theorem exists_mem_keepFirst {values : List α} {seen : Finset κ} {value : α}
    (isValue : value ∈ values) (unseen : key value ∉ seen) :
    ∃ kept ∈ keepFirst key values seen, key kept = key value := by
  induction values generalizing seen with
  | nil => cases isValue
  | cons head values ih =>
      simp only [keepFirst]
      split
      · rename_i isSeen
        rcases List.mem_cons.mp isValue with rfl | isLater
        · exact absurd isSeen unseen
        · exact ih isLater unseen
      · by_cases same : key head = key value
        · exact ⟨head, List.mem_cons_self, same⟩
        · have isLater := (List.mem_cons.mp isValue).resolve_left
            (fun isHead => same (by rw [isHead]))
          have unseenLater : key value ∉ insert (key head) seen := by simp [Ne.symm same, unseen]
          obtain ⟨kept, isKept, sameKey⟩ := ih isLater unseenLater
          exact ⟨kept, List.mem_cons_of_mem _ isKept, sameKey⟩

/-! ## Indexing by key -/

/-- Write every value under its key, in order. -/
def indexBy (values : List α) : GoMap κ α :=
  values.foldl (fun index value => index.insert (key value) value) ∅

private theorem lookup_indexBy_aux (values : List α) (index : GoMap κ α) (searched : κ) :
    (values.foldl (fun index value => index.insert (key value) value) index).lookup searched =
      ((values.filter (fun value => key value = searched)).getLast?).or
        (index.lookup searched) := by
  induction values generalizing index with
  | nil => simp
  | cons value values ih =>
      rw [List.foldl_cons, ih]
      by_cases isKey : key value = searched
      · subst isKey
        simp only [Finmap.lookup_insert, decide_true, List.filter_cons_of_pos]
        cases isLast : (values.filter (fun other => key other = key value)).getLast? with
        | none =>
            have empty := List.getLast?_eq_none_iff.mp isLast
            simp [empty]
        | some last => simp [List.getLast?_cons, isLast]
      · have different : searched ≠ key value := fun same => isKey same.symm
        simp [isKey, Finmap.lookup_insert_of_ne _ different]

/-- The last value of a key wins. -/
theorem lookup_indexBy (values : List α) (searched : κ) :
    (indexBy key values).lookup searched =
      (values.filter (fun value => key value = searched)).getLast? := by
  rw [indexBy, lookup_indexBy_aux]
  simp

theorem mem_of_lookup_indexBy {values : List α} {searched : κ} {value : α}
    (found : (indexBy key values).lookup searched = some value) :
    value ∈ values ∧ key value = searched := by
  rw [lookup_indexBy] at found
  have member := List.mem_filter.mp (List.mem_of_getLast? found)
  simpa using member

theorem exists_lookup_indexBy {values : List α} {value : α} (member : value ∈ values) :
    ∃ last, (indexBy key values).lookup (key value) = some last := by
  have nonempty : values.filter (fun other => key other = key value) ≠ [] :=
    List.ne_nil_of_mem (List.mem_filter.mpr ⟨member, by simp⟩)
  rw [lookup_indexBy]
  exact Option.ne_none_iff_exists'.mp
    (fun empty => nonempty (List.getLast?_eq_none_iff.mp empty))

theorem lookup_indexBy_of_nodup {values : List α}
    (distinct : (values.map key).Nodup) {value : α} (member : value ∈ values) :
    (indexBy key values).lookup (key value) = some value := by
  obtain ⟨last, found⟩ := exists_lookup_indexBy key member
  obtain ⟨lastMember, sameKey⟩ := mem_of_lookup_indexBy key found
  rw [found, List.inj_on_of_nodup_map distinct lastMember member sameKey]

end Keyed

/-! ## Sorts that move one value -/

section Moving

variable {α : Type} {κ : Type} [LinearOrder κ] (key : α → κ)

theorem SliceSort.stable_filter (values : List α) (searched : κ) :
    ((SliceSort.stable κ).run key values).filter (fun value => key value = searched) =
      values.filter (fun value => key value = searched) := by
  have total : Std.Total (fun left right : α => key left ≤ key right) :=
    ⟨fun left right => le_total (key left) (key right)⟩
  have transitive : IsTrans α (fun left right => key left ≤ key right) :=
    ⟨fun _ _ _ => le_trans⟩
  have equalKeys : (values.filter (fun value => key value = searched)).Pairwise
      (fun left right => key left ≤ key right) := by
    apply List.pairwise_of_forall_mem_list
    intro left leftMember right rightMember
    have isLeft : key left = searched := by simpa using (List.mem_filter.mp leftMember).2
    have isRight : key right = searched := by simpa using (List.mem_filter.mp rightMember).2
    rw [isLeft, isRight]
  have inSorted := List.sublist_insertionSort equalKeys List.filter_sublist
  have inFilter := inSorted.filter (fun value => key value = searched)
  rw [List.filter_filter] at inFilter
  simp only [Bool.and_self] at inFilter
  have sameLength : (((SliceSort.stable κ).run key values).filter
      (fun value => key value = searched)).length =
      (values.filter (fun value => key value = searched)).length :=
    (((SliceSort.stable κ).perm key values).filter _).length_eq
  exact (inFilter.eq_of_length sameLength.symm).symm

def moveLast (index : Nat) (values : List α) : List α :=
  values.eraseIdx index ++ values[index]?.toList

theorem moveLast_perm (index : Nat) (values : List α) :
    (moveLast index values).Perm values := by
  induction values generalizing index with
  | nil => simp [moveLast]
  | cons value values ih =>
      cases index with
      | zero =>
          simp only [moveLast, List.eraseIdx_cons_zero, List.getElem?_cons_zero,
            Option.toList_some]
          exact List.perm_append_singleton value values
      | succ index =>
          simp only [moveLast, List.eraseIdx_cons_succ, List.getElem?_cons_succ,
            List.cons_append]
          exact (ih index).cons value

def moveFirst (index : Nat) (values : List α) : List α :=
  values[index]?.toList ++ values.eraseIdx index

theorem moveFirst_perm (index : Nat) (values : List α) :
    (moveFirst index values).Perm values :=
  List.perm_append_comm.trans (moveLast_perm index values)

end Moving

/-- The stable sort after moving one value to the end. The index depends on the
length of the slice. -/
def SliceSort.movingLast (κ : Type) [LinearOrder κ] (index : Nat → Nat) : SliceSort κ where
  run key values := (SliceSort.stable κ).run key (moveLast (index values.length) values)
  perm key values := ((SliceSort.stable κ).perm key _).trans (moveLast_perm _ values)
  ordered key _ := (SliceSort.stable κ).ordered key _

/-- The stable sort after moving one value to the front. -/
def SliceSort.movingFirst (κ : Type) [LinearOrder κ] (index : Nat) : SliceSort κ where
  run key values := (SliceSort.stable κ).run key (moveFirst index values)
  perm key values := ((SliceSort.stable κ).perm key _).trans (moveFirst_perm _ values)
  ordered key _ := (SliceSort.stable κ).ordered key _

section MovedValue

variable {α κ : Type} [LinearOrder κ] (key : α → κ) {values : List α} {value : α}

/-- The value moved to the end is the one that the index of the sorted slice keeps. -/
theorem lookup_indexBy_movingLast {index : Nat → Nat}
    (moved : values[index values.length]? = some value) :
    (indexBy key ((SliceSort.movingLast κ index).run key values)).lookup (key value) =
      some value := by
  rw [lookup_indexBy]
  simp only [SliceSort.movingLast]
  rw [SliceSort.stable_filter]
  simp [moveLast, moved]

/-- The value moved to the front is the first match, if all matches have its key. -/
theorem find?_movingFirst {index : Nat} (moved : values[index]? = some value)
    {isMatch : α → Bool} (matched : isMatch value = true)
    (sameKey : ∀ other ∈ values, isMatch other = true → key other = key value) :
    ((SliceSort.movingFirst κ index).run key values).find? isMatch = some value := by
  let sorted := (SliceSort.movingFirst κ index).run key values
  have onlyKey : sorted.find? isMatch =
      (sorted.filter (fun other => key other = key value)).find? isMatch := by
    rw [List.find?_filter]
    apply List.find?_congr
    intro other member
    have inValues := ((SliceSort.movingFirst κ index).perm key values).mem_iff.mp member
    cases isMatched : isMatch other with
    | false => simp
    | true => simp [sameKey other inValues isMatched]
  have filtered : sorted.filter (fun other => key other = key value) =
      (moveFirst index values).filter (fun other => key other = key value) :=
    SliceSort.stable_filter key (moveFirst index values) (key value)
  show sorted.find? isMatch = some value
  rw [onlyKey, filtered]
  simp [moveFirst, moved, matched]

end MovedValue

/-! ## Slices in another order -/

/-- A key stands for one value of the slice. -/
def AgreeByKey {α κ : Type} (key : α → κ) (values : List α) : Prop :=
  ∀ left ∈ values, ∀ right ∈ values, key left = key right → left = right

theorem AgreeByKey.of_perm {α κ : Type} {key : α → κ} {values values' : List α}
    (agree : AgreeByKey key values) (perm : values'.Perm values) : AgreeByKey key values' :=
  fun left leftMember right rightMember =>
    agree left (perm.mem_iff.mp leftMember) right (perm.mem_iff.mp rightMember)

section Rearranged

variable {α : Type} {κ : Type} [LinearOrder κ] {key : α → κ} {values values' : List α}

/-- Sorted slices of the same values are equal when each key stands for one value. -/
theorem AgreeByKey.eq_of_sorted
    (agree : AgreeByKey key values)
    (sorted : values.Pairwise (fun left right => key left ≤ key right))
    (sorted' : values'.Pairwise (fun left right => key left ≤ key right))
    (perm : values.Perm values') :
    values = values' := by
  refine List.Perm.eq_of_pairwise ?_ sorted sorted' perm
  intro left right leftMember rightMember below above
  exact agree left leftMember right (perm.mem_iff.mpr rightMember) (le_antisymm below above)

theorem AgreeByKey.run_eq
    (agree : AgreeByKey key values)
    (perm : values'.Perm values)
    (sort sort' : SliceSort κ) :
    sort'.run key values' = sort.run key values :=
  ((agree.of_perm perm).of_perm (sort'.perm key values')).eq_of_sorted
    (sort'.ordered key values') (sort.ordered key values)
    ((sort'.perm key values').trans (perm.trans (sort.perm key values).symm))

theorem SliceSort.run_eq_of_perm
    (sort : SliceSort κ)
    (agree : AgreeByKey key values)
    (perm : values'.Perm values) :
    sort.run key values' = sort.run key values :=
  agree.run_eq perm sort sort

/-- Some sort puts any value first among those of its key. -/
theorem exists_sort_first (key : α → κ) {value : α} (member : value ∈ values) :
    ∃ sort : SliceSort κ,
      (sort.run key values).find? (fun other => key other = key value) = some value := by
  obtain ⟨index, atIndex⟩ := List.mem_iff_getElem?.mp member
  exact ⟨SliceSort.movingFirst κ index, find?_movingFirst key atIndex (by simp) (by simp)⟩

/-- So the result does not depend on the sort only if each key stands for one value. -/
theorem agreeByKey_of_run_eq
    (same : ∀ sort sort' : SliceSort κ, sort'.run key values = sort.run key values) :
    AgreeByKey key values := by
  intro left leftMember right rightMember sameKey
  obtain ⟨sort, isLeft⟩ := exists_sort_first key leftMember
  obtain ⟨sort', isRight⟩ := exists_sort_first key rightMember
  rw [same sort sort', ← sameKey, isLeft] at isRight
  exact Option.some.inj isRight

/-- A stable sort that first moves one value to the front: one for the watched
slice and another one for every other slice. -/
noncomputable def SliceSort.watching (κ : Type) [LinearOrder κ] {β : Type} (watched : List β)
    (index other : Nat) : SliceSort κ :=
  open Classical in
  { run := fun key values =>
      (SliceSort.movingFirst κ (if HEq values watched then index else other)).run key values
    perm := fun key values => (SliceSort.movingFirst κ _).perm key values
    ordered := fun key values => (SliceSort.movingFirst κ _).ordered key values }

/-- A sort may choose which value of a key comes first, and choose differently for
different slices. -/
theorem exists_sort_choosing
    (key : α → κ)
    (different : values' ≠ values)
    {first first' : α}
    (member : first ∈ values)
    (member' : first' ∈ values') :
    ∃ sort : SliceSort κ,
      (sort.run key values).find? (fun value => key value = key first) = some first ∧
      (sort.run key values').find? (fun value => key value = key first') = some first' := by
  obtain ⟨index, atIndex⟩ := List.mem_iff_getElem?.mp member
  obtain ⟨index', atIndex'⟩ := List.mem_iff_getElem?.mp member'
  refine ⟨SliceSort.watching κ values index index', ?_, ?_⟩
  · simp only [SliceSort.watching, HEq.rfl, if_true]
    exact find?_movingFirst key atIndex (by simp) (by simp)
  · have unwatched : ¬ HEq values' values := fun same => different (eq_of_heq same)
    simp only [SliceSort.watching, unwatched, if_false]
    exact find?_movingFirst key atIndex' (by simp) (by simp)

/-- So equal results for all sorts need one value for each key, or one slice. -/
theorem agreeByKey_or_eq_of_run_eq
    (perm : values'.Perm values)
    (same : ∀ sort : SliceSort κ, sort.run key values' = sort.run key values) :
    AgreeByKey key values ∨ values' = values := by
  by_contra neither
  rw [not_or] at neither
  obtain ⟨disagree, different⟩ := neither
  simp only [AgreeByKey, not_forall] at disagree
  obtain ⟨left, leftMember, right, rightMember, sameKey, distinct⟩ := disagree
  obtain ⟨sort, foundLeft, foundRight⟩ :=
    exists_sort_choosing key different leftMember (perm.mem_iff.mpr rightMember)
  rw [same sort, ← sameKey, foundLeft] at foundRight
  exact distinct (Option.some.inj foundRight)

end Rearranged

/-! ## Sorting by key, then keeping the first value of each slot -/

theorem eq_of_head_eq_last {α : Type} {values : List α} {value other : α}
    (distinct : values.Nodup) (isHead : values.head? = some value)
    (isLast : values.getLast? = some value) (member : other ∈ values) : other = value := by
  rcases values with _ | ⟨head, _ | ⟨next, rest⟩⟩
  · cases member
  · cases isHead
    exact List.mem_singleton.mp member
  · cases isHead
    rw [List.getLast?_cons_cons] at isLast
    exact absurd (List.mem_of_getLast? isLast) (List.nodup_cons.mp distinct).1

section Slots

variable {α κ σ : Type} [LinearOrder κ] (key : α → κ) (slot : α → σ)

/-- Some value of a smaller key has the same slot, so that this one is dropped in
every order. -/
def Hidden (values : List α) (value : α) : Prop :=
  ∃ other ∈ values, slot other = slot value ∧ key other < key value

variable {key slot} {values values' : List α}

theorem Hidden.of_perm {value : α} (hidden : Hidden key slot values value)
    (perm : values.Perm values') : Hidden key slot values' value := by
  obtain ⟨other, member, sameSlot, smaller⟩ := hidden
  exact ⟨other, perm.mem_iff.mp member, sameSlot, smaller⟩

theorem hidden_congr (perm : values.Perm values') (value : α) :
    Hidden key slot values value ↔ Hidden key slot values' value :=
  ⟨fun hidden => hidden.of_perm perm, fun hidden => hidden.of_perm perm.symm⟩

variable [DecidableEq σ]

instance (values : List α) (value : α) : Decidable (Hidden key slot values value) :=
  inferInstanceAs (Decidable (∃ other ∈ values, _))

variable (key slot) in
def visible (values : List α) : List α :=
  values.filter (fun value => ¬ Hidden key slot values value)

theorem visible_perm (perm : values.Perm values') :
    (visible key slot values).Perm (visible key slot values') := by
  unfold visible
  simp only [hidden_congr perm]
  exact perm.filter _

/-- A dropped value may be left out before the loop, when an earlier value or the
seen slots have its slot. -/
theorem keepFirst_filter
    (kept : α → Bool)
    (seen : Finset σ)
    (dropped : ∀ before value after, values = before ++ value :: after → kept value = false →
      slot value ∈ seen ∨ ∃ earlier ∈ before, slot earlier = slot value) :
    keepFirst slot values seen = keepFirst slot (values.filter kept) seen := by
  induction values generalizing seen with
  | nil => rfl
  | cons head tail ih =>
      have tailDropped (seen' : Finset σ) (headSeen : slot head ∈ seen') (sub : seen ⊆ seen') :
          ∀ before value after, tail = before ++ value :: after → kept value = false →
            slot value ∈ seen' ∨ ∃ earlier ∈ before, slot earlier = slot value := by
        intro before value after isTail notKept
        rcases dropped (head :: before) value after (by rw [isTail]; rfl) notKept with
          old | ⟨earlier, earlierMember, sameSlot⟩
        · exact Or.inl (sub old)
        · rcases List.mem_cons.mp earlierMember with rfl | inBefore
          · exact Or.inl (sameSlot ▸ headSeen)
          · exact Or.inr ⟨earlier, inBefore, sameSlot⟩
      cases isKept : kept head with
      | true =>
          rw [List.filter_cons_of_pos isKept]
          simp only [keepFirst]
          split
          · next headSeen =>
              exact ih seen (tailDropped seen headSeen (Finset.Subset.refl _))
          · rw [ih _ (tailDropped _ (Finset.mem_insert_self _ _)
              (Finset.subset_insert _ _))]
      | false =>
          have headSeen : slot head ∈ seen := by
            rcases dropped [] head tail rfl isKept with old | ⟨_, none, _⟩
            · exact old
            · cases none
          rw [List.filter_cons_of_neg (by simp [isKept])]
          simp only [keepFirst, headSeen, if_true]
          exact ih seen (tailDropped seen headSeen (Finset.Subset.refl _))

/-- Hidden values do not matter in a sorted slice. -/
theorem keepFirst_visible
    (sorted : values.Pairwise (fun left right => key left ≤ key right)) :
    keepFirst slot values ∅ = keepFirst slot (visible key slot values) ∅ := by
  apply keepFirst_filter
  intro before value after isSplit notKept
  have hidden : Hidden key slot values value := by simpa using notKept
  obtain ⟨other, member, sameSlot, smaller⟩ := hidden
  subst isSplit
  refine Or.inr ⟨other, ?_, sameSlot⟩
  have notAfter : other ∉ value :: after := by
    intro later
    rcases List.mem_cons.mp later with rfl | inAfter
    · exact lt_irrefl _ smaller
    · have above := (List.pairwise_cons.mp (List.pairwise_append.mp sorted).2.1).1 other inAfter
      exact absurd smaller (not_lt.mpr above)
  rcases List.mem_append.mp member with inBefore | later
  · exact inBefore
  · exact absurd later notAfter

/-- What is kept does not depend on the order, when each key of a visible value
stands for one of them. -/
theorem keepFirst_run_eq_of_perm
    (sort sort' : SliceSort κ)
    (agree : AgreeByKey key (visible key slot values))
    (perm : values'.Perm values) :
    keepFirst slot (sort'.run key values') ∅ = keepFirst slot (sort.run key values) ∅ := by
  rw [keepFirst_visible (sort'.ordered key values'), keepFirst_visible (sort.ordered key values)]
  congr 1
  refine ((agree.of_perm ?_).eq_of_sorted ?_ ?_ ?_)
  · exact visible_perm ((sort'.perm key values').trans perm)
  · exact (sort'.ordered key values').filter _
  · exact (sort.ordered key values).filter _
  · exact visible_perm ((sort'.perm key values').trans (perm.trans (sort.perm key values).symm))

theorem keepFirst_append (before after : List α) (seen : Finset σ) :
    keepFirst slot (before ++ after) seen =
      keepFirst slot before seen ++
        keepFirst slot after (seen ∪ (before.map slot).toFinset) := by
  induction before generalizing seen with
  | nil => simp [keepFirst]
  | cons head tail ih =>
      simp only [List.cons_append, keepFirst, List.map_cons, List.toFinset_cons]
      split
      · next headSeen =>
          rw [ih, Finset.union_insert,
            Finset.insert_eq_of_mem (Finset.mem_union_left _ headSeen)]
      · rw [ih, Finset.insert_union, Finset.union_insert, List.cons_append]

/-- The first value of its key is kept unless it is hidden. -/
theorem find?_keepFirst
    (sorted : values.Pairwise (fun left right => key left ≤ key right))
    {first : α}
    (found : values.find? (fun value => key value = key first) = some first)
    (notHidden : ¬ Hidden key slot values first) :
    (keepFirst slot values ∅).find? (fun value => key value = key first) = some first := by
  obtain ⟨-, before, after, rfl, others⟩ := List.find?_eq_some_iff_append.mp found
  have smaller : ∀ earlier ∈ before, key earlier < key first := by
    intro earlier member
    have below := (List.pairwise_append.mp sorted).2.2 earlier member first List.mem_cons_self
    exact lt_of_le_of_ne below (by simpa using others earlier member)
  have fresh : slot first ∉ (∅ ∪ (before.map slot).toFinset : Finset σ) := by
    intro taken
    simp only [Finset.empty_union, List.mem_toFinset, List.mem_map] at taken
    obtain ⟨earlier, member, sameSlot⟩ := taken
    exact notHidden ⟨earlier, List.mem_append_left _ member, sameSlot, smaller earlier member⟩
  have noneBefore : (keepFirst slot before ∅).find? (fun value => key value = key first) =
      none := by
    rw [List.find?_eq_none]
    intro earlier member
    have inBefore := (keepFirst_sublist slot before ∅).subset member
    simpa using (smaller earlier inBefore).ne
  rw [keepFirst_append, List.find?_append, noneBefore, keepFirst, if_neg fresh]
  simp

theorem mem_visible {value : α} :
    value ∈ visible key slot values ↔ value ∈ values ∧ ¬ Hidden key slot values value := by
  simp [visible]

/-- So the result does not depend on the sort only if each key stands for one visible
value. -/
theorem agreeByKey_visible
    (same : ∀ sort sort' : SliceSort κ,
      keepFirst slot (sort'.run key values) ∅ = keepFirst slot (sort.run key values) ∅) :
    AgreeByKey key (visible key slot values) := by
  intro left leftVisible right rightVisible sameKey
  have kept {value : α} (isVisible : value ∈ visible key slot values) :
      ∃ sort : SliceSort κ, (keepFirst slot (sort.run key values) ∅).find?
        (fun other => key other = key value) = some value := by
    obtain ⟨member, shown⟩ := mem_visible.mp isVisible
    obtain ⟨sort, found⟩ := exists_sort_first key member
    exact ⟨sort, find?_keepFirst (sort.ordered key values) found
      (fun hidden => shown (hidden.of_perm (sort.perm key values)))⟩
  obtain ⟨sort, isLeft⟩ := kept leftVisible
  obtain ⟨sort', isRight⟩ := kept rightVisible
  rw [same sort sort', ← sameKey, isLeft] at isRight
  exact Option.some.inj isRight

/-- What is kept of a sorted slice is visible. -/
theorem not_hidden_of_mem_keepFirst
    (sorted : values.Pairwise (fun left right => key left ≤ key right)) {value : α}
    (isKept : value ∈ keepFirst slot values ∅) : ¬ Hidden key slot values value := by
  rw [keepFirst_visible sorted] at isKept
  exact (mem_visible.mp ((keepFirst_sublist slot _ ∅).subset isKept)).2

theorem exists_kept_of_visible
    (sorted : values.Pairwise (fun left right => key left ≤ key right)) {value : α}
    (member : value ∈ values) (shown : ¬ Hidden key slot values value) :
    ∃ kept ∈ keepFirst slot values ∅, slot kept = slot value ∧ key kept = key value := by
  obtain ⟨kept, isKept, sameSlot⟩ := exists_mem_keepFirst slot member (Finset.notMem_empty _)
  have inValues := (keepFirst_sublist slot values ∅).subset isKept
  refine ⟨kept, isKept, sameSlot, le_antisymm ?_ ?_⟩
  · exact not_lt.mp fun smaller => not_hidden_of_mem_keepFirst sorted isKept
      ⟨value, member, sameSlot.symm, smaller⟩
  · exact not_lt.mp fun smaller => shown ⟨kept, inValues, sameSlot, smaller⟩

variable (key slot) in
/-- In every order of equal keys the index of the kept values has the slot of a value under
its key exactly when the value is visible and all visible values of its key have its slot. -/
theorem lookup_keepFirst_iff {value : α} (member : value ∈ values) :
    (∀ sort : SliceSort κ, ∃ found,
      (indexBy key (keepFirst slot (sort.run key values) ∅)).lookup (key value) = some found ∧
        slot found = slot value) ↔
    ¬ Hidden key slot values value ∧ ∀ other ∈ values, key other = key value →
      ¬ Hidden key slot values other → slot other = slot value := by
  have hidden_run (sort : SliceSort κ) (other : α) :
      Hidden key slot (sort.run key values) other ↔ Hidden key slot values other :=
    hidden_congr (sort.perm key values) other
  constructor
  · intro always
    have shown : ¬ Hidden key slot values value := by
      rintro ⟨smaller, smallerMember, sameSlot, isSmaller⟩
      obtain ⟨found, isFound, foundSlot⟩ := always (SliceSort.stable κ)
      obtain ⟨isKept, foundKey⟩ := mem_of_lookup_indexBy key isFound
      refine not_hidden_of_mem_keepFirst ((SliceSort.stable κ).ordered key values) isKept
        ((hidden_run _ _).mpr ⟨smaller, smallerMember, ?_, ?_⟩)
      · rw [sameSlot, foundSlot]
      · rw [foundKey]
        exact isSmaller
    refine ⟨shown, fun other otherMember sameKey otherShown => ?_⟩
    -- with the value in front of its key, another slot of the key would be found
    by_contra different
    obtain ⟨sort, isFirst⟩ := exists_sort_first key member
    have sorted := sort.ordered key values
    obtain ⟨found, isFound, foundSlot⟩ := always sort
    obtain ⟨kept, isKept, keptSlot, keptKey⟩ := exists_kept_of_visible sorted
      ((sort.perm key values).mem_iff.mpr otherMember) (mt (hidden_run sort other).mp otherShown)
    have first := find?_keepFirst sorted isFirst (mt (hidden_run sort value).mp shown)
    have distinct := List.inj_on_of_nodup_map (keepFirst_keys slot (sort.run key values) ∅).1
    have isValue : found = value := distinct (mem_of_lookup_indexBy key isFound).1
      (List.mem_of_find?_eq_some first) foundSlot
    rw [lookup_indexBy, isValue] at isFound
    rw [← List.head?_filter] at first
    have keptOnly : kept ∈ (keepFirst slot (sort.run key values) ∅).filter
        (fun other => key other = key value) := by
      simp [isKept, keptKey, sameKey]
    have nodup : ((keepFirst slot (sort.run key values) ∅).filter
        (fun other => key other = key value)).Nodup :=
      ((keepFirst_keys slot (sort.run key values) ∅).1.of_map slot).filter _
    have isKeptValue := eq_of_head_eq_last nodup first isFound keptOnly
    exact different (keptSlot ▸ isKeptValue ▸ rfl)
  · rintro ⟨shown, others⟩ sort
    have sorted := sort.ordered key values
    obtain ⟨kept, isKept, -, keptKey⟩ := exists_kept_of_visible sorted
      ((sort.perm key values).mem_iff.mpr member) (mt (hidden_run sort value).mp shown)
    obtain ⟨found, isFound⟩ := exists_lookup_indexBy key isKept
    obtain ⟨inKept, foundKey⟩ := mem_of_lookup_indexBy key isFound
    rw [keptKey] at isFound foundKey
    refine ⟨found, isFound, others found ?_ foundKey ?_⟩
    · exact (sort.perm key values).mem_iff.mp ((keepFirst_sublist slot _ ∅).subset inKept)
    · exact mt (hidden_run sort found).mpr (not_hidden_of_mem_keepFirst sorted inKept)

end Slots

/-- Different slices differ under some marking of their values. -/
theorem exists_map_ne {α β : Type} {values values' : List α} (different : values' ≠ values)
    (plain marked : β) (apart : plain ≠ marked) :
    ∃ mark : α → β, values'.map mark ≠ values.map mark := by
  classical
  induction values generalizing values' with
  | nil => exact ⟨fun _ => plain, by simpa using different⟩
  | cons value values ih =>
      cases values' with
      | nil => exact ⟨fun _ => plain, by simp⟩
      | cons value' values' =>
          by_cases sameHead : value' = value
          · have tails : values' ≠ values := fun same => different (by rw [sameHead, same])
            obtain ⟨mark, marks⟩ := ih tails
            exact ⟨mark, by simpa [sameHead] using marks⟩
          · refine ⟨fun other => if other = value then marked else plain, ?_⟩
            simp [sameHead, apart]

/-! ## Paired slices -/

theorem forall₂_partner {α β : Type} {Related : α → β → Prop} {values : List α}
    {partners : List β} (paired : List.Forall₂ Related values partners)
    {value : α} (member : value ∈ values) : ∃ partner ∈ partners, Related value partner := by
  induction paired with
  | nil => cases member
  | cons related later ih =>
      rcases List.mem_cons.mp member with rfl | isLater
      · exact ⟨_, List.mem_cons_self, related⟩
      · obtain ⟨partner, inPartners, isRelated⟩ := ih isLater
        exact ⟨partner, List.mem_cons_of_mem _ inPartners, isRelated⟩

theorem forall₂_getElem? {α β : Type} {Related : α → β → Prop} {values : List α}
    {partners : List β} (paired : List.Forall₂ Related values partners)
    {index : Nat} {value : α} (atIndex : values[index]? = some value) :
    ∃ partner, partners[index]? = some partner ∧ Related value partner := by
  induction paired generalizing index with
  | nil => simp at atIndex
  | cons related later ih =>
      cases index with
      | zero =>
          cases atIndex
          exact ⟨_, rfl, related⟩
      | succ index => exact ih atIndex

end KubeLB.Library
