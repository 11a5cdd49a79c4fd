import KubeLB.Library.GoMap

/-!
Contract: Go maps in memory, which several variables may share.

Owns: the memory that holds maps under addresses, references into it, `make`, writes
through a reference, and the rule for loops that write through one reference only.

Does not own: what a loop writes.
-/

set_option autoImplicit false

namespace KubeLB.Library

universe u v w

/-- Maps under addresses. The addresses below `next` are in use. -/
structure MapHeap (κ : Type u) (ν : Type v) where
  contents : Nat → GoMap κ ν
  next : Nat

namespace MapHeap

variable {κ : Type u} {ν : Type v}

/-- A variable of a map type: nil, or an address in use. -/
abbrev Ref (heap : MapHeap κ ν) : Type := Option (Fin heap.next)

/-- The map behind a reference; a nil map reads as an empty one. -/
def load (heap : MapHeap κ ν) : heap.Ref → GoMap κ ν
  | none => ∅
  | some address => heap.contents address

/-- `make`: the memory with an empty map at its next address. -/
def make (heap : MapHeap κ ν) : MapHeap κ ν where
  contents := Function.update heap.contents heap.next ∅
  next := heap.next + 1

/-- Change the map at an address. -/
def update (heap : MapHeap κ ν) (address : Nat) (change : GoMap κ ν → GoMap κ ν) :
    MapHeap κ ν :=
  { heap with
    contents := Function.update heap.contents address (change (heap.contents address)) }

variable {heap : MapHeap κ ν} {address : Nat}

@[simp] theorem contents_update (change : GoMap κ ν → GoMap κ ν) :
    (heap.update address change).contents address = change (heap.contents address) := by
  simp [update]

theorem contents_update_of_ne (change : GoMap κ ν → GoMap κ ν) {other : Nat}
    (different : other ≠ address) :
    (heap.update address change).contents other = heap.contents other := by
  simp [update, different]

@[simp] theorem contents_make : heap.make.contents heap.next = ∅ := by
  simp [make]

theorem contents_make_of_lt {other : Nat} (inUse : other < heap.next) :
    heap.make.contents other = heap.contents other := by
  simp [make, inUse.ne]

@[simp] theorem update_id : heap.update address id = heap := by
  simp [update]

@[simp] theorem update_update (change next : GoMap κ ν → GoMap κ ν) :
    (heap.update address change).update address next = heap.update address (next ∘ change) := by
  simp [update]

/-- A loop that writes through one reference changes the map behind it as the loop over
that map alone would. -/
theorem foldl_update {ι : Type w} {step : MapHeap κ ν → ι → MapHeap κ ν}
    {write : GoMap κ ν → ι → GoMap κ ν}
    (isWrite : ∀ heap item, step heap item = heap.update address (fun m => write m item))
    (heap : MapHeap κ ν) (items : List ι) :
    items.foldl step heap = heap.update address (fun m => items.foldl write m) := by
  induction items generalizing heap with
  | nil => exact update_id.symm
  | cons item items ih =>
      rw [List.foldl_cons, isWrite, ih, update_update]
      rfl

end MapHeap

/-! ## Loops over the entries of a map -/

namespace GoMap

variable {κ : Type u} {ν : Type v} [DecidableEq κ]

/-- A loop whose round for an entry concerns the key of the entry only. -/
theorem lookup_foldl_of_local {step : GoMap κ ν → κ × ν → GoMap κ ν}
    {effect : κ → ν → Option ν → Option ν}
    (own : ∀ m key value, (step m (key, value)).lookup key = effect key value (m.lookup key))
    (other : ∀ m key value key', key' ≠ key →
      (step m (key, value)).lookup key' = m.lookup key')
    {entries : List (κ × ν)} (distinct : (entries.map Prod.fst).Nodup) (m : GoMap κ ν) (key : κ) :
    (∀ value, (key, value) ∈ entries →
        (entries.foldl step m).lookup key = effect key value (m.lookup key)) ∧
      ((∀ value, (key, value) ∉ entries) →
        (entries.foldl step m).lookup key = m.lookup key) := by
  induction entries generalizing m with
  | nil => simp
  | cons entry entries ih =>
      obtain ⟨first, stored⟩ := entry
      rw [List.map_cons, List.nodup_cons] at distinct
      obtain ⟨isNew, distinct⟩ := distinct
      obtain ⟨ofEntry, ofNone⟩ := ih distinct (step m (first, stored))
      rw [List.foldl_cons]
      by_cases isFirst : key = first
      · subst isFirst
        have noLater : ∀ value, (key, value) ∉ entries := fun value isEntry =>
          isNew (List.mem_map.mpr ⟨(key, value), isEntry, rfl⟩)
        refine ⟨fun value isEntry => ?_, fun isNone => ?_⟩
        · have isStored : value = stored := by
            simpa [noLater] using isEntry
          rw [ofNone noLater, own, isStored]
        · exact absurd List.mem_cons_self (isNone stored)
      · have sameEntries (value : ν) : (key, value) ∈ (first, stored) :: entries ↔
            (key, value) ∈ entries := by
          simp [isFirst]
        simp only [sameEntries]
        rw [← other m first stored key isFirst]
        exact ⟨ofEntry, ofNone⟩

/-- The same for the loop over a map, in any order. -/
theorem lookup_foldl_rangeBy {step : GoMap κ ν → κ × ν → GoMap κ ν}
    (effect : κ → ν → Option ν → Option ν)
    (own : ∀ m key value, (step m (key, value)).lookup key = effect key value (m.lookup key))
    (other : ∀ m key value key', key' ≠ key →
      (step m (key, value)).lookup key' = m.lookup key')
    (source : GoMap κ ν) (order : RangeOrder κ) (m : GoMap κ ν) (key : κ) :
    ((source.rangeBy order).foldl step m).lookup key =
      match source.lookup key with
      | some value => effect key value (m.lookup key)
      | none => m.lookup key := by
  obtain ⟨ofEntry, ofNone⟩ :=
    lookup_foldl_of_local own other (nodup_keys_rangeBy source order) m key
  cases found : source.lookup key with
  | some value => exact ofEntry value (mem_rangeBy.mpr found)
  | none =>
      apply ofNone
      intro value isEntry
      rw [mem_rangeBy, found] at isEntry
      cases isEntry

end GoMap

end KubeLB.Library
