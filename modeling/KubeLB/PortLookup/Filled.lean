import KubeLB.PortLookup.HeldPorts

/-!
Contract: allocator states that already hold chosen ports.

Owns: the state that holds a chosen port for every port key of some slots, and
the fact that allocating for those slots again returns and keeps the choice.

Does not own: which runs reach such a state.
-/

set_option autoImplicit false

namespace KubeLB.PortLookup

open KubeLB.Library

def fillTable (value : String → String → Int) (cells : List (String × String)) : LookupTable :=
  cells.foldl (fun table cell => setPort table cell.1 cell.2 (value cell.1 cell.2)) ∅

private theorem cell_fillTable_aux (value : String → String → Int)
    (cells : List (String × String)) (table : LookupTable) (endpointKey portKey : String) :
    cell (cells.foldl (fun table cell => setPort table cell.1 cell.2 (value cell.1 cell.2))
      table) endpointKey portKey =
      if (endpointKey, portKey) ∈ cells then some (value endpointKey portKey)
      else cell table endpointKey portKey := by
  induction cells generalizing table with
  | nil => simp
  | cons head cells ih =>
      rw [List.foldl_cons, ih, cell_setPort]
      by_cases later : (endpointKey, portKey) ∈ cells
      · simp [later]
      · by_cases isHead : (endpointKey, portKey) = head
        · subst isHead
          simp
        · have notHead : ¬(endpointKey = head.1 ∧ portKey = head.2) :=
            fun both => isHead (Prod.ext both.1 both.2)
          simp [later, isHead, notHead]

theorem cell_fillTable (value : String → String → Int) (cells : List (String × String))
    (endpointKey portKey : String) :
    cell (fillTable value cells) endpointKey portKey =
      if (endpointKey, portKey) ∈ cells then some (value endpointKey portKey) else none := by
  rw [fillTable, cell_fillTable_aux, cell_empty]

/-- The cells that slots ask for. -/
def slotCells (slots : List Slot) : List (String × String) :=
  slots.flatMap (fun slot => slot.portKeys.map (fun portKey => (slot.endpointKey, portKey)))

theorem mem_slotCells {slots : List Slot} {endpointKey portKey : String} :
    (endpointKey, portKey) ∈ slotCells slots ↔
      ∃ slot ∈ slots, slot.endpointKey = endpointKey ∧ portKey ∈ slot.portKeys := by
  simp only [slotCells, List.mem_flatMap, List.mem_map, Prod.mk.injEq]
  constructor
  · rintro ⟨slot, member, listed, inKeys, rfl, rfl⟩
    exact ⟨slot, member, rfl, inKeys⟩
  · rintro ⟨slot, member, rfl, inKeys⟩
    exact ⟨slot, member, portKey, inKeys, rfl, rfl⟩

def filledAllocator (value : String → String → Int) (slots : List Slot) : PortAllocator :=
  PortAllocator.recomputeAvailablePorts
    { portLookup := fillTable value (slotCells slots), portLookupReverse := ∅ }

theorem lookup_filledAllocator (value : String → String → Int) (slots : List Slot)
    (endpointKey portKey : String) :
    (filledAllocator value slots).lookup endpointKey portKey =
      if (endpointKey, portKey) ∈ slotCells slots then some (value endpointKey portKey)
      else none :=
  cell_fillTable value (slotCells slots) endpointKey portKey

theorem filledAllocator_holdsOnly {Good : Int → Prop} {value : String → String → Int}
    (good : ∀ endpointKey portKey, Good (value endpointKey portKey)) (slots : List Slot) :
    HoldsOnly Good (filledAllocator value slots) := by
  intro endpointKey portKey port found
  rw [lookup_filledAllocator] at found
  split at found
  · cases found
    exact good endpointKey portKey
  · cases found

/-- A filled state with a choice that repeats no port is duplicate-free. -/
theorem filledAllocator_duplicateFree {value : String → String → Int} {slots : List Slot}
    (portNumbers : ∀ endpointKey portKey, IsPortNumber (value endpointKey portKey))
    (unique : ∀ {cell cell'}, cell ∈ slotCells slots → cell' ∈ slotCells slots →
      value cell.1 cell.2 = value cell'.1 cell'.2 → cell = cell') :
    DuplicateFree (filledAllocator value slots) := by
  refine ⟨recomputeAvailablePorts_exact _, filledAllocator_holdsOnly portNumbers slots, ?_⟩
  intro endpointKey endpointKey' portKey portKey' port found found'
  rw [lookup_filledAllocator] at found found'
  split at found
  · rename_i member
    split at found'
    · rename_i member'
      cases found
      have same := unique member member' (Option.some.inj found').symm
      exact ⟨congrArg Prod.fst same, congrArg Prod.snd same⟩
    · cases found'
  · cases found

/-- Slots of one endpoint key that ask for the same port keys do not undo each
other's allocations. -/
def SlotsAgree (slots : List Slot) : Prop :=
  ∀ slot ∈ slots, ∀ other ∈ slots, other.endpointKey = slot.endpointKey →
    other.portKeys = slot.portKeys

theorem slotsAgree_of_nodup {slots : List Slot}
    (distinct : (slots.map (·.endpointKey)).Nodup) : SlotsAgree slots := by
  intro slot member other otherMember same
  rw [List.inj_on_of_nodup_map distinct otherMember member same]

/-- Allocating again for the slots of a filled state returns without a draw and
keeps every choice. -/
theorem allocateSlots_filled (value : String → String → Int) {slots : List Slot}
    (agree : SlotsAgree slots) (draws : List Draw) :
    ∃ pa', allocateSlots (filledAllocator value slots) slots draws = some (pa', draws) ∧
      ∀ slot ∈ slots, ∀ portKey ∈ slot.portKeys,
        pa'.lookup slot.endpointKey portKey = some (value slot.endpointKey portKey) := by
  have held (slot : Slot) (member : slot ∈ slots) (portKey : String)
      (inKeys : portKey ∈ slot.portKeys) :
      (filledAllocator value slots).lookup slot.endpointKey portKey =
        some (value slot.endpointKey portKey) := by
    rw [lookup_filledAllocator, if_pos (mem_slotCells.mpr ⟨slot, member, rfl, inKeys⟩)]
  have shared (slot : Slot) (member : slot ∈ slots) (portKey : String)
      (inKeys : portKey ∈ slot.portKeys) :
      ∀ other ∈ slots, other.endpointKey = slot.endpointKey → portKey ∈ other.portKeys := by
    intro other otherMember same
    rw [agree slot member other otherMember same]
    exact inKeys
  obtain ⟨pa', allocated⟩ := allocateSlots_of_held
    (fun slot member portKey inKeys =>
      ⟨⟨_, held slot member portKey inKeys⟩, shared slot member portKey inKeys⟩) draws
  refine ⟨pa', allocated, fun slot member portKey inKeys => ?_⟩
  exact (allocateSlots_effect allocated).kept (held slot member portKey inKeys)
    (shared slot member portKey inKeys)

end KubeLB.PortLookup
