import Mathlib.Data.List.TakeWhile
import Mathlib.Data.String.Basic

/-!
Contract: texts of durations as groups of digits with a unit.

Owns: the grammar, a decision procedure that accepts exactly its texts, and the
numbers whose digits are one group.

Does not own: the length of time that a text stands for.
-/

set_option autoImplicit false

namespace KubeLB.Library

/-- Digits and their unit. -/
structure DurationGroup where
  digits : List Char
  unit : List Char

namespace DurationGroup

/-- One to five digits and a unit of hours, minutes, seconds or milliseconds. -/
structure Proper (group : DurationGroup) : Prop where
  some : 1 ≤ group.digits.length
  few : group.digits.length ≤ 5
  areDigits : ∀ char ∈ group.digits, char.isDigit = true
  isUnit : group.unit ∈ [['h'], ['m'], ['s'], ['m', 's']]

def text (group : DurationGroup) : List Char := group.digits ++ group.unit

end DurationGroup

/-- The text is one to four groups. -/
def IsDuration (text : String) : Prop :=
  ∃ groups : List DurationGroup, 1 ≤ groups.length ∧ groups.length ≤ 4 ∧
    (∀ group ∈ groups, group.Proper) ∧ text.toList = groups.flatMap DurationGroup.text

def dropUnit : List Char → Option (List Char)
  | 'm' :: 's' :: rest => some rest
  | 'h' :: rest => some rest
  | 'm' :: rest => some rest
  | 's' :: rest => some rest
  | _ => none

def dropGroup (text : List Char) : Option (List Char) :=
  let digits := text.takeWhile Char.isDigit
  if 1 ≤ digits.length ∧ digits.length ≤ 5 then dropUnit (text.dropWhile Char.isDigit) else none

/-- The text is at most so many groups. -/
def isGroups : Nat → List Char → Bool
  | 0, text => text.isEmpty
  | count + 1, text => text.isEmpty || (dropGroup text).any (isGroups count)

theorem unit_of_dropUnit {text rest : List Char} (isRest : dropUnit text = some rest) :
    ∃ unit ∈ [['h'], ['m'], ['s'], ['m', 's']], text = unit ++ rest := by
  unfold dropUnit at isRest
  split at isRest
  · cases isRest
    exact ⟨['m', 's'], by decide, rfl⟩
  · cases isRest
    exact ⟨['h'], by decide, rfl⟩
  · cases isRest
    exact ⟨['m'], by decide, rfl⟩
  · cases isRest
    exact ⟨['s'], by decide, rfl⟩
  · cases isRest

theorem group_of_dropGroup {text rest : List Char} (isRest : dropGroup text = some rest) :
    ∃ group : DurationGroup, group.Proper ∧ text = group.text ++ rest := by
  unfold dropGroup at isRest
  rw [Option.ite_none_right_eq_some] at isRest
  obtain ⟨⟨hasDigits, fewDigits⟩, isUnit⟩ := isRest
  obtain ⟨unit, isUnit, split⟩ := unit_of_dropUnit isUnit
  refine ⟨⟨text.takeWhile Char.isDigit, unit⟩, ⟨hasDigits, fewDigits, ?_, isUnit⟩, ?_⟩
  · intro char isChar
    exact List.mem_takeWhile_imp isChar
  · rw [DurationGroup.text, List.append_assoc, ← split, List.takeWhile_append_dropWhile]

def EndsGroup (rest : List Char) : Prop := ∀ char ∈ rest.head?, char.isDigit = true

theorem dropGroup_append {group : DurationGroup} (proper : group.Proper) {rest : List Char}
    (ends : EndsGroup rest) : dropGroup (group.text ++ rest) = some rest := by
  obtain ⟨digits, unit⟩ := group
  obtain ⟨hasDigits, fewDigits, areDigits, isUnit⟩ := proper
  have notSecond : ∀ after, rest ≠ 's' :: after := by
    rintro after rfl
    exact absurd (ends 's' rfl) (by decide)
  have cut (first : Char) (more : List Char) (notDigit : first.isDigit = false) :
      (digits ++ first :: more).takeWhile Char.isDigit = digits ∧
        (digits ++ first :: more).dropWhile Char.isDigit = first :: more := by
    rw [List.takeWhile_append_of_pos areDigits, List.dropWhile_append_of_pos areDigits]
    simp [notDigit]
  have bounded : 1 ≤ digits.length ∧ digits.length ≤ 5 := ⟨hasDigits, fewDigits⟩
  simp only [List.mem_cons, List.not_mem_nil, or_false] at isUnit
  rcases isUnit with rfl | rfl | rfl | rfl
  · obtain ⟨isTaken, isDropped⟩ := cut 'h' rest (by decide)
    simp [dropGroup, DurationGroup.text, isTaken, isDropped, bounded, dropUnit]
  · obtain ⟨isTaken, isDropped⟩ := cut 'm' rest (by decide)
    simp only [dropGroup, DurationGroup.text, List.append_assoc, List.singleton_append, isTaken,
      isDropped, bounded, and_self, if_true]
    unfold dropUnit
    split
    · next isSecond => exact absurd (List.cons.inj isSecond).2 (notSecond _)
    all_goals simp_all
  · obtain ⟨isTaken, isDropped⟩ := cut 's' rest (by decide)
    simp [dropGroup, DurationGroup.text, isTaken, isDropped, bounded, dropUnit]
  · obtain ⟨isTaken, isDropped⟩ := cut 'm' ('s' :: rest) (by decide)
    simp [dropGroup, DurationGroup.text, isTaken, isDropped, bounded, dropUnit]

theorem groups_of_isGroups {count : Nat} {text : List Char}
    (accepted : isGroups count text = true) :
    ∃ groups : List DurationGroup, groups.length ≤ count ∧ (∀ group ∈ groups, group.Proper) ∧
      text = groups.flatMap DurationGroup.text := by
  induction count generalizing text with
  | zero =>
      refine ⟨[], le_rfl, by simp, ?_⟩
      simpa [isGroups] using accepted
  | succ count ih =>
      rw [isGroups, Bool.or_eq_true, Option.any_eq_true] at accepted
      rcases accepted with isEmpty | ⟨rest, isRest, accepted⟩
      · exact ⟨[], Nat.zero_le _, by simp, by simpa using isEmpty⟩
      · obtain ⟨group, proper, split⟩ := group_of_dropGroup isRest
        obtain ⟨groups, few, areProper, isText⟩ := ih accepted
        refine ⟨group :: groups, by simpa using few, ?_, ?_⟩
        · exact List.forall_mem_cons.mpr ⟨proper, areProper⟩
        · rw [List.flatMap_cons, ← isText, split]

theorem endsGroup_flatMap {groups : List DurationGroup}
    (areProper : ∀ group ∈ groups, group.Proper) :
    EndsGroup (groups.flatMap DurationGroup.text) := by
  cases groups with
  | nil => exact fun char isChar => nomatch isChar
  | cons group groups =>
      have proper := areProper group List.mem_cons_self
      obtain ⟨first, digits, isDigits⟩ := List.exists_cons_of_length_pos proper.some
      intro char isChar
      rw [List.flatMap_cons, DurationGroup.text, isDigits, List.cons_append, List.cons_append,
        List.head?_cons, Option.mem_some_iff] at isChar
      exact proper.areDigits char (isDigits ▸ isChar ▸ List.mem_cons_self)

theorem isGroups_flatMap {groups : List DurationGroup}
    (areProper : ∀ group ∈ groups, group.Proper) {count : Nat} (few : groups.length ≤ count) :
    isGroups count (groups.flatMap DurationGroup.text) = true := by
  induction groups generalizing count with
  | nil => cases count <;> rfl
  | cons group groups ih =>
      obtain ⟨count, rfl⟩ : ∃ less, count = less + 1 := ⟨count - 1, by simp at few; omega⟩
      obtain ⟨proper, areProper⟩ := List.forall_mem_cons.mp areProper
      rw [isGroups, List.flatMap_cons, dropGroup_append proper (endsGroup_flatMap areProper)]
      simp [ih areProper (by simpa using few)]

/-- The procedure accepts exactly the durations. -/
theorem isDuration_iff {text : String} :
    IsDuration text ↔ text ≠ "" ∧ isGroups 4 text.toList = true := by
  constructor
  · rintro ⟨groups, several, few, areProper, isText⟩
    refine ⟨?_, isText ▸ isGroups_flatMap areProper few⟩
    rintro rfl
    obtain ⟨group, rest, rfl⟩ := List.exists_cons_of_length_pos several
    have hasDigits := (areProper group List.mem_cons_self).some
    have noDigits : group.digits = [] := by
      have isNil : ([] : List Char) = group.digits ++ group.unit ++
          rest.flatMap DurationGroup.text := by
        simpa [DurationGroup.text] using isText
      simp only [List.nil_eq, List.append_eq_nil_iff] at isNil
      exact isNil.1.1
    rw [noDigits] at hasDigits
    cases hasDigits
  · rintro ⟨notEmpty, accepted⟩
    obtain ⟨groups, few, areProper, isText⟩ := groups_of_isGroups accepted
    refine ⟨groups, ?_, few, areProper, isText⟩
    cases groups with
    | nil => exact absurd (String.toList_eq_nil_iff.mp isText) notEmpty
    | cons group groups => simp

instance (text : String) : Decidable (IsDuration text) := decidable_of_iff _ isDuration_iff.symm

theorem toList_natText_second (number : Nat) :
    (toString number ++ "s").toList = Nat.toDigits 10 number ++ ['s'] := by
  rw [String.toList_append, Nat.toString_eq_ofList_toDigits, String.toList_ofList]
  rfl

/-- The digits of a number with one unit are a duration up to five digits. -/
theorem isDuration_natText_iff (number : Nat) :
    IsDuration (toString number ++ "s") ↔ number < 100000 := by
  have areDigits : ∀ char ∈ Nat.toDigits 10 number, char.isDigit = true := fun char isChar =>
    Nat.isDigit_of_mem_toDigits (by decide) (by decide) isChar
  have fits_iff : (Nat.toDigits 10 number).length ≤ 5 ↔ number < 100000 :=
    Nat.length_toDigits_le_iff (by decide) (by decide)
  constructor
  · intro isDuration
    obtain ⟨-, accepted⟩ := isDuration_iff.mp isDuration
    rw [toList_natText_second, isGroups, Bool.or_eq_true, Option.any_eq_true] at accepted
    rcases accepted with isEmpty | ⟨rest, isRest, -⟩
    · simp at isEmpty
    · unfold dropGroup at isRest
      rw [Option.ite_none_right_eq_some, List.takeWhile_append_of_pos areDigits] at isRest
      exact fits_iff.mp (by simpa using isRest.1.2)
  · intro fits
    refine ⟨[⟨Nat.toDigits 10 number, ['s']⟩], le_rfl, by simp, ?_, ?_⟩
    · rw [List.forall_mem_singleton]
      exact ⟨Nat.length_toDigits_pos, fits_iff.mpr fits, areDigits, by simp⟩
    · rw [toList_natText_second]
      simp [DurationGroup.text]

theorem not_isDuration_of_head {text : String} {first : Char} {rest : List Char}
    (isText : text.toList = first :: rest) (notDigit : first.isDigit = false) :
    ¬ IsDuration text := by
  rw [isDuration_iff, isText]
  rintro ⟨-, accepted⟩
  simp [isGroups, dropGroup, notDigit] at accepted

end KubeLB.Library
