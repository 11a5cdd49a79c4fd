import Mathlib.Data.List.Basic
import Mathlib.Data.List.Infix

/-!
Contract: texts without given pieces at their ends.

Owns: the removal of pieces from the start and the end of a text, as often as there is
one, what is left, and that a second removal changes nothing.

Does not own: which pieces are removed.
-/

set_option autoImplicit false

namespace KubeLB.Library

universe u

variable {α : Type u} [DecidableEq α] (blanks : List (List α))

def StartsBlank (text : List α) : Prop := ∃ blank ∈ blanks, blank <+: text

def EndsBlank (text : List α) : Prop := ∃ blank ∈ blanks, blank <:+ text

/-- Remove pieces from the start, with a bound for the number of rounds. -/
def trimStartWithin : Nat → List α → List α
  | 0, text => text
  | rounds + 1, text =>
      match blanks.find? (fun blank => decide (blank <+: text)) with
      | none => text
      | some blank => trimStartWithin rounds (text.drop blank.length)

def trimStart (text : List α) : List α := trimStartWithin blanks text.length text

def trimEnd (text : List α) : List α :=
  (trimStart (blanks.map List.reverse) text.reverse).reverse

/-- Remove pieces from both ends. -/
def trim (text : List α) : List α := trimEnd blanks (trimStart blanks text)

variable {blanks} {text : List α}

theorem trimStartWithin_suffix (rounds : Nat) : trimStartWithin blanks rounds text <:+ text := by
  induction rounds generalizing text with
  | zero => exact List.suffix_refl _
  | succ rounds ih =>
      rw [trimStartWithin]
      split
      · exact List.suffix_refl _
      · exact ih.trans (List.drop_suffix _ _)

theorem not_startsBlank_trimStartWithin (proper : [] ∉ blanks) {rounds : Nat}
    (enough : text.length ≤ rounds) :
    ¬ StartsBlank blanks (trimStartWithin blanks rounds text) := by
  induction rounds generalizing text with
  | zero =>
      rintro ⟨blank, isBlank, starts⟩
      rw [trimStartWithin, List.eq_nil_of_length_eq_zero (by omega : text.length = 0),
        List.prefix_nil] at starts
      exact proper (starts ▸ isBlank)
  | succ rounds ih =>
      rw [trimStartWithin]
      split
      · rename_i noBlank
        rintro ⟨blank, isBlank, starts⟩
        exact List.find?_eq_none.mp noBlank blank isBlank (decide_eq_true starts)
      · rename_i blank found
        apply ih
        have notEmpty : blank ≠ [] := fun empty => proper (empty ▸ List.mem_of_find?_eq_some found)
        have positive := List.length_pos_of_ne_nil notEmpty
        rw [List.length_drop]
        omega

theorem trimStart_eq_self (plain : ¬ StartsBlank blanks text) : trimStart blanks text = text := by
  unfold trimStart
  cases text.length with
  | zero => rfl
  | succ rounds =>
      rw [trimStartWithin]
      split
      · rfl
      · rename_i blank found
        have starts := List.find?_some found
        rw [decide_eq_true_eq] at starts
        exact absurd ⟨blank, List.mem_of_find?_eq_some found, starts⟩ plain

theorem not_startsBlank_trimStart (proper : [] ∉ blanks) :
    ¬ StartsBlank blanks (trimStart blanks text) :=
  not_startsBlank_trimStartWithin proper (Nat.le_refl _)

omit [DecidableEq α] in
theorem startsBlank_reverse_iff :
    StartsBlank (blanks.map List.reverse) text.reverse ↔ EndsBlank blanks text := by
  constructor
  · rintro ⟨reversed, isReversed, starts⟩
    obtain ⟨blank, isBlank, rfl⟩ := List.mem_map.mp isReversed
    exact ⟨blank, isBlank, List.reverse_prefix.mp starts⟩
  · rintro ⟨blank, isBlank, ends⟩
    exact ⟨blank.reverse, List.mem_map_of_mem isBlank, List.reverse_prefix.mpr ends⟩

theorem trimEnd_prefix : trimEnd blanks text <+: text := by
  rw [← List.reverse_suffix, trimEnd, List.reverse_reverse]
  exact trimStartWithin_suffix _

theorem trimEnd_eq_self (plain : ¬ EndsBlank blanks text) : trimEnd blanks text = text := by
  rw [trimEnd, trimStart_eq_self (startsBlank_reverse_iff.not.mpr plain), List.reverse_reverse]

theorem not_endsBlank_trimEnd (proper : [] ∉ blanks) :
    ¬ EndsBlank blanks (trimEnd blanks text) := by
  have properReverse : [] ∉ blanks.map List.reverse := by
    rw [List.mem_map]
    rintro ⟨blank, isBlank, empty⟩
    exact proper (List.reverse_eq_nil_iff.mp empty ▸ isBlank)
  rw [← startsBlank_reverse_iff, trimEnd, List.reverse_reverse]
  exact not_startsBlank_trimStart properReverse

theorem trim_eq_self (plainStart : ¬ StartsBlank blanks text) (plainEnd : ¬ EndsBlank blanks text) :
    trim blanks text = text := by
  rw [trim, trimStart_eq_self plainStart, trimEnd_eq_self plainEnd]

theorem trim_trim (proper : [] ∉ blanks) : trim blanks (trim blanks text) = trim blanks text := by
  refine trim_eq_self ?_ (not_endsBlank_trimEnd proper)
  -- what starts the trimmed text starts the text before its end was trimmed
  rintro ⟨blank, isBlank, starts⟩
  exact not_startsBlank_trimStart proper ⟨blank, isBlank, starts.trans trimEnd_prefix⟩

theorem mem_of_mem_trim {item : α} (member : item ∈ trim blanks text) : item ∈ text :=
  (trimStartWithin_suffix _).subset <| trimEnd_prefix.subset member

end KubeLB.Library
