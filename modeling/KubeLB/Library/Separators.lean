import Mathlib.Data.List.Basic

/-!
Contract: lists of pieces that are joined with a separator and split at it again.

Owns: the pieces of a split, and the lists that survive a join and a split, also when the
join pads its separator.

Does not own: trimming of the pieces.
-/

set_option autoImplicit false

namespace KubeLB.Library

universe u

variable {Item : Type u} [BEq Item] [LawfulBEq Item] {separator : Item}

theorem notMem_of_mem_splitOn {items piece : List Item}
    (member : piece ∈ items.splitOn separator) : separator ∉ piece := by
  induction items generalizing piece with
  | nil =>
      rw [List.splitOn_nil, List.mem_singleton] at member
      subst member
      exact List.not_mem_nil
  | cons head tail ih =>
      rw [List.splitOn_cons_eq_if_modifyHead] at member
      split at member
      · rcases List.mem_cons.mp member with rfl | inTail
        · exact List.not_mem_nil
        · exact ih inTail
      · rename_i notSeparator
        -- the head joins the first piece of the tail
        obtain ⟨first, rest, pieces⟩ := List.exists_cons_of_ne_nil
          (List.splitOn_ne_nil separator tail)
        rw [pieces] at member ih
        rcases List.mem_cons.mp member with rfl | inRest
        · rw [List.mem_cons, not_or]
          refine ⟨?_, ih List.mem_cons_self⟩
          rintro rfl
          exact notSeparator (beq_self_eq_true _)
        · exact ih (List.mem_cons_of_mem _ inRest)

/-- A split gives back exactly the pieces in which the separator does not occur. -/
theorem splitOn_intercalate_iff {pieces : List (List Item)} :
    ([separator].intercalate pieces).splitOn separator = pieces ↔
      pieces ≠ [] ∧ ∀ piece ∈ pieces, separator ∉ piece := by
  constructor
  · intro same
    refine ⟨?_, ?_⟩
    · rintro rfl
      exact List.splitOn_ne_nil _ _ same
    · intro piece isPiece
      rw [← same] at isPiece
      exact notMem_of_mem_splitOn isPiece
  · rintro ⟨notEmpty, plain⟩
    exact List.splitOn_intercalate separator plain notEmpty

omit [BEq Item] [LawfulBEq Item] in
theorem prefix_append_separator_iff {searched : List Item} (lacking : separator ∉ searched)
    (before after : List Item) :
    searched <+: before ++ separator :: after ↔ searched <+: before := by
  refine ⟨fun isPrefix => ?_, fun isPrefix => isPrefix.trans (List.prefix_append _ _)⟩
  have upToSeparator : before ++ [separator] <+: before ++ separator :: after :=
    ⟨after, by rw [List.append_assoc, List.singleton_append]⟩
  rcases List.prefix_or_prefix_of_prefix isPrefix upToSeparator with within | beyond
  · rcases List.prefix_concat_iff.mp within with rfl | isPrefix
    · exact absurd List.mem_concat_self lacking
    · exact isPrefix
  · exact absurd (beyond.subset List.mem_concat_self) lacking

omit [BEq Item] [LawfulBEq Item] in
/-- What lacks the separator is not found across it. -/
theorem infix_append_separator_iff {searched before after : List Item}
    (lacking : separator ∉ searched) :
    searched <:+: before ++ separator :: after ↔ searched <:+: before ∨ searched <:+: after := by
  induction before with
  | nil =>
      have atSeparator := prefix_append_separator_iff lacking [] after
      rw [List.nil_append] at atSeparator ⊢
      rw [List.infix_cons_iff, atSeparator, List.prefix_nil, List.infix_nil]
  | cons head before ih =>
      have atHead := prefix_append_separator_iff lacking (head :: before) after
      rw [List.cons_append] at atHead ⊢
      rw [List.infix_cons_iff, List.infix_cons_iff, ih, atHead, or_assoc]

omit [BEq Item] [LawfulBEq Item] in
theorem length_intercalate_le (padding : List Item) (pieces : List (List Item)) :
    ([separator].intercalate pieces).length ≤
      ((separator :: padding).intercalate pieces).length := by
  induction pieces with
  | nil => exact Nat.le_refl _
  | cons piece pieces ih =>
      cases pieces with
      | nil =>
          exact Nat.le_of_eq (by rw [List.intercalate_singleton, List.intercalate_singleton])
      | cons next pieces =>
          rw [List.intercalate_cons_cons, List.intercalate_cons_cons]
          simp only [List.length_append, List.length_cons, List.length_nil]
          omega

/-- A split at the separator alone gives back only single pieces of a join that pads. -/
theorem splitOn_intercalate_padded_iff {padding : List Item} {pieces : List (List Item)}
    (padded : padding ≠ []) :
    ((separator :: padding).intercalate pieces).splitOn separator = pieces ↔
      ∃ piece, pieces = [piece] ∧ separator ∉ piece := by
  constructor
  · intro same
    have joined : [separator].intercalate pieces = (separator :: padding).intercalate pieces := by
      rw [← same, List.intercalate_splitOn, same]
    match pieces with
    | [] => exact absurd same (List.splitOn_ne_nil _ _)
    | [piece] =>
        have isPiece : piece ∈ ((separator :: padding).intercalate [piece]).splitOn separator := by
          rw [same]
          exact List.mem_singleton_self piece
        exact ⟨piece, rfl, notMem_of_mem_splitOn isPiece⟩
    | piece :: next :: rest =>
        -- the padding makes the join longer
        have longer := @length_intercalate_le _ separator padding (next :: rest)
        have size := congrArg List.length joined
        rw [List.intercalate_cons_cons, List.intercalate_cons_cons] at size
        simp only [List.length_append, List.length_cons, List.length_nil] at size
        have positive := List.length_pos_of_ne_nil padded
        omega
  · rintro ⟨piece, rfl, plain⟩
    rw [List.intercalate_singleton]
    exact List.splitOn_eq_singleton plain

end KubeLB.Library
