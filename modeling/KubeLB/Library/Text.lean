import Mathlib.Data.List.Basic
import Mathlib.Data.String.Basic

/-!
Contract: when a text assembled with separators determines its parts.

Owns: cutting a list at its first or last separator, the same for strings and
one separating character, the parts of a text that ends or starts with a
decimal number, and the words of a text whose separators are printed alike.

Does not own: any particular format. A format names its separators and applies
the rules below.
-/

set_option autoImplicit false

namespace KubeLB.Library

universe u

section Cut

variable {α : Type u} {separator : α}

theorem cut_first_separator
    {left left' right right' : List α}
    (absent : separator ∉ left)
    (absent' : separator ∉ left')
    (same : left ++ separator :: right = left' ++ separator :: right') :
    left = left' ∧ right = right' := by
  induction left generalizing left' with
  | nil =>
      cases left' with
      | nil => simpa using same
      | cons head tail =>
          have isSeparator : separator = head := by
            simpa using congrArg List.head? same
          exact absurd (isSeparator ▸ List.mem_cons_self) absent'
  | cons head tail ih =>
      cases left' with
      | nil =>
          have isSeparator : head = separator := by
            simpa using congrArg List.head? same
          exact absurd (isSeparator ▸ List.mem_cons_self) absent
      | cons head' tail' =>
          simp only [List.cons_append, List.cons.injEq] at same
          obtain ⟨tailEq, rightEq⟩ := ih
            (fun member => absent (List.mem_cons_of_mem _ member))
            (fun member => absent' (List.mem_cons_of_mem _ member)) same.2
          exact ⟨by rw [same.1, tailEq], rightEq⟩

theorem cut_last_separator
    {left left' right right' : List α}
    (absent : separator ∉ right)
    (absent' : separator ∉ right')
    (same : left ++ separator :: right = left' ++ separator :: right') :
    left = left' ∧ right = right' := by
  have reversed : right.reverse ++ separator :: left.reverse =
      right'.reverse ++ separator :: left'.reverse := by
    simpa using congrArg List.reverse same
  obtain ⟨rightEq, leftEq⟩ := cut_first_separator
    (by simpa using absent) (by simpa using absent') reversed
  exact ⟨List.reverse_injective leftEq, List.reverse_injective rightEq⟩

end Cut

/-- A text in which the separator does not occur. -/
def Lacks (separator : Char) (text : String) : Prop := separator ∉ text.toList

instance (separator : Char) (text : String) : Decidable (Lacks separator text) :=
  inferInstanceAs (Decidable (separator ∉ text.toList))

section Mark

variable {separator : Char} {mark left left' right right' : String}

theorem toList_mark_append (isMark : mark.toList = [separator]) (front rest : String) :
    (front ++ mark ++ rest).toList = front.toList ++ separator :: rest.toList := by
  simp [isMark]

theorem cut_first_mark
    (isMark : mark.toList = [separator])
    (plain : Lacks separator left)
    (plain' : Lacks separator left')
    (same : left ++ mark ++ right = left' ++ mark ++ right') :
    left = left' ∧ right = right' := by
  have lists := congrArg String.toList same
  rw [toList_mark_append isMark, toList_mark_append isMark] at lists
  obtain ⟨leftEq, rightEq⟩ := cut_first_separator plain plain' lists
  exact ⟨String.toList_injective leftEq, String.toList_injective rightEq⟩

theorem cut_last_mark
    (isMark : mark.toList = [separator])
    (plain : Lacks separator right)
    (plain' : Lacks separator right')
    (same : left ++ mark ++ right = left' ++ mark ++ right') :
    left = left' ∧ right = right' := by
  have lists := congrArg String.toList same
  rw [toList_mark_append isMark, toList_mark_append isMark] at lists
  obtain ⟨leftEq, rightEq⟩ := cut_last_separator plain plain' lists
  exact ⟨String.toList_injective leftEq, String.toList_injective rightEq⟩

end Mark

/-- A text without the separating dash. -/
abbrev NoDash (text : String) : Prop := Lacks '-' text

theorem cut_first_dash
    {left left' right right' : String}
    (plain : NoDash left)
    (plain' : NoDash left')
    (same : left ++ "-" ++ right = left' ++ "-" ++ right') :
    left = left' ∧ right = right' :=
  cut_first_mark rfl plain plain' same

theorem cut_last_dash
    {left left' right right' : String}
    (plain : NoDash right)
    (plain' : NoDash right')
    (same : left ++ "-" ++ right = left' ++ "-" ++ right') :
    left = left' ∧ right = right' :=
  cut_last_mark rfl plain plain' same

theorem lacks_natText {separator : Char} (notDigit : separator.isDigit = false) (number : Nat) :
    Lacks separator (toString number) := by
  intro member
  have digit := Nat.isDigit_of_mem_toDigits (by decide) (by decide)
    (Nat.toList_repr ▸ member : separator ∈ Nat.toDigits 10 number)
  rw [notDigit] at digit
  cases digit

theorem noDash_natText (number : Nat) : NoDash (toString number) :=
  lacks_natText (by decide) number

theorem natText_injective {number number' : Nat}
    (same : toString number = toString number') : number = number' := by
  have digits : Nat.toDigits 10 number = Nat.toDigits 10 number' := by
    rw [← Nat.toList_repr, ← Nat.toList_repr]
    exact congrArg String.toList same
  simpa using congrArg (fun chars => Nat.ofDigitChars 10 chars 0) digits

theorem natText_ne_empty (number : Nat) : toString number ≠ "" := by
  intro empty
  have digits : Nat.toDigits 10 number = [] := by
    rw [← Nat.toList_repr]
    exact congrArg String.toList empty
  exact Nat.toDigits_ne_nil digits

/-- A signed number in decimal is its digits, after one dash when it is
negative. -/
theorem intText_cases (number : Int) :
    (∃ magnitude : Nat, number = magnitude ∧ toString number = toString magnitude) ∨
    (∃ magnitude : Nat, number = -(magnitude + 1 : Nat) ∧
      toString number = "-" ++ toString (magnitude + 1)) := by
  cases number with
  | ofNat magnitude => exact Or.inl ⟨magnitude, rfl, rfl⟩
  | negSucc magnitude => exact Or.inr ⟨magnitude, rfl, rfl⟩

private theorem natText_dash_ne_dash (number : Nat) (right right' : String) :
    toString number ++ "-" ++ right ≠ "-" ++ right' := by
  intro same
  have shifted : toString number ++ "-" ++ right = "" ++ "-" ++ right' := by
    rw [same, String.empty_append]
  exact natText_ne_empty number
    (cut_first_dash (noDash_natText number) (by decide) shifted).1

/-- A text that starts with a signed number and a dash determines both. -/
theorem intText_dash_injective
    {number number' : Int}
    {right right' : String}
    (same : toString number ++ "-" ++ right = toString number' ++ "-" ++ right') :
    number = number' ∧ right = right' := by
  rcases intText_cases number with ⟨size, rfl, text⟩ | ⟨size, rfl, text⟩ <;>
    rcases intText_cases number' with ⟨size', rfl, text'⟩ | ⟨size', rfl, text'⟩ <;>
    rw [text, text'] at same
  · obtain ⟨digits, rest⟩ := cut_first_dash (noDash_natText _) (noDash_natText _) same
    exact ⟨by rw [natText_injective digits], rest⟩
  · -- only one of the two numbers starts with a dash
    simp only [String.append_assoc] at same
    exact absurd (String.append_assoc ▸ same) (natText_dash_ne_dash _ _ _)
  · simp only [String.append_assoc] at same
    exact absurd (String.append_assoc ▸ same.symm) (natText_dash_ne_dash _ _ _)
  · rw [String.append_assoc, String.append_assoc, String.append_assoc, String.append_assoc,
      String.append_right_inj, ← String.append_assoc, ← String.append_assoc] at same
    obtain ⟨digits, rest⟩ := cut_first_dash (noDash_natText _) (noDash_natText _) same
    exact ⟨by rw [natText_injective digits], rest⟩

/-- A text that ends with a dash and a signed number determines both, when the
mark before that dash cannot itself end in a dash. -/
theorem dash_intText_injective
    {mark : String}
    (markPlain : mark.toList.getLast? ≠ some '-')
    (markNonempty : mark ≠ "")
    {left left' : String}
    {number number' : Int}
    (same : left ++ mark ++ "-" ++ toString number =
      left' ++ mark ++ "-" ++ toString number') :
    left = left' ∧ number = number' := by
  have markEnd (text text' : String) : text ++ mark ≠ text' ++ "-" := by
    intro equal
    have ends := congrArg (fun s : String => s.toList.getLast?) equal
    have nonempty : mark.toList ≠ [] := fun empty =>
      markNonempty (String.toList_injective empty)
    simp only [String.toList_append, List.getLast?_append] at ends
    rw [List.getLast?_eq_some_getLast nonempty] at ends markPlain
    exact markPlain (by simpa using ends)
  rcases intText_cases number with ⟨size, rfl, text⟩ | ⟨size, rfl, text⟩ <;>
    rcases intText_cases number' with ⟨size', rfl, text'⟩ | ⟨size', rfl, text'⟩ <;>
    rw [text, text'] at same
  · obtain ⟨front, digits⟩ := cut_last_dash (noDash_natText _) (noDash_natText _) same
    exact ⟨(String.append_left_inj mark).mp front, by rw [natText_injective digits]⟩
  · rw [← String.append_assoc] at same
    obtain ⟨front, -⟩ := cut_last_dash (noDash_natText _) (noDash_natText _) same
    exact absurd front (markEnd _ _)
  · rw [← String.append_assoc] at same
    obtain ⟨front, -⟩ := cut_last_dash (noDash_natText _) (noDash_natText _) same
    exact absurd front.symm (markEnd _ _)
  · rw [← String.append_assoc, ← String.append_assoc] at same
    obtain ⟨front, digits⟩ := cut_last_dash (noDash_natText _) (noDash_natText _) same
    rw [String.append_left_inj, String.append_left_inj] at front
    exact ⟨front, by rw [natText_injective digits]⟩

/-! ## Words -/

/-- A text is the list of its words. -/
theorem splitOn_inj {α : Type u} [BEq α] [LawfulBEq α] {mark : α} {text text' : List α} :
    text.splitOn mark = text'.splitOn mark ↔ text = text' := by
  constructor
  · intro same
    have read (chars : List α) : [mark].intercalate (chars.splitOn mark) = chars :=
      List.intercalate_splitOn mark
    rw [← read text, same, read]
  · exact congrArg _

theorem splitOn_map
    {mark : Char}
    {isSeparator : Char → Bool}
    {printed : Char → Char}
    {text : List Char}
    (marks : ∀ char ∈ text, isSeparator char = true → printed char = mark)
    (kept : ∀ char ∈ text, isSeparator char = false → printed char = char ∧ char ≠ mark) :
    (text.map printed).splitOn mark = text.splitOnP isSeparator := by
  induction text with
  | nil => simp
  | cons head tail ih =>
      have rest := ih
        (fun char member => marks char (List.mem_cons_of_mem _ member))
        (fun char member => kept char (List.mem_cons_of_mem _ member))
      rw [List.map_cons, List.splitOn_cons_eq_if_modifyHead,
        List.splitOnP_cons_eq_if_modifyHead, rest]
      cases separates : isSeparator head with
      | true => simp [marks head List.mem_cons_self separates]
      | false =>
          obtain ⟨same, other⟩ := kept head List.mem_cons_self separates
          simp [same, other]

theorem utf8Len_of_ascii {text : List Char} (ascii : ∀ char ∈ text, char.val ≤ 127) :
    String.utf8Len text = text.length := by
  induction text with
  | nil => rfl
  | cons head tail ih =>
      rw [String.utf8Len_cons, List.length_cons,
        ih fun char member => ascii char (List.mem_cons_of_mem _ member),
        Char.utf8Size_eq_one_iff.mpr (ascii head List.mem_cons_self)]

end KubeLB.Library
