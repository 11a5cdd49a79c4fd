import KubeLB.Library.Utf8

/-!
Contract: a scanner that reads a stream of bytes line by line.

Owns: the lines of a stream, the return at the end of a line that is dropped, the limit
on the length of a line, and the lines that written lines are read back as.

Does not own: what is done with a line.
-/

set_option autoImplicit false

namespace KubeLB.Library

/-- The byte that ends a line. -/
def newline : UInt8 := 10

def carriageReturn : UInt8 := 13

/-- The lines of a stream. What follows the last newline is a line if it is not empty. -/
def splitLines : GoString → List GoString
  | [] => []
  | byte :: rest =>
      if byte = newline then [] :: splitLines rest
      else
        match splitLines rest with
        | [] => [[byte]]
        | first :: others => (byte :: first) :: others

def dropReturn (line : GoString) : GoString :=
  if line.getLast? = some carriageReturn then line.dropLast else line

/-- The lines before the first one that does not fit in the buffer, and whether there is
such a line. -/
def scanLines (limit : Nat) : List GoString → List GoString × Bool
  | [] => ([], false)
  | line :: rest =>
      if line.length < limit then
        (dropReturn line :: (scanLines limit rest).1, (scanLines limit rest).2)
      else ([], true)

theorem splitLines_append {line : GoString} (inOneLine : newline ∉ line) (rest : GoString) :
    splitLines (line ++ newline :: rest) = line :: splitLines rest := by
  induction line with
  | nil => simp [splitLines]
  | cons byte line ih =>
      rw [List.mem_cons, not_or] at inOneLine
      rw [List.cons_append, splitLines, if_neg (Ne.symm inOneLine.1),
        ih inOneLine.2]

/-- A return is dropped behind a text that does not end with one. -/
theorem dropReturn_append {start : GoString} (noReturn : start.getLast? ≠ some carriageReturn)
    (line : GoString) : dropReturn (start ++ line) = start ++ dropReturn line := by
  unfold dropReturn
  rw [List.getLast?_append]
  cases isEmpty : line with
  | nil => simp [noReturn]
  | cons byte rest =>
      rw [List.getLast?_eq_some_getLast (List.cons_ne_nil byte rest), Option.some_or]
      split
      · rw [List.dropLast_append_of_ne_nil (List.cons_ne_nil byte rest)]
      · rfl

theorem dropReturn_eq_self_iff {line : GoString} :
    dropReturn line = line ↔ line.getLast? ≠ some carriageReturn := by
  unfold dropReturn
  split
  · rename_i isReturn
    have notEmpty : line ≠ [] := by
      rintro rfl
      cases isReturn
    have shorter : line.dropLast.length < line.length := by
      rw [List.length_dropLast]
      have := List.length_pos_of_ne_nil notEmpty
      omega
    refine iff_of_false (fun same => ?_) (not_not_intro isReturn)
    rw [same] at shorter
    exact lt_irrefl _ shorter
  · rename_i noReturn
    exact iff_of_true rfl noReturn

/-- A line is read as a text if it is the text, or the text and a return. -/
theorem dropReturn_eq_iff {line text : GoString} (noReturn : text.getLast? ≠ some carriageReturn) :
    dropReturn line = text ↔ line = text ∨ line = text ++ [carriageReturn] := by
  unfold dropReturn
  split
  · rename_i isReturn
    have notEmpty : line ≠ [] := by
      rintro rfl
      cases isReturn
    have isLast : line.getLast notEmpty = carriageReturn := by
      rw [List.getLast?_eq_some_getLast notEmpty] at isReturn
      exact Option.some.inj isReturn
    have joined := List.dropLast_append_getLast notEmpty
    rw [isLast] at joined
    constructor
    · rintro rfl
      exact Or.inr joined.symm
    · rintro (rfl | isLonger)
      · exact absurd isReturn noReturn
      · rw [isLonger, List.dropLast_concat]
  · rename_i isOther
    constructor
    · exact Or.inl
    · rintro (same | isLonger)
      · exact same
      · rw [isLonger, List.getLast?_concat] at isOther
        exact absurd rfl isOther

end KubeLB.Library
