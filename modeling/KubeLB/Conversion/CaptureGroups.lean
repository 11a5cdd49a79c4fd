import KubeLB.Conversion.Annotations
import Mathlib.Data.List.TakeWhile

/-!
Contract: rewrite targets without references to capture groups.

Owns: the reading of a text as characters and maximal references, which exists and is the
only one, and that `stripCaptureGroups` deletes its references and nothing else.

Does not own: the filter that is made of the target. Only dollar signs and decimal digits
are looked at, so a text may be read by bytes or by characters.
-/

set_option autoImplicit false

namespace KubeLB.Conversion

/-! ## Readings -/

/-- A part of a rewrite target. -/
inductive TargetPiece where
  | plain (char : Char)
  /-- A dollar sign with the digits after it. -/
  | reference (digits : List Char)
  deriving DecidableEq, Repr

def startsWithDigit (text : List Char) : Bool := text.head?.any Char.isDigit

/-- The pieces of a text, with all digits that follow a dollar sign in its reference. -/
inductive MaximalReading : List TargetPiece → List Char → Prop where
  | nil : MaximalReading [] []
  | plain {char : Char} {pieces : List TargetPiece} {rest : List Char}
      (noReference : char = '$' → startsWithDigit rest = false)
      (later : MaximalReading pieces rest) :
      MaximalReading (.plain char :: pieces) (char :: rest)
  | reference {digits : List Char} {pieces : List TargetPiece} {rest : List Char}
      (notEmpty : digits ≠ []) (areDigits : ∀ digit ∈ digits, digit.isDigit = true)
      (maximal : startsWithDigit rest = false) (later : MaximalReading pieces rest) :
      MaximalReading (.reference digits :: pieces) ('$' :: (digits ++ rest))

/-- The text without its references. -/
def unreferencedText : List TargetPiece → List Char
  | [] => []
  | .plain char :: pieces => char :: unreferencedText pieces
  | .reference _ :: pieces => unreferencedText pieces

section Digits

variable {digits rest : List Char}

theorem startsWithDigit_append (notEmpty : digits ≠ [])
    (areDigits : ∀ digit ∈ digits, digit.isDigit = true) :
    startsWithDigit (digits ++ rest) = true := by
  obtain ⟨first, more, rfl⟩ := List.exists_cons_of_ne_nil notEmpty
  exact areDigits first List.mem_cons_self

theorem takeWhile_digits (areDigits : ∀ digit ∈ digits, digit.isDigit = true)
    (maximal : startsWithDigit rest = false) :
    (digits ++ rest).takeWhile Char.isDigit = digits := by
  rw [List.takeWhile_append_of_pos areDigits]
  cases rest with
  | nil => rw [List.takeWhile_nil, List.append_nil]
  | cons first more =>
      have notDigit : ¬ first.isDigit = true := by
        rw [Bool.not_eq_true]
        exact maximal
      rw [List.takeWhile_cons_of_neg notDigit, List.append_nil]

theorem startsWithDigit_dropWhile (text : List Char) :
    startsWithDigit (text.dropWhile Char.isDigit) = false := by
  induction text with
  | nil => rfl
  | cons first more ih =>
      by_cases digit : first.isDigit = true
      · rw [List.dropWhile_cons_of_pos digit]
        exact ih
      · rw [List.dropWhile_cons_of_neg digit]
        exact (Bool.not_eq_true _).mp digit

theorem dropCaptureGroups_digits (areDigits : ∀ digit ∈ digits, digit.isDigit = true) :
    dropCaptureGroups true (digits ++ rest) = dropCaptureGroups true rest := by
  induction digits with
  | nil => rfl
  | cons first more ih =>
      rw [List.forall_mem_cons] at areDigits
      rw [List.cons_append, dropCaptureGroups, areDigits.1, Bool.and_self, if_pos rfl]
      exact ih areDigits.2

end Digits

theorem containsCaptureGroup_cons (char : Char) (rest : List Char) :
    containsCaptureGroup (char :: rest) =
      (decide (char = '$') && startsWithDigit rest || containsCaptureGroup rest) := by
  by_cases dollar : char = '$'
  · subst dollar
    cases rest with
    | nil => rfl
    | cons next more => rfl
  · rw [containsCaptureGroup.eq_2 _ _ (fun _ _ isDollar => absurd isDollar dollar)]
    simp [dollar]

theorem exists_maximalReading (text : List Char) : ∃ pieces, MaximalReading pieces text := by
  induction size : text.length using Nat.strongRecOn generalizing text with
  | ind size ih =>
      subst size
      cases text with
      | nil => exact ⟨[], .nil⟩
      | cons char rest =>
          by_cases isReference : char = '$' ∧ startsWithDigit rest = true
          · obtain ⟨rfl, digit⟩ := isReference
            have shorter : (rest.dropWhile Char.isDigit).length < ('$' :: rest).length :=
              Nat.lt_succ_of_le (List.dropWhile_sublist _).length_le
            obtain ⟨pieces, later⟩ := ih _ shorter _ rfl
            have notEmpty : rest.takeWhile Char.isDigit ≠ [] := by
              cases rest with
              | nil => cases digit
              | cons first more =>
                  have isDigit : first.isDigit = true := digit
                  rw [List.takeWhile_cons_of_pos isDigit]
                  exact List.cons_ne_nil _ _
            have reading := MaximalReading.reference notEmpty
              (fun digit isDigit => List.mem_takeWhile_imp isDigit)
              (startsWithDigit_dropWhile rest) later
            rw [List.takeWhile_append_dropWhile] at reading
            exact ⟨_, reading⟩
          · obtain ⟨pieces, later⟩ := ih _ (Nat.lt_succ_self _) rest rfl
            refine ⟨.plain char :: pieces, .plain (fun dollar => ?_) later⟩
            rw [← Bool.not_eq_true]
            exact fun digit => isReference ⟨dollar, digit⟩

section Reading

variable {pieces : List TargetPiece} {text : List Char}

theorem MaximalReading.unique (reading : MaximalReading pieces text) {other : List TargetPiece}
    (otherReading : MaximalReading other text) : other = pieces := by
  induction reading generalizing other with
  | nil =>
      cases otherReading
      rfl
  | @plain char pieces rest noReference later ih =>
      cases otherReading with
      | plain _ otherLater => rw [ih otherLater]
      | reference notEmpty areDigits _ _ =>
          have digit := noReference rfl
          rw [startsWithDigit_append notEmpty areDigits] at digit
          cases digit
  | @reference digits pieces rest notEmpty areDigits maximal later ih =>
      generalize isTail : digits ++ rest = tail at otherReading
      cases otherReading with
      | plain noReference _ =>
          have digit := noReference rfl
          rw [← isTail, startsWithDigit_append notEmpty areDigits] at digit
          cases digit
      | @reference otherDigits otherPieces otherRest _ otherAreDigits otherMaximal otherLater =>
          have sameDigits : otherDigits = digits := by
            rw [← takeWhile_digits otherAreDigits otherMaximal, ← isTail,
              takeWhile_digits areDigits maximal]
          subst sameDigits
          have sameRest : rest = otherRest := List.append_cancel_left isTail
          subst sameRest
          rw [ih otherLater]

/-- The loop writes the plain characters. While it skips digits, none is left. -/
theorem dropCaptureGroups_of_reading (reading : MaximalReading pieces text) (skipping : Bool)
    (skipped : skipping = true → startsWithDigit text = false) :
    dropCaptureGroups skipping text = unreferencedText pieces := by
  induction reading generalizing skipping with
  | nil => rfl
  | @plain char pieces rest noReference later ih =>
      have notSkipped : (skipping && char.isDigit) = false := by
        cases skipping with
        | false => rfl
        | true => exact skipped rfl
      have notReference : (decide (char = '$') && rest.head?.any Char.isDigit) = false := by
        by_cases dollar : char = '$'
        · rw [Bool.and_eq_false_iff]
          exact .inr (noReference dollar)
        · rw [decide_eq_false dollar, Bool.false_and]
      rw [dropCaptureGroups, notSkipped, notReference, if_neg Bool.false_ne_true,
        if_neg Bool.false_ne_true, ih false nofun]
      rfl
  | @reference digits pieces rest notEmpty areDigits maximal later ih =>
      have dollar : (skipping && '$'.isDigit) = false := by
        rw [Bool.and_eq_false_iff]
        exact .inr rfl
      have isReference : (decide ('$' = '$') && (digits ++ rest).head?.any Char.isDigit) = true :=
        startsWithDigit_append notEmpty areDigits
      rw [dropCaptureGroups, dollar, isReference, if_neg Bool.false_ne_true, if_pos rfl,
        dropCaptureGroups_digits areDigits, ih true (fun _ => maximal)]
      rfl

/-- Deleted references bring no digit to the front. -/
theorem startsWithDigit_unreferencedText (reading : MaximalReading pieces text)
    (noDigit : startsWithDigit text = false) :
    startsWithDigit (unreferencedText pieces) = false := by
  induction reading with
  | nil => rfl
  | plain _ _ _ => exact noDigit
  | reference _ _ maximal _ ih => exact ih maximal

/-- No deletion joins a dollar sign with a digit. -/
theorem containsCaptureGroup_unreferencedText (reading : MaximalReading pieces text) :
    containsCaptureGroup (unreferencedText pieces) = false := by
  induction reading with
  | nil => rfl
  | @plain char pieces rest noReference later ih =>
      rw [unreferencedText, containsCaptureGroup_cons, ih, Bool.or_false,
        Bool.and_eq_false_iff, decide_eq_false_iff_not]
      by_cases dollar : char = '$'
      · exact .inr (startsWithDigit_unreferencedText later (noReference dollar))
      · exact .inl dollar
  | reference _ _ _ _ ih => exact ih

theorem unreferencedText_of_not_contains (reading : MaximalReading pieces text)
    (noGroup : containsCaptureGroup text = false) : unreferencedText pieces = text := by
  induction reading with
  | nil => rfl
  | plain _ _ ih =>
      rw [containsCaptureGroup_cons, Bool.or_eq_false_iff] at noGroup
      rw [unreferencedText, ih noGroup.2]
  | reference notEmpty areDigits _ _ _ =>
      rw [containsCaptureGroup_cons, startsWithDigit_append notEmpty areDigits] at noGroup
      cases noGroup

theorem stripCaptureGroups_of_reading {value : String}
    (reading : MaximalReading pieces value.toList) :
    stripCaptureGroups value =
      if unreferencedText pieces = [] then "/" else String.ofList (unreferencedText pieces) := by
  rw [stripCaptureGroups, dropCaptureGroups_of_reading reading false nofun]
  simp only [String.ofList_eq_empty_iff]

end Reading

/-! ## The stripped text -/

theorem stripCaptureGroups_ne_empty (value : String) : stripCaptureGroups value ≠ "" := by
  unfold stripCaptureGroups
  simp only
  split
  · decide
  · assumption

theorem containsCaptureGroup_strip (value : String) :
    containsCaptureGroup (stripCaptureGroups value).toList = false := by
  obtain ⟨pieces, reading⟩ := exists_maximalReading value.toList
  rw [stripCaptureGroups_of_reading reading]
  split
  · rfl
  · rw [String.toList_ofList]
    exact containsCaptureGroup_unreferencedText reading

theorem stripCaptureGroups_eq_self {value : String} (notEmpty : value ≠ "")
    (noGroup : containsCaptureGroup value.toList = false) : stripCaptureGroups value = value := by
  obtain ⟨pieces, reading⟩ := exists_maximalReading value.toList
  rw [stripCaptureGroups_of_reading reading, unreferencedText_of_not_contains reading noGroup,
    String.ofList_toList, if_neg]
  rwa [String.toList_eq_nil_iff]

/-- A stripped target is not empty and has no reference, only targets of this kind stay as
they are, stripping again changes nothing, and what is deleted are the references of the
one reading of the target. -/
theorem stripCaptureGroups_spec (value : String) :
    stripCaptureGroups value ≠ "" ∧
      containsCaptureGroup (stripCaptureGroups value).toList = false ∧
      (stripCaptureGroups value = value ↔
        value ≠ "" ∧ containsCaptureGroup value.toList = false) ∧
      stripCaptureGroups (stripCaptureGroups value) = stripCaptureGroups value ∧
      ∃ pieces, MaximalReading pieces value.toList ∧
        (∀ other, MaximalReading other value.toList → other = pieces) ∧
        stripCaptureGroups value =
          if unreferencedText pieces = [] then "/"
          else String.ofList (unreferencedText pieces) := by
  have notEmpty := stripCaptureGroups_ne_empty value
  have noGroup := containsCaptureGroup_strip value
  obtain ⟨pieces, reading⟩ := exists_maximalReading value.toList
  refine ⟨notEmpty, noGroup, ⟨?_, ?_⟩, stripCaptureGroups_eq_self notEmpty noGroup, pieces,
    reading, fun other => reading.unique, stripCaptureGroups_of_reading reading⟩
  · intro same
    rw [same] at notEmpty noGroup
    exact ⟨notEmpty, noGroup⟩
  · rintro ⟨isText, isPlain⟩
    exact stripCaptureGroups_eq_self isText isPlain

/-- The digits after the second dollar sign go with it. -/
example : stripCaptureGroups "/a$$12b$" = "/a$b$" := by decide +kernel

end KubeLB.Conversion
