import KubeLB.Library.Utf8

/-!
Contract: the standard base64 encoding with padding.

Owns: the encoding of bytes, the decoding that skips line breaks, that decoding undoes
encoding, the bytes that an encoded text may have, and which ASCII bytes encode to a plus
sign.

Does not own: other alphabets, and the bits of a last digit that stand for nothing, which the
decoding ignores.
-/

set_option autoImplicit false

namespace KubeLB.Library.Base64

def digit (value : Nat) : UInt8 :=
  if value < 26 then UInt8.ofNat (65 + value)
  else if value < 52 then UInt8.ofNat (71 + value)
  else if value < 62 then UInt8.ofNat (value - 4)
  else if value = 62 then 43
  else 47

def plus : UInt8 := 43
def padding : UInt8 := 61

def valueOf (byte : UInt8) : Option Nat :=
  if 65 ≤ byte.toNat ∧ byte.toNat ≤ 90 then some (byte.toNat - 65)
  else if 97 ≤ byte.toNat ∧ byte.toNat ≤ 122 then some (byte.toNat - 71)
  else if 48 ≤ byte.toNat ∧ byte.toNat ≤ 57 then some (byte.toNat + 4)
  else if byte = 43 then some 62
  else if byte = 47 then some 63
  else none

def firstValue (first : UInt8) : Nat := first.toNat / 4
def secondValue (first second : UInt8) : Nat := first.toNat % 4 * 16 + second.toNat / 16
def thirdValue (second third : UInt8) : Nat := second.toNat % 16 * 4 + third.toNat / 64
def fourthValue (third : UInt8) : Nat := third.toNat % 64

/-- `StdEncoding.EncodeToString`. -/
def encode : GoString → GoString
  | [] => []
  | [first] => [digit (firstValue first), digit (secondValue first 0), padding, padding]
  | [first, second] =>
      [digit (firstValue first), digit (secondValue first second), digit (thirdValue second 0),
        padding]
  | first :: second :: third :: rest =>
      digit (firstValue first) :: digit (secondValue first second) ::
        digit (thirdValue second third) :: digit (fourthValue third) :: encode rest

/-- The bytes of digits; padding ends the text. -/
def decodeDigits : GoString → Option GoString
  | [] => some []
  | first :: second :: third :: fourth :: rest => do
      let firstValue ← valueOf first
      let secondValue ← valueOf second
      let firstByte := UInt8.ofNat (firstValue * 4 + secondValue / 16)
      if third = padding then
        if fourth = padding ∧ rest = [] then some [firstByte] else none
      else
        let thirdValue ← valueOf third
        let secondByte := UInt8.ofNat (secondValue % 16 * 16 + thirdValue / 4)
        if fourth = padding then
          if rest = [] then some [firstByte, secondByte] else none
        else
          let fourthValue ← valueOf fourth
          let decoded ← decodeDigits rest
          some (firstByte :: secondByte :: UInt8.ofNat (thirdValue % 4 * 64 + fourthValue) ::
            decoded)
  | _ => none

/-- `StdEncoding.DecodeString`. -/
def decode (text : GoString) : Option GoString :=
  decodeDigits (text.filter (fun byte => byte ≠ 10 ∧ byte ≠ 13))

/-! ## Digits -/

theorem valueOf_digit {value : Nat} (inRange : value < 64) :
    valueOf (digit value) = some value := by
  have all : ∀ value < 64, valueOf (digit value) = some value := by decide
  exact all value inRange

theorem firstValue_lt (first : UInt8) : firstValue first < 64 := by
  have := first.toNat_lt
  unfold firstValue
  omega

theorem secondValue_lt (first second : UInt8) : secondValue first second < 64 := by
  have := second.toNat_lt
  unfold secondValue
  omega

theorem thirdValue_lt (second third : UInt8) : thirdValue second third < 64 := by
  have := third.toNat_lt
  unfold thirdValue
  omega

theorem fourthValue_lt (third : UInt8) : fourthValue third < 64 := by
  unfold fourthValue
  omega

def IsEncoded (byte : UInt8) : Prop := (valueOf byte).isSome ∨ byte = padding

theorem isEncoded_digit {value : Nat} (inRange : value < 64) : IsEncoded (digit value) :=
  Or.inl (by rw [valueOf_digit inRange]; rfl)

theorem isEncoded_of_mem_encode {bytes : GoString} {byte : UInt8} (isByte : byte ∈ encode bytes) :
    IsEncoded byte := by
  have isDigit {value : Nat} (inRange : value < 64) (same : byte = digit value) :
      IsEncoded byte := same ▸ isEncoded_digit inRange
  fun_induction encode bytes with
  | case1 => simp at isByte
  | case2 first =>
      simp only [List.mem_cons, List.not_mem_nil, or_false] at isByte
      rcases isByte with same | same | same | same
      · exact isDigit (firstValue_lt _) same
      · exact isDigit (secondValue_lt _ _) same
      · exact Or.inr same
      · exact Or.inr same
  | case3 first second =>
      simp only [List.mem_cons, List.not_mem_nil, or_false] at isByte
      rcases isByte with same | same | same | same
      · exact isDigit (firstValue_lt _) same
      · exact isDigit (secondValue_lt _ _) same
      · exact isDigit (thirdValue_lt _ _) same
      · exact Or.inr same
  | case4 first second third rest ih =>
      simp only [List.mem_cons] at isByte
      rcases isByte with same | same | same | same | isRest
      · exact isDigit (firstValue_lt _) same
      · exact isDigit (secondValue_lt _ _) same
      · exact isDigit (thirdValue_lt _ _) same
      · exact isDigit (fourthValue_lt _) same
      · exact ih isRest

/-! ## Round trip -/

theorem digit_ne_padding {value : Nat} (inRange : value < 64) : digit value ≠ padding := by
  have all : ∀ value < 64, digit value ≠ padding := by decide
  exact all value inRange

theorem firstByte_eq (first second : UInt8) :
    UInt8.ofNat (firstValue first * 4 + secondValue first second / 16) = first := by
  have := first.toNat_lt
  have := second.toNat_lt
  apply UInt8.toNat_inj.mp
  rw [UInt8.toNat_ofNat']
  unfold firstValue secondValue
  omega

theorem secondByte_eq (first second third : UInt8) :
    UInt8.ofNat (secondValue first second % 16 * 16 + thirdValue second third / 4) = second := by
  have := second.toNat_lt
  have := third.toNat_lt
  apply UInt8.toNat_inj.mp
  rw [UInt8.toNat_ofNat']
  unfold secondValue thirdValue
  omega

theorem thirdByte_eq (second third : UInt8) :
    UInt8.ofNat (thirdValue second third % 4 * 64 + fourthValue third) = third := by
  have := third.toNat_lt
  apply UInt8.toNat_inj.mp
  rw [UInt8.toNat_ofNat']
  unfold thirdValue fourthValue
  omega

theorem decodeDigits_encode (bytes : GoString) : decodeDigits (encode bytes) = some bytes := by
  fun_induction encode bytes with
  | case1 => rfl
  | case2 first =>
      simp [decodeDigits, valueOf_digit, firstValue_lt, secondValue_lt, firstByte_eq,
        -UInt8.ofNat_add]
  | case3 first second =>
      simp [decodeDigits, valueOf_digit, firstValue_lt, secondValue_lt, thirdValue_lt,
        digit_ne_padding, firstByte_eq, secondByte_eq, -UInt8.ofNat_add]
  | case4 first second third rest ih =>
      simp [decodeDigits, valueOf_digit, firstValue_lt, secondValue_lt, thirdValue_lt,
        fourthValue_lt, digit_ne_padding, firstByte_eq, secondByte_eq, thirdByte_eq,
        ih, -UInt8.ofNat_add]

theorem not_lineBreak_of_isEncoded {byte : UInt8} (isEncoded : IsEncoded byte) :
    byte ≠ 10 ∧ byte ≠ 13 := by
  constructor
  · rintro rfl
    rcases isEncoded with isDigit | isPadding
    · exact absurd isDigit (by decide)
    · exact absurd isPadding (by decide)
  · rintro rfl
    rcases isEncoded with isDigit | isPadding
    · exact absurd isDigit (by decide)
    · exact absurd isPadding (by decide)

theorem decode_encode (bytes : GoString) : decode (encode bytes) = some bytes := by
  have unbroken : (encode bytes).filter (fun byte => byte ≠ 10 ∧ byte ≠ 13) = encode bytes := by
    rw [List.filter_eq_self]
    intro byte isByte
    exact decide_eq_true (not_lineBreak_of_isEncoded (isEncoded_of_mem_encode isByte))
  rw [decode, unbroken, decodeDigits_encode]

/-! ## Plus signs -/

theorem digit_eq_plus_iff {value : Nat} (inRange : value < 64) :
    digit value = plus ↔ value = 62 := by
  have all : ∀ value < 64, digit value = plus ↔ value = 62 := by decide
  exact all value inRange

/-- Of ASCII bytes, a greater-than sign or a tilde in every third place gives a plus sign. -/
theorem plus_mem_encode_iff {bytes : GoString} (ascii : ∀ byte ∈ bytes, GoString.IsAscii byte) :
    plus ∈ encode bytes ↔ ∃ index byte, index % 3 = 2 ∧ bytes[index]? = some byte ∧
      (byte = 62 ∨ byte = 126) := by
  -- the first digits of ASCII bytes are too small, or have other last bits
  have first_ne {first : UInt8} (isAscii : GoString.IsAscii first) : firstValue first ≠ 62 := by
    unfold GoString.IsAscii at isAscii
    unfold firstValue
    omega
  have second_ne {first second : UInt8} (isAscii : GoString.IsAscii second) :
      secondValue first second ≠ 62 := by
    unfold GoString.IsAscii at isAscii
    unfold secondValue
    omega
  have third_ne {second third : UInt8} (isAscii : GoString.IsAscii third) :
      thirdValue second third ≠ 62 := by
    unfold GoString.IsAscii at isAscii
    unfold thirdValue
    omega
  have fourth_eq_iff {third : UInt8} (isAscii : GoString.IsAscii third) :
      fourthValue third = 62 ↔ third = 62 ∨ third = 126 := by
    unfold GoString.IsAscii at isAscii
    rw [← UInt8.toNat_inj, ← UInt8.toNat_inj]
    simp only [fourthValue, UInt8.reduceToNat]
    omega
  have zero_ascii : GoString.IsAscii 0 := by decide
  have plus_eq_iff {value : Nat} (inRange : value < 64) : plus = digit value ↔ value = 62 :=
    eq_comm.trans (digit_eq_plus_iff inRange)
  have not_padding : plus ≠ padding := by decide
  fun_induction encode bytes with
  | case1 => simp
  | case2 first =>
      have isFirst := ascii first (by simp)
      refine iff_of_false ?_ ?_
      · simp [plus_eq_iff, firstValue_lt, secondValue_lt, first_ne isFirst, second_ne zero_ascii,
          not_padding]
      · rintro ⟨index, byte, isThird, isByte, -⟩
        have inRange := (List.getElem?_eq_some_iff.mp isByte).1
        simp only [List.length_cons, List.length_nil] at inRange
        omega
  | case3 first second =>
      have isFirst := ascii first (by simp)
      have isSecond := ascii second (by simp)
      refine iff_of_false ?_ ?_
      · simp [plus_eq_iff, firstValue_lt, secondValue_lt, thirdValue_lt, first_ne isFirst,
          second_ne isSecond, third_ne zero_ascii, not_padding]
      · rintro ⟨index, byte, isThird, isByte, -⟩
        have inRange := (List.getElem?_eq_some_iff.mp isByte).1
        simp only [List.length_cons, List.length_nil] at inRange
        omega
  | case4 first second third rest ih =>
      have isFirst := ascii first (by simp)
      have isSecond := ascii second (by simp)
      have isThird := ascii third (by simp)
      have restIff := ih (fun byte isByte => ascii byte (by simp [isByte]))
      simp only [List.mem_cons, plus_eq_iff (firstValue_lt _), plus_eq_iff (secondValue_lt _ _),
        plus_eq_iff (thirdValue_lt _ _), plus_eq_iff (fourthValue_lt _), first_ne isFirst,
        second_ne isSecond, third_ne isThird, fourth_eq_iff isThird, restIff, false_or]
      constructor
      · rintro (isThere | ⟨index, byte, isPlace, isByte, isSign⟩)
        · exact ⟨2, third, rfl, rfl, isThere⟩
        · exact ⟨index + 3, byte, by omega, isByte, isSign⟩
      · rintro ⟨index, byte, isPlace, isByte, isSign⟩
        rcases Nat.lt_or_ge index 3 with early | later
        · have isTwo : index = 2 := by omega
          subst isTwo
          cases isByte
          exact Or.inl isSign
        · obtain ⟨shift, rfl⟩ := Nat.exists_eq_add_of_le' later
          exact Or.inr ⟨shift, byte, by omega, isByte, isSign⟩

end KubeLB.Library.Base64
