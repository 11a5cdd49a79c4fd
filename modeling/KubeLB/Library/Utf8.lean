import Mathlib.Data.List.Basic
import Mathlib.Data.String.Basic

/-!
Contract: Go strings as bytes, and the characters that a `range` loop reads from them.

Owns: the decoding with the replacement character for every byte that starts no
character, its effect on ASCII bytes, and its inverse on the bytes of a text.

Does not own: case mappings.
-/

set_option autoImplicit false

namespace KubeLB.Library

/-- A Go string: any bytes. -/
abbrev GoString := List UInt8

namespace GoString

def runeError : Char := Char.ofNat 0xFFFD

/-- The character at the start of a string, unless the bytes there are no valid
encoding. -/
def decodeRune (bytes : GoString) : Option Char := bytes.toByteArray.utf8DecodeChar? 0

/-- The characters of a `range` loop, with a bound for the number of rounds. -/
def runesWithin : Nat → GoString → List Char
  | 0, _ => []
  | _ + 1, [] => []
  | rounds + 1, byte :: rest =>
      match decodeRune (byte :: rest) with
      | some char => char :: runesWithin rounds ((byte :: rest).drop char.utf8Size)
      | none => runeError :: runesWithin rounds rest

/-- The characters of a `range` loop over a string. -/
def runes (bytes : GoString) : List Char := runesWithin bytes.length bytes

/-- The bytes of a text. -/
def ofText (text : String) : GoString := text.toByteArray.data.toList

/-- The byte is a character of its own. -/
def IsAscii (byte : UInt8) : Prop := byte.toNat < 128

instance (byte : UInt8) : Decidable (IsAscii byte) := inferInstanceAs (Decidable (_ < _))

def charOf (byte : UInt8) : Char := Char.ofNat byte.toNat

/-! ## Single characters -/

theorem decodeRune_encode_append (char : Char) (rest : GoString) :
    decodeRune (String.utf8EncodeChar char ++ rest) = some char := by
  rw [decodeRune, List.toByteArray_append]
  exact ByteArray.utf8DecodeChar?_utf8EncodeChar_append

theorem eq_encode_append_of_decodeRune {bytes : GoString} {char : Char}
    (decoded : decodeRune bytes = some char) :
    ∃ rest, bytes = String.utf8EncodeChar char ++ rest := by
  have split := congrArg (fun array : ByteArray => array.data.toList)
    (ByteArray.eq_of_utf8DecodeChar?_eq_some decoded)
  simp only [ByteArray.toList_data_append, List.toList_data_toByteArray] at split
  exact ⟨_, split⟩

theorem toNat_charOf {byte : UInt8} (ascii : IsAscii byte) :
    (charOf byte).toNat = byte.toNat := by
  have valid : byte.toNat.isValidChar := Or.inl (ascii.trans (by decide))
  rw [charOf, Char.ofNat, dif_pos valid]
  rfl

theorem encode_charOf {byte : UInt8} (ascii : IsAscii byte) :
    String.utf8EncodeChar (charOf byte) = [byte] := by
  have value : (charOf byte).val.toNat = byte.toNat := toNat_charOf ascii
  have small : byte.toNat ≤ 127 := Nat.le_of_lt_succ ascii
  simp [String.utf8EncodeChar, value, small]

theorem encode_of_ascii {char : Char} (ascii : char.toNat < 128) :
    String.utf8EncodeChar char = [UInt8.ofNat char.toNat] := by
  have small : char.val.toNat ≤ 127 := Nat.le_of_lt_succ ascii
  simp only [String.utf8EncodeChar, if_pos small]
  rfl

/-! ## Whole strings -/

theorem length_runesWithin_le (rounds : Nat) (bytes : GoString) :
    (runesWithin rounds bytes).length ≤ rounds := by
  induction rounds generalizing bytes with
  | zero => simp [runesWithin]
  | succ rounds ih =>
      cases bytes with
      | nil => simp [runesWithin]
      | cons byte rest =>
          rw [runesWithin]
          split
          · exact Nat.succ_le_succ (ih _)
          · exact Nat.succ_le_succ (ih _)

theorem length_runes_le (bytes : GoString) : (runes bytes).length ≤ bytes.length :=
  length_runesWithin_le _ _

theorem runes_eq_nil_iff {bytes : GoString} : runes bytes = [] ↔ bytes = [] := by
  cases bytes with
  | nil => simp [runes, runesWithin]
  | cons byte rest =>
      rw [runes, List.length_cons, runesWithin]
      split <;> simp

theorem runesWithin_encoded {rounds : Nat} {chars : List Char}
    (enough : (chars.flatMap String.utf8EncodeChar).length ≤ rounds) :
    runesWithin rounds (chars.flatMap String.utf8EncodeChar) = chars := by
  induction chars generalizing rounds with
  | nil => cases rounds <;> rfl
  | cons char chars ih =>
      rw [List.flatMap_cons] at enough ⊢
      have decoded := decodeRune_encode_append char (chars.flatMap String.utf8EncodeChar)
      have size := String.length_utf8EncodeChar char
      have positive := char.utf8Size_pos
      rw [List.length_append, size] at enough
      obtain ⟨rounds, rfl⟩ : ∃ left, rounds = left + 1 := ⟨rounds - 1, by omega⟩
      cases encoded : String.utf8EncodeChar char with
      | nil =>
          rw [encoded, List.length_nil] at size
          omega
      | cons byte more =>
          rw [encoded] at decoded size
          rw [List.cons_append] at decoded ⊢
          rw [runesWithin, decoded]
          simp only
          rw [← size, ← List.cons_append, List.drop_left, ih (by omega)]

/-- The bytes of a text are read back as its characters. -/
theorem runes_encoded (chars : List Char) :
    runes (chars.flatMap String.utf8EncodeChar) = chars :=
  runesWithin_encoded le_rfl

theorem ofText_eq (text : String) : ofText text = text.toList.flatMap String.utf8EncodeChar := by
  have isText : text = String.ofList text.toList := (String.ofList_toList).symm
  rw [ofText]
  conv_lhs => rw [isText]
  rw [String.toByteArray_ofList, List.utf8Encode, List.toList_data_toByteArray]

theorem ofText_append (text text' : String) :
    ofText (text ++ text') = ofText text ++ ofText text' := by
  rw [ofText_eq, ofText_eq, ofText_eq, String.toList_append, List.flatMap_append]

theorem runes_ofText (text : String) : runes (ofText text) = text.toList := by
  rw [ofText_eq, runes_encoded]

theorem encode_map_charOf {bytes : GoString} (ascii : ∀ byte ∈ bytes, IsAscii byte) :
    (bytes.map charOf).flatMap String.utf8EncodeChar = bytes := by
  induction bytes with
  | nil => rfl
  | cons byte bytes ih =>
      rw [List.forall_mem_cons] at ascii
      rw [List.map_cons, List.flatMap_cons, encode_charOf ascii.1, ih ascii.2]
      rfl

theorem runes_of_ascii {bytes : GoString} (ascii : ∀ byte ∈ bytes, IsAscii byte) :
    runes bytes = bytes.map charOf := by
  conv_lhs => rw [← encode_map_charOf ascii]
  exact runes_encoded _

theorem encode_runes_of_ascii {bytes : GoString} (ascii : ∀ byte ∈ bytes, IsAscii byte) :
    (runes bytes).flatMap String.utf8EncodeChar = bytes := by
  rw [runes_of_ascii ascii, encode_map_charOf ascii]

theorem runes_cons_of_ascii {byte : UInt8} (ascii : IsAscii byte) (rest : GoString) :
    runes (byte :: rest) = charOf byte :: runes rest := by
  have decoded := decodeRune_encode_append (charOf byte) rest
  have size := String.length_utf8EncodeChar (charOf byte)
  rw [encode_charOf ascii] at decoded size
  rw [List.singleton_append] at decoded
  rw [runes, List.length_cons, runesWithin, decoded]
  simp only
  rw [← size]
  rfl

theorem ofText_of_ascii {text : String} (ascii : ∀ char ∈ text.toList, char.toNat < 128) :
    ofText text = text.toList.map (fun char => UInt8.ofNat char.toNat) := by
  rw [ofText_eq]
  generalize text.toList = chars at ascii
  induction chars with
  | nil => rfl
  | cons char chars ih =>
      rw [List.forall_mem_cons] at ascii
      rw [List.flatMap_cons, encode_of_ascii ascii.1, ih ascii.2]
      rfl

theorem isAscii_of_runesWithin {rounds : Nat} {bytes : GoString} (enough : bytes.length ≤ rounds)
    (ascii : ∀ char ∈ runesWithin rounds bytes, char.toNat < 128) :
    ∀ byte ∈ bytes, IsAscii byte := by
  induction rounds generalizing bytes with
  | zero =>
      rw [List.eq_nil_of_length_eq_zero (Nat.le_zero.mp enough)]
      simp
  | succ rounds ih =>
      cases bytes with
      | nil => simp
      | cons byte rest =>
          rw [runesWithin] at ascii
          rw [List.length_cons, Nat.add_le_add_iff_right] at enough
          split at ascii
          · rename_i char decoded
            rw [List.forall_mem_cons] at ascii
            obtain ⟨left, isSplit⟩ := eq_encode_append_of_decodeRune decoded
            have single := encode_of_ascii ascii.1
            rw [single, List.singleton_append, List.cons.injEq] at isSplit
            have size : char.utf8Size = 1 := by
              rw [← String.length_utf8EncodeChar, single]
              rfl
            rw [size] at ascii
            rw [List.forall_mem_cons]
            refine ⟨?_, ih enough ascii.2⟩
            rw [isSplit.1]
            show (UInt8.ofNat char.toNat).toNat < 128
            have isSmall : char.toNat < 256 := ascii.1.trans (by decide)
            rw [UInt8.toNat_ofNat_of_lt' isSmall]
            exact ascii.1
          · have isError := ascii runeError List.mem_cons_self
            exact absurd isError (by decide)

/-- Only ASCII bytes are read as ASCII characters alone. -/
theorem isAscii_of_runes {bytes : GoString} (ascii : ∀ char ∈ runes bytes, char.toNat < 128) :
    ∀ byte ∈ bytes, IsAscii byte :=
  isAscii_of_runesWithin le_rfl ascii

end GoString

end KubeLB.Library
