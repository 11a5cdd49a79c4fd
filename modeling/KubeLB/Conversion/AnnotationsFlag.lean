import KubeLB.Library.GoMap
import KubeLB.Library.Separators
import KubeLB.Library.Trimming
import KubeLB.Library.Utf8

/-!
Contract: the flag with the annotations of created Gateways.

Owns: `gatewayAnnotationsFlag` with its `String` and `Set`, the pairs that a text gives,
and the annotations that a flag prints and reads back.

Does not own: the other flags. Texts are bytes, as the command line gives them.
-/

set_option autoImplicit false

namespace KubeLB.Conversion.AnnotationsFlag

open KubeLB.Library

/-! ## Texts -/

def comma : UInt8 := 44
def equalsSign : UInt8 := 61

/-- The characters of `unicode.IsSpace`. -/
def spaceCodes : List Nat :=
  [9, 10, 11, 12, 13, 32, 0x85, 0xA0, 0x1680, 0x2000, 0x2001, 0x2002, 0x2003, 0x2004, 0x2005,
    0x2006, 0x2007, 0x2008, 0x2009, 0x200A, 0x2028, 0x2029, 0x202F, 0x205F, 0x3000]

/-- Their encodings. No encoding of a character is within that of another, so a character
starts or ends a text exactly if its encoding does. -/
def spaces : List GoString := spaceCodes.map (fun code => String.utf8EncodeChar (Char.ofNat code))

def trimSpace (text : GoString) : GoString := trim spaces text

/-! ## The flag -/

/-- The map of a flag. A fresh one is nil. -/
abbrev Annotations := GoMap GoString GoString

/-- `k + "=" + v`. -/
def pairText (pair : GoString × GoString) : GoString := pair.1 ++ equalsSign :: pair.2

/-- `String`, in the order of the `range` loop. -/
def flagString (order : GoMap.RangeOrder GoString) : Option Annotations → GoString
  | none => []
  | some annotations => [comma].intercalate ((annotations.rangeBy order).map pairText)

/-- `strings.SplitN(pair, "=", 2)`, if there are two parts. -/
def cutPair (part : GoString) : Option (GoString × GoString) :=
  if equalsSign ∈ part then
    some (part.takeWhile (· ≠ equalsSign), (part.dropWhile (· ≠ equalsSign)).tail)
  else none

def readPair (part : GoString) : Option (GoString × GoString) :=
  (cutPair part).map (fun pair => (trimSpace pair.1, trimSpace pair.2))

/-- `Set`. -/
def flagSet (target : Option Annotations) (value : GoString) : Annotations :=
  let annotations := target.getD ∅
  if value = [] then annotations
  else
    (value.splitOn comma).foldl (fun current part =>
      match readPair part with
      | some pair => current.insert pair.1 pair.2
      | none => current) annotations

/-- A flag that is set once for each text. -/
def flagSetAll (texts : List GoString) : Option Annotations :=
  texts.foldl (fun target text => some (flagSet target text)) none

/-! ## What the flag is for -/

def pairsOf (value : GoString) : List (GoString × GoString) :=
  (value.splitOn comma).filterMap readPair

/-- Annotations that are printed and set again stay as they are, and of all pairs that are
given the last one of each key is set. -/
structure FlagFaithful (order : GoMap.RangeOrder GoString) (annotations : Annotations) : Prop where
  readsBack : flagSet none (flagString order (some annotations)) = annotations
  accumulates : ∀ texts key, ((flagSetAll texts).getD ∅).lookup key =
    (((texts.flatMap pairsOf).filter (fun pair => pair.1 = key)).getLast?).map Prod.snd

/-- A byte that may be in the key of an annotation. -/
def KeyByte (byte : UInt8) : Prop :=
  (48 ≤ byte.toNat ∧ byte.toNat ≤ 57) ∨ (65 ≤ byte.toNat ∧ byte.toNat ≤ 90) ∨
    (97 ≤ byte.toNat ∧ byte.toNat ≤ 122) ∨ byte.toNat ∈ [45, 46, 47, 95]

instance (byte : UInt8) : Decidable (KeyByte byte) := inferInstanceAs (Decidable (_ ∨ _))

/-! ## Setting pairs -/

theorem flagSet_eq_insertAll (target : Option Annotations) (value : GoString) :
    flagSet target value = (target.getD ∅).insertAll (pairsOf value) := by
  have steps (parts : List GoString) (annotations : Annotations) :
      parts.foldl (fun current part =>
          match readPair part with
          | some pair => current.insert pair.1 pair.2
          | none => current) annotations =
        annotations.insertAll (parts.filterMap readPair) := by
    induction parts generalizing annotations with
    | nil => rfl
    | cons part parts ih =>
        rw [List.foldl_cons, ih]
        cases isPair : readPair part with
        | none => rw [List.filterMap_cons_none isPair]
        | some pair =>
            rw [List.filterMap_cons_some isPair]
            rfl
  unfold flagSet
  simp only
  split
  · rename_i empty
    rw [empty]
    rfl
  · exact steps _ _

theorem flagSetAll_eq_insertAll (texts : List GoString) :
    (flagSetAll texts).getD ∅ = GoMap.insertAll ∅ (texts.flatMap pairsOf) := by
  induction texts using List.reverseRecOn with
  | nil => rfl
  | append_singleton texts text ih =>
      rw [List.flatMap_append, List.flatMap_singleton, GoMap.insertAll_append,
        ← ih, ← flagSet_eq_insertAll, flagSetAll, List.foldl_append]
      rfl

theorem accumulates (texts : List GoString) (key : GoString) :
    ((flagSetAll texts).getD ∅).lookup key =
      (((texts.flatMap pairsOf).filter (fun pair => pair.1 = key)).getLast?).map Prod.snd := by
  rw [flagSetAll_eq_insertAll, GoMap.lookup_insertAll, Finmap.lookup_empty, Option.or_none]

/-! ## Printed pairs -/

theorem proper_spaces : [] ∉ spaces := by decide +kernel

theorem trimSpace_trimSpace (text : GoString) : trimSpace (trimSpace text) = trimSpace text :=
  trim_trim proper_spaces

theorem notKeyByte_of_mem_spaces {blank : GoString} (isBlank : blank ∈ spaces) :
    ∀ byte ∈ blank, ¬ KeyByte byte := by
  have all : ∀ blank ∈ spaces, ∀ byte ∈ blank, ¬ KeyByte byte := by decide +kernel
  exact all blank isBlank

theorem trimSpace_of_keyBytes {key : GoString} (isKey : ∀ byte ∈ key, KeyByte byte) :
    trimSpace key = key := by
  have apart (blank : GoString) (isBlank : blank ∈ spaces) (within : blank ⊆ key) : False := by
    obtain ⟨byte, rest, rfl⟩ := List.exists_cons_of_ne_nil
      (fun empty => proper_spaces (empty ▸ isBlank))
    exact notKeyByte_of_mem_spaces isBlank byte List.mem_cons_self
      (isKey byte (within List.mem_cons_self))
  refine trim_eq_self ?_ ?_
  · rintro ⟨blank, isBlank, starts⟩
    exact apart blank isBlank starts.subset
  · rintro ⟨blank, isBlank, ends⟩
    exact apart blank isBlank ends.subset

theorem cutPair_pairText {key : GoString} (plain : equalsSign ∉ key) (value : GoString) :
    cutPair (pairText (key, value)) = some (key, value) := by
  have inKey : ∀ byte ∈ key, decide (byte ≠ equalsSign) = true := by
    intro byte isByte
    rw [decide_eq_true_eq]
    rintro rfl
    exact plain isByte
  have member : equalsSign ∈ pairText (key, value) :=
    List.mem_append_right _ List.mem_cons_self
  rw [cutPair, if_pos member, pairText, List.takeWhile_append_of_pos inKey,
    List.dropWhile_append_of_pos inKey]
  simp

theorem plain_of_mem_pairsOf {text : GoString} {pair : GoString × GoString}
    (isPair : pair ∈ pairsOf text) : comma ∉ pair.2 ∧ trimSpace pair.2 = pair.2 := by
  obtain ⟨part, isPart, isRead⟩ := List.mem_filterMap.mp isPair
  obtain ⟨cut, isCut, rfl⟩ := Option.map_eq_some_iff.mp isRead
  refine ⟨fun member => ?_, trimSpace_trimSpace _⟩
  have inCut := mem_of_mem_trim member
  obtain ⟨-, ⟨⟩⟩ := Option.ite_none_right_eq_some.mp isCut
  exact notMem_of_mem_splitOn isPart
    ((List.dropWhile_sublist _).subset (List.mem_of_mem_tail inCut))

/-- A value that survives printing and setting. -/
def PlainValue (value : GoString) : Prop := comma ∉ value ∧ trimSpace value = value

instance (value : GoString) : Decidable (PlainValue value) := inferInstanceAs (Decidable (_ ∧ _))

section Printed

variable {order : GoMap.RangeOrder GoString} {annotations : Annotations}

theorem readPair_pairText {pair : GoString × GoString} (isKey : ∀ byte ∈ pair.1, KeyByte byte)
    (plain : PlainValue pair.2) : readPair (pairText pair) = some pair := by
  have noSign : equalsSign ∉ pair.1 := fun member => absurd (isKey _ member) (by decide)
  rw [readPair, cutPair_pairText noSign, Option.map_some, trimSpace_of_keyBytes isKey, plain.2]

theorem pairsOf_flagString
    (areKeys : ∀ key ∈ annotations, ∀ byte ∈ key, KeyByte byte)
    (plain : ∀ key value, annotations.lookup key = some value → PlainValue value) :
    pairsOf (flagString order (some annotations)) = annotations.rangeBy order := by
  have readable : ∀ pair ∈ annotations.rangeBy order,
      (∀ byte ∈ pair.1, KeyByte byte) ∧ PlainValue pair.2 := by
    intro pair isPair
    have found : annotations.lookup pair.1 = some pair.2 := GoMap.mem_rangeBy.mp isPair
    exact ⟨areKeys pair.1 (Finmap.mem_of_lookup_eq_some found), plain pair.1 pair.2 found⟩
  generalize isEntries : annotations.rangeBy order = entries at readable
  rw [flagString, isEntries, pairsOf]
  by_cases none : entries = []
  · rw [none]
    rfl
  · have noComma : ∀ text ∈ entries.map pairText, comma ∉ text := by
      intro text isText
      obtain ⟨pair, isPair, rfl⟩ := List.mem_map.mp isText
      obtain ⟨isKey, isPlain⟩ := readable pair isPair
      rw [pairText, List.mem_append, List.mem_cons, not_or, not_or]
      exact ⟨fun member => absurd (isKey _ member) (by decide), by decide, isPlain.1⟩
    rw [List.splitOn_intercalate comma noComma (by simpa using none), List.filterMap_map]
    refine (List.filterMap_congr ?_).trans List.filterMap_some
    intro pair isPair
    exact readPair_pairText (readable pair isPair).1 (readable pair isPair).2

theorem readsBack_iff (areKeys : ∀ key ∈ annotations, ∀ byte ∈ key, KeyByte byte) :
    flagSet none (flagString order (some annotations)) = annotations ↔
      ∀ key value, annotations.lookup key = some value → PlainValue value := by
  rw [flagSet_eq_insertAll, Option.getD_none]
  constructor
  · intro same key value found
    rw [← same, GoMap.lookup_insertAll, Finmap.lookup_empty, Option.or_none,
      Option.map_eq_some_iff] at found
    obtain ⟨pair, isLast, rfl⟩ := found
    exact plain_of_mem_pairsOf (List.mem_filter.mp (List.mem_of_getLast? isLast)).1
  · intro plain
    rw [pairsOf_flagString areKeys plain]
    exact GoMap.insertAll_rangeBy annotations order

end Printed

/-- Annotations with proper keys survive the flag, in every order of its loop, exactly if no
value has a comma or spaces around it. -/
theorem flagFaithful_iff (order : GoMap.RangeOrder GoString) (annotations : Annotations)
    (areKeys : ∀ key ∈ annotations, ∀ byte ∈ key, KeyByte byte) :
    FlagFaithful order annotations ↔
      ∀ key value, annotations.lookup key = some value → PlainValue value := by
  constructor
  · intro faithful
    exact (readsBack_iff areKeys).mp faithful.readsBack
  · intro plain
    exact ⟨(readsBack_iff areKeys).mpr plain, accumulates⟩

/-! ## A list of hosts -/

theorem ofNat_toNat_charOf (byte : UInt8) :
    UInt8.ofNat (GoString.charOf byte).toNat = byte := by
  have small := byte.toNat_lt
  have valid : byte.toNat.isValidChar := Or.inl (by omega)
  have value : (GoString.charOf byte).toNat = byte.toNat := by
    rw [GoString.charOf, Char.ofNat, dif_pos valid]
    rfl
  rw [value, UInt8.ofNat_toNat]

/-- The run that visits keys in the order of their bytes. -/
def byteOrder : GoMap.RangeOrder GoString :=
  (GoMap.RangeOrder.increasing String).encoded
    (fun key => String.ofList (key.map GoString.charOf))
    (fun text => text.toList.map (fun char => UInt8.ofNat char.toNat))
    (by
      intro key
      simp [List.map_map, Function.comp_def, ofNat_toNat_charOf])

def targetKey : GoString := GoString.ofText "external-dns.alpha.kubernetes.io/target"

def targets (hosts : String) : Annotations := Finmap.singleton targetKey (GoString.ofText hosts)

theorem areKeys_targets (hosts : String) : ∀ key ∈ targets hosts, ∀ byte ∈ key, KeyByte byte := by
  intro key isKey
  have all : ∀ byte ∈ targetKey, KeyByte byte := by decide +kernel
  rw [(Finmap.mem_singleton _ _ _).mp isKey]
  exact all

theorem single_target_kept : FlagFaithful byteOrder (targets "lb.example.com") := by
  refine (flagFaithful_iff _ _ (areKeys_targets _)).mpr ?_
  intro key value found
  have isKey := (Finmap.mem_singleton _ _ _).mp (Finmap.mem_of_lookup_eq_some found)
  rw [isKey, targets, Finmap.lookup_singleton_eq, Option.some.injEq] at found
  rw [← found]
  decide +kernel

/-- Of two targets with a comma between them the first one is left. -/
theorem second_target_lost :
    flagString byteOrder (some (targets "a.example.com,b.example.com")) =
        GoString.ofText
          "external-dns.alpha.kubernetes.io/target=a.example.com,b.example.com" ∧
      flagSet none (flagString byteOrder (some (targets "a.example.com,b.example.com"))) =
        targets "a.example.com" ∧
      ¬ FlagFaithful byteOrder (targets "a.example.com,b.example.com") := by
  have left : flagSet none (flagString byteOrder (some (targets "a.example.com,b.example.com"))) =
      targets "a.example.com" := by
    decide +kernel
  refine ⟨by decide +kernel, left, ?_⟩
  intro faithful
  have same := left.symm.trans faithful.readsBack
  exact absurd same (by decide +kernel)

end KubeLB.Conversion.AnnotationsFlag
