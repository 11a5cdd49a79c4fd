import KubeLB.Library.Utf8
import KubeLB.Naming.Collisions
import Mathlib.Data.List.DropRight

/-!
Contract: the names of generated Services are DNS labels.

Owns: DNS-1035 labels, `GenerateRouteServiceName` for names of any bytes, and that its
result is such a label of at most sixty characters.

Does not own: which names collide.
-/

set_option autoImplicit false

namespace KubeLB.Naming

open KubeLB.Library

/-! ## Labels -/

def letterChar (char : Char) : Bool := 'a' ≤ char && char ≤ 'z'

/-- The characters of a label. -/
def labelChar (char : Char) : Bool := alphanumericChar char || char == '-'

/-- `[a-z]([-a-z0-9]*[a-z0-9])?` -/
def dns1035Part (part : List Char) : Bool :=
  part.all labelChar && part.head?.any letterChar && part.getLast?.any alphanumericChar

theorem dns1035Part_iff {part : List Char} :
    dns1035Part part = true ↔ (∀ char ∈ part, labelChar char = true) ∧
      (∃ first, part.head? = some first ∧ letterChar first = true) ∧
      ∃ last, part.getLast? = some last ∧ alphanumericChar last = true := by
  simp only [dns1035Part, Bool.and_eq_true, List.all_eq_true, Option.any_eq_true, and_assoc]

theorem alphanumericChar_of_letterChar {char : Char} (isLetter : letterChar char = true) :
    alphanumericChar char = true := by
  rw [alphanumericChar, Bool.or_eq_true]
  exact Or.inl isLetter

theorem alphanumericChar_of_labelChar {char : Char} (isLabel : labelChar char = true)
    (notDash : char ≠ '-') : alphanumericChar char = true := by
  simpa [labelChar, notDash] using isLabel

theorem nameChar_of_labelChar {char : Char} (isLabel : labelChar char = true) : NameChar char := by
  rw [labelChar, Bool.or_eq_true, beq_iff_eq] at isLabel
  exact isLabel.imp_right Or.inl

theorem toNat_lt_of_labelChar {char : Char} (isLabel : labelChar char = true) :
    char.toNat < 128 :=
  Nat.lt_succ_of_le (UInt32.le_iff_toNat_le.mp (nameChar_of_labelChar isLabel).ascii)

/-- Labels joined by a dash are a label. -/
theorem dns1035Part_append {part part' : List Char} (valid : dns1035Part part = true)
    (valid' : dns1035Part part' = true) : dns1035Part (part ++ '-' :: part') = true := by
  rw [dns1035Part_iff] at valid valid' ⊢
  obtain ⟨isLabel, ⟨first, isFirst, isLetter⟩, -⟩ := valid
  obtain ⟨isLabel', -, last, isLast, plainLast⟩ := valid'
  refine ⟨?_, ⟨first, by simp [isFirst], isLetter⟩, last, ?_, plainLast⟩
  · intro char member
    rw [List.mem_append, List.mem_cons] at member
    rcases member with inPart | rfl | inPart'
    · exact isLabel char inPart
    · rfl
    · exact isLabel' char inPart'
  · simp [List.getLast?_append, List.getLast?_cons, isLast]

/-! ## Trimming -/

theorem trimRightDash_eq_rdropWhile (text : List Char) :
    trimRightDash text = text.rdropWhile (fun char => decide (char = '-')) := rfl

theorem getLast?_trimRightDash_ne_dash {text : List Char} {last : Char}
    (isLast : (trimRightDash text).getLast? = some last) : last ≠ '-' := by
  rw [trimRightDash_eq_rdropWhile] at isLast
  have notNil : text.rdropWhile (fun char => decide (char = '-')) ≠ [] := by
    intro isNil
    rw [isNil] at isLast
    cases isLast
  rw [List.getLast?_eq_some_getLast notNil, Option.some.injEq] at isLast
  have stops := List.rdropWhile_last_not (fun char => decide (char = '-')) text notNil
  intro isDash
  exact stops (decide_eq_true (isLast.trans isDash))

theorem head?_trimRightDash {text : List Char} {first : Char} (isFirst : text.head? = some first)
    (notDash : first ≠ '-') : (trimRightDash text).head? = some first := by
  obtain ⟨rest, rfl⟩ := List.head?_eq_some_iff.mp isFirst
  obtain ⟨tail, isTail⟩ := List.rdropWhile_prefix (fun char => decide (char = '-')) (first :: rest)
  rw [← trimRightDash_eq_rdropWhile] at isTail
  cases trimmed : trimRightDash (first :: rest) with
  | nil =>
      rw [trimRightDash_eq_rdropWhile, List.rdropWhile_eq_nil_iff] at trimmed
      exact absurd (of_decide_eq_true (trimmed first List.mem_cons_self)) notDash
  | cons head others =>
      rw [trimmed, List.cons_append, List.cons.injEq] at isTail
      rw [isTail.1]
      rfl

/-! ## Replaced characters -/

theorem labelChar_dns1035Char (char : Char) : labelChar (dns1035Char char) = true := by
  unfold dns1035Char
  dsimp only
  split
  · rename_i isKept
    rw [labelChar, alphanumericChar]
    simpa [or_assoc] using isKept
  · rfl

theorem dns1035Char_of_labelChar {char : Char} (isLabel : labelChar char = true) :
    dns1035Char char = char := by
  rcases Bool.or_eq_true _ _ ▸ isLabel with plain | isDash
  · exact dns1035Char_of_alphanumeric plain
  · rw [beq_iff_eq.mp isDash]
    decide

/-- Whatever it is given, `dns1035Name` prints a label. -/
theorem dns1035Part_dns1035Name (name : String) : dns1035Part (dns1035Name name).toList = true := by
  unfold dns1035Name
  dsimp only
  -- What is left after trimming has label characters only and does not end with a dash.
  have isLabel : ∀ char ∈ trimRightDash ((name.toList.map dns1035Char).dropWhile (· = '-')),
      labelChar char = true := by
    intro char member
    have inMap := (List.dropWhile_sublist _).subset ((trimRightDash_sublist _).subset member)
    obtain ⟨original, -, rfl⟩ := List.mem_map.mp inMap
    exact labelChar_dns1035Char original
  have endsPlain (last : Char) (isLast : (trimRightDash
      ((name.toList.map dns1035Char).dropWhile (· = '-'))).getLast? = some last) :
      alphanumericChar last = true :=
    alphanumericChar_of_labelChar (isLabel last (List.mem_of_getLast? isLast))
      (getLast?_trimRightDash_ne_dash isLast)
  generalize trimRightDash ((name.toList.map dns1035Char).dropWhile (· = '-')) = output
    at isLabel endsPlain
  cases output with
  | nil => decide
  | cons first rest =>
      have isLast := List.getLast?_eq_some_getLast (List.cons_ne_nil first rest)
      rw [dns1035Part_iff]
      dsimp only
      split
      · have lead : ("k-" ++ String.ofList (first :: rest)).toList =
            ['k'] ++ '-' :: (first :: rest) := by simp
        rw [lead]
        refine ⟨?_, ⟨'k', rfl, rfl⟩, _, ?_, endsPlain _ isLast⟩
        · intro char member
          rw [List.singleton_append, List.mem_cons, List.mem_cons] at member
          rcases member with rfl | rfl | inOutput
          · rfl
          · rfl
          · exact isLabel char inOutput
        · rw [List.singleton_append, List.getLast?_cons_cons, List.getLast?_cons_cons, isLast]
      · rename_i isLetter
        rw [String.toList_ofList]
        refine ⟨isLabel, ⟨first, rfl, ?_⟩, _, isLast, endsPlain _ isLast⟩
        rw [not_or, not_lt, not_lt] at isLetter
        simp [letterChar, isLetter]

theorem dns1035Name_of_label {text : List Char} (valid : dns1035Part text = true) :
    dns1035Name (String.ofList text) = String.ofList text := by
  obtain ⟨isLabel, ⟨first, isFirst, isLetter⟩, last, isLast, plainLast⟩ := dns1035Part_iff.mp valid
  have plainFirst := alphanumericChar_of_letterChar isLetter
  have unchanged : text.map dns1035Char = text := by
    conv_rhs => rw [← List.map_id text]
    exact List.map_congr_left fun char member => dns1035Char_of_labelChar (isLabel char member)
  unfold dns1035Name
  rw [String.toList_ofList, trimmed_eq_self isFirst isLast plainFirst plainLast, unchanged]
  obtain ⟨rest, rfl⟩ := List.head?_eq_some_iff.mp isFirst
  rw [letterChar, Bool.and_eq_true, decide_eq_true_eq, decide_eq_true_eq] at isLetter
  exact if_neg (not_or.mpr ⟨not_lt.mpr isLetter.1, not_lt.mpr isLetter.2⟩)

/-! ## Shortened names -/

theorem alphanumericChar_hexDigit {value : Nat} (small : value < 16) :
    alphanumericChar (Sha256.hexDigit value) = true := by
  interval_cases value <;> decide

theorem alphanumericChar_of_mem_hashDigits {text : List Char} {char : Char}
    (member : char ∈ hashDigits text) : alphanumericChar char = true := by
  have inDigest := List.mem_of_mem_take member
  simp only [Sha256.hexDigest, String.toList_ofList, List.mem_flatMap, Sha256.hexWord,
    List.mem_map] at inDigest
  obtain ⟨word, -, index, -, rfl⟩ := inDigest
  exact alphanumericChar_hexDigit (Nat.mod_lt _ (by decide))

theorem length_hashDigits (text : List Char) : (hashDigits text).length = nameSuffixLength := by
  rw [hashDigits, List.length_take, Sha256.hexDigest, String.toList_ofList]
  simp [Sha256.hexWord, nameSuffixLength]

theorem length_shorten_le (text : List Char) : (shorten text).length ≤ maxNameLength := by
  unfold shorten
  split
  · have stem : (keptStem text).length ≤ maxNameLength - (nameSuffixLength + 1) :=
      (trimRightDash_sublist _).length_le.trans (List.length_take_le _ _)
    rw [List.length_append, List.length_cons, length_hashDigits]
    simp only [maxNameLength, nameSuffixLength] at stem ⊢
    omega
  · omega

/-- Shortening keeps a label a label: the stem keeps the first letter, and the digits of
the digest end the name. -/
theorem dns1035Part_shorten {text : List Char} (valid : dns1035Part text = true) :
    dns1035Part (shorten text) = true := by
  unfold shorten
  split
  · obtain ⟨isLabel, ⟨first, isFirst, isLetter⟩, -⟩ := dns1035Part_iff.mp valid
    have notDash := ne_dash_of_alphanumeric (alphanumericChar_of_letterChar isLetter)
    have stemFirst : (keptStem text).head? = some first := by
      apply head?_trimRightDash _ notDash
      rw [List.head?_take, if_neg (by decide), isFirst]
    have digitsNotNil : hashDigits text ≠ [] := by
      intro isNil
      have size := length_hashDigits text
      rw [isNil] at size
      cases size
    have isLast := List.getLast?_eq_some_getLast digitsNotNil
    rw [dns1035Part_iff]
    refine ⟨?_, ⟨first, by simp [stemFirst], isLetter⟩, (hashDigits text).getLast digitsNotNil,
      ?_, alphanumericChar_of_mem_hashDigits (List.getLast_mem _)⟩
    · intro char member
      rw [List.mem_append, List.mem_cons] at member
      rcases member with inStem | rfl | isDigit
      · exact isLabel char (List.mem_of_mem_take ((trimRightDash_sublist _).subset inStem))
      · rfl
      · simp [labelChar, alphanumericChar_of_mem_hashDigits isDigit]
    · simp [List.getLast?_append, List.getLast?_cons, isLast]
  · exact valid

/-! ## Names of any bytes -/

/-- `fmt.Sprintf("%s-%s-%s", namespace, routeName, serviceName)`. -/
def dashJoined (routeName serviceName ns : GoString) : GoString :=
  ns ++ 45 :: (routeName ++ 45 :: serviceName)

/-- `GenerateRouteServiceName` on the bytes of its arguments. Lower-casing and the loop of
`dns1035Name` read them rune by rune, and a byte that starts no rune is read as U+FFFD. -/
def generateRouteServiceNameOfBytes (routeName serviceName ns : GoString) : String :=
  let output := dns1035Name (String.ofList (dashJoined routeName serviceName ns).runes)
  if output.utf8ByteSize ≥ maxNameLength then truncateName output else output

/-- On the bytes of a text this is the function on texts. -/
theorem generateRouteServiceNameOfBytes_ofText (routeName serviceName ns : String) :
    generateRouteServiceNameOfBytes (.ofText routeName) (.ofText serviceName) (.ofText ns) =
      generateRouteServiceName routeName serviceName ns := by
  have joined : dashJoined (.ofText routeName) (.ofText serviceName) (.ofText ns) =
      .ofText (ns ++ "-" ++ routeName ++ "-" ++ serviceName) := by
    have dash : String.utf8EncodeChar '-' = [45] := by decide
    simp [dashJoined, GoString.ofText_eq, dash]
  rw [generateRouteServiceNameOfBytes, joined, GoString.runes_ofText, String.ofList_toList]
  rfl

theorem toList_generateRouteServiceNameOfBytes (routeName serviceName ns : GoString) :
    (generateRouteServiceNameOfBytes routeName serviceName ns).toList =
      shorten (dns1035Name (String.ofList (dashJoined routeName serviceName ns).runes)).toList :=
  toList_shortened (nameChar_dns1035Name _)

theorem isAscii_of_label {name : GoString} (valid : dns1035Part name.runes = true) :
    ∀ byte ∈ name, GoString.IsAscii byte :=
  GoString.isAscii_of_runes fun char member =>
    toNat_lt_of_labelChar ((dns1035Part_iff.mp valid).1 char member)

theorem isAscii_dashJoined {routeName serviceName ns : GoString}
    (routeAscii : ∀ byte ∈ routeName, GoString.IsAscii byte)
    (serviceAscii : ∀ byte ∈ serviceName, GoString.IsAscii byte)
    (nsAscii : ∀ byte ∈ ns, GoString.IsAscii byte) :
    ∀ byte ∈ dashJoined routeName serviceName ns, GoString.IsAscii byte := by
  intro byte member
  rw [dashJoined, List.mem_append, List.mem_cons, List.mem_append, List.mem_cons] at member
  rcases member with inNs | rfl | inRoute | rfl | inService
  · exact nsAscii byte inNs
  · decide
  · exact routeAscii byte inRoute
  · decide
  · exact serviceAscii byte inService

/-- Labels whose joined text is below the limit are joined by dashes and nothing else. -/
theorem ofText_generateRouteServiceNameOfBytes_of_labels {routeName serviceName ns : GoString}
    (routeValid : dns1035Part routeName.runes = true)
    (serviceValid : dns1035Part serviceName.runes = true)
    (nsValid : dns1035Part ns.runes = true)
    (short : (dashJoined routeName serviceName ns).length < maxNameLength) :
    .ofText (generateRouteServiceNameOfBytes routeName serviceName ns) =
      dashJoined routeName serviceName ns := by
  have ascii := isAscii_dashJoined (isAscii_of_label routeValid) (isAscii_of_label serviceValid)
    (isAscii_of_label nsValid)
  have joinedRunes : (dashJoined routeName serviceName ns).runes =
      ns.runes ++ '-' :: (routeName.runes ++ '-' :: serviceName.runes) := by
    rw [GoString.runes_of_ascii ascii, GoString.runes_of_ascii (isAscii_of_label routeValid),
      GoString.runes_of_ascii (isAscii_of_label serviceValid),
      GoString.runes_of_ascii (isAscii_of_label nsValid), dashJoined]
    simp only [List.map_append, List.map_cons]
    rfl
  have joinedValid : dns1035Part (dashJoined routeName serviceName ns).runes = true := by
    rw [joinedRunes]
    exact dns1035Part_append nsValid (dns1035Part_append routeValid serviceValid)
  have shortRunes : ¬ maxNameLength ≤ (dashJoined routeName serviceName ns).runes.length :=
    not_le.mpr ((GoString.length_runes_le _).trans_lt short)
  have printed : (generateRouteServiceNameOfBytes routeName serviceName ns).toList =
      (dashJoined routeName serviceName ns).runes := by
    rw [toList_generateRouteServiceNameOfBytes, dns1035Name_of_label joinedValid,
      String.toList_ofList, shorten, if_neg shortRunes]
  rw [GoString.ofText_eq, printed, GoString.encode_runes_of_ascii ascii]

/-- For arguments of any bytes `GenerateRouteServiceName` returns a label of at most sixty
characters, and labels that fit are joined by dashes. -/
theorem generateRouteServiceNameOfBytes_isLabel (routeName serviceName ns : GoString) :
    dns1035Part (generateRouteServiceNameOfBytes routeName serviceName ns).toList = true ∧
      (generateRouteServiceNameOfBytes routeName serviceName ns).toList.length ≤ maxNameLength ∧
      (dns1035Part routeName.runes = true → dns1035Part serviceName.runes = true →
        dns1035Part ns.runes = true →
        (dashJoined routeName serviceName ns).length < maxNameLength →
        .ofText (generateRouteServiceNameOfBytes routeName serviceName ns) =
          dashJoined routeName serviceName ns) := by
  refine ⟨?_, ?_, ofText_generateRouteServiceNameOfBytes_of_labels⟩
  · rw [toList_generateRouteServiceNameOfBytes]
    exact dns1035Part_shorten (dns1035Part_dns1035Name _)
  · rw [toList_generateRouteServiceNameOfBytes]
    exact length_shorten_le _

/-- Three labels, as the bytes of `web`, `api` and `prod`. -/
theorem generateRouteServiceNameOfBytes_web_api_prod :
    .ofText (generateRouteServiceNameOfBytes [119, 101, 98] [97, 112, 105] [112, 114, 111, 100]) =
      dashJoined [119, 101, 98] [97, 112, 105] [112, 114, 111, 100] :=
  (generateRouteServiceNameOfBytes_isLabel [119, 101, 98] [97, 112, 105]
    [112, 114, 111, 100]).2.2 (by decide +kernel) (by decide +kernel) (by decide +kernel)
    (by decide)

end KubeLB.Naming
