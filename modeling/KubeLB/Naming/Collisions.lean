import KubeLB.Naming.Generated

/-!
Contract: when two sources get one generated name.

Owns: the names Kubernetes admits, the words of a generated name, and the
equivalence between equal generated names and coinciding words, for
`GenerateName` and for `GenerateRouteServiceName`.

Does not own: who writes an object under a generated name.

A generated name keeps the words between its separators and forgets which
separator stood where: which dash ended the namespace, and for the Services of a
route also which mark was a dot. A long text keeps less, its first characters and
four digits of a digest.
-/

set_option autoImplicit false

namespace KubeLB.Naming

open KubeLB.Library

/-! ## Names that Kubernetes admits -/

def alphanumericChar (char : Char) : Bool :=
  ('a' ≤ char && char ≤ 'z') || ('0' ≤ char && char ≤ '9')

theorem char_le_iff (char char' : Char) : char ≤ char' ↔ char.toNat ≤ char'.toNat := by
  rw [Char.le_def, UInt32.le_iff_toNat_le]
  rfl

theorem alphanumericChar_iff (char : Char) :
    alphanumericChar char = true ↔
      (97 ≤ char.toNat ∧ char.toNat ≤ 122) ∨ (48 ≤ char.toNat ∧ char.toNat ≤ 57) := by
  simp only [alphanumericChar, Bool.or_eq_true, Bool.and_eq_true, decide_eq_true_eq,
    char_le_iff]
  rfl

/-- `[a-z0-9]([-a-z0-9]*[a-z0-9])?` -/
def dns1123Part (part : List Char) : Bool :=
  part.all (fun char => alphanumericChar char || char == '-') &&
    part.head?.any alphanumericChar && part.getLast?.any alphanumericChar

/-- The names of namespaces. Service names are such labels too; they start with
a letter unless the relaxed validation is on. -/
def Dns1123Label (text : String) : Prop :=
  dns1123Part text.toList = true ∧ text.toList.length ≤ 63

/-- The names of Routes and of the objects they come from. -/
def Dns1123Subdomain (text : String) : Prop :=
  (text.toList.splitOn '.').all dns1123Part = true ∧ text.toList.length ≤ 253

instance (text : String) : Decidable (Dns1123Label text) :=
  inferInstanceAs (Decidable (_ ∧ _))

instance (text : String) : Decidable (Dns1123Subdomain text) :=
  inferInstanceAs (Decidable (_ ∧ _))

abbrev LabelName := { text : String // Dns1123Label text }

abbrev SubdomainName := { text : String // Dns1123Subdomain text }

/-- What `GenerateName` is given. -/
structure SourceName where
  ns : LabelName
  name : SubdomainName
  deriving DecidableEq

/-- What `GenerateRouteServiceName` is given. -/
structure SourceService where
  ns : LabelName
  routeName : SubdomainName
  serviceName : LabelName
  deriving DecidableEq

def SourceName.generated (source : SourceName) : String :=
  generateName source.name.val source.ns.val

def SourceService.generated (source : SourceService) : String :=
  generateRouteServiceName source.routeName.val source.serviceName.val source.ns.val

/-- The characters of admitted names. -/
def NameChar (char : Char) : Prop :=
  alphanumericChar char = true ∨ char = '-' ∨ char = '.'

theorem nameChar_of_mem_part
    {part : List Char}
    (valid : dns1123Part part = true)
    {char : Char}
    (member : char ∈ part) :
    NameChar char := by
  simp only [dns1123Part, Bool.and_eq_true, List.all_eq_true, Bool.or_eq_true,
    beq_iff_eq] at valid
  rcases valid.1.1 char member with plain | dash
  · exact Or.inl plain
  · exact Or.inr (Or.inl dash)

theorem LabelName.nameChar (label : LabelName) : ∀ char ∈ label.val.toList, NameChar char :=
  fun _ member => nameChar_of_mem_part label.property.1 member

theorem mem_intercalate
    {mark char : Char}
    {words : List (List Char)}
    (member : char ∈ [mark].intercalate words) :
    char = mark ∨ ∃ word ∈ words, char ∈ word := by
  induction words with
  | nil => cases member
  | cons head tail ih =>
      cases tail with
      | nil => exact Or.inr ⟨head, List.mem_cons_self, by simpa using member⟩
      | cons next rest =>
          rw [List.intercalate_cons_cons, List.append_assoc, List.mem_append,
            List.mem_append, List.mem_singleton] at member
          rcases member with inHead | isMark | inTail
          · exact Or.inr ⟨head, List.mem_cons_self, inHead⟩
          · exact Or.inl isMark
          · rcases ih inTail with isMark | ⟨word, wordMem, charMem⟩
            · exact Or.inl isMark
            · exact Or.inr ⟨word, List.mem_cons_of_mem _ wordMem, charMem⟩

theorem SubdomainName.nameChar (name : SubdomainName) :
    ∀ char ∈ name.val.toList, NameChar char := by
  intro char member
  have inWords : char ∈ ['.'].intercalate (name.val.toList.splitOn '.') := by
    rw [List.intercalate_splitOn]
    exact member
  rcases mem_intercalate inWords with isDot | ⟨word, wordMem, charMem⟩
  · exact Or.inr (Or.inr isDot)
  · exact nameChar_of_mem_part (List.all_eq_true.mp name.property.1 word wordMem) charMem

theorem NameChar.ascii {char : Char} (admitted : NameChar char) : char.val ≤ 127 := by
  rcases admitted with plain | rfl | rfl
  · have bounds := (alphanumericChar_iff char).mp plain
    have below : char.toNat ≤ 127 := by omega
    exact UInt32.le_iff_toNat_le.mpr below
  · decide
  · decide

/-! ## Shortened texts -/

/-- What `truncateName` keeps of a text. -/
def keptStem (text : List Char) : List Char :=
  trimRightDash (text.take (maxNameLength - (nameSuffixLength + 1)))

/-- What `truncateName` appends. -/
def hashDigits (text : List Char) : List Char :=
  (Sha256.hexDigest (String.ofList text).toByteArray.data.toList).toList.take nameSuffixLength

/-- The common ending of `GenerateName` and `GenerateRouteServiceName`, for ASCII
texts. -/
def shorten (text : List Char) : List Char :=
  if maxNameLength ≤ text.length then keptStem text ++ '-' :: hashDigits text else text

theorem toList_truncateName (text : String) :
    (truncateName text).toList = keptStem text.toList ++ '-' :: hashDigits text.toList := by
  simp [truncateName, keptStem, hashDigits]

theorem toList_shortened {text : String} (admitted : ∀ char ∈ text.toList, NameChar char) :
    (if text.utf8ByteSize ≥ maxNameLength then truncateName text else text).toList =
      shorten text.toList := by
  have bytes : text.utf8ByteSize = text.toList.length := by
    rw [← String.utf8Len_toList]
    exact utf8Len_of_ascii fun char member => (admitted char member).ascii
  rw [bytes, apply_ite String.toList, toList_truncateName]
  rfl

theorem dash_notMem_hashDigits (text : List Char) : '-' ∉ hashDigits text :=
  fun member => Sha256.dash_notMem_hexDigest _ (List.mem_of_mem_take member)

/-- A cut text has at least `maxNameLength` characters. -/
def Cut (words : List (List Char)) : Prop :=
  maxNameLength ≤ (['-'].intercalate words).length

/-- The words of a text that is short enough are those of the cut text of
another. -/
def ReadsAsCut (words cut : List (List Char)) : Prop :=
  ¬ Cut words ∧ Cut cut ∧
    words = (keptStem (['-'].intercalate cut)).splitOn '-' ++ [hashDigits (['-'].intercalate cut)]

/-- Two lists of words that are printed alike. -/
def Coincide (words words' : List (List Char)) : Prop :=
  words = words' ∨
    (Cut words ∧ Cut words' ∧
      keptStem (['-'].intercalate words) = keptStem (['-'].intercalate words') ∧
      hashDigits (['-'].intercalate words) = hashDigits (['-'].intercalate words')) ∨
    ReadsAsCut words words' ∨ ReadsAsCut words' words

instance (words : List (List Char)) : Decidable (Cut words) :=
  inferInstanceAs (Decidable (_ ≤ _))

instance (words cut : List (List Char)) : Decidable (ReadsAsCut words cut) :=
  inferInstanceAs (Decidable (_ ∧ _))

instance (words words' : List (List Char)) : Decidable (Coincide words words') :=
  inferInstanceAs (Decidable (_ ∨ _))

theorem cut_splitOn (text : List Char) :
    Cut (text.splitOn '-') ↔ maxNameLength ≤ text.length := by
  rw [Cut, List.intercalate_splitOn]

theorem readsAsCut_splitOn (text cut : List Char) :
    ReadsAsCut (text.splitOn '-') (cut.splitOn '-') ↔
      ¬ maxNameLength ≤ text.length ∧ maxNameLength ≤ cut.length ∧
        text = keptStem cut ++ '-' :: hashDigits cut := by
  have cutWords : (keptStem cut ++ '-' :: hashDigits cut).splitOn '-' =
      (keptStem cut).splitOn '-' ++ [hashDigits cut] := by
    rw [List.splitOn_append_cons_self, List.splitOn_eq_singleton (dash_notMem_hashDigits cut)]
  rw [ReadsAsCut, cut_splitOn, cut_splitOn, List.intercalate_splitOn, ← cutWords, splitOn_inj]

/-- Shortened texts are equal exactly when their words coincide. -/
theorem shorten_eq_iff (text text' : List Char) :
    shorten text = shorten text' ↔ Coincide (text.splitOn '-') (text'.splitOn '-') := by
  rw [Coincide, splitOn_inj, cut_splitOn, cut_splitOn, readsAsCut_splitOn,
    readsAsCut_splitOn, List.intercalate_splitOn, List.intercalate_splitOn]
  unfold shorten
  by_cases long : maxNameLength ≤ text.length <;>
    by_cases long' : maxNameLength ≤ text'.length
  · simp only [long, long', if_true, true_and, not_true_eq_false, false_and, or_false]
    constructor
    · intro same
      exact Or.inr (cut_last_separator (dash_notMem_hashDigits _)
        (dash_notMem_hashDigits _) same)
    · rintro (rfl | ⟨stem, digits⟩)
      · rfl
      · rw [stem, digits]
  · simp only [long, long', if_true, if_false, true_and, not_true_eq_false, false_and,
      not_false_eq_true, and_false, false_or]
    constructor
    · exact fun same => Or.inr same.symm
    · rintro (rfl | same)
      · exact absurd long long'
      · exact same.symm
  · simp only [long, long', if_true, if_false, true_and, not_true_eq_false, false_and,
      not_false_eq_true, false_or, or_false]
    constructor
    · exact fun same => Or.inr same
    · rintro (rfl | same)
      · exact absurd long' long
      · exact same
  · simp only [long, long', if_false, false_and, and_false, or_false]

/-! ## The words of a source -/

def SourceName.words (source : SourceName) : List (List Char) :=
  source.ns.val.toList.splitOn '-' ++ source.name.val.toList.splitOn '-'

def nameMark (char : Char) : Bool := char == '-' || char == '.'

def leadingWords (text : List Char) : List (List Char) :=
  if text.head?.any (fun char => '0' ≤ char && char ≤ '9') then [['k']] else []

def SourceService.words (source : SourceService) : List (List Char) :=
  leadingWords source.ns.val.toList ++ source.ns.val.toList.splitOnP nameMark ++
    source.routeName.val.toList.splitOnP nameMark ++
    source.serviceName.val.toList.splitOnP nameMark

theorem SourceName.toList_generated (source : SourceName) :
    source.generated.toList =
      shorten (source.ns.val.toList ++ '-' :: source.name.val.toList) := by
  have assembled : (source.ns.val ++ "-" ++ source.name.val).toList =
      source.ns.val.toList ++ '-' :: source.name.val.toList := by simp
  have admitted : ∀ char ∈ (source.ns.val ++ "-" ++ source.name.val).toList,
      NameChar char := by
    intro char member
    rw [assembled, List.mem_append, List.mem_cons] at member
    rcases member with inNs | rfl | inName
    · exact source.ns.nameChar char inNs
    · exact Or.inr (Or.inl rfl)
    · exact source.name.nameChar char inName
  rw [← assembled]
  exact toList_shortened admitted

theorem SourceName.splitOn_assembled (source : SourceName) :
    (source.ns.val.toList ++ '-' :: source.name.val.toList).splitOn '-' = source.words := by
  rw [List.splitOn_append_cons_self, SourceName.words]

theorem dns1035Char_of_alphanumeric {char : Char} (plain : alphanumericChar char = true) :
    dns1035Char char = char := by
  have bounds := (alphanumericChar_iff char).mp plain
  have notUpper : ¬ ('A' ≤ char ∧ char ≤ 'Z') := by
    rw [char_le_iff, char_le_iff]
    show ¬ (65 ≤ char.toNat ∧ char.toNat ≤ 90)
    omega
  have lower : lowerChar char = char := by
    unfold lowerChar
    rw [if_neg notUpper, if_neg (by omega), if_neg (by omega)]
  simp only [alphanumericChar, Bool.or_eq_true, Bool.and_eq_true, decide_eq_true_eq] at plain
  unfold dns1035Char
  dsimp only
  rw [lower, if_pos (by tauto)]

/-- The switch of `dns1035Name` keeps the words of admitted characters. -/
theorem splitOn_map_dns1035Char
    {text : List Char}
    (admitted : ∀ char ∈ text, NameChar char) :
    (text.map dns1035Char).splitOn '-' = text.splitOnP nameMark := by
  apply splitOn_map
  · intro char _ isMark
    simp only [nameMark, Bool.or_eq_true, beq_iff_eq] at isMark
    rcases isMark with rfl | rfl <;> decide
  · intro char member notMark
    simp only [nameMark, Bool.or_eq_false_iff, beq_eq_false_iff_ne] at notMark
    rcases admitted char member with plain | isDash | isDot
    · exact ⟨dns1035Char_of_alphanumeric plain, notMark.1⟩
    · exact absurd isDash notMark.1
    · exact absurd isDot notMark.2

theorem ne_dash_of_alphanumeric {char : Char} (plain : alphanumericChar char = true) :
    char ≠ '-' := by
  rintro rfl
  exact absurd plain (by decide)

theorem trimmed_eq_self
    {text : List Char}
    {first last : Char}
    (isFirst : text.head? = some first)
    (isLast : text.getLast? = some last)
    (plainFirst : alphanumericChar first = true)
    (plainLast : alphanumericChar last = true) :
    trimRightDash ((text.map dns1035Char).dropWhile (· = '-')) = text.map dns1035Char := by
  have kept : ∀ {char : Char} {chars : List Char}, alphanumericChar char = true →
      chars.head? = some char → (chars.dropWhile (· = '-')) = chars := by
    intro char chars plain isHead
    obtain ⟨rest, rfl⟩ := List.head?_eq_some_iff.mp isHead
    rw [List.dropWhile_cons_of_neg (by simpa using ne_dash_of_alphanumeric plain)]
  rw [kept plainFirst (by simp [isFirst, dns1035Char_of_alphanumeric plainFirst]),
    trimRightDash,
    kept plainLast (by simp [isLast, dns1035Char_of_alphanumeric plainLast]),
    List.reverse_reverse]

theorem splitOn_dns1035Name
    {text : List Char}
    (admitted : ∀ char ∈ text, NameChar char)
    {first last : Char}
    (isFirst : text.head? = some first)
    (isLast : text.getLast? = some last)
    (plainFirst : alphanumericChar first = true)
    (plainLast : alphanumericChar last = true) :
    (dns1035Name (String.ofList text)).toList.splitOn '-' =
      leadingWords text ++ text.splitOnP nameMark := by
  have trimmed := trimmed_eq_self isFirst isLast plainFirst plainLast
  have words := splitOn_map_dns1035Char admitted
  obtain ⟨rest, rfl⟩ := List.head?_eq_some_iff.mp isFirst
  have bounds := (alphanumericChar_iff first).mp plainFirst
  have letter : (first < 'a' ∨ 'z' < first) ↔ ('0' ≤ first ∧ first ≤ '9') := by
    rw [← Char.not_le, ← Char.not_le, char_le_iff, char_le_iff, char_le_iff, char_le_iff]
    show (¬ 97 ≤ first.toNat ∨ ¬ first.toNat ≤ 122) ↔ 48 ≤ first.toNat ∧ first.toNat ≤ 57
    omega
  unfold dns1035Name
  rw [String.toList_ofList, trimmed]
  rw [← words]
  simp only [List.map_cons, dns1035Char_of_alphanumeric plainFirst, letter, leadingWords,
    List.head?_cons, Option.any_some, Bool.and_eq_true, decide_eq_true_eq]
  split
  · have lead : ("k-" ++ String.ofList (first :: rest.map dns1035Char)).toList =
        ['k'] ++ '-' :: (first :: rest.map dns1035Char) := by simp
    rw [lead, List.splitOn_append_cons_self]
    rfl
  · simp

theorem nameChar_dns1035Char (char : Char) : NameChar (dns1035Char char) := by
  unfold dns1035Char
  dsimp only
  split
  · next kept =>
      rcases kept with letter | digit | dash
      · exact Or.inl (by simp [alphanumericChar, letter])
      · exact Or.inl (by simp [alphanumericChar, digit])
      · exact Or.inr (Or.inl dash)
  · exact Or.inr (Or.inl rfl)

theorem trimRightDash_sublist (name : List Char) : (trimRightDash name).Sublist name := by
  have trimmed := (List.dropWhile_sublist (· = '-') (l := name.reverse)).reverse
  rwa [List.reverse_reverse] at trimmed

/-- Whatever it is given, `dns1035Name` prints admitted characters. -/
theorem nameChar_dns1035Name (name : String) :
    ∀ char ∈ (dns1035Name name).toList, NameChar char := by
  have output : ∀ char ∈ trimRightDash ((name.toList.map dns1035Char).dropWhile (· = '-')),
      NameChar char := by
    intro char member
    have printed := (List.dropWhile_sublist _).subset
      ((trimRightDash_sublist _).subset member)
    obtain ⟨original, _, rfl⟩ := List.mem_map.mp printed
    exact nameChar_dns1035Char original
  intro char member
  unfold dns1035Name at member
  dsimp only at member
  generalize trimRightDash ((name.toList.map dns1035Char).dropWhile (· = '-')) = printed
    at output member
  split at member
  · have isLetter : char = 'k' := by simpa using member
    exact isLetter ▸ Or.inl (by decide)
  · next first rest =>
      split at member
      · have parts : char = 'k' ∨ char = '-' ∨ char ∈ first :: rest := by simpa using member
        rcases parts with rfl | rfl | inOutput
        · exact Or.inl (by decide)
        · exact Or.inr (Or.inl rfl)
        · exact output char inOutput
      · exact output char (by simpa using member)

theorem SourceService.toList_generated (source : SourceService) :
    source.generated.toList =
      shorten (dns1035Name (source.ns.val ++ "-" ++ source.routeName.val ++ "-" ++
        source.serviceName.val)).toList :=
  toList_shortened (nameChar_dns1035Name _)

theorem LabelName.head?_eq (label : LabelName) :
    ∃ first, label.val.toList.head? = some first ∧ alphanumericChar first = true := by
  have valid := label.property.1
  simp only [dns1123Part, Bool.and_eq_true] at valid
  exact (Option.any_eq_true _ _).mp valid.1.2

theorem LabelName.getLast?_eq (label : LabelName) :
    ∃ last, label.val.toList.getLast? = some last ∧ alphanumericChar last = true := by
  have valid := label.property.1
  simp only [dns1123Part, Bool.and_eq_true] at valid
  exact (Option.any_eq_true _ _).mp valid.2

theorem SourceService.splitOn_assembled (source : SourceService) :
    (dns1035Name (source.ns.val ++ "-" ++ source.routeName.val ++ "-" ++
      source.serviceName.val)).toList.splitOn '-' = source.words := by
  obtain ⟨first, isFirst, plainFirst⟩ := source.ns.head?_eq
  obtain ⟨last, isLast, plainLast⟩ := source.serviceName.getLast?_eq
  let text := source.ns.val.toList ++ '-' :: (source.routeName.val.toList ++ '-' ::
    source.serviceName.val.toList)
  have assembled : source.ns.val ++ "-" ++ source.routeName.val ++ "-" ++
      source.serviceName.val = String.ofList text := by
    apply String.toList_injective
    simp [text]
  have admitted : ∀ char ∈ text, NameChar char := by
    intro char member
    simp only [text, List.mem_append, List.mem_cons] at member
    rcases member with inNs | rfl | inRoute | rfl | inService
    · exact source.ns.nameChar char inNs
    · exact Or.inr (Or.inl rfl)
    · exact source.routeName.nameChar char inRoute
    · exact Or.inr (Or.inl rfl)
    · exact source.serviceName.nameChar char inService
  have textFirst : text.head? = some first := by simp [text, isFirst]
  have textLast : text.getLast? = some last := by
    simp [text, List.getLast?_append, List.getLast?_cons, isLast]
  rw [assembled, splitOn_dns1035Name admitted textFirst textLast plainFirst plainLast,
    SourceService.words]
  have lead : leadingWords text = leadingWords source.ns.val.toList := by
    simp only [leadingWords, textFirst, isFirst]
  rw [lead, List.splitOnP_append_cons _ _ (by decide), List.splitOnP_append_cons _ _ (by decide),
    List.append_assoc, List.append_assoc]

/-! ## Generated names -/

theorem SourceName.generated_eq_iff (source other : SourceName) :
    source.generated = other.generated ↔ Coincide source.words other.words := by
  rw [← String.toList_inj, source.toList_generated, other.toList_generated, shorten_eq_iff,
    source.splitOn_assembled, other.splitOn_assembled]

theorem SourceService.generated_eq_iff (source other : SourceService) :
    source.generated = other.generated ↔ Coincide source.words other.words := by
  rw [← String.toList_inj, source.toList_generated, other.toList_generated, shorten_eq_iff,
    source.splitOn_assembled, other.splitOn_assembled]

/-- Different sources get different generated names exactly when their words do
not coincide. -/
theorem generated_ne_iff (source other : SourceName) (service otherService : SourceService) :
    (source ≠ other →
      (source.generated ≠ other.generated ↔ ¬ Coincide source.words other.words)) ∧
    (service ≠ otherService →
      (service.generated ≠ otherService.generated ↔
        ¬ Coincide service.words otherService.words)) :=
  ⟨fun _ => not_congr (source.generated_eq_iff other),
    fun _ => not_congr (service.generated_eq_iff otherService)⟩

/-- With other words the names differ: the sources `a/b` and `a/c`, and the
Services `d` and `e` of one route. -/
theorem generated_ne_of_other_words :
    (⟨⟨"a", by decide⟩, ⟨"b", by decide⟩⟩ : SourceName).generated ≠
      (⟨⟨"a", by decide⟩, ⟨"c", by decide⟩⟩ : SourceName).generated ∧
    (⟨⟨"a", by decide⟩, ⟨"b.c", by decide⟩, ⟨"d", by decide⟩⟩ : SourceService).generated ≠
      (⟨⟨"a", by decide⟩, ⟨"b.c", by decide⟩, ⟨"e", by decide⟩⟩ : SourceService).generated := by
  obtain ⟨names, services⟩ := generated_ne_iff
    ⟨⟨"a", by decide⟩, ⟨"b", by decide⟩⟩ ⟨⟨"a", by decide⟩, ⟨"c", by decide⟩⟩
    ⟨⟨"a", by decide⟩, ⟨"b.c", by decide⟩, ⟨"d", by decide⟩⟩
    ⟨⟨"a", by decide⟩, ⟨"b.c", by decide⟩, ⟨"e", by decide⟩⟩
  exact ⟨(names (by decide)).mpr (by decide +kernel),
    (services (by decide)).mpr (by decide +kernel)⟩

/-- A dash may end the namespace or stand within a name: the sources `a/b-c` and
`a-b/c` share a generated name, and so do the Services `d` of these two routes. -/
theorem moved_dash_generated_eq :
    (⟨⟨"a", by decide⟩, ⟨"b-c", by decide⟩⟩ : SourceName) ≠
      ⟨⟨"a-b", by decide⟩, ⟨"c", by decide⟩⟩ ∧
    (⟨⟨"a", by decide⟩, ⟨"b-c", by decide⟩⟩ : SourceName).generated =
      (⟨⟨"a-b", by decide⟩, ⟨"c", by decide⟩⟩ : SourceName).generated ∧
    (⟨⟨"a", by decide⟩, ⟨"b-c", by decide⟩, ⟨"d", by decide⟩⟩ : SourceService) ≠
      ⟨⟨"a-b", by decide⟩, ⟨"c", by decide⟩, ⟨"d", by decide⟩⟩ ∧
    (⟨⟨"a", by decide⟩, ⟨"b-c", by decide⟩, ⟨"d", by decide⟩⟩ : SourceService).generated =
      (⟨⟨"a-b", by decide⟩, ⟨"c", by decide⟩, ⟨"d", by decide⟩⟩ : SourceService).generated := by
  decide +kernel

end KubeLB.Naming
