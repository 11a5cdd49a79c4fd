import KubeLB.Api.Core
import KubeLB.Library.Text
import KubeLB.Library.Utf8
import KubeLB.Naming.Labels

/-!
Contract: the hostnames of LoadBalancers.

Owns: `isValidHostname` and the grammar it is meant to decide, `GenerateHostname` with its
fallbacks, and `ShouldConfigureHostname`.

Does not own: the Ingress or HTTPRoute that serves a hostname.

Hostnames are byte strings. The check lower-cases a label rune by rune before it matches
the label, so two letters beyond ASCII pass as `k` and `i`.
-/

set_option autoImplicit false

namespace KubeLB.LoadBalancers

open KubeLB.Library KubeLB.Naming

/-! ## The check -/

/-- `^[a-z0-9]([a-z0-9-]{0,61}[a-z0-9])?$` -/
def labelRegex : List Char → Bool
  | [] => false
  | [single] => alphanumericChar single
  | first :: second :: rest =>
      let middle := (second :: rest).dropLast
      alphanumericChar first && decide (middle.length ≤ 61) && middle.all labelChar &&
        alphanumericChar ((second :: rest).getLast (List.cons_ne_nil _ _))

/-- The checks of one label in `isValidHostname`. -/
def validLabel (label : GoString) : Bool :=
  !(label == [] || decide (label.length > 63)) && labelRegex (label.runes.map lowerChar)

def isValidHostname (hostname : GoString) : Bool :=
  if hostname = [] ∨ hostname.length > 253 then false
  else if [46, 46] <:+: hostname ∨ [46] <+: hostname ∨ [46] <:+ hostname then false
  else
    let labels := hostname.splitOn 46
    if labels.length < 2 then false else labels.all validLabel

/-! ## The grammar -/

/-- ASCII letters of either case, digits and the dash. -/
def HostByte (byte : UInt8) : Prop :=
  (97 ≤ byte.toNat ∧ byte.toNat ≤ 122) ∨ (65 ≤ byte.toNat ∧ byte.toNat ≤ 90) ∨
    (48 ≤ byte.toNat ∧ byte.toNat ≤ 57) ∨ byte.toNat = 45

/-- 1 to 63 ASCII letters, digits and dashes, with no dash at either end. -/
@[mk_iff]
structure HostLabel (label : GoString) : Prop where
  notEmpty : 1 ≤ label.length
  short : label.length ≤ 63
  bytes : ∀ byte ∈ label, HostByte byte
  noLeadingDash : label.head? ≠ some 45
  noTrailingDash : label.getLast? ≠ some 45

/-- At most 253 bytes, two or more labels with dots between them. -/
def Hostname (hostname : GoString) : Prop :=
  hostname.length ≤ 253 ∧ ∃ labels : List GoString, 2 ≤ labels.length ∧
    (∀ label ∈ labels, HostLabel label) ∧ hostname = [46].intercalate labels

/-! ## What the check accepts -/

def HostChar (char : Char) : Prop :=
  (97 ≤ char.toNat ∧ char.toNat ≤ 122) ∨ (65 ≤ char.toNat ∧ char.toNat ≤ 90) ∨
    (48 ≤ char.toNat ∧ char.toNat ≤ 57) ∨ char.toNat = 45

/-- The letters beyond ASCII whose lower case is an ASCII letter: the Kelvin sign and the
dotted capital I. -/
def FoldedLetter (char : Char) : Prop := char.toNat = 0x212A ∨ char.toNat = 0x0130

/-- A label in which the folded letters count as letters. -/
@[mk_iff]
structure LooseLabel (label : GoString) : Prop where
  notEmpty : 1 ≤ label.length
  short : label.length ≤ 63
  chars : ∀ char ∈ label.runes, HostChar char ∨ FoldedLetter char
  noLeadingDash : label.runes.head? ≠ some '-'
  noTrailingDash : label.runes.getLast? ≠ some '-'

def LooseHostname (hostname : GoString) : Prop :=
  hostname.length ≤ 253 ∧ 2 ≤ (hostname.splitOn 46).length ∧
    ∀ label ∈ hostname.splitOn 46, LooseLabel label

/-- No label has a letter beyond ASCII that is folded into one. -/
def Unfolded (hostname : GoString) : Prop :=
  ∀ label ∈ hostname.splitOn 46, ∀ char ∈ GoString.runes label, ¬ FoldedLetter char

instance : DecidablePred HostByte := fun _ => inferInstanceAs (Decidable (_ ∨ _))

instance : DecidablePred HostChar := fun _ => inferInstanceAs (Decidable (_ ∨ _))

instance : DecidablePred FoldedLetter := fun _ => inferInstanceAs (Decidable (_ ∨ _))

-- the quantifiers are decided along the lists and not over all characters
instance (hostname : GoString) : Decidable (Unfolded hostname) :=
  @List.decidableBAll _ _ (fun label => List.decidableBAll _ (GoString.runes label))
    (hostname.splitOn 46)

theorem labelChar_iff (char : Char) :
    labelChar char = true ↔ (97 ≤ char.toNat ∧ char.toNat ≤ 122) ∨
      (48 ≤ char.toNat ∧ char.toNat ≤ 57) ∨ char.toNat = 45 := by
  rw [labelChar, Bool.or_eq_true, alphanumericChar_iff, beq_iff_eq, or_assoc]
  refine or_congr_right (or_congr_right ⟨fun isDash => isDash ▸ rfl, fun isDash => ?_⟩)
  exact Char.toNat_inj.mp isDash

theorem toNat_lowerChar_of_upper {char : Char} (isUpper : 65 ≤ char.toNat ∧ char.toNat ≤ 90) :
    (lowerChar char).toNat = char.toNat + 32 := by
  have upper : 'A' ≤ char ∧ char ≤ 'Z' := by
    rw [char_le_iff, char_le_iff]
    exact isUpper
  have valid : (char.toNat + 32).isValidChar := Or.inl (by omega)
  rw [lowerChar, if_pos upper, Char.ofNat, dif_pos valid]
  rfl

theorem lowerChar_of_not_upper {char : Char} (notUpper : ¬ (65 ≤ char.toNat ∧ char.toNat ≤ 90)) :
    lowerChar char = if char.toNat = 0x212A then 'k' else if char.toNat = 0x0130 then 'i'
      else char := by
  have upper : ¬ ('A' ≤ char ∧ char ≤ 'Z') := by
    rw [char_le_iff, char_le_iff]
    exact notUpper
  rw [lowerChar, if_neg upper]

/-- Exactly the ASCII characters of a label and the folded letters are lower-cased into
the characters of a label. -/
theorem labelChar_lowerChar_iff (char : Char) :
    labelChar (lowerChar char) = true ↔ HostChar char ∨ FoldedLetter char := by
  rw [labelChar_iff, HostChar, FoldedLetter]
  by_cases isUpper : 65 ≤ char.toNat ∧ char.toNat ≤ 90
  · rw [toNat_lowerChar_of_upper isUpper]
    omega
  · rw [lowerChar_of_not_upper isUpper]
    split
    · rename_i isKelvin
      simp [isKelvin]
    · split
      · rename_i isDotted
        simp [isDotted]
      · omega

theorem lowerChar_eq_dash_iff (char : Char) : lowerChar char = '-' ↔ char = '-' := by
  by_cases isUpper : 65 ≤ char.toNat ∧ char.toNat ≤ 90
  · have value := toNat_lowerChar_of_upper isUpper
    constructor
    · intro isDash
      rw [isDash] at value
      change 45 = char.toNat + 32 at value
      omega
    · rintro rfl
      exact absurd isUpper (by decide)
  · rw [lowerChar_of_not_upper isUpper]
    split
    · rename_i isKelvin
      refine ⟨fun isDash => absurd isDash (by decide), ?_⟩
      rintro rfl
      exact absurd isKelvin (by decide)
    · split
      · rename_i isDotted
        refine ⟨fun isDash => absurd isDash (by decide), ?_⟩
        rintro rfl
        exact absurd isDotted (by decide)
      · rfl

theorem labelRegex_iff {chars : List Char} :
    labelRegex chars = true ↔ chars ≠ [] ∧ chars.length ≤ 63 ∧
      (∀ char ∈ chars, labelChar char = true) ∧ chars.head? ≠ some '-' ∧
      chars.getLast? ≠ some '-' := by
  have plain_iff (char : Char) :
      alphanumericChar char = true ↔ labelChar char = true ∧ char ≠ '-' := by
    refine ⟨fun plain => ⟨by simp [labelChar, plain], ne_dash_of_alphanumeric plain⟩, ?_⟩
    exact fun both => alphanumericChar_of_labelChar both.1 both.2
  rcases chars with _ | ⟨first, _ | ⟨second, rest⟩⟩
  · simp [labelRegex]
  · simp [labelRegex, plain_iff]
  · have notNil := List.cons_ne_nil second rest
    have isLast := List.getLast?_eq_some_getLast notNil
    have parts := List.dropLast_append_getLast notNil
    have size : (second :: rest).dropLast.length + 1 = (second :: rest).length := by simp
    rw [labelRegex, List.getLast?_cons_cons, isLast]
    simp only [Bool.and_eq_true, decide_eq_true_eq, List.all_eq_true, plain_iff]
    have inside : (∀ char ∈ second :: rest, labelChar char = true) ↔
        (∀ char ∈ (second :: rest).dropLast, labelChar char = true) ∧
          labelChar ((second :: rest).getLast notNil) = true := by
      conv_lhs => rw [← parts]
      simp only [List.forall_mem_append, List.forall_mem_singleton]
    rw [List.forall_mem_cons, inside, List.length_cons, ← size, List.head?_cons]
    simp only [ne_eq, Option.some.injEq, reduceCtorEq, not_false_eq_true, true_and]
    constructor
    · rintro ⟨⟨⟨⟨firstLabel, firstPlain⟩, short⟩, middle⟩, lastLabel, lastPlain⟩
      exact ⟨by omega, ⟨firstLabel, middle, lastLabel⟩, firstPlain, lastPlain⟩
    · rintro ⟨short, ⟨firstLabel, middle, lastLabel⟩, firstPlain, lastPlain⟩
      exact ⟨⟨⟨⟨firstLabel, firstPlain⟩, by omega⟩, middle⟩, lastLabel, lastPlain⟩

theorem validLabel_iff {label : GoString} : validLabel label = true ↔ LooseLabel label := by
  have lowered (mark : Option Char) :
      mark.map lowerChar ≠ some '-' ↔ mark ≠ some '-' := by
    cases mark with
    | none => simp
    | some char => simp [lowerChar_eq_dash_iff]
  have short := GoString.length_runes_le label
  rw [validLabel, Bool.and_eq_true, labelRegex_iff, List.head?_map, List.getLast?_map, lowered,
    lowered, List.length_map, List.forall_mem_map]
  simp only [labelChar_lowerChar_iff, Bool.not_eq_true', Bool.or_eq_false_iff, beq_eq_false_iff_ne,
    decide_eq_false_iff_not, not_lt]
  constructor
  · rintro ⟨⟨notEmpty, fits⟩, -, -, chars, leading, trailing⟩
    exact ⟨List.length_pos_of_ne_nil notEmpty, fits, chars, leading, trailing⟩
  · intro loose
    have notEmpty : label ≠ [] := List.ne_nil_of_length_pos loose.notEmpty
    refine ⟨⟨notEmpty, loose.short⟩, ?_, short.trans loose.short, loose.chars,
      loose.noLeadingDash, loose.noTrailingDash⟩
    rwa [ne_eq, List.map_eq_nil_iff, GoString.runes_eq_nil_iff]

/-! ## The two grammars -/

theorem isAscii_of_hostByte {byte : UInt8} (admitted : HostByte byte) : GoString.IsAscii byte := by
  rw [HostByte] at admitted
  rw [GoString.IsAscii]
  omega

theorem hostChar_charOf_iff {byte : UInt8} (ascii : GoString.IsAscii byte) :
    HostChar (GoString.charOf byte) ↔ HostByte byte := by
  rw [HostChar, HostByte, GoString.toNat_charOf ascii]

theorem charOf_eq_dash_iff {byte : UInt8} (ascii : GoString.IsAscii byte) :
    GoString.charOf byte = '-' ↔ byte = 45 := by
  rw [← Char.toNat_inj, GoString.toNat_charOf ascii, ← UInt8.toNat_inj]
  rfl

theorem map_charOf_ne_dash_iff (mark : Option UInt8)
    (ascii : ∀ byte ∈ mark, GoString.IsAscii byte) :
    mark.map GoString.charOf ≠ some '-' ↔ mark ≠ some 45 := by
  cases mark with
  | none => simp
  | some byte => simp [charOf_eq_dash_iff (ascii byte rfl)]

theorem hostLabel_iff_looseLabel {label : GoString}
    (ascii : ∀ byte ∈ label, GoString.IsAscii byte) : HostLabel label ↔ LooseLabel label := by
  have leading := map_charOf_ne_dash_iff label.head?
    fun byte isHead => ascii byte (List.mem_of_mem_head? isHead)
  have trailing := map_charOf_ne_dash_iff label.getLast?
    fun byte isLast => ascii byte (List.mem_of_getLast? isLast)
  have chars : (∀ char ∈ label.map GoString.charOf, HostChar char ∨ FoldedLetter char) ↔
      ∀ byte ∈ label, HostByte byte := by
    rw [List.forall_mem_map]
    refine forall₂_congr fun byte member => ?_
    rw [hostChar_charOf_iff (ascii byte member), FoldedLetter,
      GoString.toNat_charOf (ascii byte member)]
    have small := ascii byte member
    rw [GoString.IsAscii] at small
    refine or_iff_left ?_
    omega
  rw [hostLabel_iff, looseLabel_iff, GoString.runes_of_ascii ascii, List.head?_map,
    List.getLast?_map, leading, trailing, chars]

theorem hostLabel_iff_unfolded {label : GoString} :
    HostLabel label ↔ LooseLabel label ∧ ∀ char ∈ label.runes, ¬ FoldedLetter char := by
  constructor
  · intro host
    have ascii : ∀ byte ∈ label, GoString.IsAscii byte :=
      fun byte member => isAscii_of_hostByte (host.bytes byte member)
    refine ⟨(hostLabel_iff_looseLabel ascii).mp host, ?_⟩
    rw [GoString.runes_of_ascii ascii, List.forall_mem_map]
    intro byte member isFolded
    have small := ascii byte member
    rw [FoldedLetter, GoString.toNat_charOf small] at isFolded
    rw [GoString.IsAscii] at small
    omega
  · rintro ⟨loose, unfolded⟩
    refine (hostLabel_iff_looseLabel (GoString.isAscii_of_runes ?_)).mpr loose
    intro char member
    have isHost := (loose.chars char member).resolve_right (unfolded char member)
    rw [HostChar] at isHost
    omega

theorem dot_notMem_of_hostLabel {label : GoString} (host : HostLabel label) : 46 ∉ label := by
  intro member
  exact absurd (host.bytes 46 member) (by decide)

theorem hostname_iff_splitOn {hostname : GoString} :
    Hostname hostname ↔ hostname.length ≤ 253 ∧ 2 ≤ (hostname.splitOn 46).length ∧
      ∀ label ∈ hostname.splitOn 46, HostLabel label := by
  refine and_congr_right fun _ => ⟨?_, ?_⟩
  · rintro ⟨labels, two, hosts, rfl⟩
    have notNil : labels ≠ [] := by
      rintro rfl
      cases two
    rw [List.splitOn_intercalate 46 (fun label member => dot_notMem_of_hostLabel
      (hosts label member)) notNil]
    exact ⟨two, hosts⟩
  · rintro ⟨two, hosts⟩
    exact ⟨_, two, hosts, (List.intercalate_splitOn 46).symm⟩

theorem hostname_iff_unfolded {hostname : GoString} :
    Hostname hostname ↔ LooseHostname hostname ∧ Unfolded hostname := by
  rw [hostname_iff_splitOn, LooseHostname, Unfolded, and_assoc, and_assoc]
  simp only [hostLabel_iff_unfolded]
  exact and_congr_right fun _ => and_congr_right fun _ => forall₂_and

/-! ## What the check decides -/

theorem nil_mem_splitOn {hostname : GoString}
    (misplaced : [46, 46] <:+: hostname ∨ [46] <+: hostname ∨ [46] <:+ hostname) :
    [] ∈ hostname.splitOn 46 := by
  rcases misplaced with ⟨before, behind, rfl⟩ | ⟨behind, rfl⟩ | ⟨before, rfl⟩
  · have shape : before ++ [46, 46] ++ behind = before ++ 46 :: ([] ++ 46 :: behind) := by simp
    rw [shape, List.splitOn_append_cons_self, List.splitOn_append_cons_self]
    simp
  · have shape : [46] ++ behind = [] ++ 46 :: behind := rfl
    rw [shape, List.splitOn_append_cons_self]
    simp
  · rw [List.splitOn_append_cons_self]
    simp

theorem isValidHostname_iff_loose {hostname : GoString} :
    isValidHostname hostname = true ↔ LooseHostname hostname := by
  have labels_iff : (hostname.splitOn 46).all validLabel = true ↔
      ∀ label ∈ hostname.splitOn 46, LooseLabel label := by
    simp only [List.all_eq_true, validLabel_iff]
  unfold isValidHostname
  constructor
  · intro accepted
    simp only [Bool.if_false_left, Bool.and_eq_true, Bool.not_eq_true', decide_eq_false_iff_not,
      not_or, not_lt] at accepted
    exact ⟨accepted.1.2, accepted.2.2.1, labels_iff.mp accepted.2.2.2⟩
  · rintro ⟨short, two, loose⟩
    have notEmpty : hostname ≠ [] := by
      rintro rfl
      exact absurd two (by decide)
    have placed : ¬ ([46, 46] <:+: hostname ∨ [46] <+: hostname ∨ [46] <:+ hostname) := by
      intro misplaced
      exact absurd (loose [] (nil_mem_splitOn misplaced)).notEmpty (by decide)
    rw [if_neg (not_or.mpr ⟨notEmpty, not_lt.mpr short⟩), if_neg placed]
    simp only
    rw [if_neg (not_lt.mpr two), labels_iff.mpr loose]

/-- The check decides the grammar exactly on the strings that have no folded letter where
the grammar has a letter. -/
theorem isValidHostname_decides_iff (hostname : GoString) :
    (isValidHostname hostname = true ↔ Hostname hostname) ↔
      (LooseHostname hostname → Unfolded hostname) := by
  rw [isValidHostname_iff_loose, hostname_iff_unfolded]
  tauto

/-- The Kelvin sign before `.com` is accepted. -/
theorem kelvin_hostname_accepted :
    isValidHostname [226, 132, 170, 46, 99, 111, 109] = true ∧
      ¬ Hostname [226, 132, 170, 46, 99, 111, 109] := by
  refine ⟨by decide +kernel, ?_⟩
  rw [hostname_iff_unfolded]
  rintro ⟨-, unfolded⟩
  exact absurd unfolded (by decide +kernel)

/-! ## Generated hostnames -/

/-- The fields of a Tenant's `DNSSettings` that decide about hostnames. -/
structure DNSSettings where
  wildcardDomain : Option GoString
  allowExplicitHostnames : Option Bool
  deriving DecidableEq

/-- The fields of `ConfigDNSSettings` that decide about hostnames. -/
structure ConfigDNSSettings where
  wildcardDomain : GoString
  allowExplicitHostnames : Bool
  deriving DecidableEq

/-- The switch at the start of `GenerateHostname`. -/
def wildcardDomain (tenant : DNSSettings) (config : ConfigDNSSettings) : Option GoString :=
  if tenant.wildcardDomain.any (· ≠ []) then tenant.wildcardDomain
  else if config.wildcardDomain ≠ [] then some config.wildcardDomain
  else none

/-- `strings.TrimPrefix`. -/
def trimLeading (lead text : GoString) : GoString :=
  if lead <+: text then text.drop lead.length else text

/-- The three calls of `strings.TrimPrefix`, for `*.`, `**.` and `*`. -/
def withoutWildcard (domain : GoString) : GoString :=
  trimLeading [42] (trimLeading [42, 42, 46] (trimLeading [42, 46] domain))

/-- `hex.EncodeToString`. Its digits are lower-case already. -/
def hexText (bytes : List UInt8) : GoString :=
  .ofText (String.ofList (bytes.flatMap fun byte =>
    [Sha256.hexDigit (byte.toNat / 16), Sha256.hexDigit (byte.toNat % 16)]))

/-- The first label of the fallbacks, `lb-%d` of the time in seconds. -/
def fallbackLabel (now : Int64) : GoString := .ofText ("lb-" ++ toString now.toInt)

/-- `GenerateHostname`; `random` is what `rand.Read` delivers, `none` when it fails. -/
def generateHostname (tenant : DNSSettings) (config : ConfigDNSSettings)
    (random : Option (Vector UInt8 8)) (now : Int64) : GoString :=
  match wildcardDomain tenant config with
  | none => []
  | some domain =>
      match random with
      | none => fallbackLabel now ++ 46 :: domain
      | some randomBytes =>
          let baseDomain := withoutWildcard domain
          if ¬ isValidHostname baseDomain then []
          else
            let hostname := hexText randomBytes.toList ++ 46 :: baseDomain
            if ¬ isValidHostname hostname then fallbackLabel now ++ 46 :: baseDomain
            else hostname

/-- With random bytes a hostname is generated when a valid domain is left of the wildcard
domain. -/
theorem generateHostname_ne_nil_iff (tenant : DNSSettings) (config : ConfigDNSSettings)
    (random : Vector UInt8 8) (now : Int64) :
    generateHostname tenant config (some random) now ≠ [] ↔
      ∃ domain, wildcardDomain tenant config = some domain ∧
        isValidHostname (withoutWildcard domain) = true := by
  unfold generateHostname
  cases wildcardDomain tenant config with
  | none => simp
  | some domain =>
      simp only [Option.some.injEq, exists_eq_left']
      split
      · simp_all
      · split <;> simp_all

/-- One label in front of a domain. -/
def DirectSubdomain (hostname domain : GoString) : Prop :=
  ∃ label : GoString, label ≠ [] ∧ 46 ∉ label ∧ hostname = label ++ 46 :: domain

/-- A hostname that is fit to be generated for a configured wildcard domain. -/
def FitHostname (domain hostname : GoString) : Prop :=
  isValidHostname hostname = true ∧ DirectSubdomain hostname (withoutWildcard domain)

/-! ## Labels in front of a domain -/

structure LabelText (text : String) : Prop where
  notEmpty : text.toList ≠ []
  short : text.toList.length ≤ 63
  chars : ∀ char ∈ text.toList, HostChar char
  noLeadingDash : text.toList.head? ≠ some '-'
  noTrailingDash : text.toList.getLast? ≠ some '-'

theorem LabelText.ofText_eq_map {text : String} (isLabel : LabelText text) :
    GoString.ofText text = text.toList.map (fun char => UInt8.ofNat char.toNat) := by
  refine GoString.ofText_of_ascii fun char member => ?_
  have admitted := isLabel.chars char member
  rw [HostChar] at admitted
  omega

theorem LabelText.length_ofText {text : String} (isLabel : LabelText text) :
    (GoString.ofText text).length = text.toList.length := by
  rw [isLabel.ofText_eq_map, List.length_map]

theorem LabelText.loose {text : String} (isLabel : LabelText text) :
    LooseLabel (.ofText text) where
  notEmpty := isLabel.length_ofText ▸ List.length_pos_of_ne_nil isLabel.notEmpty
  short := isLabel.length_ofText ▸ isLabel.short
  chars := by
    rw [GoString.runes_ofText]
    exact fun char member => Or.inl (isLabel.chars char member)
  noLeadingDash := by
    rw [GoString.runes_ofText]
    exact isLabel.noLeadingDash
  noTrailingDash := by
    rw [GoString.runes_ofText]
    exact isLabel.noTrailingDash

theorem LabelText.dot_notMem {text : String} (isLabel : LabelText text) :
    46 ∉ GoString.ofText text := by
  rw [isLabel.ofText_eq_map, List.mem_map]
  rintro ⟨char, member, isDot⟩
  have admitted := isLabel.chars char member
  rw [HostChar] at admitted
  have value := congrArg UInt8.toNat isDot
  have small : char.toNat < 256 := by omega
  rw [UInt8.toNat_ofNat_of_lt' small] at value
  change char.toNat = 46 at value
  omega

/-- With a good label in front, a domain is a hostname when its own labels are good and
the bytes fit. -/
theorem isValidHostname_label_append {label : GoString} (loose : LooseLabel label)
    (noDot : 46 ∉ label) (domain : GoString) :
    isValidHostname (label ++ 46 :: domain) = true ↔
      (∀ part ∈ domain.splitOn 46, LooseLabel part) ∧ label.length + 1 + domain.length ≤ 253 := by
  have two : 2 ≤ (label :: domain.splitOn 46).length := by
    have := List.length_pos_of_ne_nil (List.splitOn_ne_nil 46 domain)
    rw [List.length_cons]
    omega
  have size : (label ++ 46 :: domain).length = label.length + 1 + domain.length := by
    rw [List.length_append, List.length_cons]
    omega
  rw [isValidHostname_iff_loose, LooseHostname, List.splitOn_append_cons_self_of_not_mem noDot,
    size, List.forall_mem_cons]
  exact ⟨fun ⟨short, _, _, parts⟩ => ⟨parts, short⟩,
    fun ⟨parts, short⟩ => ⟨short, two, loose, parts⟩⟩

theorem hostChar_of_alphanumeric {char : Char} (plain : alphanumericChar char = true) :
    HostChar char := by
  rw [alphanumericChar_iff] at plain
  rw [HostChar]
  omega

theorem alphanumericChar_of_isDigit {char : Char} (digit : char.isDigit = true) :
    alphanumericChar char = true := by
  rw [Char.isDigit, Bool.and_eq_true, decide_eq_true_eq, decide_eq_true_eq] at digit
  exact (alphanumericChar_iff char).mpr (Or.inr ⟨digit.1, digit.2⟩)

theorem labelText_of_alphanumeric {text : String} (notEmpty : text.toList ≠ [])
    (short : text.toList.length ≤ 63)
    (plain : ∀ char ∈ text.toList, alphanumericChar char = true) : LabelText text where
  notEmpty := notEmpty
  short := short
  chars char member := hostChar_of_alphanumeric (plain char member)
  noLeadingDash isDash :=
    ne_dash_of_alphanumeric (plain '-' (List.mem_of_mem_head? isDash)) rfl
  noTrailingDash isDash :=
    ne_dash_of_alphanumeric (plain '-' (List.mem_of_getLast? isDash)) rfl

theorem hexText_spec (bytes : Vector UInt8 8) :
    LooseLabel (hexText bytes.toList) ∧ 46 ∉ hexText bytes.toList ∧
      (hexText bytes.toList).length = 16 := by
  let digits := bytes.toList.flatMap fun byte =>
    [Sha256.hexDigit (byte.toNat / 16), Sha256.hexDigit (byte.toNat % 16)]
  have size : (String.ofList digits).toList.length = 16 := by
    rw [String.toList_ofList, List.length_flatMap]
    simp
  have plain : ∀ char ∈ (String.ofList digits).toList, alphanumericChar char = true := by
    intro char member
    rw [String.toList_ofList, List.mem_flatMap] at member
    obtain ⟨byte, -, member⟩ := member
    have small := byte.toNat_lt
    simp only [List.mem_cons, List.not_mem_nil, or_false] at member
    rcases member with rfl | rfl
    · exact alphanumericChar_hexDigit (by omega)
    · exact alphanumericChar_hexDigit (by omega)
  have isLabel : LabelText (String.ofList digits) :=
    labelText_of_alphanumeric (List.ne_nil_of_length_pos (by omega)) (by omega) plain
  exact ⟨isLabel.loose, isLabel.dot_notMem, isLabel.length_ofText.trans size⟩

theorem natText_spec {number : Nat} (small : number < 10 ^ 19) :
    (toString number).toList.length ≤ 19 ∧
      ∀ char ∈ (toString number).toList, alphanumericChar char = true := by
  rw [Nat.toString_eq_ofList_toDigits, String.toList_ofList]
  refine ⟨(Nat.length_toDigits_le_iff (by decide) (by decide)).mpr small, fun char member => ?_⟩
  exact alphanumericChar_of_isDigit (Nat.isDigit_of_mem_toDigits (by decide) (by decide) member)

theorem labelText_fallback (now : Int64) : LabelText ("lb-" ++ toString now.toInt) := by
  have low := now.le_toInt
  have high := now.toInt_lt
  -- The digits, after `lb-` or, before the epoch, after `lb--`.
  obtain ⟨lead, number, isText, leads, small⟩ : ∃ (lead : String) (number : Nat),
      "lb-" ++ toString now.toInt = lead ++ toString number ∧
        (lead = "lb-" ∨ lead = "lb--") ∧ number < 10 ^ 19 := by
    rcases intText_cases now.toInt with ⟨magnitude, isValue, isText⟩ | ⟨magnitude, isValue, isText⟩
    · exact ⟨"lb-", magnitude, by rw [isText], Or.inl rfl, by omega⟩
    · refine ⟨"lb--", magnitude + 1, ?_, Or.inr rfl, by omega⟩
      rw [isText, ← String.append_assoc]
      rfl
  rw [isText]
  obtain ⟨short, plain⟩ := natText_spec small
  have notEmpty : (toString number).toList ≠ [] := by
    rw [Nat.toString_eq_ofList_toDigits, String.toList_ofList]
    exact Nat.toDigits_ne_nil
  have isLast := List.getLast?_eq_some_getLast notEmpty
  have leadChars : lead.toList.length ≤ 4 ∧ (∀ char ∈ lead.toList, HostChar char) ∧
      lead.toList.head? = some 'l' := by
    have hostChars (text : String) (all : text.toList.all (HostChar ·) = true) :
        ∀ char ∈ text.toList, HostChar char :=
      fun char isChar => of_decide_eq_true (List.all_eq_true.mp all char isChar)
    rcases leads with rfl | rfl
    · exact ⟨by decide, hostChars _ (by decide), by decide⟩
    · exact ⟨by decide, hostChars _ (by decide), by decide⟩
  refine ⟨?_, ?_, ?_, ?_, ?_⟩
  · rw [String.toList_append]
    exact List.append_ne_nil_of_right_ne_nil _ notEmpty
  · rw [String.toList_append, List.length_append]
    omega
  · rw [String.toList_append, List.forall_mem_append]
    exact ⟨leadChars.2.1, fun char member => hostChar_of_alphanumeric (plain char member)⟩
  · rw [String.toList_append, List.head?_append, leadChars.2.2, Option.some_or]
    decide
  · rw [String.toList_append, List.getLast?_append, isLast]
    intro isDash
    exact ne_dash_of_alphanumeric (plain _ (List.getLast_mem notEmpty)) (Option.some.inj isDash)

/-! ## Fallbacks -/

/-- A domain whose labels are good starts with no wildcard. -/
theorem withoutWildcard_of_loose {domain : GoString}
    (parts : ∀ part ∈ domain.splitOn 46, LooseLabel part) : withoutWildcard domain = domain := by
  have noStar : ∀ rest, domain ≠ 42 :: rest := by
    rintro rest rfl
    obtain ⟨part, others, isSplit⟩ := List.exists_cons_of_ne_nil (List.splitOn_ne_nil 46 rest)
    have whole : (42 :: rest).splitOn 46 = (42 :: part) :: others := by
      rw [List.splitOn_cons_eq_if_modifyHead, if_neg (by decide), isSplit]
      rfl
    have loose := parts (42 :: part) (whole ▸ List.mem_cons_self)
    have firstChar := loose.chars '*' (by
      rw [GoString.runes_cons_of_ascii (by decide)]
      exact List.mem_cons_self)
    exact absurd firstChar (by decide)
  have unchanged (tail : GoString) : trimLeading (42 :: tail) domain = domain := by
    refine if_neg ?_
    rintro ⟨rest, isDomain⟩
    exact noStar _ isDomain.symm
  rw [withoutWildcard, unchanged, unchanged, unchanged]

/-- What a wildcard domain has to be for `GenerateHostname`. Without random bytes the
domain is used as it is written and unchecked; with them, only the length of the last
fallback is unchecked. -/
def FallbackFits (domain : GoString) (random : Option (Vector UInt8 8)) (now : Int64) : Prop :=
  match random with
  | none =>
      (∀ part ∈ domain.splitOn 46, LooseLabel part) ∧
        (fallbackLabel now).length + 1 + domain.length ≤ 253
  | some _ =>
      isValidHostname (withoutWildcard domain) = true →
        16 + 1 + (withoutWildcard domain).length ≤ 253 ∨
          (fallbackLabel now).length + 1 + (withoutWildcard domain).length ≤ 253

theorem directSubdomain_of_loose {label : GoString} (loose : LooseLabel label)
    (noDot : 46 ∉ label) (domain : GoString) : DirectSubdomain (label ++ 46 :: domain) domain :=
  ⟨label, List.ne_nil_of_length_pos loose.notEmpty, noDot, rfl⟩

/-- A fallback in front of the domain as it is written is fit exactly when it passes the
check, which leaves no wildcard to remove. -/
theorem fitHostname_fallback_iff (domain : GoString) (now : Int64) :
    FitHostname domain (fallbackLabel now ++ 46 :: domain) ↔ FallbackFits domain none now := by
  have isLabel := labelText_fallback now
  have valid_iff : isValidHostname (fallbackLabel now ++ 46 :: domain) = true ↔
      FallbackFits domain none now :=
    isValidHostname_label_append isLabel.loose isLabel.dot_notMem domain
  rw [FitHostname, valid_iff]
  refine and_iff_left_of_imp fun fits => ?_
  rw [withoutWildcard_of_loose fits.1]
  exact directSubdomain_of_loose isLabel.loose isLabel.dot_notMem domain

/-- In front of a valid base domain the length alone decides. -/
theorem fitHostname_base_iff {domain label : GoString} (loose : LooseLabel label)
    (noDot : 46 ∉ label) (baseValid : isValidHostname (withoutWildcard domain) = true) :
    FitHostname domain (label ++ 46 :: withoutWildcard domain) ↔
      label.length + 1 + (withoutWildcard domain).length ≤ 253 := by
  rw [FitHostname, isValidHostname_label_append loose noDot _,
    and_iff_left (directSubdomain_of_loose loose noDot _)]
  exact and_iff_right (isValidHostname_iff_loose.mp baseValid).2.2

/-- `GenerateHostname` returns nothing or a valid direct subdomain of the wildcard domain
exactly when the domain fits the fallbacks. -/
theorem generateHostname_fit_iff (tenant : DNSSettings) (config : ConfigDNSSettings)
    (random : Option (Vector UInt8 8)) (now : Int64) :
    (generateHostname tenant config random now = [] ∨
      ∃ domain, wildcardDomain tenant config = some domain ∧
        FitHostname domain (generateHostname tenant config random now)) ↔
      ∀ domain, wildcardDomain tenant config = some domain → FallbackFits domain random now := by
  cases configured : wildcardDomain tenant config with
  | none => simp [generateHostname, configured]
  | some domain =>
      have notNil (label : GoString) : label ++ 46 :: domain ≠ [] := by simp
      simp only [Option.some.injEq, exists_eq_left', forall_eq', generateHostname, configured]
      cases random with
      | none =>
          dsimp only
          rw [or_iff_right (notNil _), fitHostname_fallback_iff]
      | some randomBytes =>
          obtain ⟨hexLoose, hexNoDot, hexSize⟩ := hexText_spec randomBytes
          have isLabel := labelText_fallback now
          dsimp only [FallbackFits]
          by_cases baseValid : isValidHostname (withoutWildcard domain) = true
          · have hexFits := fitHostname_base_iff hexLoose hexNoDot baseValid
            have lastFits := fitHostname_base_iff isLabel.loose isLabel.dot_notMem baseValid
            have hexValid := isValidHostname_label_append hexLoose hexNoDot
              (withoutWildcard domain)
            rw [and_iff_right (isValidHostname_iff_loose.mp baseValid).2.2] at hexValid
            rw [hexSize] at hexFits hexValid
            rw [if_neg (not_not.mpr baseValid)]
            by_cases short : 16 + 1 + (withoutWildcard domain).length ≤ 253
            · rw [if_neg (not_not.mpr (hexValid.mpr short))]
              exact iff_of_true (Or.inr (hexFits.mpr short)) fun _ => Or.inl short
            · rw [if_pos (mt hexValid.mp short), or_iff_right (by simp), or_iff_right short]
              exact lastFits.trans ⟨fun fits _ => fits, fun fits => fits baseValid⟩
          · rw [if_pos baseValid]
            exact iff_of_true (Or.inl rfl) fun valid => absurd valid baseValid

def longDomain : GoString :=
  List.replicate 63 97 ++ 46 :: (List.replicate 63 97 ++ 46 :: (List.replicate 63 97 ++
    46 :: List.replicate 48 97))

/-- For a valid domain of 240 bytes the last fallback has 254 bytes. -/
theorem unfit_hostname_generated :
    ¬ (generateHostname ⟨none, none⟩ ⟨longDomain, false⟩ (some (.replicate 8 0)) 1700000000 = [] ∨
      isValidHostname (generateHostname ⟨none, none⟩ ⟨longDomain, false⟩
        (some (.replicate 8 0)) 1700000000) = true) := by
  decide +kernel

/-! ## Whether a hostname is configured -/

def annotationRequestWildcardDomain : String := "kubelb.k8c.io/request-wildcard-domain"

def annotationValueTrue : String := "true"

/-- `ShouldConfigureHostname`. A wildcard domain of the Config counts only for a Tenant
that has none, not even an empty one. -/
def shouldConfigureHostname (annotations : Core.StringMap) (hostname : String)
    (tenant : DNSSettings) (config : ConfigDNSSettings) : Bool :=
  if hostname ≠ "" then
    decide (tenant.allowExplicitHostnames = some true) ||
      (config.allowExplicitHostnames && tenant.allowExplicitHostnames.isNone)
  else
    match annotations.lookup annotationRequestWildcardDomain with
    | none => false
    | some value =>
        decide (value = annotationValueTrue) &&
          (tenant.wildcardDomain.any (· ≠ []) ||
            (decide (config.wildcardDomain ≠ []) && tenant.wildcardDomain.isNone))

end KubeLB.LoadBalancers
