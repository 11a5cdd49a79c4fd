import KubeLB.Envoy.Address

/-!
Contract: the sixteen bytes of an address text.

Owns: the value that `net.ParseIP` returns, an IPv4 address in its IPv6-mapped form, and that
it is not nil exactly for the texts that `parseIP` accepts.

Does not own: addresses as texts of endpoints.
-/

set_option autoImplicit false

namespace KubeLB.Envoy

abbrev Byte := Fin 256

/-! ## IPv4 -/

/-- `netip.parseIPv4Fields` with the octets it stores. -/
def ipv4FieldBytes : List Char → Nat → Nat → List Byte → Bool → Option (List Byte)
  | [], value, _, octets, _ =>
      if octets.length = 3 then some (octets ++ [Fin.ofNat 256 value]) else none
  | char :: rest, value, digits, octets, afterDot =>
      if char.isDigit then
        let next := value * 10 + (char.toNat - '0'.toNat)
        if digits = 1 ∧ value = 0 then none
        else if 255 < next then none
        else ipv4FieldBytes rest next (digits + 1) octets false
      else if char = '.' then
        if afterDot ∨ rest.isEmpty ∨ octets.length = 3 then none
        else ipv4FieldBytes rest 0 0 (octets ++ [Fin.ofNat 256 value]) true
      else none

/-- `netip.parseIPv4`, the four octets. -/
def ipv4Bytes (text : List Char) : Option (List Byte) := ipv4FieldBytes text 0 0 [] true

/-! ## IPv6 -/

def hexValue (char : Char) : Nat :=
  if char.isDigit then char.toNat - '0'.toNat
  else if 'a' ≤ char then char.toNat - 'a'.toNat + 10
  else char.toNat - 'A'.toNat + 10

/-- The two bytes of a group of hexadecimal digits. -/
def groupBytes (group : List Char) : List Byte :=
  let value := group.foldl (fun value char => value * 16 + hexValue char) 0
  [Fin.ofNat 256 (value / 256), Fin.ofNat 256 value]

/-- The end of `netip.parseIPv6`: zero bytes are filled in where `::` stood, at least one
group of them. -/
def expandEllipsis (bytes : List Byte) : Option Nat → Option (List Byte)
  | none => if bytes.length < 16 then none else some bytes
  | some position =>
      if bytes.length < 16 then
        some (bytes.take position ++ List.replicate (16 - bytes.length) 0 ++ bytes.drop position)
      else none

/-- The group loop of `netip.parseIPv6` with the bytes it stores and the position of `::`. -/
def ipv6GroupBytes : Nat → List Char → List Byte → Option Nat → Option (List Byte)
  | 0, _, _, _ => none
  | rounds + 1, text, bytes, ellipsis =>
      if 16 ≤ bytes.length then if text = [] then expandEllipsis bytes ellipsis else none
      else
        let group := text.takeWhile isHexDigit
        let rest := text.dropWhile isHexDigit
        if group = [] ∨ 4 < group.length then none
        else
          match rest with
          | '.' :: _ =>
              if !ellipsis.isSome && decide (bytes.length ≠ 12) then none
              else if 16 < bytes.length + 4 then none
              else (ipv4Bytes text).bind (fun octets => expandEllipsis (bytes ++ octets) ellipsis)
          | [] => expandEllipsis (bytes ++ groupBytes group) ellipsis
          | ':' :: [] => none
          | ':' :: ':' :: more =>
              if ellipsis.isSome then none
              else if more = [] then
                expandEllipsis (bytes ++ groupBytes group) (some (bytes.length + 2))
              else
                ipv6GroupBytes rounds more (bytes ++ groupBytes group) (some (bytes.length + 2))
          | ':' :: more => ipv6GroupBytes rounds more (bytes ++ groupBytes group) ellipsis
          | _ => none

/-- `netip.parseIPv6`. -/
def ipv6Bytes (text : List Char) : Option (List Byte) :=
  if '%' ∈ text then none
  else
    match text with
    | ':' :: ':' :: [] => some (List.replicate 16 0)
    | ':' :: ':' :: rest => ipv6GroupBytes (rest.length + 1) rest [] (some 0)
    | rest => ipv6GroupBytes (rest.length + 1) rest [] none

/-- The bytes before the octets of an IPv4-mapped address. -/
def v4InV6Lead : List Byte := List.replicate 10 0 ++ [255, 255]

/-- `net.ParseIP`. -/
def ipBytes (text : String) : Option (List Byte) :=
  match text.toList.find? (fun char => char = '.' ∨ char = ':' ∨ char = '%') with
  | some '.' => (ipv4Bytes text.toList).map (v4InV6Lead ++ ·)
  | some ':' => ipv6Bytes text.toList
  | _ => none

/-! ## Accepted texts -/

theorem isSome_ipv4FieldBytes (text : List Char) (value digits : Nat) (octets : List Byte)
    (afterDot : Bool) :
    (ipv4FieldBytes text value digits octets afterDot).isSome =
      parseIPv4Fields text value digits octets.length afterDot := by
  induction text generalizing value digits octets afterDot with
  | nil =>
      simp only [ipv4FieldBytes, parseIPv4Fields]
      split <;> simp_all
  | cons char rest ih =>
      simp only [ipv4FieldBytes, parseIPv4Fields]
      split
      · split
        · rfl
        · split
          · rfl
          · exact ih _ _ _ _
      · split
        · split
          · rfl
          · rw [ih, List.length_append]
            rfl
        · rfl

theorem length_ipv4FieldBytes {text : List Char} {value digits : Nat} {octets result : List Byte}
    {afterDot : Bool}
    (isParsed : ipv4FieldBytes text value digits octets afterDot = some result) :
    result.length = 4 := by
  induction text generalizing value digits octets afterDot with
  | nil =>
      simp only [ipv4FieldBytes] at isParsed
      split at isParsed
      · next isThree =>
          cases isParsed
          rw [List.length_append, isThree]
          rfl
      · cases isParsed
  | cons char rest ih =>
      simp only [ipv4FieldBytes] at isParsed
      split at isParsed
      · split at isParsed
        · cases isParsed
        · split at isParsed
          · cases isParsed
          · exact ih isParsed
      · split at isParsed
        · split at isParsed
          · cases isParsed
          · exact ih isParsed
        · cases isParsed

theorem isSome_expandEllipsis (bytes : List Byte) (ellipsis : Option Nat) :
    (expandEllipsis bytes ellipsis).isSome =
      if bytes.length < 16 then ellipsis.isSome else !ellipsis.isSome := by
  cases ellipsis <;> simp only [expandEllipsis] <;> split <;> rfl

theorem isSome_ipv4Bytes (text : List Char) : (ipv4Bytes text).isSome = parseIPv4 text :=
  isSome_ipv4FieldBytes text 0 0 [] true

theorem isSome_ipv4Bytes_bind (text : List Char) (bytes : List Byte) (ellipsis : Option Nat) :
    ((ipv4Bytes text).bind (fun octets => expandEllipsis (bytes ++ octets) ellipsis)).isSome =
      (parseIPv4 text &&
        (if bytes.length + 4 < 16 then ellipsis.isSome else !ellipsis.isSome)) := by
  rw [← isSome_ipv4Bytes]
  cases isParsed : ipv4Bytes text with
  | none => rfl
  | some octets =>
      rw [Option.bind_some, isSome_expandEllipsis, List.length_append,
        length_ipv4FieldBytes isParsed]
      rfl

theorem isSome_ipv6GroupBytes (rounds : Nat) (text : List Char) (bytes : List Byte)
    (ellipsis : Option Nat) :
    (ipv6GroupBytes rounds text bytes ellipsis).isSome =
      parseIPv6Groups rounds text bytes.length ellipsis.isSome := by
  induction rounds generalizing text bytes ellipsis with
  | zero => rfl
  | succ rounds ih =>
      have grown (group : List Char) : (bytes ++ groupBytes group).length = bytes.length + 2 := by
        rw [List.length_append]
        rfl
      simp only [ipv6GroupBytes, parseIPv6Groups]
      split
      · next isFull =>
          by_cases isEnd : text = []
          · subst isEnd
            simp [isSome_expandEllipsis, Nat.not_lt.mpr isFull]
          · rw [if_neg isEnd, decide_eq_false isEnd]
            rfl
      · split
        · rfl
        · generalize text.dropWhile isHexDigit = rest
          split
          · -- an IPv4 address at the end
            split
            · rfl
            · split
              · rfl
              · exact isSome_ipv4Bytes_bind text bytes ellipsis
          · rw [isSome_expandEllipsis, grown]
          · rfl
          · next more =>
              split
              · rfl
              · show _ = if more = [] then decide (bytes.length + 2 < 16)
                  else parseIPv6Groups rounds more (bytes.length + 2) true
                by_cases isEnd : more = []
                · rw [if_pos isEnd, if_pos isEnd, isSome_expandEllipsis, grown]
                  simp
                · rw [if_neg isEnd, if_neg isEnd, ih, grown]
                  rfl
          · next more notEnd notEllipsis =>
              refine (ih _ _ _).trans ?_
              simp_all
          · simp_all

theorem isSome_ipv6Bytes (text : List Char) : (ipv6Bytes text).isSome = parseIPv6 text := by
  unfold ipv6Bytes parseIPv6
  split
  · rfl
  · split
    · rfl
    · rw [isSome_ipv6GroupBytes]
      simp_all
    · rw [isSome_ipv6GroupBytes]
      simp_all

theorem isSome_ipBytes (text : String) : (ipBytes text).isSome = parseIP text := by
  unfold ipBytes parseIP
  generalize text.toList.find? (fun char => char = '.' ∨ char = ':' ∨ char = '%') = mark
  split
  · exact Option.isSome_map.trans (isSome_ipv4Bytes _)
  · exact isSome_ipv6Bytes _
  · simp_all

example : ipBytes "10.0.0.1" = ipBytes "::ffff:a00:1" := by decide +kernel

end KubeLB.Envoy
