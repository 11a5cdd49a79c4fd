import KubeLB.Library.Sha256
import KubeLB.Naming.Patterns

/-!
Contract: the names of generated objects in the management cluster.

Owns: `GenerateName` and `GenerateRouteServiceName` with the replacement of
characters, the truncation and the hashed suffix.

Does not own: uniqueness. Different inputs may print alike.

Lengths are counted in bytes as in the source. A name is cut by characters, which
is the same for the ASCII names that Kubernetes admits.
-/

set_option autoImplicit false

namespace KubeLB.Naming

open KubeLB.Library

def nameSuffixLength : Nat := 4

def maxNameLength : Nat := 60

/-- `strings.TrimRight(name, "-")`. -/
def trimRightDash (name : List Char) : List Char :=
  (name.reverse.dropWhile (· = '-')).reverse

def truncateName (name : String) : String :=
  let suffix := (Sha256.hexDigest name.toByteArray.data.toList).toList.take nameSuffixLength
  let kept := trimRightDash (name.toList.take (maxNameLength - (nameSuffixLength + 1)))
  String.ofList (kept ++ '-' :: suffix)

def generateName (name ns : String) : String :=
  let output := ns ++ "-" ++ name
  if output.utf8ByteSize ≥ maxNameLength then truncateName output else output

/-- `strings.ToLower` of one character, as far as the result is an ASCII letter.
Two letters beyond ASCII have one: the Kelvin sign and the dotted capital I. -/
def lowerChar (char : Char) : Char :=
  if 'A' ≤ char ∧ char ≤ 'Z' then Char.ofNat (char.toNat + 32)
  else if char.toNat = 0x212A then 'k'
  else if char.toNat = 0x0130 then 'i'
  else char

/-- The switch of `dns1035Name`. -/
def dns1035Char (char : Char) : Char :=
  let lower := lowerChar char
  if ('a' ≤ lower ∧ lower ≤ 'z') ∨ ('0' ≤ lower ∧ lower ≤ '9') ∨ lower = '-' then lower
  else '-'

def dns1035Name (name : String) : String :=
  let output := trimRightDash ((name.toList.map dns1035Char).dropWhile (· = '-'))
  match output with
  | [] => "k"
  | first :: _ =>
      if first < 'a' ∨ 'z' < first then "k-" ++ String.ofList output
      else String.ofList output

def generateRouteServiceName (routeName serviceName ns : String) : String :=
  let output := dns1035Name (ns ++ "-" ++ routeName ++ "-" ++ serviceName)
  if output.utf8ByteSize ≥ maxNameLength then truncateName output else output

end KubeLB.Naming
