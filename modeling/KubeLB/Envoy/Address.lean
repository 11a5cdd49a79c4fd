import KubeLB.Api.V1Alpha1

/-!
Contract: how an endpoint address is classified.

Owns: the texts that `net.ParseIP` accepts, the literal of an
`EndpointAddress`, and the discovery type of a cluster.

Does not own: the bytes of an address. Only whether `net.ParseIP` returns nil is
read.
-/

set_option autoImplicit false

namespace KubeLB.Envoy

open KubeLB.V1Alpha1

/-! ## `net.ParseIP` -/

/-- `netip.parseIPv4Fields`: the rest of the text, the value and digit count of
the current octet, the octets before it, and whether the last character was a
dot. -/
def parseIPv4Fields : List Char → Nat → Nat → Nat → Bool → Bool
  | [], _, _, octets, _ => decide (octets = 3)
  | char :: rest, value, digits, octets, afterDot =>
      if char.isDigit then
        let next := value * 10 + (char.toNat - '0'.toNat)
        if digits = 1 ∧ value = 0 then false
        else if 255 < next then false
        else parseIPv4Fields rest next (digits + 1) octets false
      else if char = '.' then
        if afterDot ∨ rest.isEmpty ∨ octets = 3 then false
        else parseIPv4Fields rest 0 0 (octets + 1) true
      else false

/-- `netip.parseIPv4`. A leading dot is refused like a doubled one. -/
def parseIPv4 (text : List Char) : Bool := parseIPv4Fields text 0 0 0 true

def isHexDigit (char : Char) : Bool :=
  char.isDigit || (decide ('a' ≤ char) && decide (char ≤ 'f')) ||
    (decide ('A' ≤ char) && decide (char ≤ 'F'))

/-- The group loop of `netip.parseIPv6`: `filled` of the sixteen bytes are
parsed and `ellipsis` says whether `::` was seen. Each round reads at least one
hexadecimal digit, so the length of the text bounds the rounds. -/
def parseIPv6Groups : Nat → List Char → Nat → Bool → Bool
  | 0, _, _, _ => false
  | rounds + 1, text, filled, ellipsis =>
      if 16 ≤ filled then decide (text = []) && !ellipsis
      else
        let group := text.takeWhile isHexDigit
        let rest := text.dropWhile isHexDigit
        if group = [] ∨ 4 < group.length then false
        else
          match rest with
          | '.' :: _ =>
              -- an IPv4 address may fill the last four bytes
              if !ellipsis && decide (filled ≠ 12) then false
              else if 16 < filled + 4 then false
              else parseIPv4 text &&
                (if filled + 4 < 16 then ellipsis else !ellipsis)
          | [] => if filled + 2 < 16 then ellipsis else !ellipsis
          | ':' :: [] => false
          | ':' :: ':' :: more =>
              if ellipsis then false
              else if more = [] then decide (filled + 2 < 16)
              else parseIPv6Groups rounds more (filled + 2) true
          | ':' :: more => parseIPv6Groups rounds more (filled + 2) ellipsis
          | _ => false

/-- `netip.parseIPv6`. `net.ParseIP` refuses every zone, so a percent sign ends
in nil either way. -/
def parseIPv6 (text : List Char) : Bool :=
  if '%' ∈ text then false
  else
    match text with
    | ':' :: ':' :: [] => true
    | ':' :: ':' :: rest => parseIPv6Groups (rest.length + 1) rest 0 true
    | rest => parseIPv6Groups (rest.length + 1) rest 0 false

/-- Does `net.ParseIP` accept the text? The first of the three marks decides how
it is parsed. -/
def parseIP (text : String) : Bool :=
  match text.toList.find? (fun char => char = '.' ∨ char = ':' ∨ char = '%') with
  | some '.' => parseIPv4 text.toList
  | some ':' => parseIPv6 text.toList
  | _ => false

/-! ## Literals and discovery -/

/-- `resolveEndpointLiteral`: the address text and whether it is an IP. -/
def resolveEndpointLiteral (addr : EndpointAddress) : String × Bool :=
  if addr.ip ≠ "" then (addr.ip, parseIP addr.ip)
  else if addr.hostname ≠ "" then (addr.hostname, parseIP addr.hostname)
  else ("", false)

/-- `envoyCluster.Cluster_DiscoveryType`, the two values in use. -/
inductive DiscoveryType where
  | eds
  | strictDNS
  deriving DecidableEq, Repr

def pickClusterDiscoveryType (addrs : List EndpointAddress) : DiscoveryType :=
  if addrs.all (fun addr => (resolveEndpointLiteral addr).2) then .eds else .strictDNS

end KubeLB.Envoy
