import KubeLB.Library.GoMap
import Mathlib.Data.Int.Order.Basic

/-!
Contract: the parts of the Kubernetes API objects that the port allocator, the
snapshot builder and the reconcilers read or write.

Owns: `corev1.Protocol`, `intstr.IntOrString` with its `IntValue`, object
metadata, `corev1.ServicePort`, `corev1.Service` and the embedded source object
of a Route.

Does not own: fields that no modelled function reads. A nil label or annotation
map is the empty map, since every reader treats the two alike.
-/

set_option autoImplicit false

namespace KubeLB.Core

open KubeLB.Library

/-- `corev1.Protocol`. Go declares it as a string, so a value outside the three
constants is kept with its text. -/
inductive Protocol where
  | tcp
  | udp
  | sctp
  | other (spelling : String)
      (unlisted : spelling ≠ "TCP" ∧ spelling ≠ "UDP" ∧ spelling ≠ "SCTP")
  deriving DecidableEq, Repr

namespace Protocol

/-- The text that `%s` prints. -/
def text : Protocol → String
  | tcp => "TCP"
  | udp => "UDP"
  | sctp => "SCTP"
  | other spelling _ => spelling

theorem text_injective : Function.Injective text := by
  intro left right same
  cases left <;> cases right <;> simp_all [text]
  all_goals (rename_i unlisted; simp [← same] at unlisted)

/-- The two protocols for which the proxy opens a listener. -/
def Served (protocol : Protocol) : Prop := protocol = tcp ∨ protocol = udp

instance (protocol : Protocol) : Decidable protocol.Served :=
  inferInstanceAs (Decidable (protocol = tcp ∨ protocol = udp))

end Protocol

/-! ## `intstr.IntOrString` -/

/-- The digit loop of `strconv.ParseUint` in base ten. It stops at the first
digit that leaves the 64-bit range and returns the largest value; a character
that is no digit is a syntax error. -/
def parseUint : List Char → Nat → Option Nat
  | [], value => some value
  | char :: rest, value =>
      if char.isDigit then
        let next := value * 10 + (char.toNat - '0'.toNat)
        if 2 ^ 64 - 1 < next then some (2 ^ 64 - 1) else parseUint rest next
      else none

/-- `strconv.Atoi`, whose result is used with the error dropped: zero after a
syntax error, the nearest 64-bit value after a range error. -/
def atoi (text : String) : Int :=
  let signed (negative : Bool) (digits : List Char) : Int :=
    match digits, parseUint digits 0 with
    | [], _ => 0
    | _, none => 0
    | _, some magnitude =>
        if negative then
          if 2 ^ 63 < magnitude then -(2 ^ 63) else -(magnitude : Int)
        else if 2 ^ 63 ≤ magnitude then 2 ^ 63 - 1 else (magnitude : Int)
  match text.toList with
  | '-' :: digits => signed true digits
  | '+' :: digits => signed false digits
  | digits => signed false digits

inductive IntOrString where
  | int (value : Int32)
  | string (value : String)
  deriving DecidableEq, Repr

namespace IntOrString

def intValue : IntOrString → Int
  | int value => value.toInt
  | string value => atoi value

/-- `intstr.FromInt`, which keeps the low 32 bits. -/
def fromInt (value : Int) : IntOrString := int (Int32.ofInt value)

end IntOrString

/-! ## Objects -/

abbrev StringMap := GoMap String String

structure ObjectMeta where
  name : String
  ns : String
  uid : String := ""
  labels : StringMap := ∅
  annotations : StringMap := ∅
  finalizers : List String := []
  /-- Set once deletion was requested; only its presence is read. -/
  deletionTimestamp : Option Nat := none
  deriving DecidableEq

/-- `labels[key]`, with Go's zero value for an absent key. -/
def StringMap.get (labels : StringMap) (key : String) : String :=
  (labels.lookup key).getD ""

structure ServicePort where
  name : String := ""
  protocol : Protocol := .tcp
  port : Int32
  targetPort : IntOrString := .int 0
  nodePort : Int32 := 0
  deriving DecidableEq

inductive ServiceType where
  | clusterIP
  | nodePort
  | loadBalancer
  | externalName
  /-- The field is unset. -/
  | unset
  deriving DecidableEq, Repr

structure ServiceSpec where
  ports : List ServicePort := []
  selector : StringMap := ∅
  type : ServiceType := .unset
  deriving DecidableEq

structure Service where
  metadata : ObjectMeta
  spec : ServiceSpec := {}
  deriving DecidableEq

structure IngressLoadBalancerIngress where
  ip : String := ""
  hostname : String := ""
  deriving DecidableEq, Repr

/-- The status of a Service, which a Route records as JSON. -/
structure ResourceStatus where
  /-- `loadBalancer.ingress`. -/
  loadBalancer : List IngressLoadBalancerIngress := []
  deriving DecidableEq, Repr

structure GroupVersionKind where
  group : String
  version : String
  kind : String
  deriving DecidableEq, Repr

/-- The source object embedded in a Route as `unstructured.Unstructured`. Its
specification is kept as the text it serialises to. -/
structure Unstructured where
  gvk : GroupVersionKind
  metadata : ObjectMeta
  spec : String := ""
  deriving DecidableEq

end KubeLB.Core
