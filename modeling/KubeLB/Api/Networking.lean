import KubeLB.Api.Core

/-!
Contract: the `networking.k8s.io/v1` Ingress.

Owns: the Ingress with the fields the modelled functions use, under the names of the
Go types, and the checks of the API server on these fields. A nil pointer is `none`.

Does not own: the status of an Ingress.
-/

set_option autoImplicit false

namespace KubeLB.Networking

open KubeLB.Library

inductive PathType where
  | exact
  | pathPrefix
  | implementationSpecific
  deriving DecidableEq, Repr

/-- `networkingv1.ServiceBackendPort`; an unset name is empty and an unset number is
zero. -/
structure ServiceBackendPort where
  name : String := ""
  number : Int32 := 0
  deriving DecidableEq, Repr

structure IngressServiceBackend where
  name : String
  port : ServiceBackendPort := {}
  deriving DecidableEq, Repr

structure IngressBackend where
  service : Option IngressServiceBackend := none
  /-- The name of `Resource`. -/
  resource : Option String := none
  deriving DecidableEq, Repr

structure HTTPIngressPath where
  path : String := ""
  pathType : Option PathType := none
  backend : IngressBackend := {}
  deriving DecidableEq, Repr

/-- A path prefix in front of the port of a Service. -/
def servicePath (path service : String) (port : Int32) : HTTPIngressPath where
  path := path
  pathType := some .pathPrefix
  backend := { service := some { name := service, port := { number := port } } }

structure IngressRule where
  host : String := ""
  /-- `HTTP.Paths`. -/
  http : Option (List HTTPIngressPath) := none
  deriving DecidableEq, Repr

structure IngressTLS where
  hosts : List String := []
  secretName : String := ""
  deriving DecidableEq, Repr

structure IngressSpec where
  ingressClassName : Option String := none
  defaultBackend : Option IngressBackend := none
  tls : List IngressTLS := []
  rules : List IngressRule := []
  deriving DecidableEq, Repr

structure Ingress where
  metadata : Core.ObjectMeta
  spec : IngressSpec := {}
  deriving DecidableEq

/-! ## Checks of the API server -/

def isDNSWord (word : List Char) : Bool :=
  word.all (fun char => char.isLower || char.isDigit || char == '-') &&
    decide (word ≠ []) && decide (word.head? ≠ some '-') && decide (word.getLast? ≠ some '-')

def isDNSLabel (label : String) : Bool := isDNSWord label.toList && decide (label.length ≤ 63)

def isDNSSubdomain (name : String) : Bool :=
  (name.toList.splitOn '.').all isDNSWord && decide (name.length ≤ 253)

def isIPv4 (name : String) : Bool :=
  let parts := name.toList.splitOn '.'
  decide (parts.length = 4) && parts.all (fun part =>
    part.all Char.isDigit && decide (part.length ≤ 3) &&
      (String.ofList part).toNat?.any (fun byte => decide (byte ≤ 255)))

/-- A host of a rule or of a TLS section; a star may be its first label. -/
def isIngressHost (host : String) : Bool :=
  match host.toList with
  | '*' :: '.' :: rest => isDNSSubdomain (String.ofList rest)
  | _ => isDNSSubdomain host && !isIPv4 host

/-- The sequences that a path must not have. -/
def isCleanPath : List Char → Bool
  | [] => true
  | '/' :: rest =>
      decide (rest ∉ [['.'], ['.', '.']]) && decide (rest.head? ≠ some '/') &&
        decide (rest.take 2 ≠ ['.', '/']) && decide (rest.take 3 ≠ ['.', '.', '/']) &&
        isCleanPath rest
  | '%' :: rest => decide (rest.take 2 ∉ [['2', 'f'], ['2', 'F']]) && isCleanPath rest
  | _ :: rest => isCleanPath rest

def IngressServiceBackend.isValid (svc : IngressServiceBackend) : Bool :=
  isDNSLabel svc.name && decide (svc.name.toList.head?.any Char.isLower) &&
    if svc.port.name = "" then decide (1 ≤ svc.port.number ∧ svc.port.number ≤ 65535)
    else isDNSLabel svc.port.name && svc.port.name.toList.any Char.isLower &&
      decide (svc.port.name.length ≤ 15 ∧ svc.port.number = 0)

def IngressBackend.isValid (backend : IngressBackend) : Bool :=
  match backend.service, backend.resource with
  | some svc, none => svc.isValid
  | none, some resource => decide (resource ≠ "")
  | _, _ => false

def HTTPIngressPath.isValid (path : HTTPIngressPath) : Bool :=
  path.backend.isValid &&
    match path.pathType with
    | none => false
    | some .implementationSpecific => decide (path.path = "" ∨ path.path.toList.head? = some '/')
    | some _ => decide (path.path.toList.head? = some '/') && isCleanPath path.path.toList

def IngressRule.isValid (rule : IngressRule) : Bool :=
  (decide (rule.host = "") || isIngressHost rule.host) &&
    rule.http.all (fun paths => decide (paths ≠ []) && paths.all HTTPIngressPath.isValid)

def IngressTLS.isValid (tls : IngressTLS) : Bool :=
  tls.hosts.all isIngressHost && (decide (tls.secretName = "") || isDNSSubdomain tls.secretName)

/-- What the API server checks of an Ingress. -/
def Ingress.isValid (ingress : Ingress) : Bool :=
  isDNSSubdomain ingress.metadata.name && isDNSLabel ingress.metadata.ns &&
    decide (ingress.spec.rules ≠ [] ∨ ingress.spec.defaultBackend ≠ none) &&
    ingress.spec.defaultBackend.all IngressBackend.isValid &&
    ingress.spec.rules.all IngressRule.isValid && ingress.spec.tls.all IngressTLS.isValid

end KubeLB.Networking
