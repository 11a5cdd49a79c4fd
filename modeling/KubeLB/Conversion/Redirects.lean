import KubeLB.Conversion.Filters
import KubeLB.Conversion.Gateway
import KubeLB.Conversion.Preservation

/-!
Contract: who answers a request over HTTP and over HTTPS after a redirect to HTTPS was
converted.

Owns: the listener that a request arrives at, the routes attached to it, and for which
requests an Ingress with `ssl-redirect` or `force-ssl-redirect` is still served over
HTTPS.

Does not own: redirects to another URL.
-/

set_option autoImplicit false

namespace KubeLB.Conversion

open KubeLB.Library KubeLB.Core KubeLB.Networking KubeLB.GatewayApi

/-! ## Listeners -/

inductive Scheme where
  | http
  | https
  deriving DecidableEq, Repr

def Scheme.protocol : Scheme → ProtocolType
  | http => .http
  | https => .https

section Filter

variable {text : GoText} {skipPolicyWarnings : Bool} {ingress : Ingress}

end Filter

section Answers

variable {surroundings : Surroundings} {input : Input} {expressions : Expressions}
  {gateway : Gateway} {scheme : Scheme} {request : Request} {answer : Answer}

end Answers

/-! ## The Ingress's own Gateway -/

section Own

variable {surroundings : Surroundings} {input : Input} {className : String}
  {annotations : StringMap} {expressions : Expressions} {scheme : Scheme} {request : Request}

end Own

/-! ## Requests over HTTPS -/

section Serves

variable {surroundings : Surroundings} {input : Input} {expressions : Expressions}
  {request : Request}

/-- The Service of the answer is the one that the Ingress has for the request. -/
def ReachesBackend (expressions : Expressions) (spec : IngressSpec) (request : Request)
    (answer : Answer) : Prop :=
  ∃ service port ingressPort, answer = .backend service port ∧
    ingressAnswer expressions spec request = some (.backend service ingressPort)

end Serves

/-! ## A shop with a redirect -/

end KubeLB.Conversion
