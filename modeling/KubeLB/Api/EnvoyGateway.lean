import KubeLB.Api.Core

/-!
Contract: the `gateway.envoyproxy.io/v1alpha1` policies.

Owns: SecurityPolicy and BackendTrafficPolicy with the fields the modelled functions
write, under the names of the Go types. A nil pointer is `none`.

Does not own: ClientTrafficPolicy, of which the conversion makes none.
-/

set_option autoImplicit false

namespace KubeLB.EnvoyGateway

/-- `LocalPolicyTargetReferenceWithSectionName`. -/
structure PolicyTargetReference where
  group : String
  kind : String
  name : String
  deriving DecidableEq, Repr

/-! ## SecurityPolicy -/

structure CORS where
  allowOrigins : List String := []
  allowMethods : List String := []
  allowHeaders : List String := []
  exposeHeaders : List String := []
  maxAge : Option String := none
  allowCredentials : Option Bool := none
  deriving DecidableEq, Repr

inductive AuthorizationAction where
  | allow
  | deny
  deriving DecidableEq, Repr

structure AuthorizationRule where
  name : Option String := none
  action : AuthorizationAction
  /-- `Principal.ClientCIDRs`. -/
  clientCIDRs : List String
  deriving DecidableEq, Repr

structure Authorization where
  rules : List AuthorizationRule := []
  defaultAction : Option AuthorizationAction := none
  deriving DecidableEq, Repr

/-- `BasicAuth`, with the name and the namespace of `Users`. -/
structure BasicAuth where
  name : String
  ns : Option String := none
  deriving DecidableEq, Repr

structure SecurityPolicySpec where
  targetRef : Option PolicyTargetReference := none
  cors : Option CORS := none
  authorization : Option Authorization := none
  basicAuth : Option BasicAuth := none
  deriving DecidableEq, Repr

structure SecurityPolicy where
  metadata : Core.ObjectMeta
  spec : SecurityPolicySpec := {}
  deriving DecidableEq

/-! ## BackendTrafficPolicy -/

/-- `Timeout`, with `TCP.ConnectTimeout` and `HTTP.RequestTimeout`. -/
structure Timeout where
  connectTimeout : Option String := none
  requestTimeout : Option String := none
  deriving DecidableEq, Repr

inductive RateLimitUnit where
  | second
  | minute
  deriving DecidableEq, Repr

structure RateLimitValue where
  requests : UInt32
  unit : RateLimitUnit
  deriving DecidableEq, Repr

/-- `RateLimitSpec`, with the limits of `Local.Rules`. -/
structure RateLimitSpec where
  localRules : List RateLimitValue
  deriving DecidableEq, Repr

structure CircuitBreaker where
  maxConnections : Option Int64 := none
  deriving DecidableEq

structure BackendTrafficPolicySpec where
  targetRef : Option PolicyTargetReference := none
  timeout : Option Timeout := none
  circuitBreaker : Option CircuitBreaker := none
  rateLimit : Option RateLimitSpec := none
  deriving DecidableEq

structure BackendTrafficPolicy where
  metadata : Core.ObjectMeta
  spec : BackendTrafficPolicySpec := {}
  deriving DecidableEq

end KubeLB.EnvoyGateway
