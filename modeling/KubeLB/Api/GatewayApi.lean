import KubeLB.Api.Core

/-!
Contract: the `gateway.networking.k8s.io/v1` objects.

Owns: Gateway, HTTPRoute and GRPCRoute with the fields the modelled functions use,
under the names of the Go types. A nil pointer is `none`. The two kinds of routes
differ in their matches and filters only and share the rest as parameters.

Does not own: the status of the objects, weights of backends, timeouts and session
persistence of rules, header and query matches.
-/

set_option autoImplicit false

namespace KubeLB.GatewayApi

open KubeLB.Library

/-! ## References -/

structure ParentReference where
  ns : Option String := none
  name : String
  sectionName : Option String := none
  deriving DecidableEq, Repr

structure BackendObjectReference where
  kind : Option String := none
  name : String
  ns : Option String := none
  port : Option Int32 := none
  deriving DecidableEq, Repr

/-! ## Filters -/

structure HTTPHeader where
  name : String
  value : String
  deriving DecidableEq, Repr

structure HTTPHeaderFilter where
  set : List HTTPHeader := []
  add : List HTTPHeader := []
  remove : List String := []
  deriving DecidableEq, Repr

/-- `HTTPPathModifier`, with the value that its type selects. -/
inductive HTTPPathModifier where
  | replaceFullPath (path : String)
  | replacePrefixMatch (path : String)
  deriving DecidableEq, Repr

structure HTTPRequestRedirectFilter where
  scheme : Option String := none
  hostname : Option String := none
  path : Option HTTPPathModifier := none
  port : Option Int32 := none
  statusCode : Option Int := none
  deriving DecidableEq, Repr

structure HTTPURLRewriteFilter where
  hostname : Option String := none
  path : Option HTTPPathModifier := none
  deriving DecidableEq, Repr

structure HTTPRequestMirrorFilter where
  backendRef : BackendObjectReference
  deriving DecidableEq, Repr

inductive HTTPRouteFilterType where
  | requestHeaderModifier
  | responseHeaderModifier
  | requestMirror
  | requestRedirect
  | urlRewrite
  | extensionRef
  deriving DecidableEq, Repr

structure HTTPRouteFilter where
  type : HTTPRouteFilterType
  requestHeaderModifier : Option HTTPHeaderFilter := none
  responseHeaderModifier : Option HTTPHeaderFilter := none
  requestMirror : Option HTTPRequestMirrorFilter := none
  requestRedirect : Option HTTPRequestRedirectFilter := none
  urlRewrite : Option HTTPURLRewriteFilter := none
  deriving DecidableEq, Repr

inductive GRPCRouteFilterType where
  | requestHeaderModifier
  | responseHeaderModifier
  | requestMirror
  | extensionRef
  deriving DecidableEq, Repr

structure GRPCRouteFilter where
  type : GRPCRouteFilterType
  requestHeaderModifier : Option HTTPHeaderFilter := none
  responseHeaderModifier : Option HTTPHeaderFilter := none
  requestMirror : Option HTTPRequestMirrorFilter := none
  deriving DecidableEq, Repr

/-! ## Routes -/

inductive PathMatchType where
  | exact
  | pathPrefix
  | regularExpression
  deriving DecidableEq, Repr

structure HTTPPathMatch where
  type : Option PathMatchType := none
  value : Option String := none
  deriving DecidableEq, Repr

structure HTTPRouteMatch where
  path : Option HTTPPathMatch := none
  deriving DecidableEq, Repr

structure GRPCMethodMatch where
  service : Option String := none
  method : Option String := none
  deriving DecidableEq, Repr

structure GRPCRouteMatch where
  method : Option GRPCMethodMatch := none
  deriving DecidableEq, Repr

/-- `HTTPBackendRef` and `GRPCBackendRef`. -/
structure RouteBackendRef (φ : Type) extends BackendObjectReference where
  filters : List φ := []
  deriving DecidableEq, Repr

/-- `HTTPRouteRule` and `GRPCRouteRule`. -/
structure RouteRule (μ φ : Type) where
  «matches» : List μ := []
  filters : List φ := []
  backendRefs : List (RouteBackendRef φ) := []
  deriving DecidableEq, Repr

/-- `HTTPRouteSpec` and `GRPCRouteSpec`. -/
structure RouteSpec (μ φ : Type) where
  parentRefs : List ParentReference := []
  hostnames : List String := []
  rules : List (RouteRule μ φ) := []
  deriving DecidableEq, Repr

abbrev HTTPRouteRule := RouteRule HTTPRouteMatch HTTPRouteFilter
abbrev HTTPRouteSpec := RouteSpec HTTPRouteMatch HTTPRouteFilter
abbrev GRPCRouteRule := RouteRule GRPCRouteMatch GRPCRouteFilter
abbrev GRPCRouteSpec := RouteSpec GRPCRouteMatch GRPCRouteFilter

structure HTTPRoute where
  metadata : Core.ObjectMeta
  spec : HTTPRouteSpec := {}
  deriving DecidableEq

structure GRPCRoute where
  metadata : Core.ObjectMeta
  spec : GRPCRouteSpec := {}
  deriving DecidableEq

/-! ## Gateways -/

inductive ProtocolType where
  | http
  | https
  | other (spelling : String)
  deriving DecidableEq, Repr

structure Listener where
  name : String
  hostname : Option String := none
  port : Int32
  protocol : ProtocolType
  /-- The names of `TLS.CertificateRefs`, nil without a TLS section. -/
  certificateRefs : Option (List String) := none
  deriving DecidableEq, Repr

structure GatewaySpec where
  gatewayClassName : String
  listeners : List Listener := []
  deriving DecidableEq, Repr

structure Gateway where
  metadata : Core.ObjectMeta
  spec : GatewaySpec
  deriving DecidableEq

end KubeLB.GatewayApi
