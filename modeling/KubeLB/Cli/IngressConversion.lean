import KubeLB.Conversion.Options

/-!
Contract: how the command line tool converts an Ingress.

Owns: the policies that it builds from annotations, and the conversion of one Ingress.

Does not own: the lists of Ingresses, what it writes to the cluster, and the files and
previews it can print.
-/

set_option autoImplicit false

namespace KubeLB.Cli

open KubeLB.Library KubeLB.Core KubeLB.Networking KubeLB.GatewayApi KubeLB.EnvoyGateway
  KubeLB.Controllers KubeLB.Conversion

/-! ## Policies -/

/-- `policyConversionResult`. -/
structure PolicyConversion where
  securityPolicy : Option SecurityPolicy := none
  backendTrafficPolicy : Option BackendTrafficPolicy := none
  deriving DecidableEq

section Policies

variable (ingress : Ingress) (routeName : String)

def policyBase : PolicyBuilder where
  ingressName := ingress.metadata.name
  ingressNamespace := ingress.metadata.ns
  routeName := routeName

/-- The SecurityPolicy of `buildPoliciesFromAnnotations`. The type of the authentication
is not read. -/
def securityPolicyFromAnnotations : Option SecurityPolicy :=
  let value := annotationValue ingress.metadata.annotations
  let builder : SecurityPolicyBuilder := { toPolicyBuilder := policyBase ingress routeName }
  let builder :=
    if value .enableCORS = "true" then
      builder.setCORS (parseStringList (value .corsAllowOrigin))
        (parseStringList (value .corsAllowMethods)) (parseStringList (value .corsAllowHeaders))
        (parseStringList (value .corsExposeHeaders)) (parseInt64 (value .corsMaxAge))
        (parseBool (value .corsAllowCredentials))
    else builder
  let builder :=
    if value .whitelistSourceRange ≠ "" then
      builder.setIPAllowlist (parseStringList (value .whitelistSourceRange))
    else builder
  let builder :=
    if value .denylistSourceRange ≠ "" then
      builder.setIPDenylist (parseStringList (value .denylistSourceRange))
    else builder
  let builder :=
    if value .authSecret ≠ "" then
      builder.setBasicAuth (value .authSecret) ingress.metadata.ns
    else builder
  builder.build

/-- The BackendTrafficPolicy of `buildPoliciesFromAnnotations`. The send timeout is not
read. -/
def backendTrafficPolicyFromAnnotations : Option BackendTrafficPolicy :=
  let value := annotationValue ingress.metadata.annotations
  let builder : BackendTrafficPolicyBuilder := { toPolicyBuilder := policyBase ingress routeName }
  let builder :=
    if value .proxyConnectTimeout ≠ "" then
      builder.setConnectTimeout (value .proxyConnectTimeout)
    else builder
  let builder :=
    if value .proxyReadTimeout ≠ "" then builder.setRequestTimeout (value .proxyReadTimeout)
    else builder
  let builder :=
    if 0 < parseInt (value .limitRPS) then builder.setRateLimitRPS (parseInt (value .limitRPS))
    else if 0 < parseInt (value .limitRPM) then
      builder.setRateLimitRPM (parseInt (value .limitRPM))
    else builder
  let builder :=
    if 0 < parseInt (value .limitConnections) then
      builder.setMaxConnections (parseInt (value .limitConnections))
    else builder
  builder.build

/-- `buildPoliciesFromAnnotations`; `none` without a policy. -/
def buildPoliciesFromAnnotations : Option PolicyConversion :=
  let policies : PolicyConversion :=
    { securityPolicy := securityPolicyFromAnnotations ingress routeName
      backendTrafficPolicy := backendTrafficPolicyFromAnnotations ingress routeName }
  if policies.securityPolicy = none ∧ policies.backendTrafficPolicy = none then none
  else some policies

end Policies

/-! ## One Ingress -/

structure IngressConversion where
  ingress : Ingress
  convResult : ConversionResult
  policyResult : Option PolicyConversion := none

section Convert

variable (options : Options)

def skips (ingress : Ingress) : Bool :=
  shouldSkip ingress ||
    (decide (options.ingressClass ≠ "") && !matchesIngressClass ingress options.ingressClass)

def conversionInput (ingress : Ingress) (services : GoMap ObjectKey Service) : Input where
  ingress := ingress
  gatewayName := options.gatewayName
  gatewayNamespace := options.gatewayNamespace
  services := some services
  domainReplace := options.domainReplace
  domainSuffix := options.domainSuffix
  skipPolicyWarnings := !options.disableEnvoyGatewayFeatures

def conversionPolicies (ingress : Ingress) (convResult : ConversionResult) :
    Option PolicyConversion :=
  match convResult.httpRoutes with
  | [] => none
  | first :: _ =>
      if options.disableEnvoyGatewayFeatures then none
      else buildPoliciesFromAnnotations ingress first.metadata.name

/-- The round of `convertIngresses` for an Ingress that was read; `none` if it is
skipped. -/
def convertIngress (surroundings : Surroundings) (ingress : Ingress)
    (services : GoMap ObjectKey Service) : Option IngressConversion :=
  if skips options ingress then none
  else
    let convResult :=
      convertIngressWithServices surroundings (conversionInput options ingress services)
    some
      { ingress := ingress
        convResult := convResult
        policyResult := conversionPolicies options ingress convResult }

end Convert

end KubeLB.Cli
