import KubeLB.Api.EnvoyGateway
import KubeLB.Conversion.Annotations
import Mathlib.Data.List.DropRight

/-!
Contract: the policies that annotations of an Ingress become.

Owns: the builders of SecurityPolicy and BackendTrafficPolicy with their setters,
`buildSecurityPolicy`, `buildBackendTrafficPolicy` and `ConvertToPolicies`.

Does not own: how policies are written, and the owner of a policy.
-/

set_option autoImplicit false

namespace KubeLB.Conversion

open KubeLB.Library KubeLB.Core KubeLB.EnvoyGateway KubeLB.Resources

/-! ## Values -/

/-- `ParseInt`: zero for what is no number. -/
def parseInt (value : String) : Int := (atoi value).getD 0

theorem parseInt_lt (value : String) : parseInt value < 2 ^ 63 := by
  have bounded {number : Int} (isNumber : atoi value = some number) : number < 2 ^ 63 := by
    unfold atoi at isNumber
    extract_lets digitsOf at isNumber
    split at isNumber
    all_goals
      obtain ⟨digits, -, isBounded⟩ := Option.bind_eq_some_iff.mp isNumber
      rw [Option.ite_none_right_eq_some, Option.some.injEq] at isBounded
      omega
  unfold parseInt
  cases isNumber : atoi value with
  | none => decide
  | some number => exact bounded isNumber

def parseInt64 (value : String) : Option Int := atoi value

def parseBool (value : String) : Option Bool :=
  if value = "" then none else some (decide (value = "true"))

/-! ## Builders -/

def labelSourceIngress : String := "kubelb.k8c.io/source-ingress"

def sourceIngress (ingressName ingressNamespace : String) : String :=
  ingressName ++ "." ++ ingressNamespace

structure PolicyBuilder where
  ingressName : String
  ingressNamespace : String
  routeName : String

namespace PolicyBuilder

variable (builder : PolicyBuilder)

def policyTargetRef : PolicyTargetReference where
  group := "gateway.networking.k8s.io"
  kind := "HTTPRoute"
  name := builder.routeName

def policyLabels : StringMap :=
  Finmap.singleton labelSourceIngress (sourceIngress builder.ingressName builder.ingressNamespace)

/-- The metadata of a policy with the suffix of its kind. -/
def policyMetadata (suffix : String) : ObjectMeta where
  name := builder.ingressName ++ suffix
  ns := builder.ingressNamespace
  labels := builder.policyLabels

end PolicyBuilder

structure SecurityPolicyBuilder extends PolicyBuilder where
  cors : Option CORS := none
  authorization : Option Authorization := none
  basicAuth : Option BasicAuth := none

namespace SecurityPolicyBuilder

variable (builder : SecurityPolicyBuilder)

def setCORS (allowOrigins allowMethods allowHeaders exposeHeaders : List String)
    (maxAgeSeconds : Option Int) (allowCredentials : Option Bool) : SecurityPolicyBuilder :=
  { builder with
    cors := some
      { allowOrigins := allowOrigins
        allowMethods := allowMethods
        allowHeaders := allowHeaders
        exposeHeaders := exposeHeaders
        maxAge := maxAgeSeconds.map (fun seconds => toString seconds ++ "s")
        allowCredentials := allowCredentials } }

/-- A rule for a list of ranges, after which the default action is the given one. An
empty list changes nothing. -/
def addRanges (ruleName : String) (action defaultAction : AuthorizationAction)
    (cidrs : List String) : SecurityPolicyBuilder :=
  if cidrs = [] then builder
  else
    let authorization := builder.authorization.getD {}
    let rule : AuthorizationRule :=
      { name := some ruleName, action := action
        clientCIDRs := cidrs.map (fun cidr => String.ofList (trimSpace cidr.toList)) }
    { builder with
      authorization := some
        { rules := authorization.rules ++ [rule], defaultAction := some defaultAction } }

def setIPAllowlist (cidrs : List String) : SecurityPolicyBuilder :=
  builder.addRanges "ip-allowlist" .allow .deny cidrs

def setIPDenylist (cidrs : List String) : SecurityPolicyBuilder :=
  builder.addRanges "ip-denylist" .deny .allow cidrs

def setBasicAuth (secretRef ns : String) : SecurityPolicyBuilder :=
  if secretRef = "" then builder
  else { builder with basicAuth := some { name := secretRef, ns := some ns } }

def isEmpty : Bool :=
  builder.cors.isNone && builder.authorization.isNone && builder.basicAuth.isNone

def build : Option SecurityPolicy :=
  if builder.isEmpty then none
  else some
    { metadata := builder.policyMetadata "-security"
      spec :=
        { targetRef := some builder.policyTargetRef
          cors := builder.cors
          authorization := builder.authorization
          basicAuth := builder.basicAuth } }

end SecurityPolicyBuilder

structure BackendTrafficPolicyBuilder extends PolicyBuilder where
  timeout : Option Timeout := none
  rateLimit : Option RateLimitSpec := none
  circuitBreaker : Option CircuitBreaker := none

namespace BackendTrafficPolicyBuilder

variable (builder : BackendTrafficPolicyBuilder)

def setConnectTimeout (duration : String) : BackendTrafficPolicyBuilder :=
  let parsed := parseDuration duration
  if parsed = "" then builder
  else
    let timeout := builder.timeout.getD {}
    { builder with timeout := some { timeout with connectTimeout := some parsed } }

def setRequestTimeout (duration : String) : BackendTrafficPolicyBuilder :=
  let parsed := parseDuration duration
  if parsed = "" then builder
  else
    let timeout := builder.timeout.getD {}
    { builder with timeout := some { timeout with requestTimeout := some parsed } }

/-- A limit of requests per unit, cut to 32 bits. -/
def setRateLimit (requests : Int) (unit : RateLimitUnit) : BackendTrafficPolicyBuilder :=
  if requests ≤ 0 then builder
  else
    { builder with
      rateLimit := some { localRules := [⟨UInt32.ofNat requests.toNat, unit⟩] } }

def setRateLimitRPS (rps : Int) : BackendTrafficPolicyBuilder := builder.setRateLimit rps .second

def setRateLimitRPM (rpm : Int) : BackendTrafficPolicyBuilder := builder.setRateLimit rpm .minute

def setMaxConnections (maxConns : Int) : BackendTrafficPolicyBuilder :=
  if maxConns ≤ 0 then builder
  else { builder with circuitBreaker := some { maxConnections := some (Int64.ofInt maxConns) } }

def isEmpty : Bool :=
  builder.timeout.isNone && builder.rateLimit.isNone && builder.circuitBreaker.isNone

def build : Option BackendTrafficPolicy :=
  if builder.isEmpty then none
  else some
    { metadata := builder.policyMetadata "-backend"
      spec :=
        { targetRef := some builder.policyTargetRef
          timeout := builder.timeout
          circuitBreaker := builder.circuitBreaker
          rateLimit := builder.rateLimit } }

end BackendTrafficPolicyBuilder

/-! ## Conversion -/

structure PolicyConversionInput extends PolicyBuilder where
  annotations : StringMap

structure PolicyConversionResult where
  securityPolicies : List SecurityPolicy := []
  backendTrafficPolicies : List BackendTrafficPolicy := []
  warnings : List String := []
  deriving DecidableEq

section Conversion

variable (input : PolicyConversionInput)

def buildSecurityPolicy : Option SecurityPolicy :=
  let value := annotationValue input.annotations
  let builder : SecurityPolicyBuilder := { toPolicyBuilder := input.toPolicyBuilder }
  let builder :=
    if value .enableCORS = "true" then
      builder.setCORS (parseStringList (value .corsAllowOrigin))
        (parseStringList (value .corsAllowMethods)) (parseStringList (value .corsAllowHeaders))
        (parseStringList (value .corsExposeHeaders)) (parseInt64 (value .corsMaxAge))
        (parseBool (value .corsAllowCredentials))
    else builder
  let builder :=
    if value .whitelistSourceRange ≠ "" then
      builder.setIPAllowlist (parseStringList (value .whitelistSourceRange))
    else builder
  let builder :=
    if value .denylistSourceRange ≠ "" then
      builder.setIPDenylist (parseStringList (value .denylistSourceRange))
    else builder
  let builder :=
    if value .authType = "basic" then
      builder.setBasicAuth (value .authSecret) input.ingressNamespace
    else builder
  builder.build

/-- `buildBackendTrafficPolicy`. The send timeout counts only without a read timeout,
and requests per minute only without requests per second. -/
def buildBackendTrafficPolicy : Option BackendTrafficPolicy × List String :=
  let value := annotationValue input.annotations
  let builder : BackendTrafficPolicyBuilder := { toPolicyBuilder := input.toPolicyBuilder }
  let builder :=
    if value .proxyConnectTimeout ≠ "" then
      builder.setConnectTimeout (value .proxyConnectTimeout)
    else builder
  let builder :=
    if value .proxyReadTimeout ≠ "" then builder.setRequestTimeout (value .proxyReadTimeout)
    else builder
  let builder :=
    if value .proxySendTimeout ≠ "" ∧ value .proxyReadTimeout = "" then
      builder.setRequestTimeout (value .proxySendTimeout)
    else builder
  let builder :=
    if 0 < parseInt (value .limitRPS) then builder.setRateLimitRPS (parseInt (value .limitRPS))
    else if 0 < parseInt (value .limitRPM) then
      builder.setRateLimitRPM (parseInt (value .limitRPM))
    else builder
  let builder :=
    if 0 < parseInt (value .limitConnections) then
      builder.setMaxConnections (parseInt (value .limitConnections))
    else builder
  (builder.build,
    if value .affinity = "cookie" then
      ["affinity=cookie requires manual BackendTrafficPolicy configuration for session persistence"]
    else [])

def convertToPolicies : PolicyConversionResult :=
  let value := annotationValue input.annotations
  let backend := buildBackendTrafficPolicy input
  { securityPolicies := (buildSecurityPolicy input).toList
    backendTrafficPolicies := backend.1.toList
    warnings := backend.2 ++
      (if value .authURL ≠ "" then
        ["auth-url cannot be automatically converted to SecurityPolicy ExtAuth; " ++
          "requires manual backend reference configuration"]
      else []) ++
      (if value .proxyBodySize ≠ "" then
        ["proxy-body-size cannot be directly converted to ClientTrafficPolicy; " ++
          "requires manual Envoy configuration"]
      else []) }

end Conversion

/-! ## Built policies -/

theorem trimSpace_trimSpace (text : List Char) : trimSpace (trimSpace text) = trimSpace text := by
  have asDrops (text : List Char) :
      trimSpace text = (text.dropWhile isSpace).rdropWhile isSpace := rfl
  have noSpaceFirst : (trimSpace text).dropWhile isSpace = trimSpace text := by
    rw [asDrops, List.dropWhile_eq_self_iff]
    intro nonempty
    have isPrefix := List.rdropWhile_prefix isSpace (text.dropWhile isSpace)
    have sameHead := isPrefix.getElem nonempty
    have dropped : text.dropWhile isSpace ≠ [] := by
      intro empty
      simp [empty] at nonempty
    rw [sameHead, ← List.head_eq_getElem dropped]
    simp [List.head_dropWhile_not isSpace dropped]
  rw [asDrops (trimSpace text), noSpaceFirst, asDrops, List.rdropWhile_idempotent]

/-- The parts of a list have no surrounding spaces left. -/
theorem map_trimSpace_parseStringList (value : String) :
    (parseStringList value).map (fun part => String.ofList (trimSpace part.toList)) =
      parseStringList value := by
  refine (List.map_congr_left (fun part isPart => ?_)).trans (List.map_id _)
  obtain ⟨isMapped, -⟩ := List.mem_filter.mp isPart
  obtain ⟨source, -, rfl⟩ := List.mem_map.mp isMapped
  rw [String.toList_ofList, trimSpace_trimSpace]
  rfl

@[simp] theorem parseStringList_empty : parseStringList "" = [] := by
  simp [parseStringList, splitComma, trimSpace]

section Built

variable (input : PolicyConversionInput)

/-- The rules of the authorization, the allowlist first. -/
def rangeRules (allowed denied : List String) : List AuthorizationRule :=
  (if allowed = [] then [] else
    [{ name := some "ip-allowlist", action := .allow, clientCIDRs := allowed }]) ++
  (if denied = [] then [] else
    [{ name := some "ip-denylist", action := .deny, clientCIDRs := denied }])

/-- A denylist decides on the default action, also after an allowlist. -/
def rangeAuthorization (allowed denied : List String) : Option Authorization :=
  if allowed = [] ∧ denied = [] then none
  else some
    { rules := rangeRules allowed denied
      defaultAction := some (if denied = [] then .deny else .allow) }

def builtCORS : Option CORS :=
  let value := annotationValue input.annotations
  if value .enableCORS = "true" then some
    { allowOrigins := parseStringList (value .corsAllowOrigin)
      allowMethods := parseStringList (value .corsAllowMethods)
      allowHeaders := parseStringList (value .corsAllowHeaders)
      exposeHeaders := parseStringList (value .corsExposeHeaders)
      maxAge := (parseInt64 (value .corsMaxAge)).map (fun seconds => toString seconds ++ "s")
      allowCredentials := parseBool (value .corsAllowCredentials) }
  else none

def builtAuthorization : Option Authorization :=
  rangeAuthorization (parseStringList (annotationValue input.annotations .whitelistSourceRange))
    (parseStringList (annotationValue input.annotations .denylistSourceRange))

def builtBasicAuth : Option BasicAuth :=
  let secret := annotationValue input.annotations .authSecret
  if annotationValue input.annotations .authType = "basic" ∧ secret ≠ "" then
    some { name := secret, ns := some input.ingressNamespace }
  else none

/-- The builder before `Build`. -/
def securityBuilder : SecurityPolicyBuilder where
  toPolicyBuilder := input.toPolicyBuilder
  cors := builtCORS input
  authorization := builtAuthorization input
  basicAuth := builtBasicAuth input

theorem setIPAllowlist_setIPDenylist (builder : SecurityPolicyBuilder)
    (noRules : builder.authorization = none) (allow deny : String) :
    let allowing := if allow ≠ "" then builder.setIPAllowlist (parseStringList allow) else builder
    (if deny ≠ "" then allowing.setIPDenylist (parseStringList deny) else allowing) =
      { builder with
        authorization := rangeAuthorization (parseStringList allow) (parseStringList deny) } := by
  have unconditional (builder : SecurityPolicyBuilder) (value name : String)
      (action defaultAction : AuthorizationAction) :
      (if value ≠ "" then builder.addRanges name action defaultAction (parseStringList value)
        else builder) = builder.addRanges name action defaultAction (parseStringList value) := by
    by_cases empty : value = ""
    · simp [empty, SecurityPolicyBuilder.addRanges]
    · rw [if_pos empty]
  simp only [SecurityPolicyBuilder.setIPAllowlist, SecurityPolicyBuilder.setIPDenylist,
    unconditional]
  obtain ⟨base, cors, authorization, basicAuth⟩ := builder
  cases noRules
  simp only [SecurityPolicyBuilder.addRanges, rangeAuthorization, rangeRules,
    map_trimSpace_parseStringList]
  by_cases allowNone : parseStringList allow = [] <;>
    by_cases denyNone : parseStringList deny = [] <;>
    simp [allowNone, denyNone]

theorem buildSecurityPolicy_eq : buildSecurityPolicy input = (securityBuilder input).build := by
  have withCORS : (if annotationValue input.annotations .enableCORS = "true" then
      SecurityPolicyBuilder.setCORS { toPolicyBuilder := input.toPolicyBuilder }
        (parseStringList (annotationValue input.annotations .corsAllowOrigin))
        (parseStringList (annotationValue input.annotations .corsAllowMethods))
        (parseStringList (annotationValue input.annotations .corsAllowHeaders))
        (parseStringList (annotationValue input.annotations .corsExposeHeaders))
        (parseInt64 (annotationValue input.annotations .corsMaxAge))
        (parseBool (annotationValue input.annotations .corsAllowCredentials))
      else { toPolicyBuilder := input.toPolicyBuilder }) =
      { toPolicyBuilder := input.toPolicyBuilder, cors := builtCORS input } := by
    unfold builtCORS
    by_cases enabled : annotationValue input.annotations .enableCORS = "true" <;>
      simp [enabled, SecurityPolicyBuilder.setCORS]
  have withRanges := setIPAllowlist_setIPDenylist
    { toPolicyBuilder := input.toPolicyBuilder, cors := builtCORS input } rfl
    (annotationValue input.annotations .whitelistSourceRange)
    (annotationValue input.annotations .denylistSourceRange)
  simp only [buildSecurityPolicy]
  rw [withCORS, withRanges]
  congr 1
  simp only [securityBuilder, builtAuthorization, builtBasicAuth,
    SecurityPolicyBuilder.setBasicAuth]
  by_cases basic : annotationValue input.annotations .authType = "basic" <;>
    by_cases secret : annotationValue input.annotations .authSecret = "" <;>
    simp [basic, secret]

/-- The duration of an annotation, unless it is empty. -/
def builtDuration (value : String) : Option String :=
  if parseDuration value = "" then none else some (parseDuration value)

def builtTimeout : Option Timeout :=
  let value := annotationValue input.annotations
  let connect := builtDuration (value .proxyConnectTimeout)
  let request := builtDuration
    (if value .proxyReadTimeout ≠ "" then value .proxyReadTimeout else value .proxySendTimeout)
  if connect = none ∧ request = none then none
  else some { connectTimeout := connect, requestTimeout := request }

def builtRateLimit : Option RateLimitSpec :=
  let rps := parseInt (annotationValue input.annotations .limitRPS)
  let rpm := parseInt (annotationValue input.annotations .limitRPM)
  if 0 < rps then some { localRules := [⟨UInt32.ofNat rps.toNat, .second⟩] }
  else if 0 < rpm then some { localRules := [⟨UInt32.ofNat rpm.toNat, .minute⟩] }
  else none

def builtCircuitBreaker : Option CircuitBreaker :=
  let connections := parseInt (annotationValue input.annotations .limitConnections)
  if 0 < connections then some { maxConnections := some (Int64.ofInt connections) } else none

/-- The builder before `Build`. -/
def trafficBuilder : BackendTrafficPolicyBuilder where
  toPolicyBuilder := input.toPolicyBuilder
  timeout := builtTimeout input
  rateLimit := builtRateLimit input
  circuitBreaker := builtCircuitBreaker input

@[simp] theorem parseDuration_empty : parseDuration "" = "" := by
  decide

theorem setTimeouts (builder : BackendTrafficPolicyBuilder) (noTimeout : builder.timeout = none)
    (connect read send : String) :
    let connecting := if connect ≠ "" then builder.setConnectTimeout connect else builder
    let reading := if read ≠ "" then connecting.setRequestTimeout read else connecting
    (if send ≠ "" ∧ read = "" then reading.setRequestTimeout send else reading) =
      { builder with
        timeout :=
          if builtDuration connect = none ∧
              builtDuration (if read ≠ "" then read else send) = none then none
          else some
            { connectTimeout := builtDuration connect
              requestTimeout := builtDuration (if read ≠ "" then read else send) } } := by
  have connecting (builder : BackendTrafficPolicyBuilder) :
      (if connect ≠ "" then builder.setConnectTimeout connect else builder) =
        builder.setConnectTimeout connect := by
    by_cases empty : connect = ""
    · simp [empty, BackendTrafficPolicyBuilder.setConnectTimeout]
    · rw [if_pos empty]
  have requesting (builder : BackendTrafficPolicyBuilder) :
      (let reading := if read ≠ "" then builder.setRequestTimeout read else builder
      if send ≠ "" ∧ read = "" then reading.setRequestTimeout send else reading) =
        builder.setRequestTimeout (if read ≠ "" then read else send) := by
    by_cases noRead : read = ""
    · by_cases noSend : send = "" <;>
        simp [noRead, noSend, BackendTrafficPolicyBuilder.setRequestTimeout]
    · simp [noRead]
  simp only [connecting]
  rw [requesting]
  generalize (if read ≠ "" then read else send) = request
  obtain ⟨base, timeout, rateLimit, circuitBreaker⟩ := builder
  cases noTimeout
  simp only [BackendTrafficPolicyBuilder.setConnectTimeout,
    BackendTrafficPolicyBuilder.setRequestTimeout, builtDuration]
  by_cases noConnect : parseDuration connect = "" <;>
    by_cases noRequest : parseDuration request = "" <;>
    simp [noConnect, noRequest]

theorem buildBackendTrafficPolicy_eq :
    (buildBackendTrafficPolicy input).1 = (trafficBuilder input).build := by
  have withTimeouts := setTimeouts { toPolicyBuilder := input.toPolicyBuilder } rfl
    (annotationValue input.annotations .proxyConnectTimeout)
    (annotationValue input.annotations .proxyReadTimeout)
    (annotationValue input.annotations .proxySendTimeout)
  simp only [buildBackendTrafficPolicy]
  rw [withTimeouts]
  congr 1
  simp only [trafficBuilder, builtTimeout, builtRateLimit, builtCircuitBreaker,
    BackendTrafficPolicyBuilder.setRateLimitRPS, BackendTrafficPolicyBuilder.setRateLimitRPM,
    BackendTrafficPolicyBuilder.setRateLimit, BackendTrafficPolicyBuilder.setMaxConnections]
  by_cases rps : 0 < parseInt (annotationValue input.annotations .limitRPS) <;>
    by_cases rpm : 0 < parseInt (annotationValue input.annotations .limitRPM) <;>
    by_cases connections : 0 < parseInt (annotationValue input.annotations .limitConnections) <;>
    simp [rps, rpm, connections, not_le.mpr]

end Built

end KubeLB.Conversion
