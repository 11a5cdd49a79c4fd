import KubeLB.Api.GatewayApi
import KubeLB.Resources.Annotations

/-!
Contract: NGINX annotations of an Ingress as filters of an HTTPRoute.

Owns: the annotations with a handler, the handlers with their filters and warnings,
`Convert` and `deduplicateFilters`.

Does not own: the policies that some of the annotations become. Quoting of a text,
parsing of a URL and Unicode upper case are Go's own and come as a parameter.
-/

set_option autoImplicit false

namespace KubeLB.Conversion

open KubeLB.Library KubeLB.Core KubeLB.GatewayApi KubeLB.Resources

/-! ## Texts -/

/-- `url.URL` with its `Hostname` and `Port`. -/
structure ParsedURL where
  scheme : String := ""
  host : String := ""
  hostname : String := ""
  port : String := ""
  path : String := ""
  deriving DecidableEq, Repr

/-- Functions of Go's library on texts. -/
structure GoText where
  /-- The verb `%q`. -/
  quote : String → String
  /-- `url.Parse` with the text of its error. -/
  parseURL : String → Except String ParsedURL
  /-- `strings.ToUpper`. -/
  toUpper : String → String
  toUpper_empty : toUpper "" = ""

def atoi (text : String) : Option Int :=
  let number (digits : List Char) : Option Nat :=
    if digits ≠ [] ∧ digits.all Char.isDigit then
      some (digits.foldl (fun value digit => value * 10 + (digit.toNat - '0'.toNat)) 0)
    else none
  match text.toList with
  | '-' :: digits => (number digits).bind (fun value =>
      if value ≤ 2 ^ 63 then some (-(value : Int)) else none)
  | '+' :: digits => (number digits).bind (fun value =>
      if value < 2 ^ 63 then some (value : Int) else none)
  | digits => (number digits).bind (fun value =>
      if value < 2 ^ 63 then some (value : Int) else none)

/-- The parts between commas without surrounding spaces, empty ones left out:
`ParseStringList` and `ParseCIDRList`. -/
def parseStringList (value : String) : List String :=
  ((splitComma value.toList).map (fun part => String.ofList (trimSpace part))).filter (· ≠ "")

/-- `parseDuration`, and `normalizeTimeout` in the annotations package. -/
def parseDuration (value : String) : String :=
  let trimmed := String.ofList (trimSpace value.toList)
  if trimmed.toList.getLast? ∈ [some 's', some 'm', some 'h'] then trimmed
  else if (atoi trimmed).isSome then trimmed ++ "s"
  else trimmed

def joinComma (parts : List String) : String := ", ".intercalate parts

def formatStringList (text : GoText) (value : String) : String :=
  joinComma ((parseStringList value).map text.quote)

/-! ## Keys -/

/-- The annotations with a registered handler. -/
inductive Annotation where
  | sslRedirect | forceSSLRedirect | permanentRedirect | permanentRedirectCode | temporalRedirect
  | rewriteTarget | appRoot | useRegex
  | customHeaders | proxySetHeaders | upstreamVhost | xForwardedPrefix | preserveHost
  | hsts | hstsMaxAge | hstsIncludeSubdomains | hstsPreload
  | proxyConnectTimeout | proxyReadTimeout | proxySendTimeout
  | enableCORS | corsAllowOrigin | corsAllowMethods | corsAllowHeaders | corsExposeHeaders
  | corsAllowCredentials | corsMaxAge
  | limitRPS | limitRPM | limitConnections
  | whitelistSourceRange | denylistSourceRange
  | proxyBodySize
  | affinity | sessionCookieName | sessionCookiePath | sessionCookieExpires | sessionCookieSameSite
  | authType | authSecret | authRealm | authURL
  | backendProtocol
  | canary | canaryWeight | canaryWeightTotal | canaryByHeader | canaryByHeaderValue
  | canaryByCookie
  | sslPassthrough | proxySSLSecret | proxySSLVerify | proxySSLName | proxySSLServerName
  | serverSnippet | configurationSnippet | streamSnippet | enableModSecurity
  | enableOWASPCoreRules | upstreamHashBy
  deriving DecidableEq

namespace Annotation

def all : List Annotation :=
  [sslRedirect, forceSSLRedirect, permanentRedirect, permanentRedirectCode, temporalRedirect,
    rewriteTarget, appRoot, useRegex,
    customHeaders, proxySetHeaders, upstreamVhost, xForwardedPrefix, preserveHost,
    hsts, hstsMaxAge, hstsIncludeSubdomains, hstsPreload,
    proxyConnectTimeout, proxyReadTimeout, proxySendTimeout,
    enableCORS, corsAllowOrigin, corsAllowMethods, corsAllowHeaders, corsExposeHeaders,
    corsAllowCredentials, corsMaxAge,
    limitRPS, limitRPM, limitConnections,
    whitelistSourceRange, denylistSourceRange,
    proxyBodySize,
    affinity, sessionCookieName, sessionCookiePath, sessionCookieExpires, sessionCookieSameSite,
    authType, authSecret, authRealm, authURL,
    backendProtocol,
    canary, canaryWeight, canaryWeightTotal, canaryByHeader, canaryByHeaderValue, canaryByCookie,
    sslPassthrough, proxySSLSecret, proxySSLVerify, proxySSLName, proxySSLServerName,
    serverSnippet, configurationSnippet, streamSnippet, enableModSecurity,
    enableOWASPCoreRules, upstreamHashBy]

/-- The key after the domain. -/
def name : Annotation → String
  | sslRedirect => "ssl-redirect"
  | forceSSLRedirect => "force-ssl-redirect"
  | permanentRedirect => "permanent-redirect"
  | permanentRedirectCode => "permanent-redirect-code"
  | temporalRedirect => "temporal-redirect"
  | rewriteTarget => "rewrite-target"
  | appRoot => "app-root"
  | useRegex => "use-regex"
  | customHeaders => "custom-headers"
  | proxySetHeaders => "proxy-set-headers"
  | upstreamVhost => "upstream-vhost"
  | xForwardedPrefix => "x-forwarded-prefix"
  | preserveHost => "preserve-host"
  | hsts => "hsts"
  | hstsMaxAge => "hsts-max-age"
  | hstsIncludeSubdomains => "hsts-include-subdomains"
  | hstsPreload => "hsts-preload"
  | proxyConnectTimeout => "proxy-connect-timeout"
  | proxyReadTimeout => "proxy-read-timeout"
  | proxySendTimeout => "proxy-send-timeout"
  | enableCORS => "enable-cors"
  | corsAllowOrigin => "cors-allow-origin"
  | corsAllowMethods => "cors-allow-methods"
  | corsAllowHeaders => "cors-allow-headers"
  | corsExposeHeaders => "cors-expose-headers"
  | corsAllowCredentials => "cors-allow-credentials"
  | corsMaxAge => "cors-max-age"
  | limitRPS => "limit-rps"
  | limitRPM => "limit-rpm"
  | limitConnections => "limit-connections"
  | whitelistSourceRange => "whitelist-source-range"
  | denylistSourceRange => "denylist-source-range"
  | proxyBodySize => "proxy-body-size"
  | affinity => "affinity"
  | sessionCookieName => "session-cookie-name"
  | sessionCookiePath => "session-cookie-path"
  | sessionCookieExpires => "session-cookie-expires"
  | sessionCookieSameSite => "session-cookie-samesite"
  | authType => "auth-type"
  | authSecret => "auth-secret"
  | authRealm => "auth-realm"
  | authURL => "auth-url"
  | backendProtocol => "backend-protocol"
  | canary => "canary"
  | canaryWeight => "canary-weight"
  | canaryWeightTotal => "canary-weight-total"
  | canaryByHeader => "canary-by-header"
  | canaryByHeaderValue => "canary-by-header-value"
  | canaryByCookie => "canary-by-cookie"
  | sslPassthrough => "ssl-passthrough"
  | proxySSLSecret => "proxy-ssl-secret"
  | proxySSLVerify => "proxy-ssl-verify"
  | proxySSLName => "proxy-ssl-name"
  | proxySSLServerName => "proxy-ssl-server-name"
  | serverSnippet => "server-snippet"
  | configurationSnippet => "configuration-snippet"
  | streamSnippet => "stream-snippet"
  | enableModSecurity => "enable-modsecurity"
  | enableOWASPCoreRules => "enable-owasp-core-rules"
  | upstreamHashBy => "upstream-hash-by"

def domain : String := "nginx.ingress.kubernetes.io/"

def key (kind : Annotation) : String := domain ++ kind.name

/-- The registered annotation of a key. -/
def ofKey (key : String) : Option Annotation :=
  all.find? (fun kind => kind.key = key)

theorem ofKey_eq_some {key : String} {kind : Annotation}
    (isKey : ofKey key = some kind) : kind.key = key := by
  have found := List.find?_some isKey
  exact of_decide_eq_true found

theorem mem_all (kind : Annotation) : kind ∈ all := by
  cases kind <;> simp [all]

theorem name_injective : Function.Injective name := by
  have distinct : (all.map name).Nodup := by decide +kernel
  intro kind other sameName
  exact List.inj_on_of_nodup_map distinct (mem_all kind) (mem_all other) sameName

theorem key_injective : Function.Injective key := by
  intro kind other sameKey
  exact name_injective ((String.append_right_inj domain).mp sameKey)

theorem ofKey_key (kind : Annotation) : ofKey kind.key = some kind := by
  cases found : ofKey kind.key with
  | none =>
      have notFound := List.find?_eq_none.mp found kind (mem_all kind)
      simp at notFound
  | some other => rw [key_injective (ofKey_eq_some found)]

end Annotation

/-- The value of an annotation, empty when it is absent. -/
def annotationValue (annotations : StringMap) (kind : Annotation) : String :=
  annotations.get kind.key

/-! ## Handlers -/

/-- What a handler returns. -/
structure Handled where
  filters : List HTTPRouteFilter := []
  warnings : List String := []
  deriving DecidableEq

def warn (warning : String) : Handled := { warnings := [warning] }

/-- No action unless the value is `true`. -/
def whenTrue (value : String) (handled : Handled) : Handled :=
  if value = "true" then handled else {}

/-- No action on an empty value. -/
def whenSet (value : String) (handled : Handled) : Handled :=
  if value = "" then {} else handled

def emptyValueWarning (text : GoText) (kind : Annotation) : String :=
  "annotation " ++ text.quote kind.key ++ " has empty value"

section Redirects

def statusCodeToGatewayAPI (code : Int) : Int :=
  if code ∈ [301, 308] then 301 else 302

def isValidRedirectCode (code : Int) : Bool := decide (300 ≤ code ∧ code < 400)

def createHTTPSRedirectFilter (statusCode : Int) : HTTPRouteFilter where
  type := .requestRedirect
  requestRedirect := some
    { scheme := some "https", statusCode := some (statusCodeToGatewayAPI statusCode) }

def createURLRedirectFilter (targetURL : ParsedURL) (statusCode : Int) : HTTPRouteFilter where
  type := .requestRedirect
  requestRedirect := some
    { scheme := if targetURL.scheme ≠ "" then some targetURL.scheme else none
      hostname := if targetURL.host ≠ "" then some targetURL.hostname else none
      port :=
        if targetURL.host ≠ "" then
          (atoi targetURL.port).bind (fun port =>
            if 0 < port ∧ port ≤ 65535 then some (Int32.ofInt port) else none)
        else none
      path :=
        if targetURL.path ≠ "" ∧ targetURL.path ≠ "/" then some (.replaceFullPath targetURL.path)
        else none
      statusCode := some (statusCodeToGatewayAPI statusCode) }

/-- `handleSSLRedirect`: force-ssl-redirect goes first. -/
def handleSSLRedirect (value : String) (annotations : StringMap) : Handled :=
  whenTrue value
    (if annotationValue annotations .forceSSLRedirect = "true" then {}
    else { filters := [createHTTPSRedirectFilter 301] })

def handleForceSSLRedirect (value : String) : Handled :=
  whenTrue value { filters := [createHTTPSRedirectFilter 301] }

/-- The two redirects to a URL, with their status code. -/
def handleURLRedirect (text : GoText) (kind : Annotation) (value : String)
    (statusCode : Int) : Handled :=
  if value = "" then warn (emptyValueWarning text kind)
  else
    match text.parseURL value with
    | .error error =>
        warn ("annotation " ++ text.quote kind.key ++ " has invalid URL " ++
          text.quote value ++ ": " ++ error)
    | .ok parsedURL => { filters := [createURLRedirectFilter parsedURL statusCode] }

def handlePermanentRedirect (text : GoText) (value : String) (annotations : StringMap) :
    Handled :=
  handleURLRedirect text .permanentRedirect value
    (match atoi (annotationValue annotations .permanentRedirectCode) with
    | some code => if isValidRedirectCode code then code else 301
    | none => 301)

def handleTemporalRedirect (text : GoText) (value : String) : Handled :=
  handleURLRedirect text .temporalRedirect value 302

end Redirects

section Rewrites

def containsCaptureGroup : List Char → Bool
  | '$' :: digit :: rest => digit.isDigit || containsCaptureGroup (digit :: rest)
  | _ :: rest => containsCaptureGroup rest
  | [] => false

/-- The loop of `stripCaptureGroups`; `skipping` while it skips the digits of a group. -/
def dropCaptureGroups : Bool → List Char → List Char
  | _, [] => []
  | skipping, char :: rest =>
      if skipping && char.isDigit then dropCaptureGroups true rest
      else if decide (char = '$') && rest.head?.any Char.isDigit then dropCaptureGroups true rest
      else char :: dropCaptureGroups false rest

def stripCaptureGroups (value : String) : String :=
  let stripped := String.ofList (dropCaptureGroups false value.toList)
  if stripped = "" then "/" else stripped

def handleRewriteTarget (text : GoText) (value : String) (annotations : StringMap) : Handled :=
  if value = "" then warn (emptyValueWarning text .rewriteTarget)
  else
    let groups := containsCaptureGroup value.toList
    let groupWarnings :=
      if groups then
        ["annotation " ++ text.quote Annotation.rewriteTarget.key ++ " uses capture groups (" ++
          value ++ ") which require regex path matching; converted to simple prefix replacement"]
      else []
    let target := if groups then stripCaptureGroups value else value
    if annotationValue annotations .useRegex = "true" then
      { warnings := groupWarnings ++ ["rewrite-target=" ++ text.quote target ++
          " with use-regex=true cannot be converted; Gateway API ReplacePrefixMatch " ++
          "requires PathPrefix path type, not RegularExpression"] }
    else
      { filters := [
          { type := .urlRewrite
            urlRewrite := some { path := some (.replacePrefixMatch target) } }]
        warnings := groupWarnings }

def handleAppRoot (text : GoText) (value : String) : Handled :=
  if value = "" then warn (emptyValueWarning text .appRoot)
  else
    let root := if value.toList.head? = some '/' then value else "/" ++ value
    warn ("app-root=" ++ text.quote root ++
      " requires manual HTTPRoute: create separate rule with path=\"/\" (Exact) " ++
      "and RequestRedirect filter to " ++ text.quote root ++
      "; cannot auto-convert as filter would apply to all paths")

end Rewrites

section Headers

/-- One round of `parseHeaderList`: a header, a warning, or nothing. -/
def parseHeader (text : GoText) (pair : String) : Except String HTTPHeader :=
  match pair.toList.span (· ≠ ':') with
  | (_, []) => .error ("invalid header format " ++ text.quote pair ++ ", expected 'Name:Value'")
  | (before, _ :: after) =>
      let name := String.ofList (trimSpace before)
      if name = "" then .error ("empty header name in " ++ text.quote pair)
      else .ok { name := name, value := String.ofList (trimSpace after) }

def parseHeaderList (text : GoText) (value : String) : List HTTPHeader × List String :=
  let parsed := (parseStringList value).map (parseHeader text)
  (parsed.filterMap (fun | .ok header => some header | .error _ => none),
    parsed.filterMap (fun | .ok _ => none | .error warning => some warning))

/-- The two annotations with a list of headers; a reference to a ConfigMap is not
followed. -/
def handleHeaderList (text : GoText) (kind : Annotation) (value : String)
    (filter : List HTTPHeader → HTTPRouteFilter) : Handled :=
  if value = "" then {}
  else if '/' ∈ value.toList ∧ ':' ∉ value.toList then
    warn (kind.name ++ " references ConfigMap " ++ text.quote value ++
      "; manual conversion required")
  else
    let parsed := parseHeaderList text value
    { filters := if parsed.1 = [] then [] else [filter parsed.1]
      warnings := parsed.2 }

def handleProxySetHeaders (text : GoText) (value : String) : Handled :=
  handleHeaderList text .proxySetHeaders value (fun headers =>
    { type := .requestHeaderModifier, requestHeaderModifier := some { set := headers } })

def handleCustomHeaders (text : GoText) (value : String) : Handled :=
  handleHeaderList text .customHeaders value (fun headers =>
    { type := .responseHeaderModifier, responseHeaderModifier := some { add := headers } })

/-- The annotations that set one request header to their value. -/
def handleRequestHeader (header value : String) : Handled :=
  whenSet value { filters := [
    { type := .requestHeaderModifier
      requestHeaderModifier := some { set := [{ name := header, value := value }] } }] }

def handleUpstreamVhost (value : String) : Handled := handleRequestHeader "Host" value

def handleXForwardedPrefix (value : String) : Handled :=
  handleRequestHeader "X-Forwarded-Prefix" value

def handlePreserveHost (value : String) : Handled :=
  if value ≠ "false" then {}
  else warn ("preserve-host=false requires URLRewrite filter with Hostname at backend level; " ++
    "add filter to BackendRef: filters: [\x7btype: URLRewrite, urlRewrite: " ++
    "\x7bhostname: <service-name>\x7d\x7d]")

def buildHSTSHeaderValue (annotations : StringMap) : String :=
  let given := annotationValue annotations .hstsMaxAge
  "max-age=" ++ (if given ≠ "" then given else "31536000") ++
    (if annotationValue annotations .hstsIncludeSubdomains = "true" then "; includeSubDomains"
      else "") ++
    (if annotationValue annotations .hstsPreload = "true" then "; preload" else "")

def handleHSTS (value : String) (annotations : StringMap) : Handled :=
  whenTrue value { filters := [
    { type := .responseHeaderModifier
      responseHeaderModifier := some
        { set := [
            { name := "Strict-Transport-Security"
              value := buildHSTSHeaderValue annotations }] } }] }

end Headers

section Policies

/-- The settings of a group of annotations: those that are set, else `enabled`. -/
def describeSettings (settings : List (String × String)) : String :=
  let given := settings.filterMap (fun setting => if setting.1 = "" then none else some setting.2)
  if given = [] then "enabled" else joinComma given

/-- The handlers that suggest a policy field for a value. -/
def suggest (kind : Annotation) (shown value suggestion : String) : Handled :=
  whenSet value (warn (kind.name ++ "=" ++ shown ++ " requires " ++ suggestion))

/-- `handleProxyConnectTimeout`, `handleProxyReadTimeout`, `handleProxySendTimeout`. -/
def handleTimeout (text : GoText) (kind : Annotation) (value field : String) : Handled :=
  suggest kind (text.quote value) value
    ("BackendTrafficPolicy: spec.timeout." ++ field ++ "=" ++ parseDuration value)

def handleEnableCORS (text : GoText) (value : String) (annotations : StringMap) : Handled :=
  let listed (kind : Annotation) (field : String) : String × String :=
    let given := annotationValue annotations kind
    (given, field ++ ": [" ++ formatStringList text given ++ "]")
  let maxAge := annotationValue annotations .corsMaxAge
  let credentials := annotationValue annotations .corsAllowCredentials
  whenTrue value (warn ("enable-cors=true requires SecurityPolicy: spec.cors=\x7b" ++
    describeSettings [
      listed .corsAllowOrigin "allowOrigins",
      listed .corsAllowMethods "allowMethods",
      listed .corsAllowHeaders "allowHeaders",
      listed .corsExposeHeaders "exposeHeaders",
      (maxAge, "maxAge: " ++ maxAge),
      (if credentials = "true" then "true" else "", "allowCredentials: true")] ++ "\x7d"))

/-- `handleLimitRPS`, `handleLimitRPM`, `handleLimitConnections`. -/
def handleLimit (text : GoText) (kind : Annotation) (value field unit : String) : Handled :=
  whenSet value
    (match atoi value with
    | none => warn (kind.name ++ "=" ++ text.quote value ++ " is not a valid number")
    | some number =>
        warn (kind.name ++ "=" ++ toString number ++
          " requires BackendTrafficPolicy: spec." ++ field ++ "=" ++ toString number ++ unit))

/-- `handleWhitelistSourceRange` and `handleDenylistSourceRange`. -/
def handleSourceRange (text : GoText) (kind : Annotation) (value action : String) :
    Handled :=
  suggest kind (text.quote value) value
    ("SecurityPolicy: spec.authorization.rules[].action=" ++ action ++
      ", from.source.cidr=[" ++ formatStringList text value ++ "]")

def handleAffinity (text : GoText) (value : String) (annotations : StringMap) : Handled :=
  let cookieName := annotationValue annotations .sessionCookieName
  let path := annotationValue annotations .sessionCookiePath
  let expires := annotationValue annotations .sessionCookieExpires
  let sameSite := annotationValue annotations .sessionCookieSameSite
  whenSet value
    (if value ≠ "cookie" then
      warn ("affinity=" ++ text.quote value ++
        " is not supported; only 'cookie' affinity can be converted")
    else
      warn ("affinity=cookie requires BackendTrafficPolicy: " ++
        "spec.sessionPersistence.type=Cookie, cookie=\x7b" ++
        describeSettings [
          (cookieName, "name=" ++ text.quote cookieName), (path, "path=" ++ text.quote path),
          (expires, "ttl=" ++ expires), (sameSite, "sameSite=" ++ sameSite)] ++ "\x7d"))

/-- `handleAuthType`, and `handleAuthTypeSilent` when the policy is created anyway. -/
def handleAuthType (text : GoText) (silent : Bool) (value : String) (annotations : StringMap) :
    Handled :=
  let secret := annotationValue annotations .authSecret
  let realm := annotationValue annotations .authRealm
  if value = "" then {}
  else if value = "basic" then
    if silent then {}
    else warn ("auth-type=basic requires SecurityPolicy: spec.basicAuth=\x7b" ++
      describeSettings [
        (secret, "secretRef=" ++ text.quote secret), (realm, "realm=" ++ text.quote realm)] ++
      "\x7d")
  else if value = "digest" then
    warn ("auth-type=digest is not supported in Gateway API; " ++
      "consider using basic auth or external auth")
  else warn ("auth-type=" ++ text.quote value ++ " is not supported")

def handleBackendProtocol (text : GoText) (value : String) : Handled :=
  let protocol := text.toUpper value
  if value = "" then {}
  else if protocol = "GRPC" ∨ protocol = "GRPCS" then
    warn ("backend-protocol=" ++ protocol ++
      " indicates this Ingress should be converted to GRPCRoute instead of HTTPRoute")
  else if protocol = "HTTPS" then
    warn "backend-protocol=HTTPS requires BackendTLSPolicy to configure TLS to the backend"
  else if protocol = "HTTP" then {}
  else if protocol = "FCGI" then
    warn "backend-protocol=FCGI is not supported in Gateway API"
  else warn ("backend-protocol=" ++ text.quote protocol ++ " is not recognized")

def handleCanaryEnabled (value : String) (annotations : StringMap) : Handled :=
  let weight := annotationValue annotations .canaryWeight
  let total := annotationValue annotations .canaryWeightTotal
  let header := annotationValue annotations .canaryByHeader
  let headerValue := annotationValue annotations .canaryByHeaderValue
  let cookie := annotationValue annotations .canaryByCookie
  let config :=
    (if weight = "" then []
      else ["weight=" ++ weight] ++ (if total = "" then [] else ["total=" ++ total])) ++
    (if header = "" then []
      else if headerValue = "" then ["header=" ++ header]
      else ["header=" ++ header ++ ":" ++ headerValue]) ++
    (if cookie = "" then [] else ["cookie=" ++ cookie])
  whenTrue value
    (if config = [] then
      warn "canary ingresses should be converted to weighted HTTPRoute backends"
    else
      warn ("canary ingress with \x7b" ++ joinComma config ++
        "\x7d should be converted to HTTPRoute with weighted backends or header matches"))

end Policies

/-! ## The converter -/

/-- The registered handlers. With `skipPolicyWarnings` the annotations that become
policies are acknowledged in silence. -/
def Annotation.handle (text : GoText) (skipPolicyWarnings : Bool) (kind : Annotation)
    (value : String) (annotations : StringMap) : Handled :=
  let unlessSkipped (handled : Handled) : Handled := if skipPolicyWarnings then {} else handled
  match kind with
  | sslRedirect => handleSSLRedirect value annotations
  | forceSSLRedirect => handleForceSSLRedirect value
  | permanentRedirect => handlePermanentRedirect text value annotations
  | temporalRedirect => handleTemporalRedirect text value
  | rewriteTarget => handleRewriteTarget text value annotations
  | appRoot => handleAppRoot text value
  | useRegex => whenTrue value (warn ("use-regex=true converted to pathType: RegularExpression " ++
      "(support is implementation-specific)"))
  | customHeaders => handleCustomHeaders text value
  | proxySetHeaders => handleProxySetHeaders text value
  | upstreamVhost => handleUpstreamVhost value
  | xForwardedPrefix => handleXForwardedPrefix value
  | preserveHost => handlePreserveHost value
  | hsts => handleHSTS value annotations
  | proxyConnectTimeout =>
      unlessSkipped (handleTimeout text .proxyConnectTimeout value "tcp.connectTimeout")
  | proxyReadTimeout =>
      unlessSkipped (handleTimeout text .proxyReadTimeout value "http.requestTimeout")
  | proxySendTimeout =>
      unlessSkipped (handleTimeout text .proxySendTimeout value "http.requestTimeout")
  | enableCORS => unlessSkipped (handleEnableCORS text value annotations)
  | limitRPS =>
      unlessSkipped (handleLimit text .limitRPS value "rateLimit.local.requests" ", unit=Second")
  | limitRPM =>
      unlessSkipped (handleLimit text .limitRPM value "rateLimit.local.requests" ", unit=Minute")
  | limitConnections =>
      unlessSkipped (handleLimit text .limitConnections value "circuitBreaker.maxConnections" "")
  | whitelistSourceRange =>
      unlessSkipped (handleSourceRange text .whitelistSourceRange value "Allow")
  | denylistSourceRange =>
      unlessSkipped (handleSourceRange text .denylistSourceRange value "Deny")
  | proxyBodySize => suggest .proxyBodySize (text.quote value) value
      ("ClientTrafficPolicy: spec.clientConfig.requestBodySize=" ++ value)
  | affinity => handleAffinity text value annotations
  | authType => handleAuthType text skipPolicyWarnings value annotations
  | authURL => suggest .authURL (text.quote value) value
      ("SecurityPolicy: spec.extAuth.http.url=" ++ text.quote value)
  | backendProtocol => handleBackendProtocol text value
  | canary => handleCanaryEnabled value annotations
  | sslPassthrough => whenTrue value
      (warn ("ssl-passthrough=true requires TLSRoute instead of HTTPRoute; create a TLSRoute " ++
        "with passthrough mode to forward encrypted traffic directly to backend"))
  | proxySSLSecret => suggest .proxySSLSecret (text.quote value) value
      ("BackendTLSPolicy: spec.tls.clientCertificateRef.name=" ++ value)
  | proxySSLVerify => suggest .proxySSLVerify (text.quote value) value
      "BackendTLSPolicy: configure spec.validation for server certificate verification"
  | proxySSLName => suggest .proxySSLName (text.quote value) value
      ("BackendTLSPolicy: spec.validation.hostname=" ++ value)
  | proxySSLServerName =>
      if value = "off" then {}
      else suggest .proxySSLServerName (text.quote value) value
        "BackendTLSPolicy: configure SNI through spec.validation.hostname"
  | serverSnippet | configurationSnippet | streamSnippet | enableModSecurity
  | enableOWASPCoreRules | upstreamHashBy =>
      warn ("annotation " ++ text.quote kind.key ++
        " is not supported in Gateway API conversion")
  -- read by the handler of another annotation
  | permanentRedirectCode | hstsMaxAge | hstsIncludeSubdomains | hstsPreload
  | corsAllowOrigin | corsAllowMethods | corsAllowHeaders | corsExposeHeaders
  | corsAllowCredentials | corsMaxAge
  | sessionCookieName | sessionCookiePath | sessionCookieExpires | sessionCookieSameSite
  | authSecret | authRealm
  | canaryWeight | canaryWeightTotal | canaryByHeader | canaryByHeaderValue
  | canaryByCookie => {}

/-- `deduplicateFilters`: of each type the last filter stays. -/
def deduplicateFilters : List HTTPRouteFilter → List HTTPRouteFilter
  | [] => []
  | filter :: rest =>
      if rest.any (fun later => later.type = filter.type) then deduplicateFilters rest
      else filter :: deduplicateFilters rest

structure AnnotationConversionResult where
  filters : List HTTPRouteFilter := []
  warnings : List String := []
  processed : List String := []
  deriving DecidableEq

/-- The keys with a handler in the order of processing. -/
def handledKeys (annotations : StringMap) : List (String × Annotation) :=
  (GoMap.sortedKeys annotations).filterMap (fun key =>
    Option.map (fun kind => (key, kind)) <| Annotation.ofKey key)

/-- `Convert`. -/
def convertAnnotations (text : GoText) (skipPolicyWarnings : Bool) (annotations : StringMap) :
    AnnotationConversionResult :=
  let keys := handledKeys annotations
  let handled := keys.map (fun entry =>
    entry.2.handle text skipPolicyWarnings (annotations.get entry.1) annotations)
  { filters := deduplicateFilters (handled.flatMap Handled.filters)
    warnings := handled.flatMap Handled.warnings
    processed := keys.map Prod.fst }

end KubeLB.Conversion
