import KubeLB.Api.Networking
import KubeLB.Controllers.Cluster
import KubeLB.Conversion.Annotations
import KubeLB.Library.Sha256
import KubeLB.Library.Slices

/-!
Contract: the conversion of an Ingress into routes and listeners of the Gateway API.

Owns: `ConvertIngressWithServices` with the rules of an HTTPRoute and a GRPCRoute, the
resolution of ports, the grouping of hosts by the signature of their rules, the names
of the routes and the TLS listeners.

Does not own: how rules are written as JSON, which comes as a parameter, and the
order in which Go visits a map.
-/

set_option autoImplicit false

namespace KubeLB.Conversion

open KubeLB.Library KubeLB.Core KubeLB.Networking KubeLB.GatewayApi KubeLB.Controllers

/-! ## Input and result -/

structure Input where
  ingress : Ingress
  gatewayName : String
  gatewayNamespace : String
  /-- The map of Services, or nil. -/
  services : Option (GoMap ObjectKey Service) := none
  domainReplace : String := ""
  domainSuffix : String := ""
  skipPolicyWarnings : Bool := false

structure TLSListener where
  hostname : String
  secretName : String
  sourceSecretNamespace : String
  sourceSecretName : String
  deriving DecidableEq, Repr

/-- `Result`. -/
structure ConversionResult where
  httpRoutes : List HTTPRoute := []
  grpcRoutes : List GRPCRoute := []
  tlsListeners : List TLSListener := []
  warnings : List String := []
  processedAnnotations : List String := []

/-- What a run of the conversion takes from its surroundings. -/
structure Surroundings where
  text : GoText
  /-- `json.Marshal`; `none` is an error. -/
  marshalHTTP : List HTTPRouteRule → Option (List UInt8)
  marshalGRPC : List GRPCRouteRule → Option (List UInt8)
  order : GoMap.RangeOrder String

/-! ## Hosts and backends -/

def transformHostname (host replace suffix : String) : String :=
  if replace = "" ∨ suffix = "" then host
  else
    let parts : List Char × List Char :=
      match host.toList with
      | '*' :: '.' :: rest => (['*', '.'], rest)
      | rest => ([], rest)
    if parts.2 = replace.toList then String.ofList (parts.1 ++ suffix.toList)
    else if '.' :: replace.toList <:+ parts.2 then
      String.ofList (parts.1 ++ parts.2.take (parts.2.length - (replace.toList.length + 1)) ++
        '.' :: suffix.toList)
    else host

def findPortByName (svc : Service) (portName : String) : Option Int32 :=
  (svc.spec.ports.find? (fun port => port.name = portName)).map (·.port)

/-- The ends of warnings that differ between the two kinds of routes. -/
structure PortWarnings where
  checkRange : Bool
  unresolved : String
  unspecified : String

def httpPortWarnings : PortWarnings where
  checkRange := true
  unresolved := " which cannot be resolved; specify port number instead"
  unspecified := " has no port specified; Gateway API requires explicit port"

def grpcPortWarnings : PortWarnings where
  checkRange := false
  unresolved := " which cannot be resolved"
  unspecified := " has no port specified"

/-- The port switch of `convertServiceBackendWithLookup` and
`convertServiceBackendToGRPC`. -/
def resolvePort (text : GoText) (texts : PortWarnings) (svc : IngressServiceBackend) (ns : String)
    (services : Option (GoMap ObjectKey Service)) : Option Int32 × List String :=
  let named := "service " ++ text.quote svc.name
  let notFound := (none, [named ++ " not found for port resolution"])
  if svc.port.number ≠ 0 then
    (some svc.port.number,
      if texts.checkRange ∧ (svc.port.number < 1 ∨ 65535 < svc.port.number) then
        [named ++ " has invalid port number " ++ toString svc.port.number ++
          " (must be 1-65535)"]
      else [])
  else if svc.port.name ≠ "" then
    match services with
    | none => (none, [named ++ " uses named port " ++ text.quote svc.port.name ++ texts.unresolved])
    | some services =>
        match services.lookup ⟨ns, svc.name⟩ with
        | none => notFound
        | some service =>
            match findPortByName service svc.port.name with
            | some port => (some port, [])
            | none => (none, [named ++ " has no port named " ++ text.quote svc.port.name])
  else
    match services with
    | none => (none, [named ++ texts.unspecified])
    | some services =>
        match services.lookup ⟨ns, svc.name⟩ with
        | none => notFound
        | some service =>
            match service.spec.ports with
            | [port] => (some port.port, [])
            | [] => (none, [named ++ " has no ports defined"])
            | _ => (none, [named ++ " has multiple ports; specify port explicitly"])

/-- The reference that both kinds of routes make of a Service backend. -/
def convertServiceBackend (φ : Type) (text : GoText) (texts : PortWarnings)
    (svc : IngressServiceBackend) (ns : String) (services : Option (GoMap ObjectKey Service)) :
    RouteBackendRef φ × List String :=
  let port := resolvePort text texts svc ns services
  ({ name := svc.name, port := port.1 }, port.2)

def resourceWarning (text : GoText) (resource : String) : String :=
  "resource backend " ++ text.quote resource ++
    " not supported; only Service backends are converted"

/-- The backend of a path, for either kind of routes. -/
def convertPathBackend (φ : Type) (text : GoText) (texts : PortWarnings)
    (backend : IngressBackend) (ns : String) (services : Option (GoMap ObjectKey Service)) :
    List (RouteBackendRef φ) × List String :=
  match backend.service, backend.resource with
  | some svc, _ =>
      let converted := convertServiceBackend φ text texts svc ns services
      ([converted.1], converted.2)
  | none, some resource => ([], [resourceWarning text resource])
  | none, none => ([], [])

/-- The reference of a default backend, or the warning in its place. -/
def convertDefaultReference (φ : Type) (text : GoText) (texts : PortWarnings)
    (backend : IngressBackend) (ns : String) (services : Option (GoMap ObjectKey Service)) :
    Option (RouteBackendRef φ) × List String :=
  match backend.service, backend.resource with
  | some svc, _ =>
      let converted := convertServiceBackend φ text texts svc ns services
      (some converted.1, converted.2)
  | none, some resource =>
      (none, ["default backend uses resource " ++ text.quote resource ++ " which is not supported"])
  | none, none => (none, ["default backend has no service reference"])

/-! ## Rules -/

def convertPathType (pathType : Option PathType) : PathMatchType :=
  if pathType = some .exact then .exact else .pathPrefix

def convertPathTypeWithRegex (pathType : Option PathType) (useRegex : Bool) : PathMatchType :=
  if useRegex then .regularExpression else convertPathType pathType

section Rules

variable (text : GoText) (ns : String) (services : Option (GoMap ObjectKey Service))

/-- `convertPathWithServices`. An empty path is a match without a path. -/
def convertPathWithServices (useRegex : Bool) (path : HTTPIngressPath) :
    HTTPRouteRule × List String :=
  let pathMatch : Option HTTPPathMatch :=
    if path.path = "" then none
    else some
      { type := some (convertPathTypeWithRegex path.pathType useRegex), value := some path.path }
  let typeWarnings :=
    if path.path ≠ "" ∧ path.pathType = some .implementationSpecific ∧ useRegex = false then
      ["path " ++ text.quote path.path ++
        " uses ImplementationSpecific type, converted to PathPrefix"]
    else []
  let backend := convertPathBackend HTTPRouteFilter text httpPortWarnings path.backend ns services
  ({ «matches» := [{ path := pathMatch }], backendRefs := backend.1 }, typeWarnings ++ backend.2)

/-- `convertPathToGRPCRule`. The path is dropped. -/
def convertPathToGRPCRule (path : HTTPIngressPath) : GRPCRouteRule × List String :=
  let pathWarnings :=
    if path.path ≠ "" ∧ path.path ≠ "/" then
      ["path " ++ text.quote path.path ++ " will be ignored for GRPCRoute; " ++
        "use service/method matching in GRPCRoute spec if needed"]
    else []
  let backend := convertPathBackend GRPCRouteFilter text grpcPortWarnings path.backend ns services
  ({ backendRefs := backend.1 }, pathWarnings ++ backend.2)

/-- `convertDefaultBackendWithServices`: a rule for every path. -/
def convertDefaultBackendWithServices (backend : IngressBackend) :
    Option HTTPRouteRule × List String :=
  let converted := convertDefaultReference HTTPRouteFilter text httpPortWarnings backend ns services
  (converted.1.map (fun backendRef =>
    { «matches» := [{ path := some { type := some .pathPrefix, value := some "/" } }]
      backendRefs := [backendRef] }), converted.2)

def convertDefaultBackendToGRPCRule (backend : IngressBackend) :
    Option GRPCRouteRule × List String :=
  let converted := convertDefaultReference GRPCRouteFilter text grpcPortWarnings backend ns services
  (converted.1.map (fun backendRef => { backendRefs := [backendRef] }), converted.2)

end Rules

def hasRedirectFilter (filters : List HTTPRouteFilter) : Bool :=
  filters.any (fun filter => filter.type = .requestRedirect)

/-- The filters of the annotations on a rule; a redirect takes its backends away. -/
def withFilters (filters : List HTTPRouteFilter) (rule : HTTPRouteRule) : HTTPRouteRule :=
  { rule with
    filters := rule.filters ++ filters
    backendRefs := if hasRedirectFilter filters then [] else rule.backendRefs }

/-! ## Hosts by rules -/

section Groups

variable {ρ : Type}

/-- One round of the loop over the Ingress rules: a rule without paths is tracked by
its host, each path adds its rule. -/
def addHostRules (transform : String → String) (convertPath : HTTPIngressPath → ρ)
    (hostRules : GoMap String (List ρ)) (rule : IngressRule) : GoMap String (List ρ) :=
  let host := transform rule.host
  match rule.http with
  | none =>
      if host = "" ∨ (hostRules.lookup host).isSome then hostRules else hostRules.insert host []
  | some paths => paths.foldl (fun hostRules path =>
      hostRules.insert host ((hostRules.lookup host).getD [] ++ [convertPath path])) hostRules

def collectHostRules (transform : String → String) (convertPath : HTTPIngressPath → ρ)
    (rules : List IngressRule) : GoMap String (List ρ) :=
  rules.foldl (addHostRules transform convertPath) ∅

/-- `hostRuleGroup` and `grpcHostRuleGroup`. -/
structure HostRuleGroup (ρ : Type) where
  hosts : List String
  rules : List ρ

/-- `rulesSignature` and `grpcRulesSignature`, with the text of the fallback. -/
def rulesSignature (marshal : List ρ → Option (List UInt8)) (fallback : String)
    (rules : List ρ) : String :=
  match marshal rules with
  | none => fallback ++ toString rules.length
  | some data => Sha256.hexDigest data

/-- The maps `signatureToHosts` and `signatureToRules` after the loop over the hosts. -/
def indexSignatures (signature : List ρ → String) (defaultRule : Option ρ)
    (entries : List (String × List ρ)) : GoMap String (List String) × GoMap String (List ρ) :=
  entries.foldl (fun indexed entry =>
    let finalRules := entry.2 ++ defaultRule.toList
    let sig := signature finalRules
    (indexed.1.insert sig ((indexed.1.lookup sig).getD [] ++ [entry.1]),
      indexed.2.insert sig finalRules)) (∅, ∅)

/-- The groups of one signature: the empty host is kept apart from the others. -/
def splitNoHost (hosts : List String) (rules : List ρ) : List (HostRuleGroup ρ) :=
  let sorted := hosts.insertionSort (· ≤ ·)
  let actualHosts := sorted.filter (· ≠ "")
  if "" ∈ sorted ∧ actualHosts ≠ [] then [⟨[""], rules⟩, ⟨actualHosts, rules⟩]
  else [⟨sorted, rules⟩]

/-- `groupHostsByRules` and `groupGRPCHostsByRules`. -/
def groupHostsByRules (signature : List ρ → String) (order : GoMap.RangeOrder String)
    (hostRules : GoMap String (List ρ)) (defaultRule : Option ρ) : List (HostRuleGroup ρ) :=
  let indexed := indexSignatures signature defaultRule (hostRules.rangeBy order)
  (GoMap.sortedKeys indexed.1).flatMap (fun sig =>
    splitNoHost ((indexed.1.lookup sig).getD []) ((indexed.2.lookup sig).getD []))

/-- `generateRouteName` and `generateGRPCRouteName`. -/
def generateRouteName (ingressName : String) (index totalGroups : Nat) : String :=
  if totalGroups = 1 then ingressName else ingressName ++ "-" ++ toString (index + 1)

/-- The routes of the groups, or the one of the default rule when there is no group:
their names, hostnames and rules. -/
def routesOfGroups (ingressName : String) (groups : List (HostRuleGroup ρ))
    (defaultRule : Option ρ) : List (String × List String × List ρ) :=
  let grouped := groups.zipIdx.map (fun (group, index) =>
    (generateRouteName ingressName index groups.length,
      if group.hosts.head? = some "" then [] else group.hosts, group.rules))
  match groups, defaultRule with
  | [], some rule => [(ingressName, [], [rule])]
  | _, _ => grouped

end Groups

/-! ## Routes -/

def ingressPaths (rules : List IngressRule) : List HTTPIngressPath :=
  rules.flatMap (fun rule => rule.http.getD [])

def routeMetadata (ingress : Ingress) (name : String) : ObjectMeta where
  name := name
  ns := ingress.metadata.ns
  labels := ingress.metadata.labels

def useRegex (annotations : StringMap) : Bool :=
  decide (annotationValue annotations .useRegex = "true")

section Routes

variable (surroundings : Surroundings) (input : Input)

/-- The rule of a path with the filters of the annotations. -/
def convertPath (filters : List HTTPRouteFilter) (path : HTTPIngressPath) : HTTPRouteRule :=
  withFilters filters (convertPathWithServices surroundings.text input.ingress.metadata.ns
    input.services (useRegex input.ingress.metadata.annotations) path).1

/-- The rule of the default backend with the filters of the annotations. -/
def defaultHTTPRule (filters : List HTTPRouteFilter) : Option HTTPRouteRule :=
  input.ingress.spec.defaultBackend.bind (fun backend =>
    (convertDefaultBackendWithServices surroundings.text input.ingress.metadata.ns input.services
      backend).1.map (withFilters filters))

def convertToHTTPRoutes (parentRef : ParentReference) (filters : List HTTPRouteFilter) :
    List HTTPRoute × List String :=
  let ingress := input.ingress
  let transform host := transformHostname host input.domainReplace input.domainSuffix
  let hostRules := collectHostRules transform (convertPath surroundings input filters)
    ingress.spec.rules
  let defaultRule := defaultHTTPRule surroundings input filters
  let ruleGroups := groupHostsByRules (rulesSignature surroundings.marshalHTTP "rules-")
    surroundings.order hostRules defaultRule
  let routes := routesOfGroups ingress.metadata.name ruleGroups defaultRule
  let ruleWarnings := (ingressPaths ingress.spec.rules).flatMap (fun path =>
    (convertPathWithServices surroundings.text ingress.metadata.ns input.services
      (useRegex ingress.metadata.annotations) path).2)
  let defaultWarnings := ingress.spec.defaultBackend.toList.flatMap (fun backend =>
    (convertDefaultBackendWithServices surroundings.text ingress.metadata.ns input.services
      backend).2)
  (routes.map (fun (name, hostnames, rules) =>
    { metadata := routeMetadata ingress name
      spec := { parentRefs := [parentRef], hostnames := hostnames, rules := rules } }),
    ruleWarnings ++ defaultWarnings)

def convertToGRPCRoutes (parentRef : ParentReference) : List GRPCRoute × List String :=
  let ingress := input.ingress
  let transform host := transformHostname host input.domainReplace input.domainSuffix
  let convert path :=
    convertPathToGRPCRule surroundings.text ingress.metadata.ns input.services path
  let hostRules := collectHostRules transform (fun path => (convert path).1) ingress.spec.rules
  let convertedDefault := ingress.spec.defaultBackend.map (fun backend =>
    convertDefaultBackendToGRPCRule surroundings.text ingress.metadata.ns input.services backend)
  let defaultRule := convertedDefault.bind Prod.fst
  let ruleGroups := groupHostsByRules (rulesSignature surroundings.marshalGRPC "grpc-rules-")
    surroundings.order hostRules defaultRule
  let routes := routesOfGroups ingress.metadata.name ruleGroups defaultRule
  (routes.map (fun (name, hostnames, rules) =>
    { metadata := routeMetadata ingress name
      spec := { parentRefs := [parentRef], hostnames := hostnames, rules := rules } }),
    (ingressPaths ingress.spec.rules).flatMap (fun path => (convert path).2) ++
      convertedDefault.toList.flatMap Prod.snd)

end Routes

/-! ## The conversion -/

/-- `convertTLSConfig`: the listeners. A section without hosts stands for every host. -/
def convertTLSConfig (tlsConfigs : List IngressTLS) (ns domainReplace domainSuffix : String) :
    List TLSListener :=
  tlsConfigs.flatMap (fun tls =>
    let listener hostname : TLSListener :=
      { hostname := hostname, secretName := tls.secretName
        sourceSecretNamespace := ns, sourceSecretName := tls.secretName }
    tls.hosts.map (fun host => listener (transformHostname host domainReplace domainSuffix)) ++
      (if tls.hosts = [] ∧ tls.secretName ≠ "" then [listener "*"] else []))

/-- The warnings of `convertTLSConfig`. The verb `%v` prints the hosts in brackets. -/
def tlsWarnings (tlsConfigs : List IngressTLS) : List String :=
  tlsConfigs.filterMap (fun tls =>
    if tls.hosts ≠ [] ∧ tls.secretName = "" then
      some ("TLS config has hosts [" ++ " ".intercalate tls.hosts ++
        "] but no secretName; Gateway will need manual certificate configuration or cert-manager")
    else none)

def buildParentRef (gatewayName gatewayNamespace routeNamespace : String) : ParentReference where
  name := gatewayName
  ns := if gatewayNamespace ≠ "" ∧ gatewayNamespace ≠ routeNamespace then some gatewayNamespace
    else none

def isGRPCIngress (text : GoText) (ingress : Ingress) : Bool :=
  let protocol := text.toUpper (annotationValue ingress.metadata.annotations .backendProtocol)
  decide (protocol = "GRPC" ∨ protocol = "GRPCS")

def convertIngressWithServices (surroundings : Surroundings) (input : Input) : ConversionResult :=
  let ingress := input.ingress
  let parentRef := buildParentRef input.gatewayName input.gatewayNamespace ingress.metadata.ns
  let tlsListeners := convertTLSConfig ingress.spec.tls ingress.metadata.ns input.domainReplace
    input.domainSuffix
  let noRoutes := ["no routes generated, Ingress may be misconfigured"]
  if isGRPCIngress surroundings.text ingress then
    let converted := convertToGRPCRoutes surroundings input parentRef
    { grpcRoutes := converted.1
      tlsListeners := tlsListeners
      warnings := ["backend-protocol=GRPC detected, generating GRPCRoute " ++
          "(annotation filters not applicable to GRPCRoute)"] ++
        tlsWarnings ingress.spec.tls ++ converted.2 ++
        (if converted.1.isEmpty then noRoutes else []) }
  else
    let annotationResult := convertAnnotations surroundings.text input.skipPolicyWarnings
      ingress.metadata.annotations
    let converted := convertToHTTPRoutes surroundings input parentRef annotationResult.filters
    { httpRoutes := converted.1
      tlsListeners := tlsListeners
      warnings := annotationResult.warnings ++ tlsWarnings ingress.spec.tls ++ converted.2 ++
        (if converted.1.isEmpty then noRoutes else [])
      processedAnnotations := annotationResult.processed }

section Result

variable {surroundings : Surroundings} {input : Input}

theorem httpRoutes_of_grpc (isGRPC : isGRPCIngress surroundings.text input.ingress = true) :
    (convertIngressWithServices surroundings input).httpRoutes = [] := by
  simp only [convertIngressWithServices, isGRPC, if_true]

theorem grpcRoutes_of_grpc (isGRPC : isGRPCIngress surroundings.text input.ingress = true) :
    (convertIngressWithServices surroundings input).grpcRoutes =
      (convertToGRPCRoutes surroundings input (buildParentRef input.gatewayName
        input.gatewayNamespace input.ingress.metadata.ns)).1 := by
  simp only [convertIngressWithServices, isGRPC, if_true]

theorem httpRoutes_of_http (notGRPC : isGRPCIngress surroundings.text input.ingress = false) :
    (convertIngressWithServices surroundings input).httpRoutes =
      (convertToHTTPRoutes surroundings input (buildParentRef input.gatewayName
        input.gatewayNamespace input.ingress.metadata.ns) (convertAnnotations surroundings.text
          input.skipPolicyWarnings input.ingress.metadata.annotations).filters).1 := by
  simp only [convertIngressWithServices, notGRPC, Bool.false_eq_true, if_false]

theorem grpcRoutes_of_http (notGRPC : isGRPCIngress surroundings.text input.ingress = false) :
    (convertIngressWithServices surroundings input).grpcRoutes = [] := by
  simp only [convertIngressWithServices, notGRPC, Bool.false_eq_true, if_false]

end Result

end KubeLB.Conversion
