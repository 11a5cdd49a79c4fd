import KubeLB.Conversion.Semantics

/-!
Contract: when the HTTPRoutes of a converted Ingress answer as the Ingress does.

Owns: the Ingresses without annotations that the conversion handles, the path rules
that it makes of paths and of the default backend, and the exact requests for which
the routes and the Ingress choose the same backend.

Does not own: Ingresses with annotations, named ports and regular expressions.
-/

set_option autoImplicit false

namespace KubeLB.Conversion

open KubeLB.Library KubeLB.Core KubeLB.Networking KubeLB.GatewayApi

/-! ## Ingresses without annotations -/

def NumericBackend (backend : IngressBackend) : Prop :=
  ∃ service, backend.service = some service ∧ service.port.number ≠ 0

/-- No handled annotation, no domain replacement, Service backends on numeric ports,
and exact or prefix paths as the API server admits them: absolute, and at least one
under `http`. -/
structure Convertible (input : Input) : Prop where
  unannotated : ∀ kind : Annotation,
    input.ingress.metadata.annotations.lookup kind.key = none
  hostsKept : input.domainReplace = "" ∨ input.domainSuffix = ""
  pathType : ∀ path ∈ ingressPaths input.ingress.spec.rules,
    path.pathType = some .exact ∨ path.pathType = some .pathPrefix
  pathAbsolute : ∀ path ∈ ingressPaths input.ingress.spec.rules, path.path.toList.head? = some '/'
  pathBackend : ∀ path ∈ ingressPaths input.ingress.spec.rules, NumericBackend path.backend
  pathsGiven : ∀ rule ∈ input.ingress.spec.rules, rule.http ≠ some []
  defaultBackend : ∀ backend, input.ingress.spec.defaultBackend = some backend →
    NumericBackend backend

section Unannotated

variable {surroundings : Surroundings} {input : Input} (convertible : Convertible input)

include convertible

theorem annotationValue_of_unannotated (kind : Annotation) :
    annotationValue input.ingress.metadata.annotations kind = "" := by
  rw [annotationValue, StringMap.get, convertible.unannotated]
  rfl

theorem handledKeys_of_unannotated :
    handledKeys input.ingress.metadata.annotations = [] := by
  rw [handledKeys, List.filterMap_eq_nil_iff]
  intro key isKey
  rw [Option.map_eq_none_iff]
  cases registered : Annotation.ofKey key with
  | none => rfl
  | some kind =>
      obtain ⟨value, isValue⟩ := (GoMap.mem_sortedKeys _ _).mp isKey
      rw [← Annotation.ofKey_eq_some registered, convertible.unannotated kind] at isValue
      cases isValue

theorem convertAnnotations_of_unannotated (text : GoText) (skipPolicyWarnings : Bool) :
    (convertAnnotations text skipPolicyWarnings input.ingress.metadata.annotations).filters =
      [] := by
  simp only [convertAnnotations, handledKeys_of_unannotated convertible]
  rfl

theorem isGRPCIngress_of_unannotated (text : GoText) :
    isGRPCIngress text input.ingress = false := by
  simp only [isGRPCIngress, annotationValue_of_unannotated convertible, text.toUpper_empty]
  decide

theorem useRegex_of_unannotated : useRegex input.ingress.metadata.annotations = false := by
  rw [useRegex, annotationValue_of_unannotated convertible]
  decide

theorem httpRoutes_of_unannotated :
    (convertIngressWithServices surroundings input).httpRoutes =
      (convertToHTTPRoutes surroundings input
        (buildParentRef input.gatewayName input.gatewayNamespace input.ingress.metadata.ns)
        []).1 := by
  rw [httpRoutes_of_http (isGRPCIngress_of_unannotated convertible _),
    convertAnnotations_of_unannotated convertible]

end Unannotated

theorem transformHostname_of_kept {host replace suffix : String}
    (kept : replace = "" ∨ suffix = "") :
    transformHostname host replace suffix = host :=
  if_pos kept

/-! ## Rules of paths -/

theorem withFilters_nil (rule : HTTPRouteRule) : withFilters [] rule = rule := by
  simp [withFilters, hasRedirectFilter]

theorem convertServiceBackend_numeric {φ : Type} (text : GoText) (texts : PortWarnings)
    {service : IngressServiceBackend} (numeric : service.port.number ≠ 0) (ns : String)
    (services : Option (GoMap Controllers.ObjectKey Service)) :
    (convertServiceBackend φ text texts service ns services).1 =
      { name := service.name, port := some service.port.number } := by
  simp only [convertServiceBackend, resolvePort, if_pos numeric]

section Paths

variable {surroundings : Surroundings} {input : Input} (convertible : Convertible input)

include convertible

/-- The rule of a path matches and answers as the path does. -/
theorem httpPathRules_convertPath {path : HTTPIngressPath}
    (isPath : path ∈ ingressPaths input.ingress.spec.rules) :
    httpPathRules (convertPath surroundings input [] path) = [ingressPathRule path] := by
  obtain ⟨service, isService, numeric⟩ := convertible.pathBackend path isPath
  have nonempty : path.path ≠ "" := by
    intro empty
    have absolute := convertible.pathAbsolute path isPath
    rw [empty] at absolute
    cases absolute
  have isRule : convertPath surroundings input [] path =
      { «matches» := [{ path := some ⟨some (convertPathType path.pathType), some path.path⟩ }]
        backendRefs := [{ name := service.name, port := some service.port.number }] } := by
    simp only [convertPath, withFilters_nil, convertPathWithServices, if_neg nonempty,
      useRegex_of_unannotated convertible, convertPathBackend, isService,
      convertServiceBackend_numeric _ _ numeric, convertPathTypeWithRegex, Bool.false_eq_true,
      if_false]
  have isPattern : pathPattern
      { path := some ⟨some (convertPathType path.pathType), some path.path⟩ } =
        ingressPattern path := by
    unfold ingressPattern convertPathType
    by_cases isExact : path.pathType = some .exact <;> simp [isExact, pathPattern]
  simp only [httpPathRules, isRule, List.map_singleton, isPattern, ingressPathRule,
    ingressBackendAnswer, isService]
  rfl

variable (surroundings) in
theorem httpPathRules_default :
    (defaultHTTPRule surroundings input []).map httpPathRules =
      input.ingress.spec.defaultBackend.map (fun backend =>
        [rootRule (ingressBackendAnswer backend)]) := by
  cases isDefault : input.ingress.spec.defaultBackend with
  | none => simp [defaultHTTPRule, isDefault]
  | some backend =>
      obtain ⟨service, isService, numeric⟩ := convertible.defaultBackend backend isDefault
      simp only [defaultHTTPRule, isDefault, Option.bind_some, convertDefaultBackendWithServices,
        convertDefaultReference, isService, convertServiceBackend_numeric _ _ numeric,
        Option.map_some, withFilters_nil, ingressBackendAnswer]
      rfl

theorem flatMap_finalRules (host : String) :
    (finalRules (defaultHTTPRule surroundings input [])
      ((hostPaths id input.ingress.spec.rules host).map
        (convertPath surroundings input []))).flatMap httpPathRules =
      (hostPaths id input.ingress.spec.rules host).map ingressPathRule ++
        (input.ingress.spec.defaultBackend.map (fun backend =>
          rootRule (ingressBackendAnswer backend))).toList := by
  have ofPaths : ((hostPaths id input.ingress.spec.rules host).map
      (convertPath surroundings input [])).flatMap httpPathRules =
        (hostPaths id input.ingress.spec.rules host).map ingressPathRule := by
    rw [List.flatMap_map, List.map_eq_flatMap]
    apply List.flatMap_congr
    intro path isPath
    exact httpPathRules_convertPath convertible (mem_ingressPaths_of_hostPaths isPath)
  have ofDefault : (defaultHTTPRule surroundings input []).toList.flatMap httpPathRules =
      (input.ingress.spec.defaultBackend.map (fun backend =>
        rootRule (ingressBackendAnswer backend))).toList := by
    have mapped := httpPathRules_default surroundings convertible
    cases isRule : defaultHTTPRule surroundings input [] <;>
      cases isDefault : input.ingress.spec.defaultBackend <;> simp_all
  rw [finalRules, List.flatMap_append, ofPaths, ofDefault]

/-- The rules of a host with the default rule answer as its paths, else as the default
backend. -/
theorem choosePath_finalRules (expressions : Expressions) (host : String) (request : Request) :
    choosePath expressions ((finalRules (defaultHTTPRule surroundings input [])
      ((hostPaths id input.ingress.spec.rules host).map
        (convertPath surroundings input []))).flatMap httpPathRules) request.path =
      (choosePath expressions ((hostPaths id input.ingress.spec.rules host).map ingressPathRule)
        request.path).or (input.ingress.spec.defaultBackend.map ingressBackendAnswer) := by
  rw [flatMap_finalRules convertible]
  cases input.ingress.spec.defaultBackend with
  | none => simp
  | some backend =>
      apply choosePath_append_rootRule request.absolute
      intro rule isRule
      obtain ⟨path, isPath, rfl⟩ := List.mem_map.mp isRule
      have absolute := convertible.pathAbsolute path (mem_ingressPaths_of_hostPaths isPath)
      unfold ingressPathRule ingressPattern
      split
      · exact le_top
      · simp only [PathPattern.rank, WithTop.coe_le_coe]
        rw [← String.length_toList]
        exact List.length_pos_of_mem (List.mem_of_head? absolute)

end Paths

/-! ## Hosts -/

/-- The request's host has one label in front of the domain of every wildcard host. -/
def OneLabelHost (rules : List IngressRule) (host : String) : Prop :=
  ∀ rule ∈ rules, ∀ domain front, wildcardDomain rule.host = some domain →
    host.toList = front ++ '.' :: domain → '.' ∉ front

theorem hostMatches_oneLabel {rules : List IngressRule} {host : String}
    (oneLabelHost : OneLabelHost rules host) {rule : IngressRule} (isRule : rule ∈ rules) :
    hostMatches oneLabel rule.host host = hostMatches manyLabels rule.host host := by
  rw [Bool.eq_iff_iff]
  cases isWildcard : wildcardDomain rule.host with
  | none => simp only [hostMatches, isWildcard]
  | some domain =>
      rw [hostMatches_wildcard isWildcard, hostMatches_wildcard isWildcard]
      refine exists_congr (fun front => and_congr_right (fun isHost => ?_))
      have noDot := oneLabelHost rule isRule domain front isWildcard isHost
      simp [oneLabel, manyLabels, noDot]

def trackedHosts (rules : List IngressRule) : List String :=
  (rules.map IngressRule.host).filter (fun host => Tracked id rules host)

theorem mem_trackedHosts {rules : List IngressRule} {host : String} :
    host ∈ trackedHosts rules ↔ Tracked id rules host := by
  simp only [trackedHosts, List.mem_filter, List.mem_map, decide_eq_true_eq,
    and_iff_right_iff_imp]
  rintro ⟨rule, isRule, isHost, -⟩
  exact ⟨rule, isRule, isHost⟩

/-- Only the empty host may be left out, when none of its rules has paths. -/
theorem eq_empty_of_not_tracked {rules : List IngressRule}
    (pathsGiven : ∀ rule ∈ rules, rule.http ≠ some []) {rule : IngressRule} (isRule : rule ∈ rules)
    (notTracked : ¬ Tracked id rules rule.host) : rule.host = "" := by
  by_contra nonempty
  apply notTracked
  refine ⟨rule, isRule, rfl, ?_⟩
  cases isHTTP : rule.http with
  | none => exact Or.inl ⟨rfl, nonempty⟩
  | some paths =>
      refine Or.inr ⟨paths, rfl, ?_⟩
      rintro rfl
      exact pathsGiven rule isRule isHTTP

theorem rulesAt_ingressTables (rules : List IngressRule) (host : String) :
    rulesAt (rules.map ingressTable) host = (hostPaths id rules host).map ingressPathRule := by
  simp only [rulesAt, hostPaths, ingressPaths, List.filter_map, List.flatMap_map,
    List.map_flatMap]
  have sameFilter : rules.filter ((fun table => decide (host ∈ table.hosts)) ∘ ingressTable) =
      rules.filter (fun rule => decide (id rule.host = host)) := by
    apply List.filter_congr
    intro rule _
    simp [ingressTable, eq_comm]
  rw [sameFilter]
  rfl

section Answers

variable {surroundings : Surroundings} {input : Input} {expressions : Expressions}
  {request : Request}

theorem mostSpecific_ingress_of_tracked {rules : List IngressRule}
    (pathsGiven : ∀ rule ∈ rules, rule.http ≠ some [])
    (oneLabelHost : OneLabelHost rules request.host) {pattern : String}
    (isChosen : mostSpecific manyLabels (trackedHosts rules) request.host = some pattern) :
    mostSpecific oneLabel (rules.map IngressRule.host) request.host = some pattern := by
  rw [mostSpecific_eq_some_iff] at isChosen ⊢
  obtain ⟨isTracked, isMatch, isGreatest⟩ := isChosen
  obtain ⟨rule, isRule, rfl, -⟩ := mem_trackedHosts.mp isTracked
  refine ⟨List.mem_map_of_mem isRule, ?_, fun other isOther otherMatch => ?_⟩
  · rw [id_eq, hostMatches_oneLabel oneLabelHost isRule]
    exact isMatch
  · obtain ⟨otherRule, isOtherRule, rfl⟩ := List.mem_map.mp isOther
    rw [hostMatches_oneLabel oneLabelHost isOtherRule] at otherMatch
    by_cases tracked : Tracked id rules otherRule.host
    · exact isGreatest _ (mem_trackedHosts.mpr tracked) otherMatch
    · rw [eq_empty_of_not_tracked pathsGiven isOtherRule tracked]
      exact bot_le

theorem routeRequest_ingress_of_untracked {rules : List IngressRule}
    (oneLabelHost : OneLabelHost rules request.host)
    (noHost : mostSpecific manyLabels (trackedHosts rules) request.host = none) :
    routeRequest expressions oneLabel (rules.map ingressTable) request.host request.path =
      none := by
  rw [mostSpecific_eq_none_iff] at noHost
  rw [routeRequest, Option.bind_eq_none_iff]
  intro pattern isChosen
  obtain ⟨isPattern, isMatch, -⟩ := mostSpecific_eq_some_iff.mp isChosen
  simp only [List.mem_flatMap, List.mem_map, exists_exists_and_eq_and, ingressTable,
    List.mem_singleton] at isPattern
  obtain ⟨rule, isRule, rfl⟩ := isPattern
  rw [hostMatches_oneLabel oneLabelHost isRule] at isMatch
  have notTracked : ¬ Tracked id rules rule.host :=
    fun tracked => noHost _ (mem_trackedHosts.mpr tracked) isMatch
  rw [rulesAt_ingressTables, hostPaths_of_not_tracked notTracked]
  rfl

def ownRules (surroundings : Surroundings) (input : Input) (host : String) :
    List HTTPRouteRule :=
  (hostPaths id input.ingress.spec.rules host).map (convertPath surroundings input [])

def servedHTTPRules (surroundings : Surroundings) (input : Input) (host : String) :
    Option (List HTTPRouteRule) :=
  servedRules (rulesSignature surroundings.marshalHTTP "rules-") surroundings.order
    (collectHostRules id (convertPath surroundings input []) input.ingress.spec.rules)
    (defaultHTTPRule surroundings input []) host

def plainGroups (surroundings : Surroundings) (input : Input) :
    List (HostRuleGroup HTTPRouteRule) :=
  groupHostsByRules (rulesSignature surroundings.marshalHTTP "rules-") surroundings.order
    (collectHostRules id (convertPath surroundings input []) input.ingress.spec.rules)
    (defaultHTTPRule surroundings input [])

theorem plainGroups_serve : GroupsServe (plainGroups surroundings input)
    (servedHTTPRules surroundings input) :=
  groupsServe

variable (surroundings input) in
theorem isSome_servedHTTPRules (host : String) :
    (servedHTTPRules surroundings input host).isSome ↔
      Tracked id input.ingress.spec.rules host := by
  rw [servedHTTPRules, isSome_servedRules, lookup_collectHostRules]
  by_cases tracked : Tracked id input.ingress.spec.rules host <;> simp [tracked]

theorem plainGroups_eq_nil_iff :
    plainGroups surroundings input = [] ↔ trackedHosts input.ingress.spec.rules = [] := by
  rw [plainGroups_serve.eq_nil_iff, List.eq_nil_iff_forall_not_mem]
  refine forall_congr' (fun host => ?_)
  rw [mem_trackedHosts, ← isSome_servedHTTPRules surroundings input,
    Option.not_isSome_iff_eq_none]

theorem httpTables_of_unannotated (convertible : Convertible input) :
    (convertIngressWithServices surroundings input).httpRoutes.map httpTable =
      (routesOfGroups input.ingress.metadata.name (plainGroups surroundings input)
        (defaultHTTPRule surroundings input [])).map (groupTable httpPathRules) := by
  have noTransform : (fun host => transformHostname host input.domainReplace
      input.domainSuffix) = id := by
    funext host
    exact transformHostname_of_kept convertible.hostsKept
  rw [httpRoutes_of_unannotated convertible]
  simp only [convertToHTTPRoutes, noTransform, List.map_map]
  rfl

theorem gatewayAnswer_of_tracked (convertible : Convertible input)
    (hasHosts : trackedHosts input.ingress.spec.rules ≠ []) :
    gatewayAnswer expressions (convertIngressWithServices surroundings input).httpRoutes request =
      (mostSpecific manyLabels (trackedHosts input.ingress.spec.rules) request.host).bind
        (fun host => choosePath expressions
          (((servedHTTPRules surroundings input host).getD []).flatMap httpPathRules)
          request.path) := by
  rw [gatewayAnswer, httpTables_of_unannotated convertible]
  apply routeRequest_groupTables plainGroups_serve
  · exact fun isNil => hasHosts (plainGroups_eq_nil_iff.mp isNil)
  · intro host
    rw [mem_trackedHosts, isSome_servedHTTPRules]

/-- Without any host the default backend has a route for every host. -/
theorem gatewayAnswer_of_no_host (convertible : Convertible input)
    (noHosts : trackedHosts input.ingress.spec.rules = []) :
    gatewayAnswer expressions (convertIngressWithServices surroundings input).httpRoutes request =
      input.ingress.spec.defaultBackend.map ingressBackendAnswer := by
  have noGroups : plainGroups surroundings input = [] := plainGroups_eq_nil_iff.mpr noHosts
  have ofDefault := httpPathRules_default surroundings convertible
  rw [gatewayAnswer, httpTables_of_unannotated convertible, noGroups]
  cases isRule : defaultHTTPRule surroundings input [] with
  | none =>
      rw [isRule, Option.map_none, eq_comm, Option.map_eq_none_iff] at ofDefault
      rw [ofDefault]
      rfl
  | some rule =>
      rw [isRule, Option.map_some, eq_comm, Option.map_eq_some_iff] at ofDefault
      obtain ⟨backend, isBackend, isRules⟩ := ofDefault
      have isTable : (routesOfGroups input.ingress.metadata.name [] (some rule)).map
          (groupTable httpPathRules) = [⟨[""], [rootRule (ingressBackendAnswer backend)]⟩] := by
        simp [routesOfGroups, groupTable, routeHosts, ← isRules]
      rw [isTable, routeRequest_everyHost, isBackend]
      exact choosePath_map_rootRule request.absolute [ingressBackendAnswer backend]

/-- The routes choose for the request by the host's own rules, and the default backend
is not lost: it serves hosts of rules only, unless there are none. -/
def KeepsAnswer (surroundings : Surroundings) (input : Input) (expressions : Expressions)
    (request : Request) : Prop :=
  match mostSpecific manyLabels (trackedHosts input.ingress.spec.rules) request.host with
  | none => input.ingress.spec.defaultBackend = none ∨ trackedHosts input.ingress.spec.rules = []
  | some host =>
      choosePath expressions
          (((servedHTTPRules surroundings input host).getD []).flatMap httpPathRules)
          request.path =
        choosePath expressions
          ((finalRules (defaultHTTPRule surroundings input []) (ownRules surroundings input
            host)).flatMap httpPathRules) request.path

instance : Decidable (KeepsAnswer surroundings input expressions request) := by
  unfold KeepsAnswer
  split <;> infer_instance

/-- No two hosts with different rules have the same signature. -/
def SignaturesSeparate (surroundings : Surroundings) (input : Input) : Prop :=
  SignaturesTell (rulesSignature surroundings.marshalHTTP "rules-")
    (collectHostRules id (convertPath surroundings input []) input.ingress.spec.rules)
    (defaultHTTPRule surroundings input [])

/-- Without a collision of signatures only requests for hosts without rules may lose
the default backend. -/
theorem keepsAnswer_iff_of_separate (separate : SignaturesSeparate surroundings input) :
    KeepsAnswer surroundings input expressions request ↔
      (∃ host ∈ trackedHosts input.ingress.spec.rules,
          hostMatches manyLabels host request.host) ∨
        input.ingress.spec.defaultBackend = none ∨
        trackedHosts input.ingress.spec.rules = [] := by
  unfold KeepsAnswer
  cases isChosen : mostSpecific manyLabels (trackedHosts input.ingress.spec.rules)
      request.host with
  | none =>
      rw [mostSpecific_eq_none_iff] at isChosen
      have noHost : ¬ ∃ host ∈ trackedHosts input.ingress.spec.rules,
          hostMatches manyLabels host request.host := by
        rintro ⟨host, isHost, isMatch⟩
        exact isChosen host isHost isMatch
      simp only [noHost, false_or]
  | some host =>
      obtain ⟨isHost, isMatch, -⟩ := mostSpecific_eq_some_iff.mp isChosen
      have tracked := mem_trackedHosts.mp isHost
      have isRules : (collectHostRules id (convertPath surroundings input [])
          input.ingress.spec.rules).lookup host = some (ownRules surroundings input host) := by
        rw [lookup_collectHostRules, if_pos tracked]
        rfl
      have served : servedHTTPRules surroundings input host = some (finalRules
          (defaultHTTPRule surroundings input []) (ownRules surroundings input host)) :=
        servedRules_of_tells separate isRules
      simp only [served, Option.getD_some]
      exact iff_of_true trivial (Or.inl ⟨host, isHost, isMatch⟩)

theorem gatewayAnswer_eq_iff_keepsAnswer (convertible : Convertible input)
    (oneLabelHost : OneLabelHost input.ingress.spec.rules request.host) :
    gatewayAnswer expressions (convertIngressWithServices surroundings input).httpRoutes request =
        ingressAnswer expressions input.ingress.spec request ↔
      KeepsAnswer surroundings input expressions request := by
  unfold KeepsAnswer
  cases isChosen : mostSpecific manyLabels (trackedHosts input.ingress.spec.rules)
      request.host with
  | none =>
      rw [ingressAnswer, routeRequest_ingress_of_untracked oneLabelHost isChosen, Option.none_or]
      by_cases noHosts : trackedHosts input.ingress.spec.rules = []
      · simp [gatewayAnswer_of_no_host convertible noHosts, noHosts]
      · rw [gatewayAnswer_of_tracked convertible noHosts, isChosen]
        simp [noHosts, eq_comm]
  | some host =>
      have hasHosts : trackedHosts input.ingress.spec.rules ≠ [] := by
        intro noHosts
        rw [noHosts] at isChosen
        cases isChosen
      have sameHost := mostSpecific_ingress_of_tracked convertible.pathsGiven oneLabelHost isChosen
      have ofIngress : ingressAnswer expressions input.ingress.spec request =
          choosePath expressions ((finalRules (defaultHTTPRule surroundings input [])
            (ownRules surroundings input host)).flatMap httpPathRules) request.path := by
        have hosts : (input.ingress.spec.rules.map ingressTable).flatMap HostTable.hosts =
            input.ingress.spec.rules.map IngressRule.host := by
          rw [List.flatMap_map, List.map_eq_flatMap]
          rfl
        rw [ingressAnswer, routeRequest, hosts, sameHost, Option.bind_some, rulesAt_ingressTables,
          ownRules, choosePath_finalRules convertible]
      rw [gatewayAnswer_of_tracked convertible hasHosts, isChosen, Option.bind_some, ofIngress]

/-- The converted routes answer a request as the Ingress does exactly if the rules stored for
the host choose as its own rules do and the default backend is not lost. Without a collision of
signatures only the default backend counts. -/
theorem gatewayAnswer_eq_ingressAnswer_iff (convertible : Convertible input)
    (oneLabelHost : OneLabelHost input.ingress.spec.rules request.host) :
    (gatewayAnswer expressions (convertIngressWithServices surroundings input).httpRoutes request =
        ingressAnswer expressions input.ingress.spec request ↔
      KeepsAnswer surroundings input expressions request) ∧
    (SignaturesSeparate surroundings input →
      (gatewayAnswer expressions (convertIngressWithServices surroundings input).httpRoutes
          request = ingressAnswer expressions input.ingress.spec request ↔
        (∃ host ∈ trackedHosts input.ingress.spec.rules,
            hostMatches manyLabels host request.host) ∨
          input.ingress.spec.defaultBackend = none ∨
          trackedHosts input.ingress.spec.rules = [])) := by
  have exact_iff : gatewayAnswer expressions
      (convertIngressWithServices surroundings input).httpRoutes request =
        ingressAnswer expressions input.ingress.spec request ↔
      KeepsAnswer surroundings input expressions request :=
    gatewayAnswer_eq_iff_keepsAnswer convertible oneLabelHost
  exact ⟨exact_iff, fun separate => exact_iff.trans (keepsAnswer_iff_of_separate separate)⟩

end Answers

/-! ## A default backend -/

def plainText : GoText where
  quote text := text
  parseURL _ := .error "not parsed"
  toUpper text := text
  toUpper_empty := rfl

def plainSurroundings : Surroundings where
  text := plainText
  marshalHTTP rules := some [rules.length.toUInt8]
  marshalGRPC rules := some [rules.length.toUInt8]
  order := GoMap.RangeOrder.sorted String

def noExpressions : Expressions where
  accepts _ _ := false
  rank _ := (0 : ℕ)

def shopInput : Input where
  ingress :=
    { metadata := { name := "shop", ns := "default" }
      spec :=
        { defaultBackend := some (servicePath "" "fallback" 80).backend
          rules := [
            { host := "shop.example.com", http := some [servicePath "/cart" "cart" 8080] }] } }
  gatewayName := "kubelb"
  gatewayNamespace := "default"

theorem shopInput_convertible : Convertible shopInput where
  unannotated kind := Finmap.lookup_empty _
  hostsKept := Or.inl rfl
  pathType := by decide
  pathAbsolute := by decide
  pathBackend path isPath := by
    cases List.mem_singleton.mp isPath
    exact ⟨_, rfl, by decide⟩
  pathsGiven := by decide
  defaultBackend backend isBackend := by
    cases isBackend
    exact ⟨_, rfl, by decide⟩

theorem shopInput_oneLabelHost (host : String) :
    OneLabelHost shopInput.ingress.spec.rules host := by
  intro rule isRule domain front isWildcard
  cases List.mem_singleton.mp isRule
  cases isWildcard

def requestFor (host : String) : Request where
  host := host
  path := "/about"
  absolute := by decide

/-- A request for another host gets the default backend of the Ingress and nothing from
the routes. -/
theorem unlisted_host_loses_default :
    Convertible shopInput ∧ OneLabelHost shopInput.ingress.spec.rules "www.example.com" ∧
      gatewayAnswer noExpressions
          (convertIngressWithServices plainSurroundings shopInput).httpRoutes
          (requestFor "www.example.com") = none ∧
      ingressAnswer noExpressions shopInput.ingress.spec (requestFor "www.example.com") =
        some (.backend "fallback" (some 80)) :=
  ⟨shopInput_convertible, shopInput_oneLabelHost _, by decide +kernel, by decide +kernel⟩

/-- The host of the rule keeps the default backend for its other paths. -/
theorem listed_host_keeps_default :
    gatewayAnswer noExpressions
        (convertIngressWithServices plainSurroundings shopInput).httpRoutes
        (requestFor "shop.example.com") =
      ingressAnswer noExpressions shopInput.ingress.spec (requestFor "shop.example.com") := by
  apply (gatewayAnswer_eq_ingressAnswer_iff shopInput_convertible
    (shopInput_oneLabelHost _)).1.mpr
  decide +kernel

end KubeLB.Conversion
