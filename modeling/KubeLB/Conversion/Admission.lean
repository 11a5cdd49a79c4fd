import KubeLB.Conversion.CombinedFilters
import KubeLB.Conversion.Grouping

/-!
Contract: when the API server admits the HTTPRoutes of an Ingress.

Owns: the rules of the Gateway API about filters, matches and sizes of an HTTPRoute,
and the Ingresses all of whose routes keep them.

Does not own: the form of names, hostnames and paths.
-/

set_option autoImplicit false

namespace KubeLB.Conversion

open KubeLB.Library KubeLB.Core KubeLB.Networking KubeLB.GatewayApi KubeLB.Controllers

/-! ## Rules of the Gateway API -/

def ReplacesPrefix (filter : HTTPRouteFilter) : Prop :=
  filter.type = .urlRewrite ∧ ∃ target,
    filter.urlRewrite.bind HTTPURLRewriteFilter.path = some (.replacePrefixMatch target)

/-- A match without a path or without a type is for a prefix. -/
def IsPrefixMatch (routeMatch : HTTPRouteMatch) : Prop :=
  routeMatch.path.bind HTTPPathMatch.type ∈ [none, some PathMatchType.pathPrefix]

instance (routeMatch : HTTPRouteMatch) : Decidable (IsPrefixMatch routeMatch) :=
  inferInstanceAs (Decidable (_ ∈ _))

/-- The types of filters that a rule may have once. -/
def singleTypes : List HTTPRouteFilterType :=
  [.requestHeaderModifier, .responseHeaderModifier, .requestRedirect, .urlRewrite]

structure AdmissibleRule (rule : HTTPRouteRule) : Prop where
  redirectWithoutBackends : hasRedirectFilter rule.filters = true → rule.backendRefs = []
  redirectWithoutRewrite : hasRedirectFilter rule.filters = true →
    ∀ filter ∈ rule.filters, filter.type ≠ .urlRewrite
  prefixReplaced : ∀ filter ∈ rule.filters, ReplacesPrefix filter →
    ∃ routeMatch, rule.matches = [routeMatch] ∧ IsPrefixMatch routeMatch
  once : ∀ type ∈ singleTypes, (rule.filters.filter (fun filter => filter.type = type)).length ≤ 1

structure AdmissibleRoute (route : HTTPRoute) : Prop where
  rules : ∀ rule ∈ route.spec.rules, AdmissibleRule rule
  fewHostnames : route.spec.hostnames.length ≤ 16
  fewRules : route.spec.rules.length ≤ 16

/-! ## Ingresses with admissible routes -/

section Fits

variable (surroundings : Surroundings) (input : Input)

def ruleFilters : List HTTPRouteFilter :=
  (convertAnnotations surroundings.text input.skipPolicyWarnings
    input.ingress.metadata.annotations).filters

def transformed (host : String) : String :=
  transformHostname host input.domainReplace input.domainSuffix

def pathsOf (host : String) : List HTTPIngressPath :=
  hostPaths (transformed input) input.ingress.spec.rules host

/-- The rules of a host with the rule of the default backend. -/
def rulesOf (host : String) : List HTTPRouteRule :=
  finalRules (defaultHTTPRule surroundings input (ruleFilters surroundings input))
    ((pathsOf input host).map (convertPath surroundings input (ruleFilters surroundings input)))

def signatureOf (host : String) : String :=
  rulesSignature surroundings.marshalHTTP "rules-" (rulesOf surroundings input host)

def groupedHosts : List String :=
  ((input.ingress.spec.rules.map (fun rule => transformed input rule.host)).dedup).filter
    (fun host => Tracked (transformed input) input.ingress.spec.rules host)

/-- The named hosts that share a route with a host. -/
def sharingHosts (host : String) : List String :=
  (groupedHosts input).filter (fun other => other ≠ "" ∧
    signatureOf surroundings input other = signatureOf surroundings input host)

/-- The routes have the host's own rules, which is so for every host unless different
rules have the same signature. -/
def Written (host : String) : Prop :=
  Tracked (transformed input) input.ingress.spec.rules host ∧
    servedRules (rulesSignature surroundings.marshalHTTP "rules-") surroundings.order
      (collectHostRules (transformed input)
        (convertPath surroundings input (ruleFilters surroundings input)) input.ingress.spec.rules)
      (defaultHTTPRule surroundings input (ruleFilters surroundings input)) host =
    some (rulesOf surroundings input host)

/-- The annotations ask for a rewrite that is not given up for regular expressions. -/
def Rewrites (annotations : StringMap) : Prop :=
  annotationValue annotations .rewriteTarget ≠ "" ∧
    annotationValue annotations .useRegex ≠ "true"

def HasDefaultService : Prop :=
  ∃ backend, input.ingress.spec.defaultBackend = some backend ∧ backend.service.isSome

/-- What keeps all routes of an Ingress admissible, by the hosts whose own rules they have. -/
structure FitsRoutes (written : String → Prop) : Prop where
  /-- A redirect and a rewrite would be on every rule. -/
  redirectOrRewrite : wantedRedirects surroundings.text input.ingress.metadata.annotations ≠ [] →
    Rewrites input.ingress.metadata.annotations →
      ¬ HasDefaultService input ∧ ∀ host, written host → pathsOf input host = []
  /-- A rewrite would be on the rules of exact paths too. -/
  noExactPath : Rewrites input.ingress.metadata.annotations →
    ∀ host, written host → ∀ path ∈ pathsOf input host,
      path.path = "" ∨ path.pathType ≠ some .exact
  fewHosts : ∀ host, Tracked (transformed input) input.ingress.spec.rules host → host ≠ "" →
    (sharingHosts surroundings input host).length ≤ 16
  fewPaths : ∀ host, written host → (rulesOf surroundings input host).length ≤ 16

end Fits

/-! ## Filters of a rule -/

section Filters

variable {text : GoText} {skipPolicyWarnings : Bool} {annotations : StringMap}

theorem hasRedirectFilter_convertAnnotations :
    hasRedirectFilter (convertAnnotations text skipPolicyWarnings annotations).filters = true ↔
      wantedRedirects text annotations ≠ [] := by
  have ofType := filter_convertAnnotations text skipPolicyWarnings annotations .requestRedirect
  have isEmpty_iff : wantedRedirects text annotations = [] ↔
      (filterSources .requestRedirect).flatMap
        (annotationFilters text skipPolicyWarnings annotations) = [] := by
    simp only [List.eq_nil_iff_forall_not_mem, mem_wantedRedirects skipPolicyWarnings,
      List.mem_flatMap]
  rw [ne_eq, isEmpty_iff, ← List.getLast?_eq_none_iff, ← Option.toList_eq_nil_iff, ← ofType,
    List.filter_eq_nil_iff, hasRedirectFilter, List.any_eq_true]
  simp

theorem rewrite_mem_convertAnnotations {filter : HTTPRouteFilter} :
    filter ∈ (convertAnnotations text skipPolicyWarnings annotations).filters ∧
        filter.type = .urlRewrite ↔
      Rewrites annotations ∧
        filter = rewriteFilter (rewriteTarget (annotationValue annotations .rewriteTarget)) := by
  have ofType := filter_convertAnnotations text skipPolicyWarnings annotations .urlRewrite
  have isMember : filter ∈ (convertAnnotations text skipPolicyWarnings annotations).filters ∧
      filter.type = .urlRewrite ↔
      filter ∈ (convertAnnotations text skipPolicyWarnings annotations).filters.filter
        (fun filter => filter.type = .urlRewrite) := by
    rw [List.mem_filter, decide_eq_true_eq]
  rw [isMember, ofType]
  simp only [filterSources, List.flatMap_cons, List.flatMap_nil, List.append_nil,
    annotationFilters, Annotation.handle, filters_handleRewriteTarget, Rewrites]
  by_cases given : annotationValue annotations .rewriteTarget = "" <;>
    by_cases regex : annotationValue annotations .useRegex = "true" <;>
    simp [given, regex]

theorem length_filter_convertAnnotations (type : HTTPRouteFilterType) :
    ((convertAnnotations text skipPolicyWarnings annotations).filters.filter
      (fun filter => filter.type = type)).length ≤ 1 := by
  rw [filter_convertAnnotations]
  exact Option.length_toList_le

end Filters

/-! ## Rules of an Ingress -/

section Rules

variable {surroundings : Surroundings} {input : Input}

theorem admissibleRule_withFilters_iff {rule : HTTPRouteRule} {routeMatch : HTTPRouteMatch}
    (noFilters : rule.filters = []) (isMatch : rule.matches = [routeMatch]) :
    AdmissibleRule (withFilters (ruleFilters surroundings input) rule) ↔
      (wantedRedirects surroundings.text input.ingress.metadata.annotations ≠ [] →
        ¬ Rewrites input.ingress.metadata.annotations) ∧
      (Rewrites input.ingress.metadata.annotations → IsPrefixMatch routeMatch) := by
  have isFilters : (withFilters (ruleFilters surroundings input) rule).filters =
      ruleFilters surroundings input := by
    simp [withFilters, noFilters]
  have isRedirect : hasRedirectFilter (ruleFilters surroundings input) = true ↔
      wantedRedirects surroundings.text input.ingress.metadata.annotations ≠ [] :=
    hasRedirectFilter_convertAnnotations
  have isRewrite {filter : HTTPRouteFilter} :
      filter ∈ ruleFilters surroundings input ∧ filter.type = .urlRewrite ↔
        Rewrites input.ingress.metadata.annotations ∧ filter = rewriteFilter (rewriteTarget
          (annotationValue input.ingress.metadata.annotations .rewriteTarget)) :=
    rewrite_mem_convertAnnotations
  constructor
  · intro admissible
    constructor
    · intro redirects rewrites
      obtain ⟨isFilter, isType⟩ := isRewrite.mpr ⟨rewrites, rfl⟩
      have noRewrite := admissible.redirectWithoutRewrite
      rw [isFilters] at noRewrite
      exact noRewrite (isRedirect.mpr redirects) _ isFilter isType
    · intro rewrites
      obtain ⟨isFilter, isType⟩ := isRewrite.mpr ⟨rewrites, rfl⟩
      rw [← isFilters] at isFilter
      obtain ⟨only, isOnly, isPrefix⟩ := admissible.prefixReplaced _ isFilter ⟨isType, _, rfl⟩
      rw [withFilters, isMatch, List.singleton_inj] at isOnly
      exact isOnly ▸ isPrefix
  · rintro ⟨notBoth, isPrefix⟩
    constructor
    · intro redirects
      rw [isFilters] at redirects
      simp [withFilters, redirects]
    · intro redirects filter isFilter isType
      rw [isFilters] at redirects isFilter
      exact notBoth (isRedirect.mp redirects) (isRewrite.mp ⟨isFilter, isType⟩).1
    · rintro filter isFilter ⟨isType, -⟩
      rw [isFilters] at isFilter
      exact ⟨routeMatch, isMatch, isPrefix (isRewrite.mp ⟨isFilter, isType⟩).1⟩
    · intro type _
      rw [isFilters]
      exact length_filter_convertAnnotations type

theorem admissibleRule_convertPath_iff {path : HTTPIngressPath} :
    AdmissibleRule (convertPath surroundings input (ruleFilters surroundings input) path) ↔
      (wantedRedirects surroundings.text input.ingress.metadata.annotations ≠ [] →
        ¬ Rewrites input.ingress.metadata.annotations) ∧
      (Rewrites input.ingress.metadata.annotations →
        path.path = "" ∨ path.pathType ≠ some .exact) := by
  rw [convertPath, admissibleRule_withFilters_iff rfl rfl]
  refine and_congr_right (fun _ => imp_congr_right (fun rewrites => ?_))
  have notRegex : useRegex input.ingress.metadata.annotations = false :=
    decide_eq_false rewrites.2
  by_cases noPath : path.path = ""
  · simp [IsPrefixMatch, noPath]
  · by_cases isExact : path.pathType = some .exact <;>
      simp [IsPrefixMatch, noPath, isExact, notRegex, convertPathTypeWithRegex, convertPathType]

theorem admissibleRule_default_iff {rule : HTTPRouteRule}
    (isDefault : defaultHTTPRule surroundings input (ruleFilters surroundings input) = some rule) :
    AdmissibleRule rule ↔
      (wantedRedirects surroundings.text input.ingress.metadata.annotations ≠ [] →
        ¬ Rewrites input.ingress.metadata.annotations) := by
  obtain ⟨backend, -, isRule⟩ := Option.bind_eq_some_iff.mp isDefault
  obtain ⟨plain, isPlain, rfl⟩ := Option.map_eq_some_iff.mp isRule
  obtain ⟨backendRef, -, rfl⟩ := Option.map_eq_some_iff.mp isPlain
  rw [admissibleRule_withFilters_iff rfl rfl]
  simp [IsPrefixMatch]

variable (surroundings input) in
/-- The groups of an Ingress. -/
def httpGroups : List (HostRuleGroup HTTPRouteRule) :=
  groupHostsByRules (rulesSignature surroundings.marshalHTTP "rules-") surroundings.order
    (collectHostRules (transformed input)
      (convertPath surroundings input (ruleFilters surroundings input)) input.ingress.spec.rules)
    (defaultHTTPRule surroundings input (ruleFilters surroundings input))

variable (surroundings input) in
theorem forall_groups_rules_iff (P : List HTTPRouteRule → Prop) :
    (∀ group ∈ httpGroups surroundings input, P group.rules) ↔
      ∀ host, Written surroundings input host → P (rulesOf surroundings input host) := by
  constructor
  · rintro holds host ⟨-, isServed⟩
    have serves : ((httpGroups surroundings input).filter
        (fun group => host ∈ group.hosts)).map HostRuleGroup.rules = _ := groupsServe.serves host
    rw [isServed, Option.toList_some] at serves
    have isGroup : rulesOf surroundings input host ∈ ((httpGroups surroundings input).filter
        (fun group => host ∈ group.hosts)).map HostRuleGroup.rules := by
      rw [serves]
      exact List.mem_singleton_self _
    obtain ⟨group, isMember, isRules⟩ := List.mem_map.mp isGroup
    exact isRules ▸ holds group (List.mem_filter.mp isMember).1
  · intro holds group isGroup
    obtain ⟨host, tracked, isServed, isRules⟩ := rules_of_mem_groups isGroup
    have ofHost : group.rules = rulesOf surroundings input host := isRules
    rw [ofHost] at isServed ⊢
    exact holds host ⟨tracked, isServed⟩

theorem exists_written (hasGroups : httpGroups surroundings input ≠ []) :
    ∃ host, Written surroundings input host := by
  obtain ⟨group, isGroup⟩ := List.exists_mem_of_ne_nil _ hasGroups
  obtain ⟨host, tracked, isServed, isRules⟩ := rules_of_mem_groups isGroup
  rw [isRules] at isServed
  exact ⟨host, tracked, isServed⟩

variable (surroundings input) in
/-- Rules of hosts and of the default backend are admissible exactly if redirects and
exact paths are not with a rewrite. -/
theorem admissibleRules_iff :
    ((∀ group ∈ httpGroups surroundings input, ∀ rule ∈ group.rules, AdmissibleRule rule) ∧
        (httpGroups surroundings input = [] → ∀ rule,
          defaultHTTPRule surroundings input (ruleFilters surroundings input) = some rule →
            AdmissibleRule rule)) ↔
      (wantedRedirects surroundings.text input.ingress.metadata.annotations ≠ [] →
        Rewrites input.ingress.metadata.annotations → ¬ HasDefaultService input ∧
          ∀ host, Written surroundings input host → pathsOf input host = []) ∧
      (Rewrites input.ingress.metadata.annotations →
        ∀ host, Written surroundings input host → ∀ path ∈ pathsOf input host,
          path.path = "" ∨ path.pathType ≠ some .exact) := by
  have noDefault_iff : defaultHTTPRule surroundings input (ruleFilters surroundings input) = none ↔
      ¬ HasDefaultService input := defaultHTTPRule_eq_none_iff
  rw [forall_groups_rules_iff surroundings input
    (fun rules => ∀ rule ∈ rules, AdmissibleRule rule)]
  constructor
  · rintro ⟨ofHosts, ofDefault⟩
    have ofPath {host : String} (isWritten : Written surroundings input host)
        {path : HTTPIngressPath} (isPath : path ∈ pathsOf input host) :=
      admissibleRule_convertPath_iff.mp (ofHosts host isWritten _
        (List.mem_append_left _ (List.mem_map_of_mem isPath)))
    refine ⟨fun redirects rewrites => ⟨fun hasDefault => ?_, fun host isWritten => ?_⟩,
      fun rewrites host isWritten path isPath => (ofPath isWritten isPath).2 rewrites⟩
    · -- the default rule is on every written host, or alone
      obtain ⟨rule, isDefault⟩ := Option.ne_none_iff_exists'.mp (fun isNone =>
        noDefault_iff.mp isNone hasDefault)
      have isAdmissible : AdmissibleRule rule := by
        by_cases noGroups : httpGroups surroundings input = []
        · exact ofDefault noGroups rule isDefault
        · obtain ⟨host, isWritten⟩ := exists_written noGroups
          refine ofHosts host isWritten rule (List.mem_append_right _ ?_)
          rw [isDefault]
          exact List.mem_singleton_self rule
      exact (admissibleRule_default_iff isDefault).mp isAdmissible redirects rewrites
    · by_contra hasPaths
      obtain ⟨path, isPath⟩ := List.exists_mem_of_ne_nil _ hasPaths
      exact (ofPath isWritten isPath).1 redirects rewrites
  · rintro ⟨notBoth, noExact⟩
    have ofDefault {rule : HTTPRouteRule} (isDefault : defaultHTTPRule surroundings input
        (ruleFilters surroundings input) = some rule) : AdmissibleRule rule := by
      refine (admissibleRule_default_iff isDefault).mpr (fun redirects rewrites => ?_)
      have isNone := noDefault_iff.mpr (notBoth redirects rewrites).1
      rw [isDefault] at isNone
      cases isNone
    refine ⟨fun host isWritten rule isRule => ?_, fun _ rule isDefault => ofDefault isDefault⟩
    rcases List.mem_append.mp isRule with isOwn | isDefault
    · obtain ⟨path, isPath, rfl⟩ := List.mem_map.mp isOwn
      refine admissibleRule_convertPath_iff.mpr ⟨fun redirects rewrites => ?_, fun rewrites =>
        noExact rewrites host isWritten path isPath⟩
      rw [(notBoth redirects rewrites).2 host isWritten] at isPath
      cases isPath
    · exact ofDefault (Option.mem_toList.mp isDefault)

/-! ## Hosts of a route -/

theorem mem_groupedHosts {host : String} :
    host ∈ groupedHosts input ↔ Tracked (transformed input) input.ingress.spec.rules host := by
  rw [groupedHosts, List.mem_filter, decide_eq_true_eq, List.mem_dedup, List.mem_map]
  refine ⟨And.right, fun tracked => ⟨?_, tracked⟩⟩
  obtain ⟨rule, isRule, isHost, -⟩ := tracked
  exact ⟨rule, isRule, isHost⟩

theorem nodup_groupedHosts : (groupedHosts input).Nodup := (List.nodup_dedup _).filter _

theorem lookup_and_signature_iff {host sig : String} :
    (∃ rules, (collectHostRules (transformed input) (convertPath surroundings input
        (ruleFilters surroundings input)) input.ingress.spec.rules).lookup host = some rules ∧
        rulesSignature surroundings.marshalHTTP "rules-" (finalRules (defaultHTTPRule surroundings
          input (ruleFilters surroundings input)) rules) = sig) ↔
      host ∈ groupedHosts input ∧ signatureOf surroundings input host = sig := by
  rw [mem_groupedHosts, lookup_collectHostRules]
  by_cases tracked : Tracked (transformed input) input.ingress.spec.rules host
  · simp only [tracked, if_true, Option.some.injEq, exists_eq_left', true_and]
    rfl
  · simp [tracked]

theorem length_hosts_of_group {group : HostRuleGroup HTTPRouteRule} {host : String}
    (isGroup : group ∈ httpGroups surroundings input) (isHost : host ∈ group.hosts)
    (named : host ≠ "") :
    group.hosts.length = (sharingHosts surroundings input host).length := by
  obtain ⟨distinct, sig, isMember⟩ := hosts_of_mem_groups isGroup
  simp only [lookup_and_signature_iff] at isMember
  obtain ⟨⟨-, isSignature⟩, onlyNamed⟩ := (isMember host).mp isHost
  have noEmpty : "" ∉ group.hosts := fun isEmpty => named (onlyNamed.mpr isEmpty)
  refine List.Perm.length_eq ?_
  rw [sharingHosts, List.perm_ext_iff_of_nodup distinct (nodup_groupedHosts.filter _)]
  intro other
  rw [isMember other]
  simp only [List.mem_filter, decide_eq_true_eq, isSignature, noEmpty, iff_false]
  tauto

variable (surroundings) in
theorem exists_group_of_tracked {host : String}
    (tracked : Tracked (transformed input) input.ingress.spec.rules host) :
    ∃ group ∈ httpGroups surroundings input, host ∈ group.hosts := by
  have serves : ((httpGroups surroundings input).filter
      (fun group => host ∈ group.hosts)).map HostRuleGroup.rules = _ := groupsServe.serves host
  have isServed : (servedRules (rulesSignature surroundings.marshalHTTP "rules-")
      surroundings.order (collectHostRules (transformed input) (convertPath surroundings input
        (ruleFilters surroundings input)) input.ingress.spec.rules)
      (defaultHTTPRule surroundings input (ruleFilters surroundings input)) host).isSome := by
    rw [isSome_servedRules, lookup_collectHostRules, if_pos tracked]
    rfl
  obtain ⟨rules, isRules⟩ := Option.isSome_iff_exists.mp isServed
  rw [isRules, Option.toList_some] at serves
  obtain ⟨group, isGroup, -⟩ := List.mem_map.mp (serves ▸ List.mem_singleton_self rules)
  exact ⟨group, (List.mem_filter.mp isGroup).1, of_decide_eq_true (List.mem_filter.mp isGroup).2⟩

variable (surroundings input) in
theorem fewHostnames_iff :
    (∀ group ∈ httpGroups surroundings input,
        (if group.hosts.head? = some "" then [] else group.hosts).length ≤ 16) ↔
      ∀ host, Tracked (transformed input) input.ingress.spec.rules host → host ≠ "" →
        (sharingHosts surroundings input host).length ≤ 16 := by
  constructor
  · intro few host tracked named
    obtain ⟨group, isGroup, isHost⟩ := exists_group_of_tracked surroundings tracked
    have notEmpty : group.hosts.head? ≠ some "" := fun isEmpty =>
      named (groupsServe.alone group isGroup (List.mem_of_head? isEmpty) host isHost)
    have isFew := few group isGroup
    rwa [if_neg notEmpty, length_hosts_of_group isGroup isHost named] at isFew
  · intro few group isGroup
    split
    · exact Nat.zero_le _
    · next notEmpty =>
        obtain ⟨host, rest, isHosts⟩ := List.exists_cons_of_ne_nil
          (groupsServe.nonempty group isGroup)
        have isHost : host ∈ group.hosts := isHosts ▸ List.mem_cons_self
        have named : host ≠ "" := by
          rintro rfl
          exact notEmpty (by rw [isHosts]; rfl)
        obtain ⟨-, sig, isMember⟩ := hosts_of_mem_groups isGroup
        have tracked := lookup_and_signature_iff.mp ((isMember host).mp isHost).1
        rw [length_hosts_of_group isGroup isHost named]
        exact few host (mem_groupedHosts.mp tracked.1) named

theorem admissible_iff_fitsWritten :
    (∀ route ∈ (convertIngressWithServices surroundings input).httpRoutes, AdmissibleRoute route) ↔
      isGRPCIngress surroundings.text input.ingress = true ∨
        FitsRoutes surroundings input (Written surroundings input) := by
  cases isGRPC : isGRPCIngress surroundings.text input.ingress with
  | true => simp [httpRoutes_of_grpc isGRPC]
  | false =>
      have byParts : (∀ route ∈ (convertIngressWithServices surroundings input).httpRoutes,
          AdmissibleRoute route) ↔
          ∀ route ∈ routesOfGroups input.ingress.metadata.name (httpGroups surroundings input)
              (defaultHTTPRule surroundings input (ruleFilters surroundings input)),
            (∀ rule ∈ route.2.2, AdmissibleRule rule) ∧ route.2.1.length ≤ 16 ∧
              route.2.2.length ≤ 16 := by
        rw [httpRoutes_of_http isGRPC, convertToHTTPRoutes]
        simp only [List.forall_mem_map]
        refine forall_congr' (fun route => imp_congr_right (fun _ => ?_))
        exact ⟨fun fits => ⟨fits.rules, fits.fewHostnames, fits.fewRules⟩,
          fun fits => ⟨fits.1, fits.2.1, fits.2.2⟩⟩
      rw [byParts, forall_routesOfGroups_iff (fun hostnames rules =>
        (∀ rule ∈ rules, AdmissibleRule rule) ∧ hostnames.length ≤ 16 ∧ rules.length ≤ 16)]
      have parts := admissibleRules_iff surroundings input
      have hostParts := fewHostnames_iff surroundings input
      have ruleParts := forall_groups_rules_iff surroundings input
        (fun rules => rules.length ≤ 16)
      simp only [Bool.false_eq_true, false_or]
      constructor
      · rintro ⟨ofGroups, ofDefault⟩
        obtain ⟨notBoth, noExact⟩ := parts.mp ⟨fun group isGroup => (ofGroups group isGroup).1,
          fun noGroups rule isDefault =>
            (ofDefault noGroups rule isDefault).1 rule (List.mem_singleton_self rule)⟩
        exact
          { redirectOrRewrite := notBoth
            noExactPath := noExact
            fewHosts := hostParts.mp (fun group isGroup => (ofGroups group isGroup).2.1)
            fewPaths := ruleParts.mp (fun group isGroup => (ofGroups group isGroup).2.2) }
      · intro fits
        obtain ⟨ofGroups, ofDefault⟩ := parts.mpr ⟨fits.redirectOrRewrite, fits.noExactPath⟩
        refine ⟨fun group isGroup => ⟨ofGroups group isGroup, hostParts.mpr fits.fewHosts group
          isGroup, ruleParts.mpr fits.fewPaths group isGroup⟩, fun noGroups rule isDefault => ?_⟩
        refine ⟨fun only isOnly => ?_, Nat.zero_le _, by simp⟩
        rw [List.mem_singleton.mp isOnly]
        exact ofDefault noGroups rule isDefault

/-- All HTTPRoutes of an Ingress are admissible exactly if it is for gRPC or fits by the hosts
whose rules are written; without a collision of signatures these are all hosts with rules. -/
theorem admissible_httpRoutes_iff :
    ((∀ route ∈ (convertIngressWithServices surroundings input).httpRoutes,
        AdmissibleRoute route) ↔
      isGRPCIngress surroundings.text input.ingress = true ∨
        FitsRoutes surroundings input (Written surroundings input)) ∧
    (SignaturesTell (rulesSignature surroundings.marshalHTTP "rules-")
        (collectHostRules (transformed input)
          (convertPath surroundings input (ruleFilters surroundings input))
          input.ingress.spec.rules)
        (defaultHTTPRule surroundings input (ruleFilters surroundings input)) →
      ((∀ route ∈ (convertIngressWithServices surroundings input).httpRoutes,
          AdmissibleRoute route) ↔
        isGRPCIngress surroundings.text input.ingress = true ∨
          FitsRoutes surroundings input
            (Tracked (transformed input) input.ingress.spec.rules))) := by
  refine ⟨admissible_iff_fitsWritten, fun tells => ?_⟩
  have allWritten : Written surroundings input =
      Tracked (transformed input) input.ingress.spec.rules := by
    funext host
    refine propext (and_iff_left_of_imp (fun tracked => servedRules_of_tells tells ?_))
    rw [lookup_collectHostRules, if_pos tracked]
    rfl
  rw [← allWritten]
  exact admissible_iff_fitsWritten

end Rules

/-! ## A rewrite on an exact path -/

def exactInput : Input where
  ingress :=
    { metadata :=
        { name := "shop", ns := "default"
          annotations := Finmap.singleton Annotation.rewriteTarget.key "/" }
      spec :=
        { rules := [
            { host := "shop.example.com"
              http := some [
                { path := "/cart", pathType := some .exact
                  backend := (servicePath "" "cart" 80).backend }] }] } }
  gatewayName := "kubelb"
  gatewayNamespace := "default"

/-- The API server rejects the route of a valid Ingress: its only rule replaces the
prefix of an exact match. -/
theorem exact_path_not_admissible :
    exactInput.ingress.isValid = true ∧
      ∃ route ∈ (convertIngressWithServices orderedSurroundings exactInput).httpRoutes,
        ¬ AdmissibleRoute route := by
  refine ⟨by decide +kernel, ?_⟩
  have isRules : (convertIngressWithServices orderedSurroundings exactInput).httpRoutes.map
      (fun route => route.spec.rules) =
      [[{ «matches» := [{ path := some { type := some .exact, value := some "/cart" } }]
          filters := [rewriteFilter "/"]
          backendRefs := [{ name := "cart", port := some 80 }] }]] := by
    decide +kernel
  obtain ⟨route, isRoute, isRule⟩ := List.mem_map.mp (isRules ▸ List.mem_singleton_self _)
  refine ⟨route, isRoute, fun admissible => ?_⟩
  have ofRule := admissible.rules
  rw [isRule, List.forall_mem_singleton] at ofRule
  obtain ⟨routeMatch, isMatch, isPrefix⟩ := ofRule.prefixReplaced _ (List.mem_singleton_self _)
    ⟨rfl, "/", rfl⟩
  rw [← List.singleton_inj.mp isMatch] at isPrefix
  exact absurd isPrefix (by decide)

end KubeLB.Conversion
