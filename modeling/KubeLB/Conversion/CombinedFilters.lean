import KubeLB.Conversion.Coverage
import KubeLB.Conversion.Filters

/-!
Contract: the effect of all filters of an Ingress together.

Owns: what the returned filters keep of a filter that a handler produced, and the
annotations that can stand together without one of them losing its effect.

Does not own: the order in which filters of different types act.
-/

set_option autoImplicit false

namespace KubeLB.Conversion

open KubeLB.Library KubeLB.Core KubeLB.GatewayApi

/-! ## Effects -/

def modifiedHeaders (modifier : Option HTTPHeaderFilter) : List HTTPHeader :=
  modifier.elim [] (fun modifier => modifier.set ++ modifier.add)

def requestHeaders (filters : List HTTPRouteFilter) : List HTTPHeader :=
  (filters.filter (fun filter => filter.type = .requestHeaderModifier)).flatMap
    (fun filter => modifiedHeaders filter.requestHeaderModifier)

def responseHeaders (filters : List HTTPRouteFilter) : List HTTPHeader :=
  (filters.filter (fun filter => filter.type = .responseHeaderModifier)).flatMap
    (fun filter => modifiedHeaders filter.responseHeaderModifier)

/-- The same value for the same header; names of headers have no case. -/
def SameHeader (header other : HTTPHeader) : Prop :=
  header.name.toLower = other.name.toLower ∧ header.value = other.value

instance (header other : HTTPHeader) : Decidable (SameHeader header other) :=
  inferInstanceAs (Decidable (_ ∧ _))

/-- The returned filters have the effect of a produced one. -/
structure EffectKept (returned : List HTTPRouteFilter) (produced : HTTPRouteFilter) : Prop where
  request : ∀ header ∈ requestHeaders [produced], ∃ other ∈ requestHeaders returned,
    SameHeader header other
  response : ∀ header ∈ responseHeaders [produced], ∃ other ∈ responseHeaders returned,
    SameHeader header other
  redirect : produced.type = .requestRedirect → produced ∈ returned
  rewrite : produced.type = .urlRewrite → produced ∈ returned

/-- Every filter of a handler keeps its effect, or a warning names its annotation. -/
def EffectsKept (text : GoText) (skipPolicyWarnings : Bool) (annotations : StringMap) : Prop :=
  let result := convertAnnotations text skipPolicyWarnings annotations
  ∀ kind, ∀ produced ∈ annotationFilters text skipPolicyWarnings annotations kind,
    EffectKept result.filters produced ∨ ∃ warning ∈ result.warnings, Names warning kind

/-! ## Annotations that stand together -/

section Compatible

variable (text : GoText) (annotations : StringMap)

/-- The redirect of an annotation with a URL. -/
def redirectTo (kind : Annotation) (statusCode : Int) : List HTTPRouteFilter :=
  let value := annotationValue annotations kind
  match if value = "" then none else (text.parseURL value).toOption with
  | none => []
  | some parsedURL => [createURLRedirectFilter parsedURL statusCode]

/-- `permanent-redirect-code`, else 301. -/
def permanentCode : Int :=
  match atoi (annotationValue annotations .permanentRedirectCode) with
  | some code => if isValidRedirectCode code then code else 301
  | none => 301

def wantedRedirects : List HTTPRouteFilter :=
  (if annotationValue annotations .forceSSLRedirect = "true" ∨
      annotationValue annotations .sslRedirect = "true" then [createHTTPSRedirectFilter 301]
    else []) ++
  redirectTo text annotations .permanentRedirect (permanentCode annotations) ++
  redirectTo text annotations .temporalRedirect 302

def prefixHeader : HTTPHeader where
  name := "X-Forwarded-Prefix"
  value := annotationValue annotations .xForwardedPrefix

def vhostHeader : HTTPHeader where
  name := "Host"
  value := annotationValue annotations .upstreamVhost

def hstsHeader : HTTPHeader where
  name := "Strict-Transport-Security"
  value := buildHSTSHeaderValue annotations

/-- One redirect at most, and no two annotations for headers of the same direction unless
they agree. -/
structure Compatible : Prop where
  redirects : ∀ redirect ∈ wantedRedirects text annotations,
    ∀ other ∈ wantedRedirects text annotations, redirect = other
  prefixed : annotationValue annotations .xForwardedPrefix ≠ "" →
    annotationValue annotations .upstreamVhost = "" ∧
      ∀ header ∈ listedHeaders text (annotationValue annotations .proxySetHeaders),
        SameHeader header (prefixHeader annotations)
  vhost : annotationValue annotations .upstreamVhost ≠ "" →
    ∀ header ∈ listedHeaders text (annotationValue annotations .proxySetHeaders),
      SameHeader header (vhostHeader annotations)
  secured : annotationValue annotations .hsts = "true" →
    ∀ header ∈ listedHeaders text (annotationValue annotations .customHeaders),
      SameHeader header (hstsHeader annotations)

end Compatible

/-! ## Filters by annotation -/

section Produced

variable {text : GoText} {skipPolicyWarnings : Bool} {annotations : StringMap}
  {kind : Annotation} {filter : HTTPRouteFilter}

theorem annotationFilters_xForwardedPrefix :
    annotationFilters text skipPolicyWarnings annotations .xForwardedPrefix =
      if annotationValue annotations .xForwardedPrefix = "" then [] else
        [{ type := .requestHeaderModifier
           requestHeaderModifier := some { set := [prefixHeader annotations] } }] :=
  filters_whenSet _

theorem annotationFilters_upstreamVhost :
    annotationFilters text skipPolicyWarnings annotations .upstreamVhost =
      if annotationValue annotations .upstreamVhost = "" then [] else
        [{ type := .requestHeaderModifier
           requestHeaderModifier := some { set := [vhostHeader annotations] } }] :=
  filters_whenSet _

theorem annotationFilters_proxySetHeaders :
    annotationFilters text skipPolicyWarnings annotations .proxySetHeaders =
      let headers := listedHeaders text (annotationValue annotations .proxySetHeaders)
      if headers = [] then [] else
        [{ type := .requestHeaderModifier, requestHeaderModifier := some { set := headers } }] :=
  filters_handleHeaderList _ _

theorem annotationFilters_customHeaders :
    annotationFilters text skipPolicyWarnings annotations .customHeaders =
      let headers := listedHeaders text (annotationValue annotations .customHeaders)
      if headers = [] then [] else
        [{ type := .responseHeaderModifier, responseHeaderModifier := some { add := headers } }] :=
  filters_handleHeaderList _ _

theorem annotationFilters_hsts :
    annotationFilters text skipPolicyWarnings annotations .hsts =
      if annotationValue annotations .hsts = "true" then
        [{ type := .responseHeaderModifier
           responseHeaderModifier := some { set := [hstsHeader annotations] } }]
      else [] :=
  filters_whenTrue _

variable (skipPolicyWarnings) in
theorem mem_wantedRedirects :
    filter ∈ wantedRedirects text annotations ↔
      ∃ kind ∈ filterSources .requestRedirect,
        filter ∈ annotationFilters text skipPolicyWarnings annotations kind := by
  have permanent : annotationFilters text skipPolicyWarnings annotations .permanentRedirect =
      redirectTo text annotations .permanentRedirect (permanentCode annotations) :=
    filters_handleURLRedirect _ _
  have temporal : annotationFilters text skipPolicyWarnings annotations .temporalRedirect =
      redirectTo text annotations .temporalRedirect 302 :=
    filters_handleURLRedirect _ _
  have forced : annotationFilters text skipPolicyWarnings annotations .forceSSLRedirect =
      if annotationValue annotations .forceSSLRedirect = "true" then [createHTTPSRedirectFilter 301]
      else [] :=
    filters_whenTrue _
  have secured : annotationFilters text skipPolicyWarnings annotations .sslRedirect =
      if annotationValue annotations .sslRedirect = "true" then
        if annotationValue annotations .forceSSLRedirect = "true" then []
        else [createHTTPSRedirectFilter 301]
      else [] := by
    refine (filters_whenTrue _).trans ?_
    rw [apply_ite Handled.filters]
  simp only [filterSources, List.mem_cons, List.not_mem_nil, or_false, exists_eq_or_imp,
    exists_eq_left, permanent, temporal, forced, secured, wantedRedirects, List.mem_append]
  by_cases isForced : annotationValue annotations .forceSSLRedirect = "true" <;>
    by_cases isSecured : annotationValue annotations .sslRedirect = "true" <;>
    simp [isForced, isSecured, or_assoc, or_left_comm]

/-- The request headers of the result are those of the last annotation. -/
theorem requestHeaders_convertAnnotations :
    requestHeaders (convertAnnotations text skipPolicyWarnings annotations).filters =
      if annotationValue annotations .xForwardedPrefix ≠ "" then [prefixHeader annotations]
      else if annotationValue annotations .upstreamVhost ≠ "" then [vhostHeader annotations]
      else listedHeaders text (annotationValue annotations .proxySetHeaders) := by
  rw [requestHeaders, filter_convertAnnotations]
  simp only [filterSources, List.flatMap_cons, List.flatMap_nil, List.append_nil,
    annotationFilters_xForwardedPrefix, annotationFilters_upstreamVhost,
    annotationFilters_proxySetHeaders]
  by_cases noPrefix : annotationValue annotations .xForwardedPrefix = "" <;>
    by_cases noVhost : annotationValue annotations .upstreamVhost = "" <;>
    by_cases noHeaders : listedHeaders text (annotationValue annotations .proxySetHeaders) = [] <;>
    simp [noPrefix, noVhost, noHeaders, modifiedHeaders]

theorem responseHeaders_convertAnnotations :
    responseHeaders (convertAnnotations text skipPolicyWarnings annotations).filters =
      if annotationValue annotations .hsts = "true" then [hstsHeader annotations]
      else listedHeaders text (annotationValue annotations .customHeaders) := by
  rw [responseHeaders, filter_convertAnnotations]
  simp only [filterSources, List.flatMap_cons, List.flatMap_nil, List.append_nil,
    annotationFilters_hsts, annotationFilters_customHeaders]
  by_cases isSecured : annotationValue annotations .hsts = "true" <;>
    by_cases noHeaders : listedHeaders text (annotationValue annotations .customHeaders) = [] <;>
    simp [isSecured, noHeaders, modifiedHeaders]

theorem mem_convertAnnotations_iff :
    filter ∈ (convertAnnotations text skipPolicyWarnings annotations).filters ↔
      ((filterSources filter.type).flatMap
        (annotationFilters text skipPolicyWarnings annotations)).getLast? = some filter := by
  have ofType := filter_convertAnnotations text skipPolicyWarnings annotations filter.type
  rw [← Option.mem_toList, ← ofType, List.mem_filter]
  simp

theorem not_mem_warnings_of_redirect {value warning : String} {statusCode : Int}
    (isFilter : filter ∈ (handleURLRedirect text kind value statusCode).filters) :
    warning ∉ (handleURLRedirect text kind value statusCode).warnings := by
  intro isWarning
  unfold handleURLRedirect at isFilter isWarning
  split at isFilter
  · cases isFilter
  · next notEmpty =>
      rw [if_neg notEmpty] at isWarning
      cases parsed : text.parseURL value with
      | error error =>
          rw [parsed] at isFilter
          cases isFilter
      | ok url =>
          rw [parsed] at isWarning
          cases isWarning

theorem not_names_of_headerList {value warning : String}
    {build : List HTTPHeader → HTTPRouteFilter}
    (isFilter : filter ∈ (handleHeaderList text kind value build).filters)
    (isWarning : warning ∈ (handleHeaderList text kind value build).warnings) :
    ¬ Names warning kind := by
  unfold handleHeaderList at isFilter isWarning
  split at isFilter
  · cases isFilter
  · next notEmpty =>
      rw [if_neg notEmpty] at isWarning
      split at isFilter
      · cases isFilter
      · next noReference =>
          rw [if_neg noReference] at isWarning
          exact not_names_of_plain (plain_of_mem_parseHeaderList isWarning)

/-- No warning names an annotation with a filter, but for `rewrite-target`. -/
theorem not_named_of_mem_annotationFilters (quotes : text.QuotesKeys)
    (isFilter : filter ∈ annotationFilters text skipPolicyWarnings annotations kind)
    (notRewrite : kind ≠ .rewriteTarget) :
    ¬ ∃ warning ∈ (convertAnnotations text skipPolicyWarnings annotations).warnings,
      Names warning kind := by
  rw [names_convertAnnotations_iff quotes]
  rintro ⟨-, warning, isWarning, names⟩
  have isType := filterType_of_mem_handle isFilter
  cases kind with
  | permanentRedirect | temporalRedirect => exact not_mem_warnings_of_redirect isFilter isWarning
  | customHeaders | proxySetHeaders => exact not_names_of_headerList isFilter isWarning names
  | rewriteTarget => exact notRewrite rfl
  | sslRedirect =>
      simp only [handleSSLRedirect, Annotation.handle, warnings_whenTrue,
        apply_ite Handled.warnings, ite_self] at isWarning
      cases isWarning
  | forceSSLRedirect =>
      simp only [handleForceSSLRedirect, Annotation.handle, warnings_whenTrue,
        ite_self] at isWarning
      cases isWarning
  | upstreamVhost | xForwardedPrefix =>
      simp only [handleUpstreamVhost, Annotation.handle, handleXForwardedPrefix,
        handleRequestHeader, warnings_whenSet, ite_self] at isWarning
      cases isWarning
  | hsts =>
      simp only [handleHSTS, Annotation.handle, warnings_whenTrue, ite_self] at isWarning
      cases isWarning
  | _ => cases isType

end Produced

/-! ## Kept effects -/

section Kept

variable {text : GoText} {skipPolicyWarnings : Bool} {annotations : StringMap}
  {kind : Annotation} {filter : HTTPRouteFilter} {header : HTTPHeader}

@[refl] theorem SameHeader.refl (header : HTTPHeader) : SameHeader header header := ⟨rfl, rfl⟩

theorem requestHeaders_singleton :
    requestHeaders [filter] =
      if filter.type = .requestHeaderModifier then modifiedHeaders filter.requestHeaderModifier
      else [] := by
  by_cases isType : filter.type = .requestHeaderModifier <;> simp [requestHeaders, isType]

theorem responseHeaders_singleton :
    responseHeaders [filter] =
      if filter.type = .responseHeaderModifier then modifiedHeaders filter.responseHeaderModifier
      else [] := by
  by_cases isType : filter.type = .responseHeaderModifier <;> simp [responseHeaders, isType]

theorem type_of_mem_annotationFilters {type : HTTPRouteFilterType}
    (isSource : kind ∈ filterSources type)
    (isFilter : filter ∈ annotationFilters text skipPolicyWarnings annotations kind) :
    filter.type = type := by
  have isType := filterType_of_mem_handle isFilter
  rw [mem_filterSources.mp isSource, Option.some.injEq] at isType
  exact isType.symm

/-- Headers of filters of one type come from the annotations with such filters. -/
theorem exists_headers_iff {type : HTTPRouteFilterType}
    {headers : List HTTPRouteFilter → List HTTPHeader}
    (ofType : ∀ filter, header ∈ headers [filter] → filter.type = type) :
    (∃ kind, ∃ filter ∈ annotationFilters text skipPolicyWarnings annotations kind,
        header ∈ headers [filter]) ↔
      ∃ kind ∈ filterSources type, ∃ filter ∈ annotationFilters text skipPolicyWarnings
        annotations kind, header ∈ headers [filter] := by
  refine exists_congr (fun kind => ⟨?_, And.right⟩)
  rintro ⟨filter, isFilter, isHeader⟩
  exact ⟨mem_filterSources.mpr (ofType filter isHeader ▸ filterType_of_mem_handle isFilter),
    filter, isFilter, isHeader⟩

theorem mem_requestHeaders_annotationFilters_iff :
    (∃ kind, ∃ filter ∈ annotationFilters text skipPolicyWarnings annotations kind,
        header ∈ requestHeaders [filter]) ↔
      header ∈ listedHeaders text (annotationValue annotations .proxySetHeaders) ∨
        annotationValue annotations .upstreamVhost ≠ "" ∧ header = vhostHeader annotations ∨
        annotationValue annotations .xForwardedPrefix ≠ "" ∧ header = prefixHeader annotations := by
  have ofType (filter : HTTPRouteFilter) (isHeader : header ∈ requestHeaders [filter]) :
      filter.type = .requestHeaderModifier := by
    rw [requestHeaders_singleton, List.mem_ite_nil_right] at isHeader
    exact isHeader.1
  have listed : header ∈ listedHeaders text (annotationValue annotations .proxySetHeaders) →
      listedHeaders text (annotationValue annotations .proxySetHeaders) ≠ [] := List.ne_nil_of_mem
  rw [exists_headers_iff ofType]
  simp [filterSources, annotationFilters_proxySetHeaders, annotationFilters_upstreamVhost,
    annotationFilters_xForwardedPrefix, requestHeaders_singleton, modifiedHeaders,
    and_iff_right_of_imp listed]

theorem mem_responseHeaders_annotationFilters_iff :
    (∃ kind, ∃ filter ∈ annotationFilters text skipPolicyWarnings annotations kind,
        header ∈ responseHeaders [filter]) ↔
      header ∈ listedHeaders text (annotationValue annotations .customHeaders) ∨
        annotationValue annotations .hsts = "true" ∧ header = hstsHeader annotations := by
  have ofType (filter : HTTPRouteFilter) (isHeader : header ∈ responseHeaders [filter]) :
      filter.type = .responseHeaderModifier := by
    rw [responseHeaders_singleton, List.mem_ite_nil_right] at isHeader
    exact isHeader.1
  have listed : header ∈ listedHeaders text (annotationValue annotations .customHeaders) →
      listedHeaders text (annotationValue annotations .customHeaders) ≠ [] := List.ne_nil_of_mem
  rw [exists_headers_iff ofType]
  simp [filterSources, annotationFilters_customHeaders, annotationFilters_hsts,
    responseHeaders_singleton, modifiedHeaders, and_iff_right_of_imp listed]

theorem mem_convertAnnotations_of_rewrite (isType : filter.type = .urlRewrite)
    (isFilter : filter ∈ annotationFilters text skipPolicyWarnings annotations kind) :
    filter ∈ (convertAnnotations text skipPolicyWarnings annotations).filters := by
  have isSource : kind ∈ filterSources .urlRewrite :=
    mem_filterSources.mpr (isType ▸ filterType_of_mem_handle isFilter)
  cases List.mem_singleton.mp isSource
  rw [mem_convertAnnotations_iff, isType]
  simp only [annotationFilters, Annotation.handle, filters_handleRewriteTarget,
    List.mem_ite_nil_left, List.mem_singleton, filterSources, List.flatMap_cons, List.flatMap_nil,
    List.append_nil] at isFilter ⊢
  rw [if_neg isFilter.1, isFilter.2]
  rfl

theorem redirects_kept_iff :
    (∀ redirect ∈ wantedRedirects text annotations,
        redirect ∈ (convertAnnotations text skipPolicyWarnings annotations).filters) ↔
      ∀ redirect ∈ wantedRedirects text annotations,
        ∀ other ∈ wantedRedirects text annotations, redirect = other := by
  have isType {redirect : HTTPRouteFilter}
      (isWanted : redirect ∈ wantedRedirects text annotations) :
      redirect.type = .requestRedirect := by
    obtain ⟨kind, isSource, isFilter⟩ :=
      (mem_wantedRedirects skipPolicyWarnings).mp isWanted
    exact type_of_mem_annotationFilters isSource isFilter
  constructor
  · intro kept redirect isRedirect other isOther
    have isLast := mem_convertAnnotations_iff.mp (kept redirect isRedirect)
    have otherLast := mem_convertAnnotations_iff.mp (kept other isOther)
    rw [isType isRedirect] at isLast
    rw [isType isOther] at otherLast
    exact Option.some.inj (isLast.symm.trans otherLast)
  · intro same redirect isRedirect
    rw [mem_convertAnnotations_iff, isType isRedirect]
    have isProduced : redirect ∈ (filterSources .requestRedirect).flatMap
        (annotationFilters text skipPolicyWarnings annotations) :=
      List.mem_flatMap.mpr ((mem_wantedRedirects skipPolicyWarnings).mp isRedirect)
    rw [List.getLast?_eq_some_getLast (List.ne_nil_of_mem isProduced), Option.some.injEq]
    have isLast := List.getLast_mem (List.ne_nil_of_mem isProduced)
    have isWanted := (mem_wantedRedirects skipPolicyWarnings).mpr (List.mem_flatMap.mp isLast)
    exact same _ isWanted redirect isRedirect

/-- Warnings make up for no lost effect. -/
theorem effectsKept_iff_forall (quotes : text.QuotesKeys) :
    EffectsKept text skipPolicyWarnings annotations ↔
      ∀ kind, ∀ produced ∈ annotationFilters text skipPolicyWarnings annotations kind,
        EffectKept (convertAnnotations text skipPolicyWarnings annotations).filters produced := by
  constructor
  · intro kept kind produced isProduced
    rcases kept kind produced isProduced with isKept | isNamed
    · exact isKept
    · by_cases isRewrite : kind = .rewriteTarget
      · -- capture groups are warned about, but the rewrite is there
        subst isRewrite
        have isType : produced.type = .urlRewrite :=
          type_of_mem_annotationFilters (by decide) isProduced
        constructor
        · simp [requestHeaders_singleton, isType]
        · simp [responseHeaders_singleton, isType]
        · simp [isType]
        · exact fun _ => mem_convertAnnotations_of_rewrite isType isProduced
      · exact absurd isNamed (not_named_of_mem_annotationFilters quotes isProduced isRewrite)
  · intro kept kind produced isProduced
    exact Or.inl (kept kind produced isProduced)

theorem forall_headers_iff {headers : List HTTPRouteFilter → List HTTPHeader}
    {P : HTTPHeader → Prop} :
    (∀ kind, ∀ produced ∈ annotationFilters text skipPolicyWarnings annotations kind,
        ∀ header ∈ headers [produced], P header) ↔
      ∀ header, (∃ kind, ∃ produced ∈ annotationFilters text skipPolicyWarnings
        annotations kind, header ∈ headers [produced]) → P header := by
  constructor
  · rintro holds header ⟨kind, produced, isProduced, isHeader⟩
    exact holds kind produced isProduced header isHeader
  · intro holds kind produced isProduced header isHeader
    exact holds header ⟨kind, produced, isProduced, isHeader⟩

theorem forall_requestHeaders_iff (P : HTTPHeader → Prop) :
    (∀ kind, ∀ produced ∈ annotationFilters text skipPolicyWarnings annotations kind,
        ∀ header ∈ requestHeaders [produced], P header) ↔
      (∀ header ∈ listedHeaders text (annotationValue annotations .proxySetHeaders), P header) ∧
        (annotationValue annotations .upstreamVhost ≠ "" → P (vhostHeader annotations)) ∧
        (annotationValue annotations .xForwardedPrefix ≠ "" → P (prefixHeader annotations)) := by
  rw [forall_headers_iff]
  simp only [mem_requestHeaders_annotationFilters_iff, or_imp, forall_and, and_imp,
    forall_eq_apply_imp_iff]

theorem forall_responseHeaders_iff (P : HTTPHeader → Prop) :
    (∀ kind, ∀ produced ∈ annotationFilters text skipPolicyWarnings annotations kind,
        ∀ header ∈ responseHeaders [produced], P header) ↔
      (∀ header ∈ listedHeaders text (annotationValue annotations .customHeaders), P header) ∧
        (annotationValue annotations .hsts = "true" → P (hstsHeader annotations)) := by
  rw [forall_headers_iff]
  simp only [mem_responseHeaders_annotationFilters_iff, or_imp, forall_and, and_imp,
    forall_eq_apply_imp_iff]

theorem requestHeaders_kept_iff :
    (∀ kind, ∀ produced ∈ annotationFilters text skipPolicyWarnings annotations kind,
        ∀ header ∈ requestHeaders [produced], ∃ other ∈ requestHeaders
          (convertAnnotations text skipPolicyWarnings annotations).filters,
            SameHeader header other) ↔
      (annotationValue annotations .xForwardedPrefix ≠ "" →
        annotationValue annotations .upstreamVhost = "" ∧
          ∀ header ∈ listedHeaders text (annotationValue annotations .proxySetHeaders),
            SameHeader header (prefixHeader annotations)) ∧
      (annotationValue annotations .upstreamVhost ≠ "" →
        ∀ header ∈ listedHeaders text (annotationValue annotations .proxySetHeaders),
          SameHeader header (vhostHeader annotations)) := by
  have notSame : ¬ SameHeader (vhostHeader annotations) (prefixHeader annotations) := by
    have differ : "Host".toLower ≠ "X-Forwarded-Prefix".toLower := by decide +kernel
    exact fun same => differ same.1
  rw [forall_requestHeaders_iff, requestHeaders_convertAnnotations]
  by_cases noPrefix : annotationValue annotations .xForwardedPrefix = "" <;>
    by_cases noVhost : annotationValue annotations .upstreamVhost = ""
  · simp only [noPrefix, noVhost, ne_eq, not_true_eq_false, if_false, false_implies, and_true,
      iff_true]
    exact fun header isHeader => ⟨header, isHeader, SameHeader.refl header⟩
  · simp [noPrefix, noVhost, SameHeader.refl]
  · simp [noPrefix, noVhost, SameHeader.refl]
  · simp [noPrefix, noVhost, notSame]

theorem responseHeaders_kept_iff :
    (∀ kind, ∀ produced ∈ annotationFilters text skipPolicyWarnings annotations kind,
        ∀ header ∈ responseHeaders [produced], ∃ other ∈ responseHeaders
          (convertAnnotations text skipPolicyWarnings annotations).filters,
            SameHeader header other) ↔
      (annotationValue annotations .hsts = "true" →
        ∀ header ∈ listedHeaders text (annotationValue annotations .customHeaders),
          SameHeader header (hstsHeader annotations)) := by
  rw [forall_responseHeaders_iff, responseHeaders_convertAnnotations]
  by_cases isSecured : annotationValue annotations .hsts = "true"
  · simp [isSecured, SameHeader.refl]
  · simp only [isSecured, if_false, false_implies, and_true, iff_true]
    exact fun header isHeader => ⟨header, isHeader, SameHeader.refl header⟩

theorem redirects_of_annotations_iff :
    (∀ kind, ∀ produced ∈ annotationFilters text skipPolicyWarnings annotations kind,
        produced.type = .requestRedirect →
          produced ∈ (convertAnnotations text skipPolicyWarnings annotations).filters) ↔
      ∀ redirect ∈ wantedRedirects text annotations,
        redirect ∈ (convertAnnotations text skipPolicyWarnings annotations).filters := by
  constructor
  · intro kept redirect isRedirect
    obtain ⟨kind, isSource, isFilter⟩ :=
      (mem_wantedRedirects skipPolicyWarnings).mp isRedirect
    exact kept kind redirect isFilter (type_of_mem_annotationFilters isSource isFilter)
  · intro kept kind produced isProduced isType
    have isSource : kind ∈ filterSources .requestRedirect :=
      mem_filterSources.mpr (isType ▸ filterType_of_mem_handle isProduced)
    exact kept produced ((mem_wantedRedirects skipPolicyWarnings).mpr
      ⟨kind, isSource, isProduced⟩)

/-- No effect is lost in silence exactly if the annotations can stand together. -/
theorem effectsKept_iff_compatible (quotes : text.QuotesKeys) :
    EffectsKept text skipPolicyWarnings annotations ↔ Compatible text annotations := by
  rw [effectsKept_iff_forall quotes]
  constructor
  · intro kept
    obtain ⟨prefixed, vhost⟩ := requestHeaders_kept_iff.mp
      (fun kind produced isProduced => (kept kind produced isProduced).request)
    exact
      { redirects := redirects_kept_iff.mp (redirects_of_annotations_iff.mp
          (fun kind produced isProduced => (kept kind produced isProduced).redirect))
        prefixed := prefixed
        vhost := vhost
        secured := responseHeaders_kept_iff.mp
          (fun kind produced isProduced => (kept kind produced isProduced).response) }
  · intro compatible kind produced isProduced
    exact
      { request := requestHeaders_kept_iff.mpr ⟨compatible.prefixed, compatible.vhost⟩ kind
          produced isProduced
        response := responseHeaders_kept_iff.mpr compatible.secured kind produced isProduced
        redirect := redirects_of_annotations_iff.mpr (redirects_kept_iff.mpr compatible.redirects)
          kind produced isProduced
        rewrite := fun isType => mem_convertAnnotations_of_rewrite isType isProduced }

end Kept

/-! ## Lost headers -/

def framedAnnotations : StringMap :=
  ((∅ : StringMap).insert Annotation.customHeaders.key "X-Frame-Options: DENY").insert
    Annotation.hsts.key "true"

/-- The header against framing is gone without a warning. -/
theorem custom_header_lost :
    let result := convertAnnotations quotingText true framedAnnotations
    responseHeaders (annotationFilters quotingText true framedAnnotations .customHeaders) =
        [{ name := "X-Frame-Options", value := "DENY" }] ∧
      responseHeaders result.filters =
        [{ name := "Strict-Transport-Security", value := "max-age=31536000" }] ∧
      result.warnings = [] := by
  decide +kernel

def headerAnnotations : StringMap :=
  ((∅ : StringMap).insert Annotation.hsts.key "true").insert
    Annotation.xForwardedPrefix.key "/shop"

/-- Two annotations that are compatible keep their effects. -/
theorem compatible_headers_kept : EffectsKept quotingText true headerAnnotations := by
  refine (effectsKept_iff_compatible (fun _ => rfl)).mpr ⟨?_, ?_, ?_, ?_⟩ <;> decide +kernel

end KubeLB.Conversion
