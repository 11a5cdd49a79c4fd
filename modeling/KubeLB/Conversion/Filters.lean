import KubeLB.Conversion.Converter

/-!
Contract: the filters that the annotations of an Ingress become.

Owns: the filters of each handler, which annotations give filters of a type and in
which order, and what is left of them after `deduplicateFilters`.

Does not own: the warnings of the handlers.
-/

set_option autoImplicit false

namespace KubeLB.Conversion

open KubeLB.Library KubeLB.Core KubeLB.GatewayApi KubeLB.Resources

/-! ## Filters of handlers -/

section Handlers

variable {text : GoText} {value : String} {annotations : StringMap}

@[simp] theorem filters_warn (warning : String) : (warn warning).filters = [] := rfl

@[simp] theorem filters_whenTrue (handled : Handled) :
    (whenTrue value handled).filters = if value = "true" then handled.filters else [] := by
  unfold whenTrue
  split <;> rfl

@[simp] theorem filters_whenSet (handled : Handled) :
    (whenSet value handled).filters = if value = "" then [] else handled.filters := by
  unfold whenSet
  split <;> rfl

@[simp] theorem filters_suggest (kind : Annotation) (shown suggestion : String) :
    (suggest kind shown value suggestion).filters = [] := by
  simp [suggest]

@[simp] theorem filters_handleAppRoot : (handleAppRoot text value).filters = [] := by
  simp only [handleAppRoot, apply_ite Handled.filters, filters_warn, ite_self]

@[simp] theorem filters_handlePreserveHost : (handlePreserveHost value).filters = [] := by
  simp only [handlePreserveHost, apply_ite Handled.filters, filters_warn, ite_self]

@[simp] theorem filters_handleLimit (kind : Annotation) (field unit : String) :
    (handleLimit text kind value field unit).filters = [] := by
  unfold handleLimit
  split <;> simp

@[simp] theorem filters_handleAffinity : (handleAffinity text value annotations).filters = [] := by
  simp only [handleAffinity, filters_whenSet, apply_ite Handled.filters, filters_warn, ite_self]

@[simp] theorem filters_handleAuthType (silent : Bool) :
    (handleAuthType text silent value annotations).filters = [] := by
  simp only [handleAuthType, apply_ite Handled.filters, filters_warn, ite_self]

@[simp] theorem filters_handleBackendProtocol :
    (handleBackendProtocol text value).filters = [] := by
  simp only [handleBackendProtocol, apply_ite Handled.filters, filters_warn, ite_self]

@[simp] theorem filters_handleCanaryEnabled :
    (handleCanaryEnabled value annotations).filters = [] := by
  simp only [handleCanaryEnabled, filters_whenTrue, apply_ite Handled.filters, filters_warn,
    ite_self]

theorem filters_handleURLRedirect (kind : Annotation) (statusCode : Int) :
    (handleURLRedirect text kind value statusCode).filters =
      match if value = "" then none else (text.parseURL value).toOption with
      | none => []
      | some parsedURL => [createURLRedirectFilter parsedURL statusCode] := by
  unfold handleURLRedirect
  by_cases empty : value = ""
  · simp [empty]
  · simp only [if_neg empty]
    cases text.parseURL value <;> rfl

theorem type_of_mem_handleURLRedirect {kind : Annotation} {statusCode : Int}
    {filter : HTTPRouteFilter}
    (isFilter : filter ∈ (handleURLRedirect text kind value statusCode).filters) :
    filter.type = .requestRedirect := by
  rw [filters_handleURLRedirect] at isFilter
  split at isFilter
  · cases isFilter
  · cases List.mem_singleton.mp isFilter
    rfl

def rewriteFilter (target : String) : HTTPRouteFilter where
  type := .urlRewrite
  urlRewrite := some { path := some (.replacePrefixMatch target) }

/-- The path that `rewrite-target` replaces a prefix by. -/
def rewriteTarget (value : String) : String :=
  if containsCaptureGroup value.toList then stripCaptureGroups value else value

theorem filters_handleRewriteTarget :
    (handleRewriteTarget text value annotations).filters =
      if value = "" ∨ annotationValue annotations .useRegex = "true" then []
      else [rewriteFilter (rewriteTarget value)] := by
  unfold handleRewriteTarget
  by_cases empty : value = ""
  · simp [empty]
  · by_cases regex : annotationValue annotations .useRegex = "true" <;>
      simp [empty, regex, rewriteFilter, rewriteTarget]

def listedHeaders (text : GoText) (value : String) : List HTTPHeader :=
  if '/' ∈ value.toList ∧ ':' ∉ value.toList then [] else (parseHeaderList text value).1

theorem filters_handleHeaderList (kind : Annotation)
    (filter : List HTTPHeader → HTTPRouteFilter) :
    (handleHeaderList text kind value filter).filters =
      if listedHeaders text value = [] then [] else [filter (listedHeaders text value)] := by
  unfold handleHeaderList listedHeaders
  by_cases empty : value = ""
  · subst empty
    simp [parseHeaderList, parseStringList, splitComma, trimSpace]
  · by_cases reference : '/' ∈ value.toList ∧ ':' ∉ value.toList
    · simp [empty, reference]
    · simp only [if_neg empty, if_neg reference]

end Handlers

/-! ## Filters of a type -/

/-- The type of the filters that an annotation may give. -/
def Annotation.filterType : Annotation → Option HTTPRouteFilterType
  | sslRedirect | forceSSLRedirect | permanentRedirect | temporalRedirect => some .requestRedirect
  | rewriteTarget => some .urlRewrite
  | proxySetHeaders | upstreamVhost | xForwardedPrefix => some .requestHeaderModifier
  | customHeaders | hsts => some .responseHeaderModifier
  | _ => none

def filterSources : HTTPRouteFilterType → List Annotation
  | .requestRedirect => [.forceSSLRedirect, .permanentRedirect, .sslRedirect, .temporalRedirect]
  | .urlRewrite => [.rewriteTarget]
  | .requestHeaderModifier => [.proxySetHeaders, .upstreamVhost, .xForwardedPrefix]
  | .responseHeaderModifier => [.customHeaders, .hsts]
  | .requestMirror => []
  | .extensionRef => []

theorem filterSources_increasing (type : HTTPRouteFilterType) :
    ((filterSources type).map Annotation.key).Pairwise (· < ·) := by
  cases type <;> decide +kernel

theorem mem_filterSources {kind : Annotation} {type : HTTPRouteFilterType} :
    kind ∈ filterSources type ↔ kind.filterType = some type := by
  constructor
  · intro isSource
    cases type <;> simp only [filterSources, List.mem_cons, List.not_mem_nil, or_false] at isSource
    case requestRedirect => rcases isSource with rfl | rfl | rfl | rfl <;> rfl
    case urlRewrite => cases isSource; rfl
    case requestHeaderModifier => rcases isSource with rfl | rfl | rfl <;> rfl
    case responseHeaderModifier => rcases isSource with rfl | rfl <;> rfl
  · intro isType
    cases kind <;> cases isType <;> simp [filterSources]

section Sources

variable {text : GoText} {skipPolicyWarnings : Bool} {annotations : StringMap}
  {kind : Annotation} {filter : HTTPRouteFilter} {value : String}

theorem filterType_of_mem_handle
    (isFilter : filter ∈ (kind.handle text skipPolicyWarnings value annotations).filters) :
    kind.filterType = some filter.type := by
  cases kind with
  | sslRedirect =>
      simp only [handleSSLRedirect, Annotation.handle, filters_whenTrue,
        apply_ite Handled.filters, List.mem_ite_nil_left, List.mem_ite_nil_right,
        List.mem_singleton] at isFilter
      obtain ⟨-, -, rfl⟩ := isFilter
      rfl
  | forceSSLRedirect =>
      simp only [handleForceSSLRedirect, Annotation.handle, filters_whenTrue,
        List.mem_ite_nil_right, List.mem_singleton] at isFilter
      obtain ⟨-, rfl⟩ := isFilter
      rfl
  | permanentRedirect =>
      simp only [handlePermanentRedirect, Annotation.handle] at isFilter
      rw [type_of_mem_handleURLRedirect isFilter]
      rfl
  | temporalRedirect =>
      simp only [handleTemporalRedirect, Annotation.handle] at isFilter
      rw [type_of_mem_handleURLRedirect isFilter]
      rfl
  | rewriteTarget =>
      simp only [filters_handleRewriteTarget, Annotation.handle, List.mem_ite_nil_left,
        List.mem_singleton] at isFilter
      obtain ⟨-, rfl⟩ := isFilter
      rfl
  | customHeaders | proxySetHeaders =>
      simp only [handleCustomHeaders, Annotation.handle, handleProxySetHeaders,
        filters_handleHeaderList, List.mem_ite_nil_left, List.mem_singleton] at isFilter
      obtain ⟨-, rfl⟩ := isFilter
      rfl
  | upstreamVhost | xForwardedPrefix =>
      simp only [handleUpstreamVhost, Annotation.handle, handleXForwardedPrefix,
        handleRequestHeader, filters_whenSet, List.mem_ite_nil_left, List.mem_singleton] at isFilter
      obtain ⟨-, rfl⟩ := isFilter
      rfl
  | hsts =>
      simp only [handleHSTS, Annotation.handle, filters_whenTrue, List.mem_ite_nil_right,
        List.mem_singleton] at isFilter
      obtain ⟨-, rfl⟩ := isFilter
      rfl
  | _ =>
      simp [handleTimeout, Annotation.handle, handleEnableCORS, handleSourceRange,
        apply_ite Handled.filters] at isFilter

theorem filters_handle_empty :
    (kind.handle text skipPolicyWarnings "" annotations).filters = [] := by
  rw [List.eq_nil_iff_forall_not_mem]
  intro filter isFilter
  have isType := filterType_of_mem_handle isFilter
  cases kind with
  | sslRedirect | forceSSLRedirect | hsts =>
      simp [handleSSLRedirect, Annotation.handle, handleForceSSLRedirect, handleHSTS] at isFilter
  | permanentRedirect | temporalRedirect =>
      simp [handlePermanentRedirect, Annotation.handle, handleTemporalRedirect,
        handleURLRedirect] at isFilter
  | rewriteTarget => simp [handleRewriteTarget, Annotation.handle] at isFilter
  | customHeaders | proxySetHeaders =>
      simp [handleCustomHeaders, Annotation.handle, handleProxySetHeaders,
        handleHeaderList] at isFilter
  | upstreamVhost | xForwardedPrefix =>
      simp [handleUpstreamVhost, Annotation.handle, handleXForwardedPrefix,
        handleRequestHeader] at isFilter
  | _ => cases isType

variable (text skipPolicyWarnings annotations) in
/-- The filters of an annotation; an absent one has none. -/
def annotationFilters (kind : Annotation) : List HTTPRouteFilter :=
  (kind.handle text skipPolicyWarnings (annotationValue annotations kind)
    annotations).filters

variable (text skipPolicyWarnings annotations) in
/-- The filters of all annotations before `deduplicateFilters`. -/
def producedFilters : List HTTPRouteFilter :=
  (handledKeys annotations).flatMap (fun entry =>
    annotationFilters text skipPolicyWarnings annotations entry.2)

theorem filters_convertAnnotations :
    (convertAnnotations text skipPolicyWarnings annotations).filters =
      deduplicateFilters (producedFilters text skipPolicyWarnings annotations) := by
  have sameValue : ∀ entry ∈ handledKeys annotations,
      annotations.get entry.1 = annotationValue annotations entry.2 := by
    intro entry isEntry
    obtain ⟨key, -, isKey⟩ := List.mem_filterMap.mp isEntry
    obtain ⟨kind, registered, rfl⟩ := Option.map_eq_some_iff.mp isKey
    rw [annotationValue, Annotation.ofKey_eq_some registered]
  simp only [convertAnnotations, producedFilters, List.flatMap_map]
  congr 1
  apply List.flatMap_congr
  intro entry isEntry
  rw [annotationFilters, sameValue entry isEntry]

theorem filter_producedFilters (type : HTTPRouteFilterType) :
    (producedFilters text skipPolicyWarnings annotations).filter
        (fun filter => filter.type = type) =
      (filterSources type).flatMap (annotationFilters text skipPolicyWarnings annotations) := by
  let collect (key : String) : List HTTPRouteFilter :=
    List.filter (fun filter => filter.type = type) <|
      List.flatMap (annotationFilters text skipPolicyWarnings annotations) <|
        Option.toList <| Annotation.ofKey key
  have ofKeys : (producedFilters text skipPolicyWarnings annotations).filter
      (fun filter => filter.type = type) = (GoMap.sortedKeys annotations).flatMap collect := by
    simp only [producedFilters, handledKeys, List.filter_flatMap, collect]
    induction GoMap.sortedKeys annotations with
    | nil => rfl
    | cons key keys ih =>
        rw [List.filterMap_cons, List.flatMap_cons, ← ih]
        cases Annotation.ofKey key <;> simp
  have outside : ∀ key ∈ GoMap.sortedKeys annotations,
      key ∉ (filterSources type).map Annotation.key → collect key = [] := by
    intro key _ notSource
    simp only [collect, List.filter_eq_nil_iff, List.mem_flatMap, Option.mem_toList,
      decide_eq_true_eq]
    rintro filter ⟨kind, registered, isFilter⟩ isType
    apply notSource
    rw [← Annotation.ofKey_eq_some registered]
    refine List.mem_map_of_mem (mem_filterSources.mpr ?_)
    rw [← isType]
    exact filterType_of_mem_handle isFilter
  have absent : ∀ key ∈ (filterSources type).map Annotation.key,
      key ∉ GoMap.sortedKeys annotations → collect key = [] := by
    intro key isSource notKey
    obtain ⟨kind, -, rfl⟩ := List.mem_map.mp isSource
    have noValue : annotationValue annotations kind = "" := by
      rw [GoMap.mem_sortedKeys] at notKey
      have notFound : annotations.lookup kind.key = none := by
        rw [Option.eq_none_iff_forall_ne_some]
        intro value isValue
        exact notKey ⟨value, isValue⟩
      rw [annotationValue, StringMap.get, notFound]
      rfl
    simp [collect, Annotation.ofKey_key, annotationFilters, noValue, filters_handle_empty]
  rw [ofKeys, flatMap_eq_of_support (GoMap.pairwise_sortedKeys annotations)
    (filterSources_increasing type) outside absent, List.flatMap_map]
  apply List.flatMap_congr
  intro kind isSource
  simp only [collect, Annotation.ofKey_key, Option.toList_some, List.flatMap_singleton]
  rw [List.filter_eq_self]
  intro filter isFilter
  have isType := filterType_of_mem_handle isFilter
  rw [mem_filterSources.mp isSource, Option.some.injEq] at isType
  exact decide_eq_true isType.symm

end Sources

/-! ## Deduplication -/

theorem filter_deduplicateFilters (type : HTTPRouteFilterType) (filters : List HTTPRouteFilter) :
    (deduplicateFilters filters).filter (fun filter => filter.type = type) =
      (filters.filter (fun filter => filter.type = type)).getLast?.toList := by
  induction filters with
  | nil => rfl
  | cons filter rest ih =>
      by_cases repeated : rest.any (fun later => later.type = filter.type)
      · rw [deduplicateFilters, if_pos repeated, ih]
        by_cases isType : filter.type = type
        · -- a later filter of the type is the last one in either list
          subst isType
          obtain ⟨later, isLater, sameType⟩ := List.any_eq_true.mp repeated
          have nonempty : rest.filter (fun other => other.type = filter.type) ≠ [] :=
            List.ne_nil_of_mem (List.mem_filter.mpr ⟨isLater, sameType⟩)
          rw [List.filter_cons_of_pos (by simp), List.getLast?_cons_of_ne_nil nonempty]
        · rw [List.filter_cons_of_neg (by simpa using isType)]
      · rw [deduplicateFilters, if_neg repeated]
        by_cases isType : filter.type = type
        · subst isType
          have alone : rest.filter (fun other => other.type = filter.type) = [] := by
            rw [List.filter_eq_nil_iff]
            intro later isLater sameType
            exact repeated (List.any_eq_true.mpr ⟨later, isLater, sameType⟩)
          rw [List.filter_cons_of_pos (by simp), List.filter_cons_of_pos (by simp),
            ih, alone]
          rfl
        · rw [List.filter_cons_of_neg (by simpa using isType),
            List.filter_cons_of_neg (by simpa using isType), ih]

/-- Of each type the filter of the last annotation is left. -/
theorem filter_convertAnnotations (text : GoText) (skipPolicyWarnings : Bool)
    (annotations : StringMap) (type : HTTPRouteFilterType) :
    (convertAnnotations text skipPolicyWarnings annotations).filters.filter
        (fun filter => filter.type = type) =
      ((filterSources type).flatMap
        (annotationFilters text skipPolicyWarnings annotations)).getLast?.toList := by
  rw [filters_convertAnnotations, filter_deduplicateFilters, filter_producedFilters]

end KubeLB.Conversion
