import KubeLB.Conversion.Converter
import KubeLB.Conversion.Policies

/-!
Contract: which annotation a warning of the conversion is about.

Owns: the way a warning names an annotation at its start, that no warning names two
of them, and what the warnings of the handlers and of the conversion name.

Does not own: user texts inside a warning, which name nothing.
-/

set_option autoImplicit false

namespace KubeLB.Conversion

open KubeLB.Library KubeLB.Core KubeLB.Networking KubeLB.GatewayApi KubeLB.Controllers
  KubeLB.Resources

def StartsWith (start text : String) : Prop := start.toList <+: text.toList

instance (start text : String) : Decidable (StartsWith start text) :=
  inferInstanceAs (Decidable (_ <+: _))

theorem startsWith_append (start rest : String) : StartsWith start (start ++ rest) := by
  rw [StartsWith, String.toList_append]
  exact List.prefix_append _ _

theorem StartsWith.append {start text : String} (starts : StartsWith start text) (rest : String) :
    StartsWith start (text ++ rest) := by
  rw [StartsWith, String.toList_append]
  exact starts.trans (List.prefix_append _ _)

/-- A warning begins with the name of its annotation and a blank or an equals sign, or
with its quoted key. -/
def Names (warning : String) (kind : Annotation) : Prop :=
  StartsWith (kind.name ++ "=") warning ∨ StartsWith (kind.name ++ " ") warning ∨
    StartsWith ("annotation \"" ++ kind.key ++ "\"") warning

instance (warning : String) (kind : Annotation) : Decidable (Names warning kind) :=
  inferInstanceAs (Decidable (_ ∨ _))

/-- The verb `%q` leaves keys of annotations as they are. -/
def GoText.QuotesKeys (text : GoText) : Prop :=
  ∀ kind : Annotation, text.quote kind.key = "\"" ++ kind.key ++ "\""

/-! ## One annotation per warning -/

def inWord (char : Char) : Bool := decide (char ≠ '=') && decide (char ≠ ' ')

def firstWord (text : String) : List Char := text.toList.takeWhile inWord

theorem takeWhile_of_prefix {word text : List Char} (mark : Char) {inside : Char → Bool}
    (isWord : word.all inside) (isMark : inside mark = false) (starts : word ++ [mark] <+: text) :
    text.takeWhile inside = word := by
  obtain ⟨rest, rfl⟩ := starts
  rw [List.append_assoc, List.takeWhile_append_of_pos (by simpa using isWord)]
  simp [isMark]

theorem firstWord_of_startsWith {word mark text : String} (char : Char)
    (isChar : mark.toList = [char]) (isWord : word.toList.all inWord)
    (isMark : inWord char = false) (starts : StartsWith (word ++ mark) text) :
    firstWord text = word.toList := by
  rw [StartsWith, String.toList_append, isChar] at starts
  exact takeWhile_of_prefix char isWord isMark starts

theorem name_inWord (kind : Annotation) :
    kind.name.toList.all (fun char => inWord char && decide (char ≠ '"')) := by
  have listed : ∀ kind ∈ Annotation.all,
      kind.name.toList.all (fun char => inWord char && decide (char ≠ '"')) := by
    decide +kernel
  exact listed kind kind.mem_all

theorem name_isWord (kind : Annotation) : kind.name.toList.all inWord := by
  have inside := List.all_eq_true.mp (name_inWord kind)
  refine List.all_eq_true.mpr (fun char isChar => ?_)
  exact (Bool.and_eq_true_iff.mp (inside char isChar)).1

theorem key_unquoted (kind : Annotation) :
    kind.key.toList.all (fun char => decide (char ≠ '"')) := by
  have inside := List.all_eq_true.mp (name_inWord kind)
  unfold Annotation.key
  rw [String.toList_append, List.all_append, Bool.and_eq_true_iff]
  refine ⟨by decide +kernel, List.all_eq_true.mpr (fun char isChar => ?_)⟩
  exact (Bool.and_eq_true_iff.mp (inside char isChar)).2

def plainWords : List String :=
  ["invalid", "empty", "service", "path", "TLS", "resource", "default", "no"]

theorem name_ne_of_mem {word : String} (isWord : word ∈ "annotation" :: plainWords)
    (kind : Annotation) : kind.name.toList ≠ word.toList := by
  have notNames : ∀ word ∈ "annotation" :: plainWords,
      word ∉ Annotation.all.map Annotation.name := by
    decide +kernel
  intro sameText
  apply notNames word isWord
  rw [← String.toList_inj.mp sameText]
  exact List.mem_map_of_mem kind.mem_all

theorem firstWord_of_names {warning : String} {kind : Annotation}
    (names : Names warning kind) :
    firstWord warning = kind.name.toList ∨
      firstWord warning = "annotation".toList ∧
        StartsWith ("annotation \"" ++ kind.key ++ "\"") warning := by
  rcases names with isName | isName | isKey
  · exact Or.inl (firstWord_of_startsWith '=' (by decide) (name_isWord kind) (by decide) isName)
  · exact Or.inl (firstWord_of_startsWith ' ' (by decide) (name_isWord kind) (by decide) isName)
  · refine Or.inr ⟨?_, isKey⟩
    have isWord : StartsWith ("annotation" ++ " ") warning := by
      refine List.IsPrefix.trans ?_ isKey
      have split : "annotation \"" ++ kind.key ++ "\"" =
          "annotation" ++ " " ++ ("\"" ++ kind.key ++ "\"") := by
        simp only [← String.append_assoc]
        rfl
      rw [split]
      exact startsWith_append _ _
    exact firstWord_of_startsWith ' ' (by decide) (by decide) (by decide) isWord

theorem annotation_of_quoted_key {warning : String} {kind other : Annotation}
    (isKey : StartsWith ("annotation \"" ++ kind.key ++ "\"") warning)
    (isOther : StartsWith ("annotation \"" ++ other.key ++ "\"") warning) :
    kind = other := by
  have quoted {kind : Annotation}
      (isKey : StartsWith ("annotation \"" ++ kind.key ++ "\"") warning) :
      (warning.toList.drop ("annotation \"".toList).length).takeWhile
        (fun char => decide (char ≠ '"')) = kind.key.toList := by
    refine takeWhile_of_prefix '"' (key_unquoted kind) (by decide) ?_
    rw [StartsWith, String.toList_append, String.toList_append, List.append_assoc] at isKey
    obtain ⟨rest, isWarning⟩ := isKey
    rw [← isWarning, List.append_assoc, List.drop_left]
    exact List.prefix_append _ _
  exact Annotation.key_injective (String.toList_inj.mp ((quoted isKey).symm.trans (quoted isOther)))

theorem eq_of_names {warning : String} {kind other : Annotation}
    (names : Names warning kind) (namesOther : Names warning other) :
    kind = other := by
  rcases firstWord_of_names names with isName | ⟨isListed, isKey⟩ <;>
    rcases firstWord_of_names namesOther with isOther | ⟨isListed', isOtherKey⟩
  · exact Annotation.name_injective (String.toList_inj.mp (isName.symm.trans isOther))
  · exact absurd (isName.symm.trans isListed') (name_ne_of_mem (by decide) kind)
  · exact absurd (isOther.symm.trans isListed) (name_ne_of_mem (by decide) other)
  · exact annotation_of_quoted_key isKey isOtherKey

/-! ## Warnings of handlers -/

section Handlers

variable {text : GoText} {value warning : String} {annotations : StringMap}
  {kind : Annotation}

theorem names_equals (kind : Annotation) (rest : String) :
    Names (kind.name ++ "=" ++ rest) kind :=
  Or.inl (startsWith_append _ _)

theorem names_blank (kind : Annotation) {rest : String} (starts : StartsWith " " rest) :
    Names (kind.name ++ rest) kind := by
  refine Or.inr (Or.inl ?_)
  rw [StartsWith, String.toList_append, String.toList_append]
  exact List.prefix_append_right_inj _ |>.mpr starts

theorem names_quoted (quotes : text.QuotesKeys) (kind : Annotation) (rest : String) :
    Names ("annotation " ++ text.quote kind.key ++ rest) kind := by
  refine Or.inr (Or.inr ?_)
  have split : "annotation " ++ text.quote kind.key ++ rest =
      "annotation \"" ++ kind.key ++ "\"" ++ rest := by
    rw [quotes kind]
    simp only [← String.append_assoc]
    rfl
  rw [split]
  exact startsWith_append _ _

theorem Names.append (names : Names warning kind) (rest : String) :
    Names (warning ++ rest) kind := by
  rcases names with isName | isName | isKey
  · exact Or.inl (isName.append rest)
  · exact Or.inr (Or.inl (isName.append rest))
  · exact Or.inr (Or.inr (isKey.append rest))

/-- The warning is about no annotation. -/
def Plain (warning : String) : Prop := ∃ word ∈ plainWords, StartsWith (word ++ " ") warning

theorem Plain.append (isPlain : Plain warning) (rest : String) : Plain (warning ++ rest) := by
  obtain ⟨word, isWord, starts⟩ := isPlain
  exact ⟨word, isWord, starts.append rest⟩

theorem not_names_of_plain (isPlain : Plain warning) : ¬ Names warning kind := by
  have areWords : ∀ word ∈ plainWords, word.toList.all inWord ∧
      word.toList ≠ "annotation".toList := by
    decide
  obtain ⟨word, isPlainWord, starts⟩ := isPlain
  have isFirst : firstWord warning = word.toList :=
    firstWord_of_startsWith ' ' (by decide) (areWords word isPlainWord).1 (by decide) starts
  intro names
  rcases firstWord_of_names names with isName | ⟨isListed, -⟩
  · exact name_ne_of_mem (List.mem_cons_of_mem _ isPlainWord) kind
      (isName.symm.trans isFirst)
  · exact (areWords word isPlainWord).2 (isFirst.symm.trans isListed)

@[simp] theorem warnings_warn (warning : String) : (warn warning).warnings = [warning] := rfl

@[simp] theorem warnings_whenTrue (handled : Handled) :
    (whenTrue value handled).warnings = if value = "true" then handled.warnings else [] := by
  unfold whenTrue
  split <;> rfl

@[simp] theorem warnings_whenSet (handled : Handled) :
    (whenSet value handled).warnings = if value = "" then [] else handled.warnings := by
  unfold whenSet
  split <;> rfl

theorem names_of_mem_suggest {shown suggestion : String}
    (isWarning : warning ∈ (suggest kind shown value suggestion).warnings) :
    Names warning kind := by
  simp only [suggest, warnings_whenSet, warnings_warn, List.mem_ite_nil_left,
    List.mem_singleton] at isWarning
  obtain ⟨-, rfl⟩ := isWarning
  exact (names_equals kind shown).append " requires " |>.append suggestion

theorem names_of_mem_handleLimit {field unit : String}
    (isWarning : warning ∈ (handleLimit text kind value field unit).warnings) :
    Names warning kind := by
  simp only [handleLimit, warnings_whenSet, List.mem_ite_nil_left] at isWarning
  obtain ⟨-, isWarning⟩ := isWarning
  split at isWarning
  · cases List.mem_singleton.mp isWarning
    exact (names_equals kind _).append _
  · cases List.mem_singleton.mp isWarning
    exact (((((names_equals kind _).append _).append _).append _).append _).append _

theorem names_of_mem_handleURLRedirect (quotes : text.QuotesKeys) {statusCode : Int}
    (isWarning : warning ∈ (handleURLRedirect text kind value statusCode).warnings) :
    Names warning kind := by
  unfold handleURLRedirect at isWarning
  split at isWarning
  · cases List.mem_singleton.mp isWarning
    exact names_quoted quotes kind _
  · split at isWarning
    · cases List.mem_singleton.mp isWarning
      exact (((names_quoted quotes kind _).append _).append _).append _
    · cases isWarning

theorem names_of_mem_handleRewriteTarget (quotes : text.QuotesKeys)
    (isWarning : warning ∈ (handleRewriteTarget text value annotations).warnings) :
    Names warning .rewriteTarget := by
  have aboutGroups : warning ∈ (if containsCaptureGroup value.toList then
      ["annotation " ++ text.quote Annotation.rewriteTarget.key ++ " uses capture groups (" ++
        value ++ ") which require regex path matching; converted to simple prefix replacement"]
      else []) → Names warning .rewriteTarget := by
    intro isWarning
    rw [List.mem_ite_nil_right] at isWarning
    cases List.mem_singleton.mp isWarning.2
    exact ((names_quoted quotes .rewriteTarget _).append _).append _
  unfold handleRewriteTarget at isWarning
  split at isWarning
  · cases List.mem_singleton.mp isWarning
    exact names_quoted quotes .rewriteTarget _
  · simp only at isWarning
    split at isWarning
    · rcases List.mem_append.mp isWarning with isWarning | isWarning
      · exact aboutGroups isWarning
      · cases List.mem_singleton.mp isWarning
        exact (((names_equals .rewriteTarget _).append _).append _)
    · exact aboutGroups isWarning

theorem plain_of_parseHeader {pair : String} (isWarning : parseHeader text pair = .error warning) :
    Plain warning := by
  unfold parseHeader at isWarning
  split at isWarning
  · cases isWarning
    refine ⟨"invalid", by decide, ?_⟩
    exact ((startsWith_append ("invalid" ++ " ") "header format ").append _).append _
  · simp only at isWarning
    split at isWarning
    · cases isWarning
      refine ⟨"empty", by decide, ?_⟩
      exact (startsWith_append ("empty" ++ " ") "header name in ").append _
    · cases isWarning

theorem plain_of_mem_parseHeaderList (isWarning : warning ∈ (parseHeaderList text value).2) :
    Plain warning := by
  obtain ⟨parsed, isParsed, isError⟩ := List.mem_filterMap.mp isWarning
  obtain ⟨pair, -, rfl⟩ := List.mem_map.mp isParsed
  split at isError
  · cases isError
  · next isParseError =>
      cases isError
      exact plain_of_parseHeader isParseError

theorem names_or_plain_of_mem_handleHeaderList {filter : List HTTPHeader → HTTPRouteFilter}
    (isWarning : warning ∈ (handleHeaderList text kind value filter).warnings) :
    Names warning kind ∨ Plain warning := by
  unfold handleHeaderList at isWarning
  split at isWarning
  · cases isWarning
  · split at isWarning
    · cases List.mem_singleton.mp isWarning
      have isBlank : StartsWith " " " references ConfigMap " := by decide
      exact Or.inl (((names_blank kind isBlank).append _).append _)
    · exact Or.inr (plain_of_mem_parseHeaderList isWarning)

theorem names_of_mem_handleAppRoot (quotes : text.QuotesKeys)
    (isWarning : warning ∈ (handleAppRoot text value).warnings) : Names warning .appRoot := by
  unfold handleAppRoot at isWarning
  split at isWarning
  · cases List.mem_singleton.mp isWarning
    exact names_quoted quotes .appRoot _
  · cases List.mem_singleton.mp isWarning
    exact (((((names_equals .appRoot _).append _).append _).append _).append _)

theorem names_of_mem_handleAffinity
    (isWarning : warning ∈ (handleAffinity text value annotations).warnings) :
    Names warning .affinity := by
  simp only [handleAffinity, warnings_whenSet, List.mem_ite_nil_left] at isWarning
  obtain ⟨-, isWarning⟩ := isWarning
  split at isWarning
  · cases List.mem_singleton.mp isWarning
    exact (names_equals .affinity _).append _
  · cases List.mem_singleton.mp isWarning
    have isName : Names "affinity=cookie requires BackendTrafficPolicy: " .affinity := by decide
    exact ((isName.append _).append _).append _

theorem names_of_mem_handleAuthType {silent : Bool}
    (isWarning : warning ∈ (handleAuthType text silent value annotations).warnings) :
    Names warning .authType := by
  unfold handleAuthType at isWarning
  simp only at isWarning
  split at isWarning
  · cases isWarning
  · split at isWarning
    · split at isWarning
      · cases isWarning
      · cases List.mem_singleton.mp isWarning
        have isName : Names "auth-type=basic requires SecurityPolicy: spec.basicAuth=\x7b"
          .authType := by decide
        exact (isName.append _).append _
    · split at isWarning
      · cases List.mem_singleton.mp isWarning
        decide
      · cases List.mem_singleton.mp isWarning
        exact (names_equals .authType _).append _

theorem names_of_mem_handleBackendProtocol
    (isWarning : warning ∈ (handleBackendProtocol text value).warnings) :
    Names warning .backendProtocol := by
  unfold handleBackendProtocol at isWarning
  simp only at isWarning
  split at isWarning
  · cases isWarning
  · split at isWarning
    · cases List.mem_singleton.mp isWarning
      exact (names_equals .backendProtocol _).append _
    · split at isWarning
      · cases List.mem_singleton.mp isWarning
        decide
      · split at isWarning
        · cases isWarning
        · split at isWarning
          · cases List.mem_singleton.mp isWarning
            decide
          · cases List.mem_singleton.mp isWarning
            exact (names_equals .backendProtocol _).append _

theorem names_of_mem_handleCanaryEnabled
    (isWarning : warning ∈ (handleCanaryEnabled value annotations).warnings) :
    Names warning .canary := by
  unfold handleCanaryEnabled at isWarning
  extract_lets weight total header headerValue cookie config at isWarning
  rw [warnings_whenTrue, List.mem_ite_nil_right] at isWarning
  obtain ⟨-, isWarning⟩ := isWarning
  split at isWarning
  · cases List.mem_singleton.mp isWarning
    decide
  · cases List.mem_singleton.mp isWarning
    have isName : Names "canary ingress with \x7b" .canary := by decide
    exact (isName.append _).append _

theorem names_of_mem_handleEnableCORS
    (isWarning : warning ∈ (handleEnableCORS text value annotations).warnings) :
    Names warning .enableCORS := by
  simp only [handleEnableCORS, warnings_whenTrue, warnings_warn, List.mem_ite_nil_right,
    List.mem_singleton] at isWarning
  obtain ⟨-, rfl⟩ := isWarning
  have isName : Names "enable-cors=true requires SecurityPolicy: spec.cors=\x7b" .enableCORS := by
    decide
  exact (isName.append _).append _

theorem names_of_mem_handlePreserveHost
    (isWarning : warning ∈ (handlePreserveHost value).warnings) :
    Names warning .preserveHost := by
  unfold handlePreserveHost at isWarning
  split at isWarning
  · cases isWarning
  · cases List.mem_singleton.mp isWarning
    decide +kernel

/-- Every warning of a handler names its annotation, or is about a header of its list. -/
theorem names_or_plain_of_mem_handle (quotes : text.QuotesKeys) {skipPolicyWarnings : Bool}
    (isWarning : warning ∈
      (kind.handle text skipPolicyWarnings value annotations).warnings) :
    Names warning kind ∨ Plain warning := by
  have unlessSkipped {handled : Handled}
      (isWarning : warning ∈ (if skipPolicyWarnings then {} else handled : Handled).warnings) :
      warning ∈ handled.warnings := by
    cases skipPolicyWarnings with
    | true => cases isWarning
    | false => exact isWarning
  cases kind with
  | sslRedirect =>
      simp only [handleSSLRedirect, Annotation.handle, warnings_whenTrue] at isWarning
      split at isWarning
      · split at isWarning <;> cases isWarning
      · cases isWarning
  | forceSSLRedirect =>
      simp only [handleForceSSLRedirect, Annotation.handle, warnings_whenTrue] at isWarning
      split at isWarning <;> cases isWarning
  | permanentRedirect | temporalRedirect =>
      exact Or.inl (names_of_mem_handleURLRedirect quotes isWarning)
  | rewriteTarget => exact Or.inl (names_of_mem_handleRewriteTarget quotes isWarning)
  | customHeaders | proxySetHeaders => exact names_or_plain_of_mem_handleHeaderList isWarning
  | proxyConnectTimeout | proxyReadTimeout | proxySendTimeout | whitelistSourceRange
  | denylistSourceRange =>
      exact Or.inl (names_of_mem_suggest (unlessSkipped isWarning))
  | limitRPS | limitRPM | limitConnections =>
      exact Or.inl (names_of_mem_handleLimit (unlessSkipped isWarning))
  | proxyBodySize | authURL | proxySSLSecret | proxySSLVerify | proxySSLName =>
      exact Or.inl (names_of_mem_suggest isWarning)
  | proxySSLServerName =>
      unfold Annotation.handle at isWarning
      dsimp only at isWarning
      split at isWarning
      · cases isWarning
      · exact Or.inl (names_of_mem_suggest isWarning)
  | serverSnippet | configurationSnippet | streamSnippet | enableModSecurity
  | enableOWASPCoreRules | upstreamHashBy =>
      cases List.mem_singleton.mp isWarning
      exact Or.inl (names_quoted quotes _ _)
  | appRoot => exact Or.inl (names_of_mem_handleAppRoot quotes isWarning)
  | preserveHost => exact Or.inl (names_of_mem_handlePreserveHost isWarning)
  | enableCORS => exact Or.inl (names_of_mem_handleEnableCORS (unlessSkipped isWarning))
  | affinity => exact Or.inl (names_of_mem_handleAffinity isWarning)
  | authType => exact Or.inl (names_of_mem_handleAuthType isWarning)
  | backendProtocol => exact Or.inl (names_of_mem_handleBackendProtocol isWarning)
  | canary => exact Or.inl (names_of_mem_handleCanaryEnabled isWarning)
  | useRegex | sslPassthrough =>
      simp only [warnings_whenTrue, Annotation.handle, warnings_warn, List.mem_ite_nil_right,
        List.mem_singleton] at isWarning
      obtain ⟨-, rfl⟩ := isWarning
      left
      decide +kernel
  | upstreamVhost | xForwardedPrefix =>
      simp only [handleUpstreamVhost, Annotation.handle, handleXForwardedPrefix,
        handleRequestHeader, warnings_whenSet, ite_self] at isWarning
      cases isWarning
  | hsts =>
      simp only [handleHSTS, Annotation.handle, warnings_whenTrue, ite_self] at isWarning
      cases isWarning
  -- the other annotations are read by the handler of another one
  | _ => cases isWarning

end Handlers

/-! ## Warnings of the conversion -/

section Conversion

variable {text : GoText} {warning ns : String} {services : Option (GoMap ObjectKey Service)}

theorem plain_of_mem_resolvePort {texts : PortWarnings} {svc : IngressServiceBackend}
    (isWarning : warning ∈ (resolvePort text texts svc ns services).2) : Plain warning := by
  have ofService {rest : String}
      (isWarning : warning ∈ ["service " ++ text.quote svc.name ++ rest]) : Plain warning := by
    cases List.mem_singleton.mp isWarning
    exact ⟨"service", by decide, (startsWith_append "service " _).append _⟩
  have ofText {middle rest : String} (isWarning : warning ∈
      ["service " ++ text.quote svc.name ++ middle ++ rest]) : Plain warning := by
    rw [String.append_assoc] at isWarning
    exact ofService isWarning
  unfold resolvePort at isWarning
  simp only at isWarning
  split at isWarning
  · split at isWarning
    · rw [String.append_assoc] at isWarning
      exact ofText isWarning
    · cases isWarning
  · split at isWarning
    · split at isWarning
      · rw [String.append_assoc] at isWarning
        exact ofText isWarning
      · split at isWarning
        · exact ofService isWarning
        · split at isWarning
          · cases isWarning
          · exact ofText isWarning
    · split at isWarning
      · exact ofService isWarning
      · split at isWarning
        · exact ofService isWarning
        · split at isWarning
          · cases isWarning
          · exact ofService isWarning
          · exact ofService isWarning

theorem plain_of_mem_convertPathBackend {φ : Type} {texts : PortWarnings} {backend : IngressBackend}
    (isWarning : warning ∈ (convertPathBackend φ text texts backend ns services).2) :
    Plain warning := by
  unfold convertPathBackend at isWarning
  split at isWarning
  · exact plain_of_mem_resolvePort isWarning
  · cases List.mem_singleton.mp isWarning
    refine ⟨"resource", by decide, ?_⟩
    exact ((startsWith_append ("resource" ++ " ") "backend ").append _).append _
  · cases isWarning

theorem plain_of_mem_convertDefaultReference {φ : Type} {texts : PortWarnings}
    {backend : IngressBackend}
    (isWarning : warning ∈ (convertDefaultReference φ text texts backend ns services).2) :
    Plain warning := by
  unfold convertDefaultReference at isWarning
  split at isWarning
  · exact plain_of_mem_resolvePort isWarning
  · cases List.mem_singleton.mp isWarning
    refine ⟨"default", by decide, ?_⟩
    exact ((startsWith_append ("default" ++ " ") "backend uses resource ").append _).append _
  · cases List.mem_singleton.mp isWarning
    exact ⟨"default", by decide, by decide⟩

theorem plain_path (rest : String) : Plain ("path " ++ rest) :=
  ⟨"path", by decide, startsWith_append "path " rest⟩

theorem plain_of_mem_convertToHTTPRoutes {surroundings : Surroundings} {input : Input}
    {parentRef : ParentReference} {filters : List HTTPRouteFilter}
    (isWarning : warning ∈ (convertToHTTPRoutes surroundings input parentRef filters).2) :
    Plain warning := by
  simp only [convertToHTTPRoutes, List.mem_append, List.mem_flatMap] at isWarning
  rcases isWarning with ⟨path, -, isWarning⟩ | ⟨backend, -, isWarning⟩
  · simp only [convertPathWithServices, List.mem_append, List.mem_ite_nil_right,
      List.mem_singleton] at isWarning
    rcases isWarning with ⟨-, rfl⟩ | isWarning
    · exact (plain_path _).append _
    · exact plain_of_mem_convertPathBackend isWarning
  · exact plain_of_mem_convertDefaultReference isWarning

theorem plain_of_mem_convertToGRPCRoutes {surroundings : Surroundings} {input : Input}
    {parentRef : ParentReference}
    (isWarning : warning ∈ (convertToGRPCRoutes surroundings input parentRef).2) :
    Plain warning := by
  simp only [convertToGRPCRoutes, List.mem_append, List.mem_flatMap, Option.mem_toList,
    Option.map_eq_some_iff] at isWarning
  rcases isWarning with ⟨path, -, isWarning⟩ | ⟨_, ⟨backend, -, rfl⟩, isWarning⟩
  · simp only [convertPathToGRPCRule, List.mem_append, List.mem_ite_nil_right,
      List.mem_singleton] at isWarning
    rcases isWarning with ⟨-, rfl⟩ | isWarning
    · exact ((plain_path _).append _).append _
    · exact plain_of_mem_convertPathBackend isWarning
  · exact plain_of_mem_convertDefaultReference isWarning

theorem plain_of_mem_tlsWarnings {tlsConfigs : List IngressTLS}
    (isWarning : warning ∈ tlsWarnings tlsConfigs) : Plain warning := by
  obtain ⟨tls, -, isText⟩ := List.mem_filterMap.mp isWarning
  rw [Option.ite_none_right_eq_some, Option.some.injEq] at isText
  obtain ⟨-, rfl⟩ := isText
  refine ⟨"TLS", by decide, ?_⟩
  exact ((startsWith_append ("TLS" ++ " ") "config has hosts [").append _).append _

/-- A warning of the annotation converter comes from the handler of a present
annotation. -/
theorem mem_warnings_convertAnnotations {skipPolicyWarnings : Bool} {annotations : StringMap} :
    warning ∈ (convertAnnotations text skipPolicyWarnings annotations).warnings ↔
      ∃ kind : Annotation, (annotations.lookup kind.key).isSome ∧
        warning ∈ (kind.handle text skipPolicyWarnings
          (annotationValue annotations kind) annotations).warnings := by
  simp only [convertAnnotations, handledKeys, List.mem_flatMap, List.mem_map, List.mem_filterMap,
    GoMap.mem_sortedKeys, Option.map_eq_some_iff, ← Option.isSome_iff_exists]
  constructor
  · rintro ⟨_, ⟨_, ⟨key, isPresent, kind, registered, rfl⟩, rfl⟩, isWarning⟩
    cases Annotation.ofKey_eq_some registered
    exact ⟨kind, isPresent, isWarning⟩
  · rintro ⟨kind, isPresent, isWarning⟩
    exact ⟨_, ⟨_, ⟨kind.key, isPresent, kind, Annotation.ofKey_key kind, rfl⟩,
      rfl⟩, isWarning⟩

/-- An annotation is named by a warning of the annotation converter only if its own
handler names it. -/
theorem names_convertAnnotations_iff (quotes : text.QuotesKeys) {skipPolicyWarnings : Bool}
    {annotations : StringMap} {kind : Annotation} :
    (∃ warning ∈ (convertAnnotations text skipPolicyWarnings annotations).warnings,
        Names warning kind) ↔
      (annotations.lookup kind.key).isSome ∧
        ∃ warning ∈ (kind.handle text skipPolicyWarnings
          (annotationValue annotations kind) annotations).warnings,
            Names warning kind := by
  constructor
  · rintro ⟨warning, isWarning, names⟩
    obtain ⟨other, isPresent, isWarning⟩ := mem_warnings_convertAnnotations.mp isWarning
    rcases names_or_plain_of_mem_handle quotes isWarning with namesOther | isPlain
    · cases eq_of_names names namesOther
      exact ⟨isPresent, warning, isWarning, names⟩
    · exact absurd names (not_names_of_plain isPlain)
  · rintro ⟨isPresent, warning, isWarning, names⟩
    exact ⟨warning, mem_warnings_convertAnnotations.mpr ⟨kind, isPresent, isWarning⟩, names⟩

variable {surroundings : Surroundings} {input : Input} {kind : Annotation}

theorem plain_noRoutes : Plain "no routes generated, Ingress may be misconfigured" :=
  ⟨"no", by decide, by decide⟩

/-- Besides the annotation converter nothing names an annotation. -/
theorem names_convertIngress_of_http
    (notGRPC : isGRPCIngress surroundings.text input.ingress = false) :
    (∃ warning ∈ (convertIngressWithServices surroundings input).warnings,
        Names warning kind) ↔
      ∃ warning ∈ (convertAnnotations surroundings.text input.skipPolicyWarnings
        input.ingress.metadata.annotations).warnings, Names warning kind := by
  simp only [convertIngressWithServices, notGRPC, Bool.false_eq_true, if_false, List.mem_append,
    List.mem_ite_nil_right, List.mem_singleton]
  constructor
  · rintro ⟨warning, ((isWarning | isWarning) | isWarning) | ⟨-, rfl⟩, names⟩
    · exact ⟨warning, isWarning, names⟩
    · exact absurd names (not_names_of_plain (plain_of_mem_tlsWarnings isWarning))
    · exact absurd names (not_names_of_plain (plain_of_mem_convertToHTTPRoutes isWarning))
    · exact absurd names (not_names_of_plain plain_noRoutes)
  · rintro ⟨warning, isWarning, names⟩
    exact ⟨warning, Or.inl (Or.inl (Or.inl isWarning)), names⟩

/-- For a gRPC Ingress only its protocol is named. -/
theorem eq_backendProtocol_of_grpc
    (isGRPC : isGRPCIngress surroundings.text input.ingress = true)
    (isWarning : warning ∈ (convertIngressWithServices surroundings input).warnings)
    (names : Names warning kind) : kind = .backendProtocol := by
  simp only [convertIngressWithServices, isGRPC, if_true, List.mem_append,
    List.mem_ite_nil_right, List.mem_singleton] at isWarning
  rcases isWarning with ((rfl | isWarning) | isWarning) | ⟨-, rfl⟩
  · exact eq_of_names names (by decide +kernel)
  · exact absurd names (not_names_of_plain (plain_of_mem_tlsWarnings isWarning))
  · exact absurd names (not_names_of_plain (plain_of_mem_convertToGRPCRoutes isWarning))
  · exact absurd names (not_names_of_plain plain_noRoutes)

theorem names_convertToPolicies {policyInput : PolicyConversionInput}
    (isWarning : warning ∈ (convertToPolicies policyInput).warnings)
    (names : Names warning kind) :
    kind ∈ ([.affinity, .authURL, .proxyBodySize] : List Annotation) := by
  simp only [convertToPolicies, buildBackendTrafficPolicy, List.mem_append, List.mem_ite_nil_right,
    List.mem_singleton] at isWarning
  rcases isWarning with (⟨-, rfl⟩ | ⟨-, rfl⟩) | ⟨-, rfl⟩
  · have isNamed : kind = .affinity := eq_of_names names (by decide +kernel)
    rw [isNamed]
    decide
  · have isNamed : kind = .authURL := eq_of_names names (by decide +kernel)
    rw [isNamed]
    decide
  · have isNamed : kind = .proxyBodySize := eq_of_names names (by decide +kernel)
    rw [isNamed]
    decide

end Conversion

end KubeLB.Conversion
