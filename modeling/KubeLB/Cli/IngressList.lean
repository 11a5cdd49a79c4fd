import KubeLB.Cli.ConvertsAlike
import KubeLB.Library.Separators

/-!
Contract: the conversion status of an Ingress as the command line tool lists it.

Owns: `extractInfo`, the annotations that `updateIngressStatus` sets, the two writers of the
annotation with the warnings, and the lists of warnings that are listed as they were written.

Does not own: the table that is printed.
-/

set_option autoImplicit false

namespace KubeLB.Cli

open KubeLB.Library KubeLB.Core KubeLB.Networking KubeLB.GatewayApi KubeLB.Controllers
  KubeLB.Conversion

/-! ## Listing -/

/-- `Info`. The status is any text that an annotation holds. -/
structure Info where
  name : String
  ns : String
  status : String := "new"
  hosts : List String := []
  httpRoutes : List String := []
  grpcRoutes : List String := []
  warnings : List String := []
  skipReason : String := ""
  deriving DecidableEq, Repr

def splitText (separator : Char) (text : String) : List String :=
  (text.toList.splitOn separator).map String.ofList

def listedParts (separator : Char) (text : String) : List String :=
  if text = "" then [] else splitText separator text

def extractInfo (ingress : Ingress) : Info :=
  let annotations := ingress.metadata.annotations
  let hosts := (ingress.spec.rules.map (fun rule => rule.host)).filter (fun host => host ≠ "")
  let reason := annotations.get annotationConversionSkipReason
  if shouldSkip ingress then
    { name := ingress.metadata.name
      ns := ingress.metadata.ns
      hosts := hosts
      status := ConversionStatus.skipped.text
      skipReason := if reason = "" then "marked with skip-conversion" else reason }
  else
    { name := ingress.metadata.name
      ns := ingress.metadata.ns
      hosts := hosts
      status := (annotations.lookup annotationConversionStatus).getD "new"
      httpRoutes := listedParts ',' (annotations.get annotationConvertedHTTPRoute)
      grpcRoutes := listedParts ',' (annotations.get annotationConvertedGRPCRoute)
      warnings := listedParts ';' (annotations.get annotationConversionWarnings)
      skipReason := reason }

/-! ## Status -/

def conversionStatus (warnings : List String) (accepted : Bool) : ConversionStatus :=
  if accepted = false then .pending
  else if warnings = [] then .converted
  else .partlyConverted

/-- The value of an annotation that stays as it was when there is nothing to list. -/
def setUnlessEmpty (annotations : StringMap) (key : String) (parts : List String)
    (separator : String) : StringMap :=
  if parts = [] then annotations
  else annotations.insert key (separator.intercalate parts)

/-- The annotations that `updateIngressStatus` sets. -/
def markedAnnotations (annotations : StringMap) (convResult : ConversionResult)
    (accepted : Bool) : StringMap :=
  let marked := annotations.insert annotationConversionStatus
    (conversionStatus convResult.warnings accepted).text
  let http := setUnlessEmpty marked annotationConvertedHTTPRoute
    (convResult.httpRoutes.map (fun route => route.metadata.name)) ","
  let grpc := setUnlessEmpty http annotationConvertedGRPCRoute
    (convResult.grpcRoutes.map (fun route => route.metadata.name)) ","
  setUnlessEmpty grpc annotationConversionWarnings convResult.warnings ";"

theorem get_setUnlessEmpty_of_ne {annotations : StringMap} {key other : String}
    {parts : List String} {separator : String} (different : key ≠ other) :
    (setUnlessEmpty annotations other parts separator).get key = annotations.get key := by
  unfold setUnlessEmpty StringMap.get
  split
  · rfl
  · rw [Finmap.lookup_insert_of_ne _ different]

theorem get_markedAnnotations_of_ne {annotations : StringMap} {convResult : ConversionResult}
    {accepted : Bool} {key : String}
    (notStatus : key ≠ annotationConversionStatus) (notHTTP : key ≠ annotationConvertedHTTPRoute)
    (notGRPC : key ≠ annotationConvertedGRPCRoute)
    (notWarnings : key ≠ annotationConversionWarnings) :
    (markedAnnotations annotations convResult accepted).get key = annotations.get key := by
  rw [markedAnnotations, get_setUnlessEmpty_of_ne notWarnings, get_setUnlessEmpty_of_ne notGRPC,
    get_setUnlessEmpty_of_ne notHTTP, StringMap.get, Finmap.lookup_insert_of_ne _ notStatus]
  rfl

/-! ## Writers -/

/-- Who writes the status of a conversion, with the rest of what is written. -/
inductive StatusWriter where
  | controller (time : GoTime) (now : Int) (decision : StatusDecision)
      (httpRouteNames grpcRouteNames : List String)
  | tool (convResult : ConversionResult) (accepted : Bool)

def StatusWriter.written (annotations : StringMap) (warnings : List String) :
    StatusWriter → StringMap
  | controller time now decision httpRouteNames grpcRouteNames =>
      statusAnnotations time now annotations decision warnings httpRouteNames grpcRouteNames
  | tool convResult accepted =>
      markedAnnotations annotations { convResult with warnings := warnings } accepted

def StatusWriter.stored (writer : StatusWriter) (ingress : Ingress) (warnings : List String) :
    Ingress :=
  { ingress with
    metadata :=
      { ingress.metadata with
        annotations := writer.written ingress.metadata.annotations warnings } }

/-- The warnings are listed as they were written. -/
def RelistsWarnings (writer : StatusWriter) (ingress : Ingress) (warnings : List String) : Prop :=
  (extractInfo (writer.stored ingress warnings)).warnings = warnings

instance (writer : StatusWriter) (ingress : Ingress) (warnings : List String) :
    Decidable (RelistsWarnings writer ingress warnings) :=
  inferInstanceAs (Decidable (_ = _))

/-- The warnings can be told apart in the annotation. The controller pads its separator, so
that only a single warning can; the tool leaves the warnings of an earlier conversion in
place if it has none. -/
def StatusWriter.TellsApart (ingress : Ingress) (warnings : List String) : StatusWriter → Prop
  | controller _ _ _ _ _ =>
      warnings = [] ∨ ∃ warning, warnings = [warning] ∧ warning ≠ "" ∧ ';' ∉ warning.toList
  | tool _ _ =>
      warnings = [] ∧ ingress.metadata.annotations.get annotationConversionWarnings = "" ∨
        warnings ≠ [] ∧ warnings ≠ [""] ∧ ∀ warning ∈ warnings, ';' ∉ warning.toList

/-! ## Joined texts -/

section Texts

variable {texts : List String}

theorem map_ofList_eq_iff {pieces : List (List Char)} :
    pieces.map String.ofList = texts ↔ pieces = texts.map String.toList := by
  constructor
  · rintro rfl
    simp [List.map_map, Function.comp_def]
  · rintro rfl
    simp [List.map_map, Function.comp_def]

theorem splitText_join_iff :
    splitText ';' (";".intercalate texts) = texts ↔
      texts ≠ [] ∧ ∀ text ∈ texts, ';' ∉ text.toList := by
  have separator : ";".toList = [';'] := rfl
  rw [splitText, map_ofList_eq_iff, String.toList_intercalate, separator, splitOn_intercalate_iff]
  simp

theorem splitText_padded_iff :
    splitText ';' ("; ".intercalate texts) = texts ↔
      ∃ text, texts = [text] ∧ ';' ∉ text.toList := by
  have separator : "; ".toList = ';' :: [' '] := rfl
  rw [splitText, map_ofList_eq_iff, String.toList_intercalate, separator,
    splitOn_intercalate_padded_iff (by decide)]
  constructor
  · rintro ⟨piece, single, plain⟩
    obtain ⟨text, rfl, rfl⟩ := List.map_eq_singleton_iff.mp single
    exact ⟨text, rfl, plain⟩
  · rintro ⟨text, rfl, plain⟩
    exact ⟨text.toList, rfl, plain⟩

theorem intercalate_eq_empty_iff {separator : String} (notEmpty : separator ≠ "") :
    separator.intercalate texts = "" ↔ texts = [] ∨ texts = [""] := by
  match texts with
  | [] => simp
  | [text] => simp
  | text :: next :: rest => simp [String.intercalate_cons_cons, notEmpty]

end Texts

theorem listedParts_intercalate_iff {separator : String} (notEmpty : separator ≠ "")
    {warnings : List String} :
    listedParts ';' (separator.intercalate warnings) = warnings ↔
      warnings = [] ∨ warnings ≠ [""] ∧
        splitText ';' (separator.intercalate warnings) = warnings := by
  unfold listedParts
  split
  · rename_i empty
    rcases (intercalate_eq_empty_iff notEmpty).mp empty with rfl | rfl
    · simp
    · simp
  · rename_i hasText
    rw [intercalate_eq_empty_iff notEmpty, not_or] at hasText
    rw [or_iff_right hasText.1, and_iff_right hasText.2]

theorem listedParts_join_iff {warnings : List String} :
    listedParts ';' (";".intercalate warnings) = warnings ↔
      warnings ≠ [""] ∧ ∀ warning ∈ warnings, ';' ∉ warning.toList := by
  rw [listedParts_intercalate_iff (by decide), splitText_join_iff]
  by_cases empty : warnings = []
  · simp [empty]
  · rw [or_iff_right empty, and_iff_right empty]

theorem listedParts_padded_iff {warnings : List String} :
    listedParts ';' ("; ".intercalate warnings) = warnings ↔
      warnings = [] ∨ ∃ warning, warnings = [warning] ∧ warning ≠ "" ∧ ';' ∉ warning.toList := by
  rw [listedParts_intercalate_iff (by decide), splitText_padded_iff]
  refine or_congr_right ?_
  constructor
  · rintro ⟨notEmpty, warning, rfl, plain⟩
    exact ⟨warning, rfl, fun empty => notEmpty (by rw [empty]), plain⟩
  · rintro ⟨warning, rfl, notEmpty, plain⟩
    exact ⟨fun same => notEmpty (List.singleton_inj.mp same), warning, rfl, plain⟩

/-! ## What is written -/

section Written

variable {writer : StatusWriter} {annotations : StringMap} {warnings : List String}

/-- The annotations that decide whether an Ingress is skipped are left alone. -/
theorem get_written_of_ne {key : String} (notStatus : key ≠ annotationConversionStatus)
    (notHTTP : key ≠ annotationConvertedHTTPRoute) (notGRPC : key ≠ annotationConvertedGRPCRoute)
    (notWarnings : key ≠ annotationConversionWarnings)
    (notTimestamp : key ≠ annotationVerificationTimestamp) :
    (writer.written annotations warnings).get key = annotations.get key := by
  cases writer with
  | controller time now decision httpRouteNames grpcRouteNames =>
      rw [StatusWriter.written, statusAnnotations, get_setOrDelete_of_ne notGRPC,
        get_setOrDelete_of_ne notHTTP, StringMap.get, Finmap.lookup_insert_of_ne _ notStatus,
        ← StringMap.get, get_setOrDelete_of_ne notWarnings]
      split_ifs
      · rw [StringMap.get, Finmap.lookup_erase_ne notTimestamp, ← StringMap.get]
      · rw [StringMap.get, Finmap.lookup_insert_of_ne _ notTimestamp, ← StringMap.get]
      · rfl
  | tool convResult accepted =>
      exact get_markedAnnotations_of_ne notStatus notHTTP notGRPC notWarnings

theorem shouldSkip_congr {ingress other : Ingress}
    (sameLabels : ingress.metadata.labels = other.metadata.labels)
    (sameSkip : ingress.metadata.annotations.get annotationSkipConversion =
      other.metadata.annotations.get annotationSkipConversion)
    (sameCanary : ingress.metadata.annotations.get Annotation.canary.key =
      other.metadata.annotations.get Annotation.canary.key) :
    shouldSkip ingress = shouldSkip other := by
  rw [shouldSkip, shouldSkip, annotationValue, annotationValue, sameLabels, sameSkip, sameCanary]

theorem shouldSkip_stored {ingress : Ingress} :
    shouldSkip (writer.stored ingress warnings) = shouldSkip ingress := by
  have sameSkip : (writer.written ingress.metadata.annotations warnings).get
      annotationSkipConversion = ingress.metadata.annotations.get annotationSkipConversion :=
    get_written_of_ne (by decide) (by decide) (by decide) (by decide) (by decide)
  have sameCanary : (writer.written ingress.metadata.annotations warnings).get
      Annotation.canary.key = ingress.metadata.annotations.get Annotation.canary.key :=
    get_written_of_ne (by decide) (by decide) (by decide) (by decide) (by decide)
  exact shouldSkip_congr rfl sameSkip sameCanary

theorem get_warnings_statusAnnotations {time : GoTime} {now : Int} {decision : StatusDecision}
    {httpRouteNames grpcRouteNames : List String} :
    (statusAnnotations time now annotations decision warnings httpRouteNames grpcRouteNames).get
      annotationConversionWarnings = "; ".intercalate warnings := by
  rw [statusAnnotations, get_setOrDelete_of_ne (by decide), get_setOrDelete_of_ne (by decide),
    StringMap.get, Finmap.lookup_insert_of_ne _ (by decide), ← StringMap.get, setOrDelete]
  split
  · rename_i noWarnings
    rw [noWarnings, StringMap.get, Finmap.lookup_erase, String.intercalate_nil]
    rfl
  · rw [StringMap.get, Finmap.lookup_insert]
    rfl

theorem get_warnings_markedAnnotations {convResult : ConversionResult} {accepted : Bool} :
    (markedAnnotations annotations convResult accepted).get annotationConversionWarnings =
      if convResult.warnings = [] then annotations.get annotationConversionWarnings
      else ";".intercalate convResult.warnings := by
  rw [markedAnnotations, setUnlessEmpty]
  split
  · rw [get_setUnlessEmpty_of_ne (by decide), get_setUnlessEmpty_of_ne (by decide), StringMap.get,
      Finmap.lookup_insert_of_ne _ (by decide), ← StringMap.get]
  · rw [StringMap.get, Finmap.lookup_insert]
    rfl

end Written

theorem listedParts_eq_nil_iff {separator : Char} {text : String} :
    listedParts separator text = [] ↔ text = "" := by
  unfold listedParts
  split
  · rename_i empty
    exact iff_of_true rfl empty
  · rename_i notEmpty
    refine iff_of_false ?_ notEmpty
    rw [splitText, List.map_eq_nil_iff]
    exact List.splitOn_ne_nil _ _

/-- Warnings are listed as they were written exactly if they can be told apart in the
annotation, and an Ingress that is listed as skipped has none. -/
theorem relistsWarnings_iff (writer : StatusWriter) (ingress : Ingress) (warnings : List String) :
    RelistsWarnings writer ingress warnings ↔
      shouldSkip ingress = true ∧ warnings = [] ∨
        shouldSkip ingress = false ∧ writer.TellsApart ingress warnings := by
  rw [RelistsWarnings, extractInfo, shouldSkip_stored]
  by_cases skipped : shouldSkip ingress = true
  · simp only [skipped, if_true, true_and, Bool.true_eq_false, false_and, or_false]
    exact eq_comm
  · rw [Bool.not_eq_true] at skipped
    simp only [skipped, Bool.false_eq_true, if_false, true_and, false_and, false_or]
    cases writer with
    | controller time now decision httpRouteNames grpcRouteNames =>
        rw [StatusWriter.stored, StatusWriter.written, get_warnings_statusAnnotations,
          listedParts_padded_iff, StatusWriter.TellsApart]
    | tool convResult accepted =>
        rw [StatusWriter.stored, StatusWriter.written, get_warnings_markedAnnotations,
          StatusWriter.TellsApart]
        by_cases noWarnings : warnings = []
        · subst noWarnings
          simp [listedParts_eq_nil_iff]
        · simp only [noWarnings, if_false, false_and, false_or, ne_eq, not_false_eq_true, true_and,
            listedParts_join_iff]

/-! ## A host without a certificate -/

def teamIngress (team secretName : String) : Ingress where
  metadata := { name := "shop", ns := team }
  spec :=
    { tls := [{ hosts := [team ++ ".example.com"], secretName := secretName }]
      rules := [
        { host := team ++ ".example.com", http := some [servicePath "/" "shop" 80] }] }

/-- The single warning for a host without a secret has a semicolon, and is listed as two
by either writer. -/
theorem missing_secret_listed_twice :
    let ingress := teamIngress "red" ""
    let converted := convertIngressWithServices plainSurroundings (conversionInput {} ingress ∅)
    let decision : StatusDecision :=
      { status := .partlyConverted, requeue := false, clearVerifyTime := true }
    let controller := StatusWriter.controller tallyTime 0 decision [] []
    let tool := StatusWriter.tool converted true
    converted.warnings =
        ["TLS config has hosts [red.example.com] but no secretName; Gateway will need manual " ++
          "certificate configuration or cert-manager"] ∧
      (extractInfo (controller.stored ingress converted.warnings)).warnings.length = 2 ∧
      ¬ RelistsWarnings controller ingress converted.warnings ∧
      (extractInfo (tool.stored ingress converted.warnings)).warnings.length = 2 ∧
      ¬ RelistsWarnings tool ingress converted.warnings := by
  intro ingress converted decision controller tool
  refine ⟨by decide +kernel, by decide +kernel, by decide +kernel, by decide +kernel,
    by decide +kernel⟩

end KubeLB.Cli
