import KubeLB.Api.Secrets
import KubeLB.Conversion.Gateway
import KubeLB.Conversion.Policies
import KubeLB.Library.Passes
import KubeLB.Library.Store

/-!
Contract: the controller that converts Ingresses.

Owns: the objects it reads and writes, `shouldConvert`, the copies of TLS secrets, the
shared Gateway, the generated routes and policies, the status annotations, and one
pass of `Reconcile`.

Does not own: events, logs and owner references. How a Gateway judges a route comes
with the pass. A pass is atomic: no other writer acts between its first read and its
last write.
-/

set_option autoImplicit false

namespace KubeLB.Conversion

open KubeLB.Library KubeLB.Core KubeLB.Networking KubeLB.GatewayApi KubeLB.EnvoyGateway
  KubeLB.Controllers

/-! ## Objects -/

/-- The objects of the cluster by kind. -/
structure ConversionObjects where
  ingresses : Store (fun ingress : Ingress => keyOf ingress.metadata) := Store.empty
  services : Store (fun service : Service => keyOf service.metadata) := Store.empty
  secrets : Store (fun secret : Secret => keyOf secret.metadata) := Store.empty
  gateways : Store (fun gateway : Gateway => keyOf gateway.metadata) := Store.empty
  httpRoutes : Store (fun route : HTTPRoute => keyOf route.metadata) := Store.empty
  grpcRoutes : Store (fun route : GRPCRoute => keyOf route.metadata) := Store.empty
  securityPolicies : Store (fun policy : SecurityPolicy => keyOf policy.metadata) := Store.empty
  backendTrafficPolicies : Store (fun policy : BackendTrafficPolicy => keyOf policy.metadata) :=
    Store.empty

/-- The kinds of generated objects. -/
inductive GeneratedKind where
  | httpRoute
  | grpcRoute
  | securityPolicy
  | backendTrafficPolicy
  deriving DecidableEq, Repr

def GeneratedKind.text : GeneratedKind → String
  | httpRoute => "HTTPRoute"
  | grpcRoute => "GRPCRoute"
  | securityPolicy => "SecurityPolicy"
  | backendTrafficPolicy => "BackendTrafficPolicy"

/-! ## A pass and its surroundings -/

structure Reconciler where
  gatewayName : String
  gatewayNamespace : String := ""
  gatewayClassName : String := ""
  ingressClass : String := ""
  domainReplace : String := ""
  domainSuffix : String := ""
  propagateExternalDNS : Bool := false
  gatewayAnnotations : StringMap := ∅
  disableEnvoyGatewayFeatures : Bool := false
  copyTLSSecrets : Bool := false

def second : Int := 1000000000

/-- `time.Format` and `time.Parse` with RFC 3339. Times are in nanoseconds, and the
format drops what is below a second. -/
structure GoTime where
  format : Int → String
  parse : String → Option Int

/-- Times with one mark for a second, to evaluate passes with. -/
def tallyTime : GoTime where
  format now :=
    let seconds := now / second
    String.ofList ((if 0 ≤ seconds then '+' else '-') :: List.replicate seconds.natAbs '.')
  parse text :=
    match text.toList with
    | '+' :: marks => some (marks.length * second)
    | '-' :: marks => some (-marks.length * second)
    | _ => none

/-- The calls of a pass that may fail. -/
inductive ConversionCall where
  | getIngress
  /-- The read before the status is written. -/
  | currentIngress
  | updateIngress
  | getService (key : ObjectKey)
  | getSecret (key : ObjectKey)
  | createSecret (key : ObjectKey)
  | updateSecret (key : ObjectKey)
  | getGateway
  | createGateway
  | updateGateway
  | get (kind : GeneratedKind) (key : ObjectKey)
  | create (kind : GeneratedKind) (key : ObjectKey)
  | update (kind : GeneratedKind) (key : ObjectKey)
  deriving DecidableEq, Repr

structure RouteAcceptanceResult where
  accepted : Bool
  reason : String := ""
  deriving DecidableEq, Repr

/-- One pass with what its surroundings decide. -/
structure ConversionPass where
  key : ObjectKey
  surroundings : Surroundings
  time : GoTime
  now : Int
  fault : ConversionCall → Option String := fun _ => none
  /-- What `waitForRouteAcceptance` and `waitForGRPCRouteAcceptance` return. -/
  acceptance : GeneratedKind → ObjectKey → RouteAcceptanceResult

abbrev Converting := Pass ConversionObjects String

/-! ## Which Ingresses are converted -/

def annotationSkipConversion : String := "kubelb.k8c.io/skip-conversion"
def annotationConversionStatus : String := "kubelb.k8c.io/conversion-status"
def annotationConvertedHTTPRoute : String := "kubelb.k8c.io/converted-httproute"
def annotationConvertedGRPCRoute : String := "kubelb.k8c.io/converted-grpcroute"
def annotationConversionWarnings : String := "kubelb.k8c.io/conversion-warnings"
def annotationVerificationTimestamp : String := "kubelb.k8c.io/verification-timestamp"
def annotationConversionSkipReason : String := "kubelb.k8c.io/conversion-skip-reason"
def annotationIngressClass : String := "kubernetes.io/ingress.class"
def skipReasonCanary : String := "canary annotations are not supported"

/-- The values of the status annotation that the controller writes. -/
inductive ConversionStatus where
  | converted
  | partlyConverted
  | pending
  | skipped
  deriving DecidableEq, Repr

def ConversionStatus.text : ConversionStatus → String
  | converted => "converted"
  | partlyConverted => "partial"
  | pending => "pending"
  | skipped => "skipped"

structure ConversionDecision where
  shouldConvert : Bool
  skipReason : String := ""
  annotate : Bool := false
  deriving DecidableEq, Repr

def Reconciler.shouldConvert (reconciler : Reconciler) (ingress : Ingress) : ConversionDecision :=
  let annotations := ingress.metadata.annotations
  let status := annotations.get annotationConversionStatus
  if annotations.get annotationSkipConversion = "true" then { shouldConvert := false }
  else if status = ConversionStatus.converted.text ∨
      status = ConversionStatus.partlyConverted.text then { shouldConvert := false }
  else if annotationValue annotations .canary = "true" then
    { shouldConvert := false, skipReason := skipReasonCanary, annotate := true }
  else if reconciler.ingressClass ≠ "" ∧
      ingress.spec.ingressClassName.getD (annotations.get annotationIngressClass) ≠
        reconciler.ingressClass then { shouldConvert := false }
  else { shouldConvert := true }

/-! ## Input of the conversion -/

def ingressServiceKeys (ingress : Ingress) : List ObjectKey :=
  (ingress.spec.defaultBackend.toList ++
      (ingressPaths ingress.spec.rules).map HTTPIngressPath.backend).filterMap
    (fun backend => backend.service.map (fun service => ⟨ingress.metadata.ns, service.name⟩))

/-- `fetchServicesForIngress`: a Service that is missing or cannot be read is left out. -/
def fetchServicesForIngress (pass : ConversionPass) (objects : ConversionObjects)
    (ingress : Ingress) : GoMap ObjectKey Service :=
  (ingressServiceKeys ingress).foldl (fun services key =>
    if (services.lookup key).isSome ∨ (pass.fault (.getService key)).isSome then services
    else
      match objects.services.get key with
      | none => services
      | some service => services.insert key service) ∅

def Reconciler.input (reconciler : Reconciler) (ingress : Ingress)
    (services : GoMap ObjectKey Service) : Input where
  ingress := ingress
  gatewayName := reconciler.gatewayName
  gatewayNamespace := reconciler.gatewayNamespace
  services := some services
  domainReplace := reconciler.domainReplace
  domainSuffix := reconciler.domainSuffix
  skipPolicyWarnings := !reconciler.disableEnvoyGatewayFeatures

/-! ## TLS secrets -/

def syncedName (ns name : String) : String := "ingress-" ++ ns ++ "-" ++ name

def sourceText (key : ObjectKey) : String := key.ns ++ "/" ++ key.name

section Secrets

variable (reconciler : Reconciler) (pass : ConversionPass)

def Reconciler.targetKey (source : ObjectKey) : ObjectKey where
  ns := reconciler.gatewayNamespace
  name := syncedName source.ns source.name

def Reconciler.newTarget (source : ObjectKey) (secret : Secret) : Secret where
  metadata :=
    { name := syncedName source.ns source.name
      ns := reconciler.gatewayNamespace
      labels := Finmap.singleton Naming.labelManagedBy controllerName
      annotations := Finmap.singleton "kubelb.k8c.io/source-secret" (sourceText source) }
  type := secret.type
  data := secret.data

/-- Copy one secret; `false` when it does not exist. A copy with the same data is left
as it is. -/
def Reconciler.syncSecret (source : ObjectKey) : Converting Bool := do
  let target := reconciler.targetKey source
  Pass.check ((pass.fault (.getSecret source)).map
    (("failed to get TLS secret " ++ sourceText source ++ ": ") ++ ·))
  match ← Pass.read (fun objects : ConversionObjects => objects.secrets.get source) with
  | none => pure false
  | some secret =>
      Pass.check ((pass.fault (.getSecret target)).map
        (("failed to get target TLS secret " ++ target.name ++ ": ") ++ ·))
      match ← Pass.read (fun objects : ConversionObjects => objects.secrets.get target) with
      | none =>
          Pass.check ((pass.fault (.createSecret target)).map
            (("failed to create synced TLS secret " ++ target.name ++ ": ") ++ ·))
          Pass.modify (fun objects =>
            { objects with secrets := objects.secrets.put (reconciler.newTarget source secret) })
          pure true
      | some existing =>
          if existing.data = secret.data then pure true
          else
            Pass.check ((pass.fault (.updateSecret target)).map
              (("failed to update synced TLS secret " ++ target.name ++ ": ") ++ ·))
            let updated : Secret := { existing with type := secret.type, data := secret.data }
            Pass.modify (fun objects => { objects with secrets := objects.secrets.put updated })
            pure true

/-- The loop of `syncTLSSecrets` with the sources seen so far. -/
def Reconciler.syncRounds : List TLSListener → Finset String → Converting (List TLSListener)
  | [], _ => pure []
  | tls :: rest, seen =>
      let source : ObjectKey := ⟨tls.sourceSecretNamespace, tls.sourceSecretName⟩
      let synced : TLSListener := { tls with secretName := syncedName source.ns source.name }
      if tls.sourceSecretName = "" ∨ tls.sourceSecretNamespace = reconciler.gatewayNamespace then
        do
          let others ← Reconciler.syncRounds rest seen
          pure (tls :: others)
      else if sourceText source ∈ seen then
        do
          let others ← Reconciler.syncRounds rest seen
          pure (synced :: others)
      else
        do
          let found ← reconciler.syncSecret pass source
          let others ← Reconciler.syncRounds rest (insert (sourceText source) seen)
          pure ((if found then synced else tls) :: others)

def Reconciler.syncTLSSecrets (tlsListeners : List TLSListener) :
    Converting (List TLSListener) :=
  if reconciler.copyTLSSecrets then reconciler.syncRounds pass tlsListeners ∅
  else pure tlsListeners

end Secrets

/-! ## The Gateway -/

def externalDNSAnnotationPrefix : String := "external-dns.alpha.kubernetes.io/"
def externalDNSTarget : String := "external-dns.alpha.kubernetes.io/target"

def listenerConfigEqual (left right : Listener) : Bool :=
  decide (left.port = right.port ∧ left.protocol = right.protocol ∧
    left.hostname = right.hostname ∧ left.certificateRefs = right.certificateRefs)

def listenersEqual (left right : List Listener) : Bool :=
  decide (left.length = right.length) &&
    right.all (fun listener =>
      ((indexBy Listener.name left).lookup listener.name).any (fun known =>
        listenerConfigEqual known listener))

section Gateway

variable (reconciler : Reconciler) (pass : ConversionPass)

def Reconciler.extractGatewayAnnotations (ingress : Ingress) : StringMap :=
  match ingress.metadata.annotations.lookup externalDNSTarget with
  | some target =>
      if reconciler.propagateExternalDNS then
        reconciler.gatewayAnnotations.insert externalDNSTarget target
      else reconciler.gatewayAnnotations
  | none => reconciler.gatewayAnnotations

def Reconciler.extractHTTPRouteAnnotations (ingress : Ingress) : StringMap :=
  if reconciler.propagateExternalDNS then
    GoMap.retain (fun key => decide (externalDNSAnnotationPrefix.toList <+: key.toList ∧
      key ≠ externalDNSTarget)) ingress.metadata.annotations
  else ∅

/-- The annotations of a Gateway with those that differ from the desired ones. -/
def mergeAnnotations (existing desired : StringMap) : StringMap :=
  GoMap.retain (fun key => decide (existing.get key ≠ desired.get key)) desired ∪ existing

def Reconciler.gatewayNamespaceFor (ingress : Ingress) : String :=
  if reconciler.gatewayNamespace = "" then ingress.metadata.ns else reconciler.gatewayNamespace

def Reconciler.gatewayConfig (ingress : Ingress) (tlsListeners : List TLSListener) :
    GatewayConfig where
  name := reconciler.gatewayName
  ns := reconciler.gatewayNamespaceFor ingress
  className := reconciler.gatewayClassName
  tlsListeners := tlsListeners
  annotations := reconciler.extractGatewayAnnotations ingress

def mergedListeners (existing : Gateway) (config : GatewayConfig) : List Listener :=
  mergeListeners existing.spec.listeners (buildListeners config.tlsListeners)

def gatewayOutdated (existing : Gateway) (config : GatewayConfig) : Bool :=
  !listenersEqual existing.spec.listeners (mergedListeners existing config) ||
    (GoMap.sortedKeys config.annotations).any (fun key =>
      decide (existing.metadata.annotations.get key ≠ config.annotations.get key))

def mergeGateway (existing : Gateway) (config : GatewayConfig) : Gateway :=
  let listeners := mergedListeners existing config
  let annotations := mergeAnnotations existing.metadata.annotations config.annotations
  { metadata := { existing.metadata with annotations := annotations }
    spec :=
      { existing.spec with
        listeners :=
          if listenersEqual existing.spec.listeners listeners then existing.spec.listeners
          else listeners } }

def Reconciler.reconcileGateway (ingress : Ingress) (tlsListeners : List TLSListener) :
    Converting PUnit := do
  let config := reconciler.gatewayConfig ingress tlsListeners
  Pass.check ((pass.fault .getGateway).map ("failed to get Gateway: " ++ ·))
  match ← Pass.read (fun objects : ConversionObjects =>
      objects.gateways.get ⟨config.ns, config.name⟩) with
  | none =>
      Pass.check (pass.fault .createGateway)
      Pass.modify (fun objects =>
        { objects with gateways := objects.gateways.put (buildGateway config) })
  | some existing =>
      if gatewayOutdated existing config then
        Pass.check (pass.fault .updateGateway)
        Pass.modify (fun objects =>
          { objects with gateways := objects.gateways.put (mergeGateway existing config) })

end Gateway

/-! ## Generated objects -/

/-- How objects of a generated kind are stored and overwritten. -/
structure GeneratedStore (α : Type) where
  kind : GeneratedKind
  metadata : α → ObjectMeta
  stored : ConversionObjects → Store (fun object : α => keyOf (metadata object))
  store : Store (fun object : α => keyOf (metadata object)) → ConversionObjects → ConversionObjects
  /-- What an update makes of an existing and a desired object. -/
  replace : α → α → α

/-- The update of a route. -/
def replacedRouteMetadata (existing desired : ObjectMeta) : ObjectMeta :=
  { existing with labels := desired.labels, annotations := desired.annotations }

def httpRouteStore : GeneratedStore HTTPRoute where
  kind := .httpRoute
  metadata := HTTPRoute.metadata
  stored := ConversionObjects.httpRoutes
  store routes objects := { objects with httpRoutes := routes }
  replace existing desired :=
    { metadata := replacedRouteMetadata existing.metadata desired.metadata, spec := desired.spec }

def grpcRouteStore : GeneratedStore GRPCRoute where
  kind := .grpcRoute
  metadata := GRPCRoute.metadata
  stored := ConversionObjects.grpcRoutes
  store routes objects := { objects with grpcRoutes := routes }
  replace existing desired :=
    { metadata := replacedRouteMetadata existing.metadata desired.metadata, spec := desired.spec }

def securityPolicyStore : GeneratedStore SecurityPolicy where
  kind := .securityPolicy
  metadata := SecurityPolicy.metadata
  stored := ConversionObjects.securityPolicies
  store policies objects := { objects with securityPolicies := policies }
  replace existing desired :=
    { metadata := { existing.metadata with labels := desired.metadata.labels }
      spec := desired.spec }

def backendTrafficPolicyStore : GeneratedStore BackendTrafficPolicy where
  kind := .backendTrafficPolicy
  metadata := BackendTrafficPolicy.metadata
  stored := ConversionObjects.backendTrafficPolicies
  store policies objects := { objects with backendTrafficPolicies := policies }
  replace existing desired :=
    { metadata := { existing.metadata with labels := desired.metadata.labels }
      spec := desired.spec }

/-- Create a generated object, or update the one of its name whoever made it. -/
def GeneratedStore.reconcile {α : Type} (generated : GeneratedStore α) (pass : ConversionPass)
    (object : α) : Converting PUnit := do
  let kind := generated.kind
  let key := keyOf (generated.metadata object)
  Pass.check ((pass.fault (.get kind key)).map (("failed to get " ++ kind.text ++ ": ") ++ ·))
  match ← Pass.read (fun objects => (generated.stored objects).get key) with
  | none =>
      Pass.check ((pass.fault (.create kind key)).map
        (("failed to create " ++ kind.text ++ ": ") ++ ·))
      Pass.modify (fun objects =>
        generated.store ((generated.stored objects).put object) objects)
  | some existing =>
      Pass.check ((pass.fault (.update kind key)).map
        (("failed to update " ++ kind.text ++ ": ") ++ ·))
      Pass.modify (fun objects =>
        generated.store ((generated.stored objects).put (generated.replace existing object))
          objects)

def applyRouteMetadata (metadata : ObjectMeta) (ingress : Ingress) (annotations : StringMap) :
    ObjectMeta :=
  { metadata with
    labels := metadata.labels.insert labelSourceIngress
      (sourceIngress ingress.metadata.name ingress.metadata.ns)
    annotations := annotations ∪ metadata.annotations }

section Generated

variable (reconciler : Reconciler)

def Reconciler.desiredHTTPRoutes (ingress : Ingress) (result : ConversionResult) :
    List HTTPRoute :=
  let annotations := reconciler.extractHTTPRouteAnnotations ingress
  result.httpRoutes.map (fun route =>
    { route with metadata := applyRouteMetadata route.metadata ingress annotations })

def Reconciler.desiredGRPCRoutes (ingress : Ingress) (result : ConversionResult) :
    List GRPCRoute :=
  let annotations := reconciler.extractHTTPRouteAnnotations ingress
  result.grpcRoutes.map (fun route =>
    { route with metadata := applyRouteMetadata route.metadata ingress annotations })

/-- The policies of a conversion. They are for its first HTTPRoute. -/
def Reconciler.generatedPolicies (ingress : Ingress) (result : ConversionResult) :
    PolicyConversionResult :=
  match result.httpRoutes with
  | [] => {}
  | first :: _ =>
      if reconciler.disableEnvoyGatewayFeatures then {}
      else convertToPolicies
        { ingressName := ingress.metadata.name
          ingressNamespace := ingress.metadata.ns
          routeName := first.metadata.name
          annotations := ingress.metadata.annotations }

/-- `reconcilePolicies`. Its error becomes one more warning. -/
def reconcilePolicies (pass : ConversionPass) (policies : PolicyConversionResult) :
    Converting (List String) := do
  let outcome ← Pass.attempt (do
    policies.securityPolicies.forM (securityPolicyStore.reconcile pass)
    policies.backendTrafficPolicies.forM (backendTrafficPolicyStore.reconcile pass))
  match outcome with
  | .ok _ => pure policies.warnings
  | .error error => pure (policies.warnings ++ ["failed to reconcile policies: " ++ error])

end Generated

/-! ## Status -/

def routeAcceptanceReasonTimeout : String := "Timeout"

structure StatusDecision where
  status : ConversionStatus
  requeue : Bool
  clearVerifyTime : Bool
  deriving DecidableEq, Repr

/-- `determineConversionStatus`, by the value of the verification timestamp. -/
def determineConversionStatus (time : GoTime) (now : Int) (verifyTime : String)
    (allAccepted : Bool) (warnings : List String) (hasTimeout : Bool) : StatusDecision :=
  let wait : StatusDecision := { status := .pending, requeue := true, clearVerifyTime := false }
  if hasTimeout then { status := .pending, requeue := true, clearVerifyTime := true }
  else if allAccepted = false then
    { status := .partlyConverted, requeue := false, clearVerifyTime := true }
  else if verifyTime = "" then wait
  else
    match time.parse verifyTime with
    | none => wait
    | some verified =>
        if now - verified < 5 * second then wait
        else if warnings ≠ [] then
          { status := .partlyConverted, requeue := false, clearVerifyTime := true }
        else { status := .converted, requeue := false, clearVerifyTime := true }

/-- The value of an annotation that is removed when it is empty. -/
def setOrDelete (annotations : StringMap) (key : String) (parts : List String)
    (separator : String) : StringMap :=
  if parts = [] then annotations.erase key
  else annotations.insert key (separator.intercalate parts)

theorem get_setOrDelete_of_ne {annotations : StringMap} {key other : String}
    (different : other ≠ key) (parts : List String) (separator : String) :
    (setOrDelete annotations key parts separator).get other = annotations.get other := by
  unfold setOrDelete
  split
  · simp [StringMap.get, Finmap.lookup_erase_ne different]
  · simp [StringMap.get, Finmap.lookup_insert_of_ne _ different]

/-- The annotations after `updateIngressStatusStaged`. -/
def statusAnnotations (time : GoTime) (now : Int) (annotations : StringMap)
    (decision : StatusDecision) (warnings httpRouteNames grpcRouteNames : List String) :
    StringMap :=
  let stamped :=
    if decision.clearVerifyTime then annotations.erase annotationVerificationTimestamp
    else if annotations.get annotationVerificationTimestamp = "" then
      annotations.insert annotationVerificationTimestamp (time.format now)
    else annotations
  let warned := setOrDelete stamped annotationConversionWarnings warnings "; "
  let marked := warned.insert annotationConversionStatus decision.status.text
  let http := setOrDelete marked annotationConvertedHTTPRoute httpRouteNames ","
  setOrDelete http annotationConvertedGRPCRoute grpcRouteNames ","

/-- A route as the acceptance loop sees it. -/
structure JudgedRoute where
  kind : GeneratedKind
  key : ObjectKey
  verdict : RouteAcceptanceResult

namespace JudgedRoute

variable (judged : JudgedRoute)

def timedOut : Bool :=
  !judged.verdict.accepted && decide (judged.verdict.reason = routeAcceptanceReasonTimeout)

def warnings : List String :=
  if judged.verdict.accepted || judged.timedOut then []
  else [judged.kind.text ++ " " ++ judged.key.name ++ " not accepted: " ++ judged.verdict.reason]

end JudgedRoute

/-- The routes of a conversion with what the Gateway makes of them. The names of one
conversion differ, so that the map of the source has one entry for each of them. -/
def judgedRoutes (pass : ConversionPass) (result : ConversionResult) : List JudgedRoute :=
  result.httpRoutes.map (fun route =>
    ⟨.httpRoute, keyOf route.metadata, pass.acceptance .httpRoute (keyOf route.metadata)⟩) ++
  result.grpcRoutes.map (fun route =>
    ⟨.grpcRoute, keyOf route.metadata, pass.acceptance .grpcRoute (keyOf route.metadata)⟩)

def notFound (key : ObjectKey) : String :=
  "ingresses.networking.k8s.io \"" ++ key.name ++ "\" not found"

/-- `updateIngressStatusStaged`: whether another pass is needed. -/
def updateIngressStatusStaged (pass : ConversionPass) (result : ConversionResult)
    (warnings : List String) : Converting Bool := do
  let judged := judgedRoutes pass result
  Pass.check (pass.fault .currentIngress)
  match ← Pass.read (fun objects : ConversionObjects => objects.ingresses.get pass.key) with
  | none => Pass.fail (notFound pass.key)
  | some current =>
      let decision := determineConversionStatus pass.time pass.now
        (current.metadata.annotations.get annotationVerificationTimestamp)
        (judged.all (fun route => route.verdict.accepted)) warnings
        (judged.any JudgedRoute.timedOut)
      let annotations := statusAnnotations pass.time pass.now current.metadata.annotations decision
        warnings
        (result.httpRoutes.map (fun route => sourceText (keyOf route.metadata)))
        (result.grpcRoutes.map (fun route => sourceText (keyOf route.metadata)))
      Pass.check (pass.fault .updateIngress)
      let updated : Ingress :=
        { current with metadata := { current.metadata with annotations := annotations } }
      Pass.modify (fun objects => { objects with ingresses := objects.ingresses.put updated })
      pure decision.requeue

def annotateSkipped (pass : ConversionPass) (reason : String) : Converting PUnit := do
  Pass.check (pass.fault .currentIngress)
  match ← Pass.read (fun objects : ConversionObjects => objects.ingresses.get pass.key) with
  | none => Pass.fail (notFound pass.key)
  | some current =>
      let annotations := current.metadata.annotations
      if annotations.get annotationConversionStatus = ConversionStatus.skipped.text ∧
          annotations.get annotationConversionSkipReason = reason then pure ⟨⟩
      else
        Pass.check (pass.fault .updateIngress)
        let annotations := (annotations.insert annotationConversionStatus
          ConversionStatus.skipped.text).insert annotationConversionSkipReason reason
        let updated : Ingress :=
          { current with metadata := { current.metadata with annotations := annotations } }
        Pass.modify (fun objects => { objects with ingresses := objects.ingresses.put updated })

/-! ## One pass -/

section Reconcile

variable (reconciler : Reconciler) (pass : ConversionPass)

/-- `reconcile`: whether another pass is needed. -/
def Reconciler.reconcileIngress (ingress : Ingress) : Converting Bool := do
  let services ← Pass.read (fun objects => fetchServicesForIngress pass objects ingress)
  let result := convertIngressWithServices pass.surroundings (reconciler.input ingress services)
  Pass.check (if result.httpRoutes.isEmpty && result.grpcRoutes.isEmpty then
    some "conversion produced no routes" else none)
  let tlsListeners ← Pass.mapError ("failed to sync TLS secrets: " ++ ·)
    (reconciler.syncTLSSecrets pass result.tlsListeners)
  Pass.mapError ("failed to reconcile Gateway: " ++ ·)
    (reconciler.reconcileGateway pass ingress tlsListeners)
  (reconciler.desiredHTTPRoutes ingress result).forM (httpRouteStore.reconcile pass)
  (reconciler.desiredGRPCRoutes ingress result).forM (grpcRouteStore.reconcile pass)
  let policyWarnings ← reconcilePolicies pass (reconciler.generatedPolicies ingress result)
  let warnings := result.warnings ++ policyWarnings ++
    (judgedRoutes pass result).flatMap JudgedRoute.warnings
  Pass.mapError ("failed to update Ingress status: " ++ ·)
    (updateIngressStatusStaged pass result warnings)

def Reconciler.reconcile : Converting Bool := do
  Pass.check (pass.fault .getIngress)
  match ← Pass.read (fun objects : ConversionObjects => objects.ingresses.get pass.key) with
  | none => pure false
  | some ingress =>
      let decision := reconciler.shouldConvert ingress
      if Deleting ingress.metadata then pure false
      else if decision.shouldConvert then reconciler.reconcileIngress pass ingress
      else if decision.annotate then
        do
          annotateSkipped pass decision.skipReason
          pure false
      else pure false

end Reconcile

end KubeLB.Conversion
