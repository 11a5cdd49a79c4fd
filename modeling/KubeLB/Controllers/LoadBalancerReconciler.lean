import KubeLB.Api.GatewayApi
import KubeLB.Api.Networking
import KubeLB.Controllers.RouteResource
import KubeLB.LoadBalancers.Hostnames
import KubeLB.LoadBalancers.ServicePorts
import KubeLB.Resources.ManagedAnnotations
import KubeLB.Resources.Service

/-!
Contract: one pass of the LoadBalancer reconciler with every object it writes.

Owns: `Reconcile`, `reconcileService`, `configureHostname`, `cleanup` and
`cleanupHostnameResources` of `LoadBalancerReconciler`, with
`CreateHTTPRouteForHostname` and `CreateIngressForHostname`, and the places where an index
out of range stops the pass.

Does not own: owner references, the status after the pass beyond the hostname, and what other
reconcilers do between the calls of the pass.
-/

set_option autoImplicit false

namespace KubeLB.Controllers.Balancing

open KubeLB.Library KubeLB.Core KubeLB.V1Alpha1 KubeLB.Naming KubeLB.PortLookup KubeLB.Resources
open KubeLB.LoadBalancers

/-! ## Objects -/

/-- `corev1.ServiceSpec` with the fields that only the Service of a LoadBalancer has. -/
structure BalancerServiceSpec extends ServiceSpec where
  externalTrafficPolicy : String := ""
  loadBalancerClass : Option String := none
  deriving DecidableEq

structure BalancerService where
  metadata : ObjectMeta
  spec : BalancerServiceSpec := {}
  deriving DecidableEq

def BalancerService.service (svc : BalancerService) : Service where
  metadata := svc.metadata
  spec := svc.spec.toServiceSpec

/-- A LoadBalancer with the fields that only its own reconciler reads. -/
structure HostedLoadBalancer extends LoadBalancer where
  /-- `Spec.Hostname`. -/
  hostname : String := ""
  type : ServiceType := .clusterIP
  externalTrafficPolicy : String := ""
  /-- `Status.Hostname.Hostname`, `none` without a hostname status. -/
  statusHostname : Option String := none
  deriving DecidableEq

/-! ## Settings -/

/-- `DefaultGateway`. -/
structure GatewayReference where
  name : String
  ns : String := ""
  deriving DecidableEq, Repr

/-- Classes and defaults, which a Tenant and a Config have alike. -/
structure ClassSettings where
  loadBalancerClass : Option String := none
  ingressClass : Option String := none
  gatewayClass : Option String := none
  defaultGateway : Option GatewayReference := none
  defaultClusterIssuer : Option String := none

structure HostingTenant extends Tenant where
  classes : ClassSettings := {}
  dns : DNSSettings
  useDNSAnnotations : Option Bool := none
  useCertificateAnnotations : Option Bool := none

structure HostingConfig extends Config where
  classes : ClassSettings := {}
  dns : ConfigDNSSettings
  useDNSAnnotations : Bool := false
  useCertificateAnnotations : Bool := false

/-! ## State and inputs of a pass -/

/-- What the pass over one LoadBalancer reads and writes. -/
structure State where
  loadBalancer : Option HostedLoadBalancer := none
  service : Option BalancerService := none
  ingress : Option Networking.Ingress := none
  httpRoute : Option GatewayApi.HTTPRoute := none
  portAllocator : PortAllocator := newPortAllocator

/-- The API calls that may fail. -/
inductive Call where
  | list
  | getTenantAndConfig
  | deleteIngress
  | deleteHTTPRoute
  | deleteService
  | removeFinalizer
  | addFinalizer
  | getService
  | createService
  | updateService
  | readService
  | updateHostnameStatus
  | addHostnameFinalizer
  | getHostnameResource
  | createHostnameResource
  | updateHostnameResource
  | updateStatus
  deriving DecidableEq, Repr

/-- One pass, with what its surroundings decide. -/
structure BalancerPass where
  tenant : HostingTenant
  config : HostingConfig
  /-- The LoadBalancers of the namespace. -/
  listed : List LoadBalancer := []
  draws : List Draw := []
  sort : SliceSort String
  /-- What `rand.Read` delivers, and the time in seconds. -/
  random : Option (Vector UInt8 8) := none
  now : Int64 := 0
  fault : Call → Option String := fun _ => none

/-- The functions that index a slice without a check of its length. -/
inductive Site where
  | createServicePorts
  | createHTTPRouteForHostname
  | createIngressForHostname
  deriving DecidableEq, Repr

/-- How a pass ends early. -/
inductive Failure where
  | error (text : String)
  | outOfRange (site : Site)
  deriving DecidableEq, Repr

abbrev Balance := Pass State Failure

def BalancerPass.call (pass : BalancerPass) (call : Call) (message : String) : Balance PUnit :=
  Pass.check ((pass.fault call).map (fun error => .error (message ++ error)))

/-- The value at an index, where the program panics without one. -/
def indexed {α : Type} (site : Site) : Option α → Balance α
  | none => Pass.fail (.outOfRange site)
  | some value => pure value

/-! ## The Service -/

def labelLoadBalancerName : String := "kubelb.k8c.io/lb-name"
def labelLoadBalancerNamespace : String := "kubelb.k8c.io/lb-namespace"

/-- `fmt.Sprintf(envoyResourcePattern, name)`. -/
def envoyResourceName (name : String) : String := "envoy-" ++ name

def serviceLabels (lb : LoadBalancer) (appName : String) : StringMap :=
  ((((((∅ : StringMap).insert labelAppKubernetesName appName).insert labelManagedBy
    labelControllerName).insert labelLoadBalancerName lb.metadata.name).insert
    labelLoadBalancerNamespace lb.metadata.ns).insert labelOriginNamespace
    (lb.metadata.labels.get labelOriginNamespace)).insert labelOriginName
    (lb.metadata.labels.get labelOriginName)

/-- The Service that `reconcileService` wants, with the ports it created and the
annotations it merged. -/
def desiredService (lb : HostedLoadBalancer) (className : Option String)
    (ports : List Core.ServicePort) (annotations : StringMap) : BalancerService where
  metadata :=
    { name := envoyResourceName lb.metadata.name
      ns := lb.metadata.ns
      labels := serviceLabels lb.toLoadBalancer lb.metadata.ns
      annotations := annotations }
  spec :=
    { ports := ports
      selector := (∅ : StringMap).insert labelAppKubernetesName lb.metadata.ns
      type := lb.type
      externalTrafficPolicy := lb.externalTrafficPolicy
      loadBalancerClass := className }

/-- The Service that a lookup without a result leaves: all fields are zero. -/
def absentService : BalancerService where
  metadata := { name := "", ns := "" }

/-- The existing Service differs from the desired one in a field that is compared, the
annotations apart. -/
def serviceDiffers (existing desired : BalancerService) : Prop :=
  existing.spec ≠ desired.spec ∨ existing.metadata.labels ≠ desired.metadata.labels

instance (existing desired : BalancerService) : Decidable (serviceDiffers existing desired) :=
  inferInstanceAs (Decidable (_ ∨ _))

def reconcileService (pass : BalancerPass) (lb : HostedLoadBalancer) (className : Option String)
    (annotations : AnnotationSettings) : Balance PUnit := do
  pass.call .getService ""
  let found ← Pass.read State.service
  let existing := found.getD absentService
  let pa ← Pass.read State.portAllocator
  let ports ← indexed .createServicePorts
    (createServicePorts pass.sort lb.toLoadBalancer existing.service pa)
  let merged := reconcileAnnotations existing.metadata.annotations
    (propagateAnnotations lb.metadata.annotations annotations .service)
  let desired := desiredService lb className ports merged
  match found with
  | none =>
      pass.call .createService "failed to create service: "
      Pass.modify (fun state => { state with service := some desired })
  | some existing =>
      if serviceDiffers existing desired ∨
          ¬ compareAnnotations (readAnnotations existing.metadata.annotations) (some merged) then
        pass.call .updateService "failed to update service: "
        Pass.modify (fun state =>
          { state with
            service := some
              { metadata :=
                  { existing.metadata with
                    labels := desired.metadata.labels
                    annotations := desired.metadata.annotations }
                spec := desired.spec } })
      else pure ⟨⟩

/-! ## The hostname resources -/

def externalDNSHostnameAnnotation : String := "external-dns.alpha.kubernetes.io/hostname"
def externalDNSTTLAnnotation : String := "external-dns.alpha.kubernetes.io/ttl"
def externalDNSTTLDefault : String := "10"
def certManagerClusterIssuerAnnotation : String := "cert-manager.io/cluster-issuer"

def addDNSAndCertificateAnnotations (annotations : StringMap) (tenant : HostingTenant)
    (config : HostingConfig) (hostname : String) (skipCertificateAnnotations : Bool) :
    StringMap :=
  let named :=
    if tenant.useDNSAnnotations.getD config.useDNSAnnotations then
      (annotations.insert externalDNSHostnameAnnotation hostname).insert externalDNSTTLAnnotation
        externalDNSTTLDefault
    else annotations
  if ¬ skipCertificateAnnotations ∧
      tenant.useCertificateAnnotations.getD config.useCertificateAnnotations then
    match tenant.classes.defaultClusterIssuer.or config.classes.defaultClusterIssuer with
    | some issuer => named.insert certManagerClusterIssuerAnnotation issuer
    | none => named
  else named

def hostnameMetadata (lb : HostedLoadBalancer) (suffix : String) (annotations : StringMap) :
    ObjectMeta where
  name := lb.metadata.name ++ suffix
  ns := lb.metadata.ns
  labels := ((∅ : StringMap).insert labelLoadBalancerName lb.metadata.name).insert
    labelLoadBalancerNamespace lb.metadata.ns
  annotations := annotations

/-- The end that both helpers share: read, then create, leave or update. `changed` is
whether the specification differs, and `put` writes metadata with the new specification. -/
def createOrUpdateHostnameResource (pass : BalancerPass) (kind : String)
    (existing : State → Option (ObjectMeta × Bool)) (desired : ObjectMeta)
    (put : ObjectMeta → State → State) : Balance PUnit := do
  pass.call .getHostnameResource ("failed to get " ++ kind ++ ": ")
  match ← Pass.read existing with
  | none =>
      pass.call .createHostnameResource ("failed to create " ++ kind ++ ": ")
      Pass.modify (put desired)
  | some (stored, changed) =>
      let merged := mergeAnnotations (readAnnotations stored.annotations) desired.annotations
      if changed ∨ stored.labels ≠ desired.labels ∨
          ¬ compareAnnotations (readAnnotations stored.annotations) merged then
        pass.call .updateHostnameResource ("failed to update " ++ kind ++ ": ")
        Pass.modify (put
          { stored with labels := desired.labels, annotations := merged.getD ∅ })
      else pure ⟨⟩

/-- The parent of the HTTPRoute: the default Gateway of the Tenant, else of the Config. -/
def defaultGateway (tenant : HostingTenant) (config : HostingConfig) : Option GatewayReference :=
  tenant.classes.defaultGateway.or config.classes.defaultGateway

def hostnameRouteSpec (gateway : GatewayReference) (svcName hostname : String) (port : Int32) :
    GatewayApi.HTTPRouteSpec where
  parentRefs :=
    [{ name := gateway.name, ns := if gateway.ns ≠ "" then some gateway.ns else none }]
  hostnames := [hostname]
  rules := [{ backendRefs := [{ name := svcName, port := some port, kind := some "Service" }] }]

def createHTTPRouteForHostname (pass : BalancerPass) (lb : HostedLoadBalancer)
    (svcName hostname : String) (annotations : AnnotationSettings) : Balance PUnit := do
  match defaultGateway pass.tenant pass.config with
  | none => Pass.fail (.error "no default gateway specified for tenant or config")
  | some gateway =>
      let port ← indexed .createHTTPRouteForHostname lb.spec.ports.head?
      let spec := hostnameRouteSpec gateway svcName hostname port.port
      let desired := hostnameMetadata lb "-httproute"
        (addDNSAndCertificateAnnotations
          (propagateAnnotations lb.metadata.annotations annotations .httpRoute)
          pass.tenant pass.config hostname true)
      createOrUpdateHostnameResource pass "httproute"
        (fun state => state.httpRoute.map (fun route =>
          (route.metadata, decide (route.spec ≠ spec))))
        desired
        (fun metadata state => { state with httpRoute := some ⟨metadata, spec⟩ })

def hostnameIngressSpec (ingressClass : Option String) (ingressName svcName hostname : String)
    (port : Int32) : Networking.IngressSpec where
  ingressClassName := ingressClass
  rules :=
    [{ host := hostname
       http := some
        [{ path := "/"
           pathType := some .pathPrefix
           backend := { service := some { name := svcName, port := { number := port } } } }] }]
  tls := [{ hosts := [hostname], secretName := ingressName ++ "-tls" }]

def createIngressForHostname (pass : BalancerPass) (lb : HostedLoadBalancer)
    (svcName hostname : String) (annotations : AnnotationSettings) : Balance PUnit := do
  let ingressClass := pass.tenant.classes.ingressClass.or pass.config.classes.ingressClass
  let port ← indexed .createIngressForHostname lb.spec.ports.head?
  let desired := hostnameMetadata lb "-ingress"
    (addDNSAndCertificateAnnotations
      (propagateAnnotations lb.metadata.annotations annotations .ingress)
      pass.tenant pass.config hostname false)
  let spec := hostnameIngressSpec ingressClass desired.name svcName hostname port.port
  createOrUpdateHostnameResource pass "ingress"
    (fun state => state.ingress.map (fun ingress =>
      (ingress.metadata, decide (ingress.spec ≠ spec))))
    desired
    (fun metadata state => { state with ingress := some ⟨metadata, spec⟩ })

/-- The Gateway API serves hostnames when nobody disabled it and a class is set. -/
def useGatewayAPI (tenant : HostingTenant) (config : HostingConfig) : Bool :=
  !tenant.spec.disableGatewayAPI && !config.spec.disableGatewayAPI &&
    (tenant.classes.gatewayClass.isSome || config.classes.gatewayClass.isSome)

/-- The hostname of a LoadBalancer that has none in its status. -/
def newHostname (pass : BalancerPass) (lb : HostedLoadBalancer) : String :=
  if lb.hostname ≠ "" then lb.hostname
  else String.ofList (generateHostname pass.tenant.dns pass.config.dns pass.random pass.now).runes

/-- The hostname of the status, or a new one, which is written to the status at once. -/
def chooseHostname (pass : BalancerPass) (lb : HostedLoadBalancer) :
    Balance (String × HostedLoadBalancer) := do
  let current := lb.statusHostname.getD ""
  if current ≠ "" then pure (current, lb)
  else
    let hostname := newHostname pass lb
    if hostname = "" then pure ("", lb)
    else
      pass.call .updateHostnameStatus "failed to update LoadBalancer status: "
      let updated : HostedLoadBalancer := { lb with statusHostname := some hostname }
      Pass.modify (fun state => { state with loadBalancer := some updated })
      pure (hostname, updated)

/-- Add the hostname finalizer unless the LoadBalancer has it. -/
def addHostnameFinalizer (pass : BalancerPass) (lb : HostedLoadBalancer) :
    Balance HostedLoadBalancer := do
  if hostnameCleanupFinalizer ∈ lb.metadata.finalizers then pure lb
  else
    pass.call .addHostnameFinalizer "failed to add hostname finalizer: "
    let updated : HostedLoadBalancer :=
      { lb with metadata := addFinalizer hostnameCleanupFinalizer lb.metadata }
    Pass.modify (fun state => { state with loadBalancer := some updated })
    pure updated

def configureHostname (pass : BalancerPass) (lb : HostedLoadBalancer) (svcName : String)
    (annotations : AnnotationSettings) : Balance String := do
  let chosen ← chooseHostname pass lb
  if chosen.1 = "" then pure ""
  else
    let lb ← addHostnameFinalizer pass chosen.2
    if useGatewayAPI pass.tenant pass.config then
      createHTTPRouteForHostname pass lb svcName chosen.1 annotations
    else createIngressForHostname pass lb svcName chosen.1 annotations
    pure chosen.1

/-! ## The pass -/

def cleanupHostnameResources (pass : BalancerPass) (lb : HostedLoadBalancer) :
    Balance PUnit := do
  pass.call .deleteIngress ("failed to delete ingress " ++ lb.metadata.name ++ "-ingress: ")
  Pass.modify (fun state => { state with ingress := none })
  pass.call .deleteHTTPRoute ("failed to delete httproute " ++ lb.metadata.name ++ "-httproute: ")
  Pass.modify (fun state => { state with httpRoute := none })

/-- `cleanup`. The API server removes a deleting object with its last finalizer. -/
def cleanup (pass : BalancerPass) (lb : HostedLoadBalancer) : Balance PUnit := do
  Pass.modify (fun state =>
    { state with
      portAllocator := state.portAllocator.deallocatePortsForLoadBalancer lb.toLoadBalancer })
  if hostnameCleanupFinalizer ∈ lb.metadata.finalizers then cleanupHostnameResources pass lb
  pass.call .deleteService ("failed to delete service " ++ envoyResourceName lb.metadata.name ++
    ": " ++ lb.metadata.name ++ "/" ++ lb.metadata.ns ++ " against LoadBalancer ")
  Pass.modify (fun state => { state with service := none })
  pass.call .removeFinalizer "failed to remove finalizer: "
  let released : HostedLoadBalancer :=
    { lb with
      metadata := removeFinalizer hostnameCleanupFinalizer
        (removeFinalizer envoyProxyCleanupFinalizer
          (removeFinalizer cleanupFinalizer lb.metadata)) }
  Pass.modify (fun state =>
    { state with
      loadBalancer :=
        if Deleting released.metadata ∧ released.metadata.finalizers = [] then none
        else some released })

/-- Add the finalizer unless the LoadBalancer has it; the old one goes with it. -/
def addCleanupFinalizer (pass : BalancerPass) (lb : HostedLoadBalancer) :
    Balance HostedLoadBalancer := do
  if cleanupFinalizer ∈ lb.metadata.finalizers then pure lb
  else
    pass.call .addFinalizer "failed to add finalizer: "
    let updated : HostedLoadBalancer :=
      { lb with
        metadata := removeFinalizer envoyProxyCleanupFinalizer
          (addFinalizer cleanupFinalizer lb.metadata) }
    Pass.modify (fun state => { state with loadBalancer := some updated })
    pure updated

/-- L4 load balancing is disabled for the Config or the Tenant. -/
def disabled (tenant : HostingTenant) (config : HostingConfig) : Bool :=
  config.spec.disableLoadBalancer || tenant.spec.disableLoadBalancer

/-- The call of `configureHostname` in `Reconcile`; without it the hostname is empty. -/
def configureWantedHostname (pass : BalancerPass) (lb : HostedLoadBalancer) (svcName : String)
    (annotations : AnnotationSettings) : Balance String :=
  if shouldConfigureHostname lb.metadata.annotations lb.hostname pass.tenant.dns
      pass.config.dns then configureHostname pass lb svcName annotations
  else pure ""

/-- The hostname status after a pass: none without a hostname, and the one that is already
there before a new one. -/
def updatedHostnameStatus (current : Option String) (hostname : String) : Option String :=
  if hostname = "" then none
  else if current.getD "" ≠ "" then current
  else some hostname

/-- `updateLoadBalancerStatus`, for the hostname. -/
def updateLoadBalancerStatus (pass : BalancerPass) (hostname : String) : Balance PUnit := do
  pass.call .updateStatus ""
  Pass.modify (fun state =>
    { state with
      loadBalancer := state.loadBalancer.map (fun lb =>
        { lb with statusHostname := updatedHostnameStatus lb.statusHostname hostname }) })

/-- What follows the checks: the finalizer, the ports, the Service and the hostname. -/
def balance (pass : BalancerPass) (lb : HostedLoadBalancer) : Balance PUnit := do
  let className :=
    pass.tenant.classes.loadBalancerClass.or pass.config.classes.loadBalancerClass
  let annotations := getAnnotations pass.tenant.toTenant pass.config.toConfig
  let lb ← addCleanupFinalizer pass lb
  Pass.await (fun state =>
    (state.portAllocator.allocatePortsForLoadBalancers pass.listed pass.draws).map
      (fun allocated => (PUnit.unit, { state with portAllocator := allocated.1 })))
  let svcName := envoyResourceName lb.metadata.name
  reconcileService pass lb className annotations
  pass.call .readService ""
  let hostname ← configureWantedHostname pass lb svcName annotations
  updateLoadBalancerStatus pass hostname

/-- A finalizer whose cleanup is due. -/
def cleanupDue (lb : HostedLoadBalancer) : Prop :=
  envoyProxyCleanupFinalizer ∈ lb.metadata.finalizers ∨
    cleanupFinalizer ∈ lb.metadata.finalizers ∨
    hostnameCleanupFinalizer ∈ lb.metadata.finalizers

instance (lb : HostedLoadBalancer) : Decidable (cleanupDue lb) :=
  inferInstanceAs (Decidable (_ ∨ _))

/-- `Reconcile` of `LoadBalancerReconciler`. -/
def reconcile (pass : BalancerPass) : Balance PUnit := do
  match ← Pass.read State.loadBalancer with
  | none => pure ⟨⟩
  | some lb =>
      if lb.spec.endpoints = [] then pure ⟨⟩
      else
        pass.call .list ""
        if Deleting lb.metadata then
          if cleanupDue lb then cleanup pass lb else pure ⟨⟩
        else
          pass.call .getTenantAndConfig ""
          if cleanupFinalizer ∈ lb.metadata.finalizers ∧ disabled pass.tenant pass.config then
            cleanup pass lb
          else if disabled pass.tenant pass.config then pure ⟨⟩
          else balance pass lb

end KubeLB.Controllers.Balancing
