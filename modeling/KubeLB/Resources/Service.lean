import KubeLB.Naming.Generated
import KubeLB.PortLookup.Mapper
import KubeLB.Resources.Annotations

/-!
Contract: the Service that stands in the management cluster for a backend service
of a Route.

Owns: `GenerateServiceForLBCluster`, and the generated Services of a Route as
`manageServices` lists them.

Does not own: writing the Service to the cluster.
-/

set_option autoImplicit false

namespace KubeLB.Resources

open KubeLB.Library KubeLB.Core KubeLB.V1Alpha1 KubeLB.Naming KubeLB.PortLookup

def labelAppKubernetesName : String := "app.kubernetes.io/name"

/-- One round of the port loop: the allocated port is the target, else the node
port. -/
def generatedPort (pa : PortAllocator) (endpointKey : String) (port : Core.ServicePort) :
    Core.ServicePort :=
  let targetPort :=
    match pa.lookup endpointKey (envoyListenerPattern port.port port.protocol) with
    | some value => Int32.ofInt value
    | none => port.nodePort
  { port with targetPort := .fromInt targetPort.toInt, nodePort := 0 }

def generateServiceForLBCluster (service : Service) (appName ns routeName : String)
    (pa : PortAllocator) (annotations : AnnotationSettings) : Service :=
  let endpointKey := envoyEndpointRoutePattern ns service.metadata.ns service.metadata.name
    routeName
  let originalName := getName service.metadata
  let originalNamespace := getNamespace service.metadata
  { metadata :=
      { service.metadata with
        name := generateRouteServiceName routeName originalName service.metadata.ns
        ns := ns
        uid := ""
        labels := (service.metadata.labels.insert labelOriginName originalName).insert
          labelOriginNamespace originalNamespace
        annotations := propagateAnnotations service.metadata.annotations annotations .service }
    spec :=
      { ports := service.spec.ports.map (generatedPort pa endpointKey)
        selector := (∅ : StringMap).insert labelAppKubernetesName appName
        type := if service.spec.type = .nodePort then .clusterIP else service.spec.type } }

/-- The generated Service of a Route's service, with the arguments of
`manageServices`. -/
def generatedService (route : Route) (pa : PortAllocator) (annotations : AnnotationSettings)
    (service : Service) : Service :=
  generateServiceForLBCluster service route.metadata.ns route.metadata.ns
    (getOriginalRouteName route) pa annotations

end KubeLB.Resources
