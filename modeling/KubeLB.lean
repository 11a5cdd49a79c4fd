import KubeLB.Ccm.DesiredState
import KubeLB.Ccm.Nodes
import KubeLB.Ccm.ServiceEvents
import KubeLB.Ccm.ServiceReplication
import KubeLB.Cli.IngressList
import KubeLB.Cli.LoadBalancerCreate
import KubeLB.Cli.TunnelForwarding
import KubeLB.Cli.TunnelHealth
import KubeLB.Controllers.AnnotationHistories
import KubeLB.Controllers.GatewayClaims
import KubeLB.Controllers.HostnameLifecycle
import KubeLB.Controllers.Kubeconfig
import KubeLB.Controllers.ServiceFixpoint
import KubeLB.Conversion.Admission
import KubeLB.Conversion.AnnotationsFlag
import KubeLB.Conversion.Authorization
import KubeLB.Conversion.CaptureGroups
import KubeLB.Conversion.ListenerMerge
import KubeLB.Conversion.PolicySchema
import KubeLB.Conversion.RateLimits
import KubeLB.Conversion.Redirects
import KubeLB.Conversion.RouteOwnership
import KubeLB.Conversion.SharedGateway
import KubeLB.Envoy.Arrangement
import KubeLB.Envoy.Bootstrap
import KubeLB.Envoy.Clashes
import KubeLB.LoadBalancers.Restart
import KubeLB.LoadBalancers.Targets
import KubeLB.PortLookup.Requests
import KubeLB.Resources.Propagation
import KubeLB.Routes.Ingresses
import KubeLB.Routes.Restart
