import KubeLB.Conversion.Converter
import KubeLB.Library.Merging
import KubeLB.Naming.Patterns

/-!
Contract: the Gateway that converted routes attach to.

Owns: `BuildGateway`, `BuildListeners` with the names of listeners, and
`MergeListeners`.

Does not own: what is the same for every listener, routes from all namespaces and the
termination of TLS.
-/

set_option autoImplicit false

namespace KubeLB.Conversion

open KubeLB.Library KubeLB.Core KubeLB.GatewayApi

def controllerName : String := "ingress-conversion-controller"

/-- `ListenerNameFromHostname`: dots become dashes and stars a word. -/
def listenerNameFromHostname (hostname : String) : String :=
  if hostname = "*" then "https-wildcard"
  else
    let dashed := hostname.toList.map (fun char => if char = '.' then '-' else char)
    "https-" ++ String.ofList (dashed.flatMap (fun char =>
      if char = '*' then "wildcard".toList else [char]))

def httpListener : Listener where
  name := "http"
  port := 80
  protocol := .http

/-- The listener of a TLS host. -/
def httpsListener (tls : TLSListener) : Listener where
  name := listenerNameFromHostname tls.hostname
  hostname := some tls.hostname
  port := 443
  protocol := .https
  certificateRefs := some [tls.secretName]

/-- `BuildListeners`: of several listeners for one hostname the first counts. -/
def buildListeners (tlsListeners : List TLSListener) : List Listener :=
  httpListener :: (keepFirst TLSListener.hostname tlsListeners ∅).map httpsListener

structure GatewayConfig where
  name : String
  ns : String
  className : String
  tlsListeners : List TLSListener
  annotations : StringMap
  managedBy : String := ""

def buildGateway (config : GatewayConfig) : Gateway where
  metadata :=
    { name := config.name
      ns := config.ns
      labels := Finmap.singleton Naming.labelManagedBy
        (if config.managedBy = "" then controllerName else config.managedBy)
      annotations := config.annotations }
  spec :=
    { gatewayClassName := config.className
      listeners := buildListeners config.tlsListeners }

/-- `MergeListeners`: other listeners may belong to other Ingresses and stay. -/
def mergeListeners (existing desired : List Listener) : List Listener :=
  mergeBy Listener.name existing desired

end KubeLB.Conversion
