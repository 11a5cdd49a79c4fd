import KubeLB.Envoy.Address
import KubeLB.Naming.Patterns

/-!
Contract: the xDS messages that `MapSnapshot` builds.

Owns: the messages, the functions that build one listener, cluster or upstream
address, and how a Route selects its listener.

Does not own: the loop over the stored objects, and the constant parts of the
protobuf messages (time-outs, keepalive numbers, access logs), which no function
reads back.
-/

set_option autoImplicit false

namespace KubeLB.Envoy

open KubeLB.Core KubeLB.V1Alpha1 KubeLB.Naming

/-! ## Messages -/

inductive SocketProtocol where
  | tcp
  | udp
  deriving DecidableEq, Repr

/-- The text that `%s` prints. -/
def SocketProtocol.text : SocketProtocol → String
  | tcp => "TCP"
  | udp => "UDP"

structure SocketAddress where
  protocol : SocketProtocol
  address : String
  portValue : UInt32
  deriving DecidableEq, Repr

structure HeaderLimits where
  maxRequestHeadersKb : UInt32 := 8192
  maxRequestHeadersCount : UInt32 := 4096
  maxResponseHeadersKb : UInt32 := 8192
  deriving DecidableEq, Repr

/-- What a listener does with a connection. Each kind names the cluster it sends
to. -/
inductive Filter where
  | tcpProxy (cluster : String) (hashSourceIP : Bool)
  | udpProxy (cluster : String) (hashSourceIP : Bool)
  | httpConnectionManager (cluster : String) (maxRequestHeadersKb maxHeadersCount : UInt32)
  deriving DecidableEq, Repr

def Filter.cluster : Filter → String
  | tcpProxy cluster _ => cluster
  | udpProxy cluster _ => cluster
  | httpConnectionManager cluster _ _ => cluster

structure Listener where
  name : String
  address : SocketAddress
  filter : Filter
  deriving DecidableEq, Repr

/-- `envoyEndpoint.LbEndpoint`: a socket address of an upstream. -/
structure LbEndpoint where
  address : String
  portValue : UInt32
  deriving DecidableEq, Repr

structure ClusterLoadAssignment where
  clusterName : String
  lbEndpoints : List LbEndpoint
  deriving DecidableEq, Repr

/-- The upstream HTTP version of a Route cluster. -/
inductive UpstreamProtocol where
  | http1
  | http2
  deriving DecidableEq, Repr

/-- The HTTP options of a Route cluster. -/
structure UpstreamHTTP where
  protocol : UpstreamProtocol
  maxHeadersCount : UInt32
  maxResponseHeadersKb : UInt32
  deriving DecidableEq, Repr

structure Cluster where
  name : String
  discoveryType : DiscoveryType
  /-- Set for DNS clusters only; an EDS cluster asks for the assignment of its
  own name. -/
  loadAssignment : Option ClusterLoadAssignment
  healthCheck : Bool
  tcpKeepalive : Bool
  /-- Maglev hashing on the source address instead of round robin. -/
  maglev : Bool
  upstreamHTTP : Option UpstreamHTTP
  proxyProtocol : Bool
  deriving DecidableEq, Repr

/-! ## Builders -/

def wildcardBindAddress : String := "0.0.0.0"

def makeEndpoint (addr : EndpointAddress) (port : UInt32) : LbEndpoint where
  address := (resolveEndpointLiteral addr).1
  portValue := port

/-- `persistenceType(..) == SourceIP`. -/
def isSourceIP (persistence : Option LoadBalancerPersistence) : Bool :=
  match persistence with
  | some ⟨.sourceIP⟩ => true
  | _ => false

def makeTCPListener (clusterName listenerName : String) (listenerPort : UInt32)
    (persistence : Option LoadBalancerPersistence) : Listener where
  name := listenerName
  address := ⟨.tcp, wildcardBindAddress, listenerPort⟩
  filter := .tcpProxy clusterName (isSourceIP persistence)

def makeUDPListener (clusterName listenerName : String) (listenerPort : UInt32)
    (persistence : Option LoadBalancerPersistence) : Listener where
  name := listenerName
  address := ⟨.udp, wildcardBindAddress, listenerPort⟩
  filter := .udpProxy clusterName (isSourceIP persistence)

def makeHTTPListener (listenerName clusterName : String) (listenerPort : UInt32)
    (headerLimits : HeaderLimits) : Listener where
  name := listenerName
  address := ⟨.tcp, wildcardBindAddress, listenerPort⟩
  filter := .httpConnectionManager clusterName headerLimits.maxRequestHeadersKb
    headerLimits.maxRequestHeadersCount

def isHTTPRoute (routeKind : String) : Bool :=
  routeKind = "HTTPRoute" || routeKind = "GRPCRoute" || routeKind = "Ingress"

/-- `makeRouteListener`, nil for a protocol without listeners. -/
def makeRouteListener (key : String) (listenerPort : UInt32) (protocol : Protocol)
    (useHTTPListener : Bool) (headerLimits : HeaderLimits) : Option Listener :=
  match protocol with
  | .tcp =>
      if useHTTPListener then some (makeHTTPListener key key listenerPort headerLimits)
      else some (makeTCPListener key key listenerPort none)
  | .udp => some (makeUDPListener key key listenerPort none)
  | _ => none

def makeCluster (clusterName : String) (protocol : Protocol) (routeKind : String)
    (proxyProtocol : Bool) (persistence : Option LoadBalancerPersistence)
    (discoveryType : DiscoveryType) (loadAssignment : ClusterLoadAssignment)
    (headerLimits : HeaderLimits) : Cluster where
  name := clusterName
  discoveryType := discoveryType
  loadAssignment :=
    match discoveryType with
    | .strictDNS => some loadAssignment
    | .eds => none
  healthCheck := decide (protocol ≠ .udp)
  tcpKeepalive := decide (protocol ≠ .udp)
  maglev := isSourceIP persistence && decide protocol.Served
  upstreamHTTP :=
    let options (protocol : UpstreamProtocol) : UpstreamHTTP :=
      ⟨protocol, headerLimits.maxRequestHeadersCount, headerLimits.maxResponseHeadersKb⟩
    if routeKind = "GRPCRoute" then some (options .http2)
    else if isHTTPRoute routeKind then some (options .http1)
    else none
  proxyProtocol := proxyProtocol

/-! ## Routes -/

def getRouteKind (route : Route) : String :=
  match route.spec.source with
  | some source =>
      if source.route.gvk.kind ≠ "" then source.route.gvk.kind
      else route.metadata.labels.get labelOriginResourceKind
  | none => route.metadata.labels.get labelOriginResourceKind

/-- `unicode.ToUpper` on the characters whose upper case is a letter of the
compared constants; every other character stays different from those letters. -/
def toUpperChar (char : Char) : Char :=
  if 'a' ≤ char ∧ char ≤ 'z' then Char.ofNat (char.toNat - 32)
  else if char = 'ſ' then 'S'
  else char

/-- `strings.ToUpper`, as far as the comparison below can tell. -/
def toUpper (text : String) : String := String.ofList (text.toList.map toUpperChar)

/-- `strings.EqualFold(text, "true")`: the four letters have no case variant
outside ASCII. -/
def equalFoldTrue (text : String) : Bool :=
  text.toList.map Char.toLower = ['t', 'r', 'u', 'e']

def isTLSBackend (route : Route) : Bool :=
  match route.spec.source with
  | none => false
  | some source =>
      if getRouteKind route ≠ "Ingress" then false
      else
        let annotations := source.route.metadata.annotations
        let backendProtocol :=
          toUpper (annotations.get "nginx.ingress.kubernetes.io/backend-protocol")
        backendProtocol = "HTTPS" || backendProtocol = "GRPCS" ||
          equalFoldTrue (annotations.get "nginx.ingress.kubernetes.io/ssl-passthrough")

end KubeLB.Envoy
