import KubeLB.Api.V1Alpha1
import KubeLB.Library.Text

/-!
Contract: the names and keys that are printed from object identities.

Owns: the `fmt.Sprintf` patterns of the allocator keys and of the generated xDS
resources, the origin labels, and how the original name of a Route is found.

Does not own: generated Service names, which are also truncated and hashed.
-/

set_option autoImplicit false

namespace KubeLB.Naming

open KubeLB.Library KubeLB.Core KubeLB.V1Alpha1

def labelOriginNamespace : String := "kubelb.k8c.io/origin-ns"
def labelOriginName : String := "kubelb.k8c.io/origin-name"
def labelOriginResourceKind : String := "kubelb.k8c.io/origin-resource-kind"
def labelManagedBy : String := "kubelb.k8c.io/managed-by"
def labelControllerName : String := "kubelb"

/-! ## Patterns -/

/-- `EnvoyEndpointPattern`: the allocator key of a LoadBalancer endpoint. -/
def envoyEndpointPattern (ns name : String) (index : Nat) : String :=
  ns ++ "-" ++ name ++ "-ep-" ++ toString index

/-- `EnvoyEndpointRoutePattern`: the allocator key of a Route's service. -/
def envoyEndpointRoutePattern (ns serviceNamespace serviceName routeName : String) : String :=
  "tenant-" ++ ns ++ "-route-" ++ serviceNamespace ++ "-" ++ serviceName ++ "-" ++ routeName

/-- `EnvoyListenerPattern`: the allocator key of a port within its endpoint. -/
def envoyListenerPattern (port : Int32) (protocol : Protocol) : String :=
  toString port.toInt ++ "-" ++ protocol.text

/-- The ending that both resource identifiers share. -/
def portSuffix (port : Int32) (protocol : Protocol) : String :=
  "-port-" ++ toString port.toInt ++ "-" ++ protocol.text

/-- `EnvoyResourceIdentifierPattern`: the xDS name of a LoadBalancer port. It
starts with the endpoint's allocator key. -/
def envoyResourceIdentifierPattern (ns name : String) (index : Nat)
    (port : Int32) (protocol : Protocol) : String :=
  ns ++ "-" ++ name ++ "-ep-" ++ toString index ++ portSuffix port protocol

/-- What `EnvoyRoutePortIdentifierPattern` prints before the port. -/
def routeIdentifier (ns serviceNamespace serviceName routeNamespace routeName : String) :
    String :=
  "tenant-" ++ ns ++ "-route-" ++ serviceNamespace ++ "-" ++ serviceName ++ "-" ++
    routeNamespace ++ "-" ++ routeName

/-- `EnvoyRoutePortIdentifierPattern`: the xDS name of a Route's service port. -/
def envoyRoutePortIdentifierPattern
    (ns serviceNamespace serviceName routeNamespace routeName : String)
    (port : Int32) (protocol : Protocol) : String :=
  routeIdentifier ns serviceNamespace serviceName routeNamespace routeName ++
    portSuffix port protocol

/-- `RouteServiceMapKey`: the key of a service in a Route's status. -/
def routeServiceMapKey (ns name : String) : String := ns ++ "/" ++ name

/-! ## Origin labels -/

/-- `GetName`: the origin-name label when it is present, else the name. The
helper `GetServiceName` of the service package is the same function. -/
def getName (metadata : ObjectMeta) : String :=
  (metadata.labels.lookup labelOriginName).getD metadata.name

/-- `GetNamespace`, likewise `GetServiceNamespace`. -/
def getNamespace (metadata : ObjectMeta) : String :=
  (metadata.labels.lookup labelOriginNamespace).getD metadata.ns

/-- The original name of a Route: the source object's own name, else a non-empty
origin-name label, else the Route's name. Every reader repeats these lines. -/
def getOriginalRouteName (route : Route) : String :=
  match route.spec.source with
  | some source =>
      if source.route.metadata.name ≠ "" then source.route.metadata.name
      else if route.metadata.labels.get labelOriginName ≠ "" then
        route.metadata.labels.get labelOriginName
      else route.metadata.name
  | none =>
      if route.metadata.labels.get labelOriginName ≠ "" then
        route.metadata.labels.get labelOriginName
      else route.metadata.name

def getOriginalRouteNamespace (route : Route) : String :=
  match route.spec.source with
  | some source =>
      if source.route.metadata.ns ≠ "" then source.route.metadata.ns
      else route.metadata.labels.get labelOriginNamespace
  | none => route.metadata.labels.get labelOriginNamespace

/-! ## What a printed key determines -/

theorem envoyListenerPattern_injective
    {port port' : Int32}
    {protocol protocol' : Protocol}
    (same : envoyListenerPattern port protocol = envoyListenerPattern port' protocol') :
    port = port' ∧ protocol = protocol' := by
  obtain ⟨portEq, textEq⟩ := intText_dash_injective same
  exact ⟨Int32.toInt_inj.mp portEq, Protocol.text_injective textEq⟩

/-- Within one namespace the key of a LoadBalancer endpoint determines the
LoadBalancer and the index, whatever dashes the name has. -/
theorem envoyEndpointPattern_injective
    {ns name name' : String}
    {index index' : Nat}
    (same : envoyEndpointPattern ns name index = envoyEndpointPattern ns name' index') :
    name = name' ∧ index = index' := by
  have marked (text : String) (number : Nat) :
      ns ++ "-" ++ text ++ "-ep-" ++ toString number =
        ns ++ "-" ++ text ++ "-ep" ++ "-" ++ toString number := by
    simp [String.append_assoc]
  unfold envoyEndpointPattern at same
  rw [marked, marked] at same
  obtain ⟨front, digits⟩ := cut_last_dash (noDash_natText _) (noDash_natText _) same
  refine ⟨?_, natText_injective digits⟩
  rw [String.append_left_inj, String.append_right_inj] at front
  exact front

theorem noDash_text_of_served {protocol : Protocol} (served : protocol.Served) :
    NoDash protocol.text := by
  rcases served with rfl | rfl <;> decide

/-- The name of a served port determines what stands before the port, the port
and the protocol. -/
theorem portSuffix_injective
    {front front' : String}
    {port port' : Int32}
    {protocol protocol' : Protocol}
    (served : protocol.Served)
    (served' : protocol'.Served)
    (same : front ++ portSuffix port protocol = front' ++ portSuffix port' protocol') :
    front = front' ∧ port = port' ∧ protocol = protocol' := by
  have marked (text : String) (number : Int32) (spoken : Protocol) :
      text ++ portSuffix number spoken =
        text ++ "-port" ++ "-" ++ toString number.toInt ++ "-" ++ spoken.text := by
    simp [portSuffix, String.append_assoc]
  rw [marked, marked] at same
  obtain ⟨rest, textEq⟩ := cut_last_dash (noDash_text_of_served served)
    (noDash_text_of_served served') same
  obtain ⟨frontEq, portEq⟩ := dash_intText_injective (by decide) (by decide) rest
  exact ⟨frontEq, Int32.toInt_inj.mp portEq, Protocol.text_injective textEq⟩

end KubeLB.Naming
