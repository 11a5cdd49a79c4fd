import KubeLB.Controllers.LoadBalancerReconciler
import KubeLB.Conversion.Annotations

/-!
Contract: LoadBalancers that the command line tool creates from a list of endpoints.

Owns: `parseEndpoints`, `generateLoadBalancer`, the pairs of host and port that an
endpoint string lists, and the strings whose pairs are the ones that get traffic.

Does not own: the creation of the object and the wait for its address.
-/

set_option autoImplicit false

namespace KubeLB.Cli

open KubeLB.Library KubeLB.Core KubeLB.V1Alpha1 KubeLB.LoadBalancers KubeLB.Controllers
  KubeLB.Conversion

/-! ## Endpoint strings -/

/-- `strings.Cut(part, ":")`. -/
def cutColon (part : String) : Option (String × String) :=
  match part.toList.span (fun char => decide (char ≠ ':')) with
  | (_, []) => none
  | (host, _ :: port) => some (String.ofList host, String.ofList port)

def parseEndpoint (part : String) : Except String (String × Int32) :=
  match cutColon part with
  | none => .error ("invalid endpoint format: " ++ part ++ " (expected IP:port)")
  | some (host, portStr) =>
      match Conversion.atoi portStr with
      | none => .error ("invalid port in " ++ part)
      | some port =>
          if port < 1 ∨ 65535 < port then .error ("invalid port in " ++ part)
          else .ok (host, Int32.ofInt port)

/-- The maps of `parseEndpoints`, used as sets. -/
structure EndpointSets where
  ipMap : GoMap String Bool := ∅
  endpointPortMap : GoMap Int32 Bool := ∅

def EndpointSets.add (sets : EndpointSets) (pair : String × Int32) : EndpointSets where
  ipMap := sets.ipMap.insert pair.1 true
  endpointPortMap := sets.endpointPortMap.insert pair.2 true

/-- The loop of `parseEndpoints` over the parts that are not blank. -/
def collectEndpoints : List String → EndpointSets → Except String EndpointSets
  | [], sets => .ok sets
  | part :: parts, sets =>
      match parseEndpoint part with
      | .error error => .error error
      | .ok pair => collectEndpoints parts (sets.add pair)

/-- How the `range` loops of a run enumerate hosts and ports. -/
structure EndpointOrder where
  hosts : GoMap.RangeOrder String
  ports : GoMap.RangeOrder Int32

def defaultEndpointName : String := "default"

def tcpPortName (port : Int32) : String := toString port.toInt ++ "-tcp"

def EndpointSets.endpoints (sets : EndpointSets) (order : EndpointOrder) :
    LoadBalancerEndpoints where
  name := defaultEndpointName
  addresses := (order.hosts.visit sets.ipMap.keys).map (fun ip => { ip := ip })
  ports := (order.ports.visit sets.endpointPortMap.keys).map (fun port =>
    { name := tcpPortName port, port := port, protocol := .tcp })

/-- `parseEndpoints`: the endpoints and the ports of the LoadBalancer. -/
def parseEndpoints (order : EndpointOrder) (endpointStr : String) :
    Except String (List LoadBalancerEndpoints × List Int32) :=
  match collectEndpoints (parseStringList endpointStr) {} with
  | .error error => .error error
  | .ok sets => .ok ([sets.endpoints order], [8080])

def cliResourceAnnotation : String := "kubelb.k8c.io/cli-generated"

def generateLoadBalancer (name ns : String) (endpoints : List LoadBalancerEndpoints)
    (ports : List Int32) (lbType : ServiceType) (hasRoute : Bool) (hostname : String) :
    Balancing.HostedLoadBalancer where
  metadata :=
    { name := name
      ns := ns
      labels := Finmap.singleton "app.kubernetes.io/managed-by" "kubelb-cli"
      annotations :=
        let generated := Finmap.singleton cliResourceAnnotation "true"
        if hasRoute = true ∧ hostname = "" then
          generated.insert annotationRequestWildcardDomain "true"
        else generated }
  spec :=
    { endpoints := endpoints
      ports := ports.map (fun port =>
        { name := tcpPortName port, port := port, protocol := .tcp }) }
  hostname := if hasRoute = true ∧ hostname ≠ "" then hostname else ""
  type := lbType

/-! ## Meaning -/

def listedPairs (endpointStr : String) : List (String × Int32) :=
  (parseStringList endpointStr).filterMap (fun part => (parseEndpoint part).toOption)

/-- The endpoint port that the first Service port is resolved to; `none` when
`CreateServicePorts` has none to take. -/
def servedPort (lb : LoadBalancer) : Option Int32 :=
  lb.spec.endpoints.head?.bind (fun endpoint =>
    (resolvedPorts lb.spec.ports endpoint.ports).head?.map Prod.snd)

/-- The Service port has an endpoint port, and that port on the addresses of the
endpoints makes the listed pairs. -/
def ServesExactly (lb : LoadBalancer) (pairs : List (String × Int32)) : Prop :=
  ∃ port, servedPort lb = some port ∧
    ∀ pair, pair ∈ pairs ↔
      pair.2 = port ∧ ∃ endpoint ∈ lb.spec.endpoints, ∃ address ∈ endpoint.addresses,
        address.ip = pair.1

/-! ## What is collected -/

section Collected

theorem mem_keys_add {sets : EndpointSets} {pair : String × Int32} :
    (∀ host, host ∈ (sets.add pair).ipMap ↔ host = pair.1 ∨ host ∈ sets.ipMap) ∧
      ∀ port, port ∈ (sets.add pair).endpointPortMap ↔
        port = pair.2 ∨ port ∈ sets.endpointPortMap :=
  ⟨fun _ => Finmap.mem_insert, fun _ => Finmap.mem_insert⟩

theorem mem_of_collectEndpoints {parts : List String} {start sets : EndpointSets}
    (collected : collectEndpoints parts start = .ok sets) :
    (∀ host, host ∈ sets.ipMap ↔ host ∈ start.ipMap ∨
        ∃ pair ∈ parts.filterMap (fun part => (parseEndpoint part).toOption), pair.1 = host) ∧
      ∀ port, port ∈ sets.endpointPortMap ↔ port ∈ start.endpointPortMap ∨
        ∃ pair ∈ parts.filterMap (fun part => (parseEndpoint part).toOption), pair.2 = port := by
  induction parts generalizing start with
  | nil =>
      cases collected
      simp
  | cons part parts ih =>
      rw [collectEndpoints] at collected
      split at collected
      · cases collected
      · rename_i pair isPair
        obtain ⟨hosts, ports⟩ := ih collected
        obtain ⟨addedHost, addedPort⟩ := @mem_keys_add start pair
        have asOption : (parseEndpoint part).toOption = some pair := by rw [isPair]; rfl
        constructor
        · intro host
          rw [hosts, addedHost, List.filterMap_cons, asOption]
          simp only [List.mem_cons, exists_eq_or_imp, @eq_comm _ host pair.1]
          tauto
        · intro port
          rw [ports, addedPort, List.filterMap_cons, asOption]
          simp only [List.mem_cons, exists_eq_or_imp, @eq_comm _ port pair.2]
          tauto

end Collected

/-! ## Strings with one port -/

section Served

variable {order : EndpointOrder} {endpointStr : String}

theorem endpoints_of_accepted {endpoints : List LoadBalancerEndpoints} {ports : List Int32}
    (accepted : parseEndpoints order endpointStr = .ok (endpoints, ports)) :
    ports = [8080] ∧ ∃ endpoint, endpoints = [endpoint] ∧
      (∀ host, (∃ address ∈ endpoint.addresses, address.ip = host) ↔
        ∃ pair ∈ listedPairs endpointStr, pair.1 = host) ∧
      ∀ port, port ∈ endpoint.ports.map EndpointPort.port ↔
        ∃ pair ∈ listedPairs endpointStr, pair.2 = port := by
  unfold parseEndpoints at accepted
  split at accepted
  · cases accepted
  · rename_i sets collected
    cases accepted
    obtain ⟨hosts, ports⟩ := mem_of_collectEndpoints collected
    refine ⟨rfl, sets.endpoints order, rfl, ?_, ?_⟩
    · intro host
      simp only [EndpointSets.endpoints, List.mem_map, exists_exists_and_eq_and,
        exists_eq_right, order.hosts.mem_visit, Finmap.mem_keys, hosts]
      exact or_iff_right Finmap.notMem_empty
    · intro port
      simp only [EndpointSets.endpoints, List.map_map, List.mem_map, Function.comp_apply,
        exists_eq_right, order.ports.mem_visit, Finmap.mem_keys, ports]
      exact or_iff_right Finmap.notMem_empty

theorem servedPort_generateLoadBalancer {name ns hostname : String}
    {endpoint : LoadBalancerEndpoints} {lbType : ServiceType} {hasRoute : Bool} :
    (∀ port, servedPort (generateLoadBalancer name ns [endpoint] [8080] lbType hasRoute
        hostname).toLoadBalancer = some port → port ∈ endpoint.ports.map EndpointPort.port) ∧
      (servedPort (generateLoadBalancer name ns [endpoint] [8080] lbType hasRoute
        hostname).toLoadBalancer = none ↔ endpoint.ports = []) := by
  simp only [servedPort, generateLoadBalancer, List.head?_cons, Option.bind_some,
    List.map_singleton, resolvedPorts]
  cases isPorts : endpoint.ports with
  | nil => simp
  | cons byIndex others =>
      simp only [List.zipWith_cons_cons, List.head?_cons, Option.map_some, reduceCtorEq,
        Option.some.injEq, forall_eq', and_true]
      unfold resolvedPort
      cases found : (byIndex :: others).find? (fun port =>
          decide (port.name = tcpPortName 8080)) with
      | none => exact List.mem_map_of_mem List.mem_cons_self
      | some named => exact List.mem_map_of_mem (List.mem_of_find?_eq_some found)

end Served

/-- In every order of the maps, exactly the listed pairs get traffic if and only if the
string lists one port. -/
theorem servesExactly_iff (order : EndpointOrder) (endpointStr : String)
    {endpoints : List LoadBalancerEndpoints} {ports : List Int32}
    (accepted : parseEndpoints order endpointStr = .ok (endpoints, ports))
    (name ns : String) (lbType : ServiceType) (hasRoute : Bool) (hostname : String) :
    ServesExactly (generateLoadBalancer name ns endpoints ports lbType hasRoute
        hostname).toLoadBalancer (listedPairs endpointStr) ↔
      ∃ port, (listedPairs endpointStr ≠ []) ∧ ∀ pair ∈ listedPairs endpointStr,
        pair.2 = port := by
  obtain ⟨rfl, endpoint, rfl, hosts, endpointPorts⟩ := endpoints_of_accepted accepted
  obtain ⟨isEndpointPort, none_iff⟩ := @servedPort_generateLoadBalancer name ns hostname endpoint
    lbType hasRoute
  constructor
  · rintro ⟨port, isServed, pairs⟩
    refine ⟨port, ?_, fun pair isPair => ((pairs pair).mp isPair).1⟩
    obtain ⟨pair, isPair, -⟩ := (endpointPorts port).mp (isEndpointPort port isServed)
    exact List.ne_nil_of_mem isPair
  · rintro ⟨port, someListed, onePort⟩
    obtain ⟨first, isFirst⟩ := List.exists_mem_of_ne_nil _ someListed
    cases isServed : servedPort (generateLoadBalancer name ns [endpoint] [8080] lbType hasRoute
        hostname).toLoadBalancer with
    | none =>
        have isPort := (endpointPorts first.2).mpr ⟨first, isFirst, rfl⟩
        rw [none_iff.mp isServed] at isPort
        cases isPort
    | some served =>
        obtain ⟨pair, isPair, isPort⟩ := (endpointPorts served).mp (isEndpointPort served isServed)
        have samePort : served = port := isPort.symm.trans (onePort pair isPair)
        refine ⟨port, samePort ▸ isServed, ?_⟩
        intro pair
        have addresses : (∃ listed ∈ [endpoint], ∃ address ∈ listed.addresses,
            address.ip = pair.1) ↔ ∃ listed ∈ listedPairs endpointStr, listed.1 = pair.1 := by
          rw [← hosts pair.1]
          simp
        refine Iff.trans ?_ (and_congr_right' addresses.symm)
        constructor
        · exact fun isListed => ⟨onePort pair isListed, pair, isListed, rfl⟩
        · rintro ⟨isPort, listed, isListed, sameHost⟩
          have same : listed = pair :=
            Prod.ext sameHost ((onePort listed isListed).trans isPort.symm)
          exact same ▸ isListed

/-- Two hosts with different ports are accepted, and in no order of the maps do both get
traffic on their own port. -/
theorem port_of_other_host_served :
    let endpointStr := "10.0.0.1:80,10.0.0.2:81"
    listedPairs endpointStr = [("10.0.0.1", 80), ("10.0.0.2", 81)] ∧
      ∀ order, ∃ endpoints ports, parseEndpoints order endpointStr = .ok (endpoints, ports) ∧
        ¬ ServesExactly (generateLoadBalancer "shop" "tenant-shop" endpoints ports .loadBalancer
          false "").toLoadBalancer (listedPairs endpointStr) := by
  intro endpointStr
  have pairs : listedPairs endpointStr = [("10.0.0.1", 80), ("10.0.0.2", 81)] := by
    decide +kernel
  have collects : (collectEndpoints (parseStringList endpointStr) {}).toBool = true := by
    decide +kernel
  refine ⟨pairs, fun order => ?_⟩
  unfold parseEndpoints
  cases collected : collectEndpoints (parseStringList endpointStr) {} with
  | error error =>
      rw [collected] at collects
      cases collects
  | ok sets =>
      refine ⟨_, _, rfl, ?_⟩
      rintro ⟨port, -, served⟩
      rw [pairs] at served
      have first := ((served ("10.0.0.1", 80)).mp (by simp)).1
      have second := ((served ("10.0.0.2", 81)).mp (by simp)).1
      exact absurd (first.trans second.symm) (by decide)

def increasingOrder : EndpointOrder where
  hosts := GoMap.RangeOrder.increasing String
  ports := (GoMap.RangeOrder.increasing Int).encoded Int32.toInt Int32.ofInt Int32.ofInt_toInt

/-- Two hosts with one port get traffic on it. -/
theorem one_port_served :
    ∃ endpoints ports,
      parseEndpoints increasingOrder "10.0.0.1:80, 10.0.0.2:80" = .ok (endpoints, ports) ∧
        ServesExactly (generateLoadBalancer "shop" "tenant-shop" endpoints ports .loadBalancer
          false "").toLoadBalancer (listedPairs "10.0.0.1:80, 10.0.0.2:80") := by
  have accepted : parseEndpoints increasingOrder "10.0.0.1:80, 10.0.0.2:80" = .ok
      ([{ name := "default"
          addresses := [{ ip := "10.0.0.1" }, { ip := "10.0.0.2" }]
          ports := [{ name := "80-tcp", port := 80 }] }], [8080]) := by
    have evaluated : (parseEndpoints increasingOrder "10.0.0.1:80, 10.0.0.2:80").toOption = some
        ([{ name := "default"
            addresses := [{ ip := "10.0.0.1" }, { ip := "10.0.0.2" }]
            ports := [{ name := "80-tcp", port := 80 }] }], [8080]) := by
      decide +kernel
    cases parsed : parseEndpoints increasingOrder "10.0.0.1:80, 10.0.0.2:80" with
    | error error => rw [parsed] at evaluated; cases evaluated
    | ok result => rw [parsed] at evaluated; exact congrArg Except.ok (Option.some.inj evaluated)
  exact ⟨_, _, accepted, (servesExactly_iff increasingOrder _ accepted "shop" "tenant-shop"
    .loadBalancer false "").mpr ⟨80, by decide +kernel, by decide +kernel⟩⟩

end KubeLB.Cli
