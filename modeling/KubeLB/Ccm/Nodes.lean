import KubeLB.Envoy.AddressBytes
import KubeLB.Library.Slices
import KubeLB.Library.Sorting
import KubeLB.Resources.Route
import Mathlib.Data.List.Lex
import Mathlib.Data.Sum.Order

/-!
Contract: the addresses that the CCM publishes for the nodes of a tenant cluster.

Owns: `getEndpoints` and `GenerateAddresses` of the node reconciler, and that the published
list depends on the set of addresses of the ready nodes only.

Does not own: the client calls around them, and what the manager does with the list.
-/

set_option autoImplicit false

namespace KubeLB.Ccm

open KubeLB.Library KubeLB.Core KubeLB.V1Alpha1 KubeLB.Envoy KubeLB.Resources

/-! ## Nodes -/

inductive NodeAddressType where
  | hostName
  | internalIP
  | externalIP
  | internalDNS
  | externalDNS
  deriving DecidableEq, Repr

structure NodeAddress where
  type : NodeAddressType
  address : String
  deriving DecidableEq, Repr

/-- `corev1.NodeConditionType`; only `Ready` is read. -/
inductive NodeConditionType where
  | ready
  | other (name : String)
  deriving DecidableEq, Repr

inductive ConditionStatus where
  | true
  | false
  | unknown
  deriving DecidableEq, Repr

structure NodeCondition where
  type : NodeConditionType
  status : ConditionStatus
  deriving DecidableEq, Repr

structure Node where
  conditions : List NodeCondition := []
  addresses : List NodeAddress := []
  deriving DecidableEq, Repr

/-- The loop of `getEndpoints` over the conditions of a node. -/
def Node.isReady (node : Node) : Bool :=
  node.conditions.any (fun condition =>
    condition.type = .ready ∧ condition.status = ConditionStatus.true)

/-! ## The reconciler -/

/-- What `KubeLBNodeReconciler` is configured with. -/
structure KubeLBNodeReconciler where
  endpointAddressType : NodeAddressType
  clusterName : String

structure Addresses where
  metadata : ObjectMeta
  addresses : List EndpointAddress
  deriving DecidableEq

namespace KubeLBNodeReconciler

variable (r : KubeLBNodeReconciler)

/-- The addresses of the configured type of a ready node. -/
def nodeEndpoints (node : Node) : List String :=
  if node.isReady then
    (node.addresses.filter (fun address => address.type = r.endpointAddressType)).map
      NodeAddress.address
  else []

/-- `getEndpoints`: every text once, where it is seen first. -/
def getEndpoints (nodes : List Node) : List String :=
  keepFirst id (nodes.flatMap r.nodeEndpoints) ∅

/-- The first loop of `GenerateAddresses`: an IP, a hostname when hostnames are asked for, or
nothing. -/
def endpointAddress (endpoint : String) : Option EndpointAddress :=
  if parseIP endpoint then some { ip := endpoint }
  else if r.endpointAddressType = .hostName then some { hostname := endpoint }
  else none

end KubeLBNodeReconciler

/-- The comparison that `GenerateAddresses` sorts by. -/
def addressLess (left right : EndpointAddress) : Bool :=
  match ipBytes left.ip, ipBytes right.ip with
  | some leftBytes, some rightBytes => decide (leftBytes < rightBytes)
  | _, _ =>
      if left.ip ≠ right.ip then decide (right.ip < left.ip)
      else decide (left.hostname < right.hostname)

def KubeLBNodeReconciler.generateAddresses (r : KubeLBNodeReconciler) (sort : SortSlice)
    (nodes : List Node) : Except String Addresses :=
  let addresses := (r.getEndpoints nodes).filterMap r.endpointAddress
  if addresses = [] then .error "no valid addresses found"
  else .ok
    { metadata := { name := defaultAddressName, ns := r.clusterName }
      addresses := sort.run addressLess addresses }

/-! ## The order of addresses -/

/-- IPs by value, then hostnames by text. -/
def addressKey (address : EndpointAddress) : Lex (List Byte ⊕ String) :=
  match ipBytes address.ip with
  | some bytes => toLex (Sum.inl bytes)
  | none => toLex (Sum.inr address.hostname)

inductive Generated : EndpointAddress → Prop
  | ip (text : String) (accepted : parseIP text = true) : Generated { ip := text }
  | hostname (text : String) : Generated { hostname := text }

theorem ipBytes_empty : ipBytes "" = none := rfl

theorem exists_ipBytes {text : String} (accepted : parseIP text = true) :
    ∃ bytes, ipBytes text = some bytes := by
  rw [← Option.isSome_iff_exists, isSome_ipBytes, accepted]

theorem ne_empty_of_parseIP {text : String} (accepted : parseIP text = true) : text ≠ "" := by
  rintro rfl
  cases accepted

theorem empty_lt {text : String} (nonempty : text ≠ "") : "" < text := by
  rw [String.lt_iff_toList_lt]
  cases isList : text.toList with
  | nil => exact absurd (String.toList_eq_nil_iff.mp isList) nonempty
  | cons char rest => exact List.Lex.nil

/-- The comparison is the one of the keys: the text of an IP is greater than the empty one. -/
theorem addressLess_eq {left right : EndpointAddress} (isLeft : Generated left)
    (isRight : Generated right) :
    addressLess left right = decide (addressKey left < addressKey right) := by
  cases isLeft with
  | ip leftText leftAccepted =>
      obtain ⟨leftBytes, isLeftBytes⟩ := exists_ipBytes leftAccepted
      have leftNonempty := ne_empty_of_parseIP leftAccepted
      cases isRight with
      | ip rightText rightAccepted =>
          obtain ⟨rightBytes, isRightBytes⟩ := exists_ipBytes rightAccepted
          simp [addressLess, addressKey, isLeftBytes, isRightBytes]
      | hostname rightText =>
          rw [addressLess, addressKey, addressKey, isLeftBytes, ipBytes_empty]
          simp only [ne_eq, leftNonempty, not_false_eq_true, if_true, Sum.Lex.inl_lt_inr,
            empty_lt leftNonempty]
  | hostname leftText =>
      cases isRight with
      | ip rightText rightAccepted =>
          obtain ⟨rightBytes, isRightBytes⟩ := exists_ipBytes rightAccepted
          have rightNonempty := ne_empty_of_parseIP rightAccepted
          rw [addressLess, addressKey, addressKey, isRightBytes, ipBytes_empty]
          simp only [ne_eq, rightNonempty.symm, not_false_eq_true, if_true,
            Sum.Lex.not_inr_lt_inl, (empty_lt rightNonempty).not_gt]
      | hostname rightText => simp [addressLess, addressKey, ipBytes_empty]

/-! ## The published list -/

section Published

variable {r : KubeLBNodeReconciler} {nodes nodes' : List Node}

def Offered (r : KubeLBNodeReconciler) (nodes : List Node) (text : String) : Prop :=
  ∃ node ∈ nodes, node.isReady = true ∧
    ∃ address ∈ node.addresses, address.type = r.endpointAddressType ∧ address.address = text

theorem mem_getEndpoints {text : String} :
    text ∈ r.getEndpoints nodes ↔ Offered r nodes text := by
  rw [KubeLBNodeReconciler.getEndpoints, mem_keepFirst_id, List.mem_flatMap]
  simp only [Finset.notMem_empty, not_false_eq_true, and_true, Offered]
  refine exists_congr (fun node => and_congr_right (fun _ => ?_))
  unfold KubeLBNodeReconciler.nodeEndpoints
  split
  · next isReady => simp [isReady, and_assoc]
  · next notReady => simp [notReady]

theorem nodup_getEndpoints : (r.getEndpoints nodes).Nodup := by
  have distinct := (keepFirst_keys id (nodes.flatMap r.nodeEndpoints) ∅).1
  rwa [List.map_id] at distinct

theorem endpointAddress_eq_some_iff {text : String} {address : EndpointAddress} :
    r.endpointAddress text = some address ↔
      parseIP text = true ∧ address = { ip := text } ∨
        parseIP text = false ∧ r.endpointAddressType = .hostName ∧
          address = { hostname := text } := by
  unfold KubeLBNodeReconciler.endpointAddress
  cases parseIP text
  · by_cases isHostName : r.endpointAddressType = .hostName <;> simp [isHostName, eq_comm]
  · simp [eq_comm]

theorem generated_of_endpointAddress {text : String} {address : EndpointAddress}
    (isAddress : r.endpointAddress text = some address) : Generated address := by
  rcases endpointAddress_eq_some_iff.mp isAddress with ⟨accepted, rfl⟩ | ⟨-, -, rfl⟩
  · exact .ip text accepted
  · exact .hostname text

/-- An entry names its text: the text of an IP is not empty. -/
theorem endpointAddress_injective {text text' : String} {address : EndpointAddress}
    (isAddress : r.endpointAddress text = some address)
    (isAddress' : r.endpointAddress text' = some address) : text = text' := by
  rcases endpointAddress_eq_some_iff.mp isAddress with ⟨accepted, rfl⟩ | ⟨-, -, rfl⟩ <;>
    rcases endpointAddress_eq_some_iff.mp isAddress' with ⟨accepted', same⟩ | ⟨-, -, same⟩
  · exact congrArg EndpointAddress.ip same
  · exact absurd (congrArg EndpointAddress.ip same) (ne_empty_of_parseIP accepted)
  · exact absurd (congrArg EndpointAddress.ip same).symm (ne_empty_of_parseIP accepted')
  · exact congrArg EndpointAddress.hostname same

/-- Nodes in another order, each with its addresses in another order. -/
def NodesPermuted (nodes nodes' : List Node) : Prop :=
  ∃ reordered, List.Forall₂ (fun node node' =>
      node'.conditions = node.conditions ∧ node.addresses.Perm node'.addresses) nodes reordered ∧
    reordered.Perm nodes'

theorem NodesPermuted.offered_iff (permuted : NodesPermuted nodes nodes') {text : String} :
    Offered r nodes text ↔ Offered r nodes' text := by
  obtain ⟨reordered, sameNodes, isPerm⟩ := permuted
  have sameOffers : Offered r nodes text ↔ Offered r reordered text := by
    clear isPerm
    induction sameNodes with
    | nil => rfl
    | cons sameNode sameRest ih =>
        simp only [Offered, List.exists_mem_cons_iff] at ih ⊢
        rw [ih, Node.isReady, Node.isReady, sameNode.1]
        simp only [sameNode.2.mem_iff]
  rw [sameOffers]
  exact exists_congr (fun node => and_congr_left (fun _ => isPerm.mem_iff))

theorem NodesPermuted.getEndpoints_perm (permuted : NodesPermuted nodes nodes') :
    (r.getEndpoints nodes).Perm (r.getEndpoints nodes') := by
  refine (List.perm_ext_iff_of_nodup nodup_getEndpoints nodup_getEndpoints).mpr (fun text => ?_)
  rw [mem_getEndpoints, mem_getEndpoints, permuted.offered_iff]

/-- No two offered texts denote one IP. -/
def TextsTell (r : KubeLBNodeReconciler) (nodes : List Node) : Prop :=
  ∀ text text' bytes, Offered r nodes text → Offered r nodes text' →
    ipBytes text = some bytes → ipBytes text' = some bytes → text = text'

def Before (left right : EndpointAddress) : Prop :=
  match ipBytes left.ip, ipBytes right.ip with
  | some leftBytes, some rightBytes => leftBytes < rightBytes
  | some _, none => True
  | none, some _ => False
  | none, none => left.hostname < right.hostname

/-- The list holds every offered address once, in order. -/
structure ListsOffered (r : KubeLBNodeReconciler) (nodes : List Node)
    (addresses : List EndpointAddress) : Prop where
  members : ∀ address, address ∈ addresses ↔ ∃ text, Offered r nodes text ∧
    (parseIP text = true ∧ address = { ip := text } ∨
      parseIP text = false ∧ r.endpointAddressType = .hostName ∧ address = { hostname := text })
  distinct : addresses.Nodup
  ordered : addresses.Pairwise Before

theorem before_of_addressKey_lt {left right : EndpointAddress}
    (isLess : addressKey left < addressKey right) : Before left right := by
  unfold Before
  cases isLeft : ipBytes left.ip with
  | some leftBytes =>
      cases isRight : ipBytes right.ip with
      | some rightBytes =>
          simp only [addressKey, isLeft, isRight] at isLess
          exact Sum.Lex.inl_lt_inl_iff.mp isLess
      | none => trivial
  | none =>
      cases isRight : ipBytes right.ip with
      | some rightBytes =>
          simp only [addressKey, isLeft, isRight] at isLess
          exact absurd isLess Sum.Lex.not_inr_lt_inl
      | none =>
          simp only [addressKey, isLeft, isRight] at isLess
          exact Sum.Lex.inr_lt_inr_iff.mp isLess

theorem mem_generated {address : EndpointAddress} :
    address ∈ (r.getEndpoints nodes).filterMap r.endpointAddress ↔
      ∃ text, Offered r nodes text ∧ r.endpointAddress text = some address := by
  simp only [List.mem_filterMap, mem_getEndpoints]

theorem nodup_generated : ((r.getEndpoints nodes).filterMap r.endpointAddress).Nodup :=
  nodup_getEndpoints.filterMap (fun _ _ _ isFirst isSecond =>
    endpointAddress_injective isFirst isSecond)

theorem TextsTell.strictTotalOn (tell : TextsTell r nodes) :
    StrictTotalOn addressLess ((r.getEndpoints nodes).filterMap r.endpointAddress) := by
  refine StrictTotalOn.of_key addressKey ?_ ?_
  · intro left isLeft right isRight
    obtain ⟨leftText, -, ofLeft⟩ := mem_generated.mp isLeft
    obtain ⟨rightText, -, ofRight⟩ := mem_generated.mp isRight
    exact addressLess_eq (generated_of_endpointAddress ofLeft)
      (generated_of_endpointAddress ofRight)
  · intro left isLeft right isRight sameKey
    obtain ⟨leftText, leftOffered, ofLeft⟩ := mem_generated.mp isLeft
    obtain ⟨rightText, rightOffered, ofRight⟩ := mem_generated.mp isRight
    rcases endpointAddress_eq_some_iff.mp ofLeft with ⟨accepted, rfl⟩ | ⟨-, -, rfl⟩ <;>
      rcases endpointAddress_eq_some_iff.mp ofRight with ⟨accepted', rfl⟩ | ⟨-, -, rfl⟩
    · obtain ⟨bytes, isBytes⟩ := exists_ipBytes accepted
      obtain ⟨bytes', isBytes'⟩ := exists_ipBytes accepted'
      simp only [addressKey, isBytes, isBytes', toLex_inj, Sum.inl.injEq] at sameKey
      subst sameKey
      rw [tell leftText rightText bytes leftOffered rightOffered isBytes isBytes']
    · obtain ⟨bytes, isBytes⟩ := exists_ipBytes accepted
      simp [addressKey, isBytes, ipBytes_empty] at sameKey
    · obtain ⟨bytes', isBytes'⟩ := exists_ipBytes accepted'
      simp [addressKey, isBytes', ipBytes_empty] at sameKey
    · simp only [addressKey, ipBytes_empty, toLex_inj, Sum.inr.injEq] at sameKey
      rw [sameKey]

theorem listsOffered (sort : SortSlice) (tell : TextsTell r nodes) :
    ListsOffered r nodes
      (sort.run addressLess ((r.getEndpoints nodes).filterMap r.endpointAddress)) := by
  have sortedPerm := sort.perm addressLess ((r.getEndpoints nodes).filterMap r.endpointAddress)
  refine ⟨?_, sortedPerm.nodup_iff.mpr nodup_generated, ?_⟩
  · intro address
    rw [sortedPerm.mem_iff, mem_generated]
    simp only [endpointAddress_eq_some_iff]
  · refine (sort.pairwise_less tell.strictTotalOn nodup_generated).imp_of_mem ?_
    intro left right isLeft isRight isLess
    obtain ⟨leftText, -, ofLeft⟩ := mem_generated.mp (sortedPerm.mem_iff.mp isLeft)
    obtain ⟨rightText, -, ofRight⟩ := mem_generated.mp (sortedPerm.mem_iff.mp isRight)
    rw [addressLess_eq (generated_of_endpointAddress ofLeft)
      (generated_of_endpointAddress ofRight), decide_eq_true_eq] at isLess
    exact before_of_addressKey_lt isLess

/-- Neither the order of the nodes nor that of their addresses nor the sort shows in the result:
the sorted list of the offered addresses, or an error when there is nothing to list. -/
theorem generateAddresses_canonical (r : KubeLBNodeReconciler) (sort sort' : SortSlice)
    (nodes nodes' : List Node) (tell : TextsTell r nodes)
    (permuted : NodesPermuted nodes nodes') :
    r.generateAddresses sort nodes = r.generateAddresses sort' nodes' ∧
      match r.generateAddresses sort nodes with
      | .ok published => ListsOffered r nodes published.addresses
      | .error _ => ∀ text, Offered r nodes text →
          parseIP text = false ∧ r.endpointAddressType ≠ .hostName := by
  have endpointsPerm : (r.getEndpoints nodes).Perm (r.getEndpoints nodes') :=
    permuted.getEndpoints_perm
  have addressesPerm := endpointsPerm.filterMap r.endpointAddress
  unfold KubeLBNodeReconciler.generateAddresses
  by_cases empty : (r.getEndpoints nodes).filterMap r.endpointAddress = []
  · have empty' : (r.getEndpoints nodes').filterMap r.endpointAddress = [] :=
      List.nil_perm.mp (empty ▸ addressesPerm)
    simp only [if_pos empty, if_pos empty', true_and]
    intro text isOffered
    have skipped := List.filterMap_eq_nil_iff.mp empty text (mem_getEndpoints.mpr isOffered)
    unfold KubeLBNodeReconciler.endpointAddress at skipped
    split at skipped
    · cases skipped
    · next refused =>
        split at skipped
        · cases skipped
        · next notHostName => exact ⟨Bool.eq_false_of_not_eq_true refused, notHostName⟩
  · have nonempty' : (r.getEndpoints nodes').filterMap r.endpointAddress ≠ [] :=
      fun isNil => empty (List.perm_nil.mp (isNil ▸ addressesPerm))
    simp only [if_neg empty, if_neg nonempty',
      sort.run_eq_of_perm sort' addressesPerm tell.strictTotalOn, true_and]
    rw [← sort.run_eq_of_perm sort' addressesPerm tell.strictTotalOn]
    exact listsOffered sort tell

end Published

theorem textsTell_of_getEndpoints {r : KubeLBNodeReconciler} {nodes : List Node}
    (tell : ∀ text ∈ r.getEndpoints nodes, ∀ text' ∈ r.getEndpoints nodes,
      parseIP text = true → ipBytes text = ipBytes text' → text = text') :
    TextsTell r nodes := by
  intro text text' bytes isOffered isOffered' isBytes isBytes'
  refine tell text (mem_getEndpoints.mpr isOffered) text' (mem_getEndpoints.mpr isOffered') ?_
    (isBytes.trans isBytes'.symm)
  rw [← isSome_ipBytes, isBytes]
  rfl

def hostNameReconciler : KubeLBNodeReconciler where
  endpointAddressType := .hostName
  clusterName := "tenant-a"

def readyNode (names : List String) : Node where
  conditions := [⟨.other "DiskPressure", .false⟩, ⟨.ready, .true⟩]
  addresses := ⟨.internalIP, "192.168.1.1"⟩ :: names.map (fun name => ⟨.hostName, name⟩)

theorem generateAddresses_hostNames :
    ∃ sort sort' : SortSlice, ∃ nodes nodes' : List Node,
      TextsTell hostNameReconciler nodes ∧ NodesPermuted nodes nodes' ∧
      hostNameReconciler.generateAddresses sort nodes =
        hostNameReconciler.generateAddresses sort' nodes' ∧
      match hostNameReconciler.generateAddresses sort nodes with
      | .ok published => ListsOffered hostNameReconciler nodes published.addresses
      | .error _ => ∀ text, Offered hostNameReconciler nodes text →
          parseIP text = false ∧ hostNameReconciler.endpointAddressType ≠ .hostName := by
  have tell : TextsTell hostNameReconciler
      [readyNode ["worker-b", "10.0.0.10"], readyNode ["10.0.0.9", "worker-b"]] :=
    textsTell_of_getEndpoints (by decide +kernel)
  have permuted : NodesPermuted
      [readyNode ["worker-b", "10.0.0.10"], readyNode ["10.0.0.9", "worker-b"]]
      [readyNode ["worker-b", "10.0.0.9"], readyNode ["worker-b", "10.0.0.10"]] := by
    refine ⟨[readyNode ["worker-b", "10.0.0.10"], readyNode ["worker-b", "10.0.0.9"]], ?_,
      List.Perm.swap _ _ _⟩
    exact .cons ⟨rfl, List.Perm.refl _⟩ (.cons ⟨rfl, by decide⟩ .nil)
  exact ⟨SortSlice.stable, SortSlice.stable, _, _, tell, permuted,
    generateAddresses_canonical _ _ _ _ _ tell permuted⟩

end KubeLB.Ccm
