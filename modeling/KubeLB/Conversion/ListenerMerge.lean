import KubeLB.Conversion.Controller

/-!
Contract: listeners of a Gateway with all their fields, merged and compared.

Owns: the fields of a listener that the rest of the conversion leaves out, `MergeListeners`
and `listenersEqual` on them, the fields that the comparison does not look at, and the
merges whose changes it notices.

Does not own: the listeners that are merged.
-/

set_option autoImplicit false

namespace KubeLB.Conversion.FullListeners

open KubeLB.Library KubeLB.Core KubeLB.GatewayApi

/-! ## Listeners -/

structure LabelSelectorRequirement where
  key : String
  operator : String
  values : List String := []
  deriving DecidableEq, Repr

structure LabelSelector where
  matchLabels : StringMap := ∅
  matchExpressions : List LabelSelectorRequirement := []
  deriving DecidableEq

inductive FromNamespaces where
  | all
  | same
  | selector
  | none
  | other (spelling : String)
  deriving DecidableEq, Repr

structure RouteNamespaces where
  «from» : Option FromNamespaces := .none
  selector : Option LabelSelector := .none
  deriving DecidableEq

structure RouteGroupKind where
  group : Option String := none
  kind : String
  deriving DecidableEq, Repr

structure AllowedRoutes where
  namespaces : Option RouteNamespaces := none
  kinds : List RouteGroupKind := []
  deriving DecidableEq

inductive TLSMode where
  | terminate
  | passthrough
  | other (spelling : String)
  deriving DecidableEq, Repr

structure SecretObjectReference where
  group : Option String := none
  kind : Option String := none
  name : String
  ns : Option String := none
  deriving DecidableEq, Repr

structure ListenerTLSConfig where
  mode : Option TLSMode := none
  certificateRefs : List SecretObjectReference := []
  options : StringMap := ∅
  deriving DecidableEq

/-- `Listener`. -/
structure FullListener where
  name : String
  hostname : Option String := none
  port : Int32
  protocol : ProtocolType
  tls : Option ListenerTLSConfig := none
  allowedRoutes : Option AllowedRoutes := none
  deriving DecidableEq

/-! ## Merging and comparing -/

def mergeListeners (existing desired : List FullListener) : List FullListener :=
  mergeBy FullListener.name existing desired

/-- The comparison of two pointers and of what they point to. -/
def bothOrNone {α : Type} (same : α → α → Bool) : Option α → Option α → Bool
  | none, none => true
  | some left, some right => same left right
  | _, _ => false

/-- The namespaces of the routes, by their source alone. -/
def namespacesEqual (left right : RouteNamespaces) : Bool := decide (left.from = right.from)

def allowedRoutesEqual (left right : AllowedRoutes) : Bool :=
  bothOrNone namespacesEqual left.namespaces right.namespaces

/-- The loop over the certificates compares their names and namespaces. -/
def certificatesEqual (left right : List SecretObjectReference) : Bool :=
  decide (left.map (fun ref => (ref.name, ref.ns)) = right.map (fun ref => (ref.name, ref.ns)))

def tlsEqual (left right : ListenerTLSConfig) : Bool :=
  decide (left.mode = right.mode) && certificatesEqual left.certificateRefs right.certificateRefs

def listenerConfigEqual (left right : FullListener) : Bool :=
  decide (left.port = right.port) && decide (left.protocol = right.protocol) &&
    decide (left.hostname = right.hostname) &&
    bothOrNone allowedRoutesEqual left.allowedRoutes right.allowedRoutes &&
    bothOrNone tlsEqual left.tls right.tls

def listenersEqual (left right : List FullListener) : Bool :=
  decide (left.length = right.length) &&
    right.all (fun listener =>
      ((indexBy FullListener.name left).lookup listener.name).any (fun known =>
        listenerConfigEqual known listener))

/-- The listener as the rest of the conversion sees it. -/
def FullListener.toListener (listener : FullListener) : Listener where
  name := listener.name
  hostname := listener.hostname
  port := listener.port
  protocol := listener.protocol
  certificateRefs := listener.tls.map (fun tls => tls.certificateRefs.map (fun ref => ref.name))

/-- The merge of the conversion is this one with fewer fields. -/
theorem map_toListener_mergeListeners (existing desired : List FullListener) :
    (mergeListeners existing desired).map FullListener.toListener =
      Conversion.mergeListeners (existing.map FullListener.toListener)
        (desired.map FullListener.toListener) :=
  @map_mergeBy _ _ _ _ FullListener.name Listener.name FullListener.toListener (fun _ => rfl)
    existing desired

/-! ## Fields that are not compared -/

/-- What `listenerConfigEqual` does not look at. -/
structure UnseenFields where
  /-- `AllowedRoutes.Namespaces.Selector`. -/
  selector : Option LabelSelector
  /-- `AllowedRoutes.Kinds`. -/
  kinds : List RouteGroupKind
  /-- The group and kind of each certificate. -/
  certificateKinds : List (Option String × Option String)
  /-- `TLS.Options`. -/
  options : StringMap
  deriving DecidableEq

def FullListener.unseen (listener : FullListener) : UnseenFields where
  selector := listener.allowedRoutes.bind (fun routes =>
    routes.namespaces.bind (fun namespaces => namespaces.selector))
  kinds := (listener.allowedRoutes.map (fun routes => routes.kinds)).getD []
  certificateKinds := (listener.tls.map (fun tls =>
    tls.certificateRefs.map (fun ref => (ref.group, ref.kind)))).getD []
  options := (listener.tls.map (fun tls => tls.options)).getD ∅

theorem bothOrNone_refl {α : Type} {same : α → α → Bool} (refl : ∀ value, same value value = true)
    (value : Option α) : bothOrNone same value value = true := by
  cases value with
  | none => rfl
  | some value => exact refl value

theorem listenerConfigEqual_refl (listener : FullListener) :
    listenerConfigEqual listener listener = true := by
  have sources (namespaces : RouteNamespaces) : namespacesEqual namespaces namespaces = true :=
    decide_eq_true rfl
  have routes :
      bothOrNone allowedRoutesEqual listener.allowedRoutes listener.allowedRoutes = true :=
    bothOrNone_refl (fun allowed => bothOrNone_refl sources allowed.namespaces) _
  have tls : bothOrNone tlsEqual listener.tls listener.tls = true := by
    refine bothOrNone_refl (fun config => ?_) _
    simp [tlsEqual, certificatesEqual]
  simp [listenerConfigEqual, routes, tls]

theorem certificates_eq {left right : List SecretObjectReference}
    (seen : certificatesEqual left right = true)
    (unseen : left.map (fun ref => (ref.group, ref.kind)) =
      right.map (fun ref => (ref.group, ref.kind))) : left = right := by
  rw [certificatesEqual, decide_eq_true_eq] at seen
  induction left generalizing right with
  | nil =>
      rw [List.map_nil, eq_comm, List.map_eq_nil_iff] at seen
      exact seen.symm
  | cons ref left ih =>
      cases right with
      | nil => cases seen
      | cons other right =>
          simp only [List.map_cons, List.cons.injEq, Prod.mk.injEq] at seen unseen
          rw [ih seen.2 unseen.2]
          cases ref
          cases other
          simp_all

/-- Listeners of one name that agree in the fields that are compared and in those that are
not are the same. -/
theorem eq_of_seen_of_unseen {left right : FullListener} (sameName : left.name = right.name)
    (seen : listenerConfigEqual left right = true) (unseen : left.unseen = right.unseen) :
    left = right := by
  obtain ⟨name, hostname, port, protocol, tls, routes⟩ := left
  obtain ⟨otherName, otherHostname, otherPort, otherProtocol, otherTLS, otherRoutes⟩ := right
  simp only [listenerConfigEqual, Bool.and_eq_true, decide_eq_true_eq] at seen
  simp only [FullListener.unseen, UnseenFields.mk.injEq] at unseen
  obtain ⟨⟨⟨⟨samePort, sameProtocol⟩, sameHostname⟩, routesSeen⟩, tlsSeen⟩ := seen
  obtain ⟨sameSelector, sameKinds, sameCertificates, sameOptions⟩ := unseen
  have sameTLS : tls = otherTLS := by
    cases tls with
    | none => cases otherTLS with
      | none => rfl
      | some config => cases tlsSeen
    | some config => cases otherTLS with
      | none => cases tlsSeen
      | some otherConfig =>
          obtain ⟨mode, refs, options⟩ := config
          obtain ⟨otherMode, otherRefs, otherOptions⟩ := otherConfig
          simp only [bothOrNone, tlsEqual, Bool.and_eq_true, decide_eq_true_eq] at tlsSeen
          rw [show options = otherOptions from sameOptions, tlsSeen.1,
            certificates_eq tlsSeen.2 sameCertificates]
  have sameRoutes : routes = otherRoutes := by
    cases routes with
    | none => cases otherRoutes with
      | none => rfl
      | some allowed => cases routesSeen
    | some allowed => cases otherRoutes with
      | none => cases routesSeen
      | some otherAllowed =>
          obtain ⟨namespaces, kinds⟩ := allowed
          obtain ⟨otherNamespaces, otherKinds⟩ := otherAllowed
          rw [show kinds = otherKinds from sameKinds]
          cases namespaces with
          | none => cases otherNamespaces with
            | none => rfl
            | some namespaces => cases routesSeen
          | some namespaces => cases otherNamespaces with
            | none => cases routesSeen
            | some otherNamespaces =>
                obtain ⟨source, selector⟩ := namespaces
                obtain ⟨otherSource, otherSelector⟩ := otherNamespaces
                have sameSource : source = otherSource := of_decide_eq_true routesSeen
                rw [sameSource, show selector = otherSelector from sameSelector]
  subst sameName samePort sameProtocol sameHostname sameTLS sameRoutes
  rfl

/-! ## Merges -/

/-- What a merge promises, and that the comparison notices exactly the merges that change
something. -/
structure MergesFaithfully (existing desired : List FullListener) : Prop where
  distinct : ((mergeListeners existing desired).map FullListener.name).Nodup
  desiredKept : ∀ listener ∈ desired, listener ∈ mergeListeners existing desired
  othersKept : ∀ listener ∈ existing, listener.name ∉ desired.map FullListener.name →
    listener ∈ mergeListeners existing desired
  /-- The existing names keep their order and come first. -/
  ordered : existing.map FullListener.name <+:
    (mergeListeners existing desired).map FullListener.name
  idempotent : mergeListeners (mergeListeners existing desired) desired =
    mergeListeners existing desired
  /-- No field of a listener changed and none was added. -/
  noticed : listenersEqual existing (mergeListeners existing desired) = true ↔
    mergeListeners existing desired = existing

/-- If the comparison sees every desired listener in place, the fields that it does not
look at are in place as well. -/
def UnseenInPlace (existing desired : List FullListener) : Prop :=
  (∀ listener ∈ desired, ∃ known ∈ existing, known.name = listener.name ∧
      listenerConfigEqual known listener = true) →
    ∀ listener ∈ desired, ∀ known ∈ existing, known.name = listener.name →
      known.unseen = listener.unseen

section Merges

variable {existing desired : List FullListener}
  (distinct : (existing.map FullListener.name).Nodup)
  (desiredDistinct : (desired.map FullListener.name).Nodup)

include distinct desiredDistinct

theorem listenersEqual_merge_iff :
    listenersEqual existing (mergeListeners existing desired) = true ↔
      ∀ listener ∈ desired, ∃ known ∈ existing, known.name = listener.name ∧
        listenerConfigEqual known listener = true := by
  rw [listenersEqual, Bool.and_eq_true, decide_eq_true_eq, List.all_eq_true]
  constructor
  · rintro ⟨-, allKnown⟩ listener isDesired
    have isMerged := (mem_mergeBy distinct desiredDistinct).mpr (Or.inl isDesired)
    obtain ⟨known, found, sameConfig⟩ := (Option.any_eq_true _ _).mp (allKnown listener isMerged)
    obtain ⟨isKnown, sameName⟩ := mem_of_lookup_indexBy FullListener.name found
    exact ⟨known, isKnown, sameName, sameConfig⟩
  · intro allKnown
    constructor
    · have names := @map_key_mergeBy _ _ _ FullListener.name existing desired distinct
      have noneNew : (desired.map FullListener.name).filter
          (fun name => name ∉ existing.map FullListener.name) = [] := by
        rw [List.filter_eq_nil_iff, List.forall_mem_map]
        intro listener isDesired
        obtain ⟨known, isKnown, sameName, -⟩ := allKnown listener isDesired
        rw [decide_eq_true_eq, not_not, ← sameName]
        exact List.mem_map_of_mem isKnown
      rw [noneNew, List.append_nil] at names
      have sizes := congrArg List.length names
      rw [List.length_map, List.length_map] at sizes
      exact sizes.symm
    · intro listener isMerged
      rw [Option.any_eq_true]
      rcases (mem_mergeBy distinct desiredDistinct).mp isMerged with isDesired | ⟨isExisting, -⟩
      · obtain ⟨known, isKnown, sameName, sameConfig⟩ := allKnown listener isDesired
        refine ⟨known, ?_, sameConfig⟩
        rw [← sameName]
        exact lookup_indexBy_of_nodup FullListener.name distinct isKnown
      · exact ⟨listener, lookup_indexBy_of_nodup FullListener.name distinct isExisting,
          listenerConfigEqual_refl listener⟩

theorem mergeListeners_eq_iff :
    mergeListeners existing desired = existing ↔ ∀ listener ∈ desired, listener ∈ existing :=
  mergeBy_eq_left_iff distinct desiredDistinct

theorem noticed_iff :
    (listenersEqual existing (mergeListeners existing desired) = true ↔
        mergeListeners existing desired = existing) ↔
      UnseenInPlace existing desired := by
  rw [listenersEqual_merge_iff distinct desiredDistinct,
    mergeListeners_eq_iff distinct desiredDistinct]
  constructor
  · intro noticed allSeen listener isDesired known isKnown sameName
    have isExisting := noticed.mp allSeen listener isDesired
    rw [List.inj_on_of_nodup_map distinct isKnown isExisting sameName]
  · intro inPlace
    constructor
    · intro allSeen listener isDesired
      obtain ⟨known, isKnown, sameName, seen⟩ := allSeen listener isDesired
      have unseen := inPlace allSeen listener isDesired known isKnown sameName
      rw [← eq_of_seen_of_unseen sameName seen unseen]
      exact isKnown
    · intro allPresent listener isDesired
      exact ⟨listener, allPresent listener isDesired, rfl, listenerConfigEqual_refl listener⟩

end Merges

/-- A merge of listeners with distinct names keeps its promises, and its changes are
noticed exactly if they are not all in fields that the comparison does not look at. -/
theorem mergesFaithfully_iff (existing desired : List FullListener)
    (distinct : (existing.map FullListener.name).Nodup)
    (desiredDistinct : (desired.map FullListener.name).Nodup) :
    MergesFaithfully existing desired ↔ UnseenInPlace existing desired := by
  constructor
  · intro faithful
    exact (noticed_iff distinct desiredDistinct).mp faithful.noticed
  · intro inPlace
    exact {
      distinct := nodup_map_key_mergeBy distinct desiredDistinct
      desiredKept := fun listener isDesired =>
        (mem_mergeBy distinct desiredDistinct).mpr (Or.inl isDesired)
      othersKept := fun listener isExisting notDesired =>
        (mem_mergeBy distinct desiredDistinct).mpr (Or.inr ⟨isExisting, notDesired⟩)
      ordered := by
        rw [mergeListeners, map_key_mergeBy distinct]
        exact List.prefix_append _ _
      idempotent := mergeBy_idempotent distinct desiredDistinct
      noticed := (noticed_iff distinct desiredDistinct).mpr inPlace }

/-! ## A listener for routes of one kind -/

def builtListener : FullListener where
  name := "http"
  port := 80
  protocol := .http
  allowedRoutes := some { namespaces := some { «from» := some .all } }

/-- The same listener after its owner restricted it to GRPCRoutes. -/
def restrictedListener : FullListener :=
  { builtListener with
    allowedRoutes := some
      { namespaces := some { «from» := some .all }, kinds := [{ kind := "GRPCRoute" }] } }

def securedListener (hostname : String) : FullListener :=
  { builtListener with
    name := listenerNameFromHostname hostname, hostname := some hostname, port := 443
    protocol := .https }

/-- One listener is replaced, one is added and one of another Ingress stays. -/
theorem built_listener_merged :
    MergesFaithfully [{ builtListener with port := 8080 }, securedListener "shop.example.com"]
      [builtListener, securedListener "pay.example.com"] := by
  refine (mergesFaithfully_iff _ _ (by decide +kernel) (by decide +kernel)).mpr ?_
  intro allSeen
  obtain ⟨known, isKnown, sameName, -⟩ :=
    allSeen (securedListener "pay.example.com") (List.mem_cons_of_mem _ List.mem_cons_self)
  rcases List.mem_pair.mp isKnown with rfl | rfl <;> exact absurd sameName (by decide +kernel)

/-- The merge lifts the restriction, and the comparison does not notice it. -/
theorem restriction_unnoticed :
    mergeListeners [restrictedListener] [builtListener] = [builtListener] ∧
      builtListener ≠ restrictedListener ∧
      listenersEqual [restrictedListener]
        (mergeListeners [restrictedListener] [builtListener]) = true ∧
      ¬ MergesFaithfully [restrictedListener] [builtListener] := by
  have merged : mergeListeners [restrictedListener] [builtListener] = [builtListener] := by
    decide +kernel
  have different : builtListener ≠ restrictedListener := by decide +kernel
  have equal : listenersEqual [restrictedListener]
      (mergeListeners [restrictedListener] [builtListener]) = true := by
    decide +kernel
  refine ⟨merged, different, equal, ?_⟩
  intro faithful
  have same := faithful.noticed.mp equal
  rw [merged] at same
  exact different (List.head_eq_of_cons_eq same)

end KubeLB.Conversion.FullListeners
