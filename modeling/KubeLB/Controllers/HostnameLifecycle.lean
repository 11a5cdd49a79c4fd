import KubeLB.Controllers.LoadBalancerReconciler
import KubeLB.Library.Runs

/-!
Contract: the hostname resources of a LoadBalancer over histories of edits.

Owns: which hostname a pass uses, what it does to the HTTPRoute, the Ingress and the hostname
status of the LoadBalancer, and the histories after which the namespace holds exactly the
hostname resource that is asked for.

Does not own: passes that end before the hostname is looked at, that is for a LoadBalancer
without endpoints, a deleted or a disabled one.
-/

set_option autoImplicit false

namespace KubeLB.Controllers.Balancing

open KubeLB.Library KubeLB.Core KubeLB.V1Alpha1 KubeLB.Naming KubeLB.PortLookup KubeLB.Resources
open KubeLB.LoadBalancers

/-! ## Hostname resources -/

inductive HostnameKind where
  | httpRoute
  | ingress
  deriving DecidableEq, Repr

def hostsOf (state : State) : HostnameKind → Option (List String)
  | .httpRoute => state.httpRoute.map (fun route => route.spec.hostnames)
  | .ingress => state.ingress.map (fun ingress => ingress.spec.rules.map (fun rule => rule.host))

def hostnameKind (pass : BalancerPass) : HostnameKind :=
  if useGatewayAPI pass.tenant pass.config then .httpRoute else .ingress

def currentHostname (lb : HostedLoadBalancer) : String := lb.statusHostname.getD ""

/-- The hostname that a pass uses: the one of the status before a new one. -/
def chosenHostname (pass : BalancerPass) (lb : HostedLoadBalancer) : String :=
  if currentHostname lb ≠ "" then currentHostname lb else newHostname pass lb

def wantsHostname (pass : BalancerPass) (lb : HostedLoadBalancer) : Bool :=
  shouldConfigureHostname lb.metadata.annotations lb.hostname pass.tenant.dns pass.config.dns

def configuredHostname (pass : BalancerPass) (lb : HostedLoadBalancer) : String :=
  if wantsHostname pass lb then chosenHostname pass lb else ""

/-! ## One pass -/

/-- A pass changes finalizers and status of the LoadBalancer only. -/
structure SameRequest (lb updated : HostedLoadBalancer) : Prop where
  hostname : updated.hostname = lb.hostname
  annotations : updated.metadata.annotations = lb.metadata.annotations
  spec : updated.spec = lb.spec
  deletion : updated.metadata.deletionTimestamp = lb.metadata.deletionTimestamp

theorem SameRequest.refl (lb : HostedLoadBalancer) : SameRequest lb lb := ⟨rfl, rfl, rfl, rfl⟩

theorem SameRequest.trans {lb updated last : HostedLoadBalancer} (first : SameRequest lb updated)
    (second : SameRequest updated last) : SameRequest lb last where
  hostname := second.hostname.trans first.hostname
  annotations := second.annotations.trans first.annotations
  spec := second.spec.trans first.spec
  deletion := second.deletion.trans first.deletion

def hosting (state : State) :
    Option HostedLoadBalancer × Option GatewayApi.HTTPRoute × Option Networking.Ingress :=
  (state.loadBalancer, state.httpRoute, state.ingress)

section Parts

variable {pass : BalancerPass} {lb : HostedLoadBalancer} {start : State}

theorem keeps_call_hosting (call : Call) (message : String) :
    Pass.Keeps hosting (pass.call call message) := Pass.keeps_check _

theorem keeps_reconcileService (className : Option String) (annotations : AnnotationSettings) :
    Pass.Keeps hosting (reconcileService pass lb className annotations) := by
  unfold reconcileService
  refine Pass.keeps_bind (keeps_call_hosting _ _) fun _ => ?_
  refine Pass.keeps_bind (Pass.keeps_read _) fun found => ?_
  refine Pass.keeps_bind (Pass.keeps_read _) fun pa => ?_
  refine Pass.keeps_bind ?_ fun ports => ?_
  · unfold indexed
    split
    · exact Pass.keeps_fail _
    · exact Pass.keeps_pure _
  · cases found with
    | none =>
        exact Pass.keeps_bind (keeps_call_hosting _ _) fun _ => Pass.keeps_modify fun _ => rfl
    | some existing =>
        dsimp only
        split
        · exact Pass.keeps_bind (keeps_call_hosting _ _) fun _ => Pass.keeps_modify fun _ => rfl
        · exact Pass.keeps_pure _

/-- The LoadBalancer in hand is the stored one, with the same request and status as another,
and the hostname resources are those of an earlier state. -/
structure Following (lb : HostedLoadBalancer) (start : State) (updated : HostedLoadBalancer)
    (reached : State) : Prop where
  stored : reached.loadBalancer = some updated
  request : SameRequest lb updated
  hosts : hostsOf reached = hostsOf start

theorem hostsOf_eq_of_hosting {before after : State} (same : hosting after = hosting before) :
    hostsOf after = hostsOf before := by
  simp only [hosting, Prod.mk.injEq] at same
  funext kind
  cases kind with
  | httpRoute => simp only [hostsOf, same.2.1]
  | ingress => simp only [hostsOf, same.2.2]

theorem sameRequest_addFinalizer (finalizer : String) :
    SameRequest lb { lb with metadata := addFinalizer finalizer lb.metadata } := by
  unfold addFinalizer
  split <;> exact ⟨rfl, rfl, rfl, rfl⟩

theorem addCleanupFinalizer_follows (isStored : start.loadBalancer = some lb) :
    (addCleanupFinalizer pass lb).Ensures start (Pass.either
      (fun updated reached => Following lb start updated reached ∧
        updated.statusHostname = lb.statusHostname)
      (fun _ _ => True)) := by
  unfold addCleanupFinalizer
  split
  · exact Pass.ensures_pure ⟨⟨isStored, .refl lb, rfl⟩, rfl⟩
  · refine Pass.ensures_bind_check (fun _ => trivial) (Pass.ensures_bind_modify ?_)
    have added := @sameRequest_addFinalizer lb cleanupFinalizer
    exact Pass.ensures_pure ⟨⟨rfl, ⟨rfl, added.annotations, rfl, added.deletion⟩, rfl⟩, rfl⟩

theorem addHostnameFinalizer_follows (isStored : start.loadBalancer = some lb) :
    (addHostnameFinalizer pass lb).Ensures start (Pass.either
      (fun updated reached => Following lb start updated reached ∧
        updated.statusHostname = lb.statusHostname)
      (fun _ _ => True)) := by
  unfold addHostnameFinalizer
  split
  · exact Pass.ensures_pure ⟨⟨isStored, .refl lb, rfl⟩, rfl⟩
  · refine Pass.ensures_bind_check (fun _ => trivial) (Pass.ensures_bind_modify ?_)
    exact Pass.ensures_pure ⟨⟨rfl, sameRequest_addFinalizer _, rfl⟩, rfl⟩

theorem chooseHostname_follows (isStored : start.loadBalancer = some lb) :
    (chooseHostname pass lb).Ensures start (Pass.either
      (fun chosen reached => Following lb start chosen.2 reached ∧
        chosen.1 = chosenHostname pass lb ∧
        (chosen.1 ≠ "" → chosen.2.statusHostname = some chosen.1))
      (fun _ _ => True)) := by
  unfold chooseHostname chosenHostname currentHostname
  dsimp only
  split
  · next isSet =>
      refine Pass.ensures_pure ⟨⟨isStored, .refl lb, rfl⟩, rfl, fun _ => ?_⟩
      cases isStatus : lb.statusHostname with
      | none => simp [isStatus] at isSet
      | some hostname => rfl
  · split
    · next isEmpty =>
        exact Pass.ensures_pure ⟨⟨isStored, .refl lb, rfl⟩, isEmpty.symm, fun notEmpty =>
          absurd rfl notEmpty⟩
    · refine Pass.ensures_bind_check (fun _ => trivial) (Pass.ensures_bind_modify ?_)
      exact Pass.ensures_pure ⟨⟨rfl, ⟨rfl, rfl, rfl, rfl⟩, rfl⟩, rfl, fun _ => rfl⟩

/-- The resource of a kind gets the hostname. -/
structure Rehosted (kind : HostnameKind) (hostname : String) (start reached : State) : Prop where
  loadBalancer : reached.loadBalancer = start.loadBalancer
  hosts : hostsOf reached = Function.update (hostsOf start) kind (some [hostname])

theorem createOrUpdateHostnameResource_hosts {kind : HostnameKind} {hostname : String}
    (text : String) {existing : State → Option (ObjectMeta × Bool)} (desired : ObjectMeta)
    {put : ObjectMeta → State → State}
    (puts : ∀ metadata, Rehosted kind hostname start (put metadata start))
    (unchanged : ∀ stored, existing start = some (stored, false) →
      hostsOf start kind = some [hostname]) :
    (createOrUpdateHostnameResource pass text existing desired put).Ensures start (Pass.either
      (fun _ reached => Rehosted kind hostname start reached) (fun _ _ => True)) := by
  unfold createOrUpdateHostnameResource
  refine Pass.ensures_bind_check (fun _ => trivial) (Pass.ensures_bind_read ?_)
  split
  · exact Pass.ensures_bind_check (fun _ => trivial) (Pass.ensures_modify (puts _))
  · next stored changed isExisting =>
      dsimp only
      split
      · exact Pass.ensures_bind_check (fun _ => trivial) (Pass.ensures_modify (puts _))
      · next isKept =>
          rw [not_or] at isKept
          have isFalse : changed = false := by simpa using isKept.1
          refine Pass.ensures_pure ⟨rfl, ?_⟩
          rw [← unchanged stored (isFalse ▸ isExisting), Function.update_eq_self]

theorem ensures_indexed {α : Type} (site : Site) (value : Option α) :
    (indexed site value).Ensures start
      (Pass.either (fun _ reached => reached = start) (fun _ _ => True)) := by
  unfold indexed
  split
  · exact Pass.ensures_fail trivial
  · exact Pass.ensures_pure rfl

theorem createHTTPRouteForHostname_hosts (svcName hostname : String)
    (annotations : AnnotationSettings) :
    (createHTTPRouteForHostname pass lb svcName hostname annotations).Ensures start (Pass.either
      (fun _ reached => Rehosted .httpRoute hostname start reached) (fun _ _ => True)) := by
  unfold createHTTPRouteForHostname
  split
  · exact Pass.ensures_fail trivial
  · refine Pass.ensures_bind _ (ensures_indexed _ _) ?_
    rintro port _ rfl
    refine createOrUpdateHostnameResource_hosts _ _ (fun metadata => ⟨rfl, ?_⟩) ?_
    · funext kind
      cases kind <;> rfl
    · intro stored isStored
      obtain ⟨route, isRoute, same⟩ := Option.map_eq_some_iff.mp isStored
      rw [Prod.mk.injEq, decide_eq_false_iff_not, not_not] at same
      rw [hostsOf, isRoute, Option.map_some, same.2]
      rfl

theorem createIngressForHostname_hosts (svcName hostname : String)
    (annotations : AnnotationSettings) :
    (createIngressForHostname pass lb svcName hostname annotations).Ensures start (Pass.either
      (fun _ reached => Rehosted .ingress hostname start reached) (fun _ _ => True)) := by
  unfold createIngressForHostname
  refine Pass.ensures_bind _ (ensures_indexed _ _) ?_
  rintro port _ rfl
  refine createOrUpdateHostnameResource_hosts _ _ (fun metadata => ⟨rfl, ?_⟩) ?_
  · funext kind
    cases kind <;> rfl
  · intro stored isStored
    obtain ⟨ingress, isIngress, same⟩ := Option.map_eq_some_iff.mp isStored
    rw [Prod.mk.injEq, decide_eq_false_iff_not, not_not] at same
    rw [hostsOf, isIngress, Option.map_some, same.2]
    rfl

/-- The hosts after a pass that configures a hostname, or none when it is empty. -/
def hostsAfter (kind : HostnameKind) (hostname : String)
    (hosts : HostnameKind → Option (List String)) : HostnameKind → Option (List String) :=
  if hostname = "" then hosts else Function.update hosts kind (some [hostname])

/-- What is reached with a hostname that may be empty. -/
structure Configured (pass : BalancerPass) (lb : HostedLoadBalancer) (start : State)
    (hostname : String) (reached : State) : Prop where
  stored : ∃ updated, reached.loadBalancer = some updated ∧ SameRequest lb updated ∧
    (hostname ≠ "" → updated.statusHostname = some hostname)
  hosts : hostsOf reached = hostsAfter (hostnameKind pass) hostname (hostsOf start)

theorem configureHostname_configures (isStored : start.loadBalancer = some lb)
    (svcName : String) (annotations : AnnotationSettings) :
    (configureHostname pass lb svcName annotations).Ensures start (Pass.either
      (fun hostname reached => hostname = chosenHostname pass lb ∧
        Configured pass lb start hostname reached)
      (fun _ _ => True)) := by
  unfold configureHostname
  refine Pass.ensures_bind _ (chooseHostname_follows isStored) ?_
  rintro ⟨hostname, chosen⟩ between ⟨following, isChosen, status⟩
  dsimp only at isChosen status following ⊢
  split
  · next isEmpty =>
      refine Pass.ensures_pure ⟨isEmpty ▸ isChosen, ⟨chosen, following.stored, following.request,
        fun notEmpty => absurd rfl notEmpty⟩, ?_⟩
      rw [hostsAfter, if_pos rfl, following.hosts]
  · next notEmpty =>
      refine Pass.ensures_bind _ (addHostnameFinalizer_follows following.stored) ?_
      rintro updated last ⟨again, sameStatus⟩
      have finish (reached : State)
          (rehosted : Rehosted (hostnameKind pass) hostname last reached) :
          hostname = chosenHostname pass lb ∧ Configured pass lb start hostname reached := by
        refine ⟨isChosen, ⟨updated, ?_, following.request.trans again.request, fun _ => ?_⟩, ?_⟩
        · rw [rehosted.loadBalancer, again.stored]
        · rw [sameStatus, status notEmpty]
        · rw [hostsAfter, if_neg notEmpty, rehosted.hosts, again.hosts, following.hosts]
      split
      · next gatewayAPI =>
          have isKind : hostnameKind pass = .httpRoute := if_pos gatewayAPI
          refine Pass.ensures_bind _ (createHTTPRouteForHostname_hosts _ _ _) ?_
          intro _ reached rehosted
          exact Pass.ensures_pure (finish reached (isKind ▸ rehosted))
      · next ingressAPI =>
          have isKind : hostnameKind pass = .ingress := if_neg ingressAPI
          refine Pass.ensures_bind _ (createIngressForHostname_hosts _ _ _) ?_
          intro _ reached rehosted
          exact Pass.ensures_pure (finish reached (isKind ▸ rehosted))

theorem configureWantedHostname_configures (isStored : start.loadBalancer = some lb)
    (svcName : String) (annotations : AnnotationSettings) :
    (configureWantedHostname pass lb svcName annotations).Ensures start (Pass.either
      (fun hostname reached => hostname = configuredHostname pass lb ∧
        Configured pass lb start hostname reached)
      (fun _ _ => True)) := by
  unfold configureWantedHostname configuredHostname wantsHostname
  split
  · exact configureHostname_configures isStored svcName annotations
  · refine Pass.ensures_pure
      ⟨rfl, ⟨lb, isStored, .refl lb, fun notEmpty => absurd rfl notEmpty⟩, ?_⟩
    rw [hostsAfter, if_pos rfl]

/-- The status and the hosts after a pass. -/
structure HostnameSet (pass : BalancerPass) (lb : HostedLoadBalancer) (start reached : State) :
    Prop where
  stored : ∃ updated, reached.loadBalancer = some updated ∧ SameRequest lb updated ∧
    currentHostname updated = configuredHostname pass lb
  hosts : hostsOf reached =
    hostsAfter (hostnameKind pass) (configuredHostname pass lb) (hostsOf start)

theorem updateLoadBalancerStatus_sets {hostname : String} {between : State}
    (isConfigured : hostname = configuredHostname pass lb)
    (configured : Configured pass lb start hostname between) :
    (updateLoadBalancerStatus pass hostname).Ensures between (Pass.either
      (fun _ reached => HostnameSet pass lb start reached) (fun _ _ => True)) := by
  obtain ⟨updated, isUpdated, request, status⟩ := configured.stored
  refine Pass.ensures_bind_check (fun _ => trivial) (Pass.ensures_modify ⟨?_, ?_⟩)
  · refine ⟨{ updated with
      statusHostname := updatedHostnameStatus updated.statusHostname hostname }, ?_,
      ⟨request.hostname, request.annotations, request.spec, request.deletion⟩, ?_⟩
    · rw [isUpdated, Option.map_some]
    · rw [currentHostname, updatedHostnameStatus, ← isConfigured]
      split
      · next isEmpty => rw [isEmpty, Option.getD_none]
      · next notEmpty =>
          rw [status notEmpty]
          simp
  · rw [← isConfigured]
    exact configured.hosts

theorem SameRequest.configuredHostname_eq {updated : HostedLoadBalancer}
    (request : SameRequest lb updated) (sameStatus : updated.statusHostname = lb.statusHostname) :
    configuredHostname pass updated = configuredHostname pass lb := by
  have sameNew : newHostname pass updated = newHostname pass lb := by
    rw [newHostname, newHostname, request.hostname]
  rw [configuredHostname, configuredHostname, wantsHostname, wantsHostname, chosenHostname,
    chosenHostname, currentHostname, currentHostname, sameNew, request.hostname,
    request.annotations, sameStatus]

theorem balance_sets (isStored : start.loadBalancer = some lb) :
    (balance pass lb).Ensures start (Pass.either
      (fun _ reached => HostnameSet pass lb start reached) (fun _ _ => True)) := by
  unfold balance
  refine Pass.ensures_bind _ (addCleanupFinalizer_follows isStored) ?_
  rintro updated between ⟨following, sameStatus⟩
  refine Pass.ensures_bind_keeps hosting (Pass.keeps_await ?_) (fun _ _ _ => trivial) ?_
  · intro state value reached allocates
    obtain ⟨allocated, -, isReached⟩ := Option.map_eq_some_iff.mp allocates
    cases isReached
    rfl
  intro _ allocated sameAllocated
  refine Pass.ensures_bind_keeps hosting (keeps_reconcileService _ _) (fun _ _ _ => trivial) ?_
  intro _ served sameServed
  have sameHosting : hosting served = hosting between := sameServed.trans sameAllocated
  have isUpdated : served.loadBalancer = some updated :=
    (congrArg Prod.fst sameHosting).trans following.stored
  refine Pass.ensures_bind_check (fun _ => trivial) ?_
  refine Pass.ensures_bind _ (configureWantedHostname_configures isUpdated _ _) ?_
  rintro hostname hosted ⟨isConfigured, configured⟩
  rw [following.request.configuredHostname_eq sameStatus] at isConfigured
  obtain ⟨last, isLast, request, status⟩ := configured.stored
  refine updateLoadBalancerStatus_sets isConfigured
    ⟨⟨last, isLast, following.request.trans request, status⟩, ?_⟩
  rw [configured.hosts, hostsOf_eq_of_hosting sameHosting, following.hosts]

/-- A LoadBalancer whose hostname a pass looks at. -/
structure Served (pass : BalancerPass) (lb : HostedLoadBalancer) : Prop where
  endpoints : lb.spec.endpoints ≠ []
  live : ¬ Deleting lb.metadata
  enabled : disabled pass.tenant pass.config = false

theorem reconcile_sets (isStored : start.loadBalancer = some lb) (served : Served pass lb) :
    (reconcile pass).Ensures start (Pass.either
      (fun _ reached => HostnameSet pass lb start reached) (fun _ _ => True)) := by
  unfold reconcile
  apply Pass.ensures_bind_read
  rw [isStored]
  dsimp only
  rw [if_neg served.endpoints]
  refine Pass.ensures_bind_check (fun _ => trivial) ?_
  rw [if_neg served.live]
  refine Pass.ensures_bind_check (fun _ => trivial) ?_
  simp only [served.enabled, Bool.false_eq_true, and_false, if_false]
  exact balance_sets isStored

end Parts

/-! ## Histories of edits -/

/-- An edit of the LoadBalancer and the settings, with the pass that follows it. -/
structure HostnameEdit where
  hostname : String := ""
  annotations : StringMap := ∅
  pass : BalancerPass

def HostnameEdit.apply (edit : HostnameEdit) (lb : HostedLoadBalancer) : HostedLoadBalancer :=
  { lb with
    hostname := edit.hostname
    metadata := { lb.metadata with annotations := edit.annotations } }

def hostnameStep (state : State) (edit : HostnameEdit) : Option State :=
  match reconcile edit.pass
      { state with loadBalancer := state.loadBalancer.map edit.apply } with
  | some (.ok _, reached) => some reached
  | _ => none

def HostnameEdit.wants (edit : HostnameEdit) : Bool :=
  shouldConfigureHostname edit.annotations edit.hostname edit.pass.tenant.dns
    edit.pass.config.dns

def noHosts : HostnameKind → Option (List String) := fun _ => none

def onlyHost (kind : HostnameKind) (hostname : String) : HostnameKind → Option (List String) :=
  Function.update noHosts kind (some [hostname])

/-- The namespace holds what the edit asks for: one resource of the right kind if a hostname is
to be configured and could be determined, and none otherwise. The host is the requested one,
and a generated one stays. -/
structure HostnameExact (lb : HostedLoadBalancer) (edit : HostnameEdit) (before after : State) :
    Prop where
  one : edit.wants = true → chosenHostname edit.pass (edit.apply lb) ≠ "" →
    ∃ host, hostsOf after = onlyHost (hostnameKind edit.pass) host ∧
      (edit.hostname ≠ "" → host = edit.hostname) ∧
      (lb.hostname = "" → edit.hostname = "" →
        ∀ kind generated, hostsOf before = onlyHost kind generated → host = generated)
  none : ¬ (edit.wants = true ∧ chosenHostname edit.pass (edit.apply lb) ≠ "") →
    hostsOf after = noHosts

def EditExact (state : State) (edit : HostnameEdit) : Prop :=
  ∀ lb after, state.loadBalancer = some lb → hostnameStep state edit = some after →
    HostnameExact lb edit state after

/-- An edit for a LoadBalancer with a hostname resource still asks for one of this kind, and
for no other host. -/
def HostnameKept (state : State) (edit : HostnameEdit) : Prop :=
  ∀ kind hostname, hostsOf state = onlyHost kind hostname →
    edit.wants = true ∧ hostnameKind edit.pass = kind ∧
      (edit.hostname = "" ∨ edit.hostname = hostname)

structure HostnameSettled (lb : HostedLoadBalancer) (state : State) : Prop where
  stored : state.loadBalancer = some lb
  endpoints : lb.spec.endpoints ≠ []
  live : ¬ Deleting lb.metadata
  absent : currentHostname lb = "" → hostsOf state = noHosts
  present : currentHostname lb ≠ "" → ∃ kind, hostsOf state = onlyHost kind (currentHostname lb)

section Histories

variable {lb : HostedLoadBalancer} {state after : State} {edit : HostnameEdit}

theorem onlyHost_ne_noHosts (kind : HostnameKind) (hostname : String) :
    onlyHost kind hostname ≠ noHosts := by
  intro same
  have atKind := congrFun same kind
  rw [onlyHost, Function.update_self] at atKind
  cases atKind

theorem onlyHost_inj {kind other : HostnameKind} {hostname host : String}
    (same : onlyHost kind hostname = onlyHost other host) : kind = other ∧ hostname = host := by
  have atKind := congrFun same kind
  rw [onlyHost, onlyHost, Function.update_self] at atKind
  by_cases isOther : kind = other
  · rw [isOther, Function.update_self, Option.some.injEq, List.cons.injEq] at atKind
    exact ⟨isOther, atKind.1⟩
  · rw [Function.update_of_ne isOther] at atKind
    cases atKind

/-- What a step does to the LoadBalancer and its hostname resources. -/
theorem hostnameStep_sets (isStored : state.loadBalancer = some lb)
    (endpoints : lb.spec.endpoints ≠ []) (live : ¬ Deleting lb.metadata)
    (enabled : disabled edit.pass.tenant edit.pass.config = false)
    (stepped : hostnameStep state edit = some after) :
    (∃ updated, after.loadBalancer = some updated ∧ SameRequest (edit.apply lb) updated ∧
      currentHostname updated = configuredHostname edit.pass (edit.apply lb)) ∧
    hostsOf after = hostsAfter (hostnameKind edit.pass)
      (configuredHostname edit.pass (edit.apply lb)) (hostsOf state) := by
  unfold hostnameStep at stepped
  split at stepped
  · next reached run =>
      cases stepped
      have served : Served edit.pass (edit.apply lb) := ⟨endpoints, live, enabled⟩
      have isEdited : (state.loadBalancer.map edit.apply) = some (edit.apply lb) := by
        rw [isStored, Option.map_some]
      have ensured : (reconcile edit.pass).Ensures
          { state with loadBalancer := state.loadBalancer.map edit.apply } _ :=
        reconcile_sets isEdited served
      obtain ⟨stored, hosts⟩ := ensured.of_run run
      refine ⟨stored, hosts.trans ?_⟩
      congr 1
  · cases stepped

/-- Without a hostname resource every edit is followed. -/
theorem exact_of_absent (isEmpty : currentHostname lb = "") (none : hostsOf state = noHosts)
    (hosts : hostsOf after = hostsAfter (hostnameKind edit.pass)
      (configuredHostname edit.pass (edit.apply lb)) (hostsOf state)) :
    HostnameExact lb edit state after := by
  have isChosen : chosenHostname edit.pass (edit.apply lb) =
      newHostname edit.pass (edit.apply lb) := if_neg (not_not.mpr isEmpty)
  refine ⟨?_, ?_⟩
  · intro wants determined
    have configured : configuredHostname edit.pass (edit.apply lb) =
        newHostname edit.pass (edit.apply lb) := (if_pos wants).trans isChosen
    rw [isChosen] at determined
    rw [configured, hostsAfter, if_neg determined, none] at hosts
    refine ⟨newHostname edit.pass (edit.apply lb), hosts, ?_, ?_⟩
    · exact fun explicit => if_pos explicit
    · intro _ _ kind generated isOnly
      exact absurd (isOnly.symm.trans none) (onlyHost_ne_noHosts kind generated)
  · intro notConfigured
    have configured : configuredHostname edit.pass (edit.apply lb) = "" := by
      by_contra notEmpty
      refine notConfigured ⟨?_, ?_⟩
      · by_contra unwanted
        exact notEmpty (if_neg unwanted)
      · intro isChosenEmpty
        apply notEmpty
        rw [configuredHostname, isChosenEmpty]
        split <;> rfl
    rw [configured, hostsAfter, if_pos rfl, none] at hosts
    exact hosts

/-- With a hostname resource an edit is followed when it keeps kind and host. -/
theorem exact_iff_of_present (notEmpty : currentHostname lb ≠ "") {kind : HostnameKind}
    (isOnly : hostsOf state = onlyHost kind (currentHostname lb))
    (hosts : hostsOf after = hostsAfter (hostnameKind edit.pass)
      (configuredHostname edit.pass (edit.apply lb)) (hostsOf state)) :
    HostnameExact lb edit state after ↔ edit.wants = true ∧ hostnameKind edit.pass = kind ∧
      (edit.hostname = "" ∨ edit.hostname = currentHostname lb) := by
  have isChosen : chosenHostname edit.pass (edit.apply lb) = currentHostname lb := if_pos notEmpty
  by_cases wants : edit.wants = true
  · have configured : configuredHostname edit.pass (edit.apply lb) = currentHostname lb :=
      (if_pos wants).trans isChosen
    rw [configured, hostsAfter, if_neg notEmpty, isOnly] at hosts
    constructor
    · intro exactly
      obtain ⟨host, isHost, explicit, -⟩ := exactly.one wants (by rwa [isChosen])
      rw [hosts] at isHost
      have isKind : hostnameKind edit.pass = kind := by
        by_contra otherKind
        have atKind := congrFun isHost kind
        rw [Function.update_of_ne (Ne.symm otherKind), onlyHost, Function.update_self, onlyHost,
          Function.update_of_ne (Ne.symm otherKind)] at atKind
        cases atKind
      have isCurrent : currentHostname lb = host := by
        have atWanted := congrFun isHost (hostnameKind edit.pass)
        rw [Function.update_self, onlyHost, Function.update_self, Option.some.injEq,
          List.cons.injEq] at atWanted
        exact atWanted.1
      refine ⟨wants, isKind, ?_⟩
      by_cases implicit : edit.hostname = ""
      · exact Or.inl implicit
      · exact Or.inr ((explicit implicit).symm.trans isCurrent.symm)
    · rintro ⟨-, isKind, sameHost⟩
      rw [isKind, onlyHost, Function.update_idem] at hosts
      refine ⟨fun _ _ => ⟨currentHostname lb, isKind ▸ hosts, ?_, ?_⟩, ?_⟩
      · intro explicit
        exact (sameHost.resolve_left explicit).symm
      · intro _ _ other generated isOther
        exact (onlyHost_inj (isOnly.symm.trans isOther)).2
      · intro notConfigured
        exact absurd ⟨wants, by rwa [isChosen]⟩ notConfigured
  · have configured : configuredHostname edit.pass (edit.apply lb) = "" := if_neg wants
    rw [configured, hostsAfter, if_pos rfl, isOnly] at hosts
    refine iff_of_false ?_ (fun kept => wants kept.1)
    intro exactly
    have none := exactly.none (fun both => wants both.1)
    exact onlyHost_ne_noHosts _ _ (hosts.symm.trans none)

theorem editExact_iff (settled : HostnameSettled lb state)
    (enabled : disabled edit.pass.tenant edit.pass.config = false)
    (stepped : hostnameStep state edit = some after) :
    EditExact state edit ↔ HostnameKept state edit := by
  obtain ⟨-, hosts⟩ :=
    hostnameStep_sets settled.stored settled.endpoints settled.live enabled stepped
  have exact_iff : EditExact state edit ↔ HostnameExact lb edit state after := by
    constructor
    · exact fun edits => edits lb after settled.stored stepped
    · intro exactly other reached isOther isReached
      cases settled.stored.symm.trans isOther
      cases stepped.symm.trans isReached
      exact exactly
  rw [exact_iff]
  by_cases isEmpty : currentHostname lb = ""
  · have none := settled.absent isEmpty
    refine iff_of_true (exact_of_absent isEmpty none hosts) ?_
    intro kind hostname isOnly
    exact absurd (isOnly.symm.trans none) (onlyHost_ne_noHosts kind hostname)
  · obtain ⟨kind, isOnly⟩ := settled.present isEmpty
    rw [exact_iff_of_present isEmpty isOnly hosts]
    constructor
    · rintro kept other hostname isOther
      obtain ⟨rfl, rfl⟩ := onlyHost_inj (isOnly.symm.trans isOther)
      exact kept
    · exact fun kept => kept kind _ isOnly

theorem HostnameSettled.step (settled : HostnameSettled lb state)
    (enabled : disabled edit.pass.tenant edit.pass.config = false)
    (kept : HostnameKept state edit) (stepped : hostnameStep state edit = some after) :
    ∃ updated, HostnameSettled updated after := by
  obtain ⟨⟨updated, isUpdated, request, isCurrent⟩, hosts⟩ :=
    hostnameStep_sets settled.stored settled.endpoints settled.live enabled stepped
  have live : ¬ Deleting updated.metadata := by
    rw [Deleting, request.deletion]
    exact settled.live
  refine ⟨updated, isUpdated, request.spec ▸ settled.endpoints, live, ?_, ?_⟩
  · intro isEmpty
    rw [isCurrent] at isEmpty
    rw [hosts, hostsAfter, if_pos isEmpty]
    by_cases wasEmpty : currentHostname lb = ""
    · exact settled.absent wasEmpty
    · -- a hostname that is still wanted stays
      obtain ⟨kind, isOnly⟩ := settled.present wasEmpty
      have wants := (kept kind _ isOnly).1
      have isChosen : configuredHostname edit.pass (edit.apply lb) = currentHostname lb :=
        (if_pos wants).trans (if_pos wasEmpty)
      exact absurd (isChosen.symm.trans isEmpty) wasEmpty
  · intro notEmpty
    rw [isCurrent] at notEmpty ⊢
    refine ⟨hostnameKind edit.pass, ?_⟩
    rw [hosts, hostsAfter, if_neg notEmpty]
    by_cases wasEmpty : currentHostname lb = ""
    · rw [settled.absent wasEmpty]
      rfl
    · obtain ⟨kind, isOnly⟩ := settled.present wasEmpty
      rw [isOnly, (kept kind _ isOnly).2.1, onlyHost, onlyHost, Function.update_idem]

end Histories

/-- Over a history of edits with successful passes, the namespace always holds exactly the
hostname resource that is asked for when no edit takes a hostname back, changes it or changes
the kind of the resource. -/
theorem hostname_lifecycle_iff {lb : HostedLoadBalancer} {start reached : State}
    {edits : List HostnameEdit} (settled : HostnameSettled lb start)
    (enabled : ∀ edit ∈ edits, disabled edit.pass.tenant edit.pass.config = false)
    (run : runFrom hostnameStep start edits = some reached) :
    RunMeets hostnameStep EditExact start edits ↔
      RunMeets hostnameStep HostnameKept start edits := by
  induction edits generalizing start lb with
  | nil =>
      refine iff_of_true ?_ ?_ <;>
      · intro index edit isEdit
        cases isEdit
  | cons edit edits ih =>
      rw [List.forall_mem_cons] at enabled
      rw [runFrom] at run
      cases isNext : hostnameStep start edit with
      | none =>
          rw [isNext] at run
          cases run
      | some next =>
          rw [isNext] at run
          rw [runMeets_cons_iff isNext, runMeets_cons_iff isNext,
            editExact_iff settled enabled.1 isNext]
          refine and_congr_right (fun kept => ?_)
          obtain ⟨updated, settledNext⟩ := settled.step enabled.1 kept isNext
          exact ih settledNext enabled.2 run

/-! ## Histories -/

def hostedWeb : HostedLoadBalancer where
  metadata := { name := "web", ns := "tenant-a" }
  spec :=
    { endpoints :=
        [{ addresses := [{ ip := "10.0.0.1" }], ports := [{ name := "http", port := 30080 }] }]
      ports := [{ name := "http", port := 80 }] }

def explicitPass : BalancerPass where
  tenant := { dns := { wildcardDomain := none, allowExplicitHostnames := some true } }
  config := { dns := { wildcardDomain := [], allowExplicitHostnames := false } }
  listed := [hostedWeb.toLoadBalancer]
  draws := [0]
  sort := SliceSort.stable String

def requestHost (hostname : String) : HostnameEdit where
  hostname := hostname
  pass := explicitPass

/-- Another hostname is not taken over, and the Ingress outlives the request. -/
theorem hostname_edits_not_followed :
    ∃ first second third,
      runFrom hostnameStep { loadBalancer := some hostedWeb } [requestHost "a.example.com"] =
        some first ∧
      hostnameStep first (requestHost "b.example.com") = some second ∧
      hostnameStep second (requestHost "") = some third ∧
      hostsOf first .ingress = some ["a.example.com"] ∧
      hostsOf second .ingress = some ["a.example.com"] ∧
      hostsOf third .ingress = some ["a.example.com"] ∧
      ¬ EditExact first (requestHost "b.example.com") ∧
      ¬ EditExact second (requestHost "") := by
  have evaluated : (runFrom hostnameStep { loadBalancer := some hostedWeb }
      [requestHost "a.example.com"]).any (fun first =>
        decide (hostsOf first .ingress = some ["a.example.com"]) &&
        first.loadBalancer.any (fun lb => decide
          (chosenHostname explicitPass ((requestHost "b.example.com").apply lb) ≠ "")) &&
        (hostnameStep first (requestHost "b.example.com")).any (fun second =>
          decide (hostsOf second .ingress = some ["a.example.com"]) &&
          second.loadBalancer.isSome &&
          (hostnameStep second (requestHost "")).any (fun third =>
            decide (hostsOf third .ingress = some ["a.example.com"])))) = true := by
    decide +kernel
  obtain ⟨first, isFirst, facts⟩ := (Option.any_eq_true _ _).mp evaluated
  simp only [Bool.and_eq_true, decide_eq_true_eq] at facts
  obtain ⟨⟨firstHost, hasLB⟩, later⟩ := facts
  obtain ⟨lb, isLB, determined⟩ := (Option.any_eq_true _ _).mp hasLB
  obtain ⟨second, isSecond, facts⟩ := (Option.any_eq_true _ _).mp later
  simp only [Bool.and_eq_true, decide_eq_true_eq] at facts determined
  obtain ⟨⟨secondHost, hasLB⟩, later⟩ := facts
  obtain ⟨updated, isUpdated⟩ := Option.isSome_iff_exists.mp hasLB
  obtain ⟨third, isThird, thirdHost⟩ := (Option.any_eq_true _ _).mp later
  rw [decide_eq_true_eq] at thirdHost
  refine ⟨first, second, third, isFirst, isSecond, isThird, firstHost, secondHost, thirdHost,
    ?_, ?_⟩
  · intro exactly
    obtain ⟨host, isOnly, explicit, -⟩ :=
      (exactly lb second isLB isSecond).one (by decide +kernel) determined
    have isHost : host = "b.example.com" := explicit (by decide)
    have atIngress := (congrFun isOnly .ingress).symm.trans secondHost
    rw [isHost] at atIngress
    exact absurd atIngress (by decide +kernel)
  · intro exactly
    have none := (exactly updated third isUpdated isThird).none (fun both =>
      absurd both.1 (by decide +kernel))
    rw [none] at thirdHost
    cases thirdHost

/-- A first request is followed, and so is the same request with its Ingress in place. -/
theorem repeated_request_followed :
    HostnameSettled hostedWeb { loadBalancer := some hostedWeb } ∧
      RunMeets hostnameStep EditExact { loadBalancer := some hostedWeb }
        [requestHost "a.example.com", requestHost "a.example.com"] := by
  have settled : HostnameSettled hostedWeb { loadBalancer := some hostedWeb } :=
    ⟨rfl, by decide, by decide, fun _ => funext fun kind => by cases kind <;> rfl,
      fun notEmpty => absurd rfl notEmpty⟩
  have returns : (runFrom hostnameStep { loadBalancer := some hostedWeb }
      [requestHost "a.example.com", requestHost "a.example.com"]).isSome = true := by
    decide +kernel
  obtain ⟨reached, run⟩ := Option.isSome_iff_exists.mp returns
  have evaluated : (hostnameStep { loadBalancer := some hostedWeb }
      (requestHost "a.example.com")).any (fun first =>
        decide (hostsOf first .ingress = some ["a.example.com"])) = true := by
    decide +kernel
  obtain ⟨first, isFirst, hosts⟩ := (Option.any_eq_true _ _).mp evaluated
  rw [decide_eq_true_eq] at hosts
  refine ⟨settled, (hostname_lifecycle_iff settled ?_ run).mpr
    ((runMeets_cons_iff isFirst).mpr ⟨?_, ?_⟩)⟩
  · intro edit isEdit
    rcases List.mem_pair.mp isEdit with rfl | rfl <;> decide
  · intro kind hostname isOnly
    exact absurd (isOnly.symm.trans (settled.absent rfl)) (onlyHost_ne_noHosts kind hostname)
  · intro index edit isEdit state isState
    cases index with
    | succ index => cases isEdit
    | zero =>
        cases isEdit
        cases isState
        intro kind hostname isOnly
        rw [isOnly] at hosts
        cases kind with
        | httpRoute => cases hosts
        | ingress =>
            cases hosts
            exact ⟨by decide, by decide, Or.inr rfl⟩

end KubeLB.Controllers.Balancing
