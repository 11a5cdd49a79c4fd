import KubeLB.Controllers.IndexSafety
import KubeLB.LoadBalancers.NodePorts

/-!
Contract: `reconcileService` on the Service it has just written.

Owns: when a run of `reconcileService` issues no write, what the run before it leaves, and the
exact condition under which a second run is silent.

Does not own: changes between the two runs. The API server stores objects as written and an
empty map as absent.
-/

set_option autoImplicit false

namespace KubeLB.Controllers.Balancing

open KubeLB.Library KubeLB.Core KubeLB.V1Alpha1 KubeLB.Naming KubeLB.PortLookup KubeLB.Resources
open KubeLB.LoadBalancers

/-! ## Runs without a write -/

/-- The pass on an API server that refuses every write of a Service. -/
def BalancerPass.refusingWrites (pass : BalancerPass) : BalancerPass :=
  { pass with
    fault := fun call =>
      match call with
      | .createService => some "refused"
      | .updateService => some "refused"
      | _ => none }

section Runs

variable (pass : BalancerPass) (lb : HostedLoadBalancer) (className : Option String)
  (annotations : AnnotationSettings)

/-- `reconcileService` succeeds where every write is refused: it issues none. -/
def IssuesNoWrite (state : State) : Prop :=
  reconcileService pass.refusingWrites lb className annotations state = some (.ok ⟨⟩, state)

def wantedAnnotations : StringMap :=
  propagateAnnotations lb.metadata.annotations annotations .service

def foundService (state : State) : BalancerService := state.service.getD absentService

def mergedAnnotations (state : State) : StringMap :=
  reconcileAnnotations (foundService state).metadata.annotations (wantedAnnotations lb annotations)

def createdPorts (state : State) : Option (List Core.ServicePort) :=
  createServicePorts pass.sort lb.toLoadBalancer (foundService state).service state.portAllocator

def UpToDate (ports : List Core.ServicePort) (merged : StringMap) (existing : BalancerService) :
    Prop :=
  ¬ serviceDiffers existing (desiredService lb className ports merged) ∧
    compareAnnotations (readAnnotations existing.metadata.annotations) (some merged) = true

def updatedService (ports : List Core.ServicePort) (merged : StringMap)
    (existing : BalancerService) : BalancerService where
  metadata :=
    { existing.metadata with
      labels := (desiredService lb className ports merged).metadata.labels
      annotations := merged }
  spec := (desiredService lb className ports merged).spec

/-- What a run that succeeds has done. -/
inductive Reconciled (start reached : State) (ports : List Core.ServicePort)
    (merged : StringMap) : Prop where
  | created (absent : start.service = none) (accepted : pass.fault .createService = none)
      (isReached : reached =
        { start with service := some (desiredService lb className ports merged) })
  | updated (existing : BalancerService) (isFound : start.service = some existing)
      (outdated : ¬ UpToDate lb className ports merged existing)
      (accepted : pass.fault .updateService = none)
      (isReached : reached =
        { start with service := some (updatedService lb className ports merged existing) })
  | kept (existing : BalancerService) (isFound : start.service = some existing)
      (upToDate : UpToDate lb className ports merged existing) (isReached : reached = start)

variable {pass lb className annotations} {start reached state : State}

theorem indexed_eq_ok_iff {α : Type} {site : Site} {value : Option α} {result : α}
    {before after : State} :
    indexed site value before = some (.ok result, after) ↔
      value = some result ∧ after = before := by
  cases value with
  | none => simp [indexed, Pass.fail_ne_ok]
  | some found =>
      rw [indexed, Pass.pure_eq_ok_iff, Option.some.injEq, eq_comm (a := result)]

theorem call_eq_ok_iff {call : Call} {message : String} {value : PUnit} {before after : State} :
    pass.call call message before = some (.ok value, after) ↔
      pass.fault call = none ∧ after = before := by
  rw [BalancerPass.call, Pass.check_eq_ok_iff, Option.map_eq_none_iff]

theorem reconcileService_eq_ok_iff :
    reconcileService pass lb className annotations start = some (.ok ⟨⟩, reached) ↔
      pass.fault .getService = none ∧ ∃ ports, createdPorts pass lb start = some ports ∧
        Reconciled pass lb className start reached ports
          (mergedAnnotations lb annotations start) := by
  have outdated_iff {ports : List Core.ServicePort} {merged : StringMap}
      {existing : BalancerService} :
      (serviceDiffers existing (desiredService lb className ports merged) ∨
        ¬ compareAnnotations (readAnnotations existing.metadata.annotations) (some merged)) ↔
      ¬ UpToDate lb className ports merged existing := by
    rw [UpToDate, not_and_or, not_not]
  simp only [reconcileService, Pass.bind_eq_ok_iff, call_eq_ok_iff, Pass.read_eq_ok_iff,
    indexed_eq_ok_iff]
  constructor
  · rintro ⟨_, _, ⟨noFault, rfl⟩, _, _, ⟨rfl, rfl⟩, _, _, ⟨rfl, rfl⟩, ports, _, ⟨isCreated, rfl⟩,
      last⟩
    rename_i start
    refine ⟨noFault, ports, isCreated, ?_⟩
    unfold mergedAnnotations foundService wantedAnnotations
    generalize reconcileAnnotations _ _ = merged at last ⊢
    cases isFound : start.service with
    | none =>
        simp only [isFound, Pass.bind_eq_ok_iff, call_eq_ok_iff, Pass.modify_eq_ok_iff] at last
        obtain ⟨_, _, ⟨accepted, rfl⟩, rfl⟩ := last
        exact .created isFound accepted rfl
    | some existing =>
        simp only [isFound] at last
        split at last
        · next outdated =>
            simp only [Pass.bind_eq_ok_iff, call_eq_ok_iff, Pass.modify_eq_ok_iff] at last
            obtain ⟨_, _, ⟨accepted, rfl⟩, rfl⟩ := last
            exact .updated existing isFound (outdated_iff.mp outdated) accepted rfl
        · next upToDate =>
            rw [outdated_iff, not_not] at upToDate
            exact .kept existing isFound upToDate (Pass.pure_eq_ok_iff.mp last).2
  · rintro ⟨noFault, ports, isCreated, done⟩
    refine ⟨⟨⟩, start, ⟨noFault, rfl⟩, _, _, ⟨rfl, rfl⟩, _, _, ⟨rfl, rfl⟩, ports, _,
      ⟨isCreated, rfl⟩, ?_⟩
    unfold mergedAnnotations foundService wantedAnnotations at done
    generalize reconcileAnnotations _ _ = merged at done ⊢
    cases done with
    | created absent accepted isReached =>
        simp only [absent, Pass.bind_eq_ok_iff, call_eq_ok_iff, Pass.modify_eq_ok_iff]
        exact ⟨⟨⟩, start, ⟨accepted, rfl⟩, isReached⟩
    | updated existing isFound outdated accepted isReached =>
        simp only [isFound, outdated_iff, outdated, not_false_eq_true, if_true,
          Pass.bind_eq_ok_iff, call_eq_ok_iff, Pass.modify_eq_ok_iff]
        exact ⟨⟨⟩, start, ⟨accepted, rfl⟩, isReached⟩
    | kept existing isFound upToDate isReached =>
        simp only [isFound, outdated_iff, upToDate, not_true_eq_false, if_false]
        exact Pass.pure_eq_ok_iff.mpr ⟨rfl, isReached⟩

/-- No write is issued exactly when the stored Service is as wanted. -/
theorem issuesNoWrite_iff :
    IssuesNoWrite pass lb className annotations state ↔
      ∃ ports existing, createdPorts pass lb state = some ports ∧
        state.service = some existing ∧
        UpToDate lb className ports (mergedAnnotations lb annotations state) existing := by
  rw [IssuesNoWrite, reconcileService_eq_ok_iff]
  constructor
  · rintro ⟨-, ports, isCreated, done⟩
    cases done with
    | created _ accepted _ => cases accepted
    | updated _ _ _ accepted _ => cases accepted
    | kept existing isFound upToDate _ => exact ⟨ports, existing, isCreated, isFound, upToDate⟩
  · rintro ⟨ports, existing, isCreated, isFound, upToDate⟩
    exact ⟨rfl, ports, isCreated, .kept existing isFound upToDate rfl⟩

end Runs

/-! ## The condition -/

section Condition

variable (pass : BalancerPass) (lb : HostedLoadBalancer) (annotations : AnnotationSettings)

/-- A first run leaves annotations that a second one accepts. -/
structure AnnotationsSettle (state : State) : Prop where
  /-- The Service has an annotation. -/
  annotated : mergedAnnotations lb annotations state ≠ ∅
  /-- No annotation of a third party is a part of a wanted key with a comma. -/
  others : ∀ key ∈ mergedAnnotations lb annotations state,
    key ∉ wantedAnnotations lb annotations → key ≠ managedAnnotationsKey →
    key ≠ lastAppliedConfigAnnotation → key ≠ "" →
    ∀ managed ∈ managedKeys (wantedAnnotations lb annotations), key ∉ commaParts managed

/-- A first run leaves a Service that a second one accepts. -/
structure SettlesAtOnce (state : State) : Prop extends AnnotationsSettle lb annotations state where
  /-- Each port finds the node port that it has among the new ports. -/
  nodePorts : ∀ ports, createdPorts pass lb state = some ports → lb.spec.endpoints ≠ [] →
    ∀ lbPort ∈ lb.spec.ports,
      takenNodePort { metadata := lb.metadata, spec := { ports := ports } } lbPort =
        takenNodePort (foundService state).service lbPort

variable {pass lb annotations} {className : Option String} {state start reached : State}

theorem readAnnotations_eq_none_iff {stored : StringMap} :
    readAnnotations stored = none ↔ stored = ∅ := by
  unfold readAnnotations
  split <;> simp_all

theorem compareAnnotations_again_iff (existing desired : StringMap) :
    compareAnnotations (readAnnotations (reconcileAnnotations existing desired))
        (some (reconcileAnnotations (reconcileAnnotations existing desired) desired)) = true ↔
      reconcileAnnotations existing desired ≠ ∅ ∧
        ∀ key ∈ reconcileAnnotations existing desired, key ∉ desired →
          key ≠ managedAnnotationsKey → key ≠ lastAppliedConfigAnnotation → key ≠ "" →
          ∀ managed ∈ managedKeys desired, key ∉ commaParts managed := by
  rw [compareAnnotations_iff, readAnnotations_eq_none_iff, getD_readAnnotations, Option.getD_some,
    GoMap.erase_eq_erase_iff]
  refine and_congr (by simp) ?_
  constructor
  · intro same key isKey notDesired notRecord notLastApplied notEmpty managed isManaged isPart
    have again := same key notLastApplied
    rw [lookup_reconcileAnnotations_again _ _ notRecord,
      if_pos ⟨notDesired, notEmpty, managed, isManaged, isPart⟩] at again
    exact Finmap.lookup_eq_none.mp again isKey
  · intro spared key notLastApplied
    by_cases isRecord : key = managedAnnotationsKey
    · rw [isRecord, lookup_reconcileAnnotations_record, lookup_reconcileAnnotations_record]
    · rw [lookup_reconcileAnnotations_again _ _ isRecord]
      split
      · next dropped =>
          obtain ⟨notDesired, notEmpty, managed, isManaged, isPart⟩ := dropped
          rw [Finmap.lookup_eq_none]
          intro isKey
          exact spared key isKey notDesired isRecord notLastApplied notEmpty managed isManaged
            isPart
      · rfl

theorem takenNodePort_congr {service other : Service} (same : service.spec.ports = other.spec.ports)
    (lbPort : LoadBalancerPort) : takenNodePort service lbPort = takenNodePort other lbPort := by
  simp only [takenNodePort, existingPort, same]

/-- What the first run has written. -/
structure Written (lb : HostedLoadBalancer) (className : Option String)
    (ports : List Core.ServicePort) (merged : StringMap) (service : BalancerService) : Prop where
  spec : service.spec = (desiredService lb className ports merged).spec
  labels : service.metadata.labels = (desiredService lb className ports merged).metadata.labels
  annotations : service.metadata.annotations = merged

theorem issuesNoWrite_of_written {ports : List Core.ServicePort} {service : BalancerService}
    (isCreated : createdPorts pass lb start = some ports)
    (written : Written lb className ports (mergedAnnotations lb annotations start) service) :
    IssuesNoWrite pass lb className annotations { start with service := some service } ↔
      SettlesAtOnce pass lb annotations start := by
  have storedPorts : service.service.spec.ports = ports := by
    rw [BalancerService.service, written.spec]
    rfl
  have mergedAgain : mergedAnnotations lb annotations { start with service := some service } =
      reconcileAnnotations (mergedAnnotations lb annotations start)
        (wantedAnnotations lb annotations) := by
    rw [mergedAnnotations, foundService, Option.getD_some, written.annotations]
  have portsAgain : createdPorts pass lb { start with service := some service } = some ports ↔
      (lb.spec.endpoints ≠ [] → ∀ lbPort ∈ lb.spec.ports,
        takenNodePort service.service lbPort =
          takenNodePort (foundService start).service lbPort) :=
    createServicePorts_again_iff isCreated
  have upToDate_iff {again : List Core.ServicePort} {merged : StringMap} :
      UpToDate lb className again merged service ↔ again = ports ∧
        compareAnnotations (readAnnotations service.metadata.annotations) (some merged) = true := by
    refine and_congr_left (fun _ => ?_)
    rw [serviceDiffers, not_or, not_not, not_not, written.spec, written.labels]
    simp [desiredService, eq_comm]
  rw [issuesNoWrite_iff]
  constructor
  · rintro ⟨again, found, isAgain, isFound, upToDate⟩
    cases isFound
    obtain ⟨rfl, compared⟩ := upToDate_iff.mp upToDate
    rw [written.annotations, mergedAgain] at compared
    obtain ⟨annotated, others⟩ := (compareAnnotations_again_iff _ _).mp compared
    refine ⟨⟨annotated, others⟩, ?_⟩
    intro created isCreated' listsEndpoints lbPort isPort
    cases isCreated.symm.trans isCreated'
    rw [← portsAgain.mp isAgain listsEndpoints lbPort isPort]
    exact takenNodePort_congr storedPorts.symm lbPort
  · intro settles
    refine ⟨ports, service, portsAgain.mpr ?_, rfl, upToDate_iff.mpr ⟨rfl, ?_⟩⟩
    · intro listsEndpoints lbPort isPort
      rw [← settles.nodePorts ports isCreated listsEndpoints lbPort isPort]
      exact takenNodePort_congr storedPorts lbPort
    · rw [written.annotations, mergedAgain]
      exact (compareAnnotations_again_iff _ _).mpr ⟨settles.annotated, settles.others⟩

theorem settlesAtOnce_of_upToDate {ports : List Core.ServicePort} {existing : BalancerService}
    (isCreated : createdPorts pass lb start = some ports)
    (isFound : start.service = some existing)
    (upToDate : UpToDate lb className ports (mergedAnnotations lb annotations start) existing) :
    SettlesAtOnce pass lb annotations start := by
  have found : foundService start = existing := by
    rw [foundService, isFound, Option.getD_some]
  obtain ⟨same, compared⟩ := upToDate
  rw [serviceDiffers, not_or, not_not, not_not] at same
  rw [compareAnnotations_iff, readAnnotations_eq_none_iff, getD_readAnnotations, Option.getD_some,
    GoMap.erase_eq_erase_iff] at compared
  obtain ⟨sameNil, sameLookup⟩ := compared
  have isMerged : mergedAnnotations lb annotations start =
      reconcileAnnotations existing.metadata.annotations (wantedAnnotations lb annotations) := by
    rw [mergedAnnotations, found]
  have sameRecord : existing.metadata.annotations.get managedAnnotationsKey =
      (recordOf (wantedAnnotations lb annotations)).getD "" := by
    rw [StringMap.get, sameLookup managedAnnotationsKey (by decide), isMerged,
      lookup_reconcileAnnotations_record]
  refine ⟨⟨?_, ?_⟩, ?_⟩
  · intro isEmpty
    have noLookup (key : String) : (mergedAnnotations lb annotations start).lookup key = none := by
      rw [isEmpty, Finmap.lookup_empty]
    have noRecord : existing.metadata.annotations.get managedAnnotationsKey = "" := by
      rw [StringMap.get, sameLookup managedAnnotationsKey (by decide), noLookup]
      rfl
    refine absurd (sameNil.mp (Finmap.ext_lookup (fun key => ?_))) (by simp)
    rw [Finmap.lookup_empty]
    by_cases isLastApplied : key = lastAppliedConfigAnnotation
    · -- without a record nothing is dropped, so the annotation of kubectl is missing as well
      have kept := noLookup key
      rw [isMerged, lookup_reconcileAnnotations _ _ (by rw [isLastApplied]; decide), noRecord,
        if_neg (by rw [isLastApplied]; decide), Option.or_eq_none_iff] at kept
      exact kept.2
    · rw [sameLookup key isLastApplied, noLookup]
  · intro key isKey notDesired notRecord notLastApplied notEmpty managed isManaged isPart
    have recorded : key ∈ commaParts (existing.metadata.annotations.get managedAnnotationsKey) := by
      rw [sameRecord]
      exact (mem_commaParts_record notEmpty).mpr ⟨managed, isManaged, isPart⟩
    have dropped : (mergedAnnotations lb annotations start).lookup key = none := by
      rw [isMerged, lookup_reconcileAnnotations _ _ notRecord, if_pos ⟨recorded, notEmpty⟩,
        Finmap.lookup_eq_none.mpr notDesired, Option.none_or]
    exact Finmap.lookup_eq_none.mp dropped isKey
  · intro created isCreated' _ lbPort _
    cases isCreated.symm.trans isCreated'
    rw [found]
    apply takenNodePort_congr
    rw [BalancerService.service, same.1]
    rfl

end Condition

theorem issuesNoWrite_of_reconcileService {pass : BalancerPass} {lb : HostedLoadBalancer}
    {className : Option String} {annotations : AnnotationSettings} {start reached : State}
    (run : reconcileService pass lb className annotations start = some (.ok ⟨⟩, reached)) :
    IssuesNoWrite pass lb className annotations reached ↔
      SettlesAtOnce pass lb annotations start := by
  obtain ⟨-, ports, isCreated, done⟩ := reconcileService_eq_ok_iff.mp run
  cases done with
  | created absent accepted isReached =>
      rw [isReached]
      exact issuesNoWrite_of_written isCreated ⟨rfl, rfl, rfl⟩
  | updated existing isFound outdated accepted isReached =>
      rw [isReached]
      exact issuesNoWrite_of_written isCreated ⟨rfl, rfl, rfl⟩
  | kept existing isFound upToDate isReached =>
      rw [isReached]
      exact iff_of_true (issuesNoWrite_iff.mpr ⟨ports, existing, isCreated, isFound, upToDate⟩)
        (settlesAtOnce_of_upToDate isCreated isFound upToDate)

/-- After a run that succeeds, a second one issues no write exactly when the first one leaves
an annotation, third-party annotations that no wanted key with a comma contains, and ports that
find their own node ports. The ports do if their names and their pairs of number and protocol
are distinct. -/
theorem second_reconcileService_silent_iff {pass : BalancerPass} {lb : HostedLoadBalancer}
    {className : Option String} {annotations : AnnotationSettings} {start reached : State}
    (run : reconcileService pass lb className annotations start = some (.ok ⟨⟩, reached)) :
    (IssuesNoWrite pass lb className annotations reached ↔
      SettlesAtOnce pass lb annotations start) ∧
    ((lb.spec.ports.map (fun lbPort => lbPort.name)).Nodup →
      (lb.spec.ports.map (fun lbPort => (lbPort.port, lbPort.protocol))).Nodup →
      (IssuesNoWrite pass lb className annotations reached ↔
        AnnotationsSettle lb annotations start)) := by
  refine ⟨issuesNoWrite_of_reconcileService run, fun names pairs => ?_⟩
  rw [issuesNoWrite_of_reconcileService run]
  refine ⟨fun settles => settles.toAnnotationsSettle, fun settles => ⟨settles, ?_⟩⟩
  intro ports isPorts listsEndpoints lbPort isPort
  exact takenNodePort_created names pairs listsEndpoints isPorts rfl isPort

/-! ## Two runs -/

def onePortBalancer (annotations : StringMap) : HostedLoadBalancer where
  metadata := { name := "lb", ns := "tenant-a", annotations := annotations }
  spec :=
    { endpoints :=
        [{ addresses := [{ ip := "10.0.0.1" }], ports := [{ name := "http", port := 30080 }] }]
      ports := [{ name := "http", port := 80 }] }

def onePort : List Core.ServicePort := [{ name := "http", port := 80, targetPort := .int 30080 }]

/-- Without annotations the Service is written again in every pass: its map is read back as
nil and the wanted one is empty. -/
theorem plain_service_written_again :
    ∃ reached,
      reconcileService (undisturbed (onePortBalancer ∅) plainTenant plainConfig)
        (onePortBalancer ∅) none {} {} = some (.ok ⟨⟩, reached) ∧
      (reconcileService (undisturbed (onePortBalancer ∅) plainTenant plainConfig).refusingWrites
        (onePortBalancer ∅) none {}).FailsWith reached
          (.error "failed to update service: refused") ∧
      ¬ IssuesNoWrite (undisturbed (onePortBalancer ∅) plainTenant plainConfig)
        (onePortBalancer ∅) none {} reached := by
  have isCreated : createdPorts (undisturbed (onePortBalancer ∅) plainTenant plainConfig)
      (onePortBalancer ∅) {} = some onePort := by decide +kernel
  refine ⟨_, reconcileService_eq_ok_iff.mpr ⟨rfl, onePort, isCreated, .created rfl rfl rfl⟩, ?_⟩
  generalize isReached : ({ service := some (desiredService (onePortBalancer ∅) none onePort
    (mergedAnnotations (onePortBalancer ∅) {} {})) } : State) = reached
  have fails : (reconcileService
      (undisturbed (onePortBalancer ∅) plainTenant plainConfig).refusingWrites
      (onePortBalancer ∅) none {}).FailsWith reached
        (.error "failed to update service: refused") := by
    have evaluated : ((reconcileService
        (undisturbed (onePortBalancer ∅) plainTenant plainConfig).refusingWrites
        (onePortBalancer ∅) none {}) reached).map (fun result =>
          match result.1 with
          | .ok _ => none
          | .error failure => some failure) =
        some (some (.error "failed to update service: refused")) := by
      rw [← isReached]
      decide +kernel
    obtain ⟨⟨outcome, last⟩, run, isFailure⟩ := Option.map_eq_some_iff.mp evaluated
    cases outcome with
    | ok value => cases isFailure
    | error failure =>
        cases isFailure
        exact ⟨last, run⟩
  refine ⟨fails, fun silent => ?_⟩
  obtain ⟨last, failed⟩ := fails
  cases silent.symm.trans failed

/-- An annotation to propagate makes the second run silent. -/
theorem annotated_service_settles :
    ∃ reached,
      reconcileService
        (undisturbed (onePortBalancer (Finmap.singleton "team" "a")) plainTenant plainConfig)
        (onePortBalancer (Finmap.singleton "team" "a")) none
        { propagateAllAnnotations := some true } {} = some (.ok ⟨⟩, reached) ∧
      IssuesNoWrite
        (undisturbed (onePortBalancer (Finmap.singleton "team" "a")) plainTenant plainConfig)
        (onePortBalancer (Finmap.singleton "team" "a")) none
        { propagateAllAnnotations := some true } reached := by
  have isCreated : createdPorts
      (undisturbed (onePortBalancer (Finmap.singleton "team" "a")) plainTenant plainConfig)
      (onePortBalancer (Finmap.singleton "team" "a")) {} = some onePort := by decide +kernel
  obtain ⟨reached, run⟩ : ∃ reached, reconcileService
      (undisturbed (onePortBalancer (Finmap.singleton "team" "a")) plainTenant plainConfig)
      (onePortBalancer (Finmap.singleton "team" "a")) none
      { propagateAllAnnotations := some true } {} = some (.ok ⟨⟩, reached) :=
    ⟨_, reconcileService_eq_ok_iff.mpr ⟨rfl, onePort, isCreated, .created rfl rfl rfl⟩⟩
  refine ⟨reached, run, ((second_reconcileService_silent_iff run).2 (by decide) (by decide)).mpr
    ⟨by decide +kernel, ?_⟩⟩
  · intro key isKey notWanted notRecord
    have keys : (mergedAnnotations (onePortBalancer (Finmap.singleton "team" "a"))
        { propagateAllAnnotations := some true } {}).keys = {"team", managedAnnotationsKey} := by
      decide +kernel
    rw [← Finmap.mem_keys, keys, Finset.mem_insert, Finset.mem_singleton] at isKey
    obtain rfl | rfl := isKey
    · exact absurd (by decide +kernel) notWanted
    · exact absurd rfl notRecord

end KubeLB.Controllers.Balancing
