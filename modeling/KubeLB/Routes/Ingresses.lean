import KubeLB.Routes.Retargeting

/-!
Contract: the Ingress that the management cluster serves for a Route.

Owns: `CreateOrUpdateIngress` with the loops that rename its backends, the places where
it and `GetServicesFromIngress` follow a nil pointer, and when every backend ends at the
Service that was generated for its own one.

Does not own: the resource version of the object.

The loop over the services has no `break`. It compares the name that an earlier round may
have written, so one backend can be renamed several times.
-/

set_option autoImplicit false

namespace KubeLB.Routes

open KubeLB.Library KubeLB.Core KubeLB.V1Alpha1 KubeLB.Networking KubeLB.Naming
  KubeLB.Resources KubeLB.Controllers

/-! ## The loops over the backends -/

section Loops

variable (referencedServices : List ObjectMeta) (routeName : String)

/-- One round of the loop over the services; `none` is a nil pointer. -/
def renameRound (backend : IngressBackend) (service : ObjectMeta) : Option IngressBackend := do
  let svc ← backend.service
  if svc.name = service.name then
    some { backend with
      service := some
        { svc with name := generateRouteServiceName routeName service.name service.ns } }
  else some backend

def retargetBackend (backend : IngressBackend) : Option IngressBackend :=
  referencedServices.foldlM (renameRound routeName) backend

def retargetPath (path : HTTPIngressPath) : Option HTTPIngressPath := do
  let backend ← retargetBackend referencedServices routeName path.backend
  some { path with backend := backend }

/-- The loop over the paths of a rule, which reads `rule.HTTP.Paths`. -/
def retargetRule (rule : IngressRule) : Option IngressRule := do
  let paths ← rule.http
  let retargeted ← paths.mapM (retargetPath referencedServices routeName)
  some { rule with http := some retargeted }

/-- The default backend is left alone without a Service. -/
def retargetDefaultBackend (backend : Option IngressBackend) : Option (Option IngressBackend) :=
  match backend with
  | some { service := some svc, resource } =>
      (retargetBackend referencedServices routeName ⟨some svc, resource⟩).map some
  | other => some other

end Loops

/-! ## The helper -/

inductive IngressCall where
  | get
  | create
  | update
  deriving DecidableEq, Repr

/-- The arguments of one call of the helper, with what its surroundings decide. -/
structure IngressPass where
  referencedServices : List ObjectMeta
  ns : String
  routeName : String
  /-- `Spec.Ingress.Class` of the Config and of the Tenant. -/
  configClass : Option String := none
  tenantClass : Option String := none
  annotations : AnnotationSettings := {}
  /-- `GetSecretNameIfExists` for a name and a namespace; empty without a Secret. -/
  secretName : String → String → String := fun _ _ => ""
  fault : IngressCall → Option String := fun _ => none

/-- The object in memory, and the stored one under the generated name. -/
structure IngressState where
  object : Ingress
  stored : Option Ingress := none

inductive IngressFailure where
  | error (text : String)
  | nilPointer
  deriving DecidableEq, Repr

abbrev IngressReconcile := Pass IngressState IngressFailure

def IngressPass.call (pass : IngressPass) (call : IngressCall) (message : String) :
    IngressReconcile PUnit :=
  Pass.check ((pass.fault call).map (fun error => .error (message ++ error)))

/-- The loop over the TLS sections. -/
def IngressPass.copiedSecret (pass : IngressPass) (ns : String) (tls : IngressTLS) : IngressTLS :=
  let secretName := pass.secretName tls.secretName ns
  if secretName ≠ "" then { tls with secretName := secretName } else tls

/-- The object before it is compared with the stored one; `none` is a nil pointer. -/
def desiredIngress (pass : IngressPass) (object : Ingress) : Option Ingress := do
  let rules ← object.spec.rules.mapM (retargetRule pass.referencedServices pass.routeName)
  let defaultBackend ←
    retargetDefaultBackend pass.referencedServices pass.routeName object.spec.defaultBackend
  some
    { metadata := generatedMetadata .ingress object.metadata pass.ns pass.annotations
      spec :=
        { ingressClassName := (pass.tenantClass.or pass.configClass).or
            object.spec.ingressClassName
          defaultBackend := defaultBackend
          tls := object.spec.tls.map (pass.copiedSecret object.metadata.ns)
          rules := rules } }

def createOrUpdateIngress (pass : IngressPass) : IngressReconcile PUnit := do
  match ← Pass.read (fun state : IngressState => desiredIngress pass state.object) with
  | none => Pass.fail .nilPointer
  | some object =>
      Pass.modify (fun state => { state with object := object })
      pass.call .get "failed to get Ingress: "
      match ← Pass.read IngressState.stored with
      | none =>
          pass.call .create "failed to create Ingress: "
          Pass.modify (fun state => { state with stored := some object })
      | some existing =>
          let merged := mergeAnnotations (readAnnotations existing.metadata.annotations)
            object.metadata.annotations
          let annotated : Ingress :=
            { object with
              metadata := { object.metadata with annotations := merged.getD ∅ } }
          Pass.modify (fun state => { state with object := annotated })
          if existing.spec = object.spec ∧ existing.metadata.labels = object.metadata.labels ∧
              compareAnnotations (readAnnotations existing.metadata.annotations) merged then
            pure ⟨⟩
          else
            let updated : Ingress :=
              { annotated with
                metadata := { annotated.metadata with uid := existing.metadata.uid } }
            Pass.modify (fun state => { state with object := updated })
            pass.call .update "failed to update Ingress: "
            Pass.modify (fun state => { state with stored := some updated })

/-! ## What should become of the backends -/

def specBackends (spec : IngressSpec) : List IngressBackend :=
  spec.rules.flatMap (fun rule => (rule.http.getD []).map (·.backend)) ++
    spec.defaultBackend.toList

def mapRuleBackends (change : IngressBackend → IngressBackend) (rule : IngressRule) :
    IngressRule :=
  { rule with
    http := rule.http.map (List.map (fun path => { path with backend := change path.backend })) }

theorem specBackends_rules_map (change : IngressBackend → IngressBackend)
    (rules : List IngressRule) :
    (rules.map (mapRuleBackends change)).flatMap (fun rule =>
        (rule.http.getD []).map (·.backend)) =
      (rules.flatMap (fun rule => (rule.http.getD []).map (·.backend))).map change := by
  rw [List.flatMap_map, List.map_flatMap]
  refine List.flatMap_congr fun rule _ => ?_
  cases isPaths : rule.http <;> simp [mapRuleBackends, isPaths]

section Renaming

variable (services : List ObjectMeta) (routeName : String)

/-- The name for a listed Service is one generated for it; another name stays. -/
def NameRetargeted (before after : String) : Prop :=
  if ∃ service ∈ services, service.name = before then
    ∃ service ∈ services, service.name = before ∧
      after = generateRouteServiceName routeName before service.ns
  else after = before

def BackendRetargeted (before after : IngressBackend) : Prop :=
  match before.service with
  | none => after = before
  | some svc => ∃ name, after = { before with service := some { svc with name := name } } ∧
      NameRetargeted services routeName svc.name name

/-- The first service with the name renames it, and no later one has the name that it
generates. -/
def RenamedOnce (name : String) : Prop :=
  ∀ before service after, services = before ++ service :: after →
    (∀ other ∈ before, other.name ≠ name) → service.name = name →
    ∀ later ∈ after, later.name ≠ generateRouteServiceName routeName name service.ns

/-- The services that rename a backend one after another. -/
def renamers (routeName : String) : List ObjectMeta → String → List ObjectMeta
  | [], _ => []
  | service :: rest, name =>
      if name = service.name then
        service :: renamers routeName rest
          (generateRouteServiceName routeName service.name service.ns)
      else renamers routeName rest name

/-- The last of them generates the name that a service of the original name has. -/
def EndsAtOwn (name : String) : Prop :=
  ∃ last ∈ (renamers routeName services name).getLast?, ∃ service ∈ services,
    service.name = name ∧ generateRouteServiceName routeName last.name last.ns =
      generateRouteServiceName routeName name service.ns

def Renames (name generated : String) : Prop :=
  ∃ service ∈ services, service.name = name ∧
    generated = generateRouteServiceName routeName name service.ns

/-- The coincidences of generated names: a listed service of another name generates a name that
one of this name generates, or generated names lead back to the name. -/
def NamesCoincide (name : String) : Prop :=
  (∃ other ∈ services, other.name ≠ name ∧
      Renames services routeName name (generateRouteServiceName routeName other.name other.ns)) ∨
    Relation.TransGen (Renames services routeName) name name

def renamed (name : String) : String :=
  services.foldl (fun name service =>
    if name = service.name then generateRouteServiceName routeName service.name service.ns
    else name) name

variable {services routeName}

theorem renamed_eq_renamers (name : String) :
    renamed services routeName name =
      match (renamers routeName services name).getLast? with
      | none => name
      | some last => generateRouteServiceName routeName last.name last.ns := by
  induction services generalizing name with
  | nil => rfl
  | cons service rest ih =>
      rw [renamed, List.foldl_cons, renamers]
      by_cases same : name = service.name
      · rw [if_pos same, if_pos same, List.getLast?_cons]
        refine (ih _).trans ?_
        cases (renamers routeName rest _).getLast? <;> rfl
      · rw [if_neg same, if_neg same]
        exact ih name

theorem renamers_eq_nil {name : String} (nobody : renamers routeName services name = []) :
    ∀ service ∈ services, service.name ≠ name := by
  induction services with
  | nil => exact fun service isMember => absurd isMember List.not_mem_nil
  | cons service rest ih =>
      rw [renamers] at nobody
      split at nobody
      · cases nobody
      · next different =>
          exact List.forall_mem_cons.mpr ⟨Ne.symm different, ih nobody⟩

theorem renames_of_mem_renamers {listed : List ObjectMeta} (isPart : listed ⊆ services)
    {name : String} {service : ObjectMeta} (isRenamer : service ∈ renamers routeName listed name) :
    Relation.ReflTransGen (Renames services routeName) name service.name := by
  induction listed generalizing name with
  | nil => cases isRenamer
  | cons first rest ih =>
      obtain ⟨isFirst, restPart⟩ := List.cons_subset.mp isPart
      rw [renamers] at isRenamer
      split at isRenamer
      · next same =>
          subst same
          rcases List.mem_cons.mp isRenamer with rfl | isLater
          · exact .refl
          · exact .head ⟨first, isFirst, rfl, rfl⟩ (ih restPart isLater)
      · exact ih restPart isRenamer

theorem renamers_sublist (name : String) :
    (renamers routeName services name).Sublist services := by
  induction services generalizing name with
  | nil => exact List.Sublist.refl _
  | cons service rest ih =>
      rw [renamers]
      split
      · exact (ih _).cons_cons _
      · exact (ih _).cons _

theorem renamers_append {before after : List ObjectMeta} {name : String}
    (fresh : ∀ other ∈ before, other.name ≠ name) :
    renamers routeName (before ++ after) name = renamers routeName after name := by
  induction before with
  | nil => rfl
  | cons other before ih =>
      rw [List.forall_mem_cons] at fresh
      rw [List.cons_append, renamers, if_neg (Ne.symm fresh.1)]
      exact ih fresh.2

/-- Only a coincidence of names brings a name that is renamed twice to one of its own. -/
theorem renamedOnce_of_endsAtOwn {name : String} (apart : ¬ NamesCoincide services routeName name)
    (endsAtOwn : EndsAtOwn services routeName name) : RenamedOnce services routeName name := by
  obtain ⟨last, isLast, own, isOwn, ownName, sameName⟩ := endsAtOwn
  rw [NamesCoincide, not_or] at apart
  have lastListed : last ∈ services :=
    (renamers_sublist name).subset (List.mem_of_getLast? isLast)
  have lastName : last.name = name := by
    by_contra different
    exact apart.1 ⟨last, lastListed, different, own, isOwn, ownName, sameName⟩
  rintro before service after rfl fresh rfl later isLater laterName
  rw [renamers_append fresh, renamers, if_pos rfl, List.getLast?_cons] at isLast
  -- the second renaming starts at the generated name and ends at the original one
  cases isLater' : (renamers routeName after (generateRouteServiceName routeName service.name
      service.ns)).getLast? with
  | none =>
      exact renamers_eq_nil (List.getLast?_eq_none_iff.mp isLater') later isLater laterName
  | some other =>
      rw [isLater'] at isLast
      cases isLast
      rw [Option.getD_some] at lastName
      have leads : Relation.ReflTransGen (Renames (before ++ service :: after) routeName) _
          other.name :=
        renames_of_mem_renamers (fun _ isMember => by simp [isMember])
          (List.mem_of_getLast? isLater')
      rw [lastName] at leads
      exact apart.2 (.head' ⟨service, by simp, rfl, rfl⟩ leads)

theorem renamed_of_unlisted {name : String} (unlisted : ∀ service ∈ services, service.name ≠ name) :
    renamed services routeName name = name := by
  induction services with
  | nil => rfl
  | cons service rest ih =>
      rw [List.forall_mem_cons] at unlisted
      rw [renamed, List.foldl_cons, if_neg (Ne.symm unlisted.1)]
      exact ih unlisted.2

theorem renamed_append (before after : List ObjectMeta) (name : String) :
    renamed (before ++ after) routeName name =
      renamed after routeName (renamed before routeName name) :=
  List.foldl_append

theorem first_of_listed {name : String} (listed : ∃ service ∈ services, service.name = name) :
    ∃ before service after, services = before ++ service :: after ∧
      (∀ other ∈ before, other.name ≠ name) ∧ service.name = name := by
  obtain ⟨first, isFirst⟩ : ∃ first, services.find? (fun service => service.name = name) =
      some first := by
    rw [← Option.isSome_iff_exists, List.find?_isSome]
    simpa using listed
  obtain ⟨isName, before, after, split, fresh⟩ := List.find?_eq_some_iff_append.mp isFirst
  exact ⟨before, first, after, split, by simpa using fresh, by simpa using isName⟩

/-- A name is retargeted exactly when it is renamed at most once, or the last renaming
yields a name of its own by chance. -/
theorem nameRetargeted_renamed_iff (name : String) :
    NameRetargeted services routeName name (renamed services routeName name) ↔
      RenamedOnce services routeName name ∨ EndsAtOwn services routeName name := by
  unfold NameRetargeted
  by_cases listed : ∃ service ∈ services, service.name = name
  · rw [if_pos listed]
    constructor
    · rintro ⟨service, isMember, isName, isRenamed⟩
      rw [renamed_eq_renamers] at isRenamed
      cases isLast : (renamers routeName services name).getLast? with
      | none =>
          have nobody := List.getLast?_eq_none_iff.mp isLast
          exact absurd isName (renamers_eq_nil nobody service isMember)
      | some last =>
          rw [isLast] at isRenamed
          exact Or.inr ⟨last, isLast, service, isMember, isName, isRenamed⟩
    · rintro (once | ⟨last, isLast, service, isMember, isName, sameName⟩)
      · obtain ⟨before, service, after, isSplit, fresh, isName⟩ := first_of_listed listed
        refine ⟨service, by simp [isSplit], isName, ?_⟩
        have later := once before service after isSplit fresh isName
        rw [isSplit, renamed_append, renamed_of_unlisted fresh, renamed, List.foldl_cons,
          if_pos isName.symm, isName]
        exact renamed_of_unlisted later
      · refine ⟨service, isMember, isName, ?_⟩
        rw [renamed_eq_renamers, Option.mem_def.mp isLast]
        exact sameName
  · rw [if_neg listed]
    push Not at listed
    refine iff_of_true (renamed_of_unlisted listed) (Or.inl ?_)
    intro before service after isSplit _ isName
    exact absurd isName (listed service (by simp [isSplit]))

end Renaming

/-! ## The backends after the loops -/

section Backends

variable {services : List ObjectMeta} {routeName : String}

def renameBackend (services : List ObjectMeta) (routeName : String) (backend : IngressBackend) :
    IngressBackend :=
  { backend with
    service := backend.service.map (fun svc =>
      { svc with name := renamed services routeName svc.name }) }

theorem retargetBackend_of_service {backend : IngressBackend}
    (hasService : backend.service ≠ none) :
    retargetBackend services routeName backend =
      some (renameBackend services routeName backend) := by
  obtain ⟨svc, isService⟩ := Option.ne_none_iff_exists'.mp hasService
  obtain ⟨service, resource⟩ := backend
  subst isService
  induction services generalizing svc with
  | nil => rfl
  | cons service rest ih =>
      rw [retargetBackend, List.foldlM_cons]
      by_cases same : svc.name = service.name
      · have round : renameRound routeName ⟨some svc, resource⟩ service =
            some ⟨some { svc with
              name := generateRouteServiceName routeName service.name service.ns }, resource⟩ := by
          simp [renameRound, same]
        rw [round]
        refine (ih _ (Option.some_ne_none _)).trans ?_
        simp [renameBackend, renamed, same]
      · have round : renameRound routeName ⟨some svc, resource⟩ service =
            some ⟨some svc, resource⟩ := by
          simp [renameRound, same]
        rw [round]
        refine (ih _ (Option.some_ne_none _)).trans ?_
        simp [renameBackend, renamed, same]

theorem retargetDefaultBackend_eq (backend : Option IngressBackend) :
    retargetDefaultBackend services routeName backend =
      some (backend.map (renameBackend services routeName)) := by
  unfold retargetDefaultBackend
  split
  · rw [retargetBackend_of_service (Option.some_ne_none _)]
    rfl
  · next notService =>
      cases backend with
      | none => rfl
      | some backend =>
          obtain ⟨service, resource⟩ := backend
          cases service with
          | none => rfl
          | some svc => exact absurd rfl (notService svc resource)

theorem backendRetargeted_renameBackend_iff (backend : IngressBackend) :
    BackendRetargeted services routeName backend (renameBackend services routeName backend) ↔
      ∀ svc, backend.service = some svc →
        RenamedOnce services routeName svc.name ∨ EndsAtOwn services routeName svc.name := by
  obtain ⟨service, resource⟩ := backend
  cases service with
  | none => simp [BackendRetargeted, renameBackend]
  | some svc =>
      simp only [BackendRetargeted, renameBackend, Option.map_some, Option.some.injEq,
        ← nameRetargeted_renamed_iff, forall_eq']
      constructor
      · rintro ⟨name, isName, retargeted⟩
        simp only [IngressBackend.mk.injEq, Option.some.injEq, IngressServiceBackend.mk.injEq,
          and_true] at isName
        rw [isName]
        exact retargeted
      · exact fun retargeted => ⟨_, rfl, retargeted⟩

end Backends

/-! ## Runs of the helper -/

/-- Every rule has paths, and every path has a Service behind it. -/
def Followable (spec : IngressSpec) : Prop :=
  ∀ rule ∈ spec.rules, ∃ paths, rule.http = some paths ∧
    ∀ path ∈ paths, path.backend.service ≠ none

theorem desiredIngress_of_followable (pass : IngressPass) {object : Ingress}
    (followable : Followable object.spec) :
    ∃ desired, desiredIngress pass object = some desired ∧
      specBackends desired.spec = (specBackends object.spec).map
        (renameBackend pass.referencedServices pass.routeName) := by
  have ofRule (rule : IngressRule) (isRule : rule ∈ object.spec.rules) :
      retargetRule pass.referencedServices pass.routeName rule =
        some (mapRuleBackends (renameBackend pass.referencedServices pass.routeName) rule) := by
    obtain ⟨paths, isPaths, services⟩ := followable rule isRule
    have ofPath (path : HTTPIngressPath) (isPath : path ∈ paths) :
        retargetPath pass.referencedServices pass.routeName path =
          some { path with
            backend := renameBackend pass.referencedServices pass.routeName path.backend } := by
      rw [retargetPath, retargetBackend_of_service (services path isPath)]
      rfl
    rw [retargetRule, mapRuleBackends, isPaths, Option.bind_eq_bind, Option.bind_some,
      mapM_eq_some_map ofPath]
    rfl
  rw [desiredIngress, mapM_eq_some_map ofRule, retargetDefaultBackend_eq]
  refine ⟨_, rfl, ?_⟩
  rw [specBackends, specBackends, specBackends_rules_map, List.map_append]
  cases object.spec.defaultBackend <;> rfl

/-- Without a nil pointer the helper leaves the desired specification in the object, and
in the store unless a call failed. -/
theorem createOrUpdateIngress_of_desired {pass : IngressPass} {object desired : Ingress}
    (isDesired : desiredIngress pass object = some desired) (stored : Option Ingress) :
    ∃ outcome reached, createOrUpdateIngress pass ⟨object, stored⟩ = some (outcome, reached) ∧
      outcome ≠ .error .nilPointer ∧ reached.object.spec = desired.spec ∧
      (outcome = .ok ⟨⟩ → reached.stored.map (·.spec) = some desired.spec) := by
  simp only [createOrUpdateIngress, bind, Pass.read, isDesired, Pass.modify, IngressPass.call]
  cases pass.fault .get with
  | some error => exact ⟨_, _, rfl, by simp, rfl, by simp⟩
  | none =>
      cases stored with
      | none =>
          cases pass.fault .create with
          | some error => exact ⟨_, _, rfl, by simp, rfl, by simp⟩
          | none => exact ⟨_, _, rfl, by simp, rfl, fun _ => rfl⟩
      | some existing =>
          simp only [Option.map_none, Pass.check, pure]
          by_cases same : existing.spec = desired.spec ∧
              existing.metadata.labels = desired.metadata.labels ∧
              compareAnnotations (readAnnotations existing.metadata.annotations)
                (mergeAnnotations (readAnnotations existing.metadata.annotations)
                  desired.metadata.annotations)
          · exact ⟨_, _, congrFun (if_pos same) _, by simp, rfl, fun _ => congrArg some same.1⟩
          · cases pass.fault .update with
            | some error => exact ⟨_, _, congrFun (if_neg same) _, by simp, rfl, by simp⟩
            | none => exact ⟨_, _, congrFun (if_neg same) _, by simp, rfl, fun _ => rfl⟩

/-- Both functions follow no nil pointer, and afterwards every backend is retargeted in
the object, and in the store unless a call failed. -/
def HandlesIngress (pass : IngressPass) (object : Ingress) (stored : Option Ingress) : Prop :=
  getServicesFromIngress object.metadata.ns object.spec ≠ none ∧
    ∃ outcome reached, createOrUpdateIngress pass ⟨object, stored⟩ = some (outcome, reached) ∧
      outcome ≠ .error .nilPointer ∧
      List.Forall₂ (BackendRetargeted pass.referencedServices pass.routeName)
        (specBackends object.spec) (specBackends reached.object.spec) ∧
      (outcome = .ok ⟨⟩ → reached.stored.map (·.spec) = some reached.object.spec)

theorem handlesIngress_iff_renamed (pass : IngressPass) (object : Ingress)
    (stored : Option Ingress) :
    HandlesIngress pass object stored ↔
      Followable object.spec ∧
        ∀ backend ∈ specBackends object.spec, ∀ svc, backend.service = some svc →
          RenamedOnce pass.referencedServices pass.routeName svc.name ∨
            EndsAtOwn pass.referencedServices pass.routeName svc.name := by
  rw [HandlesIngress, ← Option.isSome_iff_ne_none, isSome_getServicesFromIngress]
  refine and_congr_right fun followable => ?_
  obtain ⟨desired, isDesired, backends⟩ := desiredIngress_of_followable pass followable
  obtain ⟨outcome, reached, run, notNil, isObject, isStored⟩ :=
    createOrUpdateIngress_of_desired isDesired stored
  have retargeted_iff :
      List.Forall₂ (BackendRetargeted pass.referencedServices pass.routeName)
          (specBackends object.spec) (specBackends reached.object.spec) ↔
        ∀ backend ∈ specBackends object.spec, ∀ svc, backend.service = some svc →
          RenamedOnce pass.referencedServices pass.routeName svc.name ∨
            EndsAtOwn pass.referencedServices pass.routeName svc.name := by
    rw [isObject, backends, List.forall₂_map_right_iff, List.forall₂_same]
    exact forall₂_congr fun backend _ => backendRetargeted_renameBackend_iff backend
  rw [← retargeted_iff]
  constructor
  · rintro ⟨_, _, run', -, retargeted, -⟩
    cases run.symm.trans run'
    exact retargeted
  · exact fun retargeted => ⟨outcome, reached, run, notNil, retargeted, isObject ▸ isStored⟩

/-- An Ingress is handled exactly when there is a Service behind every path and every backend is
renamed at most once or ends at a name of its own, which it does only by a coincidence of
generated names. -/
theorem handlesIngress_iff (pass : IngressPass) (object : Ingress) (stored : Option Ingress) :
    (HandlesIngress pass object stored ↔
      Followable object.spec ∧
        ∀ backend ∈ specBackends object.spec, ∀ svc, backend.service = some svc →
          RenamedOnce pass.referencedServices pass.routeName svc.name ∨
            EndsAtOwn pass.referencedServices pass.routeName svc.name) ∧
    ((∀ backend ∈ specBackends object.spec, ∀ svc, backend.service = some svc →
        ¬ NamesCoincide pass.referencedServices pass.routeName svc.name) →
      (HandlesIngress pass object stored ↔
        Followable object.spec ∧
          ∀ backend ∈ specBackends object.spec, ∀ svc, backend.service = some svc →
            RenamedOnce pass.referencedServices pass.routeName svc.name)) := by
  refine ⟨handlesIngress_iff_renamed pass object stored, fun apart => ?_⟩
  rw [handlesIngress_iff_renamed pass object stored]
  refine and_congr_right fun _ => forall₂_congr fun backend isBackend => ?_
  refine forall₂_congr fun svc isService => or_iff_left_of_imp ?_
  exact renamedOnce_of_endsAtOwn (apart backend isBackend svc isService)

/-! ## Valid Ingresses that are not handled -/

def webIngress (rules : List IngressRule) : Ingress where
  metadata := { name := "web", ns := "default" }
  spec := { rules := rules }

/-- A rule with a host alone. -/
def hostOnly : Ingress := webIngress [{ host := "shop.example.com" }]

/-- A path to a resource instead of a Service. -/
def storedAssets : Ingress :=
  webIngress
    [{ http := some
        [{ path := "/assets", pathType := some .pathPrefix
           backend := { resource := some "assets" } }] }]

/-- Paths to two Services, one of which has the name that is generated for the other. -/
def chainedNames : Ingress :=
  webIngress
    [{ http := some [servicePath "/" "api" 80, servicePath "/v2" "default-web-api" 80] }]

def webPass : IngressPass where
  referencedServices :=
    [{ name := "api", ns := "default" }, { name := "default-web-api", ns := "default" }]
  ns := "tenant-a"
  routeName := "web"

/-- Two valid Ingresses stop the program, and a third one sends the traffic of `api` to
the Service that was generated for `default-web-api`. -/
theorem valid_ingresses_not_handled :
    (hostOnly.isValid ∧ ¬ HandlesIngress webPass hostOnly none) ∧
      (storedAssets.isValid ∧ ¬ HandlesIngress webPass storedAssets none) ∧
      chainedNames.isValid ∧
      (createOrUpdateIngress webPass ⟨chainedNames, none⟩).map (fun run =>
          (specBackends run.2.object.spec).map (fun backend => backend.service.map (·.name))) =
        some [some "default-web-default-web-api", some "default-web-default-web-api"] ∧
      ¬ HandlesIngress webPass chainedNames none := by
  have names : (createOrUpdateIngress webPass ⟨chainedNames, none⟩).map (fun run =>
      (specBackends run.2.object.spec).map (fun backend => backend.service.map (·.name))) =
        some [some "default-web-default-web-api", some "default-web-default-web-api"] := by
    decide +kernel
  refine ⟨⟨by decide +kernel, fun handled => handled.1 (by decide)⟩,
    ⟨by decide +kernel, fun handled => handled.1 (by decide)⟩, by decide +kernel, names, ?_⟩
  rintro ⟨-, outcome, reached, run, -, retargeted, -⟩
  rw [run, Option.map_some, Option.some.injEq] at names
  generalize specBackends reached.object.spec = after at retargeted names
  -- The first backend is that of `api`, for which `default-web-api` is generated.
  cases retargeted with
  | cons first rest =>
      obtain ⟨name, rfl, isRetargeted⟩ := first
      rw [NameRetargeted, if_pos (by decide)] at isRetargeted
      obtain ⟨service, isMember, -, rfl⟩ := isRetargeted
      have ofDefault : ∀ service ∈ webPass.referencedServices, service.ns = "default" := by decide
      rw [ofDefault service isMember, List.map_cons, List.cons.injEq] at names
      exact absurd names.1 (by decide +kernel)

end KubeLB.Routes
