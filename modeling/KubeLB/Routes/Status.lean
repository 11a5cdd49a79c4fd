import KubeLB.Resources.Service

/-!
Contract: the status that the Route reconciler writes.

Owns: `setCondition` and `updateServiceStatus`, and what the recorded service map
holds after the loop of `manageServices`.

Does not own: the state of the generated route resource, and the transition times
of conditions.
-/

set_option autoImplicit false

namespace KubeLB.Routes

open KubeLB.Library KubeLB.Core KubeLB.V1Alpha1 KubeLB.Naming KubeLB.PortLookup
open KubeLB.Resources

/-! ## Conditions -/

def conditionMessageSuccess : String := "Success"
def conditionReasonSuccessful : String := "InstallationSuccessful"
def conditionReasonFailed : String := "InstallationFailed"
def conditionResourceAppliedSuccessfully : String := "ResourceAppliedSuccessfully"

/-- `apimeta.SetStatusCondition`: replace the condition of the type in place, or
append it. -/
def setStatusCondition (newCondition : Condition) : List Condition → List Condition
  | [] => [newCondition]
  | condition :: conditions =>
      if condition.type = newCondition.type then newCondition :: conditions
      else condition :: setStatusCondition newCondition conditions

/-- `setCondition`; the error is the text it prints. -/
def setCondition (conditions : List Condition) (err : Option String) : List Condition :=
  setStatusCondition
    (match err with
    | none => ⟨conditionResourceAppliedSuccessfully, true, conditionReasonSuccessful,
        conditionMessageSuccess⟩
    | some message => ⟨conditionResourceAppliedSuccessfully, false, conditionReasonFailed,
        message⟩) conditions

/-! ## Services -/

/-- `updateServiceStatus`; `svcStatus` is the encoded status of the Service. -/
def updateServiceStatus (routeStatus : RouteStatus) (svc : Service) (err : Option String)
    (svcStatus : ResourceStatus) : RouteStatus :=
  let originalName := getName svc.metadata
  let originalNamespace := getNamespace svc.metadata
  let key := routeServiceMapKey originalNamespace originalName
  let existing := ((routeStatus.resources.services.lookup key).map (·.conditions)).getD []
  let status : RouteServiceStatus :=
    { generatedName := svc.metadata.name
      ns := originalNamespace
      name := originalName
      ports := svc.spec.ports
      conditions := setCondition existing err
      status := svcStatus }
  { routeStatus with
    resources := { routeStatus.resources with
      services := routeStatus.resources.services.insert key status } }

/-- What became of one generated Service: the error of the write, if any, and its
encoded status. -/
structure ServiceOutcome where
  err : Option String := none
  status : ResourceStatus := {}
  deriving DecidableEq, Repr

/-- The loop of `manageServices` that records the generated Services. -/
def recordServices (routeStatus : RouteStatus) (outcome : Service → ServiceOutcome)
    (services : List Service) : RouteStatus :=
  services.foldl (fun status svc =>
    updateServiceStatus status svc (outcome svc).err (outcome svc).status) routeStatus

/-! ## What the loop records -/

def recordKey (svc : Service) : String :=
  routeServiceMapKey (getNamespace svc.metadata) (getName svc.metadata)

/-- A status entry that describes a generated Service. -/
structure Records (entry : RouteServiceStatus) (svc : Service) : Prop where
  generatedName : entry.generatedName = svc.metadata.name
  ns : entry.ns = getNamespace svc.metadata
  name : entry.name = getName svc.metadata
  ports : entry.ports = svc.spec.ports

theorem lookup_updateServiceStatus (routeStatus : RouteStatus) (svc : Service)
    (err : Option String) (svcStatus : ResourceStatus) (key : String) :
    (key = recordKey svc ∧ ∃ entry, Records entry svc ∧
      (updateServiceStatus routeStatus svc err svcStatus).resources.services.lookup key =
        some entry) ∨
    (key ≠ recordKey svc ∧
      (updateServiceStatus routeStatus svc err svcStatus).resources.services.lookup key =
        routeStatus.resources.services.lookup key) := by
  by_cases isKey : key = recordKey svc
  · subst isKey
    exact Or.inl ⟨rfl, _, ⟨rfl, rfl, rfl, rfl⟩, Finmap.lookup_insert _⟩
  · exact Or.inr ⟨isKey, Finmap.lookup_insert_of_ne _ isKey⟩

/-- After the loop a key holds the last Service recorded under it, or what it held
before. -/
theorem lookup_recordServices (routeStatus : RouteStatus) (outcome : Service → ServiceOutcome)
    (services : List Service) (key : String) :
    (∃ svc entry, (services.filter (fun svc => recordKey svc = key)).getLast? = some svc ∧
      Records entry svc ∧
      (recordServices routeStatus outcome services).resources.services.lookup key =
        some entry) ∨
    ((∀ svc ∈ services, recordKey svc ≠ key) ∧
      (recordServices routeStatus outcome services).resources.services.lookup key =
        routeStatus.resources.services.lookup key) := by
  induction services generalizing routeStatus with
  | nil => exact Or.inr ⟨by simp, rfl⟩
  | cons svc services ih =>
      have unfolded : recordServices routeStatus outcome (svc :: services) =
        recordServices (updateServiceStatus routeStatus svc (outcome svc).err (outcome svc).status)
          outcome services := rfl
      rw [unfolded]
      rcases ih (updateServiceStatus routeStatus svc (outcome svc).err
        (outcome svc).status) with ⟨last, entry, isLast, records, found⟩ | ⟨noLater, found⟩
      · refine Or.inl ⟨last, entry, ?_, records, found⟩
        rw [List.filter_cons]
        split
        · rw [List.getLast?_cons, isLast]
          rfl
        · exact isLast
      · have emptyTail : services.filter (fun svc => recordKey svc = key) = [] := by
          simpa using noLater
        rw [found]
        rcases lookup_updateServiceStatus routeStatus svc (outcome svc).err (outcome svc).status
          key with ⟨rfl, entry, records, isEntry⟩ | ⟨notKey, same⟩
        · refine Or.inl ⟨svc, entry, ?_, records, isEntry⟩
          simp [emptyTail]
        · refine Or.inr ⟨?_, same⟩
          intro other member
          rcases List.mem_cons.mp member with rfl | later
          · exact fun isKey => notKey isKey.symm
          · exact noLater other later

theorem recordKey_generatedService (route : Route) (pa : PortAllocator)
    (annotations : AnnotationSettings) (svc : Service) :
    recordKey (generatedService route pa annotations svc) = recordKey svc := by
  have different : labelOriginName ≠ labelOriginNamespace := by decide
  simp only [recordKey, getName, getNamespace, generatedService, generateServiceForLBCluster,
    Finmap.lookup_insert, Finmap.lookup_insert_of_ne _ different, Option.getD_some]

end KubeLB.Routes
