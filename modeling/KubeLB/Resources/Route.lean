import KubeLB.Naming.Patterns

/-!
Contract: the Route that a tenant's controller creates for a source object.

Owns: `GenerateRoute` with its labels.

Does not own: creating or updating the Route in the management cluster.
-/

set_option autoImplicit false

namespace KubeLB.Resources

open KubeLB.Library KubeLB.Core KubeLB.V1Alpha1 KubeLB.Naming

/-- `GroupKind().String()`. -/
def groupKindText (gvk : GroupVersionKind) : String :=
  if gvk.group = "" then gvk.kind else gvk.kind ++ "." ++ gvk.group

def defaultAddressName : String := "default"

/-- `GenerateRoute`: the Route is named after the UID of its source. -/
def generateRoute (resource : Unstructured) (services : List Service) (ns : String) :
    Route where
  metadata :=
    { name := resource.metadata.uid
      ns := ns
      labels := (((∅ : StringMap).insert labelOriginNamespace resource.metadata.ns).insert
        labelOriginName resource.metadata.name).insert
          labelOriginResourceKind (groupKindText resource.gvk) |>.insert
          labelManagedBy labelControllerName }
  spec :=
    { endpoints := [{ name := "default", addressesReference := some defaultAddressName }]
      source := some { route := resource, services := services } }

end KubeLB.Resources
