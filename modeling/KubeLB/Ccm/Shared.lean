import KubeLB.Controllers.Cluster
import KubeLB.Naming.Patterns

/-!
Contract: the labels of the mirrors that the controllers of package `ccm` make.

Owns: the origin that the labels of a mirror name, and the match of labels with a
selector.

Does not own: the deletion of a stale mirror.
-/

set_option autoImplicit false

namespace KubeLB.Ccm

open KubeLB.Library KubeLB.Core KubeLB.Naming KubeLB.Controllers

/-- The object named by the origin labels; a missing label reads as empty. -/
def originOf (labels : StringMap) : ObjectKey where
  ns := labels.get labelOriginNamespace
  name := labels.get labelOriginName

def MatchingLabels (selector : List (String × String)) (labels : StringMap) : Prop :=
  ∀ pair ∈ selector, labels.lookup pair.1 = some pair.2

instance (selector : List (String × String)) (labels : StringMap) :
    Decidable (MatchingLabels selector labels) :=
  inferInstanceAs (Decidable (∀ pair ∈ selector, _))

end KubeLB.Ccm
