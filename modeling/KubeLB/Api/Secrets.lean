import KubeLB.Api.Core
import KubeLB.Library.Utf8

/-!
Contract: Secrets.

Owns: the Secret as the API server stores it, with the fields the modelled functions
use, under the names of the Go type.

Does not own: owner references.
-/

set_option autoImplicit false

namespace KubeLB.Core

open KubeLB.Library

structure Secret where
  metadata : ObjectMeta
  type : String := ""
  data : GoMap String (List UInt8) := ∅
  deriving DecidableEq

end KubeLB.Core
