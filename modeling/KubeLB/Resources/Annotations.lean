import KubeLB.Api.V1Alpha1
import KubeLB.Library.Glob
import Mathlib.Data.String.Basic

/-!
Contract: which annotations of a source object reach a generated object.

Owns: `PropagateAnnotations` with its deny patterns, allow rules and defaults.

Does not own: how annotations already on the generated object are merged.

Every loop over a map of the source reads one entry at a time and writes only
that entry's key, so its order cannot be seen.
-/

set_option autoImplicit false

namespace KubeLB.Resources

open KubeLB.Library KubeLB.Core KubeLB.V1Alpha1

/-- `matchPattern`: a malformed pattern is compared as a text. -/
def matchPattern (pattern key : String) : Bool :=
  match Glob.pathMatch pattern key with
  | .error _ => decide (pattern = key)
  | .ok matched => matched

/-- The function that `compileDenyMatcher` returns. -/
def compileDenyMatcher (patterns : List String) (key : String) : Bool :=
  patterns.any (fun pattern => matchPattern pattern key)

def isSpace (char : Char) : Bool :=
  decide (char.toNat ∈ [9, 10, 11, 12, 13, 32, 0x85, 0xA0, 0x1680, 0x2028, 0x2029, 0x202F,
    0x205F, 0x3000]) || decide (0x2000 ≤ char.toNat ∧ char.toNat ≤ 0x200A)

def trimSpace (text : List Char) : List Char :=
  (((text.dropWhile isSpace).reverse).dropWhile isSpace).reverse

/-- `strings.Split(text, ",")`. -/
def splitComma : List Char → List (List Char)
  | [] => [[]]
  | ',' :: rest => [] :: splitComma rest
  | char :: rest =>
      match splitComma rest with
      | [] => [[char]]
      | first :: others => (char :: first) :: others

/-- The values of an allow rule; an empty text allows any value. -/
def allowsValue (permitted value : String) : Bool :=
  decide (permitted = "") ||
    ((splitComma permitted.toList).map (fun part => String.ofList (trimSpace part))).contains value

/-- The function that `compileAllowMatcher` returns. -/
def compileAllowMatcher (allow : Option StringMap) (key value : String) : Bool :=
  match allow with
  | none => false
  | some rules => (GoMap.sortedKeys rules).any (fun pattern =>
      matchPattern pattern key && allowsValue (rules.get pattern) value)

/-- `mergeDefaultAnnotations`: defaults of the resource, then those of all
resources, and never over an existing key. -/
def mergeDefaultAnnotations (out : StringMap) (settings : AnnotationSettings)
    (resource : AnnotatedResource) : StringMap :=
  out ∪ (settings.defaultAnnotations.lookup resource).getD ∅ ∪
    (settings.defaultAnnotations.lookup .all).getD ∅

def propagateAnnotations (source : StringMap) (settings : AnnotationSettings)
    (resource : AnnotatedResource) : StringMap :=
  let out := GoMap.retain (fun key =>
    !compileDenyMatcher settings.deniedAnnotations key &&
      (settings.propagateAllAnnotations.getD false ||
        compileAllowMatcher settings.propagatedAnnotations key (source.get key))) source
  mergeDefaultAnnotations out settings resource

end KubeLB.Resources
