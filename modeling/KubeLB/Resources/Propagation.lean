import KubeLB.Library.MapHeap
import KubeLB.Resources.Annotations

/-!
Contract: the loops of `PropagateAnnotations` over maps in memory.

Owns: the matchers and loops as the source runs them, for every way to match a pattern
and every order of the maps, the rule for each key that they come to, and the maps they
leave alone.

Does not own: how the annotations are written to an object.
-/

set_option autoImplicit false

namespace KubeLB.Resources

open KubeLB.Library KubeLB.Core KubeLB.V1Alpha1

/-- What `path.Match` returns. -/
abbrev PathMatch := String → String → Except Glob.BadPattern Bool

abbrev AnnotationHeap := MapHeap String String

/-! ## The loops -/

namespace Loops

/-- The settings with their maps in memory. -/
structure Settings (heap : AnnotationHeap) where
  /-- A pointer to a variable of a map type. -/
  propagatedAnnotations : Option heap.Ref := none
  propagateAllAnnotations : Option Bool := none
  deniedAnnotations : List String := []
  defaultAnnotations : GoMap AnnotatedResource heap.Ref := ∅

/-- The orders in which the four loops over maps visit their keys. -/
structure Orders where
  source : GoMap.RangeOrder String
  rules : GoMap.RangeOrder String
  resourceDefaults : GoMap.RangeOrder String
  allDefaults : GoMap.RangeOrder String

variable (pathMatch : PathMatch)

def matchPattern (pattern key : String) : Bool :=
  match pathMatch pattern key with
  | .error _ => decide (pattern = key)
  | .ok matched => matched

def compileDenyMatcher (patterns : List String) (key : String) : Bool :=
  patterns.any (fun pattern => matchPattern pathMatch pattern key)

/-- `rule`: `none` stands for the nil slice of values. -/
structure Rule where
  pattern : String
  values : Option (List String)

def trimmedParts (text : String) : List String :=
  (splitComma text.toList).map (fun part => String.ofList (trimSpace part))

/-- The slice that `compileAllowMatcher` makes of the map. -/
def compileRules (allow : StringMap) (order : GoMap.RangeOrder String) : List Rule :=
  (allow.rangeBy order).map (fun entry =>
    { pattern := entry.1
      values := if entry.2 ≠ "" then some (trimmedParts entry.2) else none })

def allowedBy : List Rule → String → String → Bool
  | [], _, _ => false
  | rule :: rules, key, value =>
      if !matchPattern pathMatch rule.pattern key then allowedBy rules key value
      else
        match rule.values with
        | none => true
        | some values =>
            if values.any (fun allowed => decide (allowed = value)) then true
            else allowedBy rules key value

variable {heap : AnnotationHeap}

/-- `compileAllowMatcher`, called with the pointer of the settings. -/
def compileAllowMatcher (allow : Option heap.Ref) (order : GoMap.RangeOrder String) :
    String → String → Bool :=
  match allow with
  | none => fun _ _ => false
  | some rules => allowedBy pathMatch (compileRules (heap.load rules) order)

def assign (out : Nat) (current : AnnotationHeap) (key value : String) : AnnotationHeap :=
  current.update out (fun m => m.insert key value)

/-- One loop of `mergeDefaultAnnotations`. -/
def mergeDefaults (out : Nat) (defaults : StringMap) (order : GoMap.RangeOrder String)
    (current : AnnotationHeap) : AnnotationHeap :=
  (defaults.rangeBy order).foldl (fun current entry =>
    if (current.contents out).lookup entry.1 = none then assign out current entry.1 entry.2
    else current) current

/-- `PropagateAnnotations`: the memory afterwards and the address of the result. The loops
range over maps that existed before, and the result is not one of these. -/
def propagateAnnotations (orders : Orders) (source : heap.Ref) (settings : Settings heap)
    (resource : AnnotatedResource) : AnnotationHeap × Nat :=
  let out := heap.next
  let denied := compileDenyMatcher pathMatch settings.deniedAnnotations
  let propagateAll := settings.propagateAllAnnotations.getD false
  let allowed := compileAllowMatcher pathMatch settings.propagatedAnnotations orders.rules
  let copied := ((heap.load source).rangeBy orders.source).foldl (fun current entry =>
    if denied entry.1 then current
    else if propagateAll || allowed entry.1 entry.2 then assign out current entry.1 entry.2
    else current) heap.make
  let ofResource := heap.load ((settings.defaultAnnotations.lookup resource).getD none)
  let ofAll := heap.load ((settings.defaultAnnotations.lookup .all).getD none)
  (mergeDefaults out ofAll orders.allDefaults
    (mergeDefaults out ofResource orders.resourceDefaults copied), out)

end Loops

/-! ## The rule for one key -/

section Rule

variable (pathMatch : PathMatch)

/-- A pattern matches a key; a malformed one matches itself only. -/
def Matches (pattern key : String) : Prop :=
  pathMatch pattern key = .ok true ∨ (∃ error, pathMatch pattern key = .error error) ∧ pattern = key

/-- An annotation may be taken over. -/
structure Permitted (settings : AnnotationSettings) (key value : String) : Prop where
  notDenied : ∀ pattern ∈ settings.deniedAnnotations, ¬ Matches pathMatch pattern key
  covered : settings.propagateAllAnnotations = some true ∨
    ∃ rules pattern values, settings.propagatedAnnotations = some rules ∧
      rules.lookup pattern = some values ∧ Matches pathMatch pattern key ∧
      (values = "" ∨ value ∈ Loops.trimmedParts values)

def defaultFor (settings : AnnotationSettings) (resource : AnnotatedResource) (key : String) :
    Option String :=
  (settings.defaultAnnotations.lookup resource).bind (fun defaults => defaults.lookup key)

def Loops.Settings.loaded {heap : AnnotationHeap} (settings : Loops.Settings heap) :
    AnnotationSettings where
  propagatedAnnotations := settings.propagatedAnnotations.map heap.load
  propagateAllAnnotations := settings.propagateAllAnnotations
  deniedAnnotations := settings.deniedAnnotations
  defaultAnnotations := GoMap.mapValues heap.load settings.defaultAnnotations

end Rule

/-! ## The matchers -/

section Matchers

variable {pathMatch : PathMatch} {heap : AnnotationHeap}

theorem matchPattern_iff {pattern key : String} :
    Loops.matchPattern pathMatch pattern key = true ↔ Matches pathMatch pattern key := by
  unfold Loops.matchPattern Matches
  cases pathMatch pattern key with
  | error error =>
      simp only [reduceCtorEq, false_or, decide_eq_true_eq]
      exact ⟨fun same => ⟨⟨error, trivial⟩, same⟩, fun holds => holds.2⟩
  | ok matched => simp

theorem compileDenyMatcher_iff {patterns : List String} {key : String} :
    Loops.compileDenyMatcher pathMatch patterns key = true ↔
      ∃ pattern ∈ patterns, Matches pathMatch pattern key := by
  simp only [Loops.compileDenyMatcher, List.any_eq_true, matchPattern_iff]

def Loops.Rule.Permits (pathMatch : PathMatch) (rule : Loops.Rule) (key value : String) : Prop :=
  Matches pathMatch rule.pattern key ∧ ∀ values, rule.values = some values → value ∈ values

theorem allowedBy_iff {rules : List Loops.Rule} {key value : String} :
    Loops.allowedBy pathMatch rules key value = true ↔
      ∃ rule ∈ rules, rule.Permits pathMatch key value := by
  induction rules with
  | nil => simp [Loops.allowedBy]
  | cons rule rules ih =>
      simp only [Loops.allowedBy, List.exists_mem_cons_iff, ← ih]
      by_cases isMatch : Loops.matchPattern pathMatch rule.pattern key = true
      · have isMatch' := matchPattern_iff.mp isMatch
        cases isValues : rule.values with
        | none => simp [isMatch, Loops.Rule.Permits, isMatch', isValues]
        | some values => simp [isMatch, Loops.Rule.Permits, isMatch', isValues]
      · have noMatch : ¬ rule.Permits pathMatch key value := fun permits =>
          isMatch (matchPattern_iff.mpr permits.1)
        simp [isMatch, noMatch]

theorem compileAllowMatcher_iff {allow : Option heap.Ref} {order : GoMap.RangeOrder String}
    {key value : String} :
    Loops.compileAllowMatcher pathMatch allow order key value = true ↔
      ∃ rules pattern values, allow.map heap.load = some rules ∧
        rules.lookup pattern = some values ∧ Matches pathMatch pattern key ∧
        (values = "" ∨ value ∈ Loops.trimmedParts values) := by
  cases allow with
  | none => simp [Loops.compileAllowMatcher]
  | some rules =>
      simp only [Loops.compileAllowMatcher, allowedBy_iff, Loops.compileRules, List.mem_map,
        Prod.exists, GoMap.mem_rangeBy, Option.map_some, Option.some.injEq, Loops.Rule.Permits]
      constructor
      · rintro ⟨_, ⟨pattern, values, found, rfl⟩, isMatch, isListed⟩
        refine ⟨_, pattern, values, rfl, found, isMatch, ?_⟩
        by_cases isEmpty : values = ""
        · exact Or.inl isEmpty
        · exact Or.inr (isListed _ (if_pos isEmpty))
      · rintro ⟨_, pattern, values, rfl, found, isMatch, isListed⟩
        refine ⟨_, ⟨pattern, values, found, rfl⟩, isMatch, ?_⟩
        intro listed isSome
        rw [Option.ite_none_right_eq_some] at isSome
        obtain ⟨notEmpty, isParts⟩ := isSome
        cases isParts
        exact isListed.resolve_left notEmpty

variable (pathMatch) in
/-- The two checks of the first loop. -/
def Loops.takes (settings : Loops.Settings heap) (order : GoMap.RangeOrder String)
    (key value : String) : Bool :=
  !Loops.compileDenyMatcher pathMatch settings.deniedAnnotations key &&
    (settings.propagateAllAnnotations.getD false ||
      Loops.compileAllowMatcher pathMatch settings.propagatedAnnotations order key value)

theorem takes_iff_permitted {settings : Loops.Settings heap} {order : GoMap.RangeOrder String}
    {key value : String} :
    Loops.takes pathMatch settings order key value = true ↔
      Permitted pathMatch settings.loaded key value := by
  have isAll : settings.propagateAllAnnotations.getD false = true ↔
      settings.propagateAllAnnotations = some true := by
    cases settings.propagateAllAnnotations <;> simp
  rw [Loops.takes, Bool.and_eq_true, Bool.or_eq_true, Bool.not_eq_true', Bool.eq_false_iff, ne_eq,
    compileDenyMatcher_iff, compileAllowMatcher_iff, isAll]
  constructor
  · rintro ⟨notDenied, covered⟩
    exact ⟨fun pattern isDenied isMatch => notDenied ⟨pattern, isDenied, isMatch⟩, covered⟩
  · rintro ⟨notDenied, covered⟩
    exact ⟨fun ⟨pattern, isDenied, isMatch⟩ => notDenied pattern isDenied isMatch, covered⟩

end Matchers

/-! ## The maps that the loops make -/

section Maps

variable (pathMatch : PathMatch) {heap : AnnotationHeap}

/-- The first loop, over its map alone. -/
def Loops.copyInto (settings : Loops.Settings heap) (order : GoMap.RangeOrder String)
    (out : StringMap) (entry : String × String) : StringMap :=
  if Loops.takes pathMatch settings order entry.1 entry.2 then out.insert entry.1 entry.2 else out

/-- A loop over defaults, over its map alone. -/
def Loops.fillInto (out : StringMap) (entry : String × String) : StringMap :=
  if out.lookup entry.1 = none then out.insert entry.1 entry.2 else out

theorem mergeDefaults_eq_update (out : Nat) (defaults : StringMap)
    (order : GoMap.RangeOrder String) (current : AnnotationHeap) :
    Loops.mergeDefaults out defaults order current =
      current.update out (fun m => (defaults.rangeBy order).foldl Loops.fillInto m) := by
  apply MapHeap.foldl_update
  intro current entry
  split
  · rename_i isAbsent
    simp [Loops.assign, MapHeap.update, Loops.fillInto, isAbsent]
  · rename_i isPresent
    simp [MapHeap.update, Loops.fillInto, isPresent]

def Loops.resultMap (orders : Loops.Orders) (source : StringMap) (settings : Loops.Settings heap)
    (resource : AnnotatedResource) : StringMap :=
  let copied := (source.rangeBy orders.source).foldl
    (Loops.copyInto pathMatch settings orders.rules) ∅
  let ofResource := heap.load ((settings.defaultAnnotations.lookup resource).getD none)
  let ofAll := heap.load ((settings.defaultAnnotations.lookup .all).getD none)
  (ofAll.rangeBy orders.allDefaults).foldl Loops.fillInto
    ((ofResource.rangeBy orders.resourceDefaults).foldl Loops.fillInto copied)

/-- The loops write to the new map only. -/
theorem propagateAnnotations_eq_update (orders : Loops.Orders) (source : heap.Ref)
    (settings : Loops.Settings heap) (resource : AnnotatedResource) :
    Loops.propagateAnnotations pathMatch orders source settings resource =
      (heap.make.update heap.next (fun _ =>
        Loops.resultMap pathMatch orders (heap.load source) settings resource), heap.next) := by
  have copied : ((heap.load source).rangeBy orders.source).foldl (fun current entry =>
      if Loops.compileDenyMatcher pathMatch settings.deniedAnnotations entry.1 then current
      else if settings.propagateAllAnnotations.getD false ||
          Loops.compileAllowMatcher pathMatch settings.propagatedAnnotations orders.rules
            entry.1 entry.2 then Loops.assign heap.next current entry.1 entry.2
      else current) heap.make =
      heap.make.update heap.next (fun m => ((heap.load source).rangeBy orders.source).foldl
        (Loops.copyInto pathMatch settings orders.rules) m) := by
    apply MapHeap.foldl_update
    intro current entry
    unfold Loops.copyInto Loops.takes
    split
    · rename_i isDenied
      simp [isDenied, MapHeap.update]
    · rename_i notDenied
      split
      · rename_i isCovered
        simp [notDenied, isCovered, Loops.assign]
      · rename_i notCovered
        simp [notDenied, notCovered, MapHeap.update]
  unfold Loops.propagateAnnotations
  simp only
  rw [copied, mergeDefaults_eq_update, mergeDefaults_eq_update, MapHeap.update_update,
    MapHeap.update_update]
  simp only [MapHeap.update, MapHeap.contents_make, Function.comp_apply, Loops.resultMap]

variable {pathMatch}

theorem lookup_copied (settings : Loops.Settings heap) (order rules : GoMap.RangeOrder String)
    (source : StringMap) (key : String) :
    ((source.rangeBy order).foldl (Loops.copyInto pathMatch settings rules) ∅).lookup key =
      (source.lookup key).filter (Loops.takes pathMatch settings rules key) := by
  rw [GoMap.lookup_foldl_rangeBy (fun key value current =>
    if Loops.takes pathMatch settings rules key value then some value else current)]
  · cases source.lookup key with
    | none => simp
    | some value => simp [Option.filter_some]
  · intro m key value
    unfold Loops.copyInto
    split <;> simp
  · intro m key value other different
    unfold Loops.copyInto
    split
    · exact Finmap.lookup_insert_of_ne _ different
    · rfl

theorem lookup_filled (defaults : StringMap) (order : GoMap.RangeOrder String) (out : StringMap)
    (key : String) :
    ((defaults.rangeBy order).foldl Loops.fillInto out).lookup key =
      (out.lookup key).or (defaults.lookup key) := by
  rw [GoMap.lookup_foldl_rangeBy (fun _ value current => current.or (some value))]
  · cases defaults.lookup key <;> simp
  · intro m key value
    unfold Loops.fillInto
    cases found : m.lookup key with
    | none => simp
    | some stored => simp [found]
  · intro m key value other different
    unfold Loops.fillInto
    split
    · exact Finmap.lookup_insert_of_ne _ different
    · rfl

theorem lookup_load_default (settings : Loops.Settings heap) (resource : AnnotatedResource)
    (key : String) :
    (heap.load ((settings.defaultAnnotations.lookup resource).getD none)).lookup key =
      defaultFor settings.loaded resource key := by
  rw [defaultFor, Loops.Settings.loaded, GoMap.lookup_mapValues]
  cases settings.defaultAnnotations.lookup resource with
  | none => simp [MapHeap.load]
  | some defaults => rfl

/-- The rule for one key, whatever the orders. -/
theorem lookup_resultMap (orders : Loops.Orders) (source : StringMap)
    (settings : Loops.Settings heap) (resource : AnnotatedResource) (key : String) :
    (Loops.resultMap pathMatch orders source settings resource).lookup key =
      (((source.lookup key).filter (Loops.takes pathMatch settings orders.rules key)).or
        (defaultFor settings.loaded resource key)).or (defaultFor settings.loaded .all key) := by
  unfold Loops.resultMap
  simp only
  rw [lookup_filled, lookup_filled, lookup_copied, lookup_load_default, lookup_load_default]

end Maps

/-! ## The function as a value -/

section Value

theorem matchPattern_pathMatch :
    Loops.matchPattern Glob.pathMatch = matchPattern := rfl

theorem allowsValue_iff {permitted value : String} :
    allowsValue permitted value = true ↔ permitted = "" ∨ value ∈ Loops.trimmedParts permitted := by
  simp [allowsValue, Loops.trimmedParts]

theorem compileAllowMatcher_value_iff {allow : Option StringMap} {key value : String} :
    compileAllowMatcher allow key value = true ↔
      ∃ rules pattern values, allow = some rules ∧ rules.lookup pattern = some values ∧
        Matches Glob.pathMatch pattern key ∧
        (values = "" ∨ value ∈ Loops.trimmedParts values) := by
  cases allow with
  | none => simp [compileAllowMatcher]
  | some rules =>
      simp only [compileAllowMatcher, List.any_eq_true, Bool.and_eq_true, GoMap.mem_sortedKeys,
        allowsValue_iff, ← matchPattern_pathMatch, matchPattern_iff]
      constructor
      · rintro ⟨pattern, ⟨values, found⟩, isMatch, isListed⟩
        refine ⟨rules, pattern, values, rfl, found, isMatch, ?_⟩
        simpa [StringMap.get, found] using isListed
      · rintro ⟨_, pattern, values, ⟨⟩, found, isMatch, isListed⟩
        refine ⟨pattern, ⟨values, found⟩, isMatch, ?_⟩
        simpa [StringMap.get, found] using isListed

variable (settings : AnnotationSettings)

def takesValue (key value : String) : Bool :=
  !compileDenyMatcher settings.deniedAnnotations key &&
    (settings.propagateAllAnnotations.getD false ||
      compileAllowMatcher settings.propagatedAnnotations key value)

theorem lookup_propagateAnnotations (source : StringMap) (resource : AnnotatedResource)
    (key : String) :
    (propagateAnnotations source settings resource).lookup key =
      (((source.lookup key).filter (takesValue settings key)).or
        (defaultFor settings resource key)).or (defaultFor settings .all key) := by
  have ofDefaults (of : AnnotatedResource) :
      ((settings.defaultAnnotations.lookup of).getD ∅).lookup key = defaultFor settings of key := by
    rw [defaultFor]
    cases settings.defaultAnnotations.lookup of <;> rfl
  unfold propagateAnnotations mergeDefaultAnnotations
  simp only [GoMap.lookup_union, GoMap.lookup_retain, ofDefaults]
  cases found : source.lookup key with
  | none => simp
  | some value => simp [Option.filter_some, takesValue, StringMap.get, found]

variable {settings} {heap : AnnotationHeap}

/-- The loops return what `propagateAnnotations` says, whatever the orders. -/
theorem resultMap_eq_propagateAnnotations (orders : Loops.Orders) (source : StringMap)
    (settings : Loops.Settings heap) (resource : AnnotatedResource) :
    Loops.resultMap Glob.pathMatch orders source settings resource =
      propagateAnnotations source settings.loaded resource := by
  have sameAllow (key value : String) :
      Loops.compileAllowMatcher Glob.pathMatch settings.propagatedAnnotations orders.rules key
        value = compileAllowMatcher settings.loaded.propagatedAnnotations key value := by
    rw [Bool.eq_iff_iff, compileAllowMatcher_iff, compileAllowMatcher_value_iff]
    rfl
  have sameTakes (key : String) : Loops.takes Glob.pathMatch settings orders.rules key =
      takesValue settings.loaded key := by
    funext value
    rw [Loops.takes, takesValue, sameAllow]
    rfl
  apply Finmap.ext_lookup
  intro key
  rw [lookup_resultMap, lookup_propagateAnnotations, sameTakes]

end Value

/-! ## The whole function -/

section Function

variable (pathMatch : PathMatch) {heap : AnnotationHeap} (orders : Loops.Orders)
  (source : heap.Ref) (settings : Loops.Settings heap) (resource : AnnotatedResource)

/-- A permitted annotation keeps its value, every other key has the default of the resource
or else that of all resources, and the maps that were there before are as they were. -/
theorem propagateAnnotations_spec :
    let reached : AnnotationHeap × Nat :=
      Loops.propagateAnnotations pathMatch orders source settings resource
    (∀ key value, (heap.load source).lookup key = some value →
        Permitted pathMatch settings.loaded key value →
          (reached.1.contents reached.2).lookup key = some value) ∧
      (∀ key, (∀ value, (heap.load source).lookup key = some value →
          ¬ Permitted pathMatch settings.loaded key value) →
        (reached.1.contents reached.2).lookup key =
          (defaultFor settings.loaded resource key).or (defaultFor settings.loaded .all key)) ∧
      heap.next ≤ reached.2 ∧
      ∀ address : Fin heap.next, reached.1.contents address = heap.contents address := by
  simp only [propagateAnnotations_eq_update, MapHeap.contents_update, lookup_resultMap]
  refine ⟨fun key value found permitted => ?_, fun key notPermitted => ?_, le_rfl,
    fun address => ?_⟩
  · have isTaken : Loops.takes pathMatch settings orders.rules key value = true :=
      takes_iff_permitted.mpr permitted
    simp [found, Option.filter_some, isTaken]
  · have noneTaken : ((heap.load source).lookup key).filter
        (Loops.takes pathMatch settings orders.rules key) = none := by
      rw [Option.filter_eq_none_iff]
      intro value found isTaken
      exact notPermitted value found (takes_iff_permitted.mp isTaken)
    rw [noneTaken, Option.none_or]
  · rw [MapHeap.contents_update_of_ne _ address.isLt.ne, MapHeap.contents_make_of_lt address.isLt]

end Function

end KubeLB.Resources
