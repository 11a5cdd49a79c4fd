import Mathlib.Data.List.Induction

/-!
Contract: finite runs of a machine whose steps may fail to return.

Owns: the run over a list of inputs, the induction rule that proves a property of
every state a run reaches, with the history in view, the rule for an invariant that a
step keeps only when its input meets a condition, and the check of such a condition.

Does not own: any machine.
-/

set_option autoImplicit false

namespace KubeLB.Library

universe u v

variable {State : Type u} {Input : Type v}

/-- Apply the inputs in order; `none` when some step does not return. -/
def runFrom (step : State → Input → Option State) : State → List Input → Option State
  | state, [] => some state
  | state, input :: inputs =>
      match step state input with
      | none => none
      | some next => runFrom step next inputs

variable {step : State → Input → Option State}

theorem runFrom_append (state : State) (inputs more : List Input) :
    runFrom step state (inputs ++ more) =
      (runFrom step state inputs).bind (fun reached => runFrom step reached more) := by
  induction inputs generalizing state with
  | nil => rfl
  | cons input inputs ih =>
      simp only [List.cons_append, runFrom]
      cases step state input with
      | none => rfl
      | some next => exact ih next

theorem runFrom_snoc {state reached : State} {inputs : List Input} {input : Input}
    (run : runFrom step state (inputs ++ [input]) = some reached) :
    ∃ before, runFrom step state inputs = some before ∧ step before input = some reached := by
  rw [runFrom_append, Option.bind_eq_some_iff] at run
  obtain ⟨before, prior, last⟩ := run
  refine ⟨before, prior, ?_⟩
  simp only [runFrom] at last
  split at last
  · cases last
  · rename_i next isNext
    exact isNext.trans last

/-- A property of history and state that holds at the start and survives each
step holds of every reached state. -/
theorem run_induction
    {motive : List Input → State → Prop}
    {start : State}
    (base : motive [] start)
    (preserved : ∀ history state input next,
      motive history state → step state input = some next →
      motive (history ++ [input]) next)
    {inputs : List Input} {reached : State}
    (run : runFrom step start inputs = some reached) :
    motive inputs reached := by
  induction inputs using List.reverseRecOn generalizing reached with
  | nil =>
      cases run
      exact base
  | append_singleton history input ih =>
      obtain ⟨before, prior, last⟩ := runFrom_snoc run
      exact preserved history before input reached (ih prior) last

/-- Every input of the run meets the condition in the state that it finds. -/
def RunMeets (step : State → Input → Option State) (condition : State → Input → Prop)
    (start : State) (inputs : List Input) : Prop :=
  ∀ index input, inputs[index]? = some input →
    ∀ state, runFrom step start (inputs.take index) = some state → condition state input

theorem RunMeets.of_cons {condition : State → Input → Prop} {start next : State} {input : Input}
    {inputs : List Input} (meets : RunMeets step condition start (input :: inputs))
    (isNext : step start input = some next) :
    condition start input ∧ RunMeets step condition next inputs := by
  refine ⟨meets 0 input rfl start rfl, ?_⟩
  intro index later isLater state reached
  apply meets (index + 1) later isLater
  rw [List.take_succ_cons, runFrom, isNext]
  exact reached

/-- The first input, and the rest of a run that it does not end. -/
theorem runMeets_cons_iff {condition : State → Input → Prop} {start next : State} {input : Input}
    {inputs : List Input} (isNext : step start input = some next) :
    RunMeets step condition start (input :: inputs) ↔
      condition start input ∧ RunMeets step condition next inputs := by
  refine ⟨fun meets => meets.of_cons isNext, ?_⟩
  rintro ⟨first, later⟩ index given isGiven state reached
  cases index with
  | zero =>
      cases isGiven
      cases reached
      exact first
  | succ index =>
      rw [List.take_succ_cons, runFrom, isNext] at reached
      exact later index given isGiven state reached

/-- An invariant that every step under the condition keeps holds at the end of a run
whose inputs all meet the condition. -/
theorem invariant_of_runMeets {Invariant : State → Prop} {condition : State → Input → Prop}
    (preserved : ∀ state input next, Invariant state → condition state input →
      step state input = some next → Invariant next)
    {start reached : State} {inputs : List Input} (base : Invariant start)
    (meets : RunMeets step condition start inputs)
    (run : runFrom step start inputs = some reached) : Invariant reached := by
  induction inputs generalizing start with
  | nil =>
      cases run
      exact base
  | cons input inputs ih =>
      rw [runFrom] at run
      split at run
      · cases run
      · rename_i next isNext
        obtain ⟨holds, later⟩ := meets.of_cons isNext
        exact ih (preserved start input next base holds isNext) later run

end KubeLB.Library
