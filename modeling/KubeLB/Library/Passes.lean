import Mathlib.Init

/-!
Contract: computations over a state that may fail or not return.

Owns: the monad of such computations, its primitive operations, and the rules by
which a property of every outcome is proved along the text of a computation.

Does not own: any state. A failure keeps what was written before it.
-/

set_option autoImplicit false

namespace KubeLB.Library

universe u

variable {σ ε α β : Type u}

/-- A computation from a state to an outcome and a state; `none` while it has not
returned. -/
def Pass (σ ε α : Type u) : Type u := σ → Option (Except ε α × σ)

namespace Pass

instance : Monad (Pass σ ε) where
  pure value := fun state => some (.ok value, state)
  bind pass next := fun state =>
    match pass state with
    | none => none
    | some (.error error, reached) => some (.error error, reached)
    | some (.ok value, reached) => next value reached

/-- Return a part of the state. -/
def read (part : σ → α) : Pass σ ε α := fun state => some (.ok (part state), state)

def modify (change : σ → σ) : Pass σ ε PUnit := fun state => some (.ok ⟨⟩, change state)

def fail (error : ε) : Pass σ ε α := fun state => some (.error error, state)

/-- Fail when there is an error. -/
def check (error : Option ε) : Pass σ ε PUnit :=
  match error with
  | none => pure ⟨⟩
  | some error => fail error

/-- Run without failing: the error becomes a result. -/
def attempt (pass : Pass σ ε α) : Pass σ ε (Except ε α) := fun state =>
  match pass state with
  | none => none
  | some (outcome, reached) => some (.ok outcome, reached)

/-- Rewrite the error of a computation. -/
def mapError (rewrite : ε → ε) (pass : Pass σ ε α) : Pass σ ε α := fun state =>
  match pass state with
  | none => none
  | some (.error error, reached) => some (.error (rewrite error), reached)
  | some (.ok value, reached) => some (.ok value, reached)

/-- A computation on the state that has no result when `step` has none. -/
def await (step : σ → Option (α × σ)) : Pass σ ε α := fun state =>
  match step state with
  | none => none
  | some (value, reached) => some (.ok value, reached)

/-! ## Rules -/

/-- A postcondition with one part for a result and one for an error. -/
def either (returned : α → σ → Prop) (failed : ε → σ → Prop) : Except ε α → σ → Prop
  | .ok value, state => returned value state
  | .error error, state => failed error state

/-- Every outcome of a run from `start` satisfies `post`. -/
structure Ensures (pass : Pass σ ε α) (start : σ) (post : Except ε α → σ → Prop) : Prop where
  of_run : ∀ {outcome reached}, pass start = some (outcome, reached) → post outcome reached

variable {pass : Pass σ ε α} {next : α → Pass σ ε β} {start : σ}
  {post : Except ε α → σ → Prop}

theorem Ensures.mono {weaker : Except ε α → σ → Prop} (ensures : pass.Ensures start post)
    (implies : ∀ outcome reached, post outcome reached → weaker outcome reached) :
    pass.Ensures start weaker :=
  ⟨fun run => implies _ _ (ensures.of_run run)⟩

theorem ensures_pure {value : α} (holds : post (.ok value) start) :
    (pure value : Pass σ ε α).Ensures start post := by
  constructor
  intro outcome reached run
  cases run
  exact holds

theorem ensures_read {part : σ → α} (holds : post (.ok (part start)) start) :
    (read part).Ensures start post := by
  constructor
  intro outcome reached run
  cases run
  exact holds

theorem ensures_modify {change : σ → σ} {post : Except ε PUnit → σ → Prop}
    (holds : post (.ok ⟨⟩) (change start)) : (modify change).Ensures start post := by
  constructor
  intro outcome reached run
  cases run
  exact holds

theorem ensures_fail {error : ε} (holds : post (.error error) start) :
    (fail error).Ensures start post := by
  constructor
  intro outcome reached run
  cases run
  exact holds

theorem ensures_check {error : Option ε} {post : Except ε PUnit → σ → Prop}
    (passed : post (.ok ⟨⟩) start) (failed : ∀ error, post (.error error) start) :
    (check error).Ensures start post := by
  cases error with
  | none => exact ensures_pure passed
  | some error => exact ensures_fail (failed error)

theorem ensures_await {step : σ → Option (α × σ)}
    (holds : ∀ value reached, step start = some (value, reached) → post (.ok value) reached) :
    (await step).Ensures start post := by
  constructor
  intro outcome reached run
  unfold await at run
  split at run
  · cases run
  · rename_i value next isNext
    cases run
    exact holds _ _ isNext

theorem ensures_attempt {post : Except ε (Except ε α) → σ → Prop}
    (ensures : pass.Ensures start (fun outcome reached => post (.ok outcome) reached)) :
    (attempt pass).Ensures start post := by
  constructor
  intro outcome reached run
  unfold attempt at run
  split at run
  · cases run
  · rename_i inner next isNext
    cases run
    exact ensures.of_run isNext

theorem ensures_mapError {rewrite : ε → ε}
    (ensures : pass.Ensures start
      (either (fun value => post (.ok value)) (fun error => post (.error (rewrite error))))) :
    (mapError rewrite pass).Ensures start post := by
  constructor
  intro outcome reached run
  unfold mapError at run
  split at run
  · cases run
  · rename_i error next isNext
    cases run
    exact ensures.of_run isNext
  · rename_i value next isNext
    cases run
    exact ensures.of_run isNext

/-- A postcondition that does not look at the outcome. -/
theorem ensures_mapError_always {rewrite : ε → ε} {always : σ → Prop}
    (ensures : pass.Ensures start (fun _ => always)) :
    (mapError rewrite pass).Ensures start (fun _ => always) := by
  apply ensures_mapError
  apply ensures.mono
  intro outcome reached holds
  cases outcome <;> exact holds

/-- Sequencing: the first part establishes `mid` for the second one, or fails with
the postcondition. -/
theorem ensures_bind {post : Except ε β → σ → Prop}
    (mid : α → σ → Prop)
    (first : pass.Ensures start (either mid (fun error => post (.error error))))
    (second : ∀ value reached, mid value reached → (next value).Ensures reached post) :
    (pass >>= next).Ensures start post := by
  constructor
  intro outcome reached run
  cases firstRun : pass start with
  | none => simp [bind, firstRun] at run
  | some result =>
      obtain ⟨firstOutcome, between⟩ := result
      have established := first.of_run firstRun
      cases firstOutcome with
      | error error =>
          simp only [bind, firstRun] at run
          cases run
          exact established
      | ok value =>
          simp only [bind, firstRun] at run
          exact (second value between established).of_run run

/-- Sequencing when the first part has one property for a result and an error. -/
theorem ensures_bind_always {post : Except ε β → σ → Prop}
    {always : σ → Prop} (first : pass.Ensures start (fun _ => always))
    (failed : ∀ error reached, always reached → post (.error error) reached)
    (second : ∀ value reached, always reached → (next value).Ensures reached post) :
    (pass >>= next).Ensures start post := by
  apply ensures_bind (fun _ => always) _ second
  apply first.mono
  intro outcome reached holds
  cases outcome with
  | ok value => exact holds
  | error error => exact failed error reached holds

theorem ensures_bind_read {query : σ → α} {post : Except ε β → σ → Prop}
    (rest : (next (query start)).Ensures start post) : (read query >>= next).Ensures start post :=
  ⟨fun run => rest.of_run run⟩

theorem ensures_bind_modify {change : σ → σ} {next : PUnit → Pass σ ε β}
    {post : Except ε β → σ → Prop} (rest : (next ⟨⟩).Ensures (change start) post) :
    (modify change >>= next).Ensures start post :=
  ⟨fun run => rest.of_run run⟩

theorem ensures_bind_check {error : Option ε} {next : PUnit → Pass σ ε β}
    {post : Except ε β → σ → Prop} (failed : ∀ error, post (.error error) start)
    (rest : (next ⟨⟩).Ensures start post) : (check error >>= next).Ensures start post := by
  apply ensures_bind (fun _ reached => reached = start)
  · exact ensures_check rfl failed
  · rintro _ reached rfl
    exact rest

/-! ## Runs that succeed -/

section Success

variable {reached : σ}

theorem bind_eq_ok_iff {value : β} :
    (pass >>= next) start = some (.ok value, reached) ↔
      ∃ first between, pass start = some (.ok first, between) ∧
        next first between = some (.ok value, reached) := by
  rcases firstRun : pass start with _ | ⟨_ | result, state⟩
  · simp [bind, firstRun]
  · simp [bind, firstRun]
  · simp [bind, firstRun, and_assoc]

theorem bind_of_run {value : α} {between : σ}
    (first : pass start = some (.ok value, between)) :
    (pass >>= next) start = next value between := by
  simp only [bind, first]

theorem pure_eq_ok_iff {result value : α} :
    (pure result : Pass σ ε α) start = some (.ok value, reached) ↔
      value = result ∧ reached = start := by
  simp only [pure, Option.some.injEq, Prod.mk.injEq, Except.ok.injEq]
  exact ⟨fun same => ⟨same.1.symm, same.2.symm⟩, fun same => ⟨same.1.symm, same.2.symm⟩⟩

theorem read_eq_ok_iff {part : σ → α} {value : α} :
    (read part : Pass σ ε α) start = some (.ok value, reached) ↔
      value = part start ∧ reached = start :=
  pure_eq_ok_iff

theorem modify_eq_ok_iff {change : σ → σ} {value : PUnit} :
    (modify change : Pass σ ε PUnit) start = some (.ok value, reached) ↔
      reached = change start := by
  simp [modify, eq_comm]

theorem check_eq_ok_iff {error : Option ε} {value : PUnit} :
    (check error : Pass σ ε PUnit) start = some (.ok value, reached) ↔
      error = none ∧ reached = start := by
  cases error with
  | none => simp [check, pure_eq_ok_iff]
  | some error => simp [check, fail]

/-- A call that succeeds, and a read after it. -/
theorem of_check_read {error : Option ε} {part : σ → α} {value : β}
    (run : (check error >>= fun _ => read part >>= next) start = some (.ok value, reached)) :
    ∃ found, found = part start ∧ next found start = some (.ok value, reached) := by
  simp only [bind_eq_ok_iff, check_eq_ok_iff, read_eq_ok_iff] at run
  obtain ⟨-, _, ⟨-, rfl⟩, found, _, ⟨isFound, rfl⟩, finished⟩ := run
  exact ⟨found, isFound, finished⟩

/-- A call that succeeds, and its effect. -/
theorem of_check_modify {error : Option ε} {change : σ → σ} {value : PUnit}
    (run : (check error >>= fun _ => modify change) start = some (.ok value, reached)) :
    reached = change start := by
  simp only [bind_eq_ok_iff, check_eq_ok_iff, modify_eq_ok_iff] at run
  obtain ⟨-, _, ⟨-, rfl⟩, isReached⟩ := run
  exact isReached

theorem fail_ne_ok {error : ε} {value : α} :
    (fail error : Pass σ ε α) start ≠ some (.ok value, reached) := by
  simp [fail]

theorem mapError_eq_ok_iff {rewrite : ε → ε} {value : α} :
    mapError rewrite pass start = some (.ok value, reached) ↔
      pass start = some (.ok value, reached) := by
  rcases run : pass start with _ | ⟨_ | value, between⟩ <;> simp [mapError, run]

theorem attempt_eq_ok_iff {outcome : Except ε α} :
    attempt pass start = some (.ok outcome, reached) ↔ pass start = some (outcome, reached) := by
  rcases run : pass start with _ | ⟨result, between⟩ <;> simp [attempt, run]

/-- A loop whose rounds each change the state in a known way. -/
theorem eq_foldl_of_forM_ok {round : β → Pass σ ε PUnit} {change : σ → β → σ}
    (isChange : ∀ item state next, round item state = some (.ok ⟨⟩, next) →
      next = change state item)
    {items : List β} (run : items.forM round start = some (.ok ⟨⟩, reached)) :
    reached = items.foldl change start := by
  induction items generalizing start with
  | nil => exact (pure_eq_ok_iff.mp run).2
  | cons item rest ih =>
      obtain ⟨_, between, ofItem, later⟩ := bind_eq_ok_iff.mp run
      rw [List.foldl_cons, ← isChange item start between ofItem]
      exact ih later

end Success

/-! ## Computations that return -/

/-- The run from `start` returns a result, and it satisfies `post`. -/
def Returns (pass : Pass σ ε α) (start : σ) (post : α → σ → Prop) : Prop :=
  ∃ value reached, pass start = some (.ok value, reached) ∧ post value reached

section Returns

theorem Returns.mono {post weaker : α → σ → Prop} (returns : pass.Returns start post)
    (implies : ∀ value reached, post value reached → weaker value reached) :
    pass.Returns start weaker := by
  obtain ⟨value, reached, run, holds⟩ := returns
  exact ⟨value, reached, run, implies value reached holds⟩

theorem returns_pure {value : α} {post : α → σ → Prop} (holds : post value start) :
    (pure value : Pass σ ε α).Returns start post :=
  ⟨value, start, rfl, holds⟩

theorem returns_modify {change : σ → σ} {post : PUnit → σ → Prop}
    (holds : post ⟨⟩ (change start)) : (modify change : Pass σ ε PUnit).Returns start post :=
  ⟨⟨⟩, change start, rfl, holds⟩

theorem returns_mapError {rewrite : ε → ε} {post : α → σ → Prop}
    (returns : pass.Returns start post) : (mapError rewrite pass).Returns start post := by
  obtain ⟨value, reached, run, holds⟩ := returns
  exact ⟨value, reached, by simp only [mapError, run], holds⟩

theorem returns_bind {mid : α → σ → Prop} {post : β → σ → Prop}
    (first : pass.Returns start mid)
    (second : ∀ value reached, mid value reached → (next value).Returns reached post) :
    (pass >>= next).Returns start post := by
  obtain ⟨value, between, firstRun, established⟩ := first
  obtain ⟨result, reached, run, holds⟩ := second value between established
  exact ⟨result, reached, by simp only [bind, firstRun, run], holds⟩

theorem returns_bind_read {query : σ → α} {post : β → σ → Prop}
    (rest : (next (query start)).Returns start post) :
    (read query >>= next).Returns start post :=
  rest

/-- A loop whose rounds each keep a property. -/
theorem returns_forM {round : β → Pass σ ε PUnit} {items : List β} {holds : σ → Prop}
    (step : ∀ item ∈ items, ∀ state, holds state → (round item).Returns state (fun _ => holds))
    (started : holds start) : (items.forM round).Returns start (fun _ => holds) := by
  induction items generalizing start with
  | nil => exact returns_pure started
  | cons item rest ih =>
      show (round item >>= fun _ => rest.forM round).Returns start _
      rw [List.forall_mem_cons] at step
      apply returns_bind (step.1 start started)
      intro _ between kept
      exact ih step.2 kept

/-- A loop whose rounds each add to what was collected. -/
theorem returns_forM_collected {ι : Type*} {round : β → Pass σ ε PUnit} (items : List β)
    (adds : β → ι → Prop) (holds : (ι → Prop) → σ → Prop)
    (step : ∀ item collected state, holds collected state →
      (round item).Returns state (fun _ => holds (fun key => adds item key ∨ collected key)))
    {collected : ι → Prop} (started : holds collected start) :
    (items.forM round).Returns start
      (fun _ => holds (fun key => (∃ item ∈ items, adds item key) ∨ collected key)) := by
  induction items generalizing start collected with
  | nil =>
      apply returns_pure
      simpa using started
  | cons item rest ih =>
      show (round item >>= fun _ => rest.forM round).Returns start _
      apply returns_bind (step item collected start started)
      intro _ between added
      have last := ih added
      have same : (fun key => (∃ item ∈ rest, adds item key) ∨ adds item key ∨ collected key) =
          (fun key => (∃ other ∈ item :: rest, adds other key) ∨ collected key) := by
        funext key
        simp only [List.mem_cons, exists_eq_or_imp, eq_iff_iff]
        rw [← or_assoc, or_comm (a := adds item key)]
      rw [same] at last
      exact last

end Returns

/-! ## Parts that a computation keeps -/

/-- No run changes the part, whether it returns or fails. -/
def Keeps {γ : Type*} (part : σ → γ) (pass : Pass σ ε α) : Prop :=
  ∀ start, pass.Ensures start (fun _ reached => part reached = part start)

section Keeps

variable {γ : Type*} {part : σ → γ}

theorem keeps_pure (value : α) : Keeps part (pure value : Pass σ ε α) :=
  fun _ => ensures_pure rfl

theorem keeps_read (query : σ → α) : Keeps part (read query : Pass σ ε α) :=
  fun _ => ensures_read rfl

theorem keeps_fail (error : ε) : Keeps part (fail error : Pass σ ε α) :=
  fun _ => ensures_fail rfl

theorem keeps_check (error : Option ε) : Keeps part (check error : Pass σ ε PUnit) :=
  fun _ => ensures_check rfl (fun _ => rfl)

theorem keeps_modify {change : σ → σ} (same : ∀ state, part (change state) = part state) :
    Keeps part (modify change : Pass σ ε PUnit) :=
  fun start => ensures_modify (same start)

theorem keeps_await {step : σ → Option (α × σ)}
    (same : ∀ state value reached, step state = some (value, reached) →
      part reached = part state) : Keeps part (await step : Pass σ ε α) :=
  fun start => ensures_await (same start)

theorem keeps_attempt (keeps : Keeps part pass) : Keeps part (attempt pass) :=
  fun start => ensures_attempt (keeps start)

theorem keeps_mapError {rewrite : ε → ε} (keeps : Keeps part pass) :
    Keeps part (mapError rewrite pass) :=
  fun start => ensures_mapError_always (keeps start)

theorem keeps_bind (first : Keeps part pass)
    (second : ∀ value, Keeps part (next value)) : Keeps part (pass >>= next) := by
  intro start
  apply ensures_bind (fun _ reached => part reached = part start)
  · apply (first start).mono
    intro outcome reached same
    cases outcome <;> exact same
  · intro value between same
    apply (second value between).mono
    intro outcome reached unchanged
    exact unchanged.trans same

/-- A first part that keeps a part of the state, then the rest. -/
theorem ensures_bind_keeps (part : σ → γ) {post : Except ε β → σ → Prop}
    (keeps : Keeps part pass)
    (failed : ∀ error reached, part reached = part start → post (.error error) reached)
    (second : ∀ value reached, part reached = part start → (next value).Ensures reached post) :
    (pass >>= next).Ensures start post :=
  ensures_bind_always (keeps start) failed second

theorem keeps_check_read {error : Option ε} {query : σ → α}
    (rest : ∀ value, Keeps part (next value)) :
    Keeps part (check error >>= fun _ => read query >>= next) :=
  keeps_bind (keeps_check _) (fun _ => keeps_bind (keeps_read _) rest)

theorem keeps_check_modify {error : Option ε} {change : σ → σ}
    (same : ∀ state, part (change state) = part state) :
    Keeps part (check error >>= fun _ => modify change) :=
  keeps_bind (keeps_check _) (fun _ => keeps_modify same)

/-- A loop keeps what the rounds for its items keep. -/
theorem keeps_forM_of_mem {round : β → Pass σ ε PUnit} {items : List β}
    (each : ∀ item ∈ items, Keeps part (round item)) : Keeps part (items.forM round) := by
  induction items with
  | nil => exact keeps_pure _
  | cons item rest ih =>
      rw [List.forall_mem_cons] at each
      exact keeps_bind each.1 (fun _ => ih each.2)

theorem keeps_forM {round : β → Pass σ ε PUnit} (items : List β)
    (each : ∀ item, Keeps part (round item)) : Keeps part (items.forM round) :=
  keeps_forM_of_mem (fun item _ => each item)

end Keeps

/-! ## Errors that a computation avoids -/

/-- From every start the result is good, or the error is not among the bad ones. -/
def Avoids (bad : ε → Prop) (pass : Pass σ ε α) (good : α → Prop) : Prop :=
  ∀ start, pass.Ensures start (either (fun value _ => good value) (fun error _ => ¬ bad error))

section Avoids

variable {bad : ε → Prop} {good : α → Prop}

theorem avoids_pure {value : α} (isGood : good value) :
    Avoids bad (pure value : Pass σ ε α) good :=
  fun _ => ensures_pure isGood

theorem avoids_modify {change : σ → σ} :
    Avoids bad (modify change : Pass σ ε PUnit) (fun _ => True) :=
  fun _ => ensures_modify trivial

theorem avoids_fail {error : ε} (notBad : ¬ bad error) :
    Avoids bad (fail error : Pass σ ε α) good :=
  fun _ => ensures_fail notBad

theorem avoids_check {error : Option ε} (notBad : ∀ isError ∈ error, ¬ bad isError) :
    Avoids bad (check error : Pass σ ε PUnit) (fun _ => True) := by
  cases error with
  | none => exact avoids_pure trivial
  | some error => exact avoids_fail (notBad error rfl)

theorem avoids_await {step : σ → Option (α × σ)} :
    Avoids bad (await step : Pass σ ε α) (fun _ => True) :=
  fun _ => ensures_await fun _ _ _ => trivial

theorem avoids_bind {last : β → Prop} (first : Avoids bad pass good)
    (second : ∀ value, good value → Avoids bad (next value) last) :
    Avoids bad (pass >>= next) last := by
  intro start
  exact ensures_bind (fun value _ => good value) (first start)
    fun value reached isGood => second value isGood reached

theorem avoids_bind_read {query : σ → α} {last : β → Prop}
    (rest : ∀ value, Avoids bad (next value) last) : Avoids bad (read query >>= next) last :=
  fun start => ensures_bind_read (rest (query start) start)

end Avoids

/-! ## Computations that fail -/

/-- The run from `start` ends with the error. -/
def FailsWith (pass : Pass σ ε α) (start : σ) (error : ε) : Prop :=
  ∃ reached, pass start = some (.error error, reached)

theorem failsWith_fail {error : ε} : (fail error : Pass σ ε α).FailsWith start error :=
  ⟨start, rfl⟩

theorem failsWith_bind_of_run {value : α} {between : σ} {error : ε}
    (first : pass start = some (.ok value, between))
    (second : (next value).FailsWith between error) : (pass >>= next).FailsWith start error := by
  obtain ⟨reached, run⟩ := second
  exact ⟨reached, (bind_of_run first).trans run⟩

theorem failsWith_bind {mid : α → σ → Prop} {error : ε}
    (first : pass.Returns start mid)
    (second : ∀ value reached, mid value reached → (next value).FailsWith reached error) :
    (pass >>= next).FailsWith start error := by
  obtain ⟨value, between, firstRun, established⟩ := first
  exact failsWith_bind_of_run firstRun (second value between established)

theorem failsWith_bind_read {query : σ → α} {error : ε}
    (rest : (next (query start)).FailsWith start error) :
    (read query >>= next).FailsWith start error :=
  rest

theorem failsWith_bind_left {error : ε}
    (first : pass.FailsWith start error) : (pass >>= next).FailsWith start error := by
  obtain ⟨reached, run⟩ := first
  exact ⟨reached, by simp only [bind, run]⟩

end Pass

end KubeLB.Library
