import Mathlib.Data.List.Basic

/-! Runs of a step function that can fail, and that can end the run early. -/

namespace FlowRun

universe u v w

/-- Whether a run goes on after a step. -/
inductive StepFlow where
  | next
  | stop
  deriving DecidableEq, Repr

variable {State : Type u} {Input : Type v} {Failure : Type w}

/-- A computation in two parts that goes through does so in both. -/
theorem bind_ok {Value Result : Type u} {first : Except Failure Value}
    {rest : Value → Except Failure Result} {result : Result}
    (done : first >>= rest = .ok result) :
    ∃ value, first = .ok value ∧ rest value = .ok result := by
  cases first with
  | error failure => cases done
  | ok value => exact ⟨value, rfl, done⟩

theorem map_ok {Value Result : Type u} {computed : Except Failure Value} {f : Value → Result}
    {result : Result} (done : computed.map f = .ok result) :
    ∃ value, computed = .ok value ∧ f value = result := by
  cases computed with
  | error failure => cases done
  | ok value => exact ⟨value, rfl, Except.ok.inj done⟩

/-- Feed the inputs to the step function until one fails or stops the run. -/
def run (step : State → Input → Except Failure (StepFlow × State)) :
    State → List Input → Except Failure (StepFlow × State)
  | state, [] => .ok (.next, state)
  | state, input :: rest =>
    match step state input with
    | .error failure => .error failure
    | .ok (.stop, stopped) => .ok (.stop, stopped)
    | .ok (.next, continued) => run step continued rest

variable {step : State → Input → Except Failure (StepFlow × State)}

@[simp] theorem run_nil (state : State) : run step state [] = .ok (.next, state) := rfl

theorem run_cons (state : State) (input : Input) (rest : List Input) :
    run step state (input :: rest) =
      match step state input with
      | .error failure => .error failure
      | .ok (.stop, stopped) => .ok (.stop, stopped)
      | .ok (.next, continued) => run step continued rest := rfl

theorem run_cons_next {state continued : State} {input : Input}
    (taken : step state input = .ok (.next, continued)) (rest : List Input) :
    run step state (input :: rest) = run step continued rest := by
  simp [run_cons, taken]

/-- The rule for properties of the state alone. -/
theorem run_invariant (property : State → Prop)
    (keeps : ∀ before input flow after, property before →
      step before input = .ok (flow, after) → property after)
    {inputs : List Input} {state final : State} {flow : StepFlow} (initial : property state)
    (ran : run step state inputs = .ok (flow, final)) : property final := by
  induction inputs generalizing state with
  | nil =>
    simp only [run_nil, Except.ok.injEq, Prod.mk.injEq] at ran
    exact ran.2 ▸ initial
  | cons input rest ih =>
    rw [run_cons] at ran
    split at ran
    · cases ran
    · rename_i stopped taken
      simp only [Except.ok.injEq, Prod.mk.injEq] at ran
      exact ran.2 ▸ keeps _ _ _ _ initial taken
    · rename_i continued taken
      exact ih (keeps _ _ _ _ initial taken) ran

/-- The rule for properties of the state and the inputs consumed so far, for a
step that never stops the run on the states in question. -/
theorem run_history {property : List Input → State → Prop}
    (keeps : ∀ history before input flow after, property history before →
      step before input = .ok (flow, after) → flow = .next ∧ property (history ++ [input]) after)
    (history : List Input) {inputs : List Input} {state final : State} {flow : StepFlow}
    (initial : property history state) (ran : run step state inputs = .ok (flow, final)) :
    flow = .next ∧ property (history ++ inputs) final := by
  induction inputs generalizing state history with
  | nil =>
    simp only [run_nil, Except.ok.injEq, Prod.mk.injEq] at ran
    obtain ⟨same, rfl⟩ := ran
    exact ⟨same.symm, by simpa using initial⟩
  | cons input rest ih =>
    rw [run_cons] at ran
    split at ran
    · cases ran
    · rename_i stopped taken
      cases (keeps _ _ _ _ _ initial taken).1
    · rename_i continued taken
      have kept := (keeps _ _ _ _ _ initial taken).2
      simpa using ih (history ++ [input]) kept ran

/-- The rule for a property that only holds while the run goes on, and gives a
weaker one wherever it ends. -/
theorem run_outcome (live ended : State → Prop) (weaken : ∀ state, live state → ended state)
    {inputs : List Input} (keeps : ∀ before, ∀ input ∈ inputs, ∀ after, live before →
      step before input = .ok (.next, after) → live after)
    (stops : ∀ before, ∀ input ∈ inputs, ∀ after, live before →
      step before input = .ok (.stop, after) → ended after)
    {state final : State} {flow : StepFlow} (initial : live state)
    (ran : run step state inputs = .ok (flow, final)) : ended final := by
  induction inputs generalizing state with
  | nil =>
    simp only [run_nil, Except.ok.injEq, Prod.mk.injEq] at ran
    exact ran.2 ▸ weaken state initial
  | cons input rest ih =>
    rw [run_cons] at ran
    split at ran
    · cases ran
    · rename_i stopped taken
      simp only [Except.ok.injEq, Prod.mk.injEq] at ran
      exact ran.2 ▸ stops state input (.head _) stopped initial taken
    · rename_i continued taken
      exact ih (fun before other member => keeps before other (.tail _ member))
        (fun before other member => stops before other (.tail _ member))
        (keeps state input (.head _) continued initial taken) ran

/-- The rule for two step functions that a conversion of the states takes to each other,
on the states and inputs where it does. -/
theorem run_map {Other : Type u} {other : Other → Input → Except Failure (StepFlow × Other)}
    (convert : State → Other) (fits : State → Prop) {inputs : List Input}
    (commutes : ∀ before, ∀ input ∈ inputs, fits before →
      other (convert before) input = (step before input).map (Prod.map id convert))
    (keeps : ∀ before input flow after, fits before → step before input = .ok (flow, after) →
      fits after)
    {state : State} (initial : fits state) :
    run other (convert state) inputs = (run step state inputs).map (Prod.map id convert) := by
  induction inputs generalizing state with
  | nil => rfl
  | cons input rest ih =>
    rw [run_cons, run_cons, commutes state input (.head _) initial]
    cases taken : step state input with
    | error failure => rfl
    | ok outcome =>
      obtain ⟨flow, after⟩ := outcome
      cases flow with
      | stop => rfl
      | next =>
        exact ih (fun before other member => commutes before other (.tail _ member))
          (keeps state input .next after initial taken)

/-- A successful run over a concatenation passes through the first part. -/
theorem run_append_next {first second : List Input} {state final : State} {flow : StepFlow}
    (ran : run step state (first ++ second) = .ok (flow, final)) :
    (run step state first = .ok (.stop, final) ∧ flow = .stop) ∨
      ∃ middle, run step state first = .ok (.next, middle) ∧
        run step middle second = .ok (flow, final) := by
  induction first generalizing state with
  | nil => exact .inr ⟨state, rfl, ran⟩
  | cons input rest ih =>
    rw [List.cons_append, run_cons] at ran
    split at ran
    · cases ran
    · rename_i stopped taken
      simp only [Except.ok.injEq, Prod.mk.injEq] at ran
      obtain ⟨same, rfl⟩ := ran
      exact .inl ⟨by simp [run_cons, taken], same.symm⟩
    · rename_i continued taken
      simpa only [run_cons_next taken] using ih ran

end FlowRun
