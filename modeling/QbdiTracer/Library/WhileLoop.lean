import Mathlib.Data.List.Basic

/-! Loops that may not end, run for a given number of rounds. -/

namespace WhileLoop

universe u v w

/-- What one round of a loop comes to. -/
inductive Round (State : Type u) (Result : Type v) where
  | again (state : State)
  | leave (result : Result)

variable {State : Type u} {Result Other : Type v} {Failure : Type w}

def Round.map (change : Result → Other) : Round State Result → Round State Other
  | .again state => .again state
  | .leave result => .leave (change result)

/-- A round that fails leaves the loop. -/
def Round.ofExcept : Except Failure (Round State Result) → Round State (Except Failure Result)
  | .error failure => .leave (.error failure)
  | .ok (.again state) => .again state
  | .ok (.leave result) => .leave (.ok result)

theorem Round.ofExcept_map (change : Result → Other)
    (round : Except Failure (Round State Result)) :
    Round.ofExcept (round.map (Round.map change)) =
      (Round.ofExcept round).map (Except.map change) := by
  rcases round with failure | (next | result) <;> rfl

/-- The result of the loop, if it is left within `fuel` rounds. -/
def iterate (body : State → Round State Result) : Nat → State → Option Result
  | 0, _ => none
  | fuel + 1, state =>
    match body state with
    | .again next => iterate body fuel next
    | .leave result => some result

variable {body : State → Round State Result} {state next : State} {result : Result}

theorem iterate_again (round : body state = .again next) (fuel : Nat) :
    iterate body (fuel + 1) state = iterate body fuel next := by
  simp only [iterate, round]

theorem iterate_leave (round : body state = .leave result) (fuel : Nat) :
    iterate body (fuel + 1) state = some result := by
  simp only [iterate, round]

/-- Two loops that differ in their results only. -/
theorem iterate_map {other : State → Round State Other} (change : Result → Other)
    (same : ∀ state, other state = (body state).map change) (fuel : Nat) (state : State) :
    iterate other fuel state = (iterate body fuel state).map change := by
  induction fuel generalizing state with
  | zero => rfl
  | succ fuel ih =>
    cases round : body state with
    | again next =>
      have goes : other state = .again next := by rw [same, round]; rfl
      rw [iterate_again goes, iterate_again round, ih]
    | leave result =>
      have left : other state = .leave (change result) := by rw [same, round]; rfl
      rw [iterate_leave left, iterate_leave round]
      rfl

/-- Total correctness: if every round from a state of the invariant leaves the
loop with the postcondition, or lowers the measure, keeps the invariant and passes
the postcondition back, then the loop is left with the postcondition. -/
theorem iterate_total (invariant : State → Prop) (measure : State → Nat)
    (post : State → Result → Prop)
    (round : ∀ state, invariant state →
      (∃ result, body state = .leave result ∧ post state result) ∨
      ∃ next, body state = .again next ∧ invariant next ∧ measure next < measure state ∧
        ∀ result, post next result → post state result)
    {fuel : Nat} (holds : invariant state) (enough : measure state < fuel) :
    ∃ result, iterate body fuel state = some result ∧ post state result := by
  induction fuel generalizing state with
  | zero => cases enough
  | succ fuel ih =>
    rcases round state holds with ⟨result, left, met⟩ | ⟨next, goes, kept, lower, back⟩
    · exact ⟨result, iterate_leave left fuel, met⟩
    · obtain ⟨result, ended, met⟩ := ih kept (by omega)
      exact ⟨result, (iterate_again goes fuel).trans ended, back result met⟩

end WhileLoop
