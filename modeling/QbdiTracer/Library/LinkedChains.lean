import QbdiTracer.Library.WhileLoop

/-! Chains of links: the places a walk comes through until it reaches the end, where
following a link can fail. -/

namespace LinkedChains

open WhileLoop

universe u v

variable {Place : Type u} {Failure : Type v} {follow : Place → Except Failure Place}
  {stop place next : Place} {items others past : List Place}

/-- The links from a place lead through these places to the end. -/
inductive Chain (follow : Place → Except Failure Place) (stop : Place) :
    Place → List Place → Prop where
  | ended : Chain follow stop stop []
  | link {place next : Place} {rest : List Place} (going : place ≠ stop)
      (leads : follow place = .ok next) (tail : Chain follow stop next rest) :
      Chain follow stop place (place :: rest)

theorem Chain.of_cons (chain : Chain follow stop place (next :: items)) :
    place = next ∧ place ≠ stop ∧
      ∃ behind, follow place = .ok behind ∧ Chain follow stop behind items := by
  cases chain with
  | link going leads tail => exact ⟨rfl, going, _, leads, tail⟩

theorem Chain.unique (left : Chain follow stop place items) (right : Chain follow stop place others) :
    items = others := by
  induction left generalizing others with
  | ended =>
    cases right with
    | ended => rfl
    | link going => exact absurd rfl going
  | link going leads _ ih =>
    cases right with
    | ended => exact absurd rfl going
    | link _ other tail =>
      cases leads.symm.trans other
      rw [ih tail]

/-- No chain comes out of a place that leads to itself. -/
theorem not_chain_of_loop (going : place ≠ stop) (loops : follow place = .ok place) :
    ¬ Chain follow stop place items := by
  intro chain
  cases chain with
  | ended => exact going rfl
  | link _ leads tail =>
    cases loops.symm.trans leads
    have longer := congrArg List.length (tail.unique (.link going loops tail))
    rw [List.length_cons] at longer
    omega

variable [DecidableEq Place]

/-- One round of a walk that collects the places it comes through. -/
def walkRound (follow : Place → Except Failure Place) (stop : Place) (state : List Place × Place) :
    Except Failure (Round (List Place × Place) (List Place)) :=
  if state.2 = stop then .ok (.leave state.1)
  else (follow state.2).map fun next => .again (state.1 ++ [state.2], next)

def walk (follow : Place → Except Failure Place) (stop : Place) (fuel : ℕ)
    (state : List Place × Place) : Option (Except Failure (List Place)) :=
  iterate (fun state => .ofExcept (walkRound follow stop state)) fuel state

theorem walk_ended (fuel : ℕ) : walk follow stop (fuel + 1) (past, stop) = some (.ok past) :=
  iterate_leave (by simp [walkRound, Round.ofExcept]) fuel

theorem walk_link (going : place ≠ stop) (leads : follow place = .ok next) (fuel : ℕ) :
    walk follow stop (fuel + 1) (past, place) = walk follow stop fuel (past ++ [place], next) :=
  iterate_again (by simp [walkRound, going, leads, Except.map, Round.ofExcept]) fuel

theorem walk_broken {failure : Failure} (going : place ≠ stop)
    (breaks : follow place = .error failure) (fuel : ℕ) :
    walk follow stop (fuel + 1) (past, place) = some (.error failure) :=
  iterate_leave (by simp [walkRound, going, breaks, Except.map, Round.ofExcept]) fuel

/-- A walk along a chain comes through its places, in one round for each and one more. -/
theorem Chain.walk (chain : Chain follow stop place items) {fuel : ℕ}
    (enough : items.length < fuel) :
    walk follow stop fuel (past, place) = some (.ok (past ++ items)) := by
  induction chain generalizing past fuel with
  | ended =>
    obtain ⟨fuel, rfl⟩ := Nat.exists_eq_add_one_of_ne_zero (Nat.ne_of_gt enough)
    rw [walk_ended, List.append_nil]
  | @link place next rest going leads tail ih =>
    obtain ⟨fuel, rfl⟩ := Nat.exists_eq_add_one_of_ne_zero (Nat.ne_of_gt (Nat.zero_lt_of_lt enough))
    rw [walk_link going leads, ih (Nat.lt_of_succ_lt_succ enough), List.append_assoc,
      List.singleton_append]

/-- A walk that ends well has come along a chain. -/
theorem chain_of_walk {fuel : ℕ} (ended : walk follow stop fuel (past, place) = some (.ok items)) :
    ∃ rest, items = past ++ rest ∧ Chain follow stop place rest := by
  induction fuel generalizing past place with
  | zero => cases ended
  | succ fuel ih =>
    by_cases there : place = stop
    · subst there
      rw [walk_ended] at ended
      cases ended
      exact ⟨[], (List.append_nil _).symm, .ended⟩
    · cases leads : follow place with
      | error failure =>
        rw [walk_broken there leads] at ended
        cases ended
      | ok next =>
        rw [walk_link there leads] at ended
        obtain ⟨rest, rfl, tail⟩ := ih ended
        refine ⟨place :: rest, ?_, .link there leads tail⟩
        rw [List.append_assoc, List.singleton_append]

end LinkedChains
