import Mathlib.Data.Set.Card
import Mathlib.Order.Interval.Finset.Nat

/-! Finite unions of half-open intervals, as lists with a gap between any two. -/

namespace SpacedIntervals

universe u

variable {Point : Type u} [LinearOrder Point]

/-- The point lies in one of the intervals, which are given by their ends. -/
def Covers (bounds : List (Point × Point)) (point : Point) : Prop :=
  ∃ ends ∈ bounds, ends.1 ≤ point ∧ point < ends.2

/-- The intervals are nonempty, in order, and neither overlap nor touch. -/
structure Spaced (bounds : List (Point × Point)) : Prop where
  nonempty : ∀ ends ∈ bounds, ends.1 < ends.2
  gaps : bounds.Pairwise fun earlier later => earlier.2 < later.1

variable {ends other : Point × Point} {rest others first second : List (Point × Point)}
  {point : Point}

theorem covers_cons : Covers (ends :: rest) point ↔
    (ends.1 ≤ point ∧ point < ends.2) ∨ Covers rest point := by
  simp [Covers]

theorem Spaced.tail (spaced : Spaced (ends :: rest)) : Spaced rest :=
  ⟨fun other member => spaced.nonempty other (.tail _ member), spaced.gaps.tail⟩

/-- The intervals behind the first one begin behind its end. -/
theorem Spaced.above (spaced : Spaced (ends :: rest)) (covered : Covers rest point) :
    ends.2 < point := by
  obtain ⟨other, member, lower, -⟩ := covered
  exact lt_of_lt_of_le (List.rel_of_pairwise_cons spaced.gaps member) lower

theorem Spaced.covers_first (spaced : Spaced (ends :: rest)) : Covers (ends :: rest) ends.1 :=
  covers_cons.mpr (.inl ⟨le_refl _, spaced.nonempty ends (.head _)⟩)

/-- The first interval begins at the least point. -/
theorem Spaced.first_le (spaced : Spaced (ends :: rest)) (covered : Covers (ends :: rest) point) :
    ends.1 ≤ point := by
  rcases covers_cons.mp covered with ⟨lower, -⟩ | later
  · exact lower
  · exact ((spaced.nonempty ends (.head _)).trans (spaced.above later)).le

/-- The end of the first interval is the first point that is missing behind it. -/
theorem Spaced.not_covers_end (spaced : Spaced (ends :: rest)) : ¬ Covers (ends :: rest) ends.2 := by
  intro covered
  rcases covers_cons.mp covered with ⟨-, upper⟩ | later
  · exact lt_irrefl _ upper
  · exact lt_irrefl _ (spaced.above later)

theorem Spaced.end_le (spaced : Spaced (ends :: rest))
    (begin : ends.1 = other.1)
    (same : ∀ point, Covers (ends :: rest) point ↔ Covers (other :: others) point) :
    other.2 ≤ ends.2 := by
  by_contra shorter
  apply spaced.not_covers_end
  rw [same, covers_cons]
  refine .inl ⟨?_, not_le.mp shorter⟩
  rw [← begin]
  exact (spaced.nonempty ends (.head _)).le

theorem Spaced.covers_tail (spaced : Spaced (ends :: rest)) :
    Covers rest point ↔ Covers (ends :: rest) point ∧ ends.2 ≤ point := by
  constructor
  · exact fun later => ⟨covers_cons.mpr (.inr later), (spaced.above later).le⟩
  · rintro ⟨covered, behind⟩
    rcases covers_cons.mp covered with ⟨-, upper⟩ | later
    · exact absurd upper (not_lt.mpr behind)
    · exact later

/-- There is one list for each set of points. -/
theorem Spaced.eq_of_covers_iff (spaced : Spaced first) (spacedOther : Spaced second)
    (same : ∀ point, Covers first point ↔ Covers second point) : first = second := by
  induction first generalizing second with
  | nil =>
    cases second with
    | nil => rfl
    | cons other others =>
      obtain ⟨ends, member, -⟩ := (same other.1).mpr spacedOther.covers_first
      cases member
  | cons ends rest ih =>
    cases second with
    | nil =>
      obtain ⟨other, member, -⟩ := (same ends.1).mp spaced.covers_first
      cases member
    | cons other others =>
      have begin : ends.1 = other.1 :=
        le_antisymm (spaced.first_le ((same _).mpr spacedOther.covers_first))
          (spacedOther.first_le ((same _).mp spaced.covers_first))
      have stop : ends.2 = other.2 :=
        le_antisymm (spacedOther.end_le begin.symm fun point => (same point).symm)
          (spaced.end_le begin same)
      have tails : ∀ point, Covers rest point ↔ Covers others point := by
        intro point
        rw [spaced.covers_tail, spacedOther.covers_tail, same point, stop]
      rw [Prod.ext begin stop, ih spaced.tail spacedOther.tail tails]

section Numbers

variable {bounds : List (ℕ × ℕ)}

/-- The lengths of the intervals together. -/
def total (bounds : List (ℕ × ℕ)) : ℕ := (bounds.map fun ends => ends.2 - ends.1).sum

theorem total_cons (ends : ℕ × ℕ) (rest : List (ℕ × ℕ)) :
    total (ends :: rest) = ends.2 - ends.1 + total rest := by
  simp [total]

theorem setOf_covers_cons (ends : ℕ × ℕ) (rest : List (ℕ × ℕ)) :
    {point | Covers (ends :: rest) point} =
      Set.Ico ends.1 ends.2 ∪ {point | Covers rest point} := by
  ext point
  exact covers_cons

theorem finite_covers (bounds : List (ℕ × ℕ)) : {point | Covers bounds point}.Finite := by
  induction bounds with
  | nil => simp [Covers]
  | cons ends rest ih =>
    rw [setOf_covers_cons]
    exact (Set.finite_Ico _ _).union ih

/-- Spaced intervals have as many points as their lengths say. -/
theorem Spaced.ncard_eq (spaced : Spaced bounds) :
    {point | Covers bounds point}.ncard = total bounds := by
  induction bounds with
  | nil => simp [Covers, total]
  | cons ends rest ih =>
    have apart : Disjoint (Set.Ico ends.1 ends.2) {point | Covers rest point} := by
      refine Set.disjoint_left.mpr fun point inside covered => ?_
      exact lt_asymm inside.2 (spaced.above covered)
    rw [setOf_covers_cons, Set.ncard_union_eq apart (Set.finite_Ico _ _) (finite_covers rest),
      ih spaced.tail, total_cons, ← Finset.coe_Ico, Set.ncard_coe_finset, Nat.card_Ico]

theorem Spaced.total_le (spaced : Spaced bounds) {least greatest : ℕ}
    (above : ∀ ends ∈ bounds, least ≤ ends.1) (below : ∀ ends ∈ bounds, ends.2 ≤ greatest) :
    total bounds ≤ greatest - least := by
  induction bounds generalizing least with
  | nil => simp [total]
  | cons ends rest ih =>
    have later : ∀ other ∈ rest, ends.2 ≤ other.1 := fun other member =>
      (List.rel_of_pairwise_cons spaced.gaps member).le
    have others := ih spaced.tail later fun other member => below other (.tail _ member)
    have own := spaced.nonempty ends (.head _)
    have low := above ends (.head _)
    have high := below ends (.head _)
    rw [total_cons]
    omega

end Numbers

end SpacedIntervals
