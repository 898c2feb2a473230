import Mathlib.Order.Lattice

/-! Half-open intervals that are apart, and the closed test that confuses
touching with overlapping. -/

namespace Intervals

universe u

variable {Point : Type u} [LinearOrder Point]

/-- A nonempty half-open interval. -/
structure HalfOpen (Point : Type u) [LT Point] where
  lower : Point
  upper : Point
  nonempty : lower < upper

namespace HalfOpen

variable {first second : HalfOpen Point}

def Apart (first second : HalfOpen Point) : Prop :=
  first.upper ≤ second.lower ∨ second.upper ≤ first.lower

def Touches (first second : HalfOpen Point) : Prop :=
  first.upper = second.lower ∨ second.upper = first.lower

/-- Membership in the closure. -/
def Reaches (interval : HalfOpen Point) (point : Point) : Prop :=
  interval.lower ≤ point ∧ point ≤ interval.upper

instance (first second : HalfOpen Point) : Decidable (first.Touches second) :=
  inferInstanceAs (Decidable (_ ∨ _))

theorem Apart.symm (apart : first.Apart second) : second.Apart first := Or.symm apart

theorem Apart.lower_ne (apart : first.Apart second) : first.lower ≠ second.lower := by
  intro same
  rcases apart with below | above
  · exact absurd (same ▸ first.nonempty) (not_lt_of_ge below)
  · exact absurd (same ▸ second.nonempty) (not_lt_of_ge above)

/-- Of two intervals that are apart, one reaches an end of the other exactly
when they touch. -/
theorem Apart.reaches_end_iff (apart : first.Apart second) :
    second.Reaches first.lower ∨ second.Reaches first.upper ↔ first.Touches second := by
  constructor
  · rintro (⟨above, below⟩ | ⟨above, below⟩) <;> rcases apart with before | after
    · exact absurd (lt_of_lt_of_le first.nonempty (before.trans above)) (lt_irrefl _)
    · exact .inr (le_antisymm after below)
    · exact .inl (le_antisymm before above)
    · exact absurd (lt_of_lt_of_le first.nonempty (below.trans after)) (lt_irrefl _)
  · rintro (same | same)
    · exact .inr ⟨same.ge, same ▸ second.nonempty.le⟩
    · exact .inl ⟨same ▸ second.nonempty.le, same.ge⟩

end HalfOpen

end Intervals
