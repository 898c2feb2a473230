import Mathlib.Algebra.Group.Nat.Defs
import Mathlib.Data.Nat.Notation

/-! The digits of a number determine it, and put together they give it back. -/

namespace Digits

/-- The first sixteen digit characters differ. -/
theorem digitChar_injective {first second : Nat} (small : first < 16) (small' : second < 16)
    (same : first.digitChar = second.digitChar) : first = second := by
  have checked : ∀ a : Fin 16, ∀ b : Fin 16, a.val.digitChar = b.val.digitChar → a = b := by decide
  exact congrArg Fin.val (checked ⟨first, small⟩ ⟨second, small'⟩ same)

theorem toDigits_ne_digit {base number digit : Nat} (above : 1 < base) (large : base ≤ number) :
    Nat.toDigits base number ≠ [digit.digitChar] := by
  rw [Nat.toDigits_of_base_le above large]
  intro same
  have lengths := congrArg List.length same
  have positive := @Nat.length_toDigits_pos base (number / base)
  simp only [List.length_append, List.length_cons, List.length_nil] at lengths
  omega

/-- Two numbers with the same digits are equal, in a base of at most sixteen. -/
theorem toDigits_injective {base : Nat} (above : 1 < base) (below : base ≤ 16) {first second : Nat}
    (same : Nat.toDigits base first = Nat.toDigits base second) : first = second := by
  induction first using Nat.strongRecOn generalizing second with
  | ind first ih =>
    rcases Nat.lt_or_ge first base with small | large <;>
      rcases Nat.lt_or_ge second base with small' | large'
    · rw [Nat.toDigits_of_lt_base small, Nat.toDigits_of_lt_base small'] at same
      exact digitChar_injective (by omega) (by omega) (List.singleton_inj.mp same)
    · rw [Nat.toDigits_of_lt_base small] at same
      exact absurd same.symm (toDigits_ne_digit above large')
    · rw [Nat.toDigits_of_lt_base small'] at same
      exact absurd same (toDigits_ne_digit above large)
    · rw [Nat.toDigits_of_base_le above large, Nat.toDigits_of_base_le above large'] at same
      obtain ⟨high, low⟩ := List.append_inj' same rfl
      have sameHigh := ih (first / base) (Nat.div_lt_self (by omega) above) high
      have sameLow := digitChar_injective (Nat.lt_of_lt_of_le (Nat.mod_lt _ (by omega)) below)
        (Nat.lt_of_lt_of_le (Nat.mod_lt _ (by omega)) below) (List.singleton_inj.mp low)
      rw [← Nat.div_add_mod first base, ← Nat.div_add_mod second base, sameHigh, sameLow]

/-- Putting the lowest `count` digits together gives the number below `base ^ count`. -/
theorem foldr_digits (base count number : Nat) :
    (List.range count).foldr (fun i high => number / base ^ i % base + base * high) 0 =
      number % base ^ count := by
  induction count generalizing number with
  | zero => simp [Nat.mod_one]
  | succ count ih =>
    have shifted : ∀ i, number / base ^ (i + 1) = number / base / base ^ i := fun i => by
      rw [Nat.div_div_eq_div_mul, Nat.pow_succ, Nat.mul_comm]
    rw [List.range_succ_eq_map, List.foldr_cons, List.foldr_map]
    simp only [Nat.succ_eq_add_one, shifted, ih, Nat.pow_zero, Nat.div_one]
    rw [Nat.pow_succ, Nat.mul_comm (base ^ count), Nat.mod_mul]

end Digits
