import QbdiTracer.RangeSets

/-! The queries of a `RangeSet` look at one range, the first that ends behind a value. On
spaced ranges that one tells for all of them. -/

namespace QbdiTracer

open LowerBound SpacedIntervals

variable {n : Nat}

namespace RangeSet

section Lookup

variable {ranges : List (Range n)} {set : RangeSet n} {lower range t : Range n} {value x : BitVec n}

/-- The range is the first one that ends behind the value. -/
structure FirstBehind (ranges : List (Range n)) (value : BitVec n) (lower : Range n) : Prop where
  member : lower ∈ ranges
  behind : value < lower.stop
  first : ∀ range ∈ ranges, value < range.stop → range = lower ∨ lower.stop < range.start

/-- The binary search finds it, if there is one. -/
theorem endsBehind_cases (spaced : SpacedRanges set.ranges) (value : BitVec n) :
    set.ranges[set.endsBehind value]? = none ∧ (∀ range ∈ set.ranges, range.stop ≤ value) ∨
      ∃ lower, set.ranges[set.endsBehind value]? = some lower ∧
        FirstBehind set.ranges value lower := by
  obtain ⟨ranges⟩ := set
  obtain ⟨low, high, rfl, position, early, late⟩ := spaced.endsBehind value
  simp only [RangeSet.endsBehind, position]
  obtain ⟨-, highSpaced, -⟩ := spacedRanges_append.mp spaced
  cases high with
  | nil =>
    left
    refine ⟨by simp, ?_⟩
    rw [List.append_nil]
    exact early
  | cons lower rest =>
    right
    obtain ⟨-, behind, -⟩ := spacedRanges_cons.mp highSpaced
    refine ⟨lower, by simp, List.mem_append_right _ (.head _), late lower (.head _), ?_⟩
    intro range member after
    rcases List.mem_append.mp member with before | here
    · exact absurd after (BitVec.not_lt.mpr (early range before))
    · rcases List.mem_cons.mp here with rfl | other
      · exact .inl rfl
      · exact .inr (behind range other)

/-- It is the only range that can hold the value. -/
theorem FirstBehind.eq_of_holds (found : FirstBehind ranges value lower) (member : range ∈ ranges)
    (holds : range.Holds value) : range = lower := by
  rcases found.first range member holds.2 with same | later
  · exact same
  · have behind := found.behind
    simp only [Range.Holds, BitVec.lt_def, BitVec.le_def] at holds later behind
    omega

theorem getElementRange_iff (spaced : SpacedRanges set.ranges) :
    set.getElementRange x = some range ↔ range ∈ set.ranges ∧ range.Holds x := by
  rw [getElementRange]
  rcases endsBehind_cases spaced x with ⟨none, before⟩ | ⟨lower, some, found⟩
  · rw [none]
    refine iff_of_false nofun ?_
    rintro ⟨member, holds⟩
    exact absurd holds.2 (BitVec.not_lt.mpr (before range member))
  · simp only [some]
    cases contained : lower.contains x with
    | false =>
      simp only [Bool.not_false, ↓reduceIte]
      refine iff_of_false nofun ?_
      rintro ⟨member, holds⟩
      rw [found.eq_of_holds member holds, ← Range.contains_iff, contained] at holds
      cases holds
    | true =>
      simp only [Bool.not_true, Bool.false_eq_true, ↓reduceIte]
      constructor
      · rintro ⟨⟩
        exact ⟨found.member, Range.contains_iff.mp contained⟩
      · rintro ⟨member, holds⟩
        rw [found.eq_of_holds member holds]

theorem contains_iff (spaced : SpacedRanges set.ranges) :
    set.contains x = true ↔ Covered set.ranges x := by
  rw [contains, Option.isSome_iff_exists]
  exact exists_congr fun range => getElementRange_iff spaced

theorem containsRange_iff (spaced : SpacedRanges set.ranges) (nonempty : t.start < t.stop) :
    set.containsRange t = true ↔ ∀ x, t.Holds x → Covered set.ranges x := by
  have own : t.Holds t.start := ⟨BitVec.le_refl _, nonempty⟩
  rw [containsRange, if_neg (BitVec.not_le.mpr nonempty)]
  rcases endsBehind_cases spaced t.start with ⟨none, before⟩ | ⟨lower, some, found⟩
  · rw [none]
    refine iff_of_false nofun fun all => ?_
    obtain ⟨range, member, holds⟩ := all _ own
    exact absurd holds.2 (BitVec.not_lt.mpr (before range member))
  · rw [some]
    simp only [Range.containsRange, Bool.and_eq_true, decide_eq_true_eq]
    constructor
    · rintro ⟨start, stop⟩ x ⟨above, below⟩
      exact ⟨lower, found.member, BitVec.le_trans start above, Nat.lt_of_lt_of_le below stop⟩
    · intro all
      obtain ⟨range, member, holds⟩ := all _ own
      obtain rfl := found.eq_of_holds member holds
      refine ⟨holds.1, BitVec.not_lt.mp fun shorter => ?_⟩
      -- the end of the range would lie in another one
      obtain ⟨other, memberOther, above, below⟩ :=
        all range.stop ⟨BitVec.le_of_lt found.behind, shorter⟩
      rcases found.first other memberOther (BitVec.lt_trans found.behind below) with rfl | later
      · exact BitVec.lt_irrefl _ below
      · exact absurd above (BitVec.not_le.mpr later)

theorem overlaps_iff (spaced : SpacedRanges set.ranges) (nonempty : t.start < t.stop) :
    set.overlaps t = true ↔ ∃ x, t.Holds x ∧ Covered set.ranges x := by
  rw [overlaps, if_neg (BitVec.not_le.mpr nonempty)]
  rcases endsBehind_cases spaced t.start with ⟨none, before⟩ | ⟨lower, some, found⟩
  · rw [none]
    refine iff_of_false nofun ?_
    rintro ⟨x, inside, range, member, holds⟩
    have early := before range member
    simp only [Range.Holds, BitVec.lt_def, BitVec.le_def] at inside holds early
    omega
  · rw [some]
    simp only [Range.overlaps_iff]
    constructor
    · rintro ⟨start, stop⟩
      have own := spaced.nonempty lower found.member
      by_cases inside : lower.start ≤ t.start
      · exact ⟨t.start, ⟨BitVec.le_refl _, nonempty⟩, lower, found.member, inside, stop⟩
      · have after := BitVec.le_of_lt (BitVec.not_le.mp inside)
        exact ⟨lower.start, ⟨after, start⟩, lower, found.member, BitVec.le_refl _, own⟩
    · rintro ⟨x, inside, range, member, holds⟩
      refine ⟨?_, found.behind⟩
      have after : t.start < range.stop := Nat.lt_of_le_of_lt inside.1 holds.2
      rcases found.first range member after with rfl | later
      · exact Nat.lt_of_le_of_lt holds.1 inside.2
      · have own := spaced.nonempty lower found.member
        have ordered := lower.ordered
        simp only [Range.Holds, BitVec.lt_def, BitVec.le_def] at inside holds later own ⊢
        omega

end Lookup

section Size

theorem toNat_size (range : Range n) : range.size.toNat = (ends range).2 - (ends range).1 :=
  BitVec.toNat_sub_of_le range.ordered

/-- The sum of `size`, which is taken modulo the size of a word. -/
theorem toNat_foldl_size (ranges : List (Range n)) (sum : BitVec n) :
    (ranges.foldl (fun sum r => sum + r.size) sum).toNat =
      (sum.toNat + total (ranges.map ends)) % 2 ^ n := by
  induction ranges generalizing sum with
  | nil => exact (Nat.mod_eq_of_lt sum.isLt).symm
  | cons range rest ih =>
    rw [List.foldl_cons, ih, BitVec.toNat_add, Nat.mod_add_mod, List.map_cons, total_cons,
      toNat_size, Nat.add_assoc]

theorem total_lt {ranges : List (Range n)} (spaced : SpacedRanges ranges) :
    total (ranges.map ends) < 2 ^ n := by
  have positive : 0 < 2 ^ n := Nat.two_pow_pos n
  have bounded := (spaced_ends spaced).total_le (fun _ _ => Nat.zero_le _)
    (List.forall_mem_map.mpr fun range _ => Nat.le_sub_one_of_lt range.stop.isLt)
  omega

theorem ncard_covered (ranges : List (Range n)) :
    {x | Covered ranges x}.ncard = {point | Covers (ranges.map ends) point}.ncard := by
  have image : BitVec.toNat '' {x | Covered ranges x} =
      {point | Covers (ranges.map ends) point} := by
    ext point
    rw [Set.mem_ofPred_eq, covers_ends]
    exact exists_congr fun x => and_comm
  rw [← image, Set.ncard_image_of_injective _ BitVec.toNat_injective]

/-- `size` counts the values, and its sum does not wrap. -/
theorem toNat_size_eq {set : RangeSet n} (spaced : SpacedRanges set.ranges) :
    set.size.toNat = total (set.ranges.map ends) ∧
      total (set.ranges.map ends) = {x | Covered set.ranges x}.ncard := by
  constructor
  · have none : (0 : BitVec n).toNat = 0 := by simp
    rw [size, toNat_foldl_size, none, Nat.zero_add, Nat.mod_eq_of_lt (total_lt spaced)]
  · rw [ncard_covered, (spaced_ends spaced).ncard_eq]

theorem total_ends (ranges : List (Range n)) :
    total (ranges.map ends) = (ranges.map fun range => range.size.toNat).sum := by
  rw [total, List.map_map]
  exact congrArg List.sum (List.map_congr_left fun range _ => (toNat_size range).symm)

end Size

end RangeSet

end QbdiTracer
