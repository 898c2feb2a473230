import QbdiTracer.RangeSetQueries

/-! Operations on `RangeSet`s in any order: the ranges stay spaced, the values are those of
the set operations, equality of the vectors is equality of the sets, and the queries that
look at one range answer for the whole set. -/

namespace QbdiTracer

variable {n : Nat}

/-- How a set came about: from the empty set by operations with ranges and with sets that
came about the same way. -/
inductive RangeSetHistory (n : Nat) where
  | empty
  | add (past : RangeSetHistory n) (t : Range n)
  | addSet (past t : RangeSetHistory n)
  | remove (past : RangeSetHistory n) (t : Range n)
  | removeSet (past t : RangeSetHistory n)
  | intersect (past : RangeSetHistory n) (t : Range n)
  | intersectSet (past t : RangeSetHistory n)
  | clear (past : RangeSetHistory n)

namespace RangeSetHistory

/-- The set after these operations. -/
def result : RangeSetHistory n → RangeSet n
  | .empty => {}
  | .add past t => past.result.add t
  | .addSet past t => past.result.addSet t.result
  | .remove past t => past.result.remove t
  | .removeSet past t => past.result.removeSet t.result
  | .intersect past t => past.result.intersect t
  | .intersectSet past t => past.result.intersectSet t.result
  | .clear past => past.result.clear

theorem spaced (history : RangeSetHistory n) : SpacedRanges history.result.ranges := by
  induction history with
  | empty => exact spacedRanges_nil
  | add past t ih => exact (RangeSet.add_spec ih t).1
  | addSet past t ih _ => exact (RangeSet.foldl_add_spec t.result.ranges ih).1
  | remove past t ih => exact (RangeSet.remove_spec ih t).1
  | removeSet past t ih _ => exact (RangeSet.foldl_remove_spec t.result.ranges ih).1
  | intersect past t ih => exact (RangeSet.intersect_spec ih t).1
  | intersectSet past t ih ihOther => exact (RangeSet.intersectSet_spec ih ihOther).1
  | clear past ih => exact spacedRanges_nil

/-- After every operation each range is nonempty, and ends before the next one starts. -/
theorem ranges_in_order (history : RangeSetHistory n) :
    (∀ range ∈ history.result.ranges, range.start < range.stop) ∧
      history.result.ranges.IsChain fun range next => range.stop < next.start :=
  ⟨history.spaced.nonempty, history.spaced.gaps.isChain⟩

/-- Both overloads of each operation do to the values what they do to sets. -/
theorem operations_on_values (s other : RangeSetHistory n) (t : Range n) (x : BitVec n) :
    (Covered (s.result.add t).ranges x ↔ Covered s.result.ranges x ∨ t.Holds x) ∧
      (Covered (s.result.addSet other.result).ranges x ↔
        Covered s.result.ranges x ∨ Covered other.result.ranges x) ∧
      (Covered (s.result.remove t).ranges x ↔ Covered s.result.ranges x ∧ ¬ t.Holds x) ∧
      (Covered (s.result.removeSet other.result).ranges x ↔
        Covered s.result.ranges x ∧ ¬ Covered other.result.ranges x) ∧
      (Covered (s.result.intersect t).ranges x ↔ Covered s.result.ranges x ∧ t.Holds x) ∧
      (Covered (s.result.intersectSet other.result).ranges x ↔
        Covered s.result.ranges x ∧ Covered other.result.ranges x) := by
  have spaced := s.spaced
  refine ⟨(RangeSet.add_spec spaced t).2 x, ?_, (RangeSet.remove_spec spaced t).2 x, ?_,
    (RangeSet.intersect_spec spaced t).2 x, (RangeSet.intersectSet_spec spaced other.spaced).2 x⟩
  · exact (RangeSet.foldl_add_spec other.result.ranges spaced).2 x
  · exact (RangeSet.foldl_remove_spec other.result.ranges spaced).2 x

/-- The vectors are equal exactly if the sets have the same values; so it does not matter
in which order, how often or in which pieces ranges are added. -/
theorem equal_iff_same_values (first second : RangeSetHistory n) (pieces others : List (Range n)) :
    (first.result.equal second.result = true ↔
        ∀ x, Covered first.result.ranges x ↔ Covered second.result.ranges x) ∧
      ((pieces.foldl RangeSet.add first.result).equal (others.foldl RangeSet.add first.result) =
          true ↔
        ∀ x, Covered first.result.ranges x ∨ Covered pieces x ↔
          Covered first.result.ranges x ∨ Covered others x) := by
  obtain ⟨spaced, covers⟩ := RangeSet.foldl_add_spec pieces first.spaced
  obtain ⟨spacedOthers, coversOthers⟩ := RangeSet.foldl_add_spec others first.spaced
  refine ⟨RangeSet.equal_iff first.spaced second.spaced, ?_⟩
  rw [RangeSet.equal_iff spaced spacedOthers]
  simp only [covers, coversOthers]

/-- The queries answer for the set of values, and `size` counts it without wrapping. -/
theorem queries_on_values (s : RangeSetHistory n) :
    (∀ x, s.result.contains x = true ↔ Covered s.result.ranges x) ∧
      (∀ x range, s.result.getElementRange x = some range ↔
        range ∈ s.result.ranges ∧ range.Holds x) ∧
      (∀ t : Range n, t.start < t.stop →
        (s.result.containsRange t = true ↔ ∀ x, t.Holds x → Covered s.result.ranges x) ∧
          (s.result.overlaps t = true ↔ ∃ x, t.Holds x ∧ Covered s.result.ranges x)) ∧
      s.result.size.toNat = {x | Covered s.result.ranges x}.ncard ∧
      s.result.size.toNat = (s.result.ranges.map fun range => range.size.toNat).sum := by
  have spaced := s.spaced
  obtain ⟨sum, counted⟩ := RangeSet.toNat_size_eq spaced
  refine ⟨fun x => RangeSet.contains_iff spaced, fun x range => RangeSet.getElementRange_iff spaced,
    fun t nonempty => ?_, sum.trans counted, sum.trans (RangeSet.total_ends _)⟩
  exact ⟨RangeSet.containsRange_iff spaced nonempty, RangeSet.overlaps_iff spaced nonempty⟩

/-- Two pieces that touch are one range, which contains a range across the seam. -/
theorem queries_across_seam :
    (((RangeSetHistory.empty.add (Range.ofBounds 2#8 5#8)).add (Range.ofBounds 5#8 9#8)).result
      ).containsRange (Range.ofBounds 4#8 6#8) = true ↔
    ∀ x, (Range.ofBounds 4#8 6#8).Holds x → Covered ((RangeSetHistory.empty.add
      (Range.ofBounds 2#8 5#8)).add (Range.ofBounds 5#8 9#8)).result.ranges x :=
  ((queries_on_values ((RangeSetHistory.empty.add (Range.ofBounds 2#8 5#8)).add
    (Range.ofBounds 5#8 9#8))).2.2.1 (Range.ofBounds 4#8 6#8) (by decide)).1

end RangeSetHistory

end QbdiTracer
