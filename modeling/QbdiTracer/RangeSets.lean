import QbdiTracer.Core.RangeSet
import QbdiTracer.Library.SpacedIntervals

/-! The ranges of a `RangeSet` stay in order with a gap between any two, whatever the
operations, and each operation does to the values what its name says. -/

namespace QbdiTracer

open LowerBound

variable {n : Nat}

namespace Range

variable {range r : Range n} {x : BitVec n}

/-- The value lies in the range. -/
def Holds (range : Range n) (x : BitVec n) : Prop := range.start ≤ x ∧ x < range.stop

theorem contains_iff : range.contains x = true ↔ range.Holds x := by
  simp [contains, Holds]

theorem holds_iff_toNat :
    range.Holds x ↔ range.start.toNat ≤ x.toNat ∧ x.toNat < range.stop.toNat := Iff.rfl

theorem setStart_stop {start : BitVec n} (inside : start ≤ range.stop) :
    (range.setStart start).stop = range.stop := by
  exact if_neg (BitVec.not_lt.mpr inside)

theorem setEnd_start {stop : BitVec n} (inside : range.start ≤ stop) :
    (range.setEnd stop).start = range.start := by
  exact if_neg (BitVec.not_lt.mpr inside)

theorem holds_ofBounds {start stop : BitVec n} :
    (ofBounds start stop).Holds x ↔ start ≤ x ∧ x < stop := by
  unfold ofBounds
  split
  · rfl
  · rename_i order
    simp only [Holds, BitVec.lt_def, BitVec.le_def] at order ⊢
    omega

/-- A range that ends where another starts, or before, has nothing in common with it. -/
theorem not_holds_of_apart (apart : range.stop ≤ r.start) (holds : range.Holds x) :
    ¬ r.Holds x := by
  intro other
  exact absurd holds.2 (BitVec.not_lt.mpr (BitVec.le_trans apart other.1))

theorem overlaps_iff : range.overlaps r = true ↔ range.start < r.stop ∧ r.start < range.stop := by
  simp [overlaps]

theorem holds_intersect : (range.intersect r).Holds x ↔ range.Holds x ∧ r.Holds x := by
  rw [intersect, holds_ofBounds]
  simp only [Holds, BitVec.lt_def, BitVec.le_def]
  split <;> split <;> omega

end Range

/-- Nonempty ranges in order, which neither overlap nor touch. -/
structure SpacedRanges (ranges : List (Range n)) : Prop where
  nonempty : ∀ range ∈ ranges, range.start < range.stop
  gaps : ranges.Pairwise fun earlier later => earlier.stop < later.start

/-- One of the ranges holds the value. -/
def Covered (ranges : List (Range n)) (x : BitVec n) : Prop := ∃ range ∈ ranges, range.Holds x

section Lists

variable {low high ranges rest : List (Range n)} {range lower t : Range n} {x : BitVec n}

@[simp] theorem covered_nil : ¬ Covered ([] : List (Range n)) x := by
  rintro ⟨range, member, -⟩
  cases member

@[simp] theorem covered_cons : Covered (range :: rest) x ↔ range.Holds x ∨ Covered rest x := by
  simp [Covered]

@[simp] theorem covered_append : Covered (low ++ high) x ↔ Covered low x ∨ Covered high x := by
  simp only [Covered, List.mem_append, or_and_right, exists_or]

theorem spacedRanges_nil : SpacedRanges ([] : List (Range n)) := ⟨nofun, .nil⟩

theorem spacedRanges_cons : SpacedRanges (range :: rest) ↔
    range.start < range.stop ∧ (∀ later ∈ rest, range.stop < later.start) ∧ SpacedRanges rest := by
  constructor
  · rintro ⟨nonempty, gaps⟩
    rw [List.forall_mem_cons] at nonempty
    rw [List.pairwise_cons] at gaps
    exact ⟨nonempty.1, gaps.1, nonempty.2, gaps.2⟩
  · rintro ⟨own, gap, nonempty, gaps⟩
    exact ⟨List.forall_mem_cons.mpr ⟨own, nonempty⟩, List.pairwise_cons.mpr ⟨gap, gaps⟩⟩

theorem spacedRanges_append : SpacedRanges (low ++ high) ↔
    SpacedRanges low ∧ SpacedRanges high ∧
      ∀ earlier ∈ low, ∀ later ∈ high, earlier.stop < later.start := by
  constructor
  · rintro ⟨nonempty, gaps⟩
    rw [List.forall_mem_append] at nonempty
    rw [List.pairwise_append] at gaps
    exact ⟨⟨nonempty.1, gaps.1⟩, ⟨nonempty.2, gaps.2.1⟩, gaps.2.2⟩
  · rintro ⟨⟨first, early⟩, ⟨second, late⟩, gap⟩
    exact ⟨List.forall_mem_append.mpr ⟨first, second⟩, List.pairwise_append.mpr ⟨early, late, gap⟩⟩

theorem spacedRanges_singleton (nonempty : range.start < range.stop) : SpacedRanges [range] :=
  spacedRanges_cons.mpr ⟨nonempty, nofun, spacedRanges_nil⟩

/-- Ranges with a gap before the first of the others. -/
theorem SpacedRanges.join (spaced : SpacedRanges low) (others : SpacedRanges (range :: rest))
    (gap : ∀ earlier ∈ low, earlier.stop < range.start) : SpacedRanges (low ++ range :: rest) := by
  obtain ⟨own, behind, -⟩ := spacedRanges_cons.mp others
  refine spacedRanges_append.mpr ⟨spaced, others, fun earlier member => ?_⟩
  refine List.forall_mem_cons.mpr ⟨gap earlier member, fun later after => ?_⟩
  exact BitVec.lt_trans (BitVec.lt_trans (gap earlier member) own) (behind later after)

/-- The first range loses what lies before a value inside of it. -/
theorem SpacedRanges.setStart (spaced : SpacedRanges (lower :: rest)) {start : BitVec n}
    (inside : start < lower.stop) : SpacedRanges (lower.setStart start :: rest) := by
  obtain ⟨-, behind, restSpaced⟩ := spacedRanges_cons.mp spaced
  have stop := Range.setStart_stop (BitVec.le_of_lt inside)
  have begin : (lower.setStart start).start = start := rfl
  refine spacedRanges_cons.mpr ⟨?_, ?_, restSpaced⟩
  · rw [stop, begin]
    exact inside
  · rw [stop]
    exact behind

/-- The ends are in order too. -/
theorem SpacedRanges.ends (spaced : SpacedRanges ranges) :
    ranges.Pairwise fun earlier later => earlier.stop < later.stop := by
  refine spaced.gaps.imp_of_mem fun _ member gap => ?_
  have own := spaced.nonempty _ member
  simp only [BitVec.lt_def] at own gap ⊢
  omega

theorem SpacedRanges.endsBefore (spaced : SpacedRanges ranges) (value : BitVec n) :
    ∃ low high, ranges = low ++ high ∧
      lowerBound (fun r => decide (r.stop < value)) ranges = low.length ∧
      (∀ r ∈ low, r.stop < value) ∧ ∀ r ∈ high, value ≤ r.stop := by
  have sorted : ranges.Pairwise fun earlier later =>
      decide (later.stop < value) = true → decide (earlier.stop < value) = true := by
    refine spaced.ends.imp fun order => ?_
    simp only [decide_eq_true_eq, BitVec.lt_def] at order ⊢
    omega
  obtain ⟨low, high, rfl, parts⟩ := exists_parts sorted
  refine ⟨low, high, rfl, parts.lowerBound_eq, ?_, ?_⟩
  · exact fun r member => of_decide_eq_true (parts.low r member)
  · exact fun r member => BitVec.not_lt.mp (of_decide_eq_false (parts.high r member))

theorem SpacedRanges.endsBehind (spaced : SpacedRanges ranges) (value : BitVec n) :
    ∃ low high, ranges = low ++ high ∧
      lowerBound (fun r => decide (r.stop ≤ value)) ranges = low.length ∧
      (∀ r ∈ low, r.stop ≤ value) ∧ ∀ r ∈ high, value < r.stop := by
  have sorted : ranges.Pairwise fun earlier later =>
      decide (later.stop ≤ value) = true → decide (earlier.stop ≤ value) = true := by
    refine spaced.ends.imp fun order => ?_
    simp only [decide_eq_true_eq, BitVec.lt_def, BitVec.le_def] at order ⊢
    omega
  obtain ⟨low, high, rfl, parts⟩ := exists_parts sorted
  refine ⟨low, high, rfl, parts.lowerBound_eq, ?_, ?_⟩
  · exact fun r member => of_decide_eq_true (parts.low r member)
  · exact fun r member => BitVec.not_le.mp (of_decide_eq_false (parts.high r member))

end Lists

namespace RangeSet

section Ranges

variable {low ranges rest : List (Range n)} {lower t : Range n} {x : BitVec n}

/-- `lower` grows over a range that begins inside it or at its end. -/
theorem setEnd_reached {next : Range n} (nonempty : lower.start < lower.stop)
    (start : lower.start ≤ next.start) (reached : next.start ≤ lower.stop)
    (longer : lower.stop < next.stop) :
    (lower.setEnd next.stop).start = lower.start ∧
      ∀ x, (lower.setEnd next.stop).Holds x ↔ lower.Holds x ∨ next.Holds x := by
  have inside : lower.start ≤ next.stop := by
    simp only [BitVec.lt_def, BitVec.le_def] at nonempty longer ⊢
    omega
  have begin := Range.setEnd_start inside
  have stop : (lower.setEnd next.stop).stop = next.stop := rfl
  refine ⟨begin, fun x => ?_⟩
  simp only [Range.Holds, begin, stop]
  simp only [BitVec.lt_def, BitVec.le_def] at nonempty longer reached start ⊢
  omega

/-- `lower` after the loop body of `add` took in a range. -/
theorem exists_grown {next : Range n} (nonempty : lower.start < lower.stop)
    (start : lower.start ≤ next.start) (reached : ¬ lower.stop < next.start) :
    ∃ grown, (if lower.stop < next.stop then lower.setEnd next.stop else lower) = grown ∧
      grown.start = lower.start ∧ grown.start < grown.stop ∧
      ∀ x, grown.Holds x ↔ lower.Holds x ∨ next.Holds x := by
  refine ⟨_, rfl, ?_⟩
  split
  · rename_i longer
    obtain ⟨begin, holds⟩ := setEnd_reached nonempty start (BitVec.not_lt.mp reached) longer
    refine ⟨begin, ?_, holds⟩
    rw [begin]
    exact BitVec.lt_trans nonempty longer
  · rename_i shorter
    refine ⟨rfl, nonempty, fun x => ?_⟩
    simp only [Range.Holds, BitVec.lt_def, BitVec.le_def] at nonempty shorter start ⊢
    omega

/-- `add` swallows the ranges that `lower` reaches. -/
theorem absorb_spec (spaced : SpacedRanges rest) (nonempty : lower.start < lower.stop)
    (starts : ∀ r ∈ rest, lower.start ≤ r.start) :
    (absorb lower rest).1.start = lower.start ∧
      SpacedRanges ((absorb lower rest).1 :: (absorb lower rest).2) ∧
      ∀ x, Covered ((absorb lower rest).1 :: (absorb lower rest).2) x ↔
        Covered (lower :: rest) x := by
  induction rest generalizing lower with
  | nil => exact ⟨rfl, spacedRanges_singleton nonempty, fun x => Iff.rfl⟩
  | cons next rest ih =>
    obtain ⟨own, gap, others⟩ := spacedRanges_cons.mp spaced
    obtain ⟨start, startsRest⟩ := List.forall_mem_cons.mp starts
    rw [absorb]
    split
    · rename_i apart
      refine ⟨rfl, spacedRanges_cons.mpr ⟨nonempty, ?_, spaced⟩, fun x => Iff.rfl⟩
      refine List.forall_mem_cons.mpr ⟨apart, fun later member => ?_⟩
      exact BitVec.lt_trans (BitVec.lt_trans apart own) (gap later member)
    · rename_i reached
      obtain ⟨grown, same, begin, order, holds⟩ := exists_grown nonempty start reached
      rw [same]
      obtain ⟨first, kept, covers⟩ := ih others order (begin ▸ startsRest)
      refine ⟨first.trans begin, kept, fun x => ?_⟩
      rw [covers, covered_cons, covered_cons, covered_cons, holds, or_assoc]

theorem extend_stop (above : t.start ≤ lower.stop) :
    (extend lower t).stop = if lower.stop < t.stop then t.stop else lower.stop := by
  have opened : (if t.start < lower.start then lower.setStart t.start else lower).stop =
      lower.stop := by
    split
    · exact Range.setStart_stop above
    · rfl
  simp only [extend, opened]
  split
  · rfl
  · exact opened

theorem extend_start (nonempty : t.start < t.stop) (below : lower.start ≤ t.stop) :
    (extend lower t).start = if t.start < lower.start then t.start else lower.start := by
  simp only [extend]
  split
  · have inside : (lower.setStart t.start).start ≤ t.stop := BitVec.le_of_lt nonempty
    split
    · exact Range.setEnd_start inside
    · rfl
  · split
    · exact Range.setEnd_start below
    · rfl

/-- Two ranges that overlap or touch are extended to one. -/
theorem extend_spec (own : lower.start < lower.stop) (nonempty : t.start < t.stop)
    (above : t.start ≤ lower.stop) (below : lower.start ≤ t.stop) :
    (extend lower t).start < (extend lower t).stop ∧
      ∀ x, (extend lower t).Holds x ↔ lower.Holds x ∨ t.Holds x := by
  have stop := extend_stop above
  have start := extend_start nonempty below
  simp only [Range.Holds, start, stop]
  simp only [BitVec.lt_def, BitVec.le_def] at own nonempty above below ⊢
  constructor
  · split <;> split <;> omega
  · intro x
    split <;> split <;> omega

theorem not_holds_of_empty (empty : t.stop ≤ t.start) (x : BitVec n) : ¬ t.Holds x := by
  simp only [Range.Holds, BitVec.lt_def, BitVec.le_def] at empty ⊢
  omega

/-- What `add` does to the vector, around the position it finds. -/
theorem add_spec {set : RangeSet n} (spaced : SpacedRanges set.ranges) (t : Range n) :
    SpacedRanges (set.add t).ranges ∧
      ∀ x, Covered (set.add t).ranges x ↔ Covered set.ranges x ∨ t.Holds x := by
  rw [add]
  split
  · rename_i empty
    exact ⟨spaced, fun x => (or_iff_left (not_holds_of_empty empty x)).symm⟩
  · rename_i nonempty
    rw [BitVec.not_le] at nonempty
    obtain ⟨low, high, parted, position, early, late⟩ := spaced.endsBefore t.start
    rw [parted] at position spaced
    obtain ⟨lowSpaced, highSpaced, gap⟩ := spacedRanges_append.mp spaced
    simp only [position, parted, List.drop_left, List.take_left]
    cases high with
    | nil =>
      rw [List.append_nil]
      refine ⟨lowSpaced.join (spacedRanges_singleton nonempty) early, fun x => ?_⟩
      simp
    | cons lower rest =>
      obtain ⟨own, behind, restSpaced⟩ := spacedRanges_cons.mp highSpaced
      have above : t.start ≤ lower.stop := late lower (.head _)
      simp only
      split
      · rename_i before
        have both : SpacedRanges ([t] ++ lower :: rest) :=
          (spacedRanges_singleton nonempty).join highSpaced (List.forall_mem_singleton.mpr before)
        refine ⟨lowSpaced.join both early, fun x => ?_⟩
        rw [covered_append, covered_append, covered_cons, or_left_comm, or_comm]
      · rename_i reached
        rw [BitVec.not_lt] at reached
        obtain ⟨order, holds⟩ := extend_spec own nonempty above reached
        have first : (extend lower t).start =
            if t.start < lower.start then t.start else lower.start :=
          extend_start nonempty reached
        have starts : ∀ r ∈ rest, (extend lower t).start ≤ r.start := by
          intro r member
          have later := behind r member
          rw [first]
          simp only [BitVec.lt_def, BitVec.le_def] at own later ⊢
          split <;> omega
        obtain ⟨begin, kept, covers⟩ := absorb_spec restSpaced order starts
        refine ⟨lowSpaced.join kept fun r member => ?_, fun x => ?_⟩
        · rw [begin, first]
          split
          · exact early r member
          · exact gap r member lower (.head _)
        · rw [covered_append, covers, covered_append, covered_cons, covered_cons, holds,
            or_right_comm, ← or_assoc]

/-- Ranges that end at the start of `t` or before are not in it. -/
theorem not_holds_of_low (early : ∀ r ∈ low, r.stop ≤ t.start) (covered : Covered low x) :
    ¬ t.Holds x := by
  obtain ⟨r, member, holds⟩ := covered
  exact Range.not_holds_of_apart (early r member) holds

/-- A range that does not end behind the first of the others has nothing in common with
the rest. -/
theorem not_holds_of_rest (spaced : SpacedRanges (lower :: rest)) (ends : t.stop ≤ lower.stop)
    (covered : Covered rest x) : ¬ t.Holds x := by
  obtain ⟨-, behind, -⟩ := spacedRanges_cons.mp spaced
  obtain ⟨r, member, holds⟩ := covered
  have apart := BitVec.le_trans ends (BitVec.le_of_lt (behind r member))
  exact fun own => Range.not_holds_of_apart apart own holds

/-- `t` ends before the ranges begin. -/
theorem not_holds_of_high (spaced : SpacedRanges (lower :: rest)) (before : t.stop ≤ lower.start)
    (covered : Covered (lower :: rest) x) : ¬ t.Holds x := by
  obtain ⟨own, -, -⟩ := spacedRanges_cons.mp spaced
  rcases covered_cons.mp covered with here | later
  · exact fun holds => Range.not_holds_of_apart before holds here
  · exact not_holds_of_rest spaced (BitVec.le_trans before (BitVec.le_of_lt own)) later

/-- The last loop of `remove`, on ranges that do not begin before `t`. -/
theorem eraseInside_spec (spaced : SpacedRanges ranges)
    (starts : ∀ r ∈ ranges, t.start ≤ r.start) :
    SpacedRanges (eraseInside t ranges) ∧ (∀ r ∈ eraseInside t ranges, t.stop ≤ r.start) ∧
      ∀ x, Covered (eraseInside t ranges) x ↔ Covered ranges x ∧ ¬ t.Holds x := by
  induction ranges with
  | nil => exact ⟨spaced, nofun, fun x => by simp [eraseInside]⟩
  | cons lower rest ih =>
    obtain ⟨own, behind, restSpaced⟩ := spacedRanges_cons.mp spaced
    obtain ⟨start, startsRest⟩ := List.forall_mem_cons.mp starts
    rw [eraseInside]
    split
    · rename_i after
      refine ⟨spaced, List.forall_mem_cons.mpr ⟨after, fun r member => ?_⟩, fun x => ?_⟩
      · exact BitVec.le_trans after
          (BitVec.le_of_lt (BitVec.lt_trans own (behind r member)))
      · exact (and_iff_left_of_imp (not_holds_of_high spaced after)).symm
    · rename_i before
      split
      · rename_i reaches
        have stop := Range.setStart_stop (BitVec.le_of_lt reaches)
        have first : (lower.setStart t.stop).start = t.stop := rfl
        refine ⟨spaced.setStart reaches, ?_, fun x => ?_⟩
        · refine List.forall_mem_cons.mpr ⟨BitVec.le_refl _, fun r member => ?_⟩
          exact BitVec.le_of_lt (BitVec.lt_trans reaches (behind r member))
        · have cut : (lower.setStart t.stop).Holds x ↔ lower.Holds x ∧ ¬ t.Holds x := by
            simp only [Range.Holds, first, stop]
            simp only [BitVec.lt_def, BitVec.le_def] at start before reaches ⊢
            omega
          rw [covered_cons, covered_cons, cut, or_and_right,
            and_iff_left_of_imp (not_holds_of_rest spaced (BitVec.le_of_lt reaches))]
      · rename_i inside
        obtain ⟨kept, after, covers⟩ := ih restSpaced startsRest
        refine ⟨kept, after, fun x => ?_⟩
        have gone : lower.Holds x → t.Holds x := by
          simp only [Range.Holds, BitVec.lt_def, BitVec.le_def] at start inside ⊢
          omega
        rw [covers, covered_cons, or_and_right]
        exact (or_iff_right fun held => held.2 (gone held.1)).symm

/-- `t` lies inside of `lower`, with extra at both ends. -/
theorem split_spec (spaced : SpacedRanges (lower :: rest)) (nonempty : t.start < t.stop)
    (outside : lower.start < t.start) (inside : t.stop < lower.stop) :
    SpacedRanges (.ofBounds lower.start t.start :: lower.setStart t.stop :: rest) ∧
      ∀ x, Covered (.ofBounds lower.start t.start :: lower.setStart t.stop :: rest) x ↔
        Covered (lower :: rest) x ∧ ¬ t.Holds x := by
  have stop := Range.setStart_stop (BitVec.le_of_lt inside)
  have start : (lower.setStart t.stop).start = t.stop := rfl
  have head : Range.ofBounds lower.start t.start =
      ⟨lower.start, t.start, BitVec.le_of_lt outside⟩ := dif_pos outside
  rw [head]
  refine ⟨(spacedRanges_singleton outside).join (spaced.setStart inside) ?_, fun x => ?_⟩
  · exact List.forall_mem_singleton.mpr nonempty
  · have cut : (lower.start ≤ x ∧ x < t.start) ∨ (lower.setStart t.stop).Holds x ↔
        lower.Holds x ∧ ¬ t.Holds x := by
      simp only [Range.Holds, start, stop]
      simp only [BitVec.lt_def, BitVec.le_def] at nonempty outside inside ⊢
      omega
    rw [covered_cons, covered_cons, covered_cons, ← or_assoc, Range.Holds, cut, or_and_right,
      and_iff_left_of_imp (not_holds_of_rest spaced (BitVec.le_of_lt inside))]

/-- `lower` begins before `t` and ends inside of it. -/
theorem cut_spec (spaced : SpacedRanges (lower :: rest)) (nonempty : t.start < t.stop)
    (above : t.start < lower.stop) (outside : lower.start < t.start)
    (ends : ¬ t.stop < lower.stop) :
    SpacedRanges (lower.setEnd t.start :: eraseInside t rest) ∧
      ∀ x, Covered (lower.setEnd t.start :: eraseInside t rest) x ↔
        Covered (lower :: rest) x ∧ ¬ t.Holds x := by
  obtain ⟨own, behind, restSpaced⟩ := spacedRanges_cons.mp spaced
  have start := Range.setEnd_start (BitVec.le_of_lt outside)
  have stop : (lower.setEnd t.start).stop = t.start := rfl
  obtain ⟨kept, after, covers⟩ := eraseInside_spec restSpaced fun r member =>
    BitVec.le_of_lt (BitVec.lt_trans above (behind r member))
  refine ⟨spacedRanges_cons.mpr ⟨?_, fun r member => ?_, kept⟩, fun x => ?_⟩
  · rw [start, stop]
    exact outside
  · exact Nat.lt_of_lt_of_le nonempty (after r member)
  · have cut : (lower.setEnd t.start).Holds x ↔ lower.Holds x ∧ ¬ t.Holds x := by
      simp only [Range.Holds, start, stop]
      simp only [BitVec.lt_def, BitVec.le_def] at nonempty above outside ends ⊢
      omega
    rw [covered_cons, covered_cons, cut, covers, or_and_right]

/-- What an edit of the ranges from the position on has to bring. -/
theorem edited_spec {high others : List (Range n)} {first : Range n} (lowSpaced : SpacedRanges low)
    (away : ∀ x, Covered low x → ¬ t.Holds x)
    (edit : SpacedRanges (first :: others) ∧
      ∀ x, Covered (first :: others) x ↔ Covered high x ∧ ¬ t.Holds x)
    (before : ∀ r ∈ low, r.stop < first.start) :
    SpacedRanges (low ++ first :: others) ∧
      ∀ x, Covered (low ++ first :: others) x ↔ Covered (low ++ high) x ∧ ¬ t.Holds x := by
  refine ⟨lowSpaced.join edit.1 before, fun x => ?_⟩
  rw [covered_append, covered_append, edit.2, or_and_right, and_iff_left_of_imp (away x)]

/-- The ranges from the position on begin in `t` or behind it. -/
theorem erased_spec (lowSpaced : SpacedRanges low) (spaced : SpacedRanges ranges)
    (nonempty : t.start < t.stop) (early : ∀ r ∈ low, r.stop ≤ t.start)
    (starts : ∀ r ∈ ranges, t.start ≤ r.start) :
    SpacedRanges (low ++ eraseInside t ranges) ∧
      ∀ x, Covered (low ++ eraseInside t ranges) x ↔ Covered (low ++ ranges) x ∧ ¬ t.Holds x := by
  obtain ⟨kept, after, covers⟩ := eraseInside_spec spaced starts
  have away : ∀ x, Covered low x → ¬ t.Holds x := fun x => not_holds_of_low early
  cases erased : eraseInside t ranges with
  | nil =>
    rw [erased] at covers
    refine ⟨by rwa [List.append_nil], fun x => ?_⟩
    rw [List.append_nil, covered_append, or_and_right, ← covers, or_iff_left covered_nil,
      and_iff_left_of_imp (away x)]
  | cons first others =>
    rw [erased] at kept after covers
    refine edited_spec lowSpaced away ⟨kept, covers⟩ fun r member => ?_
    exact Nat.lt_of_le_of_lt (early r member)
      (Nat.lt_of_lt_of_le nonempty (after first (.head _)))

/-- What `remove` does to the vector, around the position it finds. -/
theorem remove_spec {set : RangeSet n} (spaced : SpacedRanges set.ranges) (t : Range n) :
    SpacedRanges (set.remove t).ranges ∧
      ∀ x, Covered (set.remove t).ranges x ↔ Covered set.ranges x ∧ ¬ t.Holds x := by
  rw [remove]
  split
  · rename_i empty
    exact ⟨spaced, fun x => (and_iff_left (not_holds_of_empty empty x)).symm⟩
  · rename_i nonempty
    rw [BitVec.not_le] at nonempty
    obtain ⟨ranges⟩ := set
    obtain ⟨low, high, rfl, position, early, late⟩ := spaced.endsBehind t.start
    obtain ⟨lowSpaced, highSpaced, gap⟩ := spacedRanges_append.mp spaced
    have lowAway : ∀ x, Covered low x → ¬ t.Holds x := fun x => not_holds_of_low early
    simp only [RangeSet.endsBehind, position, List.drop_left, List.take_left]
    cases high with
    | nil =>
      refine ⟨spaced, fun x => (and_iff_left_of_imp ?_).symm⟩
      rw [List.append_nil]
      exact lowAway x
    | cons lower rest =>
      obtain ⟨own, behind, restSpaced⟩ := spacedRanges_cons.mp highSpaced
      have above : t.start < lower.stop := late lower (.head _)
      have gapOwn : ∀ r ∈ low, r.stop < lower.start := fun r member => gap r member lower (.head _)
      simp only
      split
      · rename_i before
        refine ⟨spaced, fun x => (and_iff_left_of_imp ?_).symm⟩
        rw [covered_append]
        exact Or.rec (lowAway x) (not_holds_of_high highSpaced before)
      · split
        · rename_i outside
          split
          · rename_i inside
            refine edited_spec lowSpaced lowAway
              (split_spec highSpaced nonempty outside inside) fun r member => ?_
            rw [Range.ofBounds, dif_pos outside]
            exact gapOwn r member
          · rename_i ends
            refine edited_spec lowSpaced lowAway
              (cut_spec highSpaced nonempty above outside ends) fun r member => ?_
            rw [Range.setEnd_start (BitVec.le_of_lt outside)]
            exact gapOwn r member
        · rename_i inside
          rw [BitVec.not_lt] at inside
          have starts : ∀ r ∈ lower :: rest, t.start ≤ r.start := by
            refine List.forall_mem_cons.mpr ⟨inside, fun r member => ?_⟩
            exact BitVec.le_trans inside (BitVec.le_of_lt (BitVec.lt_trans own (behind r member)))
          exact erased_spec lowSpaced highSpaced nonempty early starts

theorem foldl_add_spec (added : List (Range n)) {set : RangeSet n}
    (spaced : SpacedRanges set.ranges) :
    SpacedRanges (added.foldl add set).ranges ∧
      ∀ x, Covered (added.foldl add set).ranges x ↔ Covered set.ranges x ∨ Covered added x := by
  induction added generalizing set with
  | nil => exact ⟨spaced, fun x => by simp⟩
  | cons t added ih =>
    obtain ⟨kept, covers⟩ := add_spec spaced t
    obtain ⟨all, coversAll⟩ := ih kept
    refine ⟨all, fun x => ?_⟩
    rw [List.foldl_cons, coversAll, covers, covered_cons, or_assoc]

theorem foldl_remove_spec (removed : List (Range n)) {set : RangeSet n}
    (spaced : SpacedRanges set.ranges) :
    SpacedRanges (removed.foldl remove set).ranges ∧
      ∀ x, Covered (removed.foldl remove set).ranges x ↔
        Covered set.ranges x ∧ ¬ Covered removed x := by
  induction removed generalizing set with
  | nil => exact ⟨spaced, fun x => by simp⟩
  | cons t removed ih =>
    obtain ⟨kept, covers⟩ := remove_spec spaced t
    obtain ⟨all, coversAll⟩ := ih kept
    refine ⟨all, fun x => ?_⟩
    rw [List.foldl_cons, coversAll, covers, covered_cons, not_or, and_assoc]

/-- What two sets have in common, if the first range of the one ends no later than that of
the other. -/
theorem common_iff_left {this other : List (Range n)} {itThis itOther : Range n}
    (spaced : SpacedRanges (itOther :: other)) (ends : itThis.stop ≤ itOther.stop) :
    Covered (itThis :: this) x ∧ Covered (itOther :: other) x ↔
      (itThis.Holds x ∧ itOther.Holds x) ∨ (Covered this x ∧ Covered (itOther :: other) x) := by
  have first : itThis.Holds x ∧ Covered (itOther :: other) x ↔
      itThis.Holds x ∧ itOther.Holds x := by
    rw [covered_cons]
    exact and_congr_right fun holds =>
      or_iff_left fun covered => not_holds_of_rest spaced ends covered holds
  rw [@covered_cons n this, or_and_right, first]

theorem common_iff_right {this other : List (Range n)} {itThis itOther : Range n}
    (spaced : SpacedRanges (itThis :: this)) (ends : itOther.stop ≤ itThis.stop) :
    Covered (itThis :: this) x ∧ Covered (itOther :: other) x ↔
      (itThis.Holds x ∧ itOther.Holds x) ∨ (Covered (itThis :: this) x ∧ Covered other x) := by
  rw [and_comm, common_iff_left spaced ends, and_comm, @and_comm (Covered other x)]

theorem addCommon_spec {set : RangeSet n} (spaced : SpacedRanges set.ranges)
    (range r : Range n) :
    SpacedRanges (set.addCommon range r).ranges ∧
      ∀ x, Covered (set.addCommon range r).ranges x ↔
        Covered set.ranges x ∨ (range.Holds x ∧ r.Holds x) := by
  rw [addCommon]
  split
  · obtain ⟨kept, covers⟩ := add_spec spaced (range.intersect r)
    refine ⟨kept, fun x => ?_⟩
    rw [covers, Range.holds_intersect]
  · rename_i apart
    refine ⟨spaced, fun x => (or_iff_left ?_).symm⟩
    rw [Range.overlaps_iff] at apart
    simp only [Range.Holds, BitVec.lt_def, BitVec.le_def] at apart ⊢
    omega

/-- The two-pointer loop: what the ranges that are passed over have in common with the
other set has been added. -/
theorem intersectSetLoop_spec {this other : List (Range n)} {set : RangeSet n}
    (spacedThis : SpacedRanges this) (spacedOther : SpacedRanges other)
    (spaced : SpacedRanges set.ranges) :
    SpacedRanges (intersectSetLoop this other set).ranges ∧
      ∀ x, Covered (intersectSetLoop this other set).ranges x ↔
        Covered set.ranges x ∨ (Covered this x ∧ Covered other x) := by
  induction this, other, set using intersectSetLoop.induct with
  | case1 itThis this itOther other set shorter ih =>
    obtain ⟨kept, covers⟩ := addCommon_spec spaced itThis itOther
    obtain ⟨all, coversAll⟩ := ih (spacedRanges_cons.mp spacedThis).2.2 spacedOther kept
    rw [intersectSetLoop, if_pos shorter]
    refine ⟨all, fun x => ?_⟩
    rw [coversAll, covers, or_assoc, common_iff_left spacedOther (BitVec.le_of_lt shorter)]
  | case2 itThis this itOther other set shorter same ih =>
    obtain ⟨kept, covers⟩ := addCommon_spec spaced itThis itOther
    obtain ⟨all, coversAll⟩ :=
      ih (spacedRanges_cons.mp spacedThis).2.2 (spacedRanges_cons.mp spacedOther).2.2 kept
    rw [intersectSetLoop, if_neg shorter, if_pos same]
    refine ⟨all, fun x => ?_⟩
    have ends := beq_iff_eq.mp same
    have behind : Covered this x ∧ Covered (itOther :: other) x ↔
        Covered this x ∧ Covered other x := by
      rw [covered_cons]
      exact and_congr_right fun covered =>
        or_iff_right (not_holds_of_rest spacedThis (BitVec.le_of_eq ends.symm) covered)
    rw [coversAll, covers, or_assoc, common_iff_left spacedOther (BitVec.le_of_eq ends), behind]
  | case3 itThis this itOther other set shorter differs ih =>
    obtain ⟨kept, covers⟩ := addCommon_spec spaced itThis itOther
    obtain ⟨all, coversAll⟩ := ih spacedThis (spacedRanges_cons.mp spacedOther).2.2 kept
    rw [intersectSetLoop, if_neg shorter, if_neg differs]
    refine ⟨all, fun x => ?_⟩
    rw [coversAll, covers, or_assoc, common_iff_right spacedThis (BitVec.not_lt.mp shorter)]
  | case4 this other set ended =>
    have nothing : ∀ x, ¬ (Covered this x ∧ Covered other x) := by
      rintro x ⟨⟨range, member, -⟩, ⟨r, memberOther, -⟩⟩
      cases this with
      | nil => cases member
      | cons itThis this =>
        cases other with
        | nil => cases memberOther
        | cons itOther other => exact ended itThis this itOther other rfl rfl
    have same : intersectSetLoop this other set = set := by
      rw [intersectSetLoop]
      exact ended
    rw [same]
    exact ⟨spaced, fun x => (or_iff_left (nothing x)).symm⟩

theorem intersectLoop_spec {set : RangeSet n} (spacedRanges : SpacedRanges ranges)
    (late : ∀ r ∈ ranges, t.start < r.stop) (spaced : SpacedRanges set.ranges) :
    SpacedRanges (intersectLoop t ranges set).ranges ∧
      ∀ x, Covered (intersectLoop t ranges set).ranges x ↔
        Covered set.ranges x ∨ (Covered ranges x ∧ t.Holds x) := by
  induction ranges generalizing set with
  | nil => exact ⟨spaced, fun x => by simp [intersectLoop]⟩
  | cons lower rest ih =>
    obtain ⟨own, lateRest⟩ := List.forall_mem_cons.mp late
    rw [intersectLoop]
    split
    · obtain ⟨kept, covers⟩ := add_spec spaced (t.intersect lower)
      obtain ⟨all, coversAll⟩ := ih (spacedRanges_cons.mp spacedRanges).2.2 lateRest kept
      refine ⟨all, fun x => ?_⟩
      rw [coversAll, covers, Range.holds_intersect, covered_cons, or_and_right, or_assoc,
        and_comm]
    · rename_i apart
      have before : t.stop ≤ lower.start := by
        rw [Range.overlaps_iff] at apart
        simp only [BitVec.lt_def, BitVec.le_def] at own apart ⊢
        omega
      refine ⟨spaced, fun x => (or_iff_left ?_).symm⟩
      rintro ⟨covered, holds⟩
      exact not_holds_of_high spacedRanges before covered holds

theorem intersect_spec {set : RangeSet n} (spaced : SpacedRanges set.ranges) (t : Range n) :
    SpacedRanges (set.intersect t).ranges ∧
      ∀ x, Covered (set.intersect t).ranges x ↔ Covered set.ranges x ∧ t.Holds x := by
  obtain ⟨ranges⟩ := set
  obtain ⟨low, high, rfl, position, early, late⟩ := spaced.endsBehind t.start
  obtain ⟨-, highSpaced, -⟩ := spacedRanges_append.mp spaced
  have lowAway : ∀ x, Covered low x → ¬ t.Holds x := fun x => not_holds_of_low early
  simp only [intersect, RangeSet.endsBehind, position, List.drop_left]
  cases high with
  | nil =>
    refine ⟨spacedRanges_nil, fun x => ?_⟩
    rw [List.append_nil]
    exact iff_of_false covered_nil fun held => lowAway x held.1 held.2
  | cons lower rest =>
    have none : SpacedRanges ({} : RangeSet n).ranges := spacedRanges_nil
    obtain ⟨kept, covers⟩ := intersectLoop_spec highSpaced late none
    refine ⟨kept, fun x => ?_⟩
    rw [covers, covered_append, or_and_right, or_iff_right covered_nil]
    exact (or_iff_right fun held => lowAway x held.1 held.2).symm

theorem intersectSet_spec {set t : RangeSet n} (spaced : SpacedRanges set.ranges)
    (spacedOther : SpacedRanges t.ranges) :
    SpacedRanges (set.intersectSet t).ranges ∧
      ∀ x, Covered (set.intersectSet t).ranges x ↔ Covered set.ranges x ∧ Covered t.ranges x := by
  have none : SpacedRanges ({} : RangeSet n).ranges := spacedRanges_nil
  obtain ⟨kept, covers⟩ := intersectSetLoop_spec spaced spacedOther none
  refine ⟨kept, fun x => ?_⟩
  rw [intersectSet, covers]
  simp

end Ranges

section Equality

open SpacedIntervals

/-- The ends of a range as numbers. -/
def ends (range : Range n) : Nat × Nat := (range.start.toNat, range.stop.toNat)

theorem ends_injective : Function.Injective (ends : Range n → Nat × Nat) := by
  rintro ⟨start, stop, ordered⟩ ⟨otherStart, otherStop, otherOrdered⟩ same
  obtain ⟨sameStart, sameStop⟩ := Prod.mk.inj same
  obtain rfl := BitVec.eq_of_toNat_eq sameStart
  obtain rfl := BitVec.eq_of_toNat_eq sameStop
  rfl

theorem spaced_ends {ranges : List (Range n)} (spaced : SpacedRanges ranges) :
    Spaced (ranges.map ends) where
  nonempty := List.forall_mem_map.mpr spaced.nonempty
  gaps := List.pairwise_map.mpr spaced.gaps

theorem covers_ends {ranges : List (Range n)} {point : Nat} :
    Covers (ranges.map ends) point ↔ ∃ x : BitVec n, x.toNat = point ∧ Covered ranges x := by
  constructor
  · rintro ⟨bounds, member, above, below⟩
    obtain ⟨range, present, rfl⟩ := List.mem_map.mp member
    have small : point < 2 ^ n := Nat.lt_trans below range.stop.isLt
    have same : (BitVec.ofNat n point).toNat = point := by
      rw [BitVec.toNat_ofNat, Nat.mod_eq_of_lt small]
    refine ⟨BitVec.ofNat n point, same, range, present, ?_⟩
    rw [Range.holds_iff_toNat, same]
    exact ⟨above, below⟩
  · rintro ⟨x, rfl, range, present, holds⟩
    exact ⟨ends range, List.mem_map_of_mem present, holds⟩

theorem range_equal_iff {range other : Range n} : range.equal other = true ↔ range = other := by
  rw [← ends_injective.eq_iff, Range.equal, Bool.and_eq_true, beq_iff_eq, beq_iff_eq, ends, ends,
    Prod.mk.injEq, BitVec.toNat_inj, BitVec.toNat_inj]
  exact and_congr eq_comm eq_comm

/-- The loop of `operator==`. -/
theorem zip_equal_iff {ranges others : List (Range n)} (length : ranges.length = others.length) :
    ((ranges.zip others).all fun pair => pair.1.equal pair.2) = true ↔ ranges = others := by
  induction ranges generalizing others with
  | nil =>
    rw [List.eq_nil_of_length_eq_zero length.symm]
    simp
  | cons range rest ih =>
    cases others with
    | nil => cases length
    | cons other others =>
      rw [List.zip_cons_cons, List.all_cons, Bool.and_eq_true, range_equal_iff,
        ih (Nat.succ.inj length), List.cons.injEq]

theorem equal_iff_ranges {set r : RangeSet n} : set.equal r = true ↔ set.ranges = r.ranges := by
  rw [equal]
  split
  · rename_i differ
    refine iff_of_false Bool.false_ne_true fun same => differ ?_
    rw [same]
  · rename_i length
    exact zip_equal_iff (not_not.mp length)

/-- Spaced vectors are equal exactly if they have the same values. -/
theorem equal_iff {set r : RangeSet n} (spaced : SpacedRanges set.ranges)
    (spacedOther : SpacedRanges r.ranges) :
    set.equal r = true ↔ ∀ x, Covered set.ranges x ↔ Covered r.ranges x := by
  rw [equal_iff_ranges]
  constructor
  · intro same x
    rw [same]
  · intro same
    refine ends_injective.list_map ?_
    refine (spaced_ends spaced).eq_of_covers_iff (spaced_ends spacedOther) fun point => ?_
    simp only [covers_ends, same]

end Equality

end RangeSet

end QbdiTracer
