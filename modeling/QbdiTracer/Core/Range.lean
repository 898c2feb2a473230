import Mathlib.Data.BitVec

/-! `stl::Range` of `core/range.h`: a half-open range of unsigned words. -/

namespace QbdiTracer

/-- The constructor and the setters keep `start ≤ end`. -/
structure Range (n : Nat) where
  start : BitVec n
  stop : BitVec n
  ordered : start ≤ stop

namespace Range

variable {n : Nat}

/-- `Range(start, end)`: bounds in the wrong order give an empty range. -/
def ofBounds (start stop : BitVec n) : Range n :=
  if order : start < stop then ⟨start, stop, BitVec.le_of_lt order⟩
  else ⟨start, start, BitVec.le_refl start⟩

def size (range : Range n) : BitVec n := range.stop - range.start

/-- `setStart`: an end before the new start moves along. -/
def setStart (range : Range n) (start : BitVec n) : Range n where
  start := start
  stop := if range.stop < start then start else range.stop
  ordered := by
    split
    · exact BitVec.le_refl start
    · rename_i above
      exact BitVec.not_lt.mp above

def setEnd (range : Range n) (stop : BitVec n) : Range n where
  start := if stop < range.start then stop else range.start
  stop := stop
  ordered := by
    split
    · exact BitVec.le_refl stop
    · rename_i above
      exact BitVec.not_lt.mp above

/-- `operator==`. -/
def equal (range other : Range n) : Bool :=
  other.start == range.start && other.stop == range.stop

/-- `contains(t)` of a value. -/
def contains (range : Range n) (t : BitVec n) : Bool :=
  decide (range.start ≤ t) && decide (t < range.stop)

/-- `contains(r)` of a range. -/
def containsRange (range r : Range n) : Bool :=
  decide (range.start ≤ r.start) && decide (r.stop ≤ range.stop)

def overlaps (range r : Range n) : Bool :=
  decide (range.start < r.stop) && decide (r.start < range.stop)

def intersect (range r : Range n) : Range n :=
  ofBounds (if r.start < range.start then range.start else r.start)
    (if range.stop < r.stop then range.stop else r.stop)

end Range

end QbdiTracer
