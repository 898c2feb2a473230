import QbdiTracer.Core.Range
import QbdiTracer.Library.LowerBound

/-! `stl::RangeSet` of `core/range.h`. The vector is edited in place around the position
that `std::lower_bound` finds; here what stands before the position is `take`n over. -/

namespace QbdiTracer

open LowerBound

variable {n : Nat}

structure RangeSet (n : Nat) where
  ranges : List (Range n) := []

namespace RangeSet

def size (set : RangeSet n) : BitVec n :=
  set.ranges.foldl (fun sum r => sum + r.size) 0

/-- The position of the first range that ends behind the value. -/
def endsBehind (set : RangeSet n) (value : BitVec n) : Nat :=
  lowerBound (fun r => decide (r.stop ≤ value)) set.ranges

/-- `none` is `nullptr`. -/
def getElementRange (set : RangeSet n) (t : BitVec n) : Option (Range n) :=
  match set.ranges[set.endsBehind t]? with
  | none => none
  | some lower => if !lower.contains t then none else some lower

def contains (set : RangeSet n) (t : BitVec n) : Bool := (set.getElementRange t).isSome

def containsRange (set : RangeSet n) (t : Range n) : Bool :=
  if t.stop ≤ t.start then true
  else
    match set.ranges[set.endsBehind t.start]? with
    | none => false
    | some lower => lower.containsRange t

def overlaps (set : RangeSet n) (t : Range n) : Bool :=
  if t.stop ≤ t.start then true
  else
    match set.ranges[set.endsBehind t.start]? with
    | none => false
    | some lower => lower.overlaps t

/-- `add` extends the start and the end of `lower` to those of `t`. -/
def extend (lower t : Range n) : Range n :=
  let lower := if t.start < lower.start then lower.setStart t.start else lower
  if lower.stop < t.stop then lower.setEnd t.stop else lower

/-- The loop of `add` over the ranges behind `lower`: `lower` grows over those that it
reaches, and the others are left. -/
def absorb (lower : Range n) : List (Range n) → Range n × List (Range n)
  | [] => (lower, [])
  | next :: rest =>
    if lower.stop < next.start then (lower, next :: rest)
    else absorb (if lower.stop < next.stop then lower.setEnd next.stop else lower) rest

/-- `add(t)` of a range. -/
def add (set : RangeSet n) (t : Range n) : RangeSet n :=
  if t.stop ≤ t.start then set
  else
    let position := lowerBound (fun r => decide (r.stop < t.start)) set.ranges
    match set.ranges.drop position with
    | [] => ⟨set.ranges ++ [t]⟩
    | lower :: rest =>
      if t.stop < lower.start then ⟨set.ranges.take position ++ t :: lower :: rest⟩
      else
        let (lower, rest) := absorb (extend lower t) rest
        ⟨set.ranges.take position ++ lower :: rest⟩

/-- `add(t)` of another set. -/
def addSet (set t : RangeSet n) : RangeSet n := t.ranges.foldl add set

/-- The last loop of `remove`: ranges inside `t` go, and one that reaches out of it is
cut. -/
def eraseInside (t : Range n) : List (Range n) → List (Range n)
  | [] => []
  | lower :: rest =>
    if t.stop ≤ lower.start then lower :: rest
    else if t.stop < lower.stop then lower.setStart t.stop :: rest
    else eraseInside t rest

/-- `remove(t)` of a range. -/
def remove (set : RangeSet n) (t : Range n) : RangeSet n :=
  if t.stop ≤ t.start then set
  else
    let position := set.endsBehind t.start
    match set.ranges.drop position with
    | [] => set
    | lower :: rest =>
      if t.stop ≤ lower.start then set
      else if lower.start < t.start then
        if t.stop < lower.stop then
          ⟨set.ranges.take position ++
            .ofBounds lower.start t.start :: lower.setStart t.stop :: rest⟩
        else ⟨set.ranges.take position ++ lower.setEnd t.start :: eraseInside t rest⟩
      else ⟨set.ranges.take position ++ eraseInside t (lower :: rest)⟩

/-- `remove(t)` of another set. -/
def removeSet (set t : RangeSet n) : RangeSet n := t.ranges.foldl remove set

/-- What two ranges have in common is added. -/
def addCommon (intersected : RangeSet n) (range other : Range n) : RangeSet n :=
  if range.overlaps other then intersected.add (range.intersect other) else intersected

/-- The loop of `intersect(t)` of another set. -/
def intersectSetLoop : List (Range n) → List (Range n) → RangeSet n → RangeSet n
  | itThis :: this, itOther :: other, intersected =>
    if itThis.stop < itOther.stop then
      intersectSetLoop this (itOther :: other) (addCommon intersected itThis itOther)
    else if itThis.stop == itOther.stop then
      intersectSetLoop this other (addCommon intersected itThis itOther)
    else intersectSetLoop (itThis :: this) other (addCommon intersected itThis itOther)
  | _, _, intersected => intersected
termination_by this other => this.length + other.length

/-- `intersect(t)` of another set. -/
def intersectSet (set t : RangeSet n) : RangeSet n := intersectSetLoop set.ranges t.ranges {}

/-- The loop of `intersect(t)` of a range. -/
def intersectLoop (t : Range n) : List (Range n) → RangeSet n → RangeSet n
  | [], intersected => intersected
  | lower :: rest, intersected =>
    if t.overlaps lower then intersectLoop t rest (intersected.add (t.intersect lower))
    else intersected

def clear (_ : RangeSet n) : RangeSet n := {}

/-- `intersect(t)` of a range. -/
def intersect (set : RangeSet n) (t : Range n) : RangeSet n :=
  match set.ranges.drop (set.endsBehind t.start) with
  | [] => set.clear
  | lower :: rest => intersectLoop t (lower :: rest) {}

/-- `operator==`. -/
def equal (set r : RangeSet n) : Bool :=
  if set.ranges.length ≠ r.ranges.length then false
  else (set.ranges.zip r.ranges).all fun pair => pair.1.equal pair.2

end RangeSet

end QbdiTracer
