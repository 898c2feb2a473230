import QbdiTracer.InitCalls
import QbdiTracer.Library.EventLog

/-! The record ranges over a history of `init`, `add_record_range` and
`add_record_range_size` calls: where they lie in the module, and what they record. -/

namespace QbdiTracer

open EventLog

variable {arch : Arch}

/-- The first range is in order and lies in the second. -/
structure ModuleRange.Within (inner outer : ModuleRange arch) : Prop where
  lower : outer.base ≤ inner.base
  ordered : inner.base ≤ inner.stop
  upper : inner.stop ≤ outer.stop

namespace InstructionTracerManager

variable {tracer : InstructionTracerManager arch} {range : ModuleRange arch}

/-- Every record range lies in the module. -/
def RangesWithin (tracer : InstructionTracerManager arch) : Prop :=
  ∀ range ∈ tracer.recordRanges, range.Within tracer.moduleRange

/-- Both ends of the range pass the module test. -/
def accepts (tracer : InstructionTracerManager arch) (range : ModuleRange arch) : Bool :=
  tracer.isAddressInModuleRange range.base && tracer.isAddressInModuleRange range.stop

theorem pushRecordRange_eq :
    tracer.pushRecordRange range =
      if tracer.accepts range = true then
        ({ tracer with recordRanges := tracer.recordRanges ++ [range] }, true)
      else (tracer, false) := by
  cases first : tracer.isAddressInModuleRange range.base <;>
    cases second : tracer.isAddressInModuleRange range.stop <;>
      simp [pushRecordRange, accepts, first, second]

/-- A range whose ends pass the module test is kept inside exactly when it is in order. -/
theorem pushRecordRange_within_iff (within : tracer.RangesWithin) :
    (tracer.pushRecordRange range).1.RangesWithin ↔
      (tracer.accepts range = true → range.base ≤ range.stop) := by
  rw [pushRecordRange_eq]
  by_cases accepted : tracer.accepts range = true
  · have ends : _ ∧ _ := Bool.and_eq_true_iff.mp accepted
    rw [isAddressInModuleRange_iff, isAddressInModuleRange_iff] at ends
    simp only [if_pos accepted, RangesWithin, List.mem_append, List.mem_singleton]
    constructor
    · intro all _
      exact (all range (.inr rfl)).ordered
    · rintro ordered other (old | rfl)
      · exact within other old
      · exact ⟨ends.1.1, ordered accepted, ends.2.2⟩
  · simp only [if_neg accepted]
    exact iff_of_true within fun passed => absurd passed accepted

/-- What is recorded once a range has been stored: its addresses, and what was recorded
before unless that was everything for want of a range. -/
theorem isNeedRecord_pushed {address : Word arch} (done : (tracer.pushRecordRange range).2 = true) :
    (tracer.pushRecordRange range).1.isNeedRecord address = true ↔
      (tracer.recordRanges ≠ [] ∧ tracer.isNeedRecord address = true) ∨
        range.base ≤ address ∧ address < range.stop := by
  rw [pushRecordRange_eq] at done ⊢
  by_cases accepted : tracer.accepts range = true
  · cases stored : tracer.recordRanges with
    | nil => simp [if_pos accepted, isNeedRecord, stored]
    | cons first rest => simp [if_pos accepted, isNeedRecord, stored, or_assoc]
  · simp only [if_neg accepted] at done
    cases done

end InstructionTracerManager

/-- A call that sets the module range or adds a record range. -/
inductive RangeCall (arch : Arch) where
  | init (call : InitCall arch)
  | addRecordRange (offset offsetEnd : Word arch)
  | addRecordRangeSize (offset size : Word arch)

namespace RangeCall

def apply (tracer : InstructionTracerManager arch) :
    RangeCall arch → InstructionTracerManager arch × Bool
  | .init call => call.apply tracer
  | .addRecordRange offset offsetEnd => tracer.addRecordRange offset offsetEnd
  | .addRecordRangeSize offset size => tracer.addRecordRangeSize offset size

/-- The tracer after a history of calls. -/
def applyAll (tracer : InstructionTracerManager arch) (history : List (RangeCall arch)) :
    InstructionTracerManager arch :=
  history.foldl (fun tracer call => (call.apply tracer).1) tracer

/-- The ends of the interval that a call asks for, without wrapping. -/
def requests (base : Word arch) : RangeCall arch → Option (Nat × Nat)
  | .init _ => none
  | .addRecordRange offset offsetEnd =>
    some (base.toNat + offset.toNat, base.toNat + offsetEnd.toNat)
  | .addRecordRangeSize offset size =>
    some (base.toNat + offset.toNat, base.toNat + offset.toNat + size.toNat)

/-- A call that returns true records the interval it asks for, besides what the ranges
before it record. -/
def RecordsRequest (start : InstructionTracerManager arch) (past : List (RangeCall arch))
    (call : RangeCall arch) : Prop :=
  ∀ lower upper, call.requests (applyAll start past).moduleRange.base = some (lower, upper) →
    (call.apply (applyAll start past)).2 = true → ∀ address,
      (call.apply (applyAll start past)).1.isNeedRecord address = true ↔
        ((applyAll start past).recordRanges ≠ [] ∧
            (applyAll start past).isNeedRecord address = true) ∨
          lower ≤ address.toNat ∧ address.toNat < upper

/-- The call keeps the record ranges inside the module: the ends of an accepted range are
in order without wrapping, and a new module range covers the ranges that are there. -/
def Keeps (tracer : InstructionTracerManager arch) : RangeCall arch → Prop
  | .init call => ∀ range ∈ call.assigns, ∀ stored ∈ tracer.recordRanges, stored.Within range
  | .addRecordRange offset offsetEnd =>
    tracer.isAddressInModuleRange (tracer.moduleRange.base + offset) = true →
      tracer.isAddressInModuleRange (tracer.moduleRange.base + offsetEnd) = true →
      offset ≤ offsetEnd
  | .addRecordRangeSize offset size =>
    tracer.isAddressInModuleRange (tracer.moduleRange.base + offset) = true →
      tracer.isAddressInModuleRange (tracer.moduleRange.base + offset + size) = true →
      tracer.moduleRange.base.toNat + offset.toNat + size.toNat < 2 ^ arch.wordBits

variable {tracer : InstructionTracerManager arch} {range : ModuleRange arch}

theorem le_add_iff {first second : Word arch} :
    first ≤ first + second ↔ first.toNat + second.toNat < 2 ^ arch.wordBits := by
  have small := first.isLt
  have bound := second.isLt
  rw [BitVec.le_def, BitVec.toNat_add]
  constructor
  · intro below
    by_contra wraps
    rw [Nat.mod_eq_sub_mod (by omega), Nat.mod_eq_of_lt (by omega)] at below
    omega
  · intro noWrap
    rw [Nat.mod_eq_of_lt noWrap]
    omega

theorem toNat_add_of_le {first second : Word arch} (noWrap : first ≤ first + second) :
    (first + second).toNat = first.toNat + second.toNat := by
  rw [BitVec.toNat_add, Nat.mod_eq_of_lt (le_add_iff.mp noWrap)]

/-- The range that a call would store. -/
def stores (base : Word arch) : RangeCall arch → Option (ModuleRange arch)
  | .init _ => none
  | .addRecordRange offset offsetEnd => some ⟨base + offset, base + offsetEnd⟩
  | .addRecordRangeSize offset size => some ⟨base + offset, base + offset + size⟩

theorem apply_stores {call : RangeCall arch}
    (stored : call.stores tracer.moduleRange.base = some range) :
    call.apply tracer = tracer.pushRecordRange range := by
  cases call with
  | init call => cases stored
  | addRecordRange offset offsetEnd =>
    cases stored
    rfl
  | addRecordRangeSize offset size =>
    cases stored
    rfl

theorem accepts_lower (accepted : tracer.accepts range = true) :
    tracer.moduleRange.base ≤ range.base ∧ tracer.moduleRange.base ≤ range.stop := by
  have ends : _ ∧ _ := Bool.and_eq_true_iff.mp accepted
  rw [InstructionTracerManager.isAddressInModuleRange_iff,
    InstructionTracerManager.isAddressInModuleRange_iff] at ends
  exact ⟨ends.1.1, ends.2.1⟩

/-- A range that is accepted begins where it was asked to; the ends are in order exactly
under the condition of `Keeps`. -/
theorem keeps_iff {call : RangeCall arch}
    (stored : call.stores tracer.moduleRange.base = some range) :
    call.Keeps tracer ↔ (tracer.accepts range = true → range.base ≤ range.stop) := by
  have accepted : tracer.accepts range = true → _ ∧ _ := accepts_lower
  rw [InstructionTracerManager.accepts, Bool.and_eq_true, and_imp] at accepted ⊢
  cases call with
  | init call => cases stored
  | addRecordRange offset offsetEnd =>
    cases stored
    apply imp_congr_right
    intro first
    apply imp_congr_right
    intro second
    obtain ⟨lower, upper⟩ := accepted first second
    rw [BitVec.le_def, BitVec.le_def, toNat_add_of_le lower, toNat_add_of_le upper]
    omega
  | addRecordRangeSize offset size =>
    cases stored
    apply imp_congr_right
    intro first
    apply imp_congr_right
    intro second
    obtain ⟨lower, -⟩ := accepted first second
    rw [le_add_iff, toNat_add_of_le lower]

/-- The range that was accepted is the interval that was asked for. -/
theorem requests_eq {call : RangeCall arch} {lower upper : Nat}
    (stored : call.stores tracer.moduleRange.base = some range)
    (accepted : tracer.accepts range = true) (ordered : range.base ≤ range.stop)
    (requested : call.requests tracer.moduleRange.base = some (lower, upper)) :
    lower = range.base.toNat ∧ upper = range.stop.toNat := by
  obtain ⟨first, second⟩ := accepts_lower accepted
  cases call with
  | init call => cases stored
  | addRecordRange offset offsetEnd =>
    cases stored
    cases requested
    exact ⟨(toNat_add_of_le first).symm, (toNat_add_of_le second).symm⟩
  | addRecordRangeSize offset size =>
    cases stored
    cases requested
    rw [toNat_add_of_le ordered, toNat_add_of_le first]
    exact ⟨rfl, rfl⟩

theorem init_within_iff {call : InitCall arch} (within : tracer.RangesWithin) :
    (call.apply tracer).1.RangesWithin ↔ (RangeCall.init call).Keeps tracer := by
  have outcome := call.apply_outcome tracer
  rw [InstructionTracerManager.RangesWithin, outcome.moduleRange, outcome.recordRanges, Keeps]
  cases assigned : call.assigns with
  | none => exact iff_of_true within (by rintro range ⟨⟩)
  | some range => simp

/-- One call keeps the record ranges inside the module exactly under `Keeps`. -/
theorem apply_within_iff (within : tracer.RangesWithin) (call : RangeCall arch) :
    (call.apply tracer).1.RangesWithin ↔ call.Keeps tracer := by
  cases stored : call.stores tracer.moduleRange.base with
  | none =>
    cases call with
    | init call => exact init_within_iff within
    | addRecordRange offset offsetEnd => cases stored
    | addRecordRangeSize offset size => cases stored
  | some range =>
    rw [apply_stores stored, keeps_iff stored]
    exact InstructionTracerManager.pushRecordRange_within_iff within

theorem apply_records {call : RangeCall arch} {lower upper : Nat} (keeps : call.Keeps tracer)
    (requested : call.requests tracer.moduleRange.base = some (lower, upper))
    (done : (call.apply tracer).2 = true) (address : Word arch) :
    (call.apply tracer).1.isNeedRecord address = true ↔
      (tracer.recordRanges ≠ [] ∧ tracer.isNeedRecord address = true) ∨
        lower ≤ address.toNat ∧ address.toNat < upper := by
  cases stored : call.stores tracer.moduleRange.base with
  | none =>
    cases call with
    | init call => cases requested
    | addRecordRange offset offsetEnd => cases stored
    | addRecordRangeSize offset size => cases stored
  | some range =>
    rw [apply_stores stored] at done ⊢
    have accepted : tracer.accepts range = true := by
      rw [InstructionTracerManager.pushRecordRange_eq] at done
      by_contra refused
      rw [if_neg refused] at done
      cases done
    obtain ⟨rfl, rfl⟩ :=
      requests_eq stored accepted ((keeps_iff stored).mp keeps accepted) requested
    exact InstructionTracerManager.isNeedRecord_pushed done

/-- The call keeps the record ranges inside the module, after the calls before it. -/
def KeepsAfter (past : List (RangeCall arch)) (call : RangeCall arch) : Prop :=
  call.Keeps (applyAll {} past)

theorem applyAll_nil_within : (applyAll {} ([] : List (RangeCall arch))).RangesWithin := by
  intro range stored
  cases stored

theorem applyAll_concat_within_iff (past : List (RangeCall arch)) (call : RangeCall arch)
    (within : (applyAll {} past).RangesWithin) :
    (applyAll {} (past ++ [call])).RangesWithin ↔ KeepsAfter past call := by
  rw [applyAll, List.foldl_append]
  exact apply_within_iff within call

/-- In every state of a history the record ranges lie in the module, and every call that
returns true records what it asks for, exactly when every call keeps them there. -/
theorem ranges_within_iff (history : List (RangeCall arch)) :
    ((∀ past, past <+: history → (applyAll {} past).RangesWithin) ∧
        Always (RecordsRequest {}) history) ↔
      Always KeepsAfter history := by
  have states := forall_prefix_iff applyAll_nil_within applyAll_concat_within_iff history
  constructor
  · intro both
    exact states.mp both.1
  · intro keeps
    refine ⟨states.mpr keeps, ?_⟩
    intro past call rest split lower upper requested done address
    exact apply_records (keeps past call rest split) requested done address

/-- Offsets in the wrong order, a size that wraps, and another module: each time a call
returns true and a record range is left out of order or outside the module. -/
theorem ranges_not_within :
    ¬ (applyAll {} [.init (.byOffset .target "libtarget.so" 0),
        .addRecordRange 0x20 0x10]).RangesWithin ∧
      ¬ (applyAll {} [.init (.byOffset .target "libtarget.so" 0),
        .addRecordRangeSize 0x20 (-0x10)]).RangesWithin ∧
      ¬ (applyAll {} [.init (.byOffset .target "libtarget.so" 0), .addRecordRange 0x10 0x20,
        .init (.byOffset .target "libother.so" 0)]).RangesWithin := by
  refine ⟨fun within => ?_, fun within => ?_, fun within => ?_⟩
  · have ordered := (within ⟨0x1020, 0x1010⟩ (by decide)).ordered
    revert ordered
    decide
  · have ordered := (within ⟨0x1020, 0x1010⟩ (by decide)).ordered
    revert ordered
    decide
  · have lower := (within ⟨0x1010, 0x1020⟩ (by decide)).lower
    revert lower
    decide

end RangeCall

end QbdiTracer
