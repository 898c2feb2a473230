import QbdiTracer.StepSpec

/-! Which module an address is attributed to. The tests of the tracer and of the
dispatchers are closed at the end of a range, the one of the logger is half-open. -/

namespace QbdiTracer

variable {arch : Arch}

namespace ModuleRange

variable {range first second : ModuleRange arch} {address : Word arch}

/-- The half-open range `[base, stop)`. -/
def Holds (range : ModuleRange arch) (address : Word arch) : Prop :=
  range.base ≤ address ∧ address < range.stop

instance : Decidable (range.Holds address) := inferInstanceAs (Decidable (_ ∧ _))

/-- The first address past the range, unless its bounds are in the wrong order. -/
def EndsAt (range : ModuleRange arch) (address : Word arch) : Prop :=
  range.base ≤ range.stop ∧ address = range.stop

/-- A test that includes the end is the half-open one everywhere else. -/
theorem closed_iff_holds :
    (range.base ≤ address ∧ address ≤ range.stop ↔ range.Holds address) ↔
      ¬ range.EndsAt address := by
  simp only [Holds, EndsAt, ← BitVec.toNat_inj, BitVec.le_def, BitVec.lt_def]
  constructor
  · rintro same ⟨ordered, ends⟩
    have inside := (same.mp ⟨by omega, by omega⟩).2
    omega
  · intro other
    constructor
    · rintro ⟨above, below⟩
      exact ⟨above, by omega⟩
    · rintro ⟨above, below⟩
      exact ⟨above, by omega⟩

theorem not_holds_both (before : first.stop ≤ second.base) :
    ¬ (first.Holds address ∧ second.Holds address) := by
  simp only [Holds, BitVec.le_def, BitVec.lt_def] at before ⊢
  omega

end ModuleRange

/-- The modules a call is attributed to. -/
inductive TraceModule where
  | traced
  | libc
  | libz
  | jniEnv
  deriving DecidableEq, Repr

/-- How an ordinary call into the module is processed. -/
def TraceModule.path : TraceModule → CallPath
  | .traced => .common
  | .libc => .dispatched (some .libc)
  | .libz => .dispatched (some .libz)
  | .jniEnv => .dispatched (some .jniEnv)

namespace TraceModule

theorem path_inj {first second : TraceModule} : first.path = second.path ↔ first = second := by
  cases first <;> cases second <;> simp [path]

theorem path_ne_unclaimed (module : TraceModule) : module.path ≠ .dispatched none := by
  cases module <;> simp [path]

/-- The order in which the decision asks the modules. -/
def order : List TraceModule := [.traced, .libc, .libz, .jniEnv]

theorem mem_order (module : TraceModule) : module ∈ order := by
  cases module <;> simp [order]

variable (tracer : InstructionTracerManager arch) (manager : InstructionInfoManager arch)

def range : TraceModule → ModuleRange arch
  | .traced => tracer.moduleRange
  | .libc => manager.dispatchManager.libc.moduleRange
  | .libz => manager.dispatchManager.libz.moduleRange
  | .jniEnv => manager.dispatchManager.jniEnv.moduleRange

/-- The test of the attribution decision. -/
def tests (address : Word arch) : TraceModule → Bool
  | .traced => tracer.isAddressInModuleRange address
  | .libc => manager.dispatchManager.libc.isModuleAddress address
  | .libz => manager.dispatchManager.libz.isModuleAddress address
  | .jniEnv => manager.dispatchManager.jniEnv.isModuleAddress address

end TraceModule

/-- A tracer with its record manager whose four modules do not overlap; the logger
has the range of the traced module. -/
structure ModuleLayout (arch : Arch) where
  tracer : InstructionTracerManager arch
  manager : InstructionInfoManager arch
  logger_range : manager.logger.moduleRange = tracer.moduleRange
  disjoint : ∀ first second : TraceModule, first ≠ second → ∀ address,
    ¬ ((first.range tracer manager).Holds address ∧ (second.range tracer manager).Holds address)

namespace ModuleLayout

def range (layout : ModuleLayout arch) (module : TraceModule) : ModuleRange arch :=
  module.range layout.tracer layout.manager

/-- The journal once `post_instruction_call`, given the registers of `vm`, has
dispatched the arguments of the current record. -/
def argsJournal (layout : ModuleLayout arch) (process : Process arch) (vm : VM arch)
    (info : InstTraceInfo arch) : List (Event arch) :=
  (InstructionTracerManager.dispatchCurrent process { layout.tracer with vm }
    { layout.manager with curInfo := some info } info).journal

end ModuleLayout

/-- Every test and the attribution decide by the half-open ranges: the in-module
test, the tests of the dispatchers and of the logger, the module offset of an
accessed address, and the path of an ordinary call to the address. -/
structure AttributedByRange (layout : ModuleLayout arch) (address : Word arch) : Prop where
  tested : ∀ module : TraceModule,
    module.tests layout.tracer layout.manager address = true ↔ (layout.range module).Holds address
  logged : layout.manager.logger.isAddressInModuleRange address = true ↔
    (layout.range .traced).Holds address
  accessed : ∀ (process : Process arch) (access : MemoryAccess arch),
    access.accessAddress = address →
      ((∃ looked, layout.manager.logger.formatAccess process access =
        .ok (looked, ⟨access, .moduleOffset (address - layout.tracer.moduleRange.base)⟩)) ↔
        (layout.range .traced).Holds address)
  called : ∀ (process : Process arch) (vm : VM arch) (info : InstTraceInfo arch)
    (call : InstFunCall arch), vm.gprState.pc = address → info.funCall = some call →
      call.isSvc = false → ∀ module : TraceModule,
        (layout.argsJournal process vm info =
          layout.manager.journal ++ [.args info.seq vm.clock module.path] ↔
          (layout.range module).Holds address)

/-- The first element found is the only one there is. -/
theorem find?_eq_some_iff_of_unique {Item : Type} {claims : Item → Bool} {items : List Item}
    {item : Item} (member : item ∈ items)
    (alone : ∀ other, claims other = true → claims item = true → other = item) :
    items.find? claims = some item ↔ claims item = true := by
  constructor
  · exact List.find?_some
  · intro claimed
    cases found : items.find? claims with
    | none => exact absurd claimed (List.find?_eq_none.mp found item member)
    | some other => rw [alone other (List.find?_some found) claimed]

namespace ModuleLayout

variable {layout : ModuleLayout arch} {address : Word arch}

theorem tests_iff (module : TraceModule) :
    module.tests layout.tracer layout.manager address = true ↔
      (layout.range module).base ≤ address ∧ address ≤ (layout.range module).stop := by
  cases module with
  | traced => exact InstructionTracerManager.isAddressInModuleRange_iff
  | libc => exact DispatchBase.isModuleAddress_iff
  | libz => exact DispatchBase.isModuleAddress_iff
  | jniEnv => exact DispatchBase.isModuleAddress_iff

theorem logger_iff : layout.manager.logger.isAddressInModuleRange address = true ↔
    (layout.range .traced).Holds address := by
  rw [LoggerManager.isAddressInModuleRange, layout.logger_range, Bool.and_eq_true,
    decide_eq_true_eq, decide_eq_true_eq]
  rfl

theorem formatAccess_iff (process : Process arch) {access : MemoryAccess arch}
    (at_address : access.accessAddress = address) :
    (∃ looked, layout.manager.logger.formatAccess process access =
      .ok (looked, ⟨access, .moduleOffset (address - layout.tracer.moduleRange.base)⟩)) ↔
      (layout.range .traced).Holds address := by
  rw [← logger_iff, LoggerManager.formatAccess, at_address, layout.logger_range]
  cases layout.manager.logger.isAddressInModuleRange address with
  | true => simp
  | false => cases layout.manager.logger.memoryManager <;> simp

/-- The path taken depends on the four tests alone. -/
theorem argsJournal_eq (process : Process arch) {vm : VM arch} {info : InstTraceInfo arch}
    {call : InstFunCall arch} (attached : info.funCall = some call)
    (ordinary : call.isSvc = false) :
    layout.argsJournal process vm info = layout.manager.journal ++ [.args info.seq vm.clock
      (layout.tracer.callPath layout.manager false vm.gprState.pc vm.gprState.pc)] := by
  rw [argsJournal, InstructionTracerManager.dispatchCurrent_eq rfl]
  simp only [InstructionTracerManager.argsEvents, attached, ordinary]
  rfl

/-- The path is that of the first module whose test claims the target. -/
theorem callPath_eq (target : Word arch) :
    layout.tracer.callPath layout.manager false target target =
      ((TraceModule.order.find? fun module =>
        module.tests layout.tracer layout.manager target).map TraceModule.path).getD
          (.dispatched none) := by
  simp only [InstructionTracerManager.callPath, InstructionDispatchManager.claimant,
    TraceModule.order, TraceModule.tests, List.find?_cons, List.find?_nil]
  cases layout.tracer.isAddressInModuleRange target with
  | true => rfl
  | false =>
    cases layout.manager.dispatchManager.libc.isModuleAddress target with
    | true => rfl
    | false =>
      cases layout.manager.dispatchManager.libz.isModuleAddress target with
      | true => rfl
      | false => cases layout.manager.dispatchManager.jniEnv.isModuleAddress target <;> rfl

/-- Where the tests are half-open, the path is that of the module that holds the
target, since no other one does. -/
theorem callPath_iff (tested : ∀ module : TraceModule,
      module.tests layout.tracer layout.manager address = true ↔
        (layout.range module).Holds address) (module : TraceModule) :
    layout.tracer.callPath layout.manager false address address = module.path ↔
      (layout.range module).Holds address := by
  have alone : ∀ other : TraceModule, other.tests layout.tracer layout.manager address = true →
      module.tests layout.tracer layout.manager address = true → other = module := by
    intro other claimed claimed'
    by_contra differ
    exact layout.disjoint other module differ address
      ⟨(tested other).mp claimed, (tested module).mp claimed'⟩
  rw [callPath_eq, ← tested module, ← find?_eq_some_iff_of_unique module.mem_order alone]
  cases TraceModule.order.find? fun module =>
      module.tests layout.tracer layout.manager address with
  | none => simp [module.path_ne_unclaimed.symm]
  | some other => simp [TraceModule.path_inj]

/-- An address is attributed by the half-open ranges exactly when none of them
ends there. -/
theorem attributed_iff (layout : ModuleLayout arch) (address : Word arch) :
    AttributedByRange layout address ↔
      ∀ module : TraceModule, ¬ (layout.range module).EndsAt address := by
  constructor
  · intro right module
    rw [← ModuleRange.closed_iff_holds, ← tests_iff module]
    exact right.tested module
  · intro noEnd
    have tested : ∀ module : TraceModule,
        module.tests layout.tracer layout.manager address = true ↔
          (layout.range module).Holds address := fun module => by
      rw [tests_iff, ModuleRange.closed_iff_holds]
      exact noEnd module
    refine ⟨tested, logger_iff, fun process access => formatAccess_iff process, ?_⟩
    intro process vm info call target attached ordinary module
    rw [argsJournal_eq process attached ordinary, target, List.append_cancel_left_eq,
      ← callPath_iff tested module]
    simp

/-- The traced module, libc and libz one after the other, and libart further up. -/
def adjacent : ModuleLayout .aarch64 where
  tracer := { moduleRange := ⟨0x1000, 0x2000⟩ }
  manager := {
    moduleRange := ⟨0x1000, 0x2000⟩
    dispatchManager := {
      libc := ⟨⟨0x2000, 0x3000⟩, fun _ => none, fun _ => none⟩
      libz := ⟨⟨0x3000, 0x4000⟩, fun _ => none, fun _ => none⟩
      jniEnv := ⟨⟨0x6000, 0x7000⟩, fun _ => none, fun _ => none⟩
      syscallText := fun _ _ => ⟨"", [], .kUnknown⟩ }
    logger := { moduleRange := ⟨0x1000, 0x2000⟩ } }
  logger_range := rfl
  disjoint := by
    intro first second differ address
    cases first <;> cases second <;> first
      | exact absurd rfl differ
      | exact ModuleRange.not_holds_both (show _ ≤ _ by decide)
      | exact fun both => ModuleRange.not_holds_both (show _ ≤ _ by decide) both.symm

/-- The first address of libc: an ordinary call there takes the in-module path. -/
theorem adjacent_libc_in_module :
    (adjacent.range .libc).Holds 0x2000 ∧ ¬ (adjacent.range .traced).Holds 0x2000 ∧
      adjacent.tracer.isAddressInModuleRange 0x2000 = true ∧
      adjacent.manager.logger.isAddressInModuleRange 0x2000 = false ∧
      (∀ process vm info call, vm.gprState.pc = 0x2000 → info.funCall = some call →
        call.isSvc = false →
        adjacent.argsJournal process vm info = [.args info.seq vm.clock .common]) ∧
      ¬ AttributedByRange adjacent 0x2000 := by
  have inModule : adjacent.tracer.isAddressInModuleRange 0x2000 = true := by decide
  have outside : ¬ (adjacent.range .traced).Holds 0x2000 := by decide
  refine ⟨by decide, outside, inModule, by decide, ?_, fun right => ?_⟩
  · intro process vm info call target attached ordinary
    rw [argsJournal_eq process attached ordinary, target, InstructionTracerManager.callPath,
      inModule]
    rfl
  · exact outside ((right.tested .traced).mp inModule)

end ModuleLayout

end QbdiTracer
