import QbdiTracer.Library.Digits
import QbdiTracer.Machine

/-! The records of `trace/common.h`, the texts `fmt::format` makes of words, and
the journal of calls between the components. -/

namespace QbdiTracer

variable {arch : Arch}

/-- `module_range_t` and `trace_range_t`. -/
structure ModuleRange (arch : Arch) where
  base : Word arch
  stop : Word arch
  deriving DecidableEq

/-- The membership test the tracer and the dispatchers spell out in two comparisons. -/
theorem ModuleRange.closed_test_iff {range : ModuleRange arch} {address : Word arch} :
    (if address < range.base then false else if range.stop < address then false else true) = true ↔
      range.base ≤ address ∧ address ≤ range.stop := by
  by_cases below : address < range.base
  · simp [below, BitVec.not_le.mpr below]
  · by_cases above : range.stop < address
    · simp [above, BitVec.not_le.mpr above]
    · simp [below, above, BitVec.not_lt.mp below, BitVec.not_lt.mp above]

/-- `fun_data_type_t`. -/
inductive FunDataType where
  | kUnknown
  | kString
  | kVariadic
  | kPointer
  | kNumber
  | kVoid
  deriving DecidableEq, Repr

/-- `trace_vm_status_t`. -/
structure TraceVmStatus (arch : Arch) where
  gprState : GPRState arch := default
  fprState : FPRState := default

/-- `inst_fun_call_t`. -/
structure InstFunCall (arch : Arch) where
  funAddress : Word arch := 0
  memoryAllocAddress : Word arch := 0
  memoryAllocSize : Word arch := 0
  memoryFreeAddress : Word arch := 0
  retType : FunDataType := .kUnknown
  isSvc : Bool := false
  callModuleName : String := ""
  funName : String := ""
  retValue : String := ""
  args : List String := []
  deriving DecidableEq

/-- `inst_trace_info_t`. The heap object is identified by `seq`, the number of
the execution whose PRE callback allocated it. -/
structure InstTraceInfo (arch : Arch) where
  seq : Nat
  pc : Word arch
  preStatus : TraceVmStatus arch := {}
  postStatus : TraceVmStatus arch := {}
  funCall : Option (InstFunCall arch) := none
  instAnalysis : Option (InstAnalysis arch) := none

/-- `memory_info_t`. -/
structure MemoryInfo (arch : Arch) where
  memoryIndex : Nat
  start : Word arch
  stop : Word arch
  deriving DecidableEq

/-- `fmt::format("{:#x}", value)`, for the sizes and the counter the model keeps as
natural numbers. -/
def numberText (value : Nat) : String := "0x" ++ String.ofList (Nat.toDigits 16 value)

/-- `fmt::format("{:#x}", value)`. -/
def toHex {n : Nat} (value : BitVec n) : String := numberText value.toNat

/-- The width is not printed. -/
theorem toHex_inj {m n : Nat} {first : BitVec m} {second : BitVec n} :
    toHex first = toHex second ↔ first.toNat = second.toNat := by
  constructor
  · intro same
    have digits : Nat.toDigits 16 first.toNat = Nat.toDigits 16 second.toNat := by
      have texts := congrArg String.toList same
      simpa [toHex, numberText] using texts
    exact Digits.toDigits_injective (by decide) (by decide) digits
  · intro same
    rw [toHex, toHex, same]

theorem toHex_injective {n : Nat} {first second : BitVec n} (same : toHex first = toHex second) :
    first = second :=
  BitVec.eq_of_toNat_eq (toHex_inj.mp same)

/-- `fmt::format("{}", value)`. -/
def toDec {n : Nat} (value : BitVec n) : String :=
  String.ofList (Nat.toDigits 10 value.toNat)

/-- The ways the C++ code can leave its defined behaviour. -/
inductive Fault where
  /-- A null `cur_info` is dereferenced. -/
  | nullRecord
  /-- A null `inst_analysis` is dereferenced. -/
  | nullAnalysis
  /-- A null `memory_manager` is dereferenced. -/
  | nullMemoryManager
  /-- A null `info_manager` is dereferenced. -/
  | nullInfoManager
  deriving DecidableEq, Repr

inductive Dispatcher where
  | syscall
  | libc
  | libz
  | jniEnv
  deriving DecidableEq, Repr

/-- How a call's arguments or return value were processed: by the in-module
path, or by the dispatch list with the dispatcher that claimed the call. -/
inductive CallPath where
  | common
  | dispatched (handler : Option Dispatcher)
  deriving DecidableEq, Repr

/-- One entry of the journal. `record` is the `seq` of the record concerned and
`now` the execution whose POST callback makes the call. -/
inductive Event (arch : Arch) where
  /-- The instruction and its native callee have run. -/
  | executed (now : Nat)
  /-- `dispatch_fun_call_args` or `dispatch_fun_call_common_args`. -/
  | args (record now : Nat) (path : CallPath)
  /-- `dispatch_fun_call_return` or `dispatch_fun_call_common_return`, with the
  `x0`/`r0` of the register file it is given. -/
  | ret (record now : Nat) (path : CallPath) (value : Word arch)
  /-- `LoggerManager::write_trace_info`. -/
  | written (record now : Nat)
  /-- `remove_memory` dumps a block that the record's call released. -/
  | dumped (record now : Nat) (block : MemoryInfo arch)
  deriving DecidableEq

@[simp] def Event.writtenRecord? : Event arch → Option Nat
  | .written record _ => some record
  | _ => none

/-- The records handed to the logger, in order. -/
def writtenRecords (journal : List (Event arch)) : List Nat :=
  journal.filterMap Event.writtenRecord?

@[simp] theorem writtenRecords_nil : writtenRecords ([] : List (Event arch)) = [] := rfl

@[simp] theorem writtenRecords_cons (event : Event arch) (journal : List (Event arch)) :
    writtenRecords (event :: journal) = event.writtenRecord?.toList ++ writtenRecords journal := by
  cases event <;> rfl

@[simp] theorem writtenRecords_append (first second : List (Event arch)) :
    writtenRecords (first ++ second) = writtenRecords first ++ writtenRecords second :=
  List.filterMap_append

end QbdiTracer
