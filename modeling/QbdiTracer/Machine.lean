import Mathlib.Data.Nat.Notation

/-! The machine a trace is taken from: the words and register files of the two
builds (`__arm__` and `__aarch64__`), what QBDI reports about one instruction,
and the process image the tracer reads through raw pointers. -/

namespace QbdiTracer

inductive Arch where
  | arm
  | aarch64
  deriving DecidableEq, Repr

def Arch.wordBits : Arch → Nat
  | .arm => 32
  | .aarch64 => 64

/-- `sizeof(uintptr_t)`. -/
def Arch.wordBytes : Arch → Nat
  | .arm => 4
  | .aarch64 => 8

/-- `uintptr_t`, `size_t` and `QBDI::rword`. -/
abbrev Word (arch : Arch) := BitVec arch.wordBits

/-- `QBDI::REG_SP`. -/
def Arch.regSp : Arch → Nat
  | .arm => 13
  | .aarch64 => 31

/-- `QBDI::REG_PC`. -/
def Arch.regPc : Arch → Nat
  | .arm => 15
  | .aarch64 => 33

/-- `QBDI::GPRState` as `QBDI_GPR_GET` reads it: an array of words. Register 0
is both the first argument and the return value (`x0`/`r0`). -/
structure GPRState (arch : Arch) where
  reg : Nat → Word arch

namespace GPRState

variable {arch : Arch}

def pc (state : GPRState arch) : Word arch := state.reg arch.regPc

def sp (state : GPRState arch) : Word arch := state.reg arch.regSp

end GPRState

/-- `QBDI::FPRState`, kept as the bytes of the vector registers. -/
structure FPRState where
  vreg : Nat → BitVec 8

instance (arch : Arch) : Inhabited (GPRState arch) := ⟨⟨fun _ => 0⟩⟩

instance : Inhabited FPRState := ⟨⟨fun _ => 0⟩⟩

/-- The fields of `QBDI::InstAnalysis` the tracer decides on. -/
structure InstAnalysis (arch : Arch) where
  address : Word arch
  affectControlFlow : Bool := false
  isBranch : Bool := false
  isCall : Bool := false
  disassembly : String := ""
  deriving DecidableEq

/-- The test of `pre_instruction_call` that attaches a `fun_call`. -/
def InstAnalysis.isFunCall {arch : Arch} (inst : InstAnalysis arch) : Bool :=
  (inst.isBranch || inst.isCall) && inst.affectControlFlow

inductive MemoryAccessType where
  | read
  | write
  deriving DecidableEq, Repr

/-- `QBDI::MemoryAccess`. -/
structure MemoryAccess (arch : Arch) where
  accessAddress : Word arch
  value : Word arch
  size : Nat
  type : MemoryAccessType
  deriving DecidableEq

/-- One row of `QBDI::getCurrentProcessMaps`. -/
structure MapRange (arch : Arch) where
  start : Word arch
  stop : Word arch
  deriving DecidableEq

/-- What the tracer can read of its own process at one moment. -/
structure Process (arch : Arch) where
  memory : Word arch → BitVec 8
  /-- The NUL-terminated text at an address. -/
  cString : Word arch → String
  maps : List (MapRange arch)
  /-- The chunks `malloc_iterate` reports for `(base, size)`, in order; `none`
  when no such symbol was found in libc. -/
  mallocIterate : Option (Word arch → Word arch → List (Word arch × Word arch))
  /-- `get_jni_class_or_java_class_name` on a class reference. -/
  jniClassName : Word arch → String

namespace Process

variable {arch : Arch}

/-- `*reinterpret_cast<uintptr_t *>(address)`, little endian. -/
def readWord (process : Process arch) (address : Word arch) : Word arch :=
  BitVec.ofNat _ ((List.range arch.wordBytes).foldr
    (fun i high => (process.memory (address + BitVec.ofNat _ i)).toNat + 256 * high) 0)

/-- The `len` bytes at `address`, as a dump reads them. -/
def readBytes (process : Process arch) (address len : Word arch) : List (BitVec 8) :=
  (List.range len.toNat).map fun i => process.memory (address + BitVec.ofNat _ i)

end Process

/-- When the native callee of an instruction runs: the kernel side of an svc
before the POST callback, an un-instrumented function after it. -/
inductive NativePoint where
  | beforePost
  | afterPost
  deriving DecidableEq, Repr

/-- One instruction executed under QBDI. The PRE state is the one delivered to
the callbacks, whose `pc` is the instruction's own address. -/
structure Execution (arch : Arch) where
  inst : InstAnalysis arch
  /-- The mnemonic filter `"svc"` of `addMnemonicCB` matches. -/
  isSvc : Bool := false
  preGpr : GPRState arch
  preFpr : Option FPRState := none
  postGpr : GPRState arch
  postFpr : Option FPRState := none
  /-- `vm->getInstMemoryAccess()` in the POST callback. -/
  memoryAccesses : List (MemoryAccess arch) := []
  native : NativePoint := .beforePost
  /-- The process as the POST callback finds it. -/
  process : Process arch
  pre_pc : preGpr.pc = inst.address

namespace Execution

variable {arch : Arch}

def pc (execution : Execution arch) : Word arch := execution.inst.address

/-- The instruction gets a `fun_call`, given whether the svc callback is
registered: its record is then written by the next recorded instruction. -/
def attachesFunCall (execution : Execution arch) (svcHook : Bool) : Bool :=
  execution.inst.isFunCall || (svcHook && execution.isSvc)

end Execution

end QbdiTracer
