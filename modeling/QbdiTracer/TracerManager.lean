import QbdiTracer.Core.Range
import QbdiTracer.InfoManager
import QbdiTracer.Library.FlowRun

/-! `trace/instruction_tracer_manager.cpp`: configuration, record filter, user
hooks, and the VM whose callback list outlives a run. -/

namespace QbdiTracer

variable {arch : Arch}

/-- The callbacks that do something; `on_fun_call` and
`on_memory_read_or_write` only return `CONTINUE`. -/
inductive CallbackKind where
  /-- `addCodeCB(PREINST, pre_instruction_call)`. -/
  | preInstruction
  /-- `addCodeCB(POSTINST, post_instruction_call)`. -/
  | postInstruction
  /-- `addMnemonicCB("svc", PREINST, pre_svc_instruction_call)`. -/
  | preSvc
  deriving DecidableEq, Repr

/-- `QBDI::VM`: the registered callbacks in order of registration, and the
register files handed to them. `clock` counts the executed instructions. -/
structure VM (arch : Arch) where
  callbacks : List CallbackKind := []
  gprState : GPRState arch := default
  fprState : Option FPRState := none
  clock : Nat := 0

/-- A user hook may change the register files it is given. -/
abbrev Hook (arch : Arch) := GPRState arch → Option FPRState → GPRState arch × Option FPRState

/-- A loaded library as `stl::Library` reports it. -/
structure LoadedLibrary (arch : Arch) where
  libraryName : String
  loadBias : Word arch
  librarySize : Word arch
  findSymbol : String → Word arch
  symbolByAddress : Word arch → String

def LoadedLibrary.getLibraryRange (library : LoadedLibrary arch) : Range arch.wordBits :=
  .ofBounds library.loadBias (library.loadBias + library.librarySize)

/-- What `init` asks of the process: the loaded libraries, the memory mapped for
the VM stack, and the singleton dispatchers. -/
structure Loader (arch : Arch) where
  findLibrary : String → Option (LoadedLibrary arch)
  findLibraryAt : Word arch → Option (LoadedLibrary arch)
  mmapStack : Word arch
  dispatchManager : InstructionDispatchManager arch

structure InstructionTracerManager (arch : Arch) where
  vm : VM arch := {}
  preHookCallbacks : BitVec 64 → Option (Hook arch) := fun _ => none
  postHookCallbacks : BitVec 64 → Option (Hook arch) := fun _ => none
  recordRanges : List (ModuleRange arch) := []
  targetTraceAddress : Word arch := 0
  moduleName : String := ""
  symbolName : String := ""
  moduleRange : ModuleRange arch := ⟨0, 0⟩
  infoManager : Option (InstructionInfoManager arch) := none
  /-- The file-level static `stack_base`. -/
  stackBase : Word arch := 0

namespace InstructionTracerManager

def isNeedRecord (tracer : InstructionTracerManager arch) (addr : Word arch) : Bool :=
  if tracer.recordRanges.isEmpty then true
  else tracer.recordRanges.any fun range => decide (range.base ≤ addr) && decide (addr < range.stop)

def isAddressInModuleRange (tracer : InstructionTracerManager arch) (addr : Word arch) : Bool :=
  if addr < tracer.moduleRange.base then false
  else if tracer.moduleRange.stop < addr then false
  else true

theorem isAddressInModuleRange_iff {tracer : InstructionTracerManager arch} {address : Word arch} :
    tracer.isAddressInModuleRange address = true ↔
      tracer.moduleRange.base ≤ address ∧ address ≤ tracer.moduleRange.stop :=
  ModuleRange.closed_test_iff

def isAddressInStackRange (tracer : InstructionTracerManager arch) (addr : Word arch) : Bool :=
  decide (tracer.stackBase ≤ addr) && decide (addr < tracer.stackBase + 0x1000000#_)

/-- The stored range when both ends pass the module test. -/
def pushRecordRange (tracer : InstructionTracerManager arch) (range : ModuleRange arch) :
    InstructionTracerManager arch × Bool :=
  if !tracer.isAddressInModuleRange range.base then (tracer, false)
  else if !tracer.isAddressInModuleRange range.stop then (tracer, false)
  else ({ tracer with recordRanges := tracer.recordRanges ++ [range] }, true)

def addRecordRangeSize (tracer : InstructionTracerManager arch) (offset size : Word arch) :
    InstructionTracerManager arch × Bool :=
  let base := tracer.moduleRange.base + offset
  tracer.pushRecordRange ⟨base, base + size⟩

def addRecordRange (tracer : InstructionTracerManager arch) (offset offsetEnd : Word arch) :
    InstructionTracerManager arch × Bool :=
  tracer.pushRecordRange ⟨tracer.moduleRange.base + offset, tracer.moduleRange.base + offsetEnd⟩

/-- `unordered_map::emplace`: a hook that is there stays. -/
def emplaceHook (hooks : BitVec 64 → Option (Hook arch)) (offset : BitVec 64) (hook : Hook arch) :
    BitVec 64 → Option (Hook arch) :=
  fun other => if other = offset then some ((hooks offset).getD hook) else hooks other

def addTraceCallbackPreHook (tracer : InstructionTracerManager arch) (offset : BitVec 64)
    (hook : Hook arch) : InstructionTracerManager arch :=
  { tracer with preHookCallbacks := emplaceHook tracer.preHookCallbacks offset hook }

def addTraceCallbackPostHook (tracer : InstructionTracerManager arch) (offset : BitVec 64)
    (hook : Hook arch) : InstructionTracerManager arch :=
  { tracer with postHookCallbacks := emplaceHook tracer.postHookCallbacks offset hook }

/-- Run the hook registered for an offset on the register files of the VM. -/
def runHook (hooks : BitVec 64 → Option (Hook arch)) (offset : BitVec 64) (vm : VM arch) : VM arch :=
  match hooks offset with
  | none => vm
  | some hook =>
    let (gprState, fprState) := hook vm.gprState vm.fprState
    { vm with gprState, fprState }

/-- `uint64_t pc = info->pc; pc - getModuleRange().base`. -/
def hookOffset (tracer : InstructionTracerManager arch) (pc : Word arch) : BitVec 64 :=
  pc.setWidth 64 - tracer.moduleRange.base.setWidth 64

def traceCallbackPre (tracer : InstructionTracerManager arch) (pc : Word arch) :
    InstructionTracerManager arch :=
  { tracer with vm := runHook tracer.preHookCallbacks (tracer.hookOffset pc) tracer.vm }

def traceCallbackPost (tracer : InstructionTracerManager arch) (pc : Word arch) :
    InstructionTracerManager arch :=
  { tracer with vm := runHook tracer.postHookCallbacks (tracer.hookOffset pc) tracer.vm }

/-- Points `sp` and the frame pointer at the top of the VM stack. -/
def setStackPointers (tracer : InstructionTracerManager arch) : InstructionTracerManager arch :=
  let top := tracer.stackBase + 0x1000000#_
  let frame := match arch with | .arm => 12 | .aarch64 => 29
  let gprState : GPRState arch :=
    ⟨fun i => if i = arch.regSp ∨ i = frame then top else tracer.vm.gprState.reg i⟩
  { tracer with vm := { tracer.vm with gprState } }

def allocFixStack (loader : Loader arch) (tracer : InstructionTracerManager arch) :
    InstructionTracerManager arch :=
  if tracer.stackBase ≠ 0 then tracer.setStackPointers
  else
    let mapped := { tracer with stackBase := loader.mmapStack }
    if mapped.stackBase = 0 then mapped else mapped.setStackPointers

/-- `std::make_unique<InstructionInfoManager>(name, module_range, vm)`. -/
def newInfoManager (loader : Loader arch) (tracer : InstructionTracerManager arch) (name : String) :
    InstructionTracerManager arch :=
  { tracer with
    infoManager := some {
      moduleName := name
      moduleRange := tracer.moduleRange
      dispatchManager := loader.dispatchManager
      logger := { moduleName := name, moduleRange := tracer.moduleRange } } }

/-- `init(name, symbol)`. The end of the range is stored as `start + end`. -/
def initSymbol (loader : Loader arch) (tracer : InstructionTracerManager arch)
    (name symbol : String) : InstructionTracerManager arch × Bool :=
  let tracer := allocFixStack loader { tracer with moduleName := name, symbolName := symbol }
  match loader.findLibrary name with
  | none => (tracer, false)
  | some library =>
    let address := library.findSymbol symbol
    if address = 0 then (tracer, false)
    else
      let range := library.getLibraryRange
      (newInfoManager loader { tracer with
        targetTraceAddress := address
        moduleRange := ⟨range.start, range.start + range.stop⟩ } name, true)

/-- `init(name, offset)`. -/
def initOffset (loader : Loader arch) (tracer : InstructionTracerManager arch) (name : String)
    (offset : Word arch) : InstructionTracerManager arch × Bool :=
  let tracer := allocFixStack loader { tracer with moduleName := name }
  match loader.findLibrary name with
  | none => (tracer, false)
  | some library =>
    let range := library.getLibraryRange
    let tracer := { tracer with moduleRange := ⟨range.start, range.stop⟩ }
    if range.size < offset then (tracer, false)
    else
      (newInfoManager loader { tracer with targetTraceAddress := range.start + offset } name, true)

/-- The last component of a path. -/
def basename (path : String) : String := ((path.splitOn "/").getLast?).getD path

/-- `init(address)`. -/
def initAddress (loader : Loader arch) (tracer : InstructionTracerManager arch)
    (address : Word arch) : InstructionTracerManager arch × Bool :=
  let tracer := allocFixStack loader { tracer with targetTraceAddress := address }
  match loader.findLibraryAt address with
  | none => (tracer, false)
  | some library =>
    let range := library.getLibraryRange
    let symbol := library.symbolByAddress address
    let name := basename library.libraryName
    let tracer := { tracer with
      moduleRange := ⟨range.start, range.stop⟩
      moduleName := name
      symbolName := if symbol = "" then tracer.symbolName else symbol }
    (newInfoManager loader tracer name, true)

end InstructionTracerManager

end QbdiTracer
