import QbdiTracer.Dispatch.Manager
import QbdiTracer.LoggerManager

/-! `trace/instruction_info_manager.cpp`: the two-slot window of records, the
calls it makes to the dispatchers, and the selection of the records to write.
The journal notes those calls in order. -/

namespace QbdiTracer

variable {arch : Arch}

structure InstructionInfoManager (arch : Arch) where
  moduleName : String := ""
  moduleRange : ModuleRange arch
  preInfo : Option (InstTraceInfo arch) := none
  curInfo : Option (InstTraceInfo arch) := none
  dispatchManager : InstructionDispatchManager arch
  logger : LoggerManager arch
  journal : List (Event arch) := []

namespace InstructionInfoManager

def note (manager : InstructionInfoManager arch) (event : Event arch) :
    InstructionInfoManager arch :=
  { manager with journal := manager.journal ++ [event] }

def flush (process : Process arch) (manager : InstructionInfoManager arch) :
    InstructionInfoManager arch :=
  { manager with logger := manager.logger.flush process }

/-- The first record fills `cur_info`; later ones push it into `pre_info`. -/
def allocInstTraceInfo (manager : InstructionInfoManager arch) (seq : Nat) (pc : Word arch) :
    InstructionInfoManager arch :=
  match manager.curInfo with
  | none => { manager with curInfo := some { seq, pc } }
  | some current => { manager with preInfo := some current, curInfo := some { seq, pc } }

def modifyCurInfo (manager : InstructionInfoManager arch)
    (change : InstTraceInfo arch → InstTraceInfo arch) : InstructionInfoManager arch :=
  { manager with curInfo := manager.curInfo.map change }

def attachFunCall (info : InstTraceInfo arch) : InstTraceInfo arch :=
  { info with funCall := some (info.funCall.getD {}) }

/-- A `pc` that differs from the record's is only reported, after the
`fun_call` has been attached. -/
def allocFunCall (manager : InstructionInfoManager arch) (seq : Nat) (pc : Word arch) :
    InstructionInfoManager arch :=
  let present :=
    if manager.curInfo.isNone then manager.allocInstTraceInfo seq pc else manager
  present.modifyCurInfo attachFunCall

/-- On `cur_info`, whose content is `info` with the call `call`. -/
def dispatchFunCallArgs (process : Process arch) (manager : InstructionInfoManager arch)
    (now : Nat) (pc : Word arch) (info : InstTraceInfo arch) (call : InstFunCall arch) :
    InstructionInfoManager arch :=
  let result := manager.dispatchManager.dispatchArgs process info { call with funAddress := pc }
  { manager with curInfo := some { info with funCall := some result.1 } }.note
    (.args info.seq now (.dispatched result.2))

def dispatchFunCallCommonArgs (manager : InstructionInfoManager arch) (now : Nat) (pc : Word arch)
    (info : InstTraceInfo arch) (call : InstFunCall arch) : InstructionInfoManager arch :=
  let named := { call with
    funAddress := pc
    callModuleName := manager.moduleName
    funName := toHex (pc - manager.moduleRange.base) }
  { manager with curInfo := some { info with funCall := some (addCommonRegValues info named) } }.note
    (.args info.seq now .common)

/-- On `pre_info`, whose content is `info` with the call `call`. -/
def dispatchFunCallReturn (process : Process arch) (manager : InstructionInfoManager arch)
    (now : Nat) (state : GPRState arch) (info : InstTraceInfo arch) (call : InstFunCall arch) :
    InstructionInfoManager arch :=
  let result := manager.dispatchManager.dispatchRet process info call state
  { manager with preInfo := some { info with funCall := some result.1 } }.note
    (.ret info.seq now (.dispatched result.2) (state.reg 0))

def dispatchFunCallCommonReturn (manager : InstructionInfoManager arch) (now : Nat)
    (state : GPRState arch) (info : InstTraceInfo arch) (call : InstFunCall arch) :
    InstructionInfoManager arch :=
  { manager with
    preInfo := some { info with funCall := some (addCommonReturnValue call state) } }.note
    (.ret info.seq now .common (state.reg 0))

/-- Hand one slot of the window to the logger if its `pc` is the address of the
analysis. -/
def writeSlot (process : Process arch) (now : Nat) (inst : InstAnalysis arch)
    (memoryAccesses : List (MemoryAccess arch)) (manager : InstructionInfoManager arch)
    (slot : Option (InstTraceInfo arch)) : Except Fault (InstructionInfoManager arch) :=
  match slot with
  | none => .ok manager
  | some info =>
    if info.pc = inst.address then do
      let (logger, block) ← manager.logger.writeTraceInfo process info inst memoryAccesses
      let dumped := (block.map (Event.dumped info.seq now)).toList
      return { manager with
        logger := logger
        journal := manager.journal ++ dumped ++ [.written info.seq now] }
    else .ok manager

/-- Both slots are compared with the same address. -/
def writeTraceInfo (process : Process arch) (now : Nat) (manager : InstructionInfoManager arch)
    (inst : InstAnalysis arch) (memoryAccesses : List (MemoryAccess arch)) :
    Except Fault (InstructionInfoManager arch) := do
  let written ← manager.writeSlot process now inst memoryAccesses manager.preInfo
  written.writeSlot process now inst memoryAccesses written.curInfo

end InstructionInfoManager

end QbdiTracer
