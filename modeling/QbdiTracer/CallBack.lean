import QbdiTracer.TracerManager

/-! `trace/instruction_call_back.cpp` and the two ways a trace is entered: `run`
and the attach callback `inst_at_enter`. -/

namespace QbdiTracer

open FlowRun

variable {arch : Arch}

/-- `QBDI::VMAction`: `next` is `CONTINUE`, `stop` is `STOP`. -/
abbrev VMAction := StepFlow

/-- `memcpy` of the register files into a saved status. -/
def TraceVmStatus.save (status : TraceVmStatus arch) (vm : VM arch) : TraceVmStatus arch :=
  { gprState := vm.gprState, fprState := vm.fprState.getD status.fprState }

namespace InstructionTracerManager

def preInstructionCall (execution : Execution arch) (tracer : InstructionTracerManager arch) :
    Except Fault (VMAction × InstructionTracerManager arch) :=
  if !tracer.isNeedRecord tracer.vm.gprState.pc then .ok (.next, tracer)
  else
    match tracer.infoManager with
    | none => .ok (.stop, tracer)
    | some manager =>
      let pc := tracer.vm.gprState.pc
      let allocated := manager.allocInstTraceInfo tracer.vm.clock pc
      -- the hook runs before the registers are saved, so the record holds its changes
      let hooked := tracer.traceCallbackPre pc
      let saved := allocated.modifyCurInfo fun info =>
        { info with preStatus := info.preStatus.save hooked.vm }
      let finished :=
        if execution.inst.isFunCall then
          (saved.allocFunCall tracer.vm.clock hooked.vm.gprState.pc).modifyCurInfo fun info =>
            { info with instAnalysis := some execution.inst }
        else saved
      .ok (.next, { hooked with infoManager := some finished })

/-- No record filter here; `cur_info` is dereferenced unchecked. -/
def preSvcInstructionCall (execution : Execution arch) (tracer : InstructionTracerManager arch) :
    Except Fault (VMAction × InstructionTracerManager arch) :=
  match tracer.infoManager with
  | none => .ok (.stop, tracer)
  | some manager =>
    match manager.curInfo with
    | none => .error .nullRecord
    | some info =>
      if info.funCall.isSome then .ok (.next, tracer)
      else
        let attached := manager.allocFunCall tracer.vm.clock tracer.vm.gprState.pc
        let marked := attached.modifyCurInfo fun info =>
          { info with
            instAnalysis := some execution.inst
            funCall := info.funCall.map fun call => { call with isSvc := true } }
        .ok (.next, { tracer with infoManager := some marked })

/-- The arguments of the current record's call, when it has one. -/
def dispatchCurrent (process : Process arch) (tracer : InstructionTracerManager arch)
    (manager : InstructionInfoManager arch) (info : InstTraceInfo arch) :
    InstructionInfoManager arch :=
  match info.funCall with
  | none => manager
  | some call =>
    let pc := tracer.vm.gprState.pc
    if tracer.isAddressInModuleRange pc && !call.isSvc then
      manager.dispatchFunCallCommonArgs tracer.vm.clock pc info call
    else manager.dispatchFunCallArgs process tracer.vm.clock pc info call

/-- The return of the previous record's call, when it has one, and its line. -/
def finishPrevious (process : Process arch) (tracer : InstructionTracerManager arch)
    (manager : InstructionInfoManager arch) : Except Fault (InstructionInfoManager arch) :=
  match manager.preInfo with
  | none => .ok manager
  | some prev =>
    match prev.funCall with
    | none => .ok manager
    | some call =>
      let returned :=
        if tracer.isAddressInModuleRange prev.postStatus.gprState.pc && !call.isSvc then
          manager.dispatchFunCallCommonReturn tracer.vm.clock tracer.vm.gprState prev call
        else
          manager.dispatchFunCallReturn process tracer.vm.clock tracer.vm.gprState prev call
      match prev.instAnalysis with
      | none => .error .nullAnalysis
      | some inst => returned.writeTraceInfo process tracer.vm.clock inst []

/-- The line of the current record, at once when it carries no call. -/
def writeCurrent (execution : Execution arch) (tracer : InstructionTracerManager arch)
    (manager : InstructionInfoManager arch) (info : InstTraceInfo arch) :
    Except Fault (InstructionInfoManager arch) :=
  if info.funCall.isSome then .ok manager
  else
    manager.writeTraceInfo execution.process tracer.vm.clock execution.inst
      (execution.memoryAccesses.filter fun access =>
        !tracer.isAddressInStackRange access.accessAddress)

def postInstructionCall (execution : Execution arch) (tracer : InstructionTracerManager arch) :
    Except Fault (VMAction × InstructionTracerManager arch) :=
  if !tracer.isNeedRecord execution.inst.address then .ok (.next, tracer)
  else
    match tracer.infoManager with
    | none => .ok (.stop, tracer)
    | some manager =>
      match manager.curInfo with
      | none => .ok (.stop, tracer)
      | some current =>
        if current.pc ≠ execution.inst.address then .ok (.stop, tracer)
        else do
          let hooked := tracer.traceCallbackPost current.pc
          let info := { current with postStatus := current.postStatus.save hooked.vm }
          let dispatched :=
            hooked.dispatchCurrent execution.process { manager with curInfo := some info } info
          let returned ← hooked.finishPrevious execution.process dispatched
          let written ← hooked.writeCurrent execution returned info
          return (.next, { hooked with infoManager := some written })

/-- A callback registered for the PRE position, on one instruction. -/
def firePre (execution : Execution arch) (tracer : InstructionTracerManager arch) :
    CallbackKind → Except Fault (VMAction × InstructionTracerManager arch)
  | .preInstruction => tracer.preInstructionCall execution
  | .preSvc => if execution.isSvc then tracer.preSvcInstructionCall execution else .ok (.next, tracer)
  | .postInstruction => .ok (.next, tracer)

def firePost (execution : Execution arch) (tracer : InstructionTracerManager arch) :
    CallbackKind → Except Fault (VMAction × InstructionTracerManager arch)
  | .postInstruction => tracer.postInstructionCall execution
  | _ => .ok (.next, tracer)

def loadPre (execution : Execution arch) (tracer : InstructionTracerManager arch) :
    InstructionTracerManager arch :=
  { tracer with
    vm := { tracer.vm with gprState := execution.preGpr, fprState := execution.preFpr } }

def loadPost (execution : Execution arch) (tracer : InstructionTracerManager arch) :
    InstructionTracerManager arch :=
  { tracer with
    vm := { tracer.vm with gprState := execution.postGpr, fprState := execution.postFpr } }

/-- Note that the instruction has run, at the point the callee runs natively. -/
def noteExecuted (execution : Execution arch) (point : NativePoint)
    (tracer : InstructionTracerManager arch) : InstructionTracerManager arch :=
  if execution.native = point then
    { tracer with infoManager := tracer.infoManager.map (·.note (.executed tracer.vm.clock)) }
  else tracer

def tick (tracer : InstructionTracerManager arch) : InstructionTracerManager arch :=
  { tracer with vm := { tracer.vm with clock := tracer.vm.clock + 1 } }

/-- The second half of one instruction: it runs, then the POST callbacks fire in
order of registration. -/
def complete (execution : Execution arch) (ready : InstructionTracerManager arch) :
    Except Fault (VMAction × InstructionTracerManager arch) :=
  let executed := (ready.noteExecuted execution .beforePost).loadPost execution
  match run (firePost execution) executed ready.vm.callbacks with
  | .error fault => .error fault
  | .ok (.stop, stopped) => .ok (.stop, stopped)
  | .ok (.next, finished) => .ok (.next, (finished.noteExecuted execution .afterPost).tick)

/-- One instruction under QBDI. -/
def execute (tracer : InstructionTracerManager arch) (execution : Execution arch) :
    Except Fault (VMAction × InstructionTracerManager arch) :=
  match run (firePre execution) (tracer.loadPre execution) tracer.vm.callbacks with
  | .error fault => .error fault
  | .ok (.stop, stopped) => .ok (.stop, stopped)
  | .ok (.next, ready) => ready.complete execution

/-- `vm->call` on a stream of executed instructions. -/
def vmCall (tracer : InstructionTracerManager arch) (executions : List (Execution arch)) :
    Except Fault (InstructionTracerManager arch) :=
  (run execute tracer executions).map Prod.snd

def register (tracer : InstructionTracerManager arch) (callbacks : List CallbackKind) :
    InstructionTracerManager arch :=
  { tracer with vm := { tracer.vm with callbacks := tracer.vm.callbacks ++ callbacks } }

/-- `info_manager->flush()` after the call has returned. -/
def flushInfo (process : Process arch) (tracer : InstructionTracerManager arch) :
    Except Fault (InstructionTracerManager arch) :=
  match tracer.infoManager with
  | none => .error .nullInfoManager
  | some manager => .ok { tracer with infoManager := some (manager.flush process) }

/-- `run()`; `process` is the process after the call. -/
def runTracer (process : Process arch) (tracer : InstructionTracerManager arch)
    (executions : List (Execution arch)) : Except Fault (InstructionTracerManager arch) := do
  let returned ← (tracer.register [.preInstruction, .postInstruction, .preSvc]).vmCall executions
  returned.flushInfo process

/-- `inst_at_enter` once the attach condition holds: no svc callback. -/
def instAtEnter (process : Process arch) (tracer : InstructionTracerManager arch)
    (executions : List (Execution arch)) : Except Fault (InstructionTracerManager arch) := do
  let returned ← (tracer.register [.preInstruction, .postInstruction]).vmCall executions
  returned.flushInfo process

end InstructionTracerManager

end QbdiTracer
