import QbdiTracer.CallBack
import QbdiTracer.Window

/-! What each callback does, said once: the record a PRE callback opens, the
call an svc callback attaches, and the lines a POST callback writes. -/

namespace QbdiTracer

open FlowRun

variable {arch : Arch}

/-- The record `pre_instruction_call` leaves in `cur_info`. -/
def openedInfo (execution : Execution arch) (seq : Nat) (pc : Word arch)
    (status : TraceVmStatus arch) : InstTraceInfo arch :=
  { seq, pc
    preStatus := status
    funCall := if execution.inst.isFunCall then some {} else none
    instAnalysis := if execution.inst.isFunCall then some execution.inst else none }

/-- The record after `pre_svc_instruction_call`. -/
def svcInfo (execution : Execution arch) (info : InstTraceInfo arch) : InstTraceInfo arch :=
  if info.funCall.isSome then info
  else { info with instAnalysis := some execution.inst, funCall := some { isSvc := true } }

/-- A line that is written has tracked its blocks and looked up its accesses. -/
theorem LoggerManager.writeTraceInfo_ok {process : Process arch}
    {logger after : LoggerManager arch} {info : InstTraceInfo arch} {inst : InstAnalysis arch}
    {accesses : List (MemoryAccess arch)} {block : Option (MemoryInfo arch)}
    (done : logger.writeTraceInfo process info inst accesses = .ok (after, block)) :
    (after = logger ∧ block = none) ∨
      ∃ tracked looked entries, logger.trackMemory process info = .ok (tracked, block) ∧
        tracked.formatAccessInfo process accesses = .ok (looked, entries) ∧
        after = { looked with lines := looked.lines ++ [⟨info, inst, entries⟩] } := by
  simp only [writeTraceInfo] at done
  split at done
  · obtain ⟨⟨tracked, dumped⟩, update, rest⟩ := bind_ok done
    obtain ⟨⟨looked, entries⟩, lookups, line⟩ := bind_ok rest
    cases line
    exact .inr ⟨tracked, looked, entries, update, lookups, rfl⟩
  · cases done
    exact .inl ⟨rfl, rfl⟩

namespace InstructionInfoManager

/-- What is written of a slot: nothing, or the line of its record. -/
theorem writeSlot_ok {process : Process arch} {now : Nat} {inst : InstAnalysis arch}
    {accesses : List (MemoryAccess arch)} {manager written : InstructionInfoManager arch}
    {slot : Option (InstTraceInfo arch)}
    (done : manager.writeSlot process now inst accesses slot = .ok written) :
    ((∀ info ∈ slot, info.pc ≠ inst.address) ∧ written = manager) ∨
      ∃ info logger block, slot = some info ∧ info.pc = inst.address ∧
        manager.logger.writeTraceInfo process info inst accesses = .ok (logger, block) ∧
        written = { manager with
          logger := logger
          journal := manager.journal ++ (block.map (Event.dumped info.seq now)).toList ++
            [.written info.seq now] } := by
  cases slot with
  | none =>
    cases done
    exact .inl ⟨by simp, rfl⟩
  | some info =>
    simp only [writeSlot] at done
    split at done
    · rename_i here
      obtain ⟨⟨logger, block⟩, line, rest⟩ := bind_ok done
      cases rest
      exact .inr ⟨info, logger, block, rfl, here, line, rfl⟩
    · rename_i elsewhere
      cases done
      exact .inl ⟨by simpa using elsewhere, rfl⟩

/-- A new record enters the window. -/
def opened (manager : InstructionInfoManager arch) (info : InstTraceInfo arch) :
    InstructionInfoManager arch :=
  { manager with
    preInfo := match manager.curInfo with
      | none => manager.preInfo
      | some current => some current
    curInfo := some info }

/-- `after` differs from `before` in the logger and the journal only, and its
journal gained these control events. -/
structure Logged (before after : InstructionInfoManager arch) (events : List (Event arch)) :
    Prop where
  frame : after = { before with logger := after.logger, journal := after.journal }
  log : control after.journal = control before.journal ++ events

theorem Logged.refl (manager : InstructionInfoManager arch) : Logged manager manager [] :=
  ⟨rfl, by simp⟩

theorem Logged.trans {first second third : InstructionInfoManager arch}
    {events later : List (Event arch)} (head : Logged first second events)
    (tail : Logged second third later) : Logged first third (events ++ later) where
  frame := by rw [tail.frame, head.frame]
  log := by rw [tail.log, head.log, List.append_assoc]

theorem Logged.preInfo {before after : InstructionInfoManager arch} {events : List (Event arch)}
    (logged : Logged before after events) : after.preInfo = before.preInfo := by
  rw [logged.frame]

theorem Logged.curInfo {before after : InstructionInfoManager arch} {events : List (Event arch)}
    (logged : Logged before after events) : after.curInfo = before.curInfo := by
  rw [logged.frame]

/-- The event of a slot offered for the line at `site`. -/
def slotWrites (site : Word arch) (now : Nat) (slot : Option (InstTraceInfo arch)) :
    List (Event arch) :=
  match slot with
  | none => []
  | some info => if info.pc = site then [.written info.seq now] else []

theorem writeSlot_logged {process : Process arch} {now : Nat} {inst : InstAnalysis arch}
    {memoryAccesses : List (MemoryAccess arch)} {manager written : InstructionInfoManager arch}
    {slot : Option (InstTraceInfo arch)}
    (done : manager.writeSlot process now inst memoryAccesses slot = .ok written) :
    Logged manager written (slotWrites inst.address now slot) := by
  rcases writeSlot_ok done with ⟨elsewhere, rfl⟩ | ⟨info, logger, block, rfl, here, -, rfl⟩
  · have nothing : slotWrites inst.address now slot = [] := by
      cases slot with
      | none => rfl
      | some info => exact if_neg (elsewhere info rfl)
    rw [nothing]
    exact Logged.refl written
  · refine ⟨rfl, ?_⟩
    cases block <;> simp [slotWrites, here, control, Event.isControl]

theorem writeTraceInfo_logged {process : Process arch} {now : Nat} {inst : InstAnalysis arch}
    {memoryAccesses : List (MemoryAccess arch)} {manager written : InstructionInfoManager arch}
    (done : manager.writeTraceInfo process now inst memoryAccesses = .ok written) :
    Logged manager written (slotWrites inst.address now manager.preInfo ++
      slotWrites inst.address now manager.curInfo) := by
  obtain ⟨middle, first, second⟩ := bind_ok done
  have head := writeSlot_logged first
  have tail := writeSlot_logged second
  rw [head.curInfo] at tail
  exact head.trans tail

end InstructionInfoManager

namespace InstructionTracerManager

theorem preInstructionCall_skips {execution : Execution arch}
    {tracer : InstructionTracerManager arch}
    (filtered : tracer.isNeedRecord tracer.vm.gprState.pc = false) :
    tracer.preInstructionCall execution = .ok (.next, tracer) := by
  simp [preInstructionCall, filtered]

theorem preInstructionCall_opens (execution : Execution arch)
    {tracer : InstructionTracerManager arch} {manager : InstructionInfoManager arch}
    (recorded : tracer.isNeedRecord tracer.vm.gprState.pc = true)
    (present : tracer.infoManager = some manager) :
    ∃ vm status, vm = (tracer.traceCallbackPre tracer.vm.gprState.pc).vm ∧
      tracer.preInstructionCall execution = .ok (.next, { tracer with
        vm := vm
        infoManager := some (manager.opened
          (openedInfo execution tracer.vm.clock tracer.vm.gprState.pc status)) }) := by
  refine ⟨_, ({} : TraceVmStatus arch).save
    (tracer.traceCallbackPre tracer.vm.gprState.pc).vm, rfl, ?_⟩
  cases current : manager.curInfo <;> cases call : execution.inst.isFunCall <;>
    simp [preInstructionCall, recorded, present, call, current, openedInfo,
      InstructionInfoManager.opened, InstructionInfoManager.allocInstTraceInfo,
      InstructionInfoManager.modifyCurInfo, InstructionInfoManager.allocFunCall,
      InstructionInfoManager.attachFunCall, traceCallbackPre]

theorem preSvcInstructionCall_attaches (execution : Execution arch)
    {tracer : InstructionTracerManager arch} {manager : InstructionInfoManager arch}
    {info : InstTraceInfo arch} (present : tracer.infoManager = some manager)
    (current : manager.curInfo = some info) :
    tracer.preSvcInstructionCall execution = .ok (.next, { tracer with
      infoManager := some { manager with curInfo := some (svcInfo execution info) } }) := by
  cases call : info.funCall with
  | none =>
    simp [preSvcInstructionCall, present, current, call, svcInfo,
      InstructionInfoManager.allocFunCall, InstructionInfoManager.modifyCurInfo,
      InstructionInfoManager.attachFunCall]
  | some attached =>
    have same : { manager with curInfo := some info } = manager := by rw [← current]
    simp [preSvcInstructionCall, present, current, call, svcInfo, same]
    rw [← present]

/-- What one PRE callback can do: nothing, open a record, or attach a call to the
current one. -/
inductive PreStep (execution : Execution arch) (tracer : InstructionTracerManager arch) :
    VMAction → InstructionTracerManager arch → Prop where
  | passes : PreStep execution tracer .next tracer
  | stops (absent : tracer.infoManager = none) : PreStep execution tracer .stop tracer
  | opens {manager : InstructionInfoManager arch} {vm : VM arch} (status : TraceVmStatus arch)
      (recorded : tracer.isNeedRecord tracer.vm.gprState.pc = true)
      (present : tracer.infoManager = some manager)
      (hooked : vm = (tracer.traceCallbackPre tracer.vm.gprState.pc).vm) :
      PreStep execution tracer .next { tracer with
        vm := vm
        infoManager := some (manager.opened
          (openedInfo execution tracer.vm.clock tracer.vm.gprState.pc status)) }
  | attaches {manager : InstructionInfoManager arch} {info : InstTraceInfo arch}
      (present : tracer.infoManager = some manager) (current : manager.curInfo = some info) :
      PreStep execution tracer .next { tracer with
        infoManager := some { manager with curInfo := some (svcInfo execution info) } }

section PreStep

variable {execution : Execution arch} {tracer after : InstructionTracerManager arch}
  {manager : InstructionInfoManager arch} {callback : CallbackKind} {flow : VMAction}

theorem preInstructionCall_step (done : tracer.preInstructionCall execution = .ok (flow, after)) :
    PreStep execution tracer flow after := by
  cases recorded : tracer.isNeedRecord tracer.vm.gprState.pc with
  | false =>
    rw [preInstructionCall_skips recorded] at done
    cases done
    exact .passes
  | true =>
    cases present : tracer.infoManager with
    | none =>
      simp only [preInstructionCall, recorded, present, Bool.not_true, Bool.false_eq_true,
        ↓reduceIte, Except.ok.injEq, Prod.mk.injEq] at done
      obtain ⟨rfl, rfl⟩ := done
      exact .stops present
    | some manager =>
      obtain ⟨vm, status, hooked, opens⟩ := preInstructionCall_opens execution recorded present
      rw [opens] at done
      cases done
      exact .opens status recorded present hooked

theorem preSvcInstructionCall_step
    (done : tracer.preSvcInstructionCall execution = .ok (flow, after)) :
    PreStep execution tracer flow after := by
  cases present : tracer.infoManager with
  | none =>
    simp only [preSvcInstructionCall, present, Except.ok.injEq, Prod.mk.injEq] at done
    obtain ⟨rfl, rfl⟩ := done
    exact .stops present
  | some manager =>
    cases current : manager.curInfo with
    | none => simp [preSvcInstructionCall, present, current] at done
    | some info =>
      rw [preSvcInstructionCall_attaches execution present current] at done
      cases done
      exact .attaches present current

theorem firePre_step (fired : firePre execution tracer callback = .ok (flow, after)) :
    PreStep execution tracer flow after := by
  cases callback with
  | preInstruction => exact preInstructionCall_step fired
  | preSvc =>
    simp only [firePre] at fired
    split at fired
    · exact preSvcInstructionCall_step fired
    · cases fired
      exact .passes
  | postInstruction =>
    cases fired
    exact .passes

/-- The PRE callbacks do not stop the run, and touch only the window. -/
theorem firePre_quiet {callbacks : List CallbackKind} (present : tracer.infoManager = some manager)
    (done : run (firePre execution) tracer callbacks = .ok (flow, after)) :
    flow = .next ∧ ∃ opened, after.infoManager = some opened ∧ opened.logger = manager.logger ∧
      opened.journal = manager.journal := by
  have step : ∀ (history : List CallbackKind) (before : InstructionTracerManager arch) callback flow
      next, (∃ opened, before.infoManager = some opened ∧ opened.logger = manager.logger ∧
        opened.journal = manager.journal) →
      firePre execution before callback = .ok (flow, next) →
      flow = .next ∧ ∃ opened, next.infoManager = some opened ∧ opened.logger = manager.logger ∧
        opened.journal = manager.journal := by
    rintro - before callback flow next ⟨middle, found, same⟩ fired
    cases firePre_step fired with
    | passes => exact ⟨rfl, middle, found, same⟩
    | stops absent => cases found.symm.trans absent
    | opens status recorded present hooked =>
      cases found.symm.trans present
      exact ⟨rfl, _, rfl, same⟩
    | attaches present current =>
      cases found.symm.trans present
      exact ⟨rfl, _, rfl, same⟩
  exact run_history step [] ⟨manager, present, rfl, rfl⟩ done

end PreStep

/-- The path of a call to `target`, as `post_instruction_call` chooses it. -/
def callPath (tracer : InstructionTracerManager arch) (manager : InstructionInfoManager arch)
    (isSvc : Bool) (inside target : Word arch) : CallPath :=
  if tracer.isAddressInModuleRange inside && !isSvc then .common
  else .dispatched (manager.dispatchManager.claimant isSvc target)

/-- The path the return of a record takes: the module test reads the saved POST
state, the dispatch list the saved target. -/
def returnPath (tracer : InstructionTracerManager arch) (manager : InstructionInfoManager arch)
    (info : InstTraceInfo arch) (call : InstFunCall arch) : CallPath :=
  tracer.callPath manager call.isSvc info.postStatus.gprState.pc call.funAddress

/-- The call of the current record once its arguments are dispatched. -/
def dispatchedCall (process : Process arch) (tracer : InstructionTracerManager arch)
    (manager : InstructionInfoManager arch) (info : InstTraceInfo arch) (call : InstFunCall arch) :
    InstFunCall arch :=
  if tracer.isAddressInModuleRange tracer.vm.gprState.pc && !call.isSvc then
    addCommonRegValues info { call with
      funAddress := tracer.vm.gprState.pc
      callModuleName := manager.moduleName
      funName := toHex (tracer.vm.gprState.pc - manager.moduleRange.base) }
  else (manager.dispatchManager.dispatchArgs process info
    { call with funAddress := tracer.vm.gprState.pc }).1

theorem dispatchedCall_key (process : Process arch) (tracer : InstructionTracerManager arch)
    (manager : InstructionInfoManager arch) (info : InstTraceInfo arch)
    (call : InstFunCall arch) :
    (tracer.dispatchedCall process manager info call).key =
      ⟨call.isSvc, tracer.vm.gprState.pc, call.memoryFreeAddress⟩ := by
  simp only [dispatchedCall]
  split
  · rfl
  · exact InstructionDispatchManager.dispatchArgs_key ..

@[simp] theorem dispatchedCall_isSvc (process : Process arch) (tracer : InstructionTracerManager arch)
    (manager : InstructionInfoManager arch) (info : InstTraceInfo arch) (call : InstFunCall arch) :
    (tracer.dispatchedCall process manager info call).isSvc = call.isSvc :=
  congrArg CallKey.isSvc (tracer.dispatchedCall_key process manager info call)

@[simp] theorem dispatchedCall_funAddress (process : Process arch)
    (tracer : InstructionTracerManager arch) (manager : InstructionInfoManager arch)
    (info : InstTraceInfo arch) (call : InstFunCall arch) :
    (tracer.dispatchedCall process manager info call).funAddress = tracer.vm.gprState.pc :=
  congrArg CallKey.funAddress (tracer.dispatchedCall_key process manager info call)

/-- The control event of the arguments pass. -/
def argsEvents (tracer : InstructionTracerManager arch) (manager : InstructionInfoManager arch)
    (info : InstTraceInfo arch) : List (Event arch) :=
  match info.funCall with
  | none => []
  | some call =>
    let pc := tracer.vm.gprState.pc
    [.args info.seq tracer.vm.clock (tracer.callPath manager call.isSvc pc pc)]

theorem control_argsEvents (tracer : InstructionTracerManager arch)
    (manager : InstructionInfoManager arch) (info : InstTraceInfo arch) :
    control (tracer.argsEvents manager info) = tracer.argsEvents manager info := by
  cases call : info.funCall <;> simp [argsEvents, call, control, Event.isControl]

theorem dispatchCurrent_eq {process : Process arch} {tracer : InstructionTracerManager arch}
    {manager : InstructionInfoManager arch} {info : InstTraceInfo arch}
    (current : manager.curInfo = some info) :
    tracer.dispatchCurrent process manager info =
      { manager with
        curInfo := some { info with
          funCall := info.funCall.map (tracer.dispatchedCall process manager info) }
        journal := manager.journal ++ tracer.argsEvents manager info } := by
  cases call : info.funCall with
  | none =>
    have same : { info with funCall := none } = info := by rw [← call]
    simp only [dispatchCurrent, argsEvents, call, Option.map_none, List.append_nil, same]
    rw [← current]
  | some attached =>
    simp only [dispatchCurrent, argsEvents, call, Option.map_some, dispatchedCall, callPath]
    split
    · rfl
    · simp only [InstructionInfoManager.dispatchFunCallArgs, InstructionInfoManager.note,
        InstructionDispatchManager.dispatchArgs_claimant]

/-- The call of the previous record once its return is dispatched. -/
def returnedCall (process : Process arch) (tracer : InstructionTracerManager arch)
    (manager : InstructionInfoManager arch) (info : InstTraceInfo arch) (call : InstFunCall arch) :
    InstFunCall arch :=
  if tracer.isAddressInModuleRange info.postStatus.gprState.pc && !call.isSvc then
    addCommonReturnValue call tracer.vm.gprState
  else (manager.dispatchManager.dispatchRet process info call tracer.vm.gprState).1

/-- The previous record after the POST callback of the next recorded one. -/
def returnedInfo (process : Process arch) (tracer : InstructionTracerManager arch)
    (manager : InstructionInfoManager arch) (info : InstTraceInfo arch) : InstTraceInfo arch :=
  { info with funCall := info.funCall.map (tracer.returnedCall process manager info) }

theorem slotWrites_returned {site : Word arch} {now : Nat} (process : Process arch)
    (tracer : InstructionTracerManager arch) (manager : InstructionInfoManager arch)
    (slot : Option (InstTraceInfo arch)) :
    InstructionInfoManager.slotWrites site now (slot.map (tracer.returnedInfo process manager)) =
      InstructionInfoManager.slotWrites site now slot := by
  cases slot <;> rfl

/-- The return pass over the previous record, by either path. -/
theorem dispatchReturn_logged (process : Process arch) (tracer : InstructionTracerManager arch)
    (manager : InstructionInfoManager arch) {prev : InstTraceInfo arch} {call : InstFunCall arch}
    (attached : prev.funCall = some call) :
    InstructionInfoManager.Logged
      { manager with preInfo := some (tracer.returnedInfo process manager prev) }
      (if tracer.isAddressInModuleRange prev.postStatus.gprState.pc && !call.isSvc then
        manager.dispatchFunCallCommonReturn tracer.vm.clock tracer.vm.gprState prev call
      else manager.dispatchFunCallReturn process tracer.vm.clock tracer.vm.gprState prev call)
      [.ret prev.seq tracer.vm.clock (tracer.returnPath manager prev call)
        (tracer.vm.gprState.reg 0)] := by
  simp only [returnPath, callPath, returnedInfo, attached, Option.map_some, returnedCall]
  split
  · refine ⟨rfl, ?_⟩
    simp [InstructionInfoManager.dispatchFunCallCommonReturn, InstructionInfoManager.note, control,
      Event.isControl]
  · refine ⟨rfl, ?_⟩
    simp [InstructionInfoManager.dispatchFunCallReturn, InstructionInfoManager.note, control,
      Event.isControl, InstructionDispatchManager.dispatchRet_claimant]

/-- The control events of the return pass: the return, then both slots offered
for the address of the previous record's analysis. -/
def returnEvents (tracer : InstructionTracerManager arch) (manager : InstructionInfoManager arch) :
    List (Event arch) :=
  match manager.preInfo with
  | none => []
  | some prev =>
    match prev.funCall, prev.instAnalysis with
    | some call, some inst =>
      .ret prev.seq tracer.vm.clock (tracer.returnPath manager prev call)
          (tracer.vm.gprState.reg 0) ::
        InstructionInfoManager.slotWrites inst.address tracer.vm.clock (some prev) ++
        InstructionInfoManager.slotWrites inst.address tracer.vm.clock manager.curInfo
    | _, _ => []

theorem finishPrevious_logged {process : Process arch} {tracer : InstructionTracerManager arch}
    {manager finished : InstructionInfoManager arch}
    (done : tracer.finishPrevious process manager = .ok finished) :
    InstructionInfoManager.Logged
      { manager with preInfo := manager.preInfo.map (tracer.returnedInfo process manager) }
      finished (tracer.returnEvents manager) := by
  cases prevInfo : manager.preInfo with
  | none =>
    simp only [finishPrevious, prevInfo, Except.ok.injEq] at done
    subst finished
    have same : { manager with preInfo := none } = manager := by rw [← prevInfo]
    simpa [returnEvents, prevInfo, same] using InstructionInfoManager.Logged.refl manager
  | some prev =>
    cases attached : prev.funCall with
    | none =>
      simp only [finishPrevious, prevInfo, attached, Except.ok.injEq] at done
      subst finished
      have same : { manager with preInfo := some prev } = manager := by rw [← prevInfo]
      have kept : tracer.returnedInfo process manager prev = prev := by
        simp only [returnedInfo, attached, Option.map_none]
        rw [← attached]
      simpa [returnEvents, prevInfo, attached, kept, same] using
        InstructionInfoManager.Logged.refl manager
    | some call =>
      cases analysis : prev.instAnalysis with
      | none => simp [finishPrevious, prevInfo, attached, analysis] at done
      | some inst =>
        simp only [finishPrevious, prevInfo, attached, analysis] at done
        have written := InstructionInfoManager.writeTraceInfo_logged done
        have event := dispatchReturn_logged process tracer manager attached
        rw [event.preInfo, event.curInfo] at written
        have all := event.trans written
        simpa [returnEvents, prevInfo, attached, analysis, returnedInfo,
          InstructionInfoManager.slotWrites] using all

/-- The control events of the current record's own line. -/
def ownWrites (execution : Execution arch) (tracer : InstructionTracerManager arch)
    (manager : InstructionInfoManager arch) (info : InstTraceInfo arch) : List (Event arch) :=
  if info.funCall.isSome then []
  else
    InstructionInfoManager.slotWrites execution.inst.address tracer.vm.clock manager.preInfo ++
      InstructionInfoManager.slotWrites execution.inst.address tracer.vm.clock manager.curInfo

theorem writeCurrent_logged {execution : Execution arch} {tracer : InstructionTracerManager arch}
    {manager written : InstructionInfoManager arch} {info : InstTraceInfo arch}
    (done : tracer.writeCurrent execution manager info = .ok written) :
    InstructionInfoManager.Logged manager written (tracer.ownWrites execution manager info) := by
  simp only [writeCurrent, ownWrites] at *
  split at done
  · rename_i attached
    simp only [Except.ok.injEq] at done
    simpa [attached, done] using InstructionInfoManager.Logged.refl manager
  · rename_i plain
    simpa [plain] using InstructionInfoManager.writeTraceInfo_logged done

/-- The current record with the POST registers saved. -/
def savedInfo (tracer : InstructionTracerManager arch) (info : InstTraceInfo arch) :
    InstTraceInfo arch :=
  { info with postStatus := info.postStatus.save tracer.vm }

/-- The current record after its own POST callback. -/
def postedInfo (process : Process arch) (tracer : InstructionTracerManager arch)
    (manager : InstructionInfoManager arch) (info : InstTraceInfo arch) : InstTraceInfo arch :=
  let saved := tracer.savedInfo info
  { saved with funCall := saved.funCall.map (tracer.dispatchedCall process
    { manager with curInfo := some saved } saved) }

/-- All control events of one POST callback, from the window before it. -/
def postEvents (execution : Execution arch) (tracer : InstructionTracerManager arch)
    (manager : InstructionInfoManager arch) (info : InstTraceInfo arch) : List (Event arch) :=
  tracer.argsEvents manager info ++ tracer.returnEvents { manager with curInfo := some info } ++
    tracer.ownWrites execution { manager with curInfo := some info } info

/-- The window after one POST callback, before its events are noted. -/
def postWindow (execution : Execution arch) (tracer : InstructionTracerManager arch)
    (manager : InstructionInfoManager arch) (info : InstTraceInfo arch) :
    InstructionInfoManager arch :=
  { manager with
    preInfo := manager.preInfo.map (tracer.returnedInfo execution.process manager)
    curInfo := some (tracer.postedInfo execution.process manager info) }

theorem postInstructionCall_skips {execution : Execution arch}
    {tracer : InstructionTracerManager arch}
    (filtered : tracer.isNeedRecord execution.inst.address = false) :
    tracer.postInstructionCall execution = .ok (.next, tracer) := by
  simp [postInstructionCall, filtered]

/-- What the POST callback can do: nothing, stop at a record that is not its own,
or the three passes over the window. -/
inductive PostStep (execution : Execution arch) (tracer : InstructionTracerManager arch) :
    VMAction → InstructionTracerManager arch → Prop where
  | skips (filtered : tracer.isNeedRecord execution.inst.address = false) :
      PostStep execution tracer .next tracer
  | stops (recorded : tracer.isNeedRecord execution.inst.address = true)
      (foreign : ∀ manager ∈ tracer.infoManager, ∀ info ∈ manager.curInfo,
        info.pc ≠ execution.inst.address) :
      PostStep execution tracer .stop tracer
  | posts {manager returned written : InstructionInfoManager arch} {info : InstTraceInfo arch}
      {hooked : InstructionTracerManager arch}
      (recorded : tracer.isNeedRecord execution.inst.address = true)
      (present : tracer.infoManager = some manager) (current : manager.curInfo = some info)
      (own : info.pc = execution.inst.address) (hook : hooked = tracer.traceCallbackPost info.pc)
      (returns : hooked.finishPrevious execution.process
        (hooked.dispatchCurrent execution.process
          { manager with curInfo := some (hooked.savedInfo info) } (hooked.savedInfo info)) =
        .ok returned)
      (writes : hooked.writeCurrent execution returned (hooked.savedInfo info) = .ok written) :
      PostStep execution tracer .next { hooked with infoManager := some written }

theorem postInstructionCall_step {execution : Execution arch}
    {tracer after : InstructionTracerManager arch} {flow : VMAction}
    (done : tracer.postInstructionCall execution = .ok (flow, after)) :
    PostStep execution tracer flow after := by
  cases recorded : tracer.isNeedRecord execution.inst.address with
  | false =>
    rw [postInstructionCall_skips recorded] at done
    cases done
    exact .skips recorded
  | true =>
    simp only [postInstructionCall, recorded, Bool.not_true, Bool.false_eq_true, ↓reduceIte] at done
    split at done
    · rename_i absent
      cases done
      exact .stops recorded (by simp [absent])
    · rename_i manager present
      split at done
      · rename_i empty
        cases done
        exact .stops recorded (by simp [present, empty])
      · rename_i info current
        split at done
        · rename_i foreign
          cases done
          exact .stops recorded (by simpa [present, current] using foreign)
        · rename_i own
          obtain ⟨returned, returns, rest⟩ := bind_ok done
          obtain ⟨written, writes, finished⟩ := bind_ok rest
          cases finished
          exact .posts recorded present current (not_not.mp own) rfl returns writes

/-- The control events of a POST callback on its own record. -/
theorem postPasses_logged {execution : Execution arch} {hooked : InstructionTracerManager arch}
    {manager returned written : InstructionInfoManager arch} {info : InstTraceInfo arch}
    (returns : hooked.finishPrevious execution.process
      (hooked.dispatchCurrent execution.process
        { manager with curInfo := some (hooked.savedInfo info) } (hooked.savedInfo info)) =
      .ok returned)
    (writes : hooked.writeCurrent execution returned (hooked.savedInfo info) = .ok written) :
    InstructionInfoManager.Logged (hooked.postWindow execution manager info) written
      (hooked.postEvents execution manager info) := by
  rw [dispatchCurrent_eq rfl] at returns
  generalize dispatchedDef : InstructionInfoManager.mk manager.moduleName manager.moduleRange
    manager.preInfo _ manager.dispatchManager manager.logger
    (manager.journal ++ _) = dispatched at returns
  have logged := finishPrevious_logged returns
  have all := logged.trans (writeCurrent_logged writes)
  have sameReturns : hooked.returnEvents dispatched =
      hooked.returnEvents { manager with curInfo := some info } := by
    subst dispatchedDef
    rfl
  have sameOwn : hooked.ownWrites execution returned (hooked.savedInfo info) =
      hooked.ownWrites execution { manager with curInfo := some info } info := by
    subst dispatchedDef
    simp only [ownWrites, logged.preInfo, logged.curInfo]
    rw [slotWrites_returned]
    rfl
  have sameJournal : control dispatched.journal =
      control manager.journal ++ hooked.argsEvents manager info := by
    subst dispatchedDef
    simp only [control_append, List.append_cancel_left_eq]
    exact control_argsEvents hooked manager info
  refine ⟨by subst dispatchedDef; exact all.frame, ?_⟩
  rw [all.log, sameReturns, sameOwn]
  simp only [postWindow, postEvents, sameJournal, List.append_assoc]

/-- The POST callback of a recorded instruction whose record is current. -/
theorem postInstructionCall_posts {execution : Execution arch}
    {tracer after : InstructionTracerManager arch} {manager : InstructionInfoManager arch}
    {info : InstTraceInfo arch} {flow : VMAction}
    (recorded : tracer.isNeedRecord execution.inst.address = true)
    (present : tracer.infoManager = some manager) (current : manager.curInfo = some info)
    (own : info.pc = execution.inst.address)
    (done : tracer.postInstructionCall execution = .ok (flow, after)) :
    flow = .next ∧ ∃ finished,
      after = { tracer.traceCallbackPost info.pc with infoManager := some finished } ∧
      InstructionInfoManager.Logged
        ((tracer.traceCallbackPost info.pc).postWindow execution manager info) finished
        ((tracer.traceCallbackPost info.pc).postEvents execution manager info) := by
  cases postInstructionCall_step done with
  | skips filtered => cases recorded.symm.trans filtered
  | stops _ foreign => exact absurd own (foreign manager present info current)
  | posts _ found here _ hook returns writes =>
    cases found.symm.trans present
    cases here.symm.trans current
    subst hook
    exact ⟨rfl, _, rfl, postPasses_logged returns writes⟩

/-- Everything but the register files and the records: what no callback changes. -/
def config (tracer : InstructionTracerManager arch) : InstructionTracerManager arch :=
  { tracer with
    vm := { callbacks := tracer.vm.callbacks, clock := tracer.vm.clock }
    infoManager := none }

section Config

variable {execution : Execution arch} {tracer after : InstructionTracerManager arch}
  {flow : VMAction}

theorem config_callbacks (same : after.config = tracer.config) :
    after.vm.callbacks = tracer.vm.callbacks := congrArg (·.vm.callbacks) same

theorem config_clock (same : after.config = tracer.config) : after.vm.clock = tracer.vm.clock :=
  congrArg (·.vm.clock) same

theorem config_isNeedRecord (same : after.config = tracer.config) :
    after.isNeedRecord = tracer.isNeedRecord := by
  have ranges := congrArg InstructionTracerManager.recordRanges same
  simp only [config] at ranges
  funext addr
  simp only [isNeedRecord, ranges]

theorem traceCallbackPost_config (tracer : InstructionTracerManager arch) (pc : Word arch) :
    (tracer.traceCallbackPost pc).config = tracer.config := by
  simp only [traceCallbackPost, runHook]
  split <;> rfl

theorem PreStep.config (step : PreStep execution tracer flow after) :
    after.config = tracer.config := by
  cases step with
  | passes => rfl
  | stops absent => rfl
  | opens status recorded present hooked =>
    subst hooked
    simp only [traceCallbackPre, runHook]
    split <;> rfl
  | attaches present current => rfl

theorem postInstructionCall_config
    (done : tracer.postInstructionCall execution = .ok (flow, after)) :
    after.config = tracer.config := by
  cases postInstructionCall_step done with
  | skips filtered => rfl
  | stops recorded foreign => rfl
  | posts recorded present current own hook returns writes =>
    subst hook
    exact tracer.traceCallbackPost_config _

theorem firePre_config {callbacks : List CallbackKind}
    (done : run (firePre execution) tracer callbacks = .ok (flow, after)) :
    after.config = tracer.config := by
  refine run_invariant (fun state => state.config = tracer.config) ?_ rfl done
  intro before callback flow after same fired
  exact (firePre_step fired).config.trans same

theorem firePost_config {callbacks : List CallbackKind}
    (done : run (firePost execution) tracer callbacks = .ok (flow, after)) :
    after.config = tracer.config := by
  refine run_invariant (fun state => state.config = tracer.config) ?_ rfl done
  intro before callback flow after same fired
  cases callback with
  | postInstruction => exact (postInstructionCall_config fired).trans same
  | preInstruction => cases fired; exact same
  | preSvc => cases fired; exact same

theorem noteExecuted_config (execution : Execution arch) (point : NativePoint)
    (tracer : InstructionTracerManager arch) :
    (tracer.noteExecuted execution point).config = tracer.config := by
  simp only [noteExecuted]
  split <;> rfl

/-- The state the POST callbacks of an instruction start from. -/
def executed (execution : Execution arch) (ready : InstructionTracerManager arch) :
    InstructionTracerManager arch :=
  (ready.noteExecuted execution .beforePost).loadPost execution

/-- Where an instruction can end: at a PRE callback, at a POST callback, or after
both rounds. -/
inductive Stage (execution : Execution arch) (tracer : InstructionTracerManager arch) :
    VMAction → InstructionTracerManager arch → Prop where
  | atPre {stopped : InstructionTracerManager arch}
      (opens : run (firePre execution) (tracer.loadPre execution) tracer.vm.callbacks =
        .ok (.stop, stopped)) : Stage execution tracer .stop stopped
  | atPost {ready stopped : InstructionTracerManager arch}
      (opens : run (firePre execution) (tracer.loadPre execution) tracer.vm.callbacks =
        .ok (.next, ready))
      (posts : run (firePost execution) (ready.executed execution) ready.vm.callbacks =
        .ok (.stop, stopped)) : Stage execution tracer .stop stopped
  | through {ready finished : InstructionTracerManager arch}
      (opens : run (firePre execution) (tracer.loadPre execution) tracer.vm.callbacks =
        .ok (.next, ready))
      (posts : run (firePost execution) (ready.executed execution) ready.vm.callbacks =
        .ok (.next, finished)) :
      Stage execution tracer .next (finished.noteExecuted execution .afterPost).tick

theorem execute_stage (done : tracer.execute execution = .ok (flow, after)) :
    Stage execution tracer flow after := by
  simp only [execute] at done
  split at done
  · cases done
  · rename_i stopped opens
    cases done
    exact .atPre opens
  · rename_i ready opens
    simp only [complete] at done
    split at done
    · cases done
    · rename_i stopped posts
      cases done
      exact .atPost opens posts
    · rename_i finished posts
      cases done
      exact .through opens posts

/-- The rule for what all parts of an instruction keep, wherever it ends. -/
theorem execute_invariant (property : InstructionTracerManager arch → Prop)
    (pre : ∀ {flow ready}, run (firePre execution) (tracer.loadPre execution) tracer.vm.callbacks =
      .ok (flow, ready) → property ready)
    (executes : ∀ {ready}, property ready → property (ready.executed execution))
    (post : ∀ {callbacks flow ready finished}, property ready →
      run (firePost execution) ready callbacks = .ok (flow, finished) → property finished)
    (notes : ∀ {finished}, property finished →
      property (finished.noteExecuted execution .afterPost).tick)
    (done : tracer.execute execution = .ok (flow, after)) : property after := by
  cases execute_stage done with
  | atPre opens => exact pre opens
  | atPost opens posts => exact post (executes (pre opens)) posts
  | through opens posts =>
    apply notes
    exact post (executes (pre opens)) posts

theorem executed_config (execution : Execution arch) (ready : InstructionTracerManager arch) :
    (ready.executed execution).config = ready.config :=
  noteExecuted_config execution .beforePost ready

/-- An instruction that goes through only advances the clock. -/
theorem execute_config (done : tracer.execute execution = .ok (flow, after)) :
    after.config = (if flow = .next then tracer.tick else tracer).config := by
  cases execute_stage done with
  | atPre opens =>
    have same := firePre_config opens
    exact same
  | atPost opens posts =>
    have same := (firePost_config posts).trans ((executed_config ..).trans (firePre_config opens))
    exact same
  | @through ready finished opens posts =>
    have same := (firePost_config posts).trans ((executed_config ..).trans (firePre_config opens))
    exact congrArg tick ((noteExecuted_config execution .afterPost finished).trans same)

theorem execute_callbacks (done : tracer.execute execution = .ok (flow, after)) :
    after.vm.callbacks = tracer.vm.callbacks := by
  have same := config_callbacks (execute_config done)
  cases flow <;> exact same

end Config

end InstructionTracerManager

end QbdiTracer
