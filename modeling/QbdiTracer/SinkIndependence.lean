import QbdiTracer.TracerCalls

/-! Two loggers that differ in their text sinks: the callbacks do the same on both as
long as both have a sink or neither has. -/

namespace QbdiTracer

open FlowRun

variable {arch : Arch}

/-- Which text sinks are enabled. -/
structure TextSinks where
  logcat : Bool
  fileLog : Bool
  deriving DecidableEq, Repr

/-- `write_trace_info` gets past its first test. -/
def TextSinks.any (sinks : TextSinks) : Bool := sinks.logcat || sinks.fileLog

namespace LoggerManager

/-- The same logger with other sinks. -/
def withSinks (sinks : TextSinks) (logger : LoggerManager arch) : LoggerManager arch :=
  { logger with logcat := sinks.logcat, fileLog := sinks.fileLog }

variable {logger : LoggerManager arch} {process : Process arch}

theorem trackMemory_withSinks (sinks : TextSinks) (info : InstTraceInfo arch) :
    (logger.withSinks sinks).trackMemory process info =
      (logger.trackMemory process info).map (Prod.map (withSinks sinks) id) := by
  simp only [trackMemory, withSinks]
  split
  · rfl
  · split
    · rfl
    · split <;> rfl

theorem formatAccess_withSinks (sinks : TextSinks) (access : MemoryAccess arch) :
    (logger.withSinks sinks).formatAccess process access =
      (logger.formatAccess process access).map (Prod.map (withSinks sinks) id) := by
  have range : (logger.withSinks sinks).isAddressInModuleRange access.accessAddress =
      logger.isAddressInModuleRange access.accessAddress := rfl
  have table : (logger.withSinks sinks).memoryManager = logger.memoryManager := rfl
  simp only [formatAccess, range, table]
  cases logger.isAddressInModuleRange access.accessAddress with
  | true => rfl
  | false => cases logger.memoryManager <;> rfl

theorem formatAccessInfo_withSinks (sinks : TextSinks) (accesses : List (MemoryAccess arch)) :
    (logger.withSinks sinks).formatAccessInfo process accesses =
      (logger.formatAccessInfo process accesses).map (Prod.map (withSinks sinks) id) := by
  induction accesses generalizing logger with
  | nil => rfl
  | cons access rest ih =>
    simp only [formatAccessInfo, formatAccess_withSinks]
    cases first : logger.formatAccess process access with
    | error fault => rfl
    | ok looked =>
      simp only [Except.map, bind, Except.bind, Prod.map, ih]
      cases others : looked.1.formatAccessInfo process rest <;> rfl

theorem writeTraceInfo_withSinks {sinks : TextSinks} (same : logger.hasSink = sinks.any)
    (info : InstTraceInfo arch) (inst : InstAnalysis arch) (accesses : List (MemoryAccess arch)) :
    (logger.withSinks sinks).writeTraceInfo process info inst accesses =
      (logger.writeTraceInfo process info inst accesses).map (Prod.map (withSinks sinks) id) := by
  have sink : (logger.withSinks sinks).hasSink = logger.hasSink := same.symm
  simp only [writeTraceInfo, sink]
  split
  · rw [trackMemory_withSinks]
    cases tracked : logger.trackMemory process info with
    | error fault => rfl
    | ok update =>
      simp only [Except.map, bind, Except.bind, Prod.map, formatAccessInfo_withSinks]
      cases looked : update.1.formatAccessInfo process accesses <;> rfl
  · rfl

end LoggerManager

namespace InstructionInfoManager

def withSinks (sinks : TextSinks) (manager : InstructionInfoManager arch) :
    InstructionInfoManager arch :=
  { manager with logger := manager.logger.withSinks sinks }

variable {manager after : InstructionInfoManager arch} {process : Process arch} {now : Nat}

/-- Writing lines installs and removes no sink. -/
theorem Lines.hasSink (lines : Lines manager after) :
    after.logger.hasSink = manager.logger.hasSink := by
  obtain ⟨operations, -, done⟩ := lines
  rw [LoggerManager.applyAll_frame done]
  rfl

theorem writeSlot_withSinks {sinks : TextSinks} (same : manager.logger.hasSink = sinks.any)
    (inst : InstAnalysis arch) (accesses : List (MemoryAccess arch))
    (slot : Option (InstTraceInfo arch)) :
    (manager.withSinks sinks).writeSlot process now inst accesses slot =
      (manager.writeSlot process now inst accesses slot).map (withSinks sinks) := by
  cases slot with
  | none => rfl
  | some info =>
    simp only [writeSlot, withSinks, LoggerManager.writeTraceInfo_withSinks same]
    split
    · cases written : manager.logger.writeTraceInfo process info inst accesses <;> rfl
    · rfl

theorem writeTraceInfo_withSinks {sinks : TextSinks} (manager : InstructionInfoManager arch)
    (same : manager.logger.hasSink = sinks.any)
    (inst : InstAnalysis arch) (accesses : List (MemoryAccess arch)) :
    (manager.withSinks sinks).writeTraceInfo process now inst accesses =
      (manager.writeTraceInfo process now inst accesses).map (withSinks sinks) := by
  have slot : (manager.withSinks sinks).preInfo = manager.preInfo := rfl
  simp only [writeTraceInfo, slot, writeSlot_withSinks same]
  cases first : manager.writeSlot process now inst accesses manager.preInfo with
  | error fault => rfl
  | ok middle => exact writeSlot_withSinks ((writeSlot_lines first).hasSink.trans same) ..

end InstructionInfoManager

namespace InstructionTracerManager

def withSinks (sinks : TextSinks) (tracer : InstructionTracerManager arch) :
    InstructionTracerManager arch :=
  { tracer with infoManager := tracer.infoManager.map (·.withSinks sinks) }

/-- The logger of the tracer has a sink exactly if one of these is enabled. -/
def SinksLike (sinks : TextSinks) (tracer : InstructionTracerManager arch) : Prop :=
  ∃ manager, tracer.infoManager = some manager ∧ manager.logger.hasSink = sinks.any

section Callbacks

variable {execution : Execution arch} {process : Process arch} {sinks : TextSinks}
  {tracer after : InstructionTracerManager arch} {manager : InstructionInfoManager arch}
  {flow : VMAction}

theorem Logs.sinksLike (logs : Logs manager after) (same : manager.logger.hasSink = sinks.any) :
    SinksLike sinks after := by
  obtain ⟨finished, present, lines⟩ := logs
  exact ⟨finished, present, lines.hasSink.trans same⟩

theorem preInstructionCall_withSinks (present : tracer.infoManager = some manager) :
    (tracer.withSinks sinks).preInstructionCall execution =
      (tracer.preInstructionCall execution).map (Prod.map id (withSinks sinks)) := by
  have found : (tracer.withSinks sinks).infoManager = some (manager.withSinks sinks) := by
    simp [withSinks, present]
  have recorded : (tracer.withSinks sinks).isNeedRecord (tracer.withSinks sinks).vm.gprState.pc =
      tracer.isNeedRecord tracer.vm.gprState.pc := rfl
  simp only [preInstructionCall, found, present, recorded]
  cases tracer.isNeedRecord tracer.vm.gprState.pc with
  | false => rfl
  | true =>
    cases current : manager.curInfo <;> cases call : execution.inst.isFunCall <;>
      simp [InstructionInfoManager.withSinks, InstructionInfoManager.allocInstTraceInfo, current,
        InstructionInfoManager.modifyCurInfo, InstructionInfoManager.allocFunCall,
        traceCallbackPre, hookOffset, withSinks, Except.map]

theorem preSvcInstructionCall_withSinks (present : tracer.infoManager = some manager) :
    (tracer.withSinks sinks).preSvcInstructionCall execution =
      (tracer.preSvcInstructionCall execution).map (Prod.map id (withSinks sinks)) := by
  have found : (tracer.withSinks sinks).infoManager = some (manager.withSinks sinks) := by
    simp [withSinks, present]
  have slot : (manager.withSinks sinks).curInfo = manager.curInfo := rfl
  simp only [preSvcInstructionCall, found, present, slot]
  cases current : manager.curInfo with
  | none => rfl
  | some info =>
    cases call : info.funCall <;>
      simp [InstructionInfoManager.withSinks, InstructionInfoManager.modifyCurInfo, current, call,
        InstructionInfoManager.allocFunCall, withSinks, Except.map]

theorem dispatchCurrent_withSinks (info : InstTraceInfo arch) :
    (tracer.withSinks sinks).dispatchCurrent process (manager.withSinks sinks) info =
      (tracer.dispatchCurrent process manager info).withSinks sinks := by
  have inside : (tracer.withSinks sinks).isAddressInModuleRange = tracer.isAddressInModuleRange :=
    rfl
  have registers : (tracer.withSinks sinks).vm = tracer.vm := rfl
  simp only [dispatchCurrent, inside, registers]
  split
  · rfl
  · split <;> rfl

theorem finishPrevious_withSinks (same : manager.logger.hasSink = sinks.any) :
    (tracer.withSinks sinks).finishPrevious process (manager.withSinks sinks) =
      (tracer.finishPrevious process manager).map (·.withSinks sinks) := by
  have inside : (tracer.withSinks sinks).isAddressInModuleRange = tracer.isAddressInModuleRange :=
    rfl
  have registers : (tracer.withSinks sinks).vm = tracer.vm := rfl
  have slot : (manager.withSinks sinks).preInfo = manager.preInfo := rfl
  simp only [finishPrevious, inside, registers, slot]
  split
  · rfl
  · split
    · rfl
    · split
      · rfl
      · split
        · exact InstructionInfoManager.writeTraceInfo_withSinks
            (manager.dispatchFunCallCommonReturn ..) same ..
        · exact InstructionInfoManager.writeTraceInfo_withSinks
            (manager.dispatchFunCallReturn ..) same ..

theorem writeCurrent_withSinks (same : manager.logger.hasSink = sinks.any)
    (info : InstTraceInfo arch) :
    (tracer.withSinks sinks).writeCurrent execution (manager.withSinks sinks) info =
      (tracer.writeCurrent execution manager info).map (·.withSinks sinks) := by
  simp only [writeCurrent]
  split
  · rfl
  · exact InstructionInfoManager.writeTraceInfo_withSinks manager same ..

/-- The three passes of the POST callback over the window. -/
theorem posts_withSinks (manager : InstructionInfoManager arch)
    (same : manager.logger.hasSink = sinks.any) (info : InstTraceInfo arch) :
    (do
      let returned ← (tracer.withSinks sinks).finishPrevious execution.process
        ((tracer.withSinks sinks).dispatchCurrent execution.process (manager.withSinks sinks) info)
      let written ← (tracer.withSinks sinks).writeCurrent execution returned info
      return (StepFlow.next, { tracer.withSinks sinks with infoManager := some written })) =
    Except.map (Prod.map id (withSinks sinks)) (do
      let returned ← tracer.finishPrevious execution.process
        (tracer.dispatchCurrent execution.process manager info)
      let written ← tracer.writeCurrent execution returned info
      return (StepFlow.next, { tracer with infoManager := some written })) := by
  have dispatched : (tracer.dispatchCurrent execution.process manager info).logger.hasSink =
      sinks.any := by rw [dispatchCurrent_logger, same]
  rw [dispatchCurrent_withSinks, finishPrevious_withSinks dispatched]
  cases returns : tracer.finishPrevious execution.process
      (tracer.dispatchCurrent execution.process manager info) with
  | error fault => rfl
  | ok returned =>
    have sink := (finishPrevious_lines returns).hasSink.trans dispatched
    simp only [Except.map, bind, Except.bind, writeCurrent_withSinks sink]
    cases tracer.writeCurrent execution returned info <;> rfl

theorem postInstructionCall_withSinks (present : tracer.infoManager = some manager)
    (same : manager.logger.hasSink = sinks.any) :
    (tracer.withSinks sinks).postInstructionCall execution =
      (tracer.postInstructionCall execution).map (Prod.map id (withSinks sinks)) := by
  have found : (tracer.withSinks sinks).infoManager = some (manager.withSinks sinks) := by
    simp [withSinks, present]
  have recorded : (tracer.withSinks sinks).isNeedRecord execution.inst.address =
      tracer.isNeedRecord execution.inst.address := rfl
  have slot : (manager.withSinks sinks).curInfo = manager.curInfo := rfl
  have hook : ∀ pc, (tracer.withSinks sinks).traceCallbackPost pc =
      (tracer.traceCallbackPost pc).withSinks sinks := fun _ => rfl
  have registers : ∀ state : InstructionTracerManager arch,
      (state.withSinks sinks).vm = state.vm := fun _ => rfl
  simp only [postInstructionCall, found, present, recorded, slot, hook, registers]
  split
  · rfl
  · split
    · rfl
    · rename_i current _
      split
      · rfl
      · generalize tracer.traceCallbackPost current.pc = hooked
        generalize { current with postStatus := current.postStatus.save hooked.vm } = info
        exact posts_withSinks { manager with curInfo := some info } same info

theorem firePre_withSinks (like : SinksLike sinks tracer) (callback : CallbackKind) :
    firePre execution (tracer.withSinks sinks) callback =
      (firePre execution tracer callback).map (Prod.map id (withSinks sinks)) := by
  obtain ⟨manager, present, same⟩ := like
  cases callback with
  | preInstruction => exact preInstructionCall_withSinks present
  | postInstruction => rfl
  | preSvc =>
    simp only [firePre]
    split
    · exact preSvcInstructionCall_withSinks present
    · rfl

theorem firePre_sinksLike {callback : CallbackKind} (like : SinksLike sinks tracer)
    (fired : firePre execution tracer callback = .ok (flow, after)) : SinksLike sinks after := by
  obtain ⟨manager, present, same⟩ := like
  cases firePre_step fired with
  | passes => exact ⟨manager, present, same⟩
  | stops absent => exact ⟨manager, present, same⟩
  | opens status recorded found hooked =>
    cases found.symm.trans present
    exact ⟨_, rfl, same⟩
  | attaches found current =>
    cases found.symm.trans present
    exact ⟨_, rfl, same⟩

theorem firePost_withSinks (like : SinksLike sinks tracer) (callback : CallbackKind) :
    firePost execution (tracer.withSinks sinks) callback =
      (firePost execution tracer callback).map (Prod.map id (withSinks sinks)) := by
  obtain ⟨manager, present, same⟩ := like
  cases callback with
  | preInstruction => rfl
  | postInstruction => exact postInstructionCall_withSinks present same
  | preSvc => rfl

theorem firePost_sinksLike {callback : CallbackKind} (like : SinksLike sinks tracer)
    (fired : firePost execution tracer callback = .ok (flow, after)) : SinksLike sinks after := by
  obtain ⟨manager, present, same⟩ := like
  cases callback with
  | preInstruction =>
    cases fired
    exact ⟨manager, present, same⟩
  | postInstruction =>
    have logs : Logs manager after := postInstructionCall_lines present fired
    exact logs.sinksLike same
  | preSvc =>
    cases fired
    exact ⟨manager, present, same⟩

theorem noteExecuted_withSinks (point : NativePoint) :
    (tracer.withSinks sinks).noteExecuted execution point =
      (tracer.noteExecuted execution point).withSinks sinks := by
  simp only [noteExecuted]
  split
  · cases present : tracer.infoManager <;>
      simp [withSinks, present, InstructionInfoManager.withSinks, InstructionInfoManager.note]
  · rfl

theorem SinksLike.noteExecuted (like : SinksLike sinks tracer) (point : NativePoint) :
    SinksLike sinks (tracer.noteExecuted execution point) := by
  obtain ⟨manager, present, same⟩ := like
  have logs : Logs manager tracer := ⟨manager, present, .of_same rfl⟩
  exact (logs.noteExecuted execution point).sinksLike same

theorem complete_withSinks (like : SinksLike sinks tracer) :
    (tracer.withSinks sinks).complete execution =
      (tracer.complete execution).map (Prod.map id (withSinks sinks)) := by
  have loaded : ∀ state : InstructionTracerManager arch,
      (state.withSinks sinks).loadPost execution = (state.loadPost execution).withSinks sinks :=
    fun _ => rfl
  have callbacks : (tracer.withSinks sinks).vm.callbacks = tracer.vm.callbacks := rfl
  have ready : SinksLike sinks ((tracer.noteExecuted execution .beforePost).loadPost execution) :=
    like.noteExecuted .beforePost
  simp only [complete, noteExecuted_withSinks, loaded, callbacks,
    run_map (withSinks sinks) (SinksLike sinks) (fun _ callback _ like => firePost_withSinks like callback)
      (fun _ _ _ _ like fired => firePost_sinksLike like fired) ready]
  cases run (firePost execution) ((tracer.noteExecuted execution .beforePost).loadPost execution)
      tracer.vm.callbacks with
  | error fault => rfl
  | ok outcome =>
    obtain ⟨flow, finished⟩ := outcome
    cases flow with
    | stop => rfl
    | next =>
      simp only [Except.map, Prod.map, id, noteExecuted_withSinks]
      rfl

theorem execute_withSinks (like : SinksLike sinks tracer) :
    (tracer.withSinks sinks).execute execution =
      (tracer.execute execution).map (Prod.map id (withSinks sinks)) := by
  have callbacks : (tracer.withSinks sinks).vm.callbacks = tracer.vm.callbacks := rfl
  have loaded : (tracer.withSinks sinks).loadPre execution =
      (tracer.loadPre execution).withSinks sinks := rfl
  have ready : SinksLike sinks (tracer.loadPre execution) := like
  simp only [execute, loaded, callbacks,
    run_map (withSinks sinks) (SinksLike sinks) (fun _ callback _ like => firePre_withSinks like callback)
      (fun _ _ _ _ like fired => firePre_sinksLike like fired) ready]
  cases opens : run (firePre execution) (tracer.loadPre execution) tracer.vm.callbacks with
  | error fault => rfl
  | ok outcome =>
    obtain ⟨flow, opened⟩ := outcome
    cases flow with
    | stop => rfl
    | next =>
      exact complete_withSinks (run_invariant (SinksLike sinks)
        (fun _ _ _ _ like fired => firePre_sinksLike like fired) ready opens)

theorem execute_sinksLike (like : SinksLike sinks tracer)
    (done : tracer.execute execution = .ok (flow, after)) : SinksLike sinks after := by
  obtain ⟨manager, present, same⟩ := like
  have start : Logs manager tracer := ⟨manager, present, .of_same rfl⟩
  exact (start.execute done).sinksLike same

/-- Whole streams, with other sinks. -/
theorem run_withSinks (like : SinksLike sinks tracer) (executions : List (Execution arch)) :
    run execute (tracer.withSinks sinks) executions =
      (run execute tracer executions).map (Prod.map id (withSinks sinks)) :=
  run_map (withSinks sinks) (SinksLike sinks) (fun _ _ _ like => execute_withSinks like)
    (fun _ _ _ _ like done => execute_sinksLike like done) like

theorem enter_withSinks (like : SinksLike sinks tracer) (kind : EntryKind) (process : Process arch)
    (executions : List (Execution arch)) :
    (tracer.withSinks sinks).enter kind process executions =
      (tracer.enter kind process executions).map (withSinks sinks) := by
  have ready : SinksLike sinks (tracer.register (onceCallbacks (kind == .run))) := like
  have registered : (tracer.withSinks sinks).register (onceCallbacks (kind == .run)) =
      (tracer.register (onceCallbacks (kind == .run))).withSinks sinks := rfl
  rw [enter_eq, enter_eq, registered, vmCall, vmCall, run_withSinks ready]
  cases run execute (tracer.register (onceCallbacks (kind == .run))) executions with
  | error fault => rfl
  | ok outcome =>
    simp only [Except.map, bind, Except.bind, Prod.map, flushInfo, withSinks]
    cases outcome.2.infoManager <;> rfl

theorem enter_sinksLike {kind : EntryKind} {executions : List (Execution arch)}
    (like : SinksLike sinks tracer) (entered : tracer.enter kind process executions = .ok after) :
    SinksLike sinks after := by
  obtain ⟨manager, present, same⟩ := like
  obtain ⟨lines, finished, -, found, done⟩ := enter_operations present entered
  refine ⟨finished, found, ?_⟩
  rw [LoggerManager.applyAll_frame done]
  exact same

end Callbacks

/-- Entries of a tracer one after the other. -/
def enterAll (tracer : InstructionTracerManager arch)
    (entries : List (EntryKind × Process arch × List (Execution arch))) :
    Except Fault (InstructionTracerManager arch) :=
  entries.foldlM (fun tracer (kind, process, executions) => tracer.enter kind process executions) tracer

theorem enterAll_withSinks {sinks : TextSinks} {tracer : InstructionTracerManager arch}
    (like : SinksLike sinks tracer)
    (entries : List (EntryKind × Process arch × List (Execution arch))) :
    (tracer.withSinks sinks).enterAll entries = (tracer.enterAll entries).map (withSinks sinks) ∧
      ∀ after, tracer.enterAll entries = .ok after → SinksLike sinks after := by
  induction entries generalizing tracer with
  | nil =>
    refine ⟨rfl, fun after entered => ?_⟩
    cases entered
    exact like
  | cons entry rest ih =>
    obtain ⟨kind, process, executions⟩ := entry
    simp only [enterAll, List.foldlM_cons, enter_withSinks like]
    cases entered : tracer.enter kind process executions with
    | error fault =>
      refine ⟨rfl, fun after failed => ?_⟩
      cases failed
    | ok middle => exact ih (enter_sinksLike like entered)

/-- The block table and the dump of the current logger. -/
def memoryManager (tracer : InstructionTracerManager arch) : Option (MemoryManager arch) :=
  tracer.infoManager.bind (·.logger.memoryManager)

/-- The logger dumps memory. -/
def Dumping (tracer : InstructionTracerManager arch) : Prop :=
  ∃ table, tracer.memoryManager = some table ∧ table.memoryDumpFile.isOpen = true

/-- The state after some entries and the executed instructions of another. -/
def during (tracer : InstructionTracerManager arch)
    (entries : List (EntryKind × Process arch × List (Execution arch))) (kind : EntryKind)
    (executions : List (Execution arch)) :
    Except Fault (VMAction × InstructionTracerManager arch) := do
  let entered ← tracer.enterAll entries
  run execute (entered.register (onceCallbacks (kind == .run))) executions

/-- With these sinks and with those, the tables and dumps are the same after every
instruction and after every entry. -/
structure SameTables (tracer : InstructionTracerManager arch) (first second : TextSinks) :
    Prop where
  during : ∀ entries kind executions,
    ((tracer.withSinks first).during entries kind executions).map (·.2.memoryManager) =
      ((tracer.withSinks second).during entries kind executions).map (·.2.memoryManager)
  after : ∀ entries, ((tracer.withSinks first).enterAll entries).map memoryManager =
    ((tracer.withSinks second).enterAll entries).map memoryManager

section Comparison

variable {tracer : InstructionTracerManager arch} {first second sinks : TextSinks}

theorem memoryManager_withSinks (tracer : InstructionTracerManager arch) (sinks : TextSinks) :
    (tracer.withSinks sinks).memoryManager = tracer.memoryManager := by
  cases present : tracer.infoManager <;>
    simp [memoryManager, withSinks, present, InstructionInfoManager.withSinks,
      LoggerManager.withSinks]

theorem withSinks_withSinks (tracer : InstructionTracerManager arch) (first second : TextSinks) :
    (tracer.withSinks first).withSinks second = tracer.withSinks second := by
  cases present : tracer.infoManager <;>
    simp [withSinks, present, InstructionInfoManager.withSinks, LoggerManager.withSinks]

theorem during_withSinks (like : SinksLike sinks tracer)
    (entries : List (EntryKind × Process arch × List (Execution arch))) (kind : EntryKind)
    (executions : List (Execution arch)) :
    (tracer.withSinks sinks).during entries kind executions =
      (tracer.during entries kind executions).map (Prod.map id (withSinks sinks)) := by
  obtain ⟨entries_eq, kept⟩ := enterAll_withSinks like entries
  simp only [during, entries_eq]
  cases entered : tracer.enterAll entries with
  | error fault => rfl
  | ok middle =>
    have ready : SinksLike sinks (middle.register (onceCallbacks (kind == .run))) :=
      kept middle entered
    exact run_withSinks ready executions

/-- Sinks that are both there or both missing leave the tables alone. -/
theorem sameTables_of_any (dumping : tracer.Dumping) (same : first.any = second.any) :
    SameTables tracer first second := by
  have like : SinksLike second (tracer.withSinks first) := by
    obtain ⟨table, found, -⟩ := dumping
    obtain ⟨manager, present, -⟩ := Option.bind_eq_some_iff.mp found
    refine ⟨manager.withSinks first, by simp [withSinks, present], ?_⟩
    exact same
  constructor
  · intro entries kind executions
    rw [← withSinks_withSinks tracer first second,
      during_withSinks like]
    cases (tracer.withSinks first).during entries kind executions with
    | error fault => rfl
    | ok outcome => exact congrArg Except.ok (memoryManager_withSinks ..).symm
  · intro entries
    rw [← withSinks_withSinks tracer first second,
      (enterAll_withSinks like entries).1]
    cases (tracer.withSinks first).enterAll entries with
    | error fault => rfl
    | ok after => exact congrArg Except.ok (memoryManager_withSinks ..).symm

end Comparison

/-- A tracer that dumps memory, for a module at `0x1000`. -/
def heapModule : InstructionTracerManager .aarch64 where
  moduleRange := ⟨0x1000, 0x1fff⟩
  infoManager := some {
    moduleRange := ⟨0x1000, 0x1fff⟩
    dispatchManager := bareDispatchers
    logger := { memoryManager := some { memoryDumpFile := { isOpen := true } }
                moduleRange := ⟨0x1000, 0x1fff⟩ } }

/-- A load from a mapping in which `malloc_iterate` finds no chunk. -/
def loadFromHeap : Execution .aarch64 :=
  { plainAt 0x1000 with
    memoryAccesses := [⟨0x50000010, 0, 8, .read⟩]
    process := { (idleProcess : Process .aarch64) with
      maps := [⟨0x50000000, 0x50001000⟩]
      mallocIterate := some fun _ _ => [] } }

/-- The load makes a block of the mapping, if there is a sink to log it to. -/
theorem heapModule_during (sinks : TextSinks) :
    Except.map (Option.map (·.memoryInfos))
        (((heapModule.withSinks sinks).during [] .run [loadFromHeap]).map (·.2.memoryManager)) =
      .ok (some (if sinks.any then [⟨0, 0x50000000, 0x50001000⟩] else [])) := by
  obtain ⟨logcat, fileLog⟩ := sinks
  cases logcat <;> cases fileLog <;> rfl

theorem sameTables_any {first second : TextSinks}
    (same : SameTables heapModule first second) : first.any = second.any := by
  have tables := congrArg (Except.map (Option.map (·.memoryInfos)))
    (same.during [] .run [loadFromHeap])
  rw [heapModule_during, heapModule_during] at tables
  cases one : first.any <;> cases other : second.any <;> simp [one, other] at tables ⊢

/-- Whatever is traced, the choice of sinks does not show in the tables and dumps exactly
if both choices enable a sink or neither does. -/
theorem sameTables_iff (first second : TextSinks) :
    (∀ (arch : Arch) (tracer : InstructionTracerManager arch), tracer.Dumping →
        SameTables tracer first second) ↔
      first.any = second.any := by
  constructor
  · intro same
    exact sameTables_any (same .aarch64 heapModule ⟨_, rfl, rfl⟩)
  · intro same arch tracer dumping
    exact sameTables_of_any dumping same

/-- No sink, and the file sink only: the load is tracked in the second run alone. -/
theorem sinkless_differs :
    heapModule.Dumping ∧ ¬ SameTables heapModule ⟨false, false⟩ ⟨false, true⟩ := by
  refine ⟨⟨_, rfl, rfl⟩, fun same => ?_⟩
  have any := sameTables_any same
  cases any

end InstructionTracerManager

end QbdiTracer
