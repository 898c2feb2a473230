import QbdiTracer.RecordOrder

/-! What a whole run hands to the logger: one line for each recorded instruction, with
the registers before and after it, its own accesses, and for a call what the next
recorded instruction finds as its result. -/

namespace QbdiTracer

open FlowRun Consecutive

variable {arch : Arch}

/-- The arguments of one call of `LoggerManager::write_trace_info`, and the process it
reads. -/
structure WriteRequest (arch : Arch) where
  process : Process arch
  info : InstTraceInfo arch
  inst : InstAnalysis arch
  memoryAccesses : List (MemoryAccess arch) := []

def LoggerManager.write (logger : LoggerManager arch) (request : WriteRequest arch) :
    Except Fault (LoggerManager arch) :=
  (logger.writeTraceInfo request.process request.info request.inst request.memoryAccesses).map
    Prod.fst

/-- The line shows the record, the analysis and the accesses it was asked for. -/
structure LogLine.Shows (line : LogLine arch) (request : WriteRequest arch) : Prop where
  info : line.info = request.info
  inst : line.inst = request.inst
  accesses : line.accesses.map (·.access) = request.memoryAccesses

theorem LogLine.map_seq_shown {lines : List (LogLine arch)} {requests : List (WriteRequest arch)}
    (shown : List.Forall₂ LogLine.Shows lines requests) :
    lines.map (·.info.seq) = requests.map (·.info.seq) := by
  induction shown with
  | nil => rfl
  | cons shows _ ih => rw [List.map_cons, List.map_cons, shows.info, ih]

namespace LoggerManager

variable {process : Process arch} {logger written : LoggerManager arch}

theorem formatAccess_ok {access : MemoryAccess arch} {entry : AccessInfo arch}
    (done : logger.formatAccess process access = .ok (written, entry)) :
    entry.access = access ∧ written = { logger with memoryManager := written.memoryManager } := by
  unfold formatAccess at done
  split at done
  · cases done
    exact ⟨rfl, rfl⟩
  · split at done
    · cases done
    · cases done
      exact ⟨rfl, rfl⟩

theorem formatAccessInfo_ok {accesses : List (MemoryAccess arch)}
    {entries : List (AccessInfo arch)}
    (done : logger.formatAccessInfo process accesses = .ok (written, entries)) :
    entries.map (·.access) = accesses ∧
      written = { logger with memoryManager := written.memoryManager } := by
  induction accesses generalizing logger entries with
  | nil =>
    cases done
    exact ⟨rfl, rfl⟩
  | cons access rest ih =>
    obtain ⟨⟨looked, entry⟩, first, done⟩ := bind_ok done
    obtain ⟨⟨finished, others⟩, second, done⟩ := bind_ok done
    cases done
    obtain ⟨same, frame⟩ := formatAccess_ok first
    obtain ⟨sames, frames⟩ := ih second
    refine ⟨by rw [List.map_cons, same, sames], ?_⟩
    rw [frames, frame]

theorem trackMemory_blocks {info : InstTraceInfo arch} {block : Option (MemoryInfo arch)}
    (done : logger.trackMemory process info = .ok (written, block)) :
    written = { logger with memoryManager := written.memoryManager } := by
  unfold trackMemory at done
  split at done
  · cases done
    rfl
  · split at done
    · cases done
      rfl
    · split at done
      · cases done
      · cases done
        rfl

/-- With a sink installed, a call that returns has added one line. -/
theorem write_ok {request : WriteRequest arch} (sink : logger.hasSink = true)
    (done : logger.write request = .ok written) :
    written.hasSink = true ∧
      ∃ line, line.Shows request ∧ written.lines = logger.lines ++ [line] := by
  cases wrote : logger.writeTraceInfo request.process request.info request.inst
      request.memoryAccesses with
  | error fault =>
    rw [write, wrote] at done
    cases done
  | ok outcome =>
    rw [write, wrote] at done
    cases done
    rw [writeTraceInfo, if_pos sink] at wrote
    obtain ⟨⟨tracked, block⟩, update, rest⟩ := bind_ok wrote
    obtain ⟨⟨looked, entries⟩, lookups, line⟩ := bind_ok rest
    cases line
    obtain ⟨same, frames⟩ := formatAccessInfo_ok lookups
    rw [frames, trackMemory_blocks update]
    exact ⟨sink, _, ⟨rfl, rfl, same⟩, rfl⟩

/-- One line for each call, in their order. -/
theorem foldlM_write_lines {requests : List (WriteRequest arch)} (sink : logger.hasSink = true)
    (done : requests.foldlM write logger = .ok written) :
    ∃ added, written.lines = logger.lines ++ added ∧ List.Forall₂ LogLine.Shows added requests := by
  induction requests generalizing logger with
  | nil =>
    cases done
    exact ⟨[], (List.append_nil _).symm, .nil⟩
  | cons request requests ih =>
    rw [List.foldlM_cons] at done
    obtain ⟨next, first, rest⟩ := bind_ok done
    obtain ⟨still, line, shows, added⟩ := write_ok sink first
    obtain ⟨others, lines, agree⟩ := ih still rest
    refine ⟨line :: others, ?_, .cons shows agree⟩
    rw [lines, added, List.append_assoc]
    rfl

end LoggerManager

namespace InstructionTracerManager

section Specification

variable (tracer : InstructionTracerManager arch) (manager : InstructionInfoManager arch)
  (svcHook : Bool)

/-- The registers an instruction finds, as its PRE hook leaves them. -/
def statusBefore (execution : Execution arch) : TraceVmStatus arch :=
  ({} : TraceVmStatus arch).save ((tracer.loadPre execution).traceCallbackPre execution.pc).vm

/-- The tracer on the registers an instruction leaves, after its POST hook. -/
def stateAfter (execution : Execution arch) : InstructionTracerManager arch :=
  (tracer.loadPost execution).traceCallbackPost execution.pc

/-- The record of an instruction, its call with the arguments dispatched. -/
def recordOf (entry : Execution arch × Nat) : InstTraceInfo arch :=
  (tracer.stateAfter entry.1).postedInfo entry.1.process manager
    (preparedInfo entry.1 svcHook entry.2 (tracer.statusBefore entry.1))

/-- The line of a call, once the next recorded instruction has its result. -/
def callLine (last : Option (Execution arch × Nat)) (entry : Execution arch × Nat) :
    List (WriteRequest arch) :=
  match last with
  | none => []
  | some call =>
    if call.1.attachesFunCall svcHook then
      [{ process := entry.1.process
         info := (tracer.stateAfter entry.1).returnedInfo entry.1.process manager
           (tracer.recordOf manager svcHook call)
         inst := call.1.inst }]
    else []

/-- The line of an instruction without a call. Accesses to the VM stack are left out. -/
def ownLine (entry : Execution arch × Nat) : List (WriteRequest arch) :=
  if entry.1.attachesFunCall svcHook then []
  else
    [{ process := entry.1.process
       info := tracer.recordOf manager svcHook entry
       inst := entry.1.inst
       memoryAccesses := entry.1.memoryAccesses.filter fun access =>
         !tracer.isAddressInStackRange access.accessAddress }]

/-- The lines of a list of recorded instructions. -/
def lineRequests (recorded : List (Execution arch × Nat)) : List (WriteRequest arch) :=
  outputs (fun last entry => tracer.callLine manager svcHook last entry ++
    tracer.ownLine manager svcHook entry) none recorded

theorem lineRequests_concat (recorded : List (Execution arch × Nat))
    (entry : Execution arch × Nat) :
    tracer.lineRequests manager svcHook (recorded ++ [entry]) =
      tracer.lineRequests manager svcHook recorded ++
        (tracer.callLine manager svcHook recorded.getLast? entry ++
          tracer.ownLine manager svcHook entry) := by
  rw [lineRequests, outputs_concat, Option.or_none]
  rfl

end Specification

end InstructionTracerManager

namespace InstructionInfoManager

variable {process : Process arch} {now : Nat} {inst : InstAnalysis arch}
  {accesses : List (MemoryAccess arch)} {manager written : InstructionInfoManager arch}
  {info : InstTraceInfo arch} {slot : Option (InstTraceInfo arch)}

theorem writeSlot_own (here : info.pc = inst.address)
    (done : manager.writeSlot process now inst accesses (some info) = .ok written) :
    ∃ logger journal, manager.logger.write ⟨process, info, inst, accesses⟩ = .ok logger ∧
      written = { manager with logger, journal } := by
  rcases writeSlot_ok done with ⟨elsewhere, -⟩ | ⟨_, logger, block, same, -, line, rfl⟩
  · exact absurd here (elsewhere info rfl)
  · cases same
    exact ⟨logger, _, by rw [LoggerManager.write, line]; rfl, rfl⟩

theorem writeSlot_foreign (elsewhere : ∀ info ∈ slot, info.pc ≠ inst.address)
    (done : manager.writeSlot process now inst accesses slot = .ok written) : written = manager := by
  rcases writeSlot_ok done with ⟨-, same⟩ | ⟨info, logger, block, held, here, -⟩
  · exact same
  · exact absurd here (elsewhere info held)

/-- Only the previous record has the address of the analysis. -/
theorem writeTraceInfo_pre (held : manager.preInfo = some info) (here : info.pc = inst.address)
    (apart : ∀ current ∈ manager.curInfo, current.pc ≠ inst.address)
    (done : manager.writeTraceInfo process now inst accesses = .ok written) :
    ∃ logger journal, manager.logger.write ⟨process, info, inst, accesses⟩ = .ok logger ∧
      written = { manager with logger, journal } := by
  obtain ⟨middle, first, second⟩ := bind_ok done
  rw [held] at first
  obtain ⟨logger, journal, line, rfl⟩ := writeSlot_own here first
  exact ⟨logger, journal, line, writeSlot_foreign apart second⟩

/-- Only the current record has the address of the analysis. -/
theorem writeTraceInfo_cur (held : manager.curInfo = some info) (here : info.pc = inst.address)
    (apart : ∀ prev ∈ manager.preInfo, prev.pc ≠ inst.address)
    (done : manager.writeTraceInfo process now inst accesses = .ok written) :
    ∃ logger journal, manager.logger.write ⟨process, info, inst, accesses⟩ = .ok logger ∧
      written = { manager with logger, journal } := by
  obtain ⟨middle, first, second⟩ := bind_ok done
  have same := writeSlot_foreign apart first
  subst same
  rw [held] at second
  exact writeSlot_own here second

theorem writeTraceInfo_none (apartPre : ∀ prev ∈ manager.preInfo, prev.pc ≠ inst.address)
    (apartCur : ∀ current ∈ manager.curInfo, current.pc ≠ inst.address)
    (done : manager.writeTraceInfo process now inst accesses = .ok written) : written = manager := by
  obtain ⟨middle, first, second⟩ := bind_ok done
  have same := writeSlot_foreign apartPre first
  subst same
  exact writeSlot_foreign apartCur second

end InstructionInfoManager

namespace InstructionTracerManager

section Passes

variable {process : Process arch} {tracer : InstructionTracerManager arch}
  {manager returned : InstructionInfoManager arch} {prev : InstTraceInfo arch}
  {call : InstFunCall arch} {inst : InstAnalysis arch}

/-- The return pass by either path leaves the call returned. -/
theorem dispatchReturn_eq (process : Process arch) (tracer : InstructionTracerManager arch)
    (manager : InstructionInfoManager arch) (attached : prev.funCall = some call) :
    ∃ journal, (if tracer.isAddressInModuleRange prev.postStatus.gprState.pc && !call.isSvc then
        manager.dispatchFunCallCommonReturn tracer.vm.clock tracer.vm.gprState prev call
      else manager.dispatchFunCallReturn process tracer.vm.clock tracer.vm.gprState prev call) =
        { manager with preInfo := some (tracer.returnedInfo process manager prev), journal } := by
  rw [returnedInfo, attached, Option.map_some, returnedCall]
  split
  · exact ⟨_, rfl⟩
  · exact ⟨_, rfl⟩

theorem finishPrevious_plain (plain : ∀ prev ∈ manager.preInfo, prev.funCall = none)
    (done : tracer.finishPrevious process manager = .ok returned) : returned = manager := by
  unfold finishPrevious at done
  split at done
  · cases done
    rfl
  · rename_i prev present
    rw [plain prev present] at done
    cases done
    rfl

/-- A call that its own instruction attached is written with its result. -/
theorem finishPrevious_own (present : manager.preInfo = some prev)
    (attached : prev.funCall = some call) (analysis : prev.instAnalysis = some inst)
    (own : prev.pc = inst.address) (apart : ∀ current ∈ manager.curInfo, current.pc ≠ inst.address)
    (done : tracer.finishPrevious process manager = .ok returned) :
    ∃ logger journal,
      manager.logger.write
        { process, info := tracer.returnedInfo process manager prev, inst } = .ok logger ∧
      returned = { manager with
        preInfo := some (tracer.returnedInfo process manager prev), logger, journal } := by
  simp only [finishPrevious, present, attached, analysis] at done
  obtain ⟨noted, event⟩ := dispatchReturn_eq process tracer manager attached
  rw [event] at done
  have held : InstructionInfoManager.preInfo { manager with
      preInfo := some (tracer.returnedInfo process manager prev), journal := noted } =
        some (tracer.returnedInfo process manager prev) := rfl
  obtain ⟨logger, journal, line, rfl⟩ :=
    InstructionInfoManager.writeTraceInfo_pre held own apart done
  exact ⟨logger, journal, line, rfl⟩

/-- A call attached at another address is not written. -/
theorem finishPrevious_foreign (present : manager.preInfo = some prev)
    (attached : prev.funCall = some call) (analysis : prev.instAnalysis = some inst)
    (apartPre : prev.pc ≠ inst.address)
    (apart : ∀ current ∈ manager.curInfo, current.pc ≠ inst.address)
    (done : tracer.finishPrevious process manager = .ok returned) :
    ∃ journal, returned = { manager with
      preInfo := some (tracer.returnedInfo process manager prev), journal } := by
  simp only [finishPrevious, present, attached, analysis] at done
  obtain ⟨journal, event⟩ := dispatchReturn_eq process tracer manager attached
  rw [event] at done
  refine ⟨journal, InstructionInfoManager.writeTraceInfo_none ?_ apart done⟩
  rintro _ ⟨⟩
  exact apartPre

end Passes

/-- Nothing but the register files, the callbacks' clock and the records differs. -/
theorem eq_of_config {before after : InstructionTracerManager arch}
    (same : after.config = before.config) :
    after = { before with
      vm := { after.vm with callbacks := before.vm.callbacks, clock := before.vm.clock }
      infoManager := after.infoManager } := by
  cases before
  cases after
  simp only [config, InstructionTracerManager.mk.injEq, VM.mk.injEq] at same
  obtain ⟨⟨callbacks, -, -, clock⟩, rest⟩ := same
  simp only [← callbacks, ← clock, rest]

section Frames

variable (tracer : InstructionTracerManager arch) (execution : Execution arch) (vm : VM arch)

theorem statusBefore_frame (infoManager : Option (InstructionInfoManager arch)) :
    statusBefore { tracer with vm, infoManager } execution = tracer.statusBefore execution := by
  simp only [statusBefore, traceCallbackPre, runHook, loadPre, hookOffset, TraceVmStatus.save]
  split <;> rfl

theorem stateAfter_frame (infoManager : Option (InstructionInfoManager arch)) :
    stateAfter { tracer with vm, infoManager } execution =
      { tracer.stateAfter execution with
        vm := { (tracer.stateAfter execution).vm with
          callbacks := vm.callbacks, clock := vm.clock }
        infoManager := infoManager } := by
  simp only [stateAfter, traceCallbackPost, runHook, loadPost, hookOffset]
  split <;> rfl

/-- The native callee leaves a note in the journal. -/
theorem noteExecuted_journal (point : NativePoint) {tracer : InstructionTracerManager arch}
    {manager : InstructionInfoManager arch} (present : tracer.infoManager = some manager) :
    ∃ journal, tracer.noteExecuted execution point =
      { tracer with infoManager := some { manager with journal } } := by
  simp only [noteExecuted]
  split
  · exact ⟨_, by rw [present]; rfl⟩
  · exact ⟨manager.journal, by rw [← present]⟩

/-- The PRE callback saves the registers as its hook leaves them. -/
theorem preInstructionCall_saves {tracer : InstructionTracerManager arch}
    {manager : InstructionInfoManager arch}
    (recorded : tracer.isNeedRecord tracer.vm.gprState.pc = true)
    (present : tracer.infoManager = some manager) :
    tracer.preInstructionCall execution = .ok (.next, { tracer with
      vm := (tracer.traceCallbackPre tracer.vm.gprState.pc).vm
      infoManager := some (manager.opened
        (openedInfo execution tracer.vm.clock tracer.vm.gprState.pc
          (({} : TraceVmStatus arch).save (tracer.traceCallbackPre tracer.vm.gprState.pc).vm))) }) := by
  cases current : manager.curInfo <;> cases call : execution.inst.isFunCall <;>
    simp [preInstructionCall, recorded, present, call, current, openedInfo,
      InstructionInfoManager.opened, InstructionInfoManager.allocInstTraceInfo,
      InstructionInfoManager.modifyCurInfo, InstructionInfoManager.allocFunCall,
      InstructionInfoManager.attachFunCall, traceCallbackPre]

/-- The PRE callbacks of a recorded instruction open its record. -/
theorem firePre_saves {tracer : InstructionTracerManager arch}
    {manager : InstructionInfoManager arch} (svcHook : Bool)
    (recorded : tracer.isNeedRecord execution.pc = true)
    (present : tracer.infoManager = some manager) :
    run (firePre execution) (tracer.loadPre execution) (onceCallbacks svcHook) =
      .ok (.next, { tracer with
        vm := ((tracer.loadPre execution).traceCallbackPre execution.pc).vm
        infoManager := some (manager.opened (preparedInfo execution svcHook tracer.vm.clock
          (tracer.statusBefore execution))) }) := by
  have here := tracer.loadPre_pc execution
  have need : (tracer.loadPre execution).isNeedRecord (tracer.loadPre execution).vm.gprState.pc =
      true := by rw [here]; exact recorded
  have held : (tracer.loadPre execution).infoManager = some manager := present
  have opens : (tracer.loadPre execution).preInstructionCall execution = .ok (.next, { tracer with
      vm := ((tracer.loadPre execution).traceCallbackPre execution.pc).vm
      infoManager := some (manager.opened (openedInfo execution tracer.vm.clock execution.pc
        (tracer.statusBefore execution))) }) := by
    have saves := preInstructionCall_saves execution need held
    rw [here] at saves
    exact saves
  rw [run_firePre_once, opens]
  by_cases fires : (svcHook && execution.isSvc) = true
  · simp only [fires, ↓reduceIte]
    rw [preSvcInstructionCall_attaches execution rfl rfl]
    cases branches : execution.inst.isFunCall <;>
      simp [InstructionInfoManager.opened, svcInfo, openedInfo, preparedInfo, Execution.ownCall,
        branches, fires]
  · cases branches : execution.inst.isFunCall <;>
      simp [openedInfo, preparedInfo, Execution.ownCall, branches, fires]

end Frames

/-- `info` is the record of an instruction. An svc outside the record ranges may have
attached its call to it. -/
inductive Holds (tracer : InstructionTracerManager arch) (manager : InstructionInfoManager arch)
    (svcHook : Bool) (entry : Execution arch × Nat) : InstTraceInfo arch → Prop where
  | own : Holds tracer manager svcHook entry (tracer.recordOf manager svcHook entry)
  | foreign {inst : InstAnalysis arch} (plain : entry.1.attachesFunCall svcHook = false)
      (outside : tracer.isNeedRecord inst.address = false) :
      Holds tracer manager svcHook entry { tracer.recordOf manager svcHook entry with
        funCall := some { isSvc := true }, instAnalysis := some inst }

theorem Holds.pc {tracer : InstructionTracerManager arch} {manager : InstructionInfoManager arch}
    {svcHook : Bool} {entry : Execution arch × Nat} {info : InstTraceInfo arch}
    (holds : tracer.Holds manager svcHook entry info) : info.pc = entry.1.pc := by
  cases holds with
  | own => rfl
  | foreign plain outside => rfl

/-- The tracer `reached` after the recorded instructions `recorded`: its window holds the
record of the last one, and its logger has been given their lines. -/
structure HasLogged (tracer : InstructionTracerManager arch) (manager : InstructionInfoManager arch)
    (svcHook : Bool) (recorded : List (Execution arch × Nat)) (seq : Nat)
    (reached : InstructionTracerManager arch) (window : InstructionInfoManager arch) : Prop where
  present : reached.infoManager = some window
  config : reached.config = config { tracer with vm := { tracer.vm with clock := seq } }
  frame : window = { manager with
    preInfo := window.preInfo, curInfo := window.curInfo, logger := window.logger
    journal := window.journal }
  passed : ∀ entry ∈ recorded, tracer.isNeedRecord entry.1.pc = true
  started : window.curInfo = none → window.preInfo = none
  latest : Option.Rel (tracer.Holds manager svcHook) recorded.getLast? window.curInfo
  logged : (tracer.lineRequests manager svcHook recorded).foldlM LoggerManager.write
    manager.logger = .ok window.logger

section Lines

variable {tracer hooked : InstructionTracerManager arch}
  {manager window returned written : InstructionInfoManager arch} {svcHook : Bool}
  {entry : Execution arch × Nat} {info : InstTraceInfo arch}

theorem recordOf_funCall_isSome (tracer : InstructionTracerManager arch)
    (manager : InstructionInfoManager arch) (svcHook : Bool) (entry : Execution arch × Nat) :
    (tracer.recordOf manager svcHook entry).funCall.isSome = entry.1.attachesFunCall svcHook := by
  rw [← entry.1.ownCall_isSome svcHook]
  simp [recordOf, postedInfo, savedInfo, preparedInfo]

/-- The call an instruction attached is kept with its own analysis. -/
theorem recordOf_attached (attaches : entry.1.attachesFunCall svcHook = true) :
    (∃ call, (tracer.recordOf manager svcHook entry).funCall = some call) ∧
      (tracer.recordOf manager svcHook entry).instAnalysis = some entry.1.inst := by
  have called := tracer.recordOf_funCall_isSome manager svcHook entry
  rw [attaches] at called
  refine ⟨Option.isSome_iff_exists.mp called, ?_⟩
  rw [← entry.1.ownCall_isSome svcHook] at attaches
  obtain ⟨own, attached⟩ := Option.isSome_iff_exists.mp attaches
  simp [recordOf, postedInfo, savedInfo, preparedInfo, attached]

/-- An svc outside the record ranges leaves the record a record of its instruction. -/
theorem Holds.svcInfo {svc : Execution arch} (holds : tracer.Holds manager svcHook entry info)
    (outside : tracer.isNeedRecord svc.pc = false) :
    tracer.Holds manager svcHook entry (QbdiTracer.svcInfo svc info) := by
  cases holds with
  | own =>
    have called := tracer.recordOf_funCall_isSome manager svcHook entry
    cases attaches : entry.1.attachesFunCall svcHook with
    | true =>
      rw [attaches] at called
      rw [QbdiTracer.svcInfo, if_pos called]
      exact .own
    | false =>
      rw [attaches] at called
      rw [QbdiTracer.svcInfo, if_neg (by simp [called])]
      exact .foreign attaches outside
  | foreign plain other => exact .foreign plain other

/-- Without a call of the last recorded instruction the return pass writes nothing. -/
theorem finishPrevious_unattached {prev : Execution arch × Nat}
    (held : window.preInfo = some info) (holds : tracer.Holds manager svcHook prev info)
    (attaches : prev.1.attachesFunCall svcHook = false)
    (passed : tracer.isNeedRecord prev.1.pc = true)
    (passes : tracer.isNeedRecord entry.1.pc = true)
    (current : ∀ info ∈ window.curInfo, info.pc = entry.1.pc)
    (done : hooked.finishPrevious entry.1.process window = .ok returned) :
    ∃ preInfo journal, returned = { window with preInfo, journal } ∧
      ∀ info ∈ preInfo, info.pc = prev.1.pc := by
  cases holds with
  | own =>
    -- no call at all
    have called := tracer.recordOf_funCall_isSome manager svcHook prev
    rw [attaches, Option.isSome_eq_false_iff, Option.isNone_iff_eq_none] at called
    have same := finishPrevious_plain (by rw [held]; rintro _ ⟨⟩; exact called) done
    refine ⟨window.preInfo, window.journal, same, ?_⟩
    rw [held]
    rintro _ ⟨⟩
    rfl
  | @foreign inst plain outside =>
    -- the call of an svc whose address fails the filter, both records pass it
    have apart : ∀ address, tracer.isNeedRecord address = true → address ≠ inst.address := by
      rintro _ passes rfl
      rw [outside] at passes
      cases passes
    obtain ⟨journal, same⟩ := finishPrevious_foreign held rfl rfl (apart _ passed)
      (fun info member => by rw [current info member]; exact apart _ passes) done
    refine ⟨_, journal, same, ?_⟩
    rintro _ ⟨⟩
    rfl

/-- The call of the last recorded instruction is written with its return value. -/
theorem finishPrevious_attached {prev : Execution arch × Nat}
    (held : window.preInfo = some (tracer.recordOf manager svcHook prev))
    (attaches : prev.1.attachesFunCall svcHook = true) (safe : SafeNeighbours svcHook prev entry)
    (current : ∀ info ∈ window.curInfo, info.pc = entry.1.pc)
    (sight : ∀ info, hooked.returnedInfo entry.1.process window info =
      (tracer.stateAfter entry.1).returnedInfo entry.1.process manager info)
    (done : hooked.finishPrevious entry.1.process window = .ok returned) :
    ∃ preInfo logger journal,
      (tracer.callLine manager svcHook (some prev) entry).foldlM LoggerManager.write
        window.logger = .ok logger ∧
      returned = { window with preInfo, logger, journal } ∧
      ∀ info ∈ preInfo, info.pc = prev.1.pc := by
  obtain ⟨⟨call, attached⟩, analysis⟩ :=
    @recordOf_attached arch tracer manager svcHook prev attaches
  have apart : ∀ info ∈ window.curInfo, info.pc ≠ prev.1.inst.address := by
    intro info member repeated
    rw [current info member] at repeated
    have plain := (safe repeated.symm).1
    rw [attaches] at plain
    cases plain
  obtain ⟨logger, journal, line, same⟩ := finishPrevious_own held attached analysis rfl apart done
  refine ⟨_, logger, journal, ?_, same, ?_⟩
  · rw [sight] at line
    simp [callLine, attaches, line]
  · rintro _ ⟨⟩
    rfl

/-- The return pass writes the line of the last recorded instruction's call. -/
theorem finishPrevious_callLine {last : Option (Execution arch × Nat)}
    (latest : Option.Rel (tracer.Holds manager svcHook) last window.preInfo)
    (passed : ∀ prev ∈ last, tracer.isNeedRecord prev.1.pc = true)
    (passes : tracer.isNeedRecord entry.1.pc = true)
    (safe : ∀ prev ∈ last, SafeNeighbours svcHook prev entry)
    (current : ∀ info ∈ window.curInfo, info.pc = entry.1.pc)
    (sight : ∀ info, hooked.returnedInfo entry.1.process window info =
      (tracer.stateAfter entry.1).returnedInfo entry.1.process manager info)
    (done : hooked.finishPrevious entry.1.process window = .ok returned) :
    ∃ preInfo logger journal,
      (tracer.callLine manager svcHook last entry).foldlM LoggerManager.write window.logger =
        .ok logger ∧
      returned = { window with preInfo, logger, journal } ∧
      ∀ info ∈ preInfo, ∃ prev ∈ last, info.pc = prev.1.pc := by
  generalize held : window.preInfo = preInfo at latest
  cases latest with
  | none =>
    have same := finishPrevious_plain (by simp [held]) done
    exact ⟨none, window.logger, window.journal, rfl, by rw [same, ← held], by simp⟩
  | @some prev info holds =>
    cases attaches : prev.1.attachesFunCall svcHook with
    | false =>
      have nothing : tracer.callLine manager svcHook (some prev) entry = [] := by
        simp [callLine, attaches]
      obtain ⟨preInfo, journal, same, pcs⟩ := finishPrevious_unattached held holds attaches
        (passed prev rfl) passes current done
      rw [nothing]
      exact ⟨preInfo, window.logger, journal, rfl, same,
        fun info member => ⟨prev, rfl, pcs info member⟩⟩
    | true =>
      cases holds with
      | foreign plain outside => cases attaches.symm.trans plain
      | own =>
        obtain ⟨preInfo, logger, journal, line, same, pcs⟩ := finishPrevious_attached held attaches
          (safe prev rfl) current sight done
        exact ⟨preInfo, logger, journal, line, same,
          fun info member => ⟨prev, rfl, pcs info member⟩⟩

/-- A record without a call is written at once, and nothing else with it. -/
theorem writeCurrent_ownLine
    (current : returned.curInfo = some (tracer.recordOf manager svcHook entry))
    (called : info.funCall.isSome = entry.1.attachesFunCall svcHook)
    (apart : entry.1.attachesFunCall svcHook = false → ∀ prev ∈ returned.preInfo,
      prev.pc ≠ entry.1.pc)
    (stack : hooked.isAddressInStackRange = tracer.isAddressInStackRange)
    (done : hooked.writeCurrent entry.1 returned info = .ok written) :
    ∃ logger journal,
      (tracer.ownLine manager svcHook entry).foldlM LoggerManager.write returned.logger =
        .ok logger ∧
      written = { returned with logger, journal } := by
  rw [writeCurrent, called] at done
  cases attaches : entry.1.attachesFunCall svcHook with
  | true =>
    rw [if_pos attaches] at done
    cases done
    have nothing : tracer.ownLine manager svcHook entry = [] := by simp [ownLine, attaches]
    exact ⟨returned.logger, returned.journal, by rw [nothing]; rfl, rfl⟩
  | false =>
    rw [if_neg (by simp [attaches])] at done
    obtain ⟨logger, journal, line, same⟩ :=
      InstructionInfoManager.writeTraceInfo_cur current rfl (apart attaches) done
    refine ⟨logger, journal, ?_, same⟩
    rw [stack] at line
    simp [ownLine, attaches, line]

end Lines

section Step

variable {tracer reached after : InstructionTracerManager arch}
  {manager window : InstructionInfoManager arch} {svcHook : Bool}
  {recorded : List (Execution arch × Nat)} {seq : Nat} {execution : Execution arch}
  {flow : VMAction}

/-- Only the VM and the records differ from the tracer at the start. -/
theorem HasLogged.reached_eq (logs : HasLogged tracer manager svcHook recorded seq reached window) :
    ∃ vm, reached = { tracer with vm, infoManager := some window } ∧
      vm.callbacks = tracer.vm.callbacks ∧ vm.clock = seq := by
  have same := eq_of_config logs.config
  rw [logs.present] at same
  exact ⟨_, same, rfl, rfl⟩

/-- An instruction that goes through advances the clock. -/
theorem execute_ticks {seq : Nat}
    (config : reached.config = InstructionTracerManager.config
      { tracer with vm := { tracer.vm with clock := seq } })
    (done : reached.execute execution = .ok (.next, after)) :
    after.config = InstructionTracerManager.config
      { tracer with vm := { tracer.vm with clock := seq + 1 } } := by
  have same := execute_config done
  rw [if_pos rfl] at same
  exact same.trans (congrArg tick config)

/-- An instruction outside the record filter only leaves a note of its native callee. -/
theorem execute_quiet_journal {ready : InstructionTracerManager arch}
    (opens : run (firePre execution) (reached.loadPre execution) reached.vm.callbacks =
      .ok (.next, ready))
    (once : ready.vm.callbacks = onceCallbacks svcHook)
    (filtered : ready.isNeedRecord execution.pc = false)
    (present : ready.infoManager = some window) :
    ∃ journal, reached.execute execution = .ok (.next, { ready with
      vm := { ready.vm with
        gprState := execution.postGpr
        fprState := execution.postFpr
        clock := ready.vm.clock + 1 }
      infoManager := some { window with journal } }) := by
  obtain ⟨before, notedBefore⟩ := noteExecuted_journal execution .beforePost present
  have loaded : InstructionTracerManager.infoManager (loadPost execution { ready with
      infoManager := some { window with journal := before } }) =
        some { window with journal := before } := rfl
  obtain ⟨noted, notedAfter⟩ := noteExecuted_journal execution .afterPost loaded
  refine ⟨noted, ?_⟩
  have posted : run (firePost execution)
      (loadPost execution { ready with infoManager := some { window with journal := before } })
      ready.vm.callbacks = .ok (.next, loadPost execution { ready with
        infoManager := some { window with journal := before } }) := by
    rw [once, run_firePost_once]
    exact postInstructionCall_skips filtered
  simp only [execute, opens, complete, notedBefore, posted, notedAfter]
  rfl

/-- An instruction that is not recorded changes the window only where an svc attaches its
call. -/
theorem execute_unrecorded {vm : VM arch} (once : vm.callbacks = onceCallbacks svcHook)
    (outside : tracer.isNeedRecord execution.pc = false)
    (done : execute { tracer with vm, infoManager := some window } execution = .ok (flow, after)) :
    flow = .next ∧ ∃ curInfo journal,
      after.infoManager = some { window with curInfo, journal } ∧
      (curInfo = window.curInfo ∨
        ∃ info ∈ window.curInfo, curInfo = some (svcInfo execution info)) := by
  have opens := firePre_skips svcHook (show isNeedRecord { tracer with
    vm, infoManager := some window } execution.pc = false from outside)
  by_cases fires : (svcHook && execution.isSvc) = true
  · rw [if_pos fires, ← once] at opens
    have held : InstructionTracerManager.infoManager (loadPre execution { tracer with
        vm, infoManager := some window }) = some window := rfl
    cases current : window.curInfo with
    | none =>
      rw [preSvcInstructionCall, held] at opens
      simp only [current] at opens
      simp only [execute, opens] at done
      cases done
    | some info =>
      rw [preSvcInstructionCall_attaches execution held current] at opens
      obtain ⟨journal, executed⟩ := execute_quiet_journal opens once outside rfl
      cases executed.symm.trans done
      exact ⟨rfl, _, journal, rfl, .inr ⟨info, rfl, rfl⟩⟩
  · rw [if_neg fires, ← once] at opens
    obtain ⟨journal, executed⟩ := execute_quiet_journal opens once outside rfl
    cases executed.symm.trans done
    exact ⟨rfl, window.curInfo, journal, rfl, .inl rfl⟩

/-- An instruction that is not recorded adds no line. -/
theorem HasLogged.skips (logs : HasLogged tracer manager svcHook recorded seq reached window)
    (once : tracer.vm.callbacks = onceCallbacks svcHook)
    (outside : tracer.isNeedRecord execution.pc = false)
    (done : reached.execute execution = .ok (flow, after)) :
    flow = .next ∧ ∃ finished, HasLogged tracer manager svcHook recorded (seq + 1) after finished := by
  have config := logs.config
  obtain ⟨vm, rfl, callbacks, clock⟩ := logs.reached_eq
  obtain ⟨rfl, curInfo, journal, present, changed⟩ :=
    execute_unrecorded (callbacks.trans once) outside done
  refine ⟨rfl, _, {
    present := present
    config := execute_ticks config done
    frame := by rw [logs.frame]
    passed := logs.passed
    started := ?_
    latest := ?_
    logged := logs.logged }⟩
  · rcases changed with same | ⟨info, held, attached⟩
    · intro none
      exact logs.started (same.symm.trans none)
    · intro none
      cases attached.symm.trans none
  · rcases changed with same | ⟨info, held, attached⟩
    · rw [same]
      exact logs.latest
    · have latest := logs.latest
      rw [Option.mem_def.mp held] at latest
      rw [attached]
      generalize recorded.getLast? = last at latest
      cases latest with
      | some holds => exact .some (holds.svcInfo outside)

/-- A recorded instruction opens its record and its POST callback runs the three passes. -/
theorem execute_passes {vm : VM arch} (once : vm.callbacks = onceCallbacks svcHook)
    (passes : tracer.isNeedRecord execution.pc = true)
    (done : execute { tracer with vm, infoManager := some window } execution = .ok (flow, after)) :
    flow = .next ∧ ∃ (hooked : InstructionTracerManager arch)
      (before returned written : InstructionInfoManager arch) (noted : List (Event arch)),
      hooked = { tracer.stateAfter execution with
        vm := { (tracer.stateAfter execution).vm with callbacks := vm.callbacks, clock := vm.clock }
        infoManager := some before } ∧
      (∃ journal, before = { window.opened (preparedInfo execution svcHook vm.clock
        (tracer.statusBefore execution)) with journal }) ∧
      hooked.finishPrevious execution.process (hooked.dispatchCurrent execution.process
        { before with curInfo := some (hooked.savedInfo (preparedInfo execution svcHook vm.clock
          (tracer.statusBefore execution))) }
        (hooked.savedInfo (preparedInfo execution svcHook vm.clock
          (tracer.statusBefore execution)))) = .ok returned ∧
      hooked.writeCurrent execution returned (hooked.savedInfo (preparedInfo execution svcHook
        vm.clock (tracer.statusBefore execution))) = .ok written ∧
      after = tick { hooked with infoManager := some { written with journal := noted } } := by
  have opens := @firePre_saves arch execution { tracer with vm, infoManager := some window } window
    svcHook passes rfl
  rw [statusBefore_frame, ← once] at opens
  obtain ⟨verdict, posted, post, ends⟩ := execute_posted opens (by
    simp only [traceCallbackPre, runHook, loadPre]
    split <;> exact once) done
  obtain ⟨journal, notedBefore⟩ := noteExecuted_journal execution .beforePost
    (show InstructionTracerManager.infoManager { tracer with
      vm := (traceCallbackPre (loadPre execution { tracer with vm, infoManager := some window })
        execution.pc).vm
      infoManager := some (window.opened (preparedInfo execution svcHook vm.clock
        (tracer.statusBefore execution))) } = _ from rfl)
  rw [executed, notedBefore] at post
  cases postInstructionCall_step post with
  | skips filtered => cases passes.symm.trans filtered
  | stops _ foreign => exact absurd rfl (foreign _ rfl _ rfl)
  | @posts _ returned written _ hooked _ found held own hook returns writes =>
    cases found
    cases held
    obtain ⟨rfl, rfl⟩ := ends rfl
    obtain ⟨noted, notedAfter⟩ := noteExecuted_journal execution .afterPost
      (show InstructionTracerManager.infoManager { hooked with infoManager := some written } =
        some written from rfl)
    have state : hooked = stateAfter { tracer with
        vm := (traceCallbackPre (loadPre execution { tracer with vm, infoManager := some window })
          execution.pc).vm
        infoManager := some { window.opened (preparedInfo execution svcHook vm.clock
          (tracer.statusBefore execution)) with journal } } execution := hook
    rw [stateAfter_frame] at state
    refine ⟨rfl, hooked, _, returned, written, noted, ?_, ⟨journal, rfl⟩, returns, writes,
      congrArg tick notedAfter⟩
    rw [state]
    simp only [traceCallbackPre, runHook, loadPre]
    split <;> rfl

/-- Opening a record moves the current one behind it, or there has been none. -/
theorem HasLogged.opened_preInfo {info : InstTraceInfo arch}
    (logs : HasLogged tracer manager svcHook recorded seq reached window) :
    (window.opened info).preInfo = window.curInfo := by
  cases current : window.curInfo with
  | none => simp [InstructionInfoManager.opened, current, logs.started current]
  | some info => simp [InstructionInfoManager.opened, current]

/-- The record after its POST callback, in the words of the specification. -/
theorem HasLogged.postedInfo_eq {hooked : InstructionTracerManager arch} {vm : VM arch}
    {before : InstructionInfoManager arch} (opened : List (Event arch))
    (logs : HasLogged tracer manager svcHook recorded seq reached window)
    (state : hooked = { tracer.stateAfter execution with
      vm := { (tracer.stateAfter execution).vm with callbacks := vm.callbacks, clock := vm.clock }
      infoManager := some before }) :
    postedInfo execution.process hooked
        { window.opened (preparedInfo execution svcHook vm.clock
            (tracer.statusBefore execution)) with journal := opened }
        (preparedInfo execution svcHook vm.clock (tracer.statusBefore execution)) =
      tracer.recordOf manager svcHook (execution, vm.clock) := by
  rw [state, logs.frame]
  rfl

/-- One more recorded instruction with its lines. -/
theorem HasLogged.concat {finished : InstructionInfoManager arch} {logger : LoggerManager arch}
    (logs : HasLogged tracer manager svcHook recorded seq reached window)
    (passes : tracer.isNeedRecord execution.pc = true)
    (present : after.infoManager = some finished)
    (config : after.config = InstructionTracerManager.config
      { tracer with vm := { tracer.vm with clock := seq + 1 } })
    (frame : finished = { manager with
      preInfo := finished.preInfo, curInfo := finished.curInfo, logger := finished.logger
      journal := finished.journal })
    (current : finished.curInfo = some (tracer.recordOf manager svcHook (execution, seq)))
    (called : (tracer.callLine manager svcHook recorded.getLast? (execution, seq)).foldlM
      LoggerManager.write window.logger = .ok logger)
    (own : (tracer.ownLine manager svcHook (execution, seq)).foldlM LoggerManager.write logger =
      .ok finished.logger) :
    HasLogged tracer manager svcHook (recorded ++ [(execution, seq)]) (seq + 1) after finished where
  present := present
  config := config
  frame := frame
  passed := by
    intro entry member
    rcases List.mem_append.mp member with earlier | last
    · exact logs.passed entry earlier
    · rw [List.mem_singleton.mp last]
      exact passes
  started := by simp [current]
  latest := by
    rw [List.getLast?_concat, current]
    exact .some .own
  logged := by
    have lines : (tracer.callLine manager svcHook recorded.getLast? (execution, seq) ++
        tracer.ownLine manager svcHook (execution, seq)).foldlM LoggerManager.write
          window.logger = .ok finished.logger := by
      rw [List.foldlM_append, called]
      exact own
    rw [lineRequests_concat, List.foldlM_append, logs.logged]
    exact lines

/-- A recorded instruction adds the line of the call before it and its own. -/
theorem HasLogged.records (logs : HasLogged tracer manager svcHook recorded seq reached window)
    (once : tracer.vm.callbacks = onceCallbacks svcHook)
    (passes : tracer.isNeedRecord execution.pc = true)
    (safe : ∀ last ∈ recorded.getLast?, SafeNeighbours svcHook last (execution, seq))
    (done : reached.execute execution = .ok (flow, after)) :
    flow = .next ∧ ∃ finished,
      HasLogged tracer manager svcHook (recorded ++ [(execution, seq)]) (seq + 1) after finished := by
  obtain ⟨vm, rfl, callbacks, rfl⟩ := logs.reached_eq
  obtain ⟨rfl, hooked, before, returned, written, noted, state, ⟨opened, rfl⟩, returns, writes,
    rfl⟩ := execute_passes (callbacks.trans once) passes done
  have passed : ∀ last ∈ recorded.getLast?, tracer.isNeedRecord last.1.pc = true :=
    fun last member => logs.passed last (List.mem_of_getLast? member)
  have record := logs.postedInfo_eq opened state
  rw [dispatchCurrent_eq rfl] at returns
  rw [postedInfo] at record
  rw [record] at returns
  obtain ⟨preInfo, logger, journal, called, rfl, pcs⟩ :=
    @finishPrevious_callLine arch tracer hooked manager _ returned svcHook (execution, vm.clock)
      recorded.getLast? (by rw [logs.opened_preInfo]; exact logs.latest) passed passes safe
      (by rintro _ ⟨⟩; rfl) (fun info => by rw [state, logs.frame]; rfl) returns
  obtain ⟨logger', journal', own, rfl⟩ :=
    @writeCurrent_ownLine arch tracer hooked manager _ written svcHook (execution, vm.clock) _ rfl
      (by rw [← execution.ownCall_isSome svcHook]; simp [savedInfo, preparedInfo])
      (by
        intro plain prev member repeated
        obtain ⟨last, ending, same⟩ := pcs prev member
        have attaches := (safe last ending (same.symm.trans repeated)).2
        cases plain.symm.trans attaches)
      (by rw [state]; rfl) writes
  exact ⟨rfl, _, logs.concat passes rfl (execute_ticks logs.config done) (by rw [logs.frame]; rfl)
    rfl called own⟩

/-- The recorded instructions of a stream, with their numbers. -/
def recordedFrom (tracer : InstructionTracerManager arch) (start : Nat)
    (executions : List (Execution arch)) : List (Execution arch × Nat) :=
  (executions.zipIdx start).filter fun entry => tracer.isNeedRecord entry.1.pc

theorem recordedFrom_cons (tracer : InstructionTracerManager arch) (start : Nat)
    (execution : Execution arch) (executions : List (Execution arch)) :
    tracer.recordedFrom start (execution :: executions) =
      (if tracer.isNeedRecord execution.pc then [(execution, start)] else []) ++
        tracer.recordedFrom (start + 1) executions := by
  rw [recordedFrom, List.zipIdx_cons, List.filter_cons]
  split <;> rfl

/-- Whole runs, from any tracer that has been given the lines so far. -/
theorem HasLogged.run {executions : List (Execution arch)}
    (logs : HasLogged tracer manager svcHook recorded seq reached window)
    (once : tracer.vm.callbacks = onceCallbacks svcHook)
    (safe : (recorded ++ tracer.recordedFrom seq executions).IsChain (SafeNeighbours svcHook))
    (ran : FlowRun.run execute reached executions = .ok (flow, after)) :
    ∃ finished, HasLogged tracer manager svcHook (recorded ++ tracer.recordedFrom seq executions)
      (seq + executions.length) after finished := by
  induction executions generalizing recorded seq reached window with
  | nil =>
    simp only [run_nil, Except.ok.injEq, Prod.mk.injEq] at ran
    obtain ⟨-, rfl⟩ := ran
    exact ⟨window, by simpa [recordedFrom] using logs⟩
  | cons execution executions ih =>
    have count : seq + (execution :: executions).length = seq + 1 + executions.length := by
      rw [List.length_cons]
      omega
    rw [recordedFrom_cons] at safe ⊢
    rw [count]
    cases taken : reached.execute execution with
    | error fault =>
      rw [run_cons, taken] at ran
      cases ran
    | ok outcome =>
      obtain ⟨verdict, next⟩ := outcome
      cases passes : tracer.isNeedRecord execution.pc with
      | true =>
        rw [passes, if_pos rfl, ← List.append_assoc] at safe
        have neighbours : ∀ last ∈ recorded.getLast?,
            SafeNeighbours svcHook last (execution, seq) := by
          intro last member
          exact (List.isChain_append.mp safe.left_of_append).2.2 last member _ rfl
        obtain ⟨rfl, middle, later⟩ := logs.records once passes neighbours taken
        rw [run_cons_next taken] at ran
        rw [if_pos rfl, ← List.append_assoc]
        exact ih later safe ran
      | false =>
        rw [passes, if_neg Bool.false_ne_true, List.nil_append] at safe
        obtain ⟨rfl, middle, later⟩ := logs.skips once passes taken
        rw [run_cons_next taken] at ran
        rw [if_neg Bool.false_ne_true, List.nil_append]
        exact ih later safe ran

end Step

theorem Fresh.hasLogged {tracer : InstructionTracerManager arch}
    {manager : InstructionInfoManager arch} {svcHook : Bool} (fresh : tracer.Fresh manager svcHook) :
    HasLogged tracer manager svcHook [] tracer.vm.clock tracer manager where
  present := fresh.present
  config := rfl
  frame := rfl
  passed := by simp
  started := fun _ => fresh.noPre
  latest := by
    rw [fresh.noCur]
    exact .none
  logged := rfl

/-- The logger at the end of a run is the one that has been given the lines of the
recorded instructions, and an installed sink shows exactly these. -/
theorem run_logs {tracer after : InstructionTracerManager arch}
    {manager : InstructionInfoManager arch} {svcHook : Bool} {executions : List (Execution arch)}
    {flow : VMAction} (fresh : tracer.Fresh manager svcHook)
    (safe : (tracer.recordedExecutions executions).IsChain (SafeNeighbours svcHook))
    (ran : run execute tracer executions = .ok (flow, after)) :
    ∃ finished, after.infoManager = some finished ∧
      (tracer.lineRequests manager svcHook (tracer.recordedExecutions executions)).foldlM
        LoggerManager.write manager.logger = .ok finished.logger ∧
      (manager.logger.hasSink = true → ∃ added,
        finished.logger.lines = manager.logger.lines ++ added ∧
          List.Forall₂ LogLine.Shows added
            (tracer.lineRequests manager svcHook (tracer.recordedExecutions executions))) := by
  obtain ⟨finished, logs⟩ := fresh.hasLogged.run fresh.callbacks safe ran
  refine ⟨finished, logs.present, logs.logged, fun sink => ?_⟩
  exact LoggerManager.foldlM_write_lines sink logs.logged

/-- A load, a call and the instruction at its target: the load's line and the call's. -/
theorem run_logs_branch :
    let tracer := tracedModule (onceCallbacks true) []
    let executions := [plainAt 0x1000, branchAt 0x1004 0x1010, svcAt 0x1010]
    ∃ finished : InstructionInfoManager .aarch64,
      finished.logger.lines.map (·.info.seq) = [0, 1] ∧
      (tracer.lineRequests
        { moduleRange := ⟨0x1000, 0x1fff⟩
          dispatchManager := bareDispatchers
          logger := { fileLog := true, moduleRange := ⟨0x1000, 0x1fff⟩ } } true
        (tracer.recordedExecutions executions)).foldlM LoggerManager.write
          { fileLog := true, moduleRange := ⟨0x1000, 0x1fff⟩ } = .ok finished.logger := by
  intro tracer executions
  have safe : (tracer.recordedExecutions executions).IsChain (SafeNeighbours true) := by decide
  obtain ⟨finished, -, logged, shown⟩ := run_logs (tracedModule_fresh true []) safe (by rfl)
  obtain ⟨added, lines, agree⟩ := shown rfl
  refine ⟨finished, ?_, logged⟩
  rw [lines, List.map_append, LogLine.map_seq_shown agree]
  rfl

end InstructionTracerManager

end QbdiTracer
