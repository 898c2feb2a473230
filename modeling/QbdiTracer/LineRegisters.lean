import QbdiTracer.TraceLog

/-! The registers on a line, over runs of any shape: records are copied, opened and
written again, and never mix two executions. -/

namespace QbdiTracer

open FlowRun

variable {arch : Arch}

theorem LoggerManager.write_lines {logger written : LoggerManager arch}
    {request : WriteRequest arch} (done : logger.write request = .ok written) :
    written.lines = logger.lines ∨
      ∃ line, line.Shows request ∧ written.lines = logger.lines ++ [line] := by
  cases sink : logger.hasSink with
  | true => exact .inr (write_ok sink done).2
  | false =>
    rw [write, writeTraceInfo, sink] at done
    cases done
    exact .inl rfl

/-- The call and the analysis kept in a record do not matter to the property. -/
def CallBlind (shown : InstTraceInfo arch → Prop) : Prop :=
  ∀ info funCall instAnalysis, shown info → shown { info with funCall, instAnalysis }

theorem CallBlind.svcInfo {shown : InstTraceInfo arch → Prop} (blind : CallBlind shown)
    {info : InstTraceInfo arch} (execution : Execution arch) (held : shown info) :
    shown (svcInfo execution info) := by
  rw [QbdiTracer.svcInfo]
  split
  · exact held
  · exact blind info _ _ held

/-- The window's records and the lines since `before` all have the property, and a line
is written with an analysis of its own address. -/
structure ShowsOnly (shown : InstTraceInfo arch → Prop) (before : List (LogLine arch))
    (window : InstructionInfoManager arch) : Prop where
  previous : ∀ info ∈ window.preInfo, shown info
  current : ∀ info ∈ window.curInfo, shown info
  lines : ∀ line ∈ window.logger.lines,
    line ∈ before ∨ shown line.info ∧ line.inst.address = line.info.pc

namespace ShowsOnly

variable {shown : InstTraceInfo arch → Prop} {before : List (LogLine arch)}
  {window written : InstructionInfoManager arch} {process : Process arch} {now : Nat}
  {inst : InstAnalysis arch} {accesses : List (MemoryAccess arch)}

theorem mono {wider : InstTraceInfo arch → Prop} (imp : ∀ info, shown info → wider info)
    (only : ShowsOnly shown before window) : ShowsOnly wider before window where
  previous info member := imp info (only.previous info member)
  current info member := imp info (only.current info member)
  lines line member := by
    rcases only.lines line member with old | ⟨holds, address⟩
    · exact .inl old
    · exact .inr ⟨imp _ holds, address⟩

theorem writeSlot {slot : Option (InstTraceInfo arch)} (only : ShowsOnly shown before window)
    (held : ∀ info ∈ slot, shown info)
    (done : window.writeSlot process now inst accesses slot = .ok written) :
    ShowsOnly shown before written := by
  by_cases here : ∃ info, slot = some info ∧ info.pc = inst.address
  · obtain ⟨info, rfl, address⟩ := here
    obtain ⟨logger, journal, line, rfl⟩ := InstructionInfoManager.writeSlot_own address done
    refine ⟨only.previous, only.current, ?_⟩
    rcases LoggerManager.write_lines line with same | ⟨added, shows, appended⟩
    · rw [same]
      exact only.lines
    · rw [appended]
      intro line member
      rcases List.mem_append.mp member with earlier | last
      · exact only.lines line earlier
      · rw [List.mem_singleton.mp last, shows.info, shows.inst]
        exact .inr ⟨held info rfl, address.symm⟩
  · have elsewhere : ∀ info ∈ slot, info.pc ≠ inst.address :=
      fun info member same => here ⟨info, member, same⟩
    rw [InstructionInfoManager.writeSlot_foreign elsewhere done]
    exact only

theorem writeTraceInfo (only : ShowsOnly shown before window)
    (done : window.writeTraceInfo process now inst accesses = .ok written) :
    ShowsOnly shown before written := by
  obtain ⟨middle, first, second⟩ := bind_ok done
  have kept := only.writeSlot only.previous first
  exact kept.writeSlot kept.current second

variable {tracer : InstructionTracerManager arch}

theorem finishPrevious (blind : CallBlind shown) (only : ShowsOnly shown before window)
    (done : tracer.finishPrevious process window = .ok written) :
    ShowsOnly shown before written := by
  cases present : window.preInfo with
  | none =>
    simp only [InstructionTracerManager.finishPrevious, present] at done
    cases done
    exact only
  | some prev =>
    cases attached : prev.funCall with
    | none =>
      simp only [InstructionTracerManager.finishPrevious, present, attached] at done
      cases done
      exact only
    | some call =>
      cases analysis : prev.instAnalysis with
      | none =>
        simp only [InstructionTracerManager.finishPrevious, present, attached, analysis] at done
        cases done
      | some inst =>
        simp only [InstructionTracerManager.finishPrevious, present, attached, analysis] at done
        obtain ⟨journal, event⟩ :=
          InstructionTracerManager.dispatchReturn_eq process tracer window attached
        rw [event] at done
        have ready : ShowsOnly shown before { window with
            preInfo := some (tracer.returnedInfo process window prev), journal } := by
          refine ⟨?_, only.current, only.lines⟩
          rintro _ ⟨⟩
          exact blind prev _ _ (only.previous prev present)
        exact ready.writeTraceInfo done

theorem writeCurrent {execution : Execution arch} {info : InstTraceInfo arch}
    (only : ShowsOnly shown before window)
    (done : tracer.writeCurrent execution window info = .ok written) :
    ShowsOnly shown before written := by
  rw [InstructionTracerManager.writeCurrent] at done
  split at done
  · cases done
    exact only
  · exact only.writeTraceInfo done

end ShowsOnly

namespace InstructionTracerManager

/-- The record has the number, the address and the registers of one execution. -/
structure RegistersOf (tracer : InstructionTracerManager arch) (entry : Execution arch × Nat)
    (info : InstTraceInfo arch) : Prop where
  seq : info.seq = entry.2
  pc : info.pc = entry.1.pc
  preStatus : info.preStatus = tracer.statusBefore entry.1
  postStatus : info.postStatus = ({} : TraceVmStatus arch).save (tracer.stateAfter entry.1).vm

/-- The record of one of the executions, whatever call it carries. -/
def RecordedAmong (tracer : InstructionTracerManager arch) (entries : List (Execution arch × Nat))
    (info : InstTraceInfo arch) : Prop :=
  ∃ entry ∈ entries, tracer.RegistersOf entry info

theorem recordedAmong_callBlind (tracer : InstructionTracerManager arch)
    (entries : List (Execution arch × Nat)) : CallBlind (tracer.RecordedAmong entries) := by
  intro info _ _ recorded
  obtain ⟨entry, member, same⟩ := recorded
  exact ⟨entry, member, same.seq, same.pc, same.preStatus, same.postStatus⟩

theorem RecordedAmong.append {tracer : InstructionTracerManager arch}
    {entries : List (Execution arch × Nat)} {info : InstTraceInfo arch}
    (recorded : tracer.RecordedAmong entries info) (later : List (Execution arch × Nat)) :
    tracer.RecordedAmong (entries ++ later) info := by
  obtain ⟨entry, member, same⟩ := recorded
  exact ⟨entry, List.mem_append_left later member, same⟩

section Run

variable {tracer reached after : InstructionTracerManager arch}
  {window : InstructionInfoManager arch} {svcHook : Bool} {before : List (LogLine arch)}
  {entries : List (Execution arch × Nat)} {seq : Nat} {execution : Execution arch}
  {flow : VMAction}

/-- Reached from `tracer`, with no record or line but those of `entries`. -/
structure Attributes (tracer : InstructionTracerManager arch) (before : List (LogLine arch))
    (entries : List (Execution arch × Nat)) (seq : Nat) (reached : InstructionTracerManager arch)
    (window : InstructionInfoManager arch) : Prop where
  present : reached.infoManager = some window
  config : reached.config = config { tracer with vm := { tracer.vm with clock := seq } }
  only : ShowsOnly (tracer.RecordedAmong entries) before window

theorem Attributes.reached_eq (attributes : Attributes tracer before entries seq reached window) :
    ∃ vm, reached = { tracer with vm, infoManager := some window } ∧
      vm.callbacks = tracer.vm.callbacks ∧ vm.clock = seq := by
  have same := eq_of_config attributes.config
  rw [attributes.present] at same
  exact ⟨_, same, rfl, rfl⟩

theorem Attributes.skips (attributes : Attributes tracer before entries seq reached window)
    (once : tracer.vm.callbacks = onceCallbacks svcHook)
    (outside : tracer.isNeedRecord execution.pc = false)
    (done : reached.execute execution = .ok (flow, after)) :
    flow = .next ∧ ∃ finished, Attributes tracer before entries (seq + 1) after finished := by
  have config := attributes.config
  have only := attributes.only
  obtain ⟨vm, rfl, callbacks, -⟩ := attributes.reached_eq
  obtain ⟨rfl, curInfo, journal, present, changed⟩ :=
    execute_unrecorded (callbacks.trans once) outside done
  refine ⟨rfl, _, present, execute_ticks config done, only.previous, ?_, only.lines⟩
  rcases changed with same | ⟨info, held, attached⟩
  · rw [same]
    exact only.current
  · rw [attached]
    rintro _ ⟨⟩
    exact (tracer.recordedAmong_callBlind entries).svcInfo execution (only.current info held)

theorem Attributes.records (attributes : Attributes tracer before entries seq reached window)
    (once : tracer.vm.callbacks = onceCallbacks svcHook)
    (passes : tracer.isNeedRecord execution.pc = true)
    (done : reached.execute execution = .ok (flow, after)) :
    flow = .next ∧ ∃ finished,
      Attributes tracer before (entries ++ [(execution, seq)]) (seq + 1) after finished := by
  have config := attributes.config
  have only := attributes.only.mono fun _ recorded => recorded.append [(execution, seq)]
  obtain ⟨vm, rfl, callbacks, rfl⟩ := attributes.reached_eq
  have blind := tracer.recordedAmong_callBlind (entries ++ [(execution, vm.clock)])
  obtain ⟨rfl, hooked, _, returned, written, noted, hookedEq, ⟨opened, rfl⟩, returns, writes,
    rfl⟩ := execute_passes (callbacks.trans once) passes done
  have saved : tracer.RegistersOf (execution, vm.clock) (hooked.savedInfo
      (preparedInfo execution svcHook vm.clock (tracer.statusBefore execution))) := by
    refine ⟨rfl, rfl, rfl, ?_⟩
    rw [hookedEq]
    rfl
  have shifts : ∀ info ∈ (window.opened (preparedInfo execution svcHook vm.clock
      (tracer.statusBefore execution))).preInfo,
      tracer.RecordedAmong (entries ++ [(execution, vm.clock)]) info := by
    intro info member
    rw [InstructionInfoManager.opened] at member
    cases current : window.curInfo with
    | none =>
      rw [current] at member
      exact only.previous info member
    | some last =>
      rw [current] at member
      cases member
      exact only.current _ current
  rw [dispatchCurrent_eq rfl] at returns
  have finished : ShowsOnly (tracer.RecordedAmong (entries ++ [(execution, vm.clock)])) before
      returned := ShowsOnly.finishPrevious blind (by
    refine ⟨shifts, ?_, only.lines⟩
    rintro _ ⟨⟩
    exact blind _ _ _ ⟨_, List.mem_append_right entries (List.mem_singleton_self _), saved⟩) returns
  have wrote := finished.writeCurrent writes
  exact ⟨rfl, _, rfl, execute_ticks config done, wrote.previous, wrote.current, wrote.lines⟩

theorem Attributes.run {executions : List (Execution arch)}
    (attributes : Attributes tracer before entries seq reached window)
    (once : tracer.vm.callbacks = onceCallbacks svcHook)
    (ran : FlowRun.run execute reached executions = .ok (flow, after)) :
    ∃ finished, Attributes tracer before (entries ++ tracer.recordedFrom seq executions)
      (seq + executions.length) after finished := by
  induction executions generalizing entries seq reached window with
  | nil =>
    cases ran
    exact ⟨window, by simpa [recordedFrom] using attributes⟩
  | cons execution executions ih =>
    have count : seq + (execution :: executions).length = seq + 1 + executions.length := by
      rw [List.length_cons]
      omega
    rw [recordedFrom_cons, count, ← List.append_assoc]
    cases taken : reached.execute execution with
    | error fault =>
      rw [run_cons, taken] at ran
      cases ran
    | ok outcome =>
      obtain ⟨verdict, next⟩ := outcome
      cases passes : tracer.isNeedRecord execution.pc with
      | true =>
        obtain ⟨rfl, middle, later⟩ := attributes.records once passes taken
        rw [run_cons_next taken] at ran
        exact ih later ran
      | false =>
        obtain ⟨rfl, middle, later⟩ := attributes.skips once passes taken
        rw [run_cons_next taken] at ran
        rw [if_neg Bool.false_ne_true, List.append_nil]
        exact ih later ran

end Run

/-- Whatever a run repeats, each line shows the registers before and after one recorded
execution, under its number, with an analysis of its address. -/
theorem run_lines_registers {tracer after : InstructionTracerManager arch}
    {manager : InstructionInfoManager arch} {svcHook : Bool} {executions : List (Execution arch)}
    {flow : VMAction} (fresh : tracer.Fresh manager svcHook)
    (ran : run execute tracer executions = .ok (flow, after)) :
    ∃ finished, after.infoManager = some finished ∧
      ∀ line ∈ finished.logger.lines, line ∈ manager.logger.lines ∨
        ∃ entry ∈ tracer.recordedExecutions executions,
          tracer.RegistersOf entry line.info ∧ line.inst.address = entry.1.pc := by
  have starts : Attributes tracer manager.logger.lines [] tracer.vm.clock tracer manager := by
    refine ⟨fresh.present, rfl, ?_, ?_, fun line member => .inl member⟩
    · simp [fresh.noPre]
    · simp [fresh.noCur]
  obtain ⟨finished, attributes⟩ := starts.run fresh.callbacks ran
  refine ⟨finished, attributes.present, fun line member => ?_⟩
  rcases attributes.only.lines line member with old | ⟨⟨entry, recorded, same⟩, address⟩
  · exact .inl old
  · exact .inr ⟨entry, recorded, same, address.trans same.pc⟩

/-- The loop whose first record is written twice. -/
theorem run_lines_registers_loop :
    let tracer := tracedModule (onceCallbacks true) [⟨0x1000, 0x1004⟩]
    let executions := [plainAt 0x1000, branchAt 0x1004 0x1000, plainAt 0x1000]
    ∃ flow after finished, run execute tracer executions = .ok (flow, after) ∧
      after.infoManager = some finished ∧ ∀ line ∈ finished.logger.lines,
        ∃ entry ∈ tracer.recordedExecutions executions,
          tracer.RegistersOf entry line.info ∧ line.inst.address = entry.1.pc := by
  intro tracer executions
  obtain ⟨flow, after, ran⟩ : ∃ flow after, run execute tracer executions = .ok (flow, after) :=
    ⟨_, _, by rfl⟩
  obtain ⟨finished, present, shown⟩ := run_lines_registers (tracedModule_fresh true _) ran
  refine ⟨flow, after, finished, ran, present, fun line member => ?_⟩
  rcases shown line member with old | new
  · cases old
  · exact new

end InstructionTracerManager

end QbdiTracer
