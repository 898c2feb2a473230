import QbdiTracer.DumpFile
import QbdiTracer.Entries

/-! A tracer entry seen from the logger: the lines it writes, then one flush. -/

namespace QbdiTracer

open FlowRun

variable {arch : Arch}

def DumpOperation.isWrite : DumpOperation arch → Bool
  | .write _ _ _ _ => true
  | _ => false

theorem LoggerManager.applyAll_append (logger : LoggerManager arch)
    (first second : List (DumpOperation arch)) :
    logger.applyAll (first ++ second) =
      (logger.applyAll first).bind fun middle => middle.applyAll second := by
  simp only [applyAll, List.foldlM_append]
  rfl

namespace InstructionInfoManager

/-- The logger went from one state to the other by writing lines. -/
def Lines (before after : InstructionInfoManager arch) : Prop :=
  ∃ lines : List (DumpOperation arch), (∀ line ∈ lines, line.isWrite = true) ∧
    before.logger.applyAll lines = .ok after.logger

theorem Lines.of_same {before after : InstructionInfoManager arch}
    (same : after.logger = before.logger) : Lines before after :=
  ⟨[], by simp, by rw [same]; rfl⟩

theorem Lines.trans {first second third : InstructionInfoManager arch} (head : Lines first second)
    (tail : Lines second third) : Lines first third := by
  obtain ⟨lines, writes, done⟩ := head
  obtain ⟨more, writesMore, finished⟩ := tail
  refine ⟨lines ++ more, ?_, ?_⟩
  · intro line member
    rcases List.mem_append.mp member with early | late
    · exact writes line early
    · exact writesMore line late
  · rw [LoggerManager.applyAll_append, done]
    exact finished

theorem writeSlot_lines {process : Process arch} {now : Nat} {inst : InstAnalysis arch}
    {accesses : List (MemoryAccess arch)} {manager written : InstructionInfoManager arch}
    {slot : Option (InstTraceInfo arch)}
    (done : manager.writeSlot process now inst accesses slot = .ok written) :
    Lines manager written := by
  rcases writeSlot_ok done with ⟨-, rfl⟩ | ⟨info, logger, block, -, -, line, rfl⟩
  · exact .of_same rfl
  · refine ⟨[.write process info inst accesses], by simp [DumpOperation.isWrite], ?_⟩
    simp [LoggerManager.applyAll, DumpOperation.apply, line, Except.map]

theorem writeTraceInfo_lines {process : Process arch} {now : Nat} {inst : InstAnalysis arch}
    {accesses : List (MemoryAccess arch)} {manager written : InstructionInfoManager arch}
    (done : manager.writeTraceInfo process now inst accesses = .ok written) :
    Lines manager written := by
  obtain ⟨middle, first, second⟩ := FlowRun.bind_ok done
  exact (writeSlot_lines first).trans (writeSlot_lines second)

end InstructionInfoManager

namespace InstructionTracerManager

open InstructionInfoManager (Lines)

section Callbacks

variable {execution : Execution arch} {process : Process arch}
  {tracer after : InstructionTracerManager arch} {manager finished : InstructionInfoManager arch}
  {flow : VMAction}

theorem finishPrevious_lines (done : tracer.finishPrevious process manager = .ok finished) :
    Lines manager finished := by
  simp only [finishPrevious] at done
  split at done
  · cases done
    exact .of_same rfl
  · split at done
    · cases done
      exact .of_same rfl
    · split at done
      · cases done
      · refine Lines.trans ?_ (InstructionInfoManager.writeTraceInfo_lines done)
        refine .of_same ?_
        split <;> rfl

theorem writeCurrent_lines {info : InstTraceInfo arch}
    (done : tracer.writeCurrent execution manager info = .ok finished) : Lines manager finished := by
  simp only [writeCurrent] at done
  split at done
  · cases done
    exact .of_same rfl
  · exact InstructionInfoManager.writeTraceInfo_lines done

theorem dispatchCurrent_logger (process : Process arch) (tracer : InstructionTracerManager arch)
    (manager : InstructionInfoManager arch) (info : InstTraceInfo arch) :
    (tracer.dispatchCurrent process manager info).logger = manager.logger := by
  simp only [dispatchCurrent]
  split
  · rfl
  · split <;> rfl

theorem postInstructionCall_lines (present : tracer.infoManager = some manager)
    (done : tracer.postInstructionCall execution = .ok (flow, after)) :
    ∃ finished, after.infoManager = some finished ∧ Lines manager finished := by
  cases postInstructionCall_step done with
  | skips filtered => exact ⟨manager, present, .of_same rfl⟩
  | stops recorded foreign => exact ⟨manager, present, .of_same rfl⟩
  | posts recorded found current own hook returns writes =>
    cases found.symm.trans present
    have lines := (finishPrevious_lines returns).trans (writeCurrent_lines writes)
    refine ⟨_, rfl, Lines.trans (.of_same ?_) lines⟩
    exact dispatchCurrent_logger ..

/-- The state keeps its info manager, whose logger has written lines only. -/
def Logs (manager : InstructionInfoManager arch) (tracer : InstructionTracerManager arch) : Prop :=
  ∃ middle, tracer.infoManager = some middle ∧ Lines manager middle

theorem Logs.noteExecuted (logs : Logs manager tracer) (execution : Execution arch)
    (point : NativePoint) : Logs manager (tracer.noteExecuted execution point) := by
  obtain ⟨middle, found, lines⟩ := logs
  simp only [InstructionTracerManager.noteExecuted]
  split
  · refine ⟨middle.note (.executed tracer.vm.clock), ?_, lines.trans (.of_same rfl)⟩
    simp [found]
  · exact ⟨middle, found, lines⟩

theorem Logs.firePre {callbacks : List CallbackKind} (logs : Logs manager tracer)
    (done : run (firePre execution) tracer callbacks = .ok (flow, after)) : Logs manager after := by
  obtain ⟨middle, found, lines⟩ := logs
  obtain ⟨-, opened, here, same, -⟩ := firePre_quiet found done
  exact ⟨opened, here, lines.trans (.of_same same)⟩

theorem Logs.firePost {callbacks : List CallbackKind} (logs : Logs manager tracer)
    (done : run (firePost execution) tracer callbacks = .ok (flow, after)) : Logs manager after := by
  refine run_invariant (Logs manager) ?_ logs done
  rintro before callback flow next ⟨middle, found, lines⟩ fired
  cases callback with
  | preInstruction => cases fired; exact ⟨middle, found, lines⟩
  | preSvc => cases fired; exact ⟨middle, found, lines⟩
  | postInstruction =>
    obtain ⟨finished, ended, more⟩ := postInstructionCall_lines found fired
    exact ⟨finished, ended, lines.trans more⟩

theorem Logs.execute (logs : Logs manager tracer)
    (done : tracer.execute execution = .ok (flow, after)) : Logs manager after := by
  have loaded : Logs manager (tracer.loadPre execution) := logs
  apply execute_invariant (Logs manager) _ _ _ _ done
  · exact loaded.firePre
  · exact fun logs => logs.noteExecuted execution .beforePost
  · exact Logs.firePost
  · exact fun logs => logs.noteExecuted execution .afterPost

/-- An entry is a list of lines and the flush at its end, whatever it traces. -/
theorem enter_operations {kind : EntryKind} {executions : List (Execution arch)}
    (present : tracer.infoManager = some manager)
    (entered : tracer.enter kind process executions = .ok after) :
    ∃ lines finished, (∀ line ∈ lines, DumpOperation.isWrite line = true) ∧
      after.infoManager = some finished ∧
      manager.logger.applyAll (lines ++ [.flush process]) = .ok finished.logger := by
  obtain ⟨flow, returned, last, ran, found, rfl⟩ := enter_ok entered
  have registered : Logs manager (tracer.register (onceCallbacks (kind == .run))) :=
    ⟨manager, present, .of_same rfl⟩
  obtain ⟨middle, here, lines, writes, done⟩ :=
    run_invariant (Logs manager) (fun _ _ _ _ logs taken => logs.execute taken) registered ran
  cases here.symm.trans found
  refine ⟨lines, last.flush process, writes, rfl, ?_⟩
  rw [LoggerManager.applyAll_concat, done]
  rfl

end Callbacks

end InstructionTracerManager

end QbdiTracer
