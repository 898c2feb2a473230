import QbdiTracer.DumpEntries
import QbdiTracer.InitCalls
import QbdiTracer.Library.EventLog

/-! Every call a client can make on the tracer, in any order, and what they do to the
module range that the tracer, its info manager and the logger each keep a copy of. -/

namespace QbdiTracer

open FlowRun EventLog

variable {arch : Arch}

namespace LoggerManager

variable {logger middle after : LoggerManager arch} {process : Process arch}

/-- `after` differs from `logger` in the blocks and the lines only. -/
def Frame (logger after : LoggerManager arch) : Prop :=
  after = { logger with memoryManager := after.memoryManager, lines := after.lines }

theorem Frame.refl (logger : LoggerManager arch) : Frame logger logger := rfl

theorem Frame.trans (head : Frame logger middle) (tail : Frame middle after) :
    Frame logger after := by
  rw [Frame, tail, head]

theorem trackMemory_frame {info : InstTraceInfo arch} {block : Option (MemoryInfo arch)}
    (done : logger.trackMemory process info = .ok (after, block)) : Frame logger after := by
  simp only [trackMemory] at done
  split at done
  · cases done
    rfl
  · split at done
    · cases done
      rfl
    · split at done
      · cases done
      · cases done
        rfl

theorem formatAccess_frame {access : MemoryAccess arch} {entry : AccessInfo arch}
    (done : logger.formatAccess process access = .ok (after, entry)) : Frame logger after := by
  simp only [formatAccess] at done
  split at done
  · cases done
    rfl
  · split at done
    · cases done
    · cases done
      rfl

theorem formatAccessInfo_frame {accesses : List (MemoryAccess arch)}
    {entries : List (AccessInfo arch)}
    (done : logger.formatAccessInfo process accesses = .ok (after, entries)) :
    Frame logger after := by
  induction accesses generalizing logger entries with
  | nil =>
    cases done
    rfl
  | cons access rest ih =>
    obtain ⟨⟨looked, entry⟩, first, rest⟩ := bind_ok done
    obtain ⟨⟨finished, later⟩, others, listed⟩ := bind_ok rest
    cases listed
    exact (formatAccess_frame first).trans (ih others)

theorem writeTraceInfo_frame {info : InstTraceInfo arch} {inst : InstAnalysis arch}
    {accesses : List (MemoryAccess arch)} {block : Option (MemoryInfo arch)}
    (done : logger.writeTraceInfo process info inst accesses = .ok (after, block)) :
    Frame logger after := by
  rcases writeTraceInfo_ok done with ⟨rfl, -⟩ | ⟨tracked, looked, entries, update, lookups, rfl⟩
  · exact .refl after
  · have same := (trackMemory_frame update).trans (formatAccessInfo_frame lookups)
    rw [same]
    rfl

/-- Lines leave everything but the blocks and the lines. -/
theorem applyAll_frame {operations : List (DumpOperation arch)}
    (done : logger.applyAll operations = .ok after) : Frame logger after := by
  refine foldlM_history (fun _ => Frame logger) (.refl logger) ?_ done
  intro past operation before next frame applied
  refine frame.trans ?_
  cases operation with
  | enable dirReady =>
    cases applied
    cases dirReady <;> rfl
  | write process info inst accesses =>
    simp only [DumpOperation.apply] at applied
    cases written : before.writeTraceInfo process info inst accesses with
    | error fault =>
      rw [written] at applied
      cases applied
    | ok pair =>
      rw [written] at applied
      cases applied
      exact writeTraceInfo_frame written
  | flush process =>
    cases applied
    rfl

end LoggerManager

namespace InstructionTracerManager

/-- The copies of the module range in the info manager and in its logger. -/
def managerRanges (tracer : InstructionTracerManager arch) :
    Option (ModuleRange arch × ModuleRange arch) :=
  tracer.infoManager.map fun manager => (manager.moduleRange, manager.logger.moduleRange)

section Ranges

variable {execution : Execution arch} {tracer after : InstructionTracerManager arch}
  {flow : VMAction}

theorem PreStep.managerRanges (step : PreStep execution tracer flow after) :
    after.managerRanges = tracer.managerRanges := by
  cases step with
  | passes => rfl
  | stops absent => rfl
  | opens status recorded present hooked =>
    simp [InstructionTracerManager.managerRanges, present, InstructionInfoManager.opened]
  | attaches present current => simp [InstructionTracerManager.managerRanges, present]

theorem postInstructionCall_managerRanges
    (done : tracer.postInstructionCall execution = .ok (flow, after)) :
    after.managerRanges = tracer.managerRanges := by
  cases posted : postInstructionCall_step done with
  | skips filtered => rfl
  | stops recorded foreign => rfl
  | posts recorded present current own hook returns writes =>
    obtain ⟨finished, found, lines, -, logged⟩ := postInstructionCall_lines present done
    cases found
    have window := (postPasses_logged returns writes).frame
    have range := congrArg LoggerManager.moduleRange (LoggerManager.applyAll_frame logged)
    simp only [managerRanges, present, Option.map_some, Option.some.injEq, Prod.mk.injEq]
    refine ⟨?_, range⟩
    rw [window]
    rfl

theorem noteExecuted_managerRanges (execution : Execution arch) (point : NativePoint)
    (tracer : InstructionTracerManager arch) :
    (tracer.noteExecuted execution point).managerRanges = tracer.managerRanges := by
  simp only [noteExecuted]
  split
  · cases present : tracer.infoManager <;> simp [managerRanges, present, InstructionInfoManager.note]
  · rfl

theorem execute_managerRanges (done : tracer.execute execution = .ok (flow, after)) :
    after.managerRanges = tracer.managerRanges := by
  apply execute_invariant (fun state => state.managerRanges = tracer.managerRanges) _ _ _ _ done
  · intro flow ready opens
    have loaded : (tracer.loadPre execution).managerRanges = tracer.managerRanges := rfl
    refine run_invariant (fun state : InstructionTracerManager arch =>
      state.managerRanges = tracer.managerRanges) ?_ loaded opens
    intro before callback flow next same fired
    exact (firePre_step fired).managerRanges.trans same
  · intro ready same
    exact (noteExecuted_managerRanges execution .beforePost ready).trans same
  · intro callbacks flow ready finished same posts
    refine run_invariant (fun state : InstructionTracerManager arch =>
      state.managerRanges = tracer.managerRanges) ?_ same posts
    intro before callback flow next same fired
    cases callback with
    | postInstruction => exact (postInstructionCall_managerRanges fired).trans same
    | preInstruction => cases fired; exact same
    | preSvc => cases fired; exact same
  · intro finished same
    exact (noteExecuted_managerRanges execution .afterPost finished).trans same

/-- The ranges of the tracer that no entry changes. -/
structure SameRanges (before after : InstructionTracerManager arch) : Prop where
  moduleRange : after.moduleRange = before.moduleRange
  recordRanges : after.recordRanges = before.recordRanges
  managerRanges : after.managerRanges = before.managerRanges

theorem SameRanges.trans {first second third : InstructionTracerManager arch}
    (head : SameRanges first second) (tail : SameRanges second third) : SameRanges first third :=
  ⟨tail.moduleRange.trans head.moduleRange, tail.recordRanges.trans head.recordRanges,
    tail.managerRanges.trans head.managerRanges⟩

theorem execute_sameRanges (done : tracer.execute execution = .ok (flow, after)) :
    SameRanges tracer after := by
  have same := execute_config done
  refine ⟨?_, ?_, execute_managerRanges done⟩
  · have range := congrArg InstructionTracerManager.moduleRange same
    cases flow <;> exact range
  · have ranges := congrArg InstructionTracerManager.recordRanges same
    cases flow <;> exact ranges

theorem enter_sameRanges {kind : EntryKind} {process : Process arch}
    {executions : List (Execution arch)}
    (entered : tracer.enter kind process executions = .ok after) : SameRanges tracer after := by
  obtain ⟨flow, returned, manager, ran, present, rfl⟩ := enter_ok entered
  have through : SameRanges (tracer.register (onceCallbacks (kind == .run))) returned :=
    run_invariant (SameRanges (tracer.register (onceCallbacks (kind == .run))))
      (fun _ _ _ _ same taken => same.trans (execute_sameRanges taken)) ⟨rfl, rfl, rfl⟩ ran
  refine ⟨through.moduleRange, through.recordRanges, Eq.trans ?_ through.managerRanges⟩
  simp [managerRanges, present, InstructionInfoManager.flush, LoggerManager.flush]

end Ranges

theorem pushRecordRange_ranges (tracer : InstructionTracerManager arch)
    (range : ModuleRange arch) :
    (tracer.pushRecordRange range).1.moduleRange = tracer.moduleRange ∧
      (tracer.pushRecordRange range).1.managerRanges = tracer.managerRanges := by
  simp only [pushRecordRange]
  repeat' split
  all_goals exact ⟨rfl, rfl⟩

/-- A call on the logger of the current info manager; one that throws leaves it. -/
def onLogger (tracer : InstructionTracerManager arch)
    (call : LoggerManager arch → Except SpdlogEx (LogRegistry × LoggerManager arch)) :
    Except Fault (InstructionTracerManager arch) :=
  match tracer.infoManager with
  | none => .error .nullInfoManager
  | some manager =>
    match call manager.logger with
    | .error _ => .ok tracer
    | .ok (_, logger) => .ok { tracer with infoManager := some { manager with logger := logger } }

end InstructionTracerManager

/-- A call of a client on the tracer, or an entry. -/
inductive TracerCall (arch : Arch) where
  | init (call : InitCall arch)
  | addRecordRange (offset offsetEnd : Word arch)
  | addRecordRangeSize (offset size : Word arch)
  | addTraceCallbackPreHook (offset : BitVec 64) (hook : Hook arch)
  | addTraceCallbackPostHook (offset : BitVec 64) (hook : Hook arch)
  | setEnableToLogcat (registry : LogRegistry) (enable : Bool)
  | setEnableToFile (registry : LogRegistry) (dirReady enable : Bool)
  | setMemoryDumpToFile (dirReady dump : Bool)
  | enter (kind : InstructionTracerManager.EntryKind) (process : Process arch)
      (executions : List (Execution arch))

namespace TracerCall

open InstructionTracerManager (SameRanges)

def apply (tracer : InstructionTracerManager arch) :
    TracerCall arch → Except Fault (InstructionTracerManager arch)
  | .init call => .ok (call.apply tracer).1
  | .addRecordRange offset offsetEnd => .ok (tracer.addRecordRange offset offsetEnd).1
  | .addRecordRangeSize offset size => .ok (tracer.addRecordRangeSize offset size).1
  | .addTraceCallbackPreHook offset hook => .ok (tracer.addTraceCallbackPreHook offset hook)
  | .addTraceCallbackPostHook offset hook => .ok (tracer.addTraceCallbackPostHook offset hook)
  | .setEnableToLogcat registry enable => tracer.onLogger (·.setEnableToLogcat registry enable)
  | .setEnableToFile registry dirReady enable =>
    tracer.onLogger (·.setEnableToFile registry dirReady enable)
  | .setMemoryDumpToFile dirReady dump =>
    tracer.onLogger fun logger => .ok ({}, logger.setMemoryDumpToFile dirReady dump)
  | .enter kind process executions => tracer.enter kind process executions

/-- The tracer after a history of calls. -/
def applyAll (tracer : InstructionTracerManager arch) (history : List (TracerCall arch)) :
    Except Fault (InstructionTracerManager arch) :=
  history.foldlM apply tracer

variable {tracer after : InstructionTracerManager arch}

theorem onLogger_ranges
    {call : LoggerManager arch → Except SpdlogEx (LogRegistry × LoggerManager arch)}
    (keeps : ∀ logger registry updated, call logger = .ok (registry, updated) →
      updated.moduleRange = logger.moduleRange)
    (done : tracer.onLogger call = .ok after) :
    after.moduleRange = tracer.moduleRange ∧ after.managerRanges = tracer.managerRanges := by
  simp only [InstructionTracerManager.onLogger] at done
  split at done
  · cases done
  · rename_i manager present
    split at done
    · cases done
      exact ⟨rfl, rfl⟩
    · rename_i registry logger called
      cases done
      refine ⟨rfl, ?_⟩
      simp [InstructionTracerManager.managerRanges, present, keeps _ _ _ called]

/-- No call but an `init` touches the module range or its copies. -/
theorem apply_ranges {call : TracerCall arch} (other : ∀ init, call ≠ .init init)
    (done : call.apply tracer = .ok after) :
    after.moduleRange = tracer.moduleRange ∧ after.managerRanges = tracer.managerRanges := by
  cases call with
  | init call => exact absurd rfl (other call)
  | addRecordRange offset offsetEnd =>
    cases done
    exact tracer.pushRecordRange_ranges _
  | addRecordRangeSize offset size =>
    cases done
    exact tracer.pushRecordRange_ranges _
  | addTraceCallbackPreHook offset hook =>
    cases done
    exact ⟨rfl, rfl⟩
  | addTraceCallbackPostHook offset hook =>
    cases done
    exact ⟨rfl, rfl⟩
  | setEnableToLogcat registry enable =>
    simp only [apply] at done
    refine onLogger_ranges ?_ done
    intro logger registered updated called
    rw [LoggerManager.setEnableToLogcat_frame called]
  | setEnableToFile registry dirReady enable =>
    simp only [apply] at done
    refine onLogger_ranges ?_ done
    intro logger registered updated called
    rw [LoggerManager.setEnableToFile_frame called]
  | setMemoryDumpToFile dirReady dump =>
    simp only [apply] at done
    refine onLogger_ranges ?_ done
    intro logger registered updated called
    cases called
    cases dump <;> cases dirReady <;> rfl
  | enter kind process executions =>
    have same := InstructionTracerManager.enter_sameRanges done
    exact ⟨same.moduleRange, same.managerRanges⟩

end TracerCall

end QbdiTracer
