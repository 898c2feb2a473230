import QbdiTracer.DumpFile
import QbdiTracer.Library.EventLog

/-! Calls on a logger in any order: the two sinks, the dump, lines and flushes. The
memory manager that a line needs may have been dropped by then. -/

namespace QbdiTracer

open EventLog

variable {arch : Arch}

/-- A call on a `LoggerManager`. -/
inductive LoggerCall (arch : Arch) where
  | setEnableToLogcat (enable : Bool)
  | setEnableToFile (dirReady enable : Bool)
  | setMemoryDumpToFile (dirReady dump : Bool)
  | flush (process : Process arch)
  | writeTraceInfo (process : Process arch) (info : InstTraceInfo arch) (inst : InstAnalysis arch)
      (accesses : List (MemoryAccess arch))

/-- A logger in a process with its spdlog registry. -/
structure LoggerSession (arch : Arch) where
  registry : LogRegistry := {}
  logger : LoggerManager arch

/-- An exception of spdlog leaves registry and logger as they were. -/
def LoggerSession.configured (session : LoggerSession arch) :
    Except SpdlogEx (LogRegistry × LoggerManager arch) → LoggerSession arch
  | .ok (registry, logger) => ⟨registry, logger⟩
  | .error _ => session

namespace LoggerCall

def apply (session : LoggerSession arch) : LoggerCall arch → Except Fault (LoggerSession arch)
  | .setEnableToLogcat enable =>
    .ok (session.configured (session.logger.setEnableToLogcat session.registry enable))
  | .setEnableToFile dirReady enable =>
    .ok (session.configured (session.logger.setEnableToFile session.registry dirReady enable))
  | .setMemoryDumpToFile dirReady dump =>
    .ok { session with logger := session.logger.setMemoryDumpToFile dirReady dump }
  | .flush process => .ok { session with logger := session.logger.flush process }
  | .writeTraceInfo process info inst accesses =>
    (session.logger.writeTraceInfo process info inst accesses).map fun result =>
      { session with logger := result.1 }

/-- Whether the memory manager is gone after the call, given whether it was before. -/
def drops (gone : Bool) : LoggerCall arch → Bool
  | .setMemoryDumpToFile _ false => true
  | .setMemoryDumpToFile true true => false
  | _ => gone

/-- A `set_memory_dump_to_file(false)` that no later call has made good. -/
def dropped (past : List (LoggerCall arch)) : Bool := past.foldl drops false

theorem dropped_concat (past : List (LoggerCall arch)) (call : LoggerCall arch) :
    dropped (past ++ [call]) = call.drops (dropped past) := by
  simp [dropped]

end LoggerCall

/-- The line moves a block, or has an access outside the module to look up. -/
def LoggerManager.UsesTable (logger : LoggerManager arch) (info : InstTraceInfo arch)
    (accesses : List (MemoryAccess arch)) : Prop :=
  (∃ call ∈ info.funCall, call.funName ≠ "" ∧
      (call.memoryFreeAddress ≠ 0 ∨ call.memoryAllocSize ≠ 0)) ∨
    ∃ access ∈ accesses, logger.isAddressInModuleRange access.accessAddress = false

namespace LoggerManager

variable {logger : LoggerManager arch} {info : InstTraceInfo arch}
  {accesses : List (MemoryAccess arch)}

/-- Without a memory manager the block update fails exactly when there is one to make. -/
theorem trackMemory_absent (process : Process arch) (absent : logger.memoryManager = none)
    (info : InstTraceInfo arch) :
    (∃ call ∈ info.funCall, call.funName ≠ "" ∧
        (call.memoryFreeAddress ≠ 0 ∨ call.memoryAllocSize ≠ 0)) ∧
        logger.trackMemory process info = .error .nullMemoryManager ∨
      (¬ ∃ call ∈ info.funCall, call.funName ≠ "" ∧
        (call.memoryFreeAddress ≠ 0 ∨ call.memoryAllocSize ≠ 0)) ∧
        logger.trackMemory process info = .ok (logger, none) := by
  cases attached : info.funCall with
  | none => exact .inr ⟨by simp, by simp [trackMemory, attached]⟩
  | some call =>
    by_cases idle : call.funName = "" ∨ (call.memoryFreeAddress = 0 ∧ call.memoryAllocSize = 0)
    · refine .inr ⟨?_, by simp only [trackMemory, attached, if_pos idle]⟩
      rintro ⟨other, same, named, moves⟩
      cases same
      rcases idle with unnamed | ⟨noFree, noAlloc⟩
      · exact named unnamed
      · exact moves.elim (· noFree) (· noAlloc)
    · refine .inl ⟨⟨call, rfl, fun unnamed => idle (.inl unnamed), ?_⟩, ?_⟩
      · by_contra none
        exact idle (.inr ⟨not_not.mp (not_or.mp none).1, not_not.mp (not_or.mp none).2⟩)
      · simp only [trackMemory, attached, if_neg idle, absent]

/-- Without a memory manager the access list fails exactly when it leaves the module. -/
theorem formatAccessInfo_absent (process : Process arch) (absent : logger.memoryManager = none)
    (accesses : List (MemoryAccess arch)) :
    (∃ access ∈ accesses, logger.isAddressInModuleRange access.accessAddress = false) ∧
        logger.formatAccessInfo process accesses = .error .nullMemoryManager ∨
      (¬ ∃ access ∈ accesses, logger.isAddressInModuleRange access.accessAddress = false) ∧
        ∃ entries, logger.formatAccessInfo process accesses = .ok (logger, entries) := by
  induction accesses with
  | nil => exact .inr ⟨by simp, [], rfl⟩
  | cons access rest ih =>
    cases inside : logger.isAddressInModuleRange access.accessAddress with
    | false =>
      refine .inl ⟨⟨access, .head _, inside⟩, ?_⟩
      simp [formatAccessInfo, formatAccess, inside, absent, bind, Except.bind]
    | true =>
      rcases ih with ⟨⟨other, member, outside⟩, fails⟩ | ⟨none, entries, goes⟩
      · refine .inl ⟨⟨other, .tail _ member, outside⟩, ?_⟩
        simp [formatAccessInfo, formatAccess, inside, fails, bind, Except.bind]
      · refine .inr ⟨?_, ?_⟩
        · rintro ⟨other, member, outside⟩
          rcases List.mem_cons.mp member with rfl | later
          · rw [inside] at outside
            cases outside
          · exact none ⟨other, later, outside⟩
        · simp [formatAccessInfo, formatAccess, inside, goes, bind, Except.bind, pure, Except.pure]

/-- What a line comes to: it fails when it uses the table, has a sink to go to and finds
the memory manager gone, and leaves the memory manager there or gone otherwise. -/
theorem writeTraceInfo_outcome (process : Process arch) (logger : LoggerManager arch)
    (info : InstTraceInfo arch) (inst : InstAnalysis arch) (accesses : List (MemoryAccess arch)) :
    (logger.memoryManager = none ∧ logger.hasSink = true ∧ logger.UsesTable info accesses) ∧
        logger.writeTraceInfo process info inst accesses = .error .nullMemoryManager ∨
      ¬ (logger.memoryManager = none ∧ logger.hasSink = true ∧ logger.UsesTable info accesses) ∧
        ∃ after block, logger.writeTraceInfo process info inst accesses = .ok (after, block) ∧
          after.memoryManager.isSome = logger.memoryManager.isSome := by
  cases present : logger.memoryManager with
  | some manager =>
    obtain ⟨after, block, updated, written, found, -⟩ :=
      logger.writeTraceInfo_writes process present info inst accesses
    exact .inr ⟨nofun, after, block, written, by rw [found]; rfl⟩
  | none =>
    cases sink : logger.hasSink with
    | false => exact .inr ⟨nofun, logger, none, by simp [writeTraceInfo, sink], by rw [present]⟩
    | true =>
      rcases trackMemory_absent process present info with ⟨moves, fails⟩ | ⟨idle, tracked⟩
      · refine .inl ⟨⟨rfl, rfl, .inl moves⟩, ?_⟩
        simp [writeTraceInfo, sink, fails, bind, Except.bind]
      · rcases formatAccessInfo_absent process present accesses with
          ⟨outside, fails⟩ | ⟨inside, entries, looked⟩
        · refine .inl ⟨⟨rfl, rfl, .inr outside⟩, ?_⟩
          simp [writeTraceInfo, sink, tracked, fails, bind, Except.bind]
        · refine .inr ⟨fun uses => uses.2.2.elim idle inside, ?_⟩
          simp [writeTraceInfo, sink, tracked, looked, bind, Except.bind, pure, Except.pure, present]

end LoggerManager

namespace LoggerSession

open LoggerCall (drops dropped dropped_concat)
open LoggerManager (emptyProcess)

variable {start session next : LoggerSession arch} {call : LoggerCall arch}
  {history : List (LoggerCall arch)}

/-- What a call on a sink leaves of the memory manager, whether it throws or not. -/
theorem configured_memoryManager {result : Except SpdlogEx (LogRegistry × LoggerManager arch)}
    (keeps : ∀ registry logger, result = .ok (registry, logger) →
      logger.memoryManager = session.logger.memoryManager) :
    (session.configured result).logger.memoryManager = session.logger.memoryManager := by
  cases result with
  | error exception => rfl
  | ok pair => exact keeps pair.1 pair.2 rfl

/-- Only `set_memory_dump_to_file` makes and drops the memory manager. -/
theorem apply_present (applied : call.apply session = .ok next) :
    next.logger.memoryManager.isSome = !call.drops (!session.logger.memoryManager.isSome) := by
  cases call with
  | setEnableToLogcat enable =>
    cases applied
    rw [configured_memoryManager fun registry logger done => by
      rw [LoggerManager.setEnableToLogcat_frame done]]
    exact (Bool.not_not _).symm
  | setEnableToFile dirReady enable =>
    cases applied
    rw [configured_memoryManager fun registry logger done => by
      rw [LoggerManager.setEnableToFile_frame done]]
    exact (Bool.not_not _).symm
  | setMemoryDumpToFile dirReady dump =>
    cases applied
    cases dump <;> cases dirReady <;> simp [LoggerManager.setMemoryDumpToFile, drops]
  | flush process =>
    cases applied
    simp [LoggerManager.flush, drops]
  | writeTraceInfo process info inst accesses =>
    rcases session.logger.writeTraceInfo_outcome process info inst accesses with
      ⟨-, fails⟩ | ⟨-, after, block, written, same⟩
    · simp [LoggerCall.apply, fails, Except.map] at applied
    · simp only [LoggerCall.apply, written, Except.map, Except.ok.injEq] at applied
      rw [← applied, same]
      exact (Bool.not_not _).symm

/-- The state after a history of calls. -/
def applyAll (session : LoggerSession arch) (history : List (LoggerCall arch)) :
    Except Fault (LoggerSession arch) :=
  history.foldlM LoggerCall.apply session

theorem applyAll_present (constructed : start.logger.memoryManager.isSome = true)
    (reached : start.applyAll history = .ok session) :
    session.logger.memoryManager.isSome = !dropped history := by
  refine foldlM_history (fun past (session : LoggerSession arch) =>
    session.logger.memoryManager.isSome = !dropped past) constructed ?_ reached
  intro past call before next there applied
  rw [apply_present applied, there, Bool.not_not, dropped_concat]

/-- A line that is to be written after the memory manager was dropped does not use it. -/
def Guarded (start : LoggerSession arch) (past : List (LoggerCall arch)) :
    LoggerCall arch → Prop
  | .writeTraceInfo _ info _ accesses => ∀ session, start.applyAll past = .ok session →
      dropped past = true → session.logger.hasSink = true →
      ¬ session.logger.UsesTable info accesses
  | _ => True

theorem applyAll_fault {fault : Fault} (failed : start.applyAll history = .error fault) :
    fault = .nullMemoryManager := by
  refine foldlM_error (· = .nullMemoryManager) ?_ failed
  intro session call fault failed
  cases call with
  | setEnableToLogcat enable => cases failed
  | setEnableToFile dirReady enable => cases failed
  | setMemoryDumpToFile dirReady dump => cases failed
  | flush process => cases failed
  | writeTraceInfo process info inst accesses =>
    simp only [LoggerCall.apply] at failed
    rcases session.logger.writeTraceInfo_outcome process info inst accesses with
      ⟨-, fails⟩ | ⟨-, after, block, written, -⟩
    · rw [fails] at failed
      cases failed
      rfl
    · rw [written] at failed
      cases failed

/-- One call goes through exactly when it is guarded. -/
theorem apply_ok_iff (constructed : start.logger.memoryManager.isSome = true)
    (reached : start.applyAll history = .ok session) (call : LoggerCall arch) :
    (∃ next, call.apply session = .ok next) ↔ start.Guarded history call := by
  cases call with
  | setEnableToLogcat enable => exact iff_of_true ⟨_, rfl⟩ trivial
  | setEnableToFile dirReady enable => exact iff_of_true ⟨_, rfl⟩ trivial
  | setMemoryDumpToFile dirReady dump => exact iff_of_true ⟨_, rfl⟩ trivial
  | flush process => exact iff_of_true ⟨_, rfl⟩ trivial
  | writeTraceInfo process info inst accesses =>
    have there := applyAll_present constructed reached
    rcases session.logger.writeTraceInfo_outcome process info inst accesses with
      ⟨⟨absent, sink, uses⟩, fails⟩ | ⟨safe, after, block, written, -⟩
    · have gone : dropped history = true := by simpa [absent] using there
      refine iff_of_false ?_ fun guarded => guarded session reached gone sink uses
      rintro ⟨next, applied⟩
      simp only [LoggerCall.apply, fails, Except.map] at applied
      cases applied
    · refine iff_of_true ⟨{ session with logger := after }, ?_⟩ ?_
      · simp only [LoggerCall.apply, written, Except.map]
      · intro other same gone sink uses
        cases reached.symm.trans same
        have absent : session.logger.memoryManager = none := by simpa [gone] using there
        exact safe ⟨absent, sink, uses⟩

/-- No call of a history dereferences a null memory manager exactly when every line that
uses the table, with a sink to go to, comes while the memory manager is there. -/
theorem neverNull_iff (constructed : start.logger.memoryManager.isSome = true)
    (history : List (LoggerCall arch)) :
    start.applyAll history ≠ .error .nullMemoryManager ↔ Always start.Guarded history := by
  have goes : (∃ final, start.applyAll history = .ok final) ↔ Always start.Guarded history :=
    foldlM_ok_iff (fun past call session reached => apply_ok_iff constructed reached call) history
  rw [← goes]
  constructor
  · intro safe
    cases ran : start.applyAll history with
    | ok final => exact ⟨final, rfl⟩
    | error fault => exact absurd (applyAll_fault ran ▸ ran) safe
  · rintro ⟨final, ran⟩
    rw [ran]
    exact nofun

/-- A line with an access outside the module. -/
def heapLine : LoggerCall .aarch64 :=
  .writeTraceInfo emptyProcess { seq := 0, pc := 0x1000 } { address := 0x1000 }
    [⟨0x5000, 1, 8, .read⟩]

def newLogger : LoggerManager .aarch64 := { moduleRange := ⟨0x1000, 0x2000⟩ }

/-- The dump is switched off and on again before the line. -/
theorem neverNull_iff_dumping :
    LoggerSession.applyAll { logger := newLogger }
      [.setEnableToLogcat true, .setMemoryDumpToFile true false,
        .setMemoryDumpToFile true true, heapLine] ≠ .error .nullMemoryManager := by
  apply (neverNull_iff rfl _).mpr
  refine always_cons.mpr ⟨trivial, always_cons.mpr ⟨trivial, always_cons.mpr ⟨trivial, ?_⟩⟩⟩
  refine always_singleton.mpr fun session reached gone => ?_
  cases gone

/-- The dump is switched off and logcat left on. -/
theorem line_without_manager :
    LoggerSession.applyAll { logger := newLogger }
      [.setEnableToLogcat true, .setMemoryDumpToFile true false, heapLine] =
        .error .nullMemoryManager := by
  rfl

end LoggerSession

end QbdiTracer
