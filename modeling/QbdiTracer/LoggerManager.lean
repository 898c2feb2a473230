import QbdiTracer.MemoryManager

/-! `trace/logger_manager.cpp`: the two text sinks, and the block tracking that
`write_trace_info` performs before it formats a line. -/

namespace QbdiTracer

variable {arch : Arch}

/-- Where a logged memory access falls. -/
inductive AccessPlace (arch : Arch) where
  | moduleOffset (offset : Word arch)
  | memoryBlock (offset : Word arch) (index : Nat)
  deriving DecidableEq

/-- One entry of the access list of a line. -/
structure AccessInfo (arch : Arch) where
  access : MemoryAccess arch
  place : AccessPlace arch
  deriving DecidableEq

/-- What one line is formatted from: the record, the analysis it is written
with, and the resolved memory accesses. -/
structure LogLine (arch : Arch) where
  info : InstTraceInfo arch
  inst : InstAnalysis arch
  accesses : List (AccessInfo arch)

/-- The names in spdlog's process-wide registry. Dropping the `shared_ptr` of a
logger leaves its name there. -/
structure LogRegistry where
  names : List String := []
  deriving DecidableEq

/-- `spdlog::spdlog_ex`. -/
structure SpdlogEx where
  what : String
  deriving DecidableEq

/-- `register_logger_`, which each factory function ends with. -/
def LogRegistry.registerLogger (registry : LogRegistry) (name : String) :
    Except SpdlogEx LogRegistry :=
  if name ∈ registry.names then .error ⟨"logger with name '" ++ name ++ "' already exists"⟩
  else .ok { names := name :: registry.names }

structure LoggerManager (arch : Arch) where
  /-- The constructor makes one; `set_memory_dump_to_file(false)` resets it. -/
  memoryManager : Option (MemoryManager arch) := some {}
  logcat : Bool := false
  fileLog : Bool := false
  moduleName : String := ""
  moduleRange : ModuleRange arch
  /-- The lines sent to the installed sinks. -/
  lines : List (LogLine arch) := []

namespace LoggerManager

/-- `logcat != nullptr || file_log != nullptr`. -/
def hasSink (logger : LoggerManager arch) : Bool := logger.logcat || logger.fileLog

/-- Drops the sink, keeps it, or makes one through spdlog's factory. -/
def setEnableToLogcat (registry : LogRegistry) (logger : LoggerManager arch) (enable : Bool) :
    Except SpdlogEx (LogRegistry × LoggerManager arch) :=
  if enable && logger.logcat then .ok (registry, logger)
  else if !enable && logger.logcat then .ok (registry, { logger with logcat := false })
  else if enable then do
    let registered ← registry.registerLogger "logcat_itrace"
    return (registered, { logger with logcat := true })
  else .ok (registry, logger)

/-- `dirReady` is the result of `check_and_mkdir` on the trace directory. -/
def setEnableToFile (registry : LogRegistry) (logger : LoggerManager arch)
    (dirReady enable : Bool) : Except SpdlogEx (LogRegistry × LoggerManager arch) :=
  if enable then
    if !dirReady then .ok (registry, logger)
    else if logger.fileLog then .ok (registry, logger)
    else do
      let registered ← registry.registerLogger "itracer"
      return (registered, { logger with fileLog := true })
  else .ok (registry, { logger with fileLog := false })

/-- A call on a sink that returns has changed nothing else of the logger. -/
theorem setEnableToLogcat_frame {registry registered : LogRegistry}
    {logger updated : LoggerManager arch} {enable : Bool}
    (done : logger.setEnableToLogcat registry enable = .ok (registered, updated)) :
    updated = { logger with logcat := updated.logcat } := by
  simp only [setEnableToLogcat] at done
  cases registration : registry.registerLogger "logcat_itrace" <;>
    simp only [registration, bind, Except.bind, pure, Except.pure] at done
  all_goals
    repeat' split at done
    all_goals cases done
    all_goals rfl

theorem setEnableToFile_frame {registry registered : LogRegistry}
    {logger updated : LoggerManager arch} {dirReady enable : Bool}
    (done : logger.setEnableToFile registry dirReady enable = .ok (registered, updated)) :
    updated = { logger with fileLog := updated.fileLog } := by
  simp only [setEnableToFile] at done
  cases registration : registry.registerLogger "itracer" <;>
    simp only [registration, bind, Except.bind, pure, Except.pure] at done
  all_goals
    repeat' split at done
    all_goals cases done
    all_goals rfl

/-- `dirReady` as in `setEnableToFile`. -/
def setMemoryDumpToFile (logger : LoggerManager arch) (dirReady dump : Bool) :
    LoggerManager arch :=
  if dump then
    if dirReady then
      { logger with memoryManager := some (logger.memoryManager.getD {}).setDumpPath }
    else logger
  else { logger with memoryManager := none }

def flush (process : Process arch) (logger : LoggerManager arch) : LoggerManager arch :=
  { logger with memoryManager := logger.memoryManager.map (·.clear process) }

/-- Half-open, unlike the tests of the tracer and the dispatchers. -/
def isAddressInModuleRange (logger : LoggerManager arch) (addr : Word arch) : Bool :=
  decide (logger.moduleRange.base ≤ addr) && decide (addr < logger.moduleRange.stop)

/-- The block update at the top of `write_trace_info`: release, then allocate.
Also returns the block whose bytes were dumped because the call released it. -/
def updateMemory (process : Process arch) (call : InstFunCall arch) (manager : MemoryManager arch) :
    MemoryManager arch × Option (MemoryInfo arch) :=
  let (released, block) :=
    if call.memoryFreeAddress ≠ 0 then manager.removeMemory process call.memoryFreeAddress
    else (manager, none)
  let updated :=
    if call.memoryAllocSize ≠ 0 then
      (released.addMemory call.memoryAllocAddress call.memoryAllocSize).1
    else released
  (updated, if manager.memoryDumpFile.isOpen then block else none)

/-- `memory_manager` is dereferenced only when the call moves a block. -/
def trackMemory (process : Process arch) (logger : LoggerManager arch) (info : InstTraceInfo arch) :
    Except Fault (LoggerManager arch × Option (MemoryInfo arch)) :=
  match info.funCall with
  | none => .ok (logger, none)
  | some call =>
    if call.funName = "" ∨ (call.memoryFreeAddress = 0 ∧ call.memoryAllocSize = 0) then
      .ok (logger, none)
    else
      match logger.memoryManager with
      | none => .error .nullMemoryManager
      | some manager =>
        let (updated, block) := updateMemory process call manager
        .ok ({ logger with memoryManager := some updated }, block)

def formatAccess (process : Process arch) (logger : LoggerManager arch)
    (access : MemoryAccess arch) : Except Fault (LoggerManager arch × AccessInfo arch) :=
  if logger.isAddressInModuleRange access.accessAddress then
    .ok (logger, ⟨access, .moduleOffset (access.accessAddress - logger.moduleRange.base)⟩)
  else
    match logger.memoryManager with
    | none => .error .nullMemoryManager
    | some manager =>
      let (looked, offset, index) := manager.getMemoryOffset process access.accessAddress
      .ok ({ logger with memoryManager := some looked }, ⟨access, .memoryBlock offset index⟩)

def formatAccessInfo (process : Process arch) :
    LoggerManager arch → List (MemoryAccess arch) →
      Except Fault (LoggerManager arch × List (AccessInfo arch))
  | logger, [] => .ok (logger, [])
  | logger, access :: rest => do
    let (looked, entry) ← formatAccess process logger access
    let (finished, entries) ← formatAccessInfo process looked rest
    return (finished, entry :: entries)

/-- Returns the new state and the block dumped on the way, if any. -/
def writeTraceInfo (process : Process arch) (logger : LoggerManager arch) (info : InstTraceInfo arch)
    (inst : InstAnalysis arch) (memoryAccesses : List (MemoryAccess arch)) :
    Except Fault (LoggerManager arch × Option (MemoryInfo arch)) :=
  if logger.hasSink then do
    let (tracked, block) ← trackMemory process logger info
    let (looked, accesses) ← formatAccessInfo process tracked memoryAccesses
    return ({ looked with lines := looked.lines ++ [⟨info, inst, accesses⟩] }, block)
  else .ok (logger, none)

end LoggerManager

end QbdiTracer
