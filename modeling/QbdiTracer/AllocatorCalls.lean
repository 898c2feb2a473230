import QbdiTracer.Dispatch.Syscall
import QbdiTracer.LoggerManager
import Mathlib.Algebra.Group.Nat.Defs

/-! The calls that move blocks: what `record_memory_info` notes about each one,
and what `write_trace_info` then does to the table of blocks. -/

namespace QbdiTracer

variable {arch : Arch}

/-- The entries of `memory_fun_handlers` in `dispatch_libc.cpp`. -/
inductive LibcAllocator where
  | malloc
  | strdup
  | free
  | calloc
  | realloc
  | mmap
  | mmap64
  | munmap
  deriving DecidableEq, Repr

def LibcAllocator.funName : LibcAllocator → String
  | .malloc => "malloc"
  | .strdup => "strdup"
  | .free => "free"
  | .calloc => "calloc"
  | .realloc => "realloc"
  | .mmap => "mmap"
  | .mmap64 => "mmap64"
  | .munmap => "munmap"

/-- The entries of `memory_fun_handlers` in `dispatch_syscall.cpp`. -/
inductive SyscallAllocator where
  | mmap
  | mmap2
  | munmap
  deriving DecidableEq, Repr

def SyscallAllocator.funName : SyscallAllocator → String
  | .mmap => "mmap"
  | .mmap2 => "mmap2"
  | .munmap => "munmap"

inductive Allocator where
  | libc (function : LibcAllocator)
  | syscall (function : SyscallAllocator)
  deriving DecidableEq, Repr

def Allocator.funName : Allocator → String
  | .libc function => function.funName
  | .syscall function => function.funName

/-- A traced allocator call at its return: the record as the PRE callback and
`dispatch_args` left it, and the registers `dispatch_ret` is given. -/
structure AllocatorCall (arch : Arch) where
  allocator : Allocator
  process : Process arch
  info : InstTraceInfo arch
  call : InstFunCall arch
  retStatus : GPRState arch
  named : call.funName = allocator.funName
  unallocated : call.memoryAllocSize = 0
  unreleased : call.memoryFreeAddress = 0

namespace AllocatorCall

def arg0 (call : AllocatorCall arch) : Word arch := call.info.preStatus.gprState.reg 0

def arg1 (call : AllocatorCall arch) : Word arch := call.info.preStatus.gprState.reg 1

def result (call : AllocatorCall arch) : Word arch := call.retStatus.reg 0

/-- The call record after `record_memory_info`. -/
def recorded (call : AllocatorCall arch) : InstFunCall arch :=
  match call.allocator with
  | .libc _ => DispatchLibc.recordMemoryInfo call.process call.info call.call call.retStatus
  | .syscall _ => DispatchSyscall.recordMemoryInfo call.process call.info call.call call.retStatus

/-- The handler that an allocator's name selects. -/
def handler (call : AllocatorCall arch) : InstFunCall arch → InstFunCall arch :=
  match call.allocator with
  | .libc .malloc => DispatchLibc.recordMalloc call.arg0 call.result
  | .libc .strdup => DispatchLibc.recordStrdup call.process call.arg0 call.result
  | .libc .free => recordFree call.arg0
  | .libc .calloc => DispatchLibc.recordCalloc call.arg0 call.arg1 call.result
  | .libc .realloc => DispatchLibc.recordRealloc call.arg0 call.arg1 call.result
  | .libc .mmap => recordMmap call.arg1 call.result
  | .libc .mmap64 => recordMmap call.arg1 call.result
  | .libc .munmap => recordFree call.arg0
  | .syscall .mmap => recordMmap call.arg1 call.result
  | .syscall .mmap2 => recordMmap call.arg1 call.result
  | .syscall .munmap => recordFree call.arg0

theorem recorded_eq (call : AllocatorCall arch) : call.recorded = call.handler call.call := by
  have first := getArgRegisterValue_low call.process call.info.preStatus (show 0 < 4 by decide)
  have second := getArgRegisterValue_low call.process call.info.preStatus (show 1 < 4 by decide)
  have value := getRetRegisterValue_zero call.process call.retStatus
  have named := call.named
  rcases allocator : call.allocator with function | function <;> cases function <;>
    rw [allocator] at named <;>
    simp only [Allocator.funName, LibcAllocator.funName, SyscallAllocator.funName] at named <;>
    simp only [recorded, handler, allocator, DispatchLibc.recordMemoryInfo,
      DispatchSyscall.recordMemoryInfo, named, first, second, value] <;> rfl

/-- The handlers leave the name alone. -/
theorem recorded_funName (call : AllocatorCall arch) :
    call.recorded.funName = call.allocator.funName := by
  rw [recorded_eq, ← call.named]
  rcases allocator : call.allocator with function | function <;> cases function <;>
    simp only [handler, allocator, DispatchLibc.recordMalloc, DispatchLibc.recordStrdup,
      DispatchLibc.recordCalloc, DispatchLibc.recordRealloc, recordMmap, recordFree] <;>
    repeat' split
  all_goals rfl

theorem recorded_named (call : AllocatorCall arch) : call.recorded.funName ≠ "" := by
  rw [recorded_funName]
  rcases call.allocator with function | function <;> cases function <;> decide

/-- The block table after the call's line. -/
def track (manager : MemoryManager arch) (call : AllocatorCall arch) : MemoryManager arch :=
  (LoggerManager.updateMemory call.process call.recorded manager).1

/-- `write_trace_info` on the record of the call. The line of a call is written
by the next instruction, without memory accesses. -/
def write (logger : LoggerManager arch) (inst : InstAnalysis arch) (call : AllocatorCall arch) :
    Except Fault (LoggerManager arch) :=
  (logger.writeTraceInfo call.process { call.info with funCall := some call.recorded } inst []).map
    Prod.fst

/-- With a sink, the line of a call updates the table by `track`. -/
theorem write_memoryManager {logger : LoggerManager arch} {manager : MemoryManager arch}
    (present : logger.memoryManager = some manager) (inst : InstAnalysis arch)
    (call : AllocatorCall arch) :
    ∃ after, write logger inst call = .ok after ∧
      after.memoryManager = some (if logger.hasSink then track manager call else manager) := by
  cases sink : logger.hasSink with
  | false => exact ⟨logger, by simp [write, LoggerManager.writeTraceInfo, sink, Except.map], by simpa⟩
  | true =>
    have named := call.recorded_named
    by_cases still : call.recorded.memoryFreeAddress = 0 ∧ call.recorded.memoryAllocSize = 0
    · refine ⟨_, by
        simp [write, LoggerManager.writeTraceInfo, sink, LoggerManager.trackMemory, still,
          LoggerManager.formatAccessInfo, bind, Except.bind, pure, Except.pure, Except.map]; rfl, ?_⟩
      simp [present, track, LoggerManager.updateMemory, still]
    · refine ⟨_, by
        simp only [write, LoggerManager.writeTraceInfo, sink, LoggerManager.trackMemory, named, still,
          or_self, ↓reduceIte, present, LoggerManager.formatAccessInfo, bind, Except.bind, pure,
          Except.pure, Except.map]; rfl, ?_⟩
      simp [track]

end AllocatorCall

namespace MemoryManager

theorem removeMemory_memoryInfos (process : Process arch) (manager : MemoryManager arch)
    (addr : Word arch) :
    (manager.removeMemory process addr).1.memoryInfos =
      manager.memoryInfos.eraseP (·.start == addr) := by
  simp only [removeMemory]
  split
  · rename_i missing
    rw [List.eraseP_of_forall_not]
    exact fun info member => by simpa using List.find?_eq_none.mp missing info member
  · simp only [writeBlock, writeMemoryBuffer]
    split <;> rfl

/-- Nothing is removed exactly when no block starts at the address. -/
theorem removeMemory_eq_iff (process : Process arch) (manager : MemoryManager arch)
    (addr : Word arch) :
    (manager.removeMemory process addr).1 = manager ↔
      ∀ info ∈ manager.memoryInfos, info.start ≠ addr := by
  constructor
  · intro same info member starts
    have infos := congrArg MemoryManager.memoryInfos same
    rw [removeMemory_memoryInfos] at infos
    have lengths := congrArg List.length infos
    rw [List.length_eraseP_of_mem member (by simpa using starts)] at lengths
    have nonempty := List.length_pos_of_mem member
    omega
  · intro absent
    have missing : manager.memoryInfos.find? (·.start == addr) = none :=
      List.find?_eq_none.mpr fun info member => by simpa using absent info member
    simp [removeMemory, missing]

/-- A block is refused exactly when one of its ends is taken. -/
theorem addMemory_eq_iff (manager : MemoryManager arch) (addr size : Word arch) :
    (manager.addMemory addr size).1 = manager ↔
      manager.isInMemory addr = true ∨ manager.isInMemory (addr + size) = true := by
  simp only [addMemory, ← Bool.or_eq_true]
  by_cases taken : (manager.isInMemory addr || manager.isInMemory (addr + size)) = true
  · simp [taken]
  · rw [if_neg taken]
    refine iff_of_false (fun same => ?_) taken
    have index := congrArg MemoryManager.memoryIndex same
    simp at index

end MemoryManager

namespace AllocatorCall

/-- A call that fails by its return value: NULL, `MAP_FAILED`, `-errno` from the
kernel, or a non-zero status. -/
def Fails (call : AllocatorCall arch) : Prop :=
  match call.allocator with
  | .libc .malloc | .libc .calloc | .libc .strdup => call.result = 0
  | .libc .realloc => call.result = 0 ∧ call.arg1 ≠ 0
  | .libc .free => False
  | .libc .mmap | .libc .mmap64 => call.result = BitVec.allOnes _
  | .syscall .mmap | .syscall .mmap2 => 2 ^ arch.wordBits - 4095 ≤ call.result.toNat
  | .libc .munmap | .syscall .munmap => call.result ≠ 0

/-- No tracked block starts at the first argument. -/
def Untracked (manager : MemoryManager arch) (call : AllocatorCall arch) : Prop :=
  call.arg0 = 0 ∨ ∀ info ∈ manager.memoryInfos, info.start ≠ call.arg0

/-- The mapping has no length, or an end of it is in a tracked block. -/
def Refused (manager : MemoryManager arch) (call : AllocatorCall arch) : Prop :=
  call.arg1 = 0 ∨ manager.isInMemory call.result = true ∨
    manager.isInMemory (call.result + call.arg1) = true

/-- The calls whose failure cannot reach the table: those whose handler tests the
result, and of the others those that meet no block or are refused. -/
def Harmless (manager : MemoryManager arch) (call : AllocatorCall arch) : Prop :=
  match call.allocator with
  | .libc .malloc | .libc .calloc | .libc .strdup | .libc .free => True
  | .libc .realloc | .libc .munmap | .syscall .munmap => Untracked manager call
  | .libc .mmap | .libc .mmap64 | .syscall .mmap | .syscall .mmap2 => Refused manager call

section Track

variable {manager : MemoryManager arch} {call : AllocatorCall arch}

theorem track_unmoved (unmoved : call.recorded = call.call) : track manager call = manager := by
  simp [track, LoggerManager.updateMemory, unmoved, call.unallocated, call.unreleased]

theorem track_released (released : call.recorded = recordFree call.arg0 call.call) :
    track manager call = manager ↔ Untracked manager call := by
  by_cases null : call.arg0 = 0
  · exact iff_of_true (track_unmoved (released.trans (if_pos null))) (.inl null)
  · have same : track manager call = (manager.removeMemory call.process call.arg0).1 := by
      simp only [track, LoggerManager.updateMemory, released, recordFree, null, InstFunCall.freed,
        call.unallocated, ↓reduceIte, ne_eq, not_true_eq_false, not_false_eq_true]
    simp only [same, MemoryManager.removeMemory_eq_iff, Untracked, null, false_or]

theorem track_mapped (mapped : call.recorded = recordMmap call.arg1 call.result call.call)
    (nonzero : call.result ≠ 0) : track manager call = manager ↔ Refused manager call := by
  by_cases empty : call.arg1 = 0
  · exact iff_of_true (track_unmoved (mapped.trans (if_pos (.inl empty)))) (.inl empty)
  · have same : track manager call = (manager.addMemory call.result call.arg1).1 := by
      simp only [track, LoggerManager.updateMemory, mapped, recordMmap, empty, nonzero, or_self,
        InstFunCall.allocated, call.unreleased, ↓reduceIte, ne_eq, not_true_eq_false,
        not_false_eq_true]
    simp only [same, MemoryManager.addMemory_eq_iff, Refused, empty, false_or]

end Track

/-- A failed call leaves the table alone exactly when it is harmless there. -/
theorem track_eq_iff (manager : MemoryManager arch) {call : AllocatorCall arch} (fails : call.Fails) :
    track manager call = manager ↔ Harmless manager call := by
  have recorded := call.recorded_eq
  have nonzeroOnes : BitVec.allOnes arch.wordBits ≠ 0 := by cases arch <;> decide
  rcases allocator : call.allocator with function | function <;> cases function <;>
    simp only [Fails, handler, Harmless, allocator] at fails recorded ⊢
  case libc.malloc =>
    exact iff_true_intro (track_unmoved (by simp [recorded, DispatchLibc.recordMalloc, fails]))
  case libc.strdup =>
    exact iff_true_intro (track_unmoved (by simp [recorded, DispatchLibc.recordStrdup, fails]))
  case libc.calloc =>
    exact iff_true_intro (track_unmoved (by simp [recorded, DispatchLibc.recordCalloc, fails]))
  case libc.realloc =>
    refine track_released (recorded.trans ?_)
    by_cases null : call.arg0 = 0 <;>
      simp only [DispatchLibc.recordRealloc, recordFree, fails.1, fails.2, null, ↓reduceIte, ne_eq,
        not_true_eq_false, not_false_eq_true, or_self, or_true]
  case libc.mmap | libc.mmap64 => exact track_mapped recorded (fails ▸ nonzeroOnes)
  case syscall.mmap | syscall.mmap2 =>
    refine track_mapped recorded fun zero => ?_
    rw [zero] at fails
    cases arch <;> simp [Arch.wordBits] at fails
  case libc.munmap | syscall.munmap => exact track_released recorded

/-- Blocks, next index and dump file survive a failed call unchanged exactly when
no sink is installed or the call is harmless. -/
theorem write_failed_iff {logger : LoggerManager arch} {manager : MemoryManager arch}
    (present : logger.memoryManager = some manager) (inst : InstAnalysis arch)
    {call : AllocatorCall arch} (fails : call.Fails) :
    (write logger inst call).map LoggerManager.memoryManager = .ok (some manager) ↔
      logger.hasSink = false ∨ Harmless manager call := by
  obtain ⟨after, written, table⟩ := write_memoryManager present inst call
  rw [written, ← track_eq_iff manager fails]
  cases sink : logger.hasSink <;> simp [Except.map, table, sink]

/-- A call with the given arguments and result, in an empty process. -/
def simple (allocator : Allocator) (arg0 arg1 result : Word arch) : AllocatorCall arch where
  allocator := allocator
  process := ⟨fun _ => 0, fun _ => "", [], none, fun _ => ""⟩
  info :=
    { seq := 0, pc := 0
      preStatus := { gprState := ⟨fun i => if i = 0 then arg0 else if i = 1 then arg1 else 0⟩ } }
  call := { funName := allocator.funName }
  retStatus := ⟨fun _ => result⟩
  named := rfl
  unallocated := rfl
  unreleased := rfl

/-- A logger with a file sink that tracks the block of one `malloc(16)`. -/
def oneBlock : LoggerManager .aarch64 where
  memoryManager := some (track {} (simple (.libc .malloc) 16 0 0x5000))
  fileLog := true
  moduleRange := ⟨0x1000, 0x1fff⟩

theorem write_failed_iff_munmap :
    (write oneBlock { address := 0x1000 } (simple (.syscall .munmap) 0x6000 16 1)).map
      LoggerManager.memoryManager = .ok oneBlock.memoryManager := by
  have fails : (simple (.syscall .munmap) (0x6000 : Word .aarch64) 16 1).Fails :=
    show (1 : Word .aarch64) ≠ 0 by decide
  exact (write_failed_iff rfl { address := 0x1000 } fails).mpr (.inr (.inr (by decide)))

/-- `realloc` returns NULL and leaves the block live; the table loses it. -/
theorem failed_realloc_untracks :
    (simple (.libc .realloc) (0x5000 : Word .aarch64) 32 0).Fails ∧
      (write oneBlock { address := 0x1000 } (simple (.libc .realloc) 0x5000 32 0)).map
        LoggerManager.memoryManager ≠ .ok oneBlock.memoryManager := by
  refine ⟨⟨rfl, by decide⟩, ?_⟩
  have untracked : (write oneBlock { address := 0x1000 } (simple (.libc .realloc) 0x5000 32 0)).map
    LoggerManager.memoryManager = .ok (some { memoryIndex := 1 }) := rfl
  rw [untracked]
  exact fun same => absurd (Except.ok.inj same) (by decide)

end AllocatorCall

end QbdiTracer
