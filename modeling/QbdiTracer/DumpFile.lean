import QbdiTracer.LoggerManager
import Mathlib.Data.List.Induction
import Mathlib.Data.List.Nodup

/-! The dump file over whole histories of enabling, writing and flushing: which
blocks leave a record, and which records survive. -/

namespace QbdiTracer

variable {arch : Arch}

/-- A record of the block's bytes under its index. -/
def DumpRecord.of (process : Process arch) (block : MemoryInfo arch) : DumpRecord arch where
  memoryIndex := block.memoryIndex
  size := block.stop - block.start
  address := block.start
  bytes := process.readBytes block.start (block.stop - block.start)

/-- What a reader of the file identifies a block by. -/
def DumpRecord.key (record : DumpRecord arch) : Nat × Word arch × Word arch :=
  (record.memoryIndex, record.address, record.size)

def MemoryInfo.key (block : MemoryInfo arch) : Nat × Word arch × Word arch :=
  (block.memoryIndex, block.start, block.stop - block.start)

@[simp] theorem DumpRecord.of_key (process : Process arch) (block : MemoryInfo arch) :
    (DumpRecord.of process block).key = block.key := rfl

namespace MemoryManager

def content (manager : MemoryManager arch) : List (DumpRecord arch) := manager.memoryDumpFile.content

/-- Bytes sent to the stream reach the file. -/
def Live (manager : MemoryManager arch) : Prop :=
  manager.memoryDumpFile.isOpen = true ∧ manager.memoryDumpFile.failbit = false

instance (manager : MemoryManager arch) : Decidable manager.Live := inferInstanceAs (Decidable (_ ∧ _))

/-- The indices in use: of tracked blocks, then of records. -/
def indices (manager : MemoryManager arch) : List Nat :=
  manager.memoryInfos.map (·.memoryIndex) ++ manager.content.map (·.memoryIndex)

/-- No index is used twice, and the next one is new. -/
structure Numbered (manager : MemoryManager arch) : Prop where
  distinct : manager.indices.Nodup
  below : ∀ index ∈ manager.indices, index < manager.memoryIndex

/-- What every operation on the table does: indices stay distinct, records stay,
and while the stream is live a block leaves the table only with a record. -/
structure Keeps (before after : MemoryManager arch) : Prop where
  numbered : before.Numbered → after.Numbered
  records : before.content <+: after.content
  blocks : before.Live → ∀ block ∈ before.memoryInfos,
    block ∈ after.memoryInfos ∨ block.key ∈ after.content.map DumpRecord.key

theorem Keeps.refl (manager : MemoryManager arch) : Keeps manager manager :=
  ⟨id, List.prefix_refl _, fun _ _ member => .inl member⟩

/-- An operation that leaves the stream in the state it found it in. -/
structure Writes (before after : MemoryManager arch) : Prop extends Keeps before after where
  isOpen : after.memoryDumpFile.isOpen = before.memoryDumpFile.isOpen
  failbit : after.memoryDumpFile.failbit = before.memoryDumpFile.failbit

theorem Writes.refl (manager : MemoryManager arch) : Writes manager manager :=
  ⟨.refl manager, rfl, rfl⟩

theorem Writes.trans {first second third : MemoryManager arch} (head : Writes first second)
    (tail : Writes second third) : Writes first third where
  numbered := tail.numbered ∘ head.numbered
  records := head.records.trans tail.records
  blocks := by
    rintro ⟨isOpen, failbit⟩ block member
    have live : second.Live := ⟨head.isOpen.trans isOpen, head.failbit.trans failbit⟩
    rcases head.blocks ⟨isOpen, failbit⟩ block member with tracked | recorded
    · exact tail.blocks live block tracked
    · exact .inr ((tail.records.map DumpRecord.key).subset recorded)
  isOpen := tail.isOpen.trans head.isOpen
  failbit := tail.failbit.trans head.failbit

/-- Indices that move or fall out of use stay distinct. -/
theorem Numbered.moved {before after : MemoryManager arch} (numbered : before.Numbered)
    (unused : List Nat) (order : (after.indices ++ unused).Perm before.indices)
    (next : before.memoryIndex = after.memoryIndex) : after.Numbered := by
  constructor
  · exact (order.nodup_iff.mpr numbered.distinct).of_append_left
  · intro index member
    rw [← next]
    exact numbered.below index (order.mem_iff.mp (List.mem_append_left unused member))

/-- A block enters the table under the next index. -/
theorem Numbered.push {manager : MemoryManager arch} (numbered : manager.Numbered)
    (start stop : Word arch) :
    Numbered { manager with
      memoryInfos := manager.memoryInfos ++ [⟨manager.memoryIndex, start, stop⟩]
      memoryIndex := manager.memoryIndex + 1 } := by
  have order : (manager.memoryIndex :: manager.indices).Perm (indices { manager with
      memoryInfos := manager.memoryInfos ++ [⟨manager.memoryIndex, start, stop⟩]
      memoryIndex := manager.memoryIndex + 1 }) := by
    simp only [indices, content, List.map_append, List.map_cons, List.map_nil, List.append_assoc,
      List.singleton_append]
    exact List.perm_middle.symm
  constructor
  · refine order.nodup_iff.mp (List.nodup_cons.mpr ⟨fun used => ?_, numbered.distinct⟩)
    exact absurd (numbered.below _ used) (Nat.lt_irrefl _)
  · intro index member
    rcases List.mem_cons.mp (order.mem_iff.mpr member) with rfl | used
    · exact Nat.lt_succ_self _
    · exact Nat.lt_succ_of_lt (numbered.below index used)

theorem push_writes (manager : MemoryManager arch) (start stop : Word arch) :
    Writes manager { manager with
      memoryInfos := manager.memoryInfos ++ [⟨manager.memoryIndex, start, stop⟩]
      memoryIndex := manager.memoryIndex + 1 } where
  numbered := fun numbered => numbered.push start stop
  records := List.prefix_refl _
  blocks := fun _ _ member => .inl (List.mem_append_left _ member)
  isOpen := rfl
  failbit := rfl

theorem addMemory_writes (manager : MemoryManager arch) (addr size : Word arch) :
    Writes manager (manager.addMemory addr size).1 := by
  simp only [addMemory]
  split
  · exact .refl manager
  · exact manager.push_writes addr (addr + size)

/-- An index is drawn and not used. -/
theorem draw_writes (manager : MemoryManager arch) :
    Writes manager { manager with memoryIndex := manager.memoryIndex + 1 } where
  numbered := fun numbered =>
    ⟨numbered.distinct, fun index member => Nat.lt_succ_of_lt (numbered.below index member)⟩
  records := List.prefix_refl _
  blocks := fun _ _ member => .inl member
  isOpen := rfl
  failbit := rfl

/-- A lookup draws no index and finds nothing, or draws the next one. -/
theorem findAlreadyAllocMemoryInfo_cases (process : Process arch) (manager : MemoryManager arch)
    (addr : Word arch) :
    manager.findAlreadyAllocMemoryInfo process addr = (manager, ⟨0, 0, 0⟩) ∨
      ∃ start stop, manager.findAlreadyAllocMemoryInfo process addr = manager.drawIndex start stop := by
  simp only [findAlreadyAllocMemoryInfo]
  repeat' split
  · exact .inl rfl
  all_goals exact .inr ⟨_, _, rfl⟩

theorem getMemoryOffset_writes (process : Process arch) (manager : MemoryManager arch)
    (addr : Word arch) : Writes manager (manager.getMemoryOffset process addr).1 := by
  simp only [getMemoryOffset]
  split
  · exact .refl manager
  · rcases manager.findAlreadyAllocMemoryInfo_cases process addr with found | ⟨start, stop, found⟩
    · rw [found]
      exact .refl manager
    · rw [found]
      by_cases null : start = 0
      · simpa only [drawIndex, null, ↓reduceIte] using manager.draw_writes
      · simpa only [drawIndex, null, ↓reduceIte] using manager.push_writes start stop

/-- Some blocks are sent to the stream. -/
theorem foldl_writeBlock (process : Process arch) (manager : MemoryManager arch)
    (blocks : List (MemoryInfo arch)) :
    blocks.foldl (writeBlock process) manager =
      { manager with memoryDumpFile := { manager.memoryDumpFile with
          content := manager.content ++
            if manager.Live then blocks.map (DumpRecord.of process) else [] } } := by
  induction blocks generalizing manager with
  | nil => simp [content]
  | cons block rest ih =>
    rw [List.foldl_cons, ih]
    by_cases isOpen : manager.memoryDumpFile.isOpen = true <;>
      by_cases failbit : manager.memoryDumpFile.failbit = true <;>
      simp [writeBlock, writeMemoryBuffer, DumpStream.write, Live, content, isOpen, failbit,
        DumpRecord.of]

/-- Blocks leave the table and are sent to the stream. -/
theorem dump_keeps (process : Process arch) {manager : MemoryManager arch}
    {gone rest : List (MemoryInfo arch)} (order : manager.memoryInfos.Perm (gone ++ rest))
    {file : DumpStream arch}
    (sent : file.content =
      manager.content ++ if manager.Live then gone.map (DumpRecord.of process) else []) :
    Keeps manager { manager with memoryInfos := rest, memoryDumpFile := file } where
  numbered := by
    intro numbered
    -- an index in the table moves to the file, or out of use
    refine numbered.moved (if manager.Live then [] else gone.map (·.memoryIndex))
      (List.Perm.trans ?_ ((order.map MemoryInfo.memoryIndex).append_right _).symm) rfl
    have swap : ((rest.map (·.memoryIndex) ++ manager.content.map (·.memoryIndex)) ++
        gone.map (·.memoryIndex)).Perm
          (gone.map (·.memoryIndex) ++
            (rest.map (·.memoryIndex) ++ manager.content.map (·.memoryIndex))) :=
      List.perm_append_comm
    by_cases live : manager.Live <;>
      simpa [indices, sent, live, content, DumpRecord.of, Function.comp_def] using swap
  records := by
    simp only [content, sent]
    exact List.prefix_append _ _
  blocks := by
    intro live block member
    rcases List.mem_append.mp (order.mem_iff.mp member) with left | stays
    · refine .inr ?_
      simp only [content, sent, live, ↓reduceIte, List.map_append, List.map_map, List.mem_append]
      exact .inr (List.mem_map.mpr ⟨block, left, rfl⟩)
    · exact .inl stays

/-- The first block found at an address, and the rest of the table. -/
theorem find_split {manager : MemoryManager arch} {addr : Word arch} {block : MemoryInfo arch}
    (found : manager.memoryInfos.find? (·.start == addr) = some block) :
    manager.memoryInfos.Perm ([block] ++ manager.memoryInfos.eraseP (·.start == addr)) := by
  obtain ⟨starts, before, after, split, others⟩ := List.find?_eq_some_iff_append.mp found
  have first : (block :: after).eraseP (·.start == addr) = after := by simp [starts]
  rw [split, List.eraseP_append_right _ (fun info member => by simpa using others info member), first]
  exact List.perm_middle

theorem removeMemory_writes (process : Process arch) (manager : MemoryManager arch)
    (addr : Word arch) : Writes manager (manager.removeMemory process addr).1 := by
  simp only [removeMemory]
  split
  · exact .refl manager
  · rename_i block found
    have sent := manager.foldl_writeBlock process [block]
    simp only [List.foldl_cons, List.foldl_nil] at sent
    simp only [sent]
    exact ⟨dump_keeps process (find_split found) rfl, rfl, rfl⟩

/-- `clear` sends every block to the stream and closes it. -/
theorem clear_keeps (process : Process arch) (manager : MemoryManager arch) :
    Keeps manager (manager.clear process) := by
  simp only [clear, foldl_writeBlock]
  refine dump_keeps process (show manager.memoryInfos.Perm (manager.memoryInfos ++ []) by simp) ?_
  simp only [DumpStream.close]
  split <;> rfl

@[simp] theorem clear_isOpen (process : Process arch) (manager : MemoryManager arch) :
    (manager.clear process).memoryDumpFile.isOpen = false := by
  simp only [clear, foldl_writeBlock, DumpStream.close]
  split
  · rfl
  · rename_i closed
    exact Bool.not_eq_true _ ▸ closed

end MemoryManager

namespace LoggerManager

open MemoryManager (Writes Keeps)

theorem updateMemory_writes (process : Process arch) (call : InstFunCall arch)
    (manager : MemoryManager arch) : Writes manager (updateMemory process call manager).1 := by
  have released : Writes manager (if call.memoryFreeAddress ≠ 0 then
      manager.removeMemory process call.memoryFreeAddress else (manager, none)).1 := by
    split
    · exact manager.removeMemory_writes process _
    · exact .refl manager
  simp only [updateMemory]
  split
  · exact released.trans (MemoryManager.addMemory_writes ..)
  · exact released

variable {logger : LoggerManager arch} {manager : MemoryManager arch}

theorem trackMemory_writes (process : Process arch) (present : logger.memoryManager = some manager)
    (info : InstTraceInfo arch) :
    ∃ tracked block updated, logger.trackMemory process info = .ok (tracked, block) ∧
      tracked.memoryManager = some updated ∧ Writes manager updated := by
  simp only [trackMemory, present]
  split
  · exact ⟨logger, none, manager, rfl, present, .refl manager⟩
  · split
    · exact ⟨logger, none, manager, rfl, present, .refl manager⟩
    · exact ⟨_, _, _, rfl, rfl, updateMemory_writes ..⟩

theorem formatAccess_writes (process : Process arch) (present : logger.memoryManager = some manager)
    (access : MemoryAccess arch) :
    ∃ looked entry updated, logger.formatAccess process access = .ok (looked, entry) ∧
      looked.memoryManager = some updated ∧ Writes manager updated := by
  simp only [formatAccess, present]
  split
  · exact ⟨_, _, manager, rfl, present, .refl manager⟩
  · exact ⟨_, _, _, rfl, rfl, MemoryManager.getMemoryOffset_writes ..⟩

theorem formatAccessInfo_writes (process : Process arch)
    (present : logger.memoryManager = some manager) (accesses : List (MemoryAccess arch)) :
    ∃ looked entries updated, logger.formatAccessInfo process accesses = .ok (looked, entries) ∧
      looked.memoryManager = some updated ∧ Writes manager updated := by
  induction accesses generalizing logger manager with
  | nil => exact ⟨logger, [], manager, rfl, present, .refl manager⟩
  | cons access rest ih =>
    obtain ⟨looked, entry, middle, first, found, head⟩ := formatAccess_writes process present access
    obtain ⟨finished, entries, updated, others, ended, tail⟩ := ih found
    refine ⟨finished, entry :: entries, updated, ?_, ended, head.trans tail⟩
    simp only [formatAccessInfo, first, others, bind, Except.bind, pure, Except.pure]

/-- A line never fails on a logger with a memory manager. -/
theorem writeTraceInfo_writes (process : Process arch)
    (present : logger.memoryManager = some manager) (info : InstTraceInfo arch)
    (inst : InstAnalysis arch) (accesses : List (MemoryAccess arch)) :
    ∃ after block updated, logger.writeTraceInfo process info inst accesses = .ok (after, block) ∧
      after.memoryManager = some updated ∧ Writes manager updated := by
  simp only [writeTraceInfo]
  split
  · obtain ⟨tracked, block, middle, first, found, head⟩ := trackMemory_writes process present info
    obtain ⟨looked, entries, updated, others, ended, tail⟩ :=
      formatAccessInfo_writes process found accesses
    refine ⟨{ looked with lines := looked.lines ++ [⟨info, inst, entries⟩] }, block, updated, ?_,
      ended, head.trans tail⟩
    simp only [first, others, bind, Except.bind, pure, Except.pure]
  · exact ⟨logger, none, manager, rfl, present, .refl manager⟩

/-- The line allocates no block and looks up no address. -/
structure TracksNothing (logger : LoggerManager arch) (info : InstTraceInfo arch)
    (accesses : List (MemoryAccess arch)) : Prop where
  call : ∀ call ∈ info.funCall, call.funName = "" ∨ call.memoryAllocSize = 0
  accesses : ∀ access ∈ accesses, logger.isAddressInModuleRange access.accessAddress = true

theorem TracksNothing.trackMemory_eq {info : InstTraceInfo arch}
    {accesses : List (MemoryAccess arch)} (nothing : logger.TracksNothing info accesses)
    (process : Process arch) (present : logger.memoryManager = some manager)
    (empty : manager.memoryInfos = []) :
    ∃ block, logger.trackMemory process info = .ok (logger, block) := by
  have same : { logger with memoryManager := some manager } = logger := by rw [← present]
  cases attached : info.funCall with
  | none => exact ⟨none, by simp only [trackMemory, attached]⟩
  | some call =>
    simp only [trackMemory, attached, present]
    split
    · exact ⟨none, rfl⟩
    · rename_i moves
      have size : call.memoryAllocSize = 0 :=
        (nothing.call call attached).resolve_left fun unnamed => moves (.inl unnamed)
      have kept : (updateMemory process call manager).1 = manager := by
        simp only [updateMemory, size, MemoryManager.removeMemory, empty, List.find?_nil, ite_self,
          ne_eq, not_true_eq_false, ↓reduceIte]
      exact ⟨_, by rw [kept, same]⟩

/-- Accesses inside the module are printed without a look at the blocks. -/
theorem formatAccessInfo_inside (process : Process arch) {accesses : List (MemoryAccess arch)}
    (inside : ∀ access ∈ accesses, logger.isAddressInModuleRange access.accessAddress = true) :
    ∃ entries, logger.formatAccessInfo process accesses = .ok (logger, entries) := by
  induction accesses with
  | nil => exact ⟨[], rfl⟩
  | cons access rest ih =>
    obtain ⟨entries, others⟩ := ih fun access member => inside access (.tail _ member)
    have first := inside access (.head _)
    refine ⟨⟨access, .moduleOffset (access.accessAddress - logger.moduleRange.base)⟩ :: entries, ?_⟩
    simp only [formatAccessInfo, formatAccess, first, ↓reduceIte, others, bind, Except.bind, pure,
      Except.pure]

/-- On an empty table such a line changes nothing. -/
theorem TracksNothing.unchanged {info : InstTraceInfo arch} {accesses : List (MemoryAccess arch)}
    (nothing : logger.TracksNothing info accesses) (process : Process arch)
    (present : logger.memoryManager = some manager) (empty : manager.memoryInfos = [])
    (inst : InstAnalysis arch) :
    ∃ after block, logger.writeTraceInfo process info inst accesses = .ok (after, block) ∧
      after.memoryManager = some manager := by
  obtain ⟨block, tracked⟩ := nothing.trackMemory_eq process present empty
  obtain ⟨entries, looked⟩ := formatAccessInfo_inside process nothing.accesses
  simp only [writeTraceInfo]
  split
  · refine ⟨{ logger with lines := logger.lines ++ [⟨info, inst, entries⟩] }, block, ?_, present⟩
    simp only [tracked, looked, bind, Except.bind, pure, Except.pure]
  · exact ⟨logger, none, rfl, present⟩

end LoggerManager

/-- What drives the dump: `set_memory_dump_to_file(true)`, the lines of an entry,
and the flush that ends it. -/
inductive DumpOperation (arch : Arch) where
  | enable (dirReady : Bool)
  | write (process : Process arch) (info : InstTraceInfo arch) (inst : InstAnalysis arch)
      (accesses : List (MemoryAccess arch))
  | flush (process : Process arch)

namespace DumpOperation

def apply (logger : LoggerManager arch) :
    DumpOperation arch → Except Fault (LoggerManager arch)
  | .enable dirReady => .ok (logger.setMemoryDumpToFile dirReady true)
  | .write process info inst accesses =>
    (logger.writeTraceInfo process info inst accesses).map Prod.fst
  | .flush process => .ok (logger.flush process)

/-- The dump file has been opened by this operation. -/
def enables : DumpOperation arch → Bool
  | .enable dirReady => dirReady
  | _ => false

/-- Dumping is enabled on a closed stream with nothing in the file yet, and after
that no line tracks a block while the stream is closed. -/
def CarefulStep (enabled : Bool) (logger : LoggerManager arch) (manager : MemoryManager arch) :
    DumpOperation arch → Prop
  | .enable dirReady =>
    dirReady = true → manager.memoryDumpFile.isOpen = false ∧ manager.content = []
  | .write _ info _ accesses =>
    enabled = true → manager.memoryDumpFile.isOpen = false → logger.TracksNothing info accesses
  | .flush _ => True

/-- The invariant of careful histories. -/
structure Sound (enabled : Bool) (manager : MemoryManager arch) : Prop where
  numbered : manager.Numbered
  healthy : manager.memoryDumpFile.isOpen = true → manager.memoryDumpFile.failbit = false
  idle : enabled = true → manager.memoryDumpFile.isOpen = false → manager.memoryInfos = []

section Careful

variable {enabled : Bool} {logger : LoggerManager arch} {manager : MemoryManager arch}

/-- Opening an empty file on a closed stream. -/
theorem setDumpPath_sound (sound : Sound enabled manager)
    (closed : manager.memoryDumpFile.isOpen = false) (empty : manager.content = []) :
    Sound true manager.setDumpPath ∧ manager.Keeps manager.setDumpPath := by
  have opened : manager.setDumpPath = { manager with memoryDumpFile := { isOpen := true } } := by
    simp [MemoryManager.setDumpPath, DumpStream.openTrunc, closed]
  have same : manager.setDumpPath.indices = manager.indices := by
    simp only [opened, MemoryManager.indices, MemoryManager.content] at empty ⊢
    rw [empty]
  have numbered : manager.Numbered → manager.setDumpPath.Numbered := fun numbered =>
    ⟨same ▸ numbered.distinct, fun index member => numbered.below index (same ▸ member)⟩
  refine ⟨⟨numbered sound.numbered, ?_, ?_⟩, numbered, ?_, ?_⟩
  · intro isOpen
    rw [opened]
  · intro since stillClosed
    rw [opened] at stillClosed
    cases stillClosed
  · rw [empty]
    exact List.nil_prefix
  · intro live block member
    exact .inl member

/-- A line on a stream that is open, or before dumping is enabled. -/
theorem writes_sound {updated : MemoryManager arch} (sound : Sound enabled manager)
    (writes : manager.Writes updated)
    (busy : ¬ (enabled = true ∧ manager.memoryDumpFile.isOpen = false)) : Sound enabled updated := by
  refine ⟨writes.numbered sound.numbered, ?_, ?_⟩
  · intro isOpen
    exact writes.failbit.trans (sound.healthy (writes.isOpen.symm.trans isOpen))
  · intro since closed
    exact absurd ⟨since, writes.isOpen.symm.trans closed⟩ busy

theorem clear_sound (process : Process arch) (sound : Sound enabled manager) :
    Sound enabled (manager.clear process) := by
  refine ⟨(manager.clear_keeps process).numbered sound.numbered, ?_, fun _ _ => rfl⟩
  intro isOpen
  rw [manager.clear_isOpen process] at isOpen
  cases isOpen

/-- A careful step keeps the invariant, every record, and every block it found
after enabling. -/
theorem apply_sound (present : logger.memoryManager = some manager) (sound : Sound enabled manager)
    {operation : DumpOperation arch} (careful : CarefulStep enabled logger manager operation) :
    ∃ after updated, operation.apply logger = .ok after ∧ after.memoryManager = some updated ∧
      Sound (enabled || operation.enables) updated ∧ manager.Keeps updated := by
  cases operation with
  | enable dirReady =>
    cases dirReady with
    | false =>
      refine ⟨logger, manager, rfl, present, ?_, .refl manager⟩
      simpa [enables] using sound
    | true =>
      obtain ⟨closed, empty⟩ := careful rfl
      obtain ⟨opened, keeps⟩ := setDumpPath_sound sound closed empty
      refine ⟨_, manager.setDumpPath, rfl, ?_, ?_, keeps⟩
      · simp [LoggerManager.setMemoryDumpToFile, present]
      · simpa [enables] using opened
  | write process info inst accesses =>
    simp only [apply, enables, Bool.or_false]
    by_cases idle : enabled = true ∧ manager.memoryDumpFile.isOpen = false
    · obtain ⟨after, block, written, found⟩ := (careful idle.1 idle.2).unchanged process present
        (sound.idle idle.1 idle.2) inst
      exact ⟨after, manager, by simp [written, Except.map], found, sound, .refl manager⟩
    · obtain ⟨after, block, updated, written, found, writes⟩ :=
        logger.writeTraceInfo_writes process present info inst accesses
      exact ⟨after, updated, by simp [written, Except.map], found, writes_sound sound writes idle,
        writes.toKeeps⟩
  | flush process =>
    refine ⟨_, manager.clear process, rfl, ?_, ?_, manager.clear_keeps process⟩
    · simp [LoggerManager.flush, present]
    · simpa [enables] using clear_sound process sound

end Careful

end DumpOperation

namespace LoggerManager

open DumpOperation (Sound CarefulStep enables)

def applyAll (logger : LoggerManager arch) (history : List (DumpOperation arch)) :
    Except Fault (LoggerManager arch) :=
  history.foldlM DumpOperation.apply logger

theorem applyAll_concat (logger : LoggerManager arch) (past : List (DumpOperation arch))
    (operation : DumpOperation arch) :
    logger.applyAll (past ++ [operation]) = (logger.applyAll past).bind operation.apply := by
  simp only [applyAll, List.foldlM_append, List.foldlM_cons, List.foldlM_nil]
  cases history : past.foldlM DumpOperation.apply logger with
  | error fault => rfl
  | ok before => cases applied : operation.apply before <;> simp [bind, Except.bind, applied, pure, Except.pure]

/-- The memory manager after a history. -/
def Reaches (logger : LoggerManager arch) (history : List (DumpOperation arch))
    (manager : MemoryManager arch) : Prop :=
  ∃ after, logger.applyAll history = .ok after ∧ after.memoryManager = some manager

/-- Every operation of a history is careful where it happens. -/
def Careful (logger : LoggerManager arch) (history : List (DumpOperation arch)) : Prop :=
  ∀ past operation before manager, past ++ [operation] <+: history →
    logger.applyAll past = .ok before → before.memoryManager = some manager →
    CarefulStep (past.any enables) before manager operation

/-- The block was tracked at some moment after dumping had been enabled. -/
def EverTracked (logger : LoggerManager arch) (history : List (DumpOperation arch))
    (block : MemoryInfo arch) : Prop :=
  ∃ past manager, past <+: history ∧ past.any enables = true ∧ logger.Reaches past manager ∧
    block ∈ manager.memoryInfos

/-- What a careful history has come to. -/
structure Outcome (logger : LoggerManager arch) (history : List (DumpOperation arch))
    (manager : MemoryManager arch) : Prop where
  reached : logger.Reaches history manager
  sound : Sound (history.any enables) manager
  accounted : ∀ block, logger.EverTracked history block →
    block ∈ manager.memoryInfos ∨ block.key ∈ manager.content.map DumpRecord.key
  records : ∀ past earlier, past <+: history → logger.Reaches past earlier →
    earlier.content <+: manager.content

theorem Reaches.unique {logger : LoggerManager arch} {history : List (DumpOperation arch)}
    {manager other : MemoryManager arch} (first : logger.Reaches history manager)
    (second : logger.Reaches history other) : manager = other := by
  obtain ⟨after, done, found⟩ := first
  obtain ⟨after', done', found'⟩ := second
  cases done.symm.trans done'
  exact Option.some.inj (found.symm.trans found')

theorem Outcome.start {logger : LoggerManager arch} (fresh : logger.memoryManager = some {}) :
    Outcome logger [] {} where
  reached := ⟨logger, rfl, fresh⟩
  sound := ⟨⟨List.nodup_nil, by simp [MemoryManager.indices, MemoryManager.content]⟩,
    (by rintro ⟨⟩), fun _ _ => rfl⟩
  accounted := by
    rintro block ⟨past, manager, happened, enabled, -⟩
    rw [List.prefix_nil.mp happened] at enabled
    cases enabled
  records := by
    intro past earlier happened reached
    rw [List.prefix_nil.mp happened] at reached
    exact (reached.unique ⟨logger, rfl, fresh⟩) ▸ List.prefix_refl _

theorem Outcome.step {logger : LoggerManager arch} {past : List (DumpOperation arch)}
    {operation : DumpOperation arch} {manager : MemoryManager arch}
    (outcome : Outcome logger past manager) (careful : logger.Careful (past ++ [operation])) :
    ∃ updated, Outcome logger (past ++ [operation]) updated := by
  obtain ⟨before, done, present⟩ := outcome.reached
  obtain ⟨after, updated, applied, found, sound, keeps⟩ := DumpOperation.apply_sound present
    outcome.sound (careful past operation before manager (List.prefix_refl _) done present)
  have reached : logger.Reaches (past ++ [operation]) updated :=
    ⟨after, by rw [applyAll_concat, done]; exact applied, found⟩
  refine ⟨updated, reached, by simpa using sound, ?_, ?_⟩
  · rintro block ⟨prior, earlier, happened, enabled, was, tracked⟩
    rcases List.prefix_concat_iff.mp happened with rfl | before
    · exact .inl (was.unique reached ▸ tracked)
    · rcases outcome.accounted block ⟨prior, earlier, before, enabled, was, tracked⟩ with here | record
      · -- the block is in the table after enabling, so the stream is live
        have since : past.any enables = true := by
          obtain ⟨operation, member, opens⟩ := List.any_eq_true.mp enabled
          exact List.any_eq_true.mpr ⟨operation, before.subset member, opens⟩
        have isOpen : manager.memoryDumpFile.isOpen = true := by
          by_contra closed
          have empty := outcome.sound.idle since (Bool.not_eq_true _ ▸ closed)
          rw [empty] at here
          cases here
        exact keeps.blocks ⟨isOpen, outcome.sound.healthy isOpen⟩ block here
      · exact .inr ((keeps.records.map DumpRecord.key).subset record)
  · intro prior earlier happened was
    rcases List.prefix_concat_iff.mp happened with rfl | before
    · exact (was.unique reached) ▸ List.prefix_refl _
    · exact (outcome.records prior earlier before was).trans keeps.records

/-- Every careful history has an outcome. -/
theorem Careful.outcome {logger : LoggerManager arch} (fresh : logger.memoryManager = some {})
    {history : List (DumpOperation arch)} (careful : logger.Careful history) :
    ∃ manager, Outcome logger history manager := by
  induction history using List.reverseRecOn with
  | nil => exact ⟨{}, .start fresh⟩
  | append_singleton past operation ih =>
    have earlier : logger.Careful past := fun prior operation before manager happened =>
      careful prior operation before manager (happened.trans (List.prefix_append _ _))
    obtain ⟨manager, outcome⟩ := ih earlier
    exact outcome.step careful

/-- The records under one index, of a file that uses every index once. -/
theorem filter_index {content : List (DumpRecord arch)} {record : DumpRecord arch}
    (distinct : (content.map (·.memoryIndex)).Nodup) (member : record ∈ content) :
    content.filter (·.memoryIndex == record.memoryIndex) = [record] := by
  induction content with
  | nil => cases member
  | cons head rest ih =>
    rw [List.map_cons, List.nodup_cons] at distinct
    rcases List.mem_cons.mp member with rfl | later
    · have others : rest.filter (·.memoryIndex == record.memoryIndex) = [] := by
        refine List.filter_eq_nil_iff.mpr fun other old same => distinct.1 ?_
        exact List.mem_map.mpr ⟨other, old, by simpa using same⟩
      simp [others]
    · have differs : (head.memoryIndex == record.memoryIndex) = false := by
        refine beq_eq_false_iff_ne.mpr fun same => distinct.1 ?_
        exact List.mem_map.mpr ⟨record, later, same.symm⟩
      rw [List.filter_cons_of_neg (by simp [differs]), ih distinct.2 later]

/-- The records of a block by its index, as a reader of the file finds them. -/
def recordsOf (manager : MemoryManager arch) (block : MemoryInfo arch) :
    List (Nat × Word arch × Word arch) :=
  (manager.content.filter (·.memoryIndex == block.memoryIndex)).map DumpRecord.key

theorem Outcome.recordsOf_eq {logger : LoggerManager arch} {history : List (DumpOperation arch)}
    {manager : MemoryManager arch} (outcome : Outcome logger history manager)
    {block : MemoryInfo arch} (tracked : logger.EverTracked history block) :
    recordsOf manager block = if block ∈ manager.memoryInfos then [] else [block.key] := by
  have distinct := List.nodup_append.mp outcome.sound.numbered.distinct
  split
  · rename_i here
    have absent : manager.content.filter (·.memoryIndex == block.memoryIndex) = [] := by
      refine List.filter_eq_nil_iff.mpr fun record member same => ?_
      have equal : record.memoryIndex = block.memoryIndex := by simpa using same
      exact distinct.2.2 _ (List.mem_map_of_mem here) _ (List.mem_map_of_mem member) equal.symm
    rw [recordsOf, absent]
    rfl
  · rename_i gone
    obtain ⟨record, member, same⟩ :=
      List.mem_map.mp ((outcome.accounted block tracked).resolve_left gone)
    have index : block.memoryIndex = record.memoryIndex := (congrArg Prod.fst same).symm
    rw [recordsOf, index, filter_index distinct.2.1 member, List.map_singleton, same]

/-- In a careful history no record is lost, and every block tracked after
enabling has exactly one record once it is tracked no more. -/
theorem careful_dumps_once {logger : LoggerManager arch} (fresh : logger.memoryManager = some {})
    {history : List (DumpOperation arch)} (careful : logger.Careful history) :
    ∃ manager, logger.Reaches history manager ∧
      (∀ block, logger.EverTracked history block →
        recordsOf manager block = if block ∈ manager.memoryInfos then [] else [block.key]) ∧
      ∀ past earlier, past <+: history → logger.Reaches past earlier →
        earlier.content <+: manager.content := by
  obtain ⟨manager, outcome⟩ := careful.outcome fresh
  exact ⟨manager, outcome.reached, fun block tracked => outcome.recordsOf_eq tracked,
    outcome.records⟩

/-- A process to dump from. -/
def emptyProcess : Process .aarch64 := ⟨fun _ => 0, fun _ => "", [], none, fun _ => ""⟩

/-- A new logger with a file sink. -/
def fileLogger : LoggerManager .aarch64 := { fileLog := true, moduleRange := ⟨0x1000, 0x1fff⟩ }

/-- The line of `malloc(16)` returning `start`. -/
def mallocLine (start : Word .aarch64) : DumpOperation .aarch64 :=
  .write emptyProcess
    { seq := 0, pc := 0x1000
      funCall := some { funName := "malloc", memoryAllocAddress := start, memoryAllocSize := 16 } }
    { address := 0x1000 } []

/-- One entry after enabling: its block is dumped by the flush. -/
theorem careful_dumps_once_entry : ∃ manager,
    fileLogger.Reaches [.enable true, mallocLine 0x5000, .flush emptyProcess] manager ∧
      recordsOf manager ⟨0, 0x5000, 0x5010⟩ = [(0, 0x5000, 0x10)] := by
  have careful : fileLogger.Careful [.enable true, mallocLine 0x5000, .flush emptyProcess] := by
    rintro past operation before manager ⟨rest, same⟩ done present
    rcases past with _ | ⟨first, _ | ⟨second, _ | ⟨third, others⟩⟩⟩
    · cases same; cases done; cases present
      exact fun _ => ⟨rfl, rfl⟩
    · cases same; cases done; cases present
      rintro - ⟨⟩
    · cases same
      trivial
    · simp at same
  obtain ⟨manager, reached, once, -⟩ := careful_dumps_once rfl careful
  have empty : manager.memoryInfos = [] := by
    rw [reached.unique ⟨_, rfl, rfl⟩]
    rfl
  have tracked : fileLogger.EverTracked [.enable true, mallocLine 0x5000, .flush emptyProcess]
      ⟨0, 0x5000, 0x5010⟩ :=
    ⟨[.enable true, mallocLine 0x5000], _, ⟨[.flush emptyProcess], rfl⟩, rfl, ⟨_, rfl, rfl⟩, .head _⟩
  refine ⟨manager, reached, ?_⟩
  rw [once _ tracked, empty]
  rfl

/-- A second entry: the flush of the first one has closed the stream, and the
block of the second one never reaches the file. -/
theorem second_entry_not_dumped :
    fileLogger.EverTracked
        [.enable true, .flush emptyProcess, mallocLine 0x5000, .flush emptyProcess]
        ⟨0, 0x5000, 0x5010⟩ ∧
      ∃ manager, fileLogger.Reaches
          [.enable true, .flush emptyProcess, mallocLine 0x5000, .flush emptyProcess] manager ∧
        manager.memoryInfos = [] ∧ recordsOf manager ⟨0, 0x5000, 0x5010⟩ = [] := by
  constructor
  · exact ⟨[.enable true, .flush emptyProcess, mallocLine 0x5000], _, ⟨[.flush emptyProcess], rfl⟩,
      rfl, ⟨_, rfl, rfl⟩, .head _⟩
  · exact ⟨_, ⟨_, rfl, rfl⟩, rfl, rfl⟩

end LoggerManager

end QbdiTracer
