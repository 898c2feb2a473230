import QbdiTracer.DumpFile
import QbdiTracer.TableCalls

/-! The indices of blocks over whole histories of the memory manager. They are counted with
64 bits, but `write_memory_buffer` takes them as a `size_t`. -/

namespace QbdiTracer

variable {arch : Arch}

/-- A call on the manager, with the process as it is at that moment. -/
inductive ManagerCall (arch : Arch) where
  | setDumpPath
  | add (addr size : Word arch)
  | remove (process : Process arch) (addr : Word arch)
  | lookup (process : Process arch) (addr : Word arch)
  | clear (process : Process arch)

namespace ManagerCall

def apply (manager : MemoryManager arch) : ManagerCall arch → MemoryManager arch
  | .setDumpPath => manager.setDumpPath
  | .add addr size => (manager.addMemory addr size).1
  | .remove process addr => (manager.removeMemory process addr).1
  | .lookup process addr => (manager.getMemoryOffset process addr).1
  | .clear process => manager.clear process

/-- A block enters the table: an allocation outside of all blocks, or a lookup that
adopts one. -/
def Enters (manager : MemoryManager arch) : ManagerCall arch → Prop
  | .add addr size => manager.isInMemory addr = false ∧ manager.isInMemory (addr + size) = false
  | .lookup process addr =>
    manager.memoryInfos.any (·.reaches addr) = false ∧ (process.adoptable addr).isSome
  | _ => False

end ManagerCall

/-- The manager with all the blocks that have been in its table and all the records that it
has written to the file, also those that were lost when the file was opened again. -/
structure Ledger (arch : Arch) where
  manager : MemoryManager arch := {}
  tracked : List (MemoryInfo arch) := []
  written : List (DumpRecord arch) := []

namespace Ledger

/-- One call. What is new stands at the end of the table and of the file. -/
def step (ledger : Ledger arch) (call : ManagerCall arch) : Ledger arch where
  manager := call.apply ledger.manager
  tracked := ledger.tracked ++
    (call.apply ledger.manager).memoryInfos.drop ledger.manager.memoryInfos.length
  written := ledger.written ++
    (call.apply ledger.manager).content.drop ledger.manager.content.length

/-- The ledger of a new manager after a sequence of calls. -/
def run (calls : List (ManagerCall arch)) : Ledger arch := calls.foldl step {}

theorem run_concat (past : List (ManagerCall arch)) (call : ManagerCall arch) :
    run (past ++ [call]) = (run past).step call := by
  simp [run]

end Ledger

/-- `memory_index` as the code has it. -/
def MemoryInfo.index64 (block : MemoryInfo arch) : BitVec 64 := BitVec.ofNat 64 block.memoryIndex

/-- The index that `write_memory_buffer` prints: its parameter is a `size_t`. -/
def DumpRecord.printedIndex (record : DumpRecord arch) : Word arch :=
  BitVec.ofNat arch.wordBits record.memoryIndex

/-- What indices are for: they tell apart all blocks that there have been, and all blocks
in the file. -/
structure Ledger.IndicesTell (ledger : Ledger arch) : Prop where
  tracked : (ledger.tracked.map MemoryInfo.index64).Nodup
  below : ∀ block ∈ ledger.tracked, block.index64 < BitVec.ofNat 64 ledger.manager.memoryIndex
  table : ledger.manager.memoryInfos.Pairwise fun earlier later => earlier.index64 < later.index64
  written : (ledger.written.map DumpRecord.printedIndex).Nodup

/-- A lookup leaves the file alone and draws one index at most. -/
theorem MemoryManager.getMemoryOffset_frame (process : Process arch) (manager : MemoryManager arch)
    (addr : Word arch) :
    (manager.getMemoryOffset process addr).1.content = manager.content ∧
      (manager.getMemoryOffset process addr).1.memoryIndex ≤ manager.memoryIndex + 1 := by
  unfold getMemoryOffset
  split
  · exact ⟨rfl, Nat.le_succ _⟩
  · rcases manager.findAlreadyAllocMemoryInfo_cases process addr with found | ⟨start, stop, found⟩
    · rw [found]
      exact ⟨rfl, Nat.le_succ _⟩
    · simp only [found]
      split
      · exact ⟨rfl, Nat.le_refl _⟩
      · exact ⟨rfl, Nat.le_refl _⟩

/-- Nothing but the counter changes and, when it is opened, the file. -/
structure MemoryManager.SameTable (manager after : MemoryManager arch) : Prop where
  memoryInfos : after.memoryInfos = manager.memoryInfos
  later : manager.memoryIndex ≤ after.memoryIndex
  one : after.memoryIndex ≤ manager.memoryIndex + 1
  content : after.content.drop manager.content.length = []

/-- A block enters the table under the next index. -/
structure MemoryManager.NewBlock (manager after : MemoryManager arch) (start stop : Word arch) :
    Prop where
  memoryInfos : after.memoryInfos = manager.memoryInfos ++ [⟨manager.memoryIndex, start, stop⟩]
  memoryIndex : after.memoryIndex = manager.memoryIndex + 1
  content : after.content = manager.content

/-- Blocks leave the table for the file, or for nothing if the file takes no records. -/
structure MemoryManager.Drops (manager after : MemoryManager arch)
    (gone : List (MemoryInfo arch)) (process : Process arch) : Prop where
  split : manager.memoryInfos.Perm (gone ++ after.memoryInfos)
  sublist : after.memoryInfos.Sublist manager.memoryInfos
  memoryIndex : after.memoryIndex = manager.memoryIndex
  content : after.content =
    manager.content ++ if manager.Live then gone.map (DumpRecord.of process) else []

namespace ManagerCall

variable (manager : MemoryManager arch) (process : Process arch) (addr : Word arch)

theorem setDumpPath_sameTable : manager.SameTable manager.setDumpPath where
  memoryInfos := rfl
  later := Nat.le_refl _
  one := Nat.le_succ _
  content := by
    simp only [MemoryManager.setDumpPath, DumpStream.openTrunc, MemoryManager.content]
    split
    · exact List.drop_length
    · exact List.drop_nil

theorem addMemory_newBlock (size : Word arch) :
    apply manager (.add addr size) = manager ∨
      Enters manager (.add addr size) ∧
        manager.NewBlock (apply manager (.add addr size)) addr (addr + size) := by
  rcases manager.addMemory_cases addr size with ⟨-, refused⟩ | ⟨free, added⟩
  · exact .inl (congrArg Prod.fst refused)
  · have grown := congrArg Prod.fst added
    refine .inr ⟨free, ?_⟩
    rw [apply, grown]
    exact ⟨rfl, rfl, rfl⟩

theorem removeMemory_drops :
    ∃ gone, manager.Drops (apply manager (.remove process addr)) gone process := by
  simp only [apply, MemoryManager.removeMemory]
  split
  · exact ⟨[], .refl _, .refl _, rfl, by simp⟩
  · rename_i block found
    have sent := manager.foldl_writeBlock process [block]
    rw [List.foldl_cons, List.foldl_nil] at sent
    refine ⟨[block], ?_⟩
    rw [sent]
    exact ⟨MemoryManager.find_split found, List.eraseP_sublist, rfl, rfl⟩

theorem lookup_newBlock :
    manager.SameTable (apply manager (.lookup process addr)) ∨
      Enters manager (.lookup process addr) ∧
        ∃ start stop, manager.NewBlock (apply manager (.lookup process addr)) start stop := by
  obtain ⟨content, one⟩ := manager.getMemoryOffset_frame process addr
  rcases manager.getMemoryOffset_cases process addr with
    ⟨-, same, later⟩ | ⟨outside, bounds, adopted, appended, next⟩
  · refine .inl ⟨same, later, one, ?_⟩
    rw [apply, content, List.drop_length]
  · exact .inr ⟨⟨outside, by rw [adopted]; rfl⟩, bounds.1, bounds.2, appended, next, content⟩

theorem clear_drops :
    manager.Drops (apply manager (.clear process)) manager.memoryInfos process where
  split := by simp [apply, MemoryManager.clear]
  sublist := List.nil_sublist _
  memoryIndex := manager.clear_memoryIndex process
  content := by
    simp only [apply, MemoryManager.clear, MemoryManager.foldl_writeBlock, DumpStream.close,
      MemoryManager.content]
    split <;> rfl

/-- What a call can do. -/
theorem apply_cases (manager : MemoryManager arch) (call : ManagerCall arch) :
    manager.SameTable (call.apply manager) ∨
      (call.Enters manager ∧ ∃ start stop, manager.NewBlock (call.apply manager) start stop) ∨
      ∃ gone process, manager.Drops (call.apply manager) gone process := by
  cases call with
  | setDumpPath => exact .inl (setDumpPath_sameTable manager)
  | add addr size =>
    rcases addMemory_newBlock manager addr size with same | ⟨enters, added⟩
    · left
      rw [same]
      exact ⟨rfl, Nat.le_refl _, Nat.le_succ _, List.drop_length⟩
    · exact .inr (.inl ⟨enters, addr, addr + size, added⟩)
  | remove process addr =>
    obtain ⟨gone, drops⟩ := removeMemory_drops manager process addr
    exact .inr (.inr ⟨gone, process, drops⟩)
  | lookup process addr =>
    rcases lookup_newBlock manager process addr with same | ⟨enters, added⟩
    · exact .inl same
    · exact .inr (.inl ⟨enters, added⟩)
  | clear process => exact .inr (.inr ⟨manager.memoryInfos, process, clear_drops manager process⟩)

end ManagerCall

namespace Ledger

variable {ledger : Ledger arch}

/-- Indices count up, and a block is in the table or has left it for the file at most
once. -/
structure Ordered (ledger : Ledger arch) : Prop where
  increasing : ledger.tracked.Pairwise fun earlier later => earlier.memoryIndex < later.memoryIndex
  below : ∀ block ∈ ledger.tracked, block.memoryIndex < ledger.manager.memoryIndex
  table : ledger.manager.memoryInfos.Sublist ledger.tracked
  apart : (ledger.manager.memoryInfos.map MemoryInfo.memoryIndex ++
    ledger.written.map DumpRecord.memoryIndex).Nodup
  written : ∀ record ∈ ledger.written, ∃ block ∈ ledger.tracked,
    block.memoryIndex = record.memoryIndex

theorem Ordered.start : Ordered ({} : Ledger arch) :=
  ⟨.nil, nofun, .slnil, .nil, nofun⟩

section Steps

variable {after : MemoryManager arch} (ordered : Ordered ledger)

include ordered

/-- The counter moves on at most. -/
theorem Ordered.idle (same : after.memoryInfos = ledger.manager.memoryInfos)
    (later : ledger.manager.memoryIndex ≤ after.memoryIndex) :
    Ordered { ledger with manager := after } where
  increasing := ordered.increasing
  below := fun block member => Nat.lt_of_lt_of_le (ordered.below block member) later
  table := same ▸ ordered.table
  apart := same ▸ ordered.apart
  written := ordered.written

/-- A block enters the table under the next index. -/
theorem Ordered.enter {start stop : Word arch}
    (entered : after.memoryInfos = ledger.manager.memoryInfos ++
      [⟨ledger.manager.memoryIndex, start, stop⟩])
    (next : after.memoryIndex = ledger.manager.memoryIndex + 1) :
    Ordered { ledger with
      manager := after
      tracked := ledger.tracked ++ [⟨ledger.manager.memoryIndex, start, stop⟩] } where
  increasing := by
    refine List.pairwise_append.mpr ⟨ordered.increasing, List.pairwise_singleton _ _, ?_⟩
    intro earlier member later now
    rw [List.mem_singleton.mp now]
    exact ordered.below earlier member
  below := by
    intro block member
    rw [next]
    rcases List.mem_append.mp member with earlier | now
    · exact Nat.lt_succ_of_lt (ordered.below block earlier)
    · rw [List.mem_singleton.mp now]
      exact Nat.lt_succ_self _
  table := by
    rw [entered]
    exact ordered.table.append (.refl _)
  apart := by
    have fresh : ledger.manager.memoryIndex ∉
        ledger.manager.memoryInfos.map MemoryInfo.memoryIndex ++
          ledger.written.map DumpRecord.memoryIndex := by
      intro used
      rcases List.mem_append.mp used with inTable | inFile
      · obtain ⟨block, member, same⟩ := List.mem_map.mp inTable
        exact Nat.ne_of_lt (ordered.below block (ordered.table.subset member)) same
      · obtain ⟨record, member, same⟩ := List.mem_map.mp inFile
        obtain ⟨block, tracked, own⟩ := ordered.written record member
        exact Nat.ne_of_lt (ordered.below block tracked) (own.trans same)
    rw [entered, List.map_append, List.append_assoc]
    exact (List.perm_middle.nodup_iff).mpr (List.nodup_cons.mpr ⟨fresh, ordered.apart⟩)
  written := by
    intro record member
    obtain ⟨block, tracked, same⟩ := ordered.written record member
    exact ⟨block, List.mem_append_left _ tracked, same⟩

/-- Blocks leave the table, and some records of theirs enter the file. -/
theorem Ordered.leave {gone : List (MemoryInfo arch)} {records : List (DumpRecord arch)}
    (order : ledger.manager.memoryInfos.Perm (gone ++ after.memoryInfos))
    (sublist : after.memoryInfos.Sublist ledger.manager.memoryInfos)
    (next : after.memoryIndex = ledger.manager.memoryIndex)
    (sent : (records.map DumpRecord.memoryIndex).Sublist (gone.map MemoryInfo.memoryIndex)) :
    Ordered { ledger with manager := after, written := ledger.written ++ records } where
  increasing := ordered.increasing
  below := fun block member => next ▸ ordered.below block member
  table := sublist.trans ordered.table
  apart := by
    have moved : (ledger.manager.memoryInfos.map MemoryInfo.memoryIndex).Perm
        (gone.map MemoryInfo.memoryIndex ++ after.memoryInfos.map MemoryInfo.memoryIndex) := by
      rw [← List.map_append]
      exact order.map _
    have distinct := (moved.append_right _).nodup_iff.mp ordered.apart
    rw [List.append_assoc] at distinct
    have fewer := List.perm_append_comm.nodup_iff.mp distinct
    rw [List.append_assoc] at fewer
    rw [List.map_append]
    exact fewer.sublist ((List.Sublist.refl _).append ((List.Sublist.refl _).append sent))
  written := by
    intro record member
    rcases List.mem_append.mp member with earlier | now
    · exact ordered.written record earlier
    · obtain ⟨block, left, same⟩ := List.mem_map.mp (sent.subset (List.mem_map_of_mem now))
      have inTable := order.mem_iff.mpr (List.mem_append_left _ left)
      exact ⟨block, ordered.table.subset inTable, same⟩

theorem Ordered.step (call : ManagerCall arch) : Ordered (ledger.step call) := by
  rcases call.apply_cases ledger.manager with ⟨same, later, -, nothing⟩ |
    ⟨-, start, stop, entered, next, content⟩ | ⟨gone, process, order, sublist, next, sent⟩
  · rw [Ledger.step, same, List.drop_length, nothing, List.append_nil, List.append_nil]
    exact ordered.idle same later
  · rw [Ledger.step, entered, content, List.drop_left, List.drop_length, List.append_nil]
    exact ordered.enter entered next
  · have shorter := List.drop_of_length_le sublist.length_le
    rw [Ledger.step, sent, shorter, List.drop_left, List.append_nil]
    apply ordered.leave order sublist next
    split
    · rw [List.map_map]
      exact .refl _
    · exact List.nil_sublist _

end Steps

theorem ordered_run (calls : List (ManagerCall arch)) : Ordered (run calls) := by
  induction calls using List.reverseRecOn with
  | nil => exact .start
  | append_singleton past call ih =>
    rw [run_concat]
    exact ih.step call

/-- Blocks enter only under indices that a `size_t` can hold. -/
def EntersInRange (calls : List (ManagerCall arch)) : Prop :=
  EventLog.Always (fun past call => call.Enters (run past).manager →
    (run past).manager.memoryIndex < 2 ^ arch.wordBits) calls

theorem tracked_in_range {calls : List (ManagerCall arch)} (inRange : EntersInRange calls) :
    ∀ block ∈ (run calls).tracked, block.memoryIndex < 2 ^ arch.wordBits := by
  induction calls using List.reverseRecOn with
  | nil => nofun
  | append_singleton past call ih =>
    obtain ⟨before, now⟩ := EventLog.always_append.mp inRange
    rw [EventLog.always_singleton, List.append_nil] at now
    intro block member
    rw [run_concat, step] at member
    rcases List.mem_append.mp member with earlier | new
    · exact ih before block earlier
    · rcases call.apply_cases (run past).manager with ⟨same, -⟩ |
        ⟨enters, start, stop, entered, -⟩ | ⟨gone, process, -, sublist, -⟩
      · rw [same, List.drop_length] at new
        cases new
      · rw [entered, List.drop_left, List.mem_singleton] at new
        rw [new]
        exact now enters
      · rw [List.drop_of_length_le sublist.length_le] at new
        cases new

/-- A call draws one index at most. -/
theorem memoryIndex_apply (manager : MemoryManager arch) (call : ManagerCall arch) :
    (call.apply manager).memoryIndex ≤ manager.memoryIndex + 1 := by
  rcases call.apply_cases manager with ⟨-, -, one, -⟩ | ⟨-, start, stop, -, next, -⟩ |
    ⟨gone, process, -, -, next, -⟩
  · exact one
  · exact Nat.le_of_eq next
  · rw [next]
    exact Nat.le_succ _

theorem memoryIndex_run (calls : List (ManagerCall arch)) :
    (run calls).manager.memoryIndex ≤ calls.length := by
  induction calls using List.reverseRecOn with
  | nil => exact Nat.le_refl 0
  | append_singleton past call ih =>
    rw [run_concat, List.length_append]
    exact Nat.le_trans (memoryIndex_apply _ call) (Nat.succ_le_succ ih)

theorem entersInRange_of_length {calls : List (ManagerCall arch)}
    (few : calls.length ≤ 2 ^ arch.wordBits) : EntersInRange calls := by
  rintro past call later rfl -
  refine Nat.lt_of_le_of_lt (memoryIndex_run past) (Nat.lt_of_lt_of_le ?_ few)
  rw [List.length_append, List.length_cons]
  omega

theorem toNat_index64 {block : MemoryInfo arch} (small : block.memoryIndex < 2 ^ 64) :
    block.index64.toNat = block.memoryIndex := by
  rw [MemoryInfo.index64, BitVec.toNat_ofNat, Nat.mod_eq_of_lt small]

/-- With fewer than 2 ^ 64 draws the indices tell all blocks apart, if blocks enter only
under indices that a `size_t` can hold. -/
theorem indices_tell {calls : List (ManagerCall arch)}
    (draws : (run calls).manager.memoryIndex < 2 ^ 64) (inRange : EntersInRange calls) :
    (run calls).IndicesTell := by
  obtain ⟨increasing, below, table, apart, written⟩ := ordered_run calls
  have small : ∀ block ∈ (run calls).tracked, block.index64.toNat = block.memoryIndex :=
    fun block member => toNat_index64 (Nat.lt_trans (below block member) draws)
  have lower : (run calls).tracked.Pairwise fun earlier later =>
      earlier.index64 < later.index64 := by
    refine increasing.imp_of_mem fun first second less => ?_
    rw [BitVec.lt_def, small _ first, small _ second]
    exact less
  refine ⟨?_, fun block member => ?_, lower.sublist table, ?_⟩
  · rw [List.Nodup, List.pairwise_map]
    refine lower.imp fun {first second} less same => ?_
    rw [same] at less
    exact BitVec.lt_irrefl _ less
  · rw [BitVec.lt_def, small block member, BitVec.toNat_ofNat, Nat.mod_eq_of_lt draws]
    exact below block member
  · have distinct := (List.nodup_append.mp apart).2.1
    rw [List.Nodup, List.pairwise_map] at distinct ⊢
    refine distinct.imp_of_mem fun first second differ same => differ ?_
    have bound : ∀ record ∈ (run calls).written, record.memoryIndex < 2 ^ arch.wordBits := by
      intro record member
      obtain ⟨block, tracked, own⟩ := written record member
      exact own ▸ tracked_in_range inRange block tracked
    have values := congrArg BitVec.toNat same
    simp only [DumpRecord.printedIndex, BitVec.toNat_ofNat] at values
    rwa [Nat.mod_eq_of_lt (bound _ first), Nat.mod_eq_of_lt (bound _ second)] at values

/-- A process without maps, in which `malloc_iterate` reports nothing. -/
def unmapped : Process .arm where
  memory := fun _ => 0
  cString := fun _ => ""
  maps := []
  mallocIterate := some fun _ _ => []
  jniClassName := fun _ => ""

/-- A block comes and goes while the file is open. -/
def blockInFile (addr : Word .arm) : List (ManagerCall .arm) := [.add addr 0x10, .remove unmapped addr]

theorem indices_tell_two_blocks :
    (run (.setDumpPath :: blockInFile 0x1000 ++ blockInFile 0x2000)).IndicesTell :=
  indices_tell (by decide) (entersInRange_of_length (by decide))

/-- The ledger after lookups that find nothing. -/
def drawn (ledger : Ledger arch) (count : Nat) : Ledger arch where
  manager := ⟨ledger.manager.memoryDumpFile, ledger.manager.memoryIndex + count,
    ledger.manager.memoryInfos⟩
  tracked := ledger.tracked
  written := ledger.written

theorem step_lookup {ledger : Ledger .arm} (empty : ledger.manager.memoryInfos = []) :
    ledger.step (.lookup unmapped 0x10) = ledger.drawn 1 := by
  simp [step, ManagerCall.apply, MemoryManager.getMemoryOffset, empty,
    MemoryManager.findAlreadyAllocMemoryInfo, unmapped, MemoryManager.drawIndex,
    MemoryManager.content, drawn]

theorem foldl_lookup {ledger : Ledger .arm} (empty : ledger.manager.memoryInfos = [])
    (count : Nat) :
    (List.replicate count (.lookup unmapped 0x10)).foldl step ledger = ledger.drawn count := by
  induction count generalizing ledger with
  | zero => rfl
  | succ count ih =>
    have rest := @ih (ledger.drawn 1) empty
    rw [List.replicate_succ, List.foldl_cons, step_lookup empty, rest]
    simp only [drawn, Nat.add_assoc, Nat.add_comm 1]

/-- The file then has a record under the next index. -/
theorem foldl_blockInFile {ledger : Ledger .arm} (empty : ledger.manager.memoryInfos = [])
    (live : ledger.manager.Live) (addr : Word .arm) :
    ((blockInFile addr).foldl step ledger).written = ledger.written ++
        [DumpRecord.of unmapped ⟨ledger.manager.memoryIndex, addr, addr + 0x10⟩] ∧
      ((blockInFile addr).foldl step ledger).manager.memoryIndex = ledger.manager.memoryIndex + 1 ∧
      ((blockInFile addr).foldl step ledger).manager.memoryInfos = [] ∧
      ((blockInFile addr).foldl step ledger).manager.Live := by
  obtain ⟨isOpen, failbit⟩ := live
  simp [blockInFile, step, ManagerCall.apply, MemoryManager.addMemory, MemoryManager.isInMemory,
    empty, MemoryManager.removeMemory, MemoryManager.writeBlock, MemoryManager.writeMemoryBuffer,
    DumpStream.write, MemoryManager.content, MemoryManager.Live, isOpen, failbit, DumpRecord.of]

/-- Two blocks in the file, with lookups that find nothing between them. -/
def blocksApart (count : Nat) : List (ManagerCall .arm) :=
  (.setDumpPath :: blockInFile 0x1000) ++ (List.replicate count (.lookup unmapped 0x10) ++
    blockInFile 0x2000)

theorem run_blocksApart (count : Nat) :
    (run (blocksApart count)).manager.memoryIndex = count + 2 ∧
      (run (blocksApart count)).written.map (fun record => (record.address, record.printedIndex)) =
        [(0x1000, 0), (0x2000, BitVec.ofNat 32 (1 + count))] := by
  have empty : (run (.setDumpPath :: blockInFile 0x1000)).manager.memoryInfos = [] := by decide
  have live : (run (.setDumpPath :: blockInFile 0x1000)).manager.Live := by decide
  have first : (run (.setDumpPath :: blockInFile 0x1000)).written.map
      (fun record => (record.address, record.printedIndex)) = [(0x1000, 0)] := by decide
  have whole : run (blocksApart count) = (blockInFile 0x2000).foldl step
      ((run (.setDumpPath :: blockInFile 0x1000)).drawn count) := by
    rw [← foldl_lookup empty, ← List.foldl_append]
    exact List.foldl_append ..
  obtain ⟨second, next, -⟩ := @foldl_blockInFile
    ((run (.setDumpPath :: blockInFile 0x1000)).drawn count) empty live 0x2000
  rw [whole, second, next]
  constructor
  · change 1 + count + 1 = count + 2
    omega
  · rw [List.map_append]
    exact congrArg (· ++ _) first

/-- After 2 ^ 32 draws the second block is written under the index of the first. -/
theorem index_written_twice :
    (run (blocksApart (2 ^ 32 - 1))).manager.memoryIndex < 2 ^ 64 ∧
      (run (blocksApart (2 ^ 32 - 1))).written.map
          (fun record => (record.address, record.printedIndex)) = [(0x1000, 0), (0x2000, 0)] ∧
      ¬ (run (blocksApart (2 ^ 32 - 1))).IndicesTell := by
  obtain ⟨drawn, written⟩ := run_blocksApart (2 ^ 32 - 1)
  refine ⟨by rw [drawn]; decide, written, fun tell => ?_⟩
  have printed : (run (blocksApart (2 ^ 32 - 1))).written.map DumpRecord.printedIndex = [0, 0] := by
    have second := congrArg (List.map Prod.snd) written
    rw [List.map_map] at second
    exact second
  have distinct := tell.written
  rw [printed] at distinct
  exact absurd distinct (by decide)

end Ledger

end QbdiTracer
