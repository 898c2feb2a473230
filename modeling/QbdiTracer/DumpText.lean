import QbdiTracer.DumpFile
import QbdiTracer.HexDumpReading
import QbdiTracer.Library.EventLog
import QbdiTracer.LogReading

/-! The text `MemoryManager::write_memory_buffer` prints for a block, and the blocks read
back from a dump file. -/

namespace QbdiTracer

open HexFormats DelimiterCuts

variable {arch : Arch}

/-- The text of one call, through either branch on `len`. -/
def writeMemoryText (process : Process arch) (addr len : Word arch) (index : Nat) :
    Except DumpFault (List Char) :=
  let header := "memory block index:" ++ numberText index ++ " size:" ++ toHex len ++
    " address:" ++ toHex addr ++ "\n"
  (hexDump process addr len).map fun dump => header.toList ++ (dump ++ ['\n'])

def headerFormat : List Piece :=
  [.text "memory block index:".toList, .hex, .text " size:".toList, .hex,
    .text " address:".toList, .hex]

/-- A block of a dump file. A dump of the null pointer shows no bytes. -/
structure ShownBlock where
  index : Nat
  size : Nat
  address : Nat
  bytes : List (BitVec 8)
  deriving DecidableEq

def DumpRecord.shown (record : DumpRecord arch) : ShownBlock where
  index := record.memoryIndex
  size := record.size.toNat
  address := record.address.toNat
  bytes := if record.address = 0 then [] else record.bytes

/-- The lines under a header. -/
def bodyRows (size address : Nat) : Nat :=
  if size = 0 ∨ address = 0 then 1 else (address % 16 + size + 15) / 16

/-- The bytes of a block, from the lines under its header. -/
def readBody (arch : Arch) (size address : Nat) (body : List (List Char)) :
    Option (List (BitVec 8)) :=
  if size = 0 then if body = [[]] then some [] else none
  else if address = 0 then if body = ["00000000:".toList] then some [] else none
  else
    let (start, bytes) := readDump arch (['\n'].intercalate body)
    if start = address ∧ bytes.length = size then some bytes else none

/-- The blocks of some lines, at most `fuel` of them. -/
def readBlocks (arch : Arch) : Nat → List (List Char) → Option (List ShownBlock)
  | _, [] => some []
  | 0, _ :: _ => none
  | fuel + 1, header :: rest =>
    match scanWhole headerFormat header with
    | some [index, size, address] =>
      let rows := bodyRows size address
      (readBody arch size address (rest.take rows)).bind fun bytes =>
        (readBlocks arch fuel (rest.drop rows)).map (⟨index, size, address, bytes⟩ :: ·)
    | _ => none

def readDumpFile (arch : Arch) (text : List Char) : Option (List ShownBlock) :=
  let found := lines '\n' text
  readBlocks arch found.length found

/-- The bytes are those of the size, and the block does not wrap around. -/
structure DumpRecord.Fits (record : DumpRecord arch) : Prop where
  length : record.bytes.length = record.size.toNat
  within : record.address.toNat + record.size.toNat ≤ 2 ^ arch.wordBits

/-- The text was printed for the record, by a process that held its bytes. -/
def DumpRecord.Prints (record : DumpRecord arch) (text : List Char) : Prop :=
  ∃ process : Process arch, process.readBytes record.address record.size = record.bytes ∧
    writeMemoryText process record.address record.size record.memoryIndex = .ok text

section Text

variable {process : Process arch} {record : DumpRecord arch}

def headerLine (record : DumpRecord arch) : List Char :=
  render headerFormat [record.memoryIndex, record.size.toNat, record.address.toNat]

def bodyLines (process : Process arch) (record : DumpRecord arch) : List (List Char) :=
  if record.size = 0 then [[]]
  else if record.address = 0 then ["00000000:".toList]
  else linesOf process record.address record.size.toNat

/-- Joined lines with a newline behind. -/
theorem intercalate_newline {rows : List (List Char)} (nonempty : rows ≠ []) :
    ['\n'].intercalate rows ++ ['\n'] = rows.flatMap (· ++ ['\n']) := by
  rcases rows.eq_nil_or_concat with rfl | ⟨init, last, rfl⟩
  · exact absurd rfl nonempty
  · rw [List.concat_eq_append, intercalate_concat, List.flatMap_append, List.flatMap_singleton,
      List.append_assoc]

theorem toNat_pos {value : Word arch} (nonzero : value ≠ 0) : 0 < value.toNat :=
  toNat_pos_of_ne_zero nonzero

theorem linesOf_ne_nil (process : Process arch) {address : Word arch} {length : Nat}
    (positive : 0 < length) : linesOf process address length ≠ [] := by
  intro none
  have count : (linesOf process address length).length = _ := length_linesOf process length
  rw [none, List.length_nil] at count
  omega

theorem hexDump_bodyLines (within : record.address.toNat + record.size.toNat ≤ 2 ^ arch.wordBits) :
    hexDump process record.address record.size =
      .ok (['\n'].intercalate (bodyLines process record)) := by
  rw [bodyLines]
  split
  · rename_i empty
    rw [hexDump, if_pos empty]
    rfl
  · rename_i some_bytes
    split
    · rename_i null
      rw [hexDump, if_neg some_bytes, if_pos null]
      rfl
    · rename_i nonnull
      have dump := hexDump_eq process nonnull (toNat_pos some_bytes) within
      rwa [BitVec.ofNat_toNat, BitVec.setWidth_eq] at dump

theorem bodyLines_ne_nil (process : Process arch) (record : DumpRecord arch) :
    bodyLines process record ≠ [] := by
  rw [bodyLines]
  split
  · exact List.cons_ne_nil _ _
  · rename_i some_bytes
    split
    · exact List.cons_ne_nil _ _
    · exact linesOf_ne_nil process (toNat_pos some_bytes)

/-- A record's text is its header and the lines of its dump. -/
theorem writeMemoryText_eq
    (within : record.address.toNat + record.size.toNat ≤ 2 ^ arch.wordBits) :
    writeMemoryText process record.address record.size record.memoryIndex =
      .ok ((headerLine record :: bodyLines process record).flatMap (· ++ ['\n'])) := by
  have header : ("memory block index:" ++ numberText record.memoryIndex ++ " size:" ++
      toHex record.size ++ " address:" ++ toHex record.address ++ "\n").toList =
      headerLine record ++ ['\n'] := by
    simp only [headerLine, headerFormat, render, String.toList_append, toList_numberText,
      toList_toHex, List.append_assoc, List.append_nil]
    rfl
  rw [writeMemoryText, hexDump_bodyLines within, Except.map, header,
    intercalate_newline (bodyLines_ne_nil process record), List.flatMap_cons]

theorem length_bodyLines (process : Process arch) (record : DumpRecord arch) :
    (bodyLines process record).length = bodyRows record.size.toNat record.address.toNat := by
  have zero {value : Word arch} : value.toNat = 0 ↔ value = 0 := by
    rw [← BitVec.toNat_inj]
    rfl
  rw [bodyLines, bodyRows]
  simp only [zero]
  split
  · rename_i empty
    rw [if_pos (.inl empty)]
    rfl
  · rename_i some_bytes
    split
    · rename_i null
      rw [if_pos (.inr null)]
      rfl
    · rename_i nonnull
      rw [if_neg (not_or.mpr ⟨some_bytes, nonnull⟩), length_linesOf]

theorem newline_free (process : Process arch) (record : DumpRecord arch) :
    ∀ line ∈ headerLine record :: bodyLines process record, '\n' ∉ line := by
  have foreign : Foreign headerFormat '\n' := by decide
  intro line member
  rcases List.mem_cons.mp member with rfl | body
  · exact foreign.not_mem_render _
  · rw [bodyLines] at body
    split at body
    · rw [List.mem_singleton.mp body]
      exact List.not_mem_nil
    · split at body
      · rw [List.mem_singleton.mp body]
        decide
      · intro newline
        obtain ⟨value, rfl⟩ := mem_linesOf body
        exact absurd (visible_dumpedLine process _ _ value _ newline) (by decide)

/-- The bytes are read back from the lines of a dump. -/
theorem readBody_bodyLines (held : process.readBytes record.address record.size = record.bytes)
    (fits : record.Fits) :
    readBody arch record.size.toNat record.address.toNat (bodyLines process record) =
      some record.shown.bytes := by
  rw [readBody, bodyLines, DumpRecord.shown]
  by_cases empty : record.size = 0
  · have none : record.bytes = [] := by
      refine List.eq_nil_of_length_eq_zero ?_
      rw [fits.length, empty]
      rfl
    simp [empty, none]
  · have some_bytes := toNat_pos empty
    rw [if_neg (Nat.ne_of_gt some_bytes), if_neg empty]
    by_cases null : record.address = 0
    · simp [null]
    · have nonempty : record.bytes ≠ [] := by
        intro none
        have length := fits.length
        rw [none, List.length_nil] at length
        omega
      have bound := record.size.isLt
      have same : BitVec.ofNat arch.wordBits record.bytes.length = record.size := by
        rw [fits.length, BitVec.ofNat_toNat, BitVec.setWidth_eq]
      have memory : ∀ (i : Nat) (bound : i < record.bytes.length),
          process.memory (BitVec.ofNat _ (record.address.toNat + i)) = record.bytes[i] :=
        fun i bound => memory_eq (by rw [same]; exact held) (by rw [fits.length]; omega) bound
      have read := readDump_linesOf nonempty memory
      rw [fits.length] at read
      rw [if_neg (Nat.ne_of_gt (toNat_pos null)), if_neg null, if_neg null, read]
      simp [fits.length]

/-- The blocks are read one by one. -/
theorem readBlocks_record (held : process.readBytes record.address record.size = record.bytes)
    (fits : record.Fits) (fuel : Nat) (rest : List (List Char)) :
    readBlocks arch (fuel + 1) (headerLine record :: bodyLines process record ++ rest) =
      (readBlocks arch fuel rest).map (record.shown :: ·) := by
  have header : scanWhole headerFormat (headerLine record) =
      some [record.memoryIndex, record.size.toNat, record.address.toNat] :=
    scanWhole_render (by decide) rfl
  rw [List.cons_append, readBlocks, header]
  simp only [← length_bodyLines process record, List.take_left, List.drop_left,
    readBody_bodyLines held fits, Option.bind_some]
  rfl

end Text

/-- A dump file gives back every block that was written to it, in order. -/
theorem readDumpFile_printed {records : List (DumpRecord arch)} {texts : List (List Char)}
    (printed : List.Forall₂ DumpRecord.Prints records texts)
    (fits : ∀ record ∈ records, record.Fits) :
    readDumpFile arch texts.flatten = some (records.map DumpRecord.shown) := by
  -- each record has a line of its own, so there is fuel for all of them
  have spelled : ∃ found : List (List Char), texts.flatten = found.flatMap (· ++ ['\n']) ∧
      (∀ line ∈ found, '\n' ∉ line) ∧ records.length ≤ found.length ∧
      ∀ fuel, records.length ≤ fuel →
        readBlocks arch fuel found = some (records.map DumpRecord.shown) := by
    induction printed with
    | nil =>
      refine ⟨[], rfl, by simp, Nat.le_refl _, fun fuel _ => ?_⟩
      cases fuel <;> rfl
    | @cons record text records texts prints _ ih =>
      obtain ⟨found, same, free, enough, reads⟩ := ih fun other member =>
        fits other (List.mem_cons_of_mem record member)
      obtain ⟨process, held, wrote⟩ := prints
      have own := fits record List.mem_cons_self
      rw [writeMemoryText_eq own.within, Except.ok.injEq] at wrote
      refine ⟨headerLine record :: bodyLines process record ++ found, ?_, ?_, ?_, ?_⟩
      · rw [List.flatten_cons, List.flatMap_append, ← same, wrote]
      · exact List.forall_mem_append.mpr ⟨newline_free process record, free⟩
      · simp only [List.cons_append, List.length_cons, List.length_append]
        omega
      · intro fuel more
        cases fuel with
        | zero => exact absurd more (Nat.not_succ_le_zero _)
        | succ fuel =>
          rw [readBlocks_record held own, reads fuel (Nat.le_of_succ_le_succ more)]
          rfl
  obtain ⟨found, same, free, enough, reads⟩ := spelled
  rw [readDumpFile, same, lines_terminated free]
  exact reads _ enough

/-- The process whose memory an operation dumps. -/
def DumpOperation.process? : DumpOperation arch → Option (Process arch)
  | .enable _ => none
  | .write process _ _ _ => some process
  | .flush process => some process

/-- Every new record of the file is of a block, with the bytes the process held. -/
def Adds (process : Process arch) (before after : List (DumpRecord arch)) : Prop :=
  ∀ record ∈ after, record ∈ before ∨ ∃ block, record = DumpRecord.of process block

theorem Adds.refl (process : Process arch) (content : List (DumpRecord arch)) :
    Adds process content content := fun _ member => .inl member

theorem Adds.trans {process : Process arch} {first second third : List (DumpRecord arch)}
    (head : Adds process first second) (tail : Adds process second third) :
    Adds process first third := by
  intro record member
  rcases tail record member with earlier | added
  · exact head record earlier
  · exact .inr added

namespace MemoryManager

theorem addMemory_content (manager : MemoryManager arch) (addr size : Word arch) :
    (manager.addMemory addr size).1.content = manager.content := by
  rw [addMemory]
  split <;> rfl

theorem getMemoryOffset_content (process : Process arch) (manager : MemoryManager arch)
    (addr : Word arch) : (manager.getMemoryOffset process addr).1.content = manager.content := by
  rw [getMemoryOffset]
  split
  · rfl
  · rcases manager.findAlreadyAllocMemoryInfo_cases process addr with found | ⟨start, stop, found⟩
    · rw [found]
      rfl
    · rw [found]
      by_cases null : start = 0
      · simp only [drawIndex, null, ↓reduceIte]
        rfl
      · simp only [drawIndex, null, ↓reduceIte]
        rfl

theorem foldl_writeBlock_adds (process : Process arch) (manager : MemoryManager arch)
    (blocks : List (MemoryInfo arch)) :
    Adds process manager.content (blocks.foldl (writeBlock process) manager).content := by
  intro record member
  rw [foldl_writeBlock, content] at member
  rcases List.mem_append.mp member with earlier | added
  · exact .inl earlier
  · split at added
    · obtain ⟨block, -, rfl⟩ := List.mem_map.mp added
      exact .inr ⟨block, rfl⟩
    · cases added

theorem removeMemory_adds (process : Process arch) (manager : MemoryManager arch)
    (addr : Word arch) :
    Adds process manager.content (manager.removeMemory process addr).1.content := by
  rw [removeMemory]
  split
  · exact .refl process _
  · rename_i block found
    exact manager.foldl_writeBlock_adds process [block]

theorem clear_adds (process : Process arch) (manager : MemoryManager arch) :
    Adds process manager.content (manager.clear process).content := by
  have dumped := manager.foldl_writeBlock_adds process manager.memoryInfos
  have closed : ∀ stream : DumpStream arch, stream.close.content = stream.content := by
    intro stream
    rw [DumpStream.close]
    split <;> rfl
  intro record member
  rw [clear, content, closed] at member
  exact dumped record member

end MemoryManager

namespace LoggerManager

variable {logger after : LoggerManager arch} {process : Process arch}

/-- The records of the dump file. -/
def dumped (logger : LoggerManager arch) : List (DumpRecord arch) :=
  (logger.memoryManager.map MemoryManager.content).getD []

theorem dumped_of_some {manager : MemoryManager arch}
    (present : logger.memoryManager = some manager) : logger.dumped = manager.content := by
  rw [dumped, present]
  rfl

theorem updateMemory_adds (process : Process arch) (call : InstFunCall arch)
    (manager : MemoryManager arch) :
    Adds process manager.content (updateMemory process call manager).1.content := by
  have released : Adds process manager.content (if call.memoryFreeAddress ≠ 0 then
      manager.removeMemory process call.memoryFreeAddress else (manager, none)).1.content := by
    split
    · exact manager.removeMemory_adds process _
    · exact .refl process _
  rw [updateMemory]
  simp only
  split
  · rw [MemoryManager.addMemory_content]
    exact released
  · exact released

theorem trackMemory_adds {info : InstTraceInfo arch} {block : Option (MemoryInfo arch)}
    (done : logger.trackMemory process info = .ok (after, block)) :
    Adds process logger.dumped after.dumped := by
  rw [trackMemory] at done
  split at done
  · cases done
    exact .refl process _
  · split at done
    · cases done
      exact .refl process _
    · split at done
      · cases done
      · rename_i manager present
        cases done
        rw [dumped_of_some present]
        exact updateMemory_adds process _ manager

theorem formatAccess_dumped {access : MemoryAccess arch} {entry : AccessInfo arch}
    (done : logger.formatAccess process access = .ok (after, entry)) :
    after.dumped = logger.dumped := by
  rw [formatAccess] at done
  split at done
  · cases done
    rfl
  · split at done
    · cases done
    · rename_i manager present
      cases done
      rw [dumped_of_some present]
      exact manager.getMemoryOffset_content process _

theorem formatAccessInfo_dumped {accesses : List (MemoryAccess arch)}
    {entries : List (AccessInfo arch)}
    (done : logger.formatAccessInfo process accesses = .ok (after, entries)) :
    after.dumped = logger.dumped := by
  induction accesses generalizing logger entries with
  | nil =>
    cases done
    rfl
  | cons access rest ih =>
    obtain ⟨⟨looked, entry⟩, first, done⟩ := FlowRun.bind_ok done
    obtain ⟨⟨finished, others⟩, second, done⟩ := FlowRun.bind_ok done
    cases done
    exact (ih second).trans (formatAccess_dumped first)

theorem setMemoryDumpToFile_dumped (dirReady : Bool) :
    ∀ record ∈ (logger.setMemoryDumpToFile dirReady true).dumped, record ∈ logger.dumped := by
  intro record member
  cases dirReady with
  | false => exact member
  | true =>
    have opened : record ∈ ((logger.memoryManager.getD {}).memoryDumpFile.openTrunc).content :=
      member
    rw [DumpStream.openTrunc] at opened
    split at opened
    · cases present : logger.memoryManager with
      | none =>
        rw [present] at opened
        cases opened
      | some manager =>
        rw [present] at opened
        rw [dumped_of_some present]
        exact opened
    · cases opened

/-- Nothing else gets into the file than blocks in the memory of the operation's process. -/
theorem apply_dumped {operation : DumpOperation arch} (done : operation.apply logger = .ok after) :
    ∀ record ∈ after.dumped, record ∈ logger.dumped ∨
      ∃ process ∈ operation.process?, ∃ block, record = DumpRecord.of process block := by
  cases operation with
  | enable dirReady =>
    cases done
    exact fun record member => .inl (setMemoryDumpToFile_dumped dirReady record member)
  | write process info inst accesses =>
    rw [DumpOperation.apply] at done
    cases wrote : logger.writeTraceInfo process info inst accesses with
    | error fault =>
      rw [wrote] at done
      cases done
    | ok outcome =>
      obtain ⟨written, block⟩ := outcome
      rw [wrote] at done
      cases done
      intro record member
      rcases writeTraceInfo_ok wrote with ⟨rfl, -⟩ | ⟨tracked, looked, entries, update, lookups, rfl⟩
      · exact .inl member
      · have kept : record ∈ looked.dumped := member
        rw [formatAccessInfo_dumped lookups] at kept
        rcases trackMemory_adds update record kept with earlier | added
        · exact .inl earlier
        · exact .inr ⟨process, rfl, added⟩
  | flush process =>
    cases done
    intro record member
    cases present : logger.memoryManager with
    | none =>
      rw [dumped, LoggerManager.flush, present] at member
      cases member
    | some manager =>
      have cleared : record ∈ (manager.clear process).content := by
        rwa [dumped, LoggerManager.flush, present] at member
      rw [dumped_of_some present]
      rcases manager.clear_adds process record cleared with earlier | added
      · exact .inl earlier
      · exact .inr ⟨process, rfl, added⟩

end LoggerManager

/-- The text was printed for the record by an operation of the history, from the memory of
its process. -/
def WrittenDuring (history : List (DumpOperation arch)) (record : DumpRecord arch)
    (text : List Char) : Prop :=
  ∃ operation ∈ history, ∃ process ∈ operation.process?,
    process.readBytes record.address record.size = record.bytes ∧
      writeMemoryText process record.address record.size record.memoryIndex = .ok text

/-- The dump file after any history of a new logger, of blocks that do not wrap around: its
text is printed from the memory the operations found, and reads back as its blocks. -/
theorem history_dump_reads {logger : LoggerManager arch} {history : List (DumpOperation arch)}
    {manager : MemoryManager arch} (fresh : logger.memoryManager = some {})
    (reached : logger.Reaches history manager)
    (within : ∀ record ∈ manager.content,
      record.address.toNat + record.size.toNat ≤ 2 ^ arch.wordBits) :
    ∃ texts, List.Forall₂ (WrittenDuring history) manager.content texts ∧
      readDumpFile arch texts.flatten = some (manager.content.map DumpRecord.shown) := by
  obtain ⟨after, done, present⟩ := reached
  have origins : ∀ record ∈ after.dumped, ∃ operation ∈ history,
      ∃ process ∈ operation.process?, ∃ block, record = DumpRecord.of process block := by
    refine EventLog.foldlM_history (fun past (state : LoggerManager arch) =>
      ∀ record ∈ state.dumped, ∃ operation ∈ past,
        ∃ process ∈ operation.process?, ∃ block, record = DumpRecord.of process block) ?_ ?_ done
    · rw [LoggerManager.dumped_of_some fresh]
      intro record member
      cases member
    · intro past operation before next earlier applied record member
      rcases LoggerManager.apply_dumped applied record member with old | ⟨process, here, origin⟩
      · obtain ⟨source, listed, rest⟩ := earlier record old
        exact ⟨source, List.mem_append_left _ listed, rest⟩
      · exact ⟨operation, List.mem_append_right _ (List.mem_singleton_self _), process, here, origin⟩
  rw [LoggerManager.dumped_of_some present] at origins
  have length : ∀ record ∈ manager.content, record.bytes.length = record.size.toNat := by
    intro record member
    obtain ⟨operation, -, process, -, block, rfl⟩ := origins record member
    simp [DumpRecord.of, Process.readBytes]
  have written : ∃ texts, List.Forall₂ (WrittenDuring history) manager.content texts := by
    clear length present
    generalize manager.content = content at within origins ⊢
    induction content with
    | nil => exact ⟨[], .nil⟩
    | cons record records ih =>
      obtain ⟨texts, others⟩ := ih (fun other member => within other (List.mem_cons_of_mem _ member))
        fun other member => origins other (List.mem_cons_of_mem _ member)
      obtain ⟨operation, listed, process, here, block, rfl⟩ := origins record List.mem_cons_self
      exact ⟨_ :: texts, .cons ⟨operation, listed, process, here, rfl,
        writeMemoryText_eq (within _ List.mem_cons_self)⟩ others⟩
  obtain ⟨texts, written⟩ := written
  refine ⟨texts, written, readDumpFile_printed (written.imp ?_)
    fun record member => ⟨length record member, within record member⟩⟩
  intro record text wrote
  obtain ⟨operation, -, process, -, held, printed⟩ := wrote
  exact ⟨process, held, printed⟩

/-- Sixteen zero bytes from `malloc`, dumped by the flush. -/
theorem history_dump_reads_malloc : ∃ texts,
    List.Forall₂ (WrittenDuring
      [.enable true, LoggerManager.mallocLine 0x5000, .flush LoggerManager.emptyProcess])
      [⟨0, 16, 0x5000, List.replicate 16 0⟩] texts ∧
    readDumpFile .aarch64 texts.flatten = some [⟨0, 16, 0x5000, List.replicate 16 0⟩] := by
  have reached : LoggerManager.fileLogger.Reaches
      [.enable true, LoggerManager.mallocLine 0x5000, .flush LoggerManager.emptyProcess]
      { memoryDumpFile := { content := [⟨0, 16, 0x5000, List.replicate 16 0⟩] }, memoryIndex := 1 } :=
    ⟨_, rfl, rfl⟩
  exact history_dump_reads rfl reached (by decide)

end QbdiTracer
