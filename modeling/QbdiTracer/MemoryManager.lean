import QbdiTracer.Common

/-! `trace/memory_manager.cpp`: the table of tracked blocks and the dump stream. -/

namespace QbdiTracer

variable {arch : Arch}

/-- What `write_memory_buffer` prints for one block. -/
structure DumpRecord (arch : Arch) where
  memoryIndex : Nat
  size : Word arch
  address : Word arch
  bytes : List (BitVec 8)
  deriving DecidableEq

/-- The `std::ofstream` of the dump together with the file it was opened on. -/
structure DumpStream (arch : Arch) where
  isOpen : Bool := false
  failbit : Bool := false
  content : List (DumpRecord arch) := []
  deriving DecidableEq

namespace DumpStream

/-- `open(path, out | trunc | binary)`: fails on an open stream, otherwise
empties the file and clears the error state. -/
def openTrunc (stream : DumpStream arch) : DumpStream arch :=
  if stream.isOpen then { stream with failbit := true } else { isOpen := true }

/-- `<<`: nothing reaches the file through a closed or failed stream. -/
def write (stream : DumpStream arch) (record : DumpRecord arch) : DumpStream arch :=
  if stream.isOpen && !stream.failbit then
    { stream with content := stream.content ++ [record] }
  else stream

/-- `close()`: fails on a stream that is not open. -/
def close (stream : DumpStream arch) : DumpStream arch :=
  if stream.isOpen then { stream with isOpen := false } else { stream with failbit := true }

end DumpStream

structure MemoryManager (arch : Arch) where
  memoryDumpFile : DumpStream arch := {}
  memoryIndex : Nat := 0
  memoryInfos : List (MemoryInfo arch) := []
  deriving DecidableEq

/-- The closed test `addr >= start && addr <= end` shared by the lookups. -/
def MemoryInfo.reaches (info : MemoryInfo arch) (addr : Word arch) : Bool :=
  decide (info.start ≤ addr) && decide (addr ≤ info.stop)

namespace MemoryManager

def setDumpPath (manager : MemoryManager arch) : MemoryManager arch :=
  { manager with memoryDumpFile := manager.memoryDumpFile.openTrunc }

def isInMemory (manager : MemoryManager arch) (addr : Word arch) : Bool :=
  if addr = 0 then false else manager.memoryInfos.any (·.reaches addr)

/-- Returns the new state and whether the block was accepted. -/
def addMemory (manager : MemoryManager arch) (addr size : Word arch) :
    MemoryManager arch × Bool :=
  if manager.isInMemory addr || manager.isInMemory (addr + size) then (manager, false)
  else
    ({ manager with
        memoryInfos := manager.memoryInfos ++ [⟨manager.memoryIndex, addr, addr + size⟩]
        memoryIndex := manager.memoryIndex + 1 }, true)

def writeMemoryBuffer (process : Process arch) (manager : MemoryManager arch)
    (addr len : Word arch) (index : Nat) : MemoryManager arch :=
  if manager.memoryDumpFile.isOpen then
    { manager with
        memoryDumpFile := manager.memoryDumpFile.write ⟨index, len, addr, process.readBytes addr len⟩ }
  else manager

/-- `write_memory_buffer` on a tracked block. -/
def writeBlock (process : Process arch) (manager : MemoryManager arch)
    (block : MemoryInfo arch) : MemoryManager arch :=
  manager.writeMemoryBuffer process block.start (block.stop - block.start) block.memoryIndex

/-- Dumps and erases the first block that starts at `addr`. The erased block is
returned; the C++ result is whether there was one. -/
def removeMemory (process : Process arch) (manager : MemoryManager arch) (addr : Word arch) :
    MemoryManager arch × Option (MemoryInfo arch) :=
  match manager.memoryInfos.find? (·.start == addr) with
  | none => (manager, none)
  | some block =>
    let dumped := manager.writeBlock process block
    ({ dumped with memoryInfos := dumped.memoryInfos.eraseP (·.start == addr) }, some block)

/-- Dumps every block still tracked, then closes the stream. -/
def clear (process : Process arch) (manager : MemoryManager arch) : MemoryManager arch :=
  let dumped := manager.memoryInfos.foldl (writeBlock process) manager
  { dumped with memoryInfos := [], memoryDumpFile := dumped.memoryDumpFile.close }

/-- The `malloc_iterate` callback: a later chunk that reaches `addr` replaces an
earlier one. -/
def callback (addr : Word arch) (found chunk : Word arch × Word arch) : Word arch × Word arch :=
  if chunk.1 ≤ addr ∧ addr ≤ chunk.1 + chunk.2 then chunk else found

/-- `memory_index.fetch_add(1)` paired with the range found. -/
def drawIndex (manager : MemoryManager arch) (start stop : Word arch) :
    MemoryManager arch × MemoryInfo arch :=
  ({ manager with memoryIndex := manager.memoryIndex + 1 }, ⟨manager.memoryIndex, start, stop⟩)

def findAlreadyAllocMemoryInfo (process : Process arch) (manager : MemoryManager arch)
    (addr : Word arch) : MemoryManager arch × MemoryInfo arch :=
  match process.mallocIterate with
  | none => (manager, ⟨0, 0, 0⟩)
  | some mallocIterate =>
    match process.maps.find? (fun map => decide (map.start ≤ addr) && decide (addr ≤ map.stop)) with
    | none => manager.drawIndex 0 0
    | some map =>
      let chunk := (mallocIterate map.start (map.stop - map.start)).foldl (callback addr) (0, 0)
      if chunk.1 = 0 then manager.drawIndex map.start map.stop
      else manager.drawIndex chunk.1 (chunk.1 + chunk.2)

/-- Returns the new state, the offset (all ones when nothing was found) and the
index of the block. A block that was not tracked is adopted. -/
def getMemoryOffset (process : Process arch) (manager : MemoryManager arch) (addr : Word arch) :
    MemoryManager arch × Word arch × Nat :=
  match manager.memoryInfos.find? (·.reaches addr) with
  | some block => (manager, addr - block.start, block.memoryIndex)
  | none =>
    let (drawn, block) := manager.findAlreadyAllocMemoryInfo process addr
    if block.start = 0 then (drawn, BitVec.allOnes _, 0)
    else
      ({ drawn with memoryInfos := drawn.memoryInfos ++ [block] }, addr - block.start,
        block.memoryIndex)

end MemoryManager

end QbdiTracer
