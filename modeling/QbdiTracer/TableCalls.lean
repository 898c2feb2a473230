import QbdiTracer.AllocatorCalls
import QbdiTracer.Library.EventLog

/-! Calls on the table of blocks in any order: allocations, releases, lookups and
clears. A block enters the table as an allocation, or because a lookup adopts it. -/

namespace QbdiTracer

variable {arch : Arch}

/-- A call on the table, with the process as it is at that moment. -/
inductive TableCall (arch : Arch) where
  | add (addr size : Word arch) (fits : addr.toNat + size.toNat < 2 ^ arch.wordBits)
  | remove (process : Process arch) (addr : Word arch)
  | lookup (process : Process arch) (addr : Word arch)
  | clear (process : Process arch)

namespace TableCall

def apply (manager : MemoryManager arch) : TableCall arch → MemoryManager arch
  | .add addr size _ => (manager.addMemory addr size).1
  | .remove process addr => (manager.removeMemory process addr).1
  | .lookup process addr => (manager.getMemoryOffset process addr).1
  | .clear process => manager.clear process

/-- The table after a sequence of calls. -/
def applyAll (manager : MemoryManager arch) (calls : List (TableCall arch)) : MemoryManager arch :=
  calls.foldl apply manager

theorem applyAll_concat (manager : MemoryManager arch) (past : List (TableCall arch))
    (call : TableCall arch) :
    applyAll manager (past ++ [call]) = call.apply (applyAll manager past) := by
  simp [applyAll]

end TableCall

/-- The bounds that `find_already_alloc_memory_info` comes to: the last chunk that
reaches the address, else the map, else zeros. -/
def Process.foundBounds (process : Process arch) (addr : Word arch) : Word arch × Word arch :=
  match process.mallocIterate with
  | none => (0, 0)
  | some mallocIterate =>
    match process.maps.find? (fun map => decide (map.start ≤ addr) && decide (addr ≤ map.stop)) with
    | none => (0, 0)
    | some map =>
      let chunk := (mallocIterate map.start (map.stop - map.start)).foldl
        (MemoryManager.callback addr) (0, 0)
      if chunk.1 = 0 then (map.start, map.stop) else (chunk.1, chunk.1 + chunk.2)

/-- The bounds of the block that a lookup adopts for an address outside the table. -/
def Process.adoptable (process : Process arch) (addr : Word arch) : Option (Word arch × Word arch) :=
  if (process.foundBounds addr).1 = 0 then none else some (process.foundBounds addr)

namespace MemoryManager

/-- The chunk that the `malloc_iterate` callbacks leave reaches the address. -/
theorem foldl_callback {addr : Word arch} (chunks : List (Word arch × Word arch))
    {found : Word arch × Word arch}
    (reaches : found.1 ≠ 0 → found.1 ≤ addr ∧ addr ≤ found.1 + found.2) :
    (chunks.foldl (callback addr) found).1 ≠ 0 →
      (chunks.foldl (callback addr) found).1 ≤ addr ∧
        addr ≤ (chunks.foldl (callback addr) found).1 + (chunks.foldl (callback addr) found).2 := by
  induction chunks generalizing found with
  | nil => exact reaches
  | cons chunk rest ih =>
    apply ih
    unfold callback
    split
    · rename_i here
      exact fun _ => here
    · exact reaches

theorem foundBounds_reaches {process : Process arch} {addr : Word arch}
    (nonzero : (process.foundBounds addr).1 ≠ 0) :
    (process.foundBounds addr).1 ≤ addr ∧ addr ≤ (process.foundBounds addr).2 := by
  unfold Process.foundBounds at nonzero ⊢
  split at nonzero
  · exact absurd rfl nonzero
  · split at nonzero
    · exact absurd rfl nonzero
    · rename_i map inside
      simp only at nonzero ⊢
      split
      · have within := List.find?_some inside
        simpa using within
      · rename_i chunk
        exact foldl_callback _ (fun zero => absurd rfl zero) chunk

theorem adoptable_reaches {process : Process arch} {addr : Word arch}
    {bounds : Word arch × Word arch} (adopted : process.adoptable addr = some bounds) :
    bounds.1 ≠ 0 ∧ bounds.1 ≤ addr ∧ addr ≤ bounds.2 := by
  unfold Process.adoptable at adopted
  split at adopted
  · cases adopted
  · rename_i nonzero
    cases adopted
    exact ⟨nonzero, foundBounds_reaches nonzero⟩

/-- The search draws an index for what it finds, if it gets as far as the maps. -/
theorem findAlreadyAllocMemoryInfo_eq (process : Process arch) (manager : MemoryManager arch)
    (addr : Word arch) :
    manager.findAlreadyAllocMemoryInfo process addr =
      if process.mallocIterate.isSome then
        manager.drawIndex (process.foundBounds addr).1 (process.foundBounds addr).2
      else (manager, ⟨0, 0, 0⟩) := by
  unfold findAlreadyAllocMemoryInfo Process.foundBounds
  cases process.mallocIterate with
  | none => rfl
  | some mallocIterate =>
    cases process.maps.find? (fun map => decide (map.start ≤ addr) && decide (addr ≤ map.stop)) with
    | none => rfl
    | some map =>
      simp only [Option.isSome_some, ↓reduceIte]
      split <;> rfl

theorem writeBlock_memoryIndex (process : Process arch) (manager : MemoryManager arch)
    (block : MemoryInfo arch) : (manager.writeBlock process block).memoryIndex = manager.memoryIndex := by
  unfold writeBlock writeMemoryBuffer
  split <;> rfl

theorem removeMemory_memoryIndex (process : Process arch) (manager : MemoryManager arch)
    (addr : Word arch) :
    (manager.removeMemory process addr).1.memoryIndex = manager.memoryIndex := by
  unfold removeMemory
  split
  · rfl
  · exact manager.writeBlock_memoryIndex process _

theorem clear_memoryIndex (process : Process arch) (manager : MemoryManager arch) :
    (manager.clear process).memoryIndex = manager.memoryIndex := by
  have dumped : ∀ (blocks : List (MemoryInfo arch)) (before : MemoryManager arch),
      (blocks.foldl (writeBlock process) before).memoryIndex = before.memoryIndex := by
    intro blocks
    induction blocks with
    | nil => exact fun before => rfl
    | cons block rest ih =>
      exact fun before => (ih _).trans (before.writeBlock_memoryIndex process block)
  exact dumped manager.memoryInfos manager

theorem isInMemory_eq_false_iff {manager : MemoryManager arch} {addr : Word arch} :
    manager.isInMemory addr = false ↔
      addr = 0 ∨ ∀ block ∈ manager.memoryInfos, block.reaches addr = false := by
  unfold isInMemory
  by_cases zero : addr = 0
  · simp [zero]
  · rw [if_neg zero, List.any_eq_false, or_iff_right zero]
    simp

theorem reaches_eq_false_iff {block : MemoryInfo arch} {addr : Word arch} :
    block.reaches addr = false ↔ addr < block.start ∨ block.stop < addr := by
  simp only [MemoryInfo.reaches, Bool.and_eq_false_iff, decide_eq_false_iff_not, BitVec.not_le]

/-- What an allocation does to the table: it is refused, or its block is the last. -/
theorem addMemory_cases (manager : MemoryManager arch) (addr size : Word arch) :
    (manager.isInMemory addr = true ∨ manager.isInMemory (addr + size) = true) ∧
        manager.addMemory addr size = (manager, false) ∨
      (manager.isInMemory addr = false ∧ manager.isInMemory (addr + size) = false) ∧
        manager.addMemory addr size = ({ manager with
          memoryInfos := manager.memoryInfos ++ [⟨manager.memoryIndex, addr, addr + size⟩]
          memoryIndex := manager.memoryIndex + 1 }, true) := by
  unfold addMemory
  by_cases taken : (manager.isInMemory addr || manager.isInMemory (addr + size)) = true
  · exact .inl ⟨Bool.or_eq_true _ _ ▸ taken, if_pos taken⟩
  · have free := Bool.or_eq_false_iff.mp (Bool.not_eq_true _ ▸ taken)
    exact .inr ⟨free, if_neg taken⟩

/-- What a lookup does to the table: it is left alone, or one block is adopted. -/
theorem getMemoryOffset_cases (process : Process arch) (manager : MemoryManager arch)
    (addr : Word arch) :
    (manager.memoryInfos.any (·.reaches addr) ∨ process.adoptable addr = none) ∧
        (manager.getMemoryOffset process addr).1.memoryInfos = manager.memoryInfos ∧
        manager.memoryIndex ≤ (manager.getMemoryOffset process addr).1.memoryIndex ∨
      manager.memoryInfos.any (·.reaches addr) = false ∧ ∃ bounds,
        process.adoptable addr = some bounds ∧
        (manager.getMemoryOffset process addr).1.memoryInfos =
          manager.memoryInfos ++ [⟨manager.memoryIndex, bounds.1, bounds.2⟩] ∧
        (manager.getMemoryOffset process addr).1.memoryIndex = manager.memoryIndex + 1 := by
  unfold getMemoryOffset
  cases found : manager.memoryInfos.find? (·.reaches addr) with
  | some block =>
    left
    have reached := List.find?_some found
    have tracked := List.mem_of_find?_eq_some found
    exact ⟨.inl (List.any_eq_true.mpr ⟨block, tracked, reached⟩), rfl, Nat.le_refl _⟩
  | none =>
    rw [findAlreadyAllocMemoryInfo_eq]
    by_cases zero : (process.foundBounds addr).1 = 0
    · left
      refine ⟨.inr (if_pos zero), ?_⟩
      cases process.mallocIterate with
      | none => exact ⟨rfl, Nat.le_refl _⟩
      | some mallocIterate =>
        simp only [Option.isSome_some, drawIndex, zero, ↓reduceIte, true_and]
        exact Nat.le_succ _
    · right
      have iterates : process.mallocIterate.isSome = true := by
        by_contra none
        apply zero
        rw [Process.foundBounds, Option.not_isSome_iff_eq_none.mp none]
      refine ⟨?_, _, if_neg zero, ?_⟩
      · rw [List.find?_eq_none] at found
        simpa using found
      · simp only [iterates, drawIndex, zero, ↓reduceIte, and_self]

end MemoryManager

/-- A process with the map from `0x5000` to `0x9000`, in which `malloc_iterate` reports
no chunk. -/
def Process.chunkless : Process .aarch64 where
  memory := fun _ => 0
  cString := fun _ => ""
  maps := [⟨0x5000, 0x9000⟩]
  mallocIterate := some fun _ _ => []
  jniClassName := fun _ => ""

end QbdiTracer
