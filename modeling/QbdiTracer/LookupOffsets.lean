import QbdiTracer.BlockIndices

/-! The block that a lookup reports. Blocks are half open, but each of the four tests on
the way to one is closed at the end. -/

namespace QbdiTracer

variable {arch : Arch}

/-- What the offset of a lookup is for: unless it is -1, the block with the index that is
returned holds the address, and the offset counts from its start. -/
def MemoryManager.OffsetInside (process : Process arch) (manager : MemoryManager arch)
    (addr : Word arch) : Prop :=
  let (after, offset, index) := manager.getMemoryOffset process addr
  offset ≠ BitVec.allOnes _ → ∃ block ∈ after.memoryInfos, block.memoryIndex = index ∧
    block.start ≤ addr ∧ addr < block.stop ∧ offset = addr - block.start

/-- The chunk begins at or before the address and ends at or behind it. -/
def chunkReaches (addr : Word arch) (chunk : Word arch × Word arch) : Bool :=
  decide (chunk.1 ≤ addr) && decide (addr ≤ chunk.1 + chunk.2)

/-- In the first map that reaches the address, the last chunk reported that reaches it ends
there; or the map itself does, if no chunk reaches the address or the chunk begins at 0. -/
def Process.FoundEndsAt (process : Process arch) (addr : Word arch) : Prop :=
  ∃ mallocIterate map, process.mallocIterate = some mallocIterate ∧
    process.maps.find? (fun map => decide (map.start ≤ addr) && decide (addr ≤ map.stop)) = some map ∧
    match ((mallocIterate map.start (map.stop - map.start)).filter (chunkReaches addr)).getLast? with
    | some chunk =>
      if chunk.1 = 0 then map.start ≠ 0 ∧ map.stop = addr else chunk.1 + chunk.2 = addr
    | none => map.start ≠ 0 ∧ map.stop = addr

/-- The first tracked block that reaches the address ends there, and is not the one whose
offset would be -1; or there is none, and what is found instead ends there. -/
def MemoryManager.ReportsEnd (process : Process arch) (manager : MemoryManager arch)
    (addr : Word arch) : Prop :=
  match manager.memoryInfos.find? (·.reaches addr) with
  | some block => block.stop = addr ∧ ¬ (block.start = 0 ∧ addr = BitVec.allOnes _)
  | none => process.FoundEndsAt addr

namespace MemoryManager

variable {process : Process arch} {manager : MemoryManager arch} {addr start stop : Word arch}

theorem foldl_callback_eq (chunks : List (Word arch × Word arch)) (found : Word arch × Word arch) :
    chunks.foldl (callback addr) found =
      ((chunks.filter (chunkReaches addr)).getLast?).getD found := by
  induction chunks using List.reverseRecOn with
  | nil => rfl
  | append_singleton chunks chunk ih =>
    rw [List.foldl_append, List.foldl_cons, List.foldl_nil, List.filter_append, callback]
    by_cases reaches : chunk.1 ≤ addr ∧ addr ≤ chunk.1 + chunk.2
    · have kept : chunkReaches addr chunk = true := by simpa [chunkReaches] using reaches
      simp [reaches, kept]
    · have dropped : chunkReaches addr chunk = false := by
        rw [Bool.eq_false_iff]
        simpa [chunkReaches] using reaches
      rw [if_neg reaches, ih]
      simp [dropped]

theorem foundEndsAt_iff : process.FoundEndsAt addr ↔
    (process.foundBounds addr).1 ≠ 0 ∧ (process.foundBounds addr).2 = addr := by
  unfold Process.FoundEndsAt Process.foundBounds
  cases process.mallocIterate with
  | none => simp
  | some mallocIterate =>
    cases process.maps.find? (fun map => decide (map.start ≤ addr) && decide (addr ≤ map.stop)) with
    | none => simp
    | some map =>
      simp only [foldl_callback_eq, Option.some.injEq, exists_and_left, exists_eq_left']
      generalize (mallocIterate map.start (map.stop - map.start)).filter (chunkReaches addr) = chunks
      cases chunks.getLast? with
      | none => simp
      | some chunk =>
        by_cases zero : chunk.1 = 0
        · simp only [Option.getD_some, if_pos zero]
        · simp only [Option.getD_some, if_neg zero]
          exact ⟨fun ends => ⟨zero, ends⟩, And.right⟩

/-- An offset is -1 only in the block of all addresses. -/
theorem offset_eq_allOnes_iff (inside : start ≤ addr) :
    addr - start = BitVec.allOnes _ ↔ start = 0 ∧ addr = BitVec.allOnes _ := by
  rw [← BitVec.toNat_inj, ← BitVec.toNat_inj, ← BitVec.toNat_inj, BitVec.toNat_sub_of_le inside,
    BitVec.toNat_allOnes]
  have zero : (0 : Word arch).toNat = 0 := by simp
  have below := addr.isLt
  rw [BitVec.le_def] at inside
  omega

/-- A reported block holds the address exactly if it does not end there. -/
theorem inside_iff {block : MemoryInfo arch} {blocks : List (MemoryInfo arch)}
    (distinct : (blocks.map MemoryInfo.memoryIndex).Nodup) (member : block ∈ blocks)
    (begins : block.start ≤ addr) (ends : addr ≤ block.stop) :
    (addr - block.start ≠ BitVec.allOnes _ → ∃ other ∈ blocks,
        other.memoryIndex = block.memoryIndex ∧ other.start ≤ addr ∧ addr < other.stop ∧
        addr - block.start = addr - other.start) ↔
      ¬ (block.stop = addr ∧ ¬ (block.start = 0 ∧ addr = BitVec.allOnes _)) := by
  rw [ne_eq, offset_eq_allOnes_iff begins]
  constructor
  · rintro held ⟨ended, ordinary⟩
    obtain ⟨other, tracked, same, -, below, -⟩ := held ordinary
    rw [List.inj_on_of_nodup_map distinct tracked member same, ended] at below
    exact BitVec.lt_irrefl _ below
  · intro elsewhere ordinary
    refine ⟨block, member, rfl, begins, BitVec.not_le.mp fun reached => ?_, rfl⟩
    exact elsewhere ⟨BitVec.le_antisymm reached ends, ordinary⟩

theorem getMemoryOffset_tracked {block : MemoryInfo arch}
    (found : manager.memoryInfos.find? (·.reaches addr) = some block) :
    manager.getMemoryOffset process addr = (manager, addr - block.start, block.memoryIndex) := by
  rw [getMemoryOffset, found]

theorem getMemoryOffset_nothing (untracked : manager.memoryInfos.find? (·.reaches addr) = none)
    (zero : (process.foundBounds addr).1 = 0) :
    (manager.getMemoryOffset process addr).2.1 = BitVec.allOnes _ := by
  rw [getMemoryOffset, untracked, findAlreadyAllocMemoryInfo_eq]
  cases process.mallocIterate with
  | none => rfl
  | some mallocIterate => simp [drawIndex, zero]

theorem getMemoryOffset_adopted (untracked : manager.memoryInfos.find? (·.reaches addr) = none)
    (nonzero : (process.foundBounds addr).1 ≠ 0) :
    manager.getMemoryOffset process addr = ({ manager with
        memoryIndex := manager.memoryIndex + 1
        memoryInfos := manager.memoryInfos ++ [⟨manager.memoryIndex,
          (process.foundBounds addr).1, (process.foundBounds addr).2⟩] },
      addr - (process.foundBounds addr).1, manager.memoryIndex) := by
  have iterates : process.mallocIterate.isSome = true := by
    by_contra none
    apply nonzero
    rw [Process.foundBounds, Option.not_isSome_iff_eq_none.mp none]
  rw [getMemoryOffset, untracked, findAlreadyAllocMemoryInfo_eq, if_pos iterates]
  exact if_neg nonzero

theorem not_inside_of_end (block : MemoryInfo arch)
    (table : (manager.getMemoryOffset process addr).1.memoryInfos = [block])
    (ended : block.stop = addr)
    (ordinary : (manager.getMemoryOffset process addr).2.1 ≠ BitVec.allOnes _) :
    ¬ manager.OffsetInside process addr := by
  intro inside
  obtain ⟨other, member, -, -, below, -⟩ := inside ordinary
  have only : other ∈ [block] := table ▸ member
  rw [List.mem_singleton.mp only, ended] at below
  exact BitVec.lt_irrefl _ below

theorem offsetInside_iff (distinct : (manager.memoryInfos.map MemoryInfo.memoryIndex).Nodup)
    (below : ∀ block ∈ manager.memoryInfos, block.memoryIndex < manager.memoryIndex) :
    manager.OffsetInside process addr ↔ ¬ manager.ReportsEnd process addr := by
  unfold OffsetInside ReportsEnd
  cases found : manager.memoryInfos.find? (·.reaches addr) with
  | some block =>
    have reached := List.find?_some found
    simp only [MemoryInfo.reaches, Bool.and_eq_true, decide_eq_true_eq] at reached
    rw [getMemoryOffset_tracked found]
    exact inside_iff distinct (List.mem_of_find?_eq_some found) reached.1 reached.2
  | none =>
    simp only [foundEndsAt_iff]
    by_cases zero : (process.foundBounds addr).1 = 0
    · refine iff_of_true (fun other => ?_) fun ends => ends.1 zero
      exact absurd (getMemoryOffset_nothing found zero) other
    · obtain ⟨begins, ends⟩ := foundBounds_reaches zero
      rw [getMemoryOffset_adopted found zero]
      have fresh : manager.memoryIndex ∉ manager.memoryInfos.map MemoryInfo.memoryIndex := by
        intro used
        obtain ⟨block, member, same⟩ := List.mem_map.mp used
        exact Nat.ne_of_lt (below block member) same
      have own := @inside_iff arch addr ⟨manager.memoryIndex, (process.foundBounds addr).1,
        (process.foundBounds addr).2⟩ (manager.memoryInfos ++ [⟨manager.memoryIndex,
        (process.foundBounds addr).1, (process.foundBounds addr).2⟩])
        (by simpa [List.nodup_append, distinct] using fresh) (by simp) begins ends
      refine own.trans (not_congr ⟨fun ended => ⟨zero, ended.1⟩, ?_⟩)
      rintro ⟨-, ended⟩
      exact ⟨ended, fun whole => zero whole.1⟩

end MemoryManager

namespace Ledger

/-- In every reachable state a lookup reports a block that holds the address, except when
the block that it comes to ends there. -/
theorem offset_inside_iff (calls : List (ManagerCall arch)) (process : Process arch)
    (addr : Word arch) :
    (run calls).manager.OffsetInside process addr ↔
      ¬ (run calls).manager.ReportsEnd process addr := by
  have ordered := ordered_run calls
  have distinct := (List.nodup_append.mp ordered.apart).1
  refine MemoryManager.offsetInside_iff distinct fun block member => ?_
  exact ordered.below block (ordered.table.subset member)

/-- The map from `0x1000` to `0x2000` with two chunks in it, and a map that adjoins it. -/
def adjoining : Process .aarch64 where
  memory := fun _ => 0
  cString := fun _ => ""
  maps := [⟨0x1000, 0x2000⟩, ⟨0x2000, 0x3000⟩]
  mallocIterate := some fun base _ => if base = 0x1000 then [(0x1020, 0x20), (0x1000, 0x20)] else []
  jniClassName := fun _ => ""

/-- The first byte behind a tracked block, the first byte of a chunk and the first byte of a
map are reported as bytes of the blocks that end there. -/
theorem end_reported_inside :
    (((run [.add 0x1000 0x20]).manager.getMemoryOffset adjoining 0x1020).2 = (0x20, 0) ∧
      ¬ (run [.add 0x1000 0x20]).manager.OffsetInside adjoining 0x1020) ∧
    (((run []).manager.getMemoryOffset adjoining 0x1020).2 = (0x20, 0) ∧
      ¬ (run []).manager.OffsetInside adjoining 0x1020) ∧
    (((run []).manager.getMemoryOffset adjoining 0x2000).2 = (0x1000, 0) ∧
      ¬ (run []).manager.OffsetInside adjoining 0x2000) := by
  refine ⟨⟨by decide, ?_⟩, ⟨by decide, ?_⟩, ⟨by decide, ?_⟩⟩
  · exact MemoryManager.not_inside_of_end ⟨0, 0x1000, 0x1020⟩ (by decide) rfl (by decide)
  · exact MemoryManager.not_inside_of_end ⟨0, 0x1000, 0x1020⟩ (by decide) rfl (by decide)
  · exact MemoryManager.not_inside_of_end ⟨0, 0x1000, 0x2000⟩ (by decide) rfl (by decide)

end Ledger

end QbdiTracer
