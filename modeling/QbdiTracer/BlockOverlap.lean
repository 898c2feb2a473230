import QbdiTracer.TableCalls

/-! When the tracked blocks stay apart. The table compares the two ends of a new block
with the blocks it has, so a block that encloses another gets in; an adopted block is
not compared at all. -/

namespace QbdiTracer

open EventLog

variable {arch : Arch}

namespace MemoryInfo

/-- The addresses of a block, as a half-open interval. -/
def Holds (info : MemoryInfo arch) (addr : Word arch) : Prop := info.start ≤ addr ∧ addr < info.stop

def Overlaps (first second : MemoryInfo arch) : Prop := ∃ addr, first.Holds addr ∧ second.Holds addr

/-- No address and no start in common. -/
def Apart (first second : MemoryInfo arch) : Prop :=
  ¬ first.Overlaps second ∧ first.start ≠ second.start

variable {first second : MemoryInfo arch}

theorem overlaps_iff : first.Overlaps second ↔
    first.start < first.stop ∧ second.start < second.stop ∧
      first.start < second.stop ∧ second.start < first.stop := by
  simp only [Overlaps, Holds, BitVec.le_def, BitVec.lt_def]
  constructor
  · rintro ⟨addr, inFirst, inSecond⟩
    omega
  · intro bounds
    by_cases below : first.start.toNat ≤ second.start.toNat
    · exact ⟨second.start, by omega, by omega⟩
    · exact ⟨first.start, by omega, by omega⟩

instance : Decidable (first.Overlaps second) := decidable_of_iff _ overlaps_iff.symm

instance : Decidable (first.Apart second) := inferInstanceAs (Decidable (_ ∧ _))

end MemoryInfo

namespace MemoryManager

variable {manager : MemoryManager arch}

/-- The tracked blocks are disjoint and have different starts. -/
def Separated (manager : MemoryManager arch) : Prop :=
  manager.memoryInfos.Pairwise MemoryInfo.Apart

instance : Decidable manager.Separated :=
  inferInstanceAs (Decidable (manager.memoryInfos.Pairwise MemoryInfo.Apart))

/-- A release leaves no block at its address. -/
def Releases (manager : MemoryManager arch) : Prop :=
  ∀ process addr, ∀ block ∈ (manager.removeMemory process addr).1.memoryInfos, block.start ≠ addr

def Ordered (manager : MemoryManager arch) : Prop :=
  ∀ block ∈ manager.memoryInfos, block.start ≤ block.stop

theorem Separated.releases (separated : manager.Separated) : manager.Releases := by
  intro process addr
  rw [removeMemory_memoryInfos]
  have erased : ∀ infos : List (MemoryInfo arch), infos.Pairwise MemoryInfo.Apart →
      ∀ block ∈ infos.eraseP (·.start == addr), block.start ≠ addr := by
    intro infos apart
    induction apart with
    | nil => simp
    | @cons first rest here later ih =>
      by_cases starts : first.start = addr
      · rw [List.eraseP_cons_of_pos (by simpa using starts)]
        exact fun block member same => (here block member).2 (starts.trans same.symm)
      · rw [List.eraseP_cons_of_neg (by simpa using starts), List.forall_mem_cons]
        exact ⟨starts, ih⟩
  exact erased _ separated

/-- The call brings in no block that overlaps a tracked one or starts with it: an
allocation with free ends encloses no tracked block and is not a second one at address
0, and what a lookup finds is apart from the tracked blocks. -/
def KeepsApart (manager : MemoryManager arch) : TableCall arch → Prop
  | .add addr size _ =>
    manager.isInMemory addr = false → manager.isInMemory (addr + size) = false →
      ∀ block ∈ manager.memoryInfos,
        ¬ (addr < block.start ∧ block.start < block.stop ∧ block.stop < addr + size) ∧
          ¬ (addr = 0 ∧ block.start = 0)
  | .lookup process addr =>
    (∀ block ∈ manager.memoryInfos, ¬ block.reaches addr) →
      ∀ bounds ∈ process.adoptable addr, ∀ block ∈ manager.memoryInfos,
        ¬ (block.start < block.stop ∧ bounds.1 < block.stop ∧ block.start < bounds.2) ∧
          block.start ≠ bounds.1
  | .remove _ _ => True
  | .clear _ => True

section Step

variable {addr size : Word arch}

/-- A block with free ends against a tracked one. -/
theorem apart_added_iff {block : MemoryInfo arch} (index : ℕ) (ordered : block.start ≤ block.stop)
    (fits : addr.toNat + size.toNat < 2 ^ arch.wordBits)
    (start : addr = 0 ∨ block.reaches addr = false)
    (stop : addr + size = 0 ∨ block.reaches (addr + size) = false) :
    block.Apart ⟨index, addr, addr + size⟩ ↔
      ¬ (addr < block.start ∧ block.start < block.stop ∧ block.stop < addr + size) ∧
        ¬ (addr = 0 ∧ block.start = 0) := by
  have sum : (addr + size).toNat = addr.toNat + size.toNat := by
    rw [BitVec.toNat_add, Nat.mod_eq_of_lt fits]
  have zero : (0 : Word arch).toNat = 0 := BitVec.toNat_zero
  rw [MemoryInfo.Apart, MemoryInfo.overlaps_iff]
  simp only [reaches_eq_false_iff, ← BitVec.toNat_inj, BitVec.lt_def, BitVec.le_def, sum, zero,
    ne_eq] at *
  omega

theorem apart_adopted_iff {block : MemoryInfo arch} {bounds : Word arch × Word arch} (index : ℕ)
    (reached : bounds.1 ≤ addr ∧ addr ≤ bounds.2) (outside : block.reaches addr = false) :
    block.Apart ⟨index, bounds.1, bounds.2⟩ ↔
      ¬ (block.start < block.stop ∧ bounds.1 < block.stop ∧ block.start < bounds.2) ∧
        block.start ≠ bounds.1 := by
  rw [MemoryInfo.Apart, MemoryInfo.overlaps_iff]
  simp only [reaches_eq_false_iff, BitVec.lt_def, BitVec.le_def] at *
  refine and_congr_left fun _ => not_congr ?_
  omega

/-- The table with one more block. -/
theorem separated_push_iff {after : MemoryManager arch} {block : MemoryInfo arch}
    (pushed : after.memoryInfos = manager.memoryInfos ++ [block]) (separated : manager.Separated) :
    after.Separated ↔ ∀ other ∈ manager.memoryInfos, other.Apart block := by
  rw [Separated, pushed, List.pairwise_append]
  constructor
  · rintro ⟨-, -, apart⟩ other member
    exact apart other member block List.mem_cons_self
  · intro apart
    refine ⟨separated, List.pairwise_singleton .., fun other member last same => ?_⟩
    rw [List.mem_singleton.mp same]
    exact apart other member

theorem addMemory_separated_iff (ordered : manager.Ordered) (separated : manager.Separated)
    (fits : addr.toNat + size.toNat < 2 ^ arch.wordBits) :
    (manager.addMemory addr size).1.Separated ↔ manager.KeepsApart (.add addr size fits) := by
  rw [KeepsApart]
  rcases manager.addMemory_cases addr size with ⟨taken, refused⟩ | ⟨⟨start, stop⟩, added⟩
  · rw [refused]
    refine iff_of_true separated fun start stop => ?_
    simp [start, stop] at taken
  · rw [added, separated_push_iff rfl separated]
    simp only [start, stop, forall_const]
    refine forall₂_congr fun block member => ?_
    exact apart_added_iff _ (ordered block member) fits
      ((isInMemory_eq_false_iff.mp start).imp_right fun free => free block member)
      ((isInMemory_eq_false_iff.mp stop).imp_right fun free => free block member)

theorem getMemoryOffset_separated_iff (separated : manager.Separated) (process : Process arch)
    (addr : Word arch) :
    (manager.getMemoryOffset process addr).1.Separated ↔
      manager.KeepsApart (.lookup process addr) := by
  rw [KeepsApart]
  rcases manager.getMemoryOffset_cases process addr with
    ⟨known, infos, -⟩ | ⟨outside, bounds, adopted, infos, -⟩
  · refine iff_of_true (by rw [Separated, infos]; exact separated) fun outside bounds adopted => ?_
    rcases known with known | none
    · obtain ⟨block, member, reached⟩ := List.any_eq_true.mp known
      exact absurd reached (outside block member)
    · rw [none] at adopted
      cases adopted
  · have free : ∀ block ∈ manager.memoryInfos, block.reaches addr = false := by
      simpa using outside
    have reached := (adoptable_reaches adopted).2
    rw [separated_push_iff infos separated]
    constructor
    · intro apart _ other same block member
      rw [adopted] at same
      cases same
      exact (apart_adopted_iff _ reached (free block member)).mp (apart block member)
    · intro keeps block member
      apply (apart_adopted_iff _ reached (free block member)).mpr
      exact keeps (fun other tracked => by simp [free other tracked]) bounds adopted block member

theorem apply_separated_iff (ordered : manager.Ordered) (separated : manager.Separated)
    (call : TableCall arch) : (call.apply manager).Separated ↔ manager.KeepsApart call := by
  cases call with
  | add addr size fits => exact addMemory_separated_iff ordered separated fits
  | lookup process addr => exact getMemoryOffset_separated_iff separated process addr
  | remove process addr =>
    refine iff_of_true ?_ trivial
    rw [Separated, TableCall.apply, removeMemory_memoryInfos]
    exact separated.sublist List.eraseP_sublist
  | clear process => exact iff_of_true .nil trivial

theorem apply_ordered (ordered : manager.Ordered) (call : TableCall arch) :
    (call.apply manager).Ordered := by
  cases call with
  | add addr size fits =>
    rcases manager.addMemory_cases addr size with ⟨-, refused⟩ | ⟨-, added⟩
    · rw [TableCall.apply, refused]
      exact ordered
    · rw [TableCall.apply, added, Ordered, List.forall_mem_append]
      refine ⟨ordered, List.forall_mem_singleton.mpr ?_⟩
      rw [BitVec.le_def, BitVec.toNat_add, Nat.mod_eq_of_lt fits]
      exact Nat.le_add_right ..
  | lookup process addr =>
    rcases manager.getMemoryOffset_cases process addr with
      ⟨-, infos, -⟩ | ⟨-, bounds, adopted, infos, -⟩
    · rw [TableCall.apply, Ordered, infos]
      exact ordered
    · obtain ⟨-, above, below⟩ := adoptable_reaches adopted
      rw [TableCall.apply, Ordered, infos, List.forall_mem_append]
      refine ⟨ordered, List.forall_mem_singleton.mpr ?_⟩
      rw [BitVec.le_def] at above below ⊢
      exact Nat.le_trans above below
  | remove process addr =>
    rw [TableCall.apply, Ordered, removeMemory_memoryInfos]
    exact fun block member => ordered block (List.mem_of_mem_eraseP member)
  | clear process => exact nofun

theorem applyAll_ordered (ordered : manager.Ordered) (calls : List (TableCall arch)) :
    (TableCall.applyAll manager calls).Ordered := by
  induction calls generalizing manager with
  | nil => exact ordered
  | cons call rest ih => exact ih (apply_ordered ordered call)

end Step

/-- The tracked blocks stay apart, and a release leaves none at its address, in every
state of a history exactly when every call of it keeps them apart. -/
theorem separated_iff_keepsApart (empty : manager.memoryInfos = [])
    (history : List (TableCall arch)) :
    (∀ past, past <+: history → (TableCall.applyAll manager past).Separated ∧
        (TableCall.applyAll manager past).Releases) ↔
      Always (fun past => (TableCall.applyAll manager past).KeepsApart) history := by
  have ordered : manager.Ordered := by
    rw [Ordered, empty]
    exact nofun
  have separated : manager.Separated := by
    rw [Separated, empty]
    exact .nil
  have states : (∀ past, past <+: history → (TableCall.applyAll manager past).Separated) ↔
      Always (fun past => (TableCall.applyAll manager past).KeepsApart) history := by
    refine forall_prefix_iff separated (fun past call now => ?_) history
    rw [TableCall.applyAll_concat]
    exact apply_separated_iff (applyAll_ordered ordered past) now call
  rw [← states]
  constructor
  · exact fun all past happened => (all past happened).1
  · exact fun all past happened => ⟨all past happened, (all past happened).releases⟩

/-- Two blocks of 16 bytes with a gap between them, and the release of the first. -/
theorem separated_iff_keepsApart_gap :
    (TableCall.applyAll {} [.add 0x5000 16 (by decide), .add 0x6000 16 (by decide),
      .remove .chunkless 0x5000] : MemoryManager .aarch64).Separated := by
  refine ((separated_iff_keepsApart rfl _).mpr ?_ _ (List.prefix_refl _)).1
  refine always_cons.mpr ⟨fun _ _ => nofun, always_cons.mpr ⟨?_, always_singleton.mpr trivial⟩⟩
  intro _ _ block member
  cases List.mem_singleton.mp member
  decide

/-- An allocation that encloses a tracked block is accepted; a map that a lookup adopts
begins with the tracked block and stays when that is released. -/
theorem overlapping_blocks_tracked :
    ¬ (TableCall.applyAll {} [.add 0x5000 16 (by decide), .add 0x4000 0x2000 (by decide)] :
        MemoryManager .aarch64).Separated ∧
      ¬ (TableCall.applyAll {} [.add 0x5000 16 (by decide), .lookup .chunkless 0x7000]).Separated ∧
      ¬ (TableCall.applyAll {} [.add 0x5000 16 (by decide), .lookup .chunkless 0x7000]).Releases := by
  refine ⟨by decide, by decide, fun releases => ?_⟩
  have left : (⟨1, 0x5000, 0x9000⟩ : MemoryInfo .aarch64) ∈
      (removeMemory .chunkless (TableCall.applyAll {} [.add 0x5000 16 (by decide),
        .lookup .chunkless 0x7000]) 0x5000).1.memoryInfos := by decide
  exact releases .chunkless 0x5000 _ left rfl

end MemoryManager

end QbdiTracer
