import QbdiTracer.AllocatorCalls
import QbdiTracer.Library.Intervals
import Mathlib.Data.List.Induction
import Mathlib.Data.Nat.Basic

/-! The table of blocks against the heap it is meant to mirror: which histories
of successful allocator calls keep the two equal. -/

namespace QbdiTracer

open Intervals

variable {arch : Arch}

/-- A live block, a half-open range of addresses that does not wrap around. -/
structure LiveBlock (arch : Arch) where
  start : Word arch
  size : Word arch
  nonempty : 0 < size.toNat
  fits : start.toNat + size.toNat < 2 ^ arch.wordBits

namespace LiveBlock

def interval (block : LiveBlock arch) : HalfOpen ℕ where
  lower := block.start.toNat
  upper := block.start.toNat + block.size.toNat
  nonempty := Nat.lt_add_of_pos_right block.nonempty

def stop (block : LiveBlock arch) : Word arch := block.start + block.size

/-- The `(start, end)` pair the table should hold. -/
def bounds (block : LiveBlock arch) : Word arch × Word arch := (block.start, block.stop)

theorem toNat_stop (block : LiveBlock arch) :
    block.stop.toNat = block.start.toNat + block.size.toNat := by
  rw [stop, BitVec.toNat_add, Nat.mod_eq_of_lt block.fits]

theorem stop_ne_zero (block : LiveBlock arch) : block.stop ≠ 0 := by
  intro zero
  have value := block.toNat_stop
  have positive := block.nonempty
  rw [zero] at value
  simp at value
  omega

/-- The closed test of the table, on the bounds of a live block. -/
theorem reaches_iff (block : LiveBlock arch) (addr : Word arch) :
    block.interval.Reaches addr.toNat ↔ block.start ≤ addr ∧ addr ≤ block.stop := by
  simp [HalfOpen.Reaches, interval, BitVec.le_def, toNat_stop]

end LiveBlock

/-- What a successful call does to the heap: it releases the block at an
address, returns a block, or both. -/
structure HeapEffect (arch : Arch) where
  released : Option (Word arch) := none
  allocated : Option (LiveBlock arch) := none

namespace HeapEffect

/-- The live blocks that survive the release. -/
def remaining (effect : HeapEffect arch) (live : List (LiveBlock arch)) : List (LiveBlock arch) :=
  match effect.released with
  | none => live
  | some start => live.eraseP (·.start == start)

def apply (effect : HeapEffect arch) (live : List (LiveBlock arch)) : List (LiveBlock arch) :=
  effect.remaining live ++ effect.allocated.toList

end HeapEffect

/-- The successful calls, by what the C library and the kernel say of them. -/
inductive Performs : AllocatorCall arch → HeapEffect arch → Prop where
  | malloc {call : AllocatorCall arch} {block : LiveBlock arch}
      (function : call.allocator = .libc .malloc) (start : call.result = block.start)
      (size : call.arg0 = block.size) (nonnull : block.start ≠ 0) :
      Performs call { allocated := some block }
  | calloc {call : AllocatorCall arch} {block : LiveBlock arch}
      (function : call.allocator = .libc .calloc) (start : call.result = block.start)
      (size : call.arg0.toNat * call.arg1.toNat = block.size.toNat) (nonnull : block.start ≠ 0) :
      Performs call { allocated := some block }
  | reallocNull {call : AllocatorCall arch} {block : LiveBlock arch}
      (function : call.allocator = .libc .realloc) (null : call.arg0 = 0)
      (start : call.result = block.start) (size : call.arg1 = block.size)
      (nonnull : block.start ≠ 0) : Performs call { allocated := some block }
  | realloc {call : AllocatorCall arch} {block : LiveBlock arch}
      (function : call.allocator = .libc .realloc) (owned : call.arg0 ≠ 0)
      (start : call.result = block.start) (size : call.arg1 = block.size)
      (nonnull : block.start ≠ 0) :
      Performs call { released := some call.arg0, allocated := some block }
  | freeNull {call : AllocatorCall arch} (function : call.allocator = .libc .free)
      (null : call.arg0 = 0) : Performs call {}
  | free {call : AllocatorCall arch} (function : call.allocator = .libc .free)
      (owned : call.arg0 ≠ 0) : Performs call { released := some call.arg0 }
  | mmap {call : AllocatorCall arch} {block : LiveBlock arch}
      (function : call.allocator = .libc .mmap ∨ call.allocator = .libc .mmap64)
      (start : call.result = block.start) (size : call.arg1 = block.size) :
      Performs call { allocated := some block }
  | munmap {call : AllocatorCall arch} (function : call.allocator = .libc .munmap)
      (done : call.result = 0) : Performs call { released := some call.arg0 }

/-- The block a call hands to the table: `mmap` at address 0 is taken for a
failure. -/
def HeapEffect.reported (effect : HeapEffect arch) : Option (LiveBlock arch) :=
  effect.allocated.filter (·.start ≠ 0)

/-- What `record_memory_info` notes about a successful call. -/
structure Notes (effect : HeapEffect arch) (call : InstFunCall arch) : Prop where
  released : call.memoryFreeAddress = effect.released.getD 0
  size : call.memoryAllocSize = (effect.reported.map (·.size)).getD 0
  start : ∀ block ∈ effect.reported, call.memoryAllocAddress = block.start

theorem Notes.allocates {call : InstFunCall arch} {released : Option (Word arch)}
    {block : LiveBlock arch} (nonnull : block.start ≠ 0)
    (free : call.memoryFreeAddress = released.getD 0) :
    Notes ⟨released, some block⟩ (call.allocated block.start block.size) := by
  have reported : (HeapEffect.mk released (some block)).reported = some block :=
    Option.filter_some_pos (decide_eq_true nonnull)
  refine ⟨free, by rw [reported]; rfl, fun other member => ?_⟩
  rw [reported] at member
  cases member
  rfl

theorem Notes.unallocated {call : InstFunCall arch} {effect : HeapEffect arch}
    (free : call.memoryFreeAddress = effect.released.getD 0) (size : call.memoryAllocSize = 0)
    (nothing : effect.reported = none) : Notes effect call := by
  refine ⟨free, by rw [nothing]; exact size, fun block member => ?_⟩
  rw [nothing] at member
  cases member

theorem LiveBlock.size_ne_zero (block : LiveBlock arch) : block.size ≠ 0 := by
  intro zero
  have positive := block.nonempty
  simp [zero] at positive

/-- The handlers of `free` and `munmap` note the address they are given; a null
pointer leaves the field at 0, which is the same. -/
theorem Notes.releases {call : AllocatorCall arch} {released : Option (Word arch)}
    (address : call.arg0 = released.getD 0)
    (handled : call.handler call.call = recordFree call.arg0 call.call) :
    Notes { released } (call.handler call.call) := by
  rw [handled]
  by_cases null : call.arg0 = 0
  · rw [recordFree, if_pos null]
    exact .unallocated (call.unreleased.trans (null.symm.trans address)) call.unallocated rfl
  · rw [recordFree, if_neg null]
    exact .unallocated address call.unallocated rfl

/-- The handler of `mmap` notes the block, unless it takes address 0 for a failure. -/
theorem Notes.maps {call : AllocatorCall arch} {block : LiveBlock arch}
    (handled : call.handler call.call = recordMmap block.size block.start call.call) :
    Notes { allocated := some block } (call.handler call.call) := by
  rw [handled]
  by_cases null : block.start = 0
  · have nothing : (HeapEffect.mk none (some block)).reported = none :=
      Option.filter_some_neg (by simpa using null)
    rw [recordMmap, if_pos (.inr null)]
    exact .unallocated call.unreleased call.unallocated nothing
  · rw [recordMmap, if_neg (not_or.mpr ⟨block.size_ne_zero, null⟩)]
    exact .allocates null call.unreleased

/-- Both factors of a product that is the size of a block are positive. -/
theorem LiveBlock.factors_ne_zero {block : LiveBlock arch} {count each : Word arch}
    (product : count * each = block.size) : count ≠ 0 ∧ each ≠ 0 := by
  constructor
  · rintro rfl
    exact block.size_ne_zero (by simp [← product])
  · rintro rfl
    exact block.size_ne_zero (by simp [← product])

theorem Performs.notes {call : AllocatorCall arch} {effect : HeapEffect arch}
    (performs : Performs call effect) : Notes effect call.recorded := by
  rw [call.recorded_eq]
  cases performs with
  | @malloc block function start size nonnull =>
    have recorded : call.handler call.call = call.call.allocated block.start block.size := by
      simp only [AllocatorCall.handler, function, DispatchLibc.recordMalloc, start, size, nonnull,
        block.size_ne_zero, or_self, ↓reduceIte]
    rw [recorded]
    exact .allocates nonnull call.unreleased
  | @calloc block function start size nonnull =>
    have product : call.arg0 * call.arg1 = block.size := by
      apply BitVec.eq_of_toNat_eq
      rw [BitVec.toNat_mul, size, Nat.mod_eq_of_lt block.size.isLt]
    obtain ⟨count, each⟩ := LiveBlock.factors_ne_zero product
    have recorded : call.handler call.call = call.call.allocated block.start block.size := by
      simp only [AllocatorCall.handler, function, DispatchLibc.recordCalloc, start, product, nonnull,
        count, each, or_self, ↓reduceIte]
    rw [recorded]
    exact .allocates nonnull call.unreleased
  | @reallocNull block function null start size nonnull =>
    have recorded : call.handler call.call =
        (call.call.freed 0).allocated block.start block.size := by
      simp only [AllocatorCall.handler, function, DispatchLibc.recordRealloc, start, size, null,
        nonnull, block.size_ne_zero, ne_eq, not_false_eq_true, true_or, ↓reduceIte]
    rw [recorded]
    exact .allocates nonnull rfl
  | @realloc block function owned start size nonnull =>
    have recorded : call.handler call.call =
        (call.call.freed call.arg0).allocated block.start block.size := by
      simp only [AllocatorCall.handler, function, DispatchLibc.recordRealloc, start, size,
        nonnull, block.size_ne_zero, ne_eq, not_false_eq_true, true_or, ↓reduceIte]
    rw [recorded]
    exact .allocates nonnull rfl
  | freeNull function null =>
    exact .releases null (by rw [AllocatorCall.handler, function])
  | free function owned =>
    exact .releases rfl (by rw [AllocatorCall.handler, function])
  | @mmap block function start size =>
    refine .maps ?_
    rcases function with function | function
    · rw [AllocatorCall.handler, function, start, size]
    · rw [AllocatorCall.handler, function, start, size]
  | munmap function done =>
    exact .releases rfl (by rw [AllocatorCall.handler, function])

/-- One call of a history with what it does to the heap. -/
structure HeapStep (arch : Arch) where
  call : AllocatorCall arch
  effect : HeapEffect arch
  performs : Performs call effect

/-- The live blocks after a history that starts with an empty heap. -/
def liveAfter (history : List (HeapStep arch)) : List (LiveBlock arch) :=
  history.foldl (fun live step => step.effect.apply live) []

/-- The block table after the same history. -/
def tableAfter (manager : MemoryManager arch) (history : List (HeapStep arch)) :
    MemoryManager arch :=
  history.foldl (fun manager step => AllocatorCall.track manager step.call) manager

/-- A step the heap allows: it releases a live block, as a whole, and leaves the
live blocks pairwise apart. -/
structure Allowed (live : List (LiveBlock arch)) (step : HeapStep arch) : Prop where
  owned : ∀ start ∈ step.effect.released, ∃ block ∈ live, block.start = start ∧
    (step.call.allocator = .libc .munmap → block.size = step.call.arg1)
  apart : (step.effect.apply live).Pairwise fun first second => first.interval.Apart second.interval

/-- Every step of a history is allowed where it happens. -/
def Lawful (history : List (HeapStep arch)) : Prop :=
  ∀ past step, past ++ [step] <+: history → Allowed (liveAfter past) step

/-- The new block touches no remaining one, and is not at address 0. -/
def Clear (live : List (LiveBlock arch)) (step : HeapStep arch) : Prop :=
  ∀ block ∈ step.effect.allocated, block.start ≠ 0 ∧
    ∀ other ∈ step.effect.remaining live, ¬ block.interval.Touches other.interval

def MemoryManager.bounds (manager : MemoryManager arch) : List (Word arch × Word arch) :=
  manager.memoryInfos.map fun info => (info.start, info.stop)

/-- A release by the start of a block, on the bounds. -/
theorem map_bounds_eraseP (infos : List (MemoryInfo arch)) (start : Word arch) :
    (infos.eraseP (·.start == start)).map (fun info => (info.start, info.stop)) =
      (infos.map fun info => (info.start, info.stop)).eraseP (·.1 == start) := by
  rw [List.eraseP_map]
  rfl

/-- The closed test of the table reads the bounds only. -/
theorem MemoryManager.isInMemory_iff_bounds {manager : MemoryManager arch} {addr : Word arch}
    (nonzero : addr ≠ 0) : manager.isInMemory addr = true ↔
      ∃ bounds ∈ manager.bounds, bounds.1 ≤ addr ∧ addr ≤ bounds.2 := by
  simp only [MemoryManager.isInMemory, nonzero, ↓reduceIte, List.any_eq_true, MemoryInfo.reaches,
    Bool.and_eq_true, decide_eq_true_eq, MemoryManager.bounds, List.mem_map,
    exists_exists_and_eq_and]

/-- The table holds the bounds of the live blocks and no others. -/
def Mirrors (manager : MemoryManager arch) (live : List (LiveBlock arch)) : Prop :=
  ∀ bounds, bounds ∈ manager.bounds ↔ bounds ∈ live.map LiveBlock.bounds

/-- The invariant of a clear history: table and heap agree entry by entry. -/
structure Aligned (manager : MemoryManager arch) (live : List (LiveBlock arch)) : Prop where
  bounds : manager.bounds = live.map LiveBlock.bounds
  nonnull : ∀ block ∈ live, block.start ≠ 0

theorem Aligned.mirrors {manager : MemoryManager arch} {live : List (LiveBlock arch)}
    (aligned : Aligned manager live) : Mirrors manager live := by
  intro bounds
  rw [aligned.bounds]

section Step

variable {manager : MemoryManager arch} {live : List (LiveBlock arch)} {step : HeapStep arch}

theorem removeMemory_aligned (process : Process arch) (aligned : Aligned manager live)
    (start : Word arch) :
    Aligned (manager.removeMemory process start).1 (live.eraseP (·.start == start)) := by
  refine ⟨?_, fun block member => aligned.nonnull block (List.mem_of_mem_eraseP member)⟩
  have heap : (live.eraseP (·.start == start)).map LiveBlock.bounds =
      (live.map LiveBlock.bounds).eraseP (·.1 == start) := by
    rw [List.eraseP_map]
    rfl
  rw [MemoryManager.bounds, MemoryManager.removeMemory_memoryInfos, map_bounds_eraseP, heap]
  exact congrArg (List.eraseP (·.1 == start)) aligned.bounds

theorem isInMemory_iff (aligned : Aligned manager live) {addr : Word arch} (nonzero : addr ≠ 0) :
    manager.isInMemory addr = true ↔ ∃ other ∈ live, other.interval.Reaches addr.toNat := by
  rw [MemoryManager.isInMemory_iff_bounds nonzero, aligned.bounds]
  simp only [LiveBlock.reaches_iff, LiveBlock.bounds, List.mem_map, exists_exists_and_eq_and]

/-- An aligned table refuses a block exactly when it touches a live one. -/
theorem refused_iff (aligned : Aligned manager live) {block : LiveBlock arch}
    (nonnull : block.start ≠ 0)
    (apart : ∀ other ∈ live, block.interval.Apart other.interval) :
    (manager.isInMemory block.start || manager.isInMemory block.stop) = true ↔
      ∃ other ∈ live, block.interval.Touches other.interval := by
  rw [Bool.or_eq_true, isInMemory_iff aligned nonnull, isInMemory_iff aligned block.stop_ne_zero,
    block.toNat_stop]
  constructor
  · rintro (⟨other, member, reached⟩ | ⟨other, member, reached⟩)
    · exact ⟨other, member, (apart other member).reaches_end_iff.mp (.inl reached)⟩
    · exact ⟨other, member, (apart other member).reaches_end_iff.mp (.inr reached)⟩
  · rintro ⟨other, member, touches⟩
    rcases (apart other member).reaches_end_iff.mpr touches with reached | reached
    · exact .inl ⟨other, member, reached⟩
    · exact .inr ⟨other, member, reached⟩

theorem addMemory_aligned (aligned : Aligned manager live) {block : LiveBlock arch}
    (nonnull : block.start ≠ 0)
    (accepted : (manager.isInMemory block.start || manager.isInMemory block.stop) = false) :
    Aligned (manager.addMemory block.start block.size).1 (live ++ [block]) := by
  constructor
  · have table : (manager.addMemory block.start block.size).1.bounds =
        manager.bounds ++ [block.bounds] := by
      have free : (manager.isInMemory block.start ||
        manager.isInMemory (block.start + block.size)) = false := accepted
      simp [MemoryManager.addMemory, free, MemoryManager.bounds, LiveBlock.bounds, LiveBlock.stop]
    rw [table, aligned.bounds, List.map_append]
    rfl
  · intro other member
    rcases List.mem_append.mp member with old | new
    · exact aligned.nonnull other old
    · cases List.mem_singleton.mp new
      exact nonnull

/-- The table once the call's release has been handled. -/
def releasedTable (manager : MemoryManager arch) (call : AllocatorCall arch) : MemoryManager arch :=
  if call.recorded.memoryFreeAddress ≠ 0 then
    (manager.removeMemory call.process call.recorded.memoryFreeAddress).1
  else manager

/-- The release of an allowed step keeps table and heap aligned. -/
theorem releasedTable_aligned (aligned : Aligned manager live) (allowed : Allowed live step) :
    Aligned (releasedTable manager step.call) (step.effect.remaining live) := by
  rw [releasedTable, step.performs.notes.released, HeapEffect.remaining]
  cases released : step.effect.released with
  | none => simpa using aligned
  | some start =>
    obtain ⟨block, member, rfl, -⟩ := allowed.owned start released
    have nonnull := aligned.nonnull block member
    simp only [Option.getD_some, nonnull, ne_eq, not_false_eq_true, ↓reduceIte]
    exact removeMemory_aligned step.call.process aligned block.start

theorem track_unreported (nothing : step.effect.reported = none) :
    AllocatorCall.track manager step.call = releasedTable manager step.call := by
  have size : step.call.recorded.memoryAllocSize = 0 := by rw [step.performs.notes.size, nothing]; rfl
  simp only [AllocatorCall.track, LoggerManager.updateMemory, size, releasedTable, ne_eq,
    not_true_eq_false, ↓reduceIte]
  split <;> rfl

theorem track_reported {block : LiveBlock arch} (reported : step.effect.reported = some block) :
    AllocatorCall.track manager step.call =
      ((releasedTable manager step.call).addMemory block.start block.size).1 := by
  have size := step.performs.notes.size
  rw [reported] at size
  have nonzero : step.call.recorded.memoryAllocSize ≠ 0 := size ▸ block.size_ne_zero
  simp only [AllocatorCall.track, LoggerManager.updateMemory, nonzero, ne_eq, not_false_eq_true,
    ↓reduceIte, step.performs.notes.start block reported, releasedTable]
  rw [size]
  split <;> rfl

/-- The bounds of a block that is apart from others are not among theirs. -/
theorem bounds_fresh {block : LiveBlock arch}
    (apart : ∀ other ∈ live, block.interval.Apart other.interval) :
    block.bounds ∉ live.map LiveBlock.bounds := by
  intro member
  obtain ⟨other, old, same⟩ := List.mem_map.mp member
  have starts : other.start = block.start := congrArg Prod.fst same
  exact (apart other old).lower_ne (congrArg BitVec.toNat starts.symm)

theorem Allowed.apart_remaining (allowed : Allowed live step) {block : LiveBlock arch}
    (allocated : step.effect.allocated = some block) :
    ∀ other ∈ step.effect.remaining live, block.interval.Apart other.interval := by
  intro other member
  have pairwise := allowed.apart
  rw [HeapEffect.apply, allocated, List.pairwise_append] at pairwise
  exact (pairwise.2.2 other member block (by simp)).symm

/-- A clear step keeps table and heap aligned. -/
theorem track_aligned (aligned : Aligned manager live) (allowed : Allowed live step)
    (clear : Clear live step) :
    Aligned (AllocatorCall.track manager step.call) (step.effect.apply live) := by
  have released := releasedTable_aligned aligned allowed
  cases allocated : step.effect.allocated with
  | none =>
    have nothing : step.effect.reported = none := by simp [HeapEffect.reported, allocated]
    rw [track_unreported nothing, HeapEffect.apply, allocated]
    simpa using released
  | some block =>
    obtain ⟨nonnull, untouched⟩ := clear block allocated
    have reported : step.effect.reported = some block := by
      rw [HeapEffect.reported, allocated]
      exact Option.filter_some_pos (decide_eq_true nonnull)
    have accepted := (refused_iff released nonnull (allowed.apart_remaining allocated)).not.mpr
      fun ⟨other, member, touches⟩ => untouched other member touches
    rw [track_reported reported, HeapEffect.apply, allocated]
    exact addMemory_aligned released nonnull (Bool.not_eq_true _ ▸ accepted)

/-- A step after which the table still mirrors the heap was clear. -/
theorem clear_of_mirrors (aligned : Aligned manager live) (allowed : Allowed live step)
    (mirrors : Mirrors (AllocatorCall.track manager step.call) (step.effect.apply live)) :
    Clear live step := by
  have released := releasedTable_aligned aligned allowed
  intro block allocated
  have apart := allowed.apart_remaining allocated
  have tracked : block.bounds ∈ (AllocatorCall.track manager step.call).bounds := by
    rw [mirrors, HeapEffect.apply, allocated]
    simp
  -- a table without the new block holds the remaining ones only
  have changed : AllocatorCall.track manager step.call ≠ releasedTable manager step.call := by
    intro same
    rw [same, released.bounds] at tracked
    exact bounds_fresh apart tracked
  have nonnull : block.start ≠ 0 := by
    intro null
    refine changed (track_unreported ?_)
    rw [HeapEffect.reported, allocated]
    exact Option.filter_some_neg (by simpa using null)
  refine ⟨nonnull, fun other member touches => changed ?_⟩
  have reported : step.effect.reported = some block := by
    rw [HeapEffect.reported, allocated]
    exact Option.filter_some_pos (decide_eq_true nonnull)
  have refused := (refused_iff released nonnull apart).mpr ⟨other, member, touches⟩
  rw [track_reported reported, MemoryManager.addMemory_eq_iff, ← Bool.or_eq_true]
  exact refused

end Step

theorem liveAfter_concat (past : List (HeapStep arch)) (step : HeapStep arch) :
    liveAfter (past ++ [step]) = step.effect.apply (liveAfter past) := by
  simp [liveAfter]

theorem tableAfter_concat (manager : MemoryManager arch) (past : List (HeapStep arch))
    (step : HeapStep arch) :
    tableAfter manager (past ++ [step]) =
      AllocatorCall.track (tableAfter manager past) step.call := by
  simp [tableAfter]

section History

variable {manager : MemoryManager arch} {history : List (HeapStep arch)}

/-- Table and heap stay aligned as long as every step from an aligned state is
clear. -/
theorem aligned_of_clear (empty : manager.memoryInfos = []) (lawful : Lawful history)
    (clear : ∀ past step, past ++ [step] <+: history →
      Aligned (tableAfter manager past) (liveAfter past) → Clear (liveAfter past) step)
    {past : List (HeapStep arch)} (happened : past <+: history) :
    Aligned (tableAfter manager past) (liveAfter past) := by
  induction past using List.reverseRecOn with
  | nil => exact ⟨by simp [tableAfter, liveAfter, MemoryManager.bounds, empty], by simp [liveAfter]⟩
  | append_singleton past step ih =>
    have aligned := ih ((List.prefix_append past [step]).trans happened)
    rw [tableAfter_concat, liveAfter_concat]
    exact track_aligned aligned (lawful past step happened) (clear past step happened aligned)

/-- The table mirrors the heap after every call of a history exactly when every
allocation is clear of the blocks that remain live. -/
theorem mirrors_iff_clear (empty : manager.memoryInfos = []) (lawful : Lawful history) :
    (∀ past, past <+: history → Mirrors (tableAfter manager past) (liveAfter past)) ↔
      ∀ past step, past ++ [step] <+: history → Clear (liveAfter past) step := by
  constructor
  · intro mirrors
    have step_clear : ∀ past step, past ++ [step] <+: history →
        Aligned (tableAfter manager past) (liveAfter past) → Clear (liveAfter past) step := by
      intro past step happened aligned
      have after := mirrors (past ++ [step]) happened
      rw [tableAfter_concat, liveAfter_concat] at after
      exact clear_of_mirrors aligned (lawful past step happened) after
    intro past step happened
    exact step_clear past step happened
      (aligned_of_clear empty lawful step_clear ((List.prefix_append past [step]).trans happened))
  · intro clear past happened
    exact (aligned_of_clear empty lawful (fun past step happened _ => clear past step happened)
      happened).mirrors

end History

/-- A fact about both steps of a history of two. -/
theorem forall_steps_pair {holds : List (HeapStep arch) → HeapStep arch → Prop}
    {first second : HeapStep arch} (one : holds [] first) (two : holds [first] second) :
    ∀ past step, past ++ [step] <+: [first, second] → holds past step := by
  rintro past step ⟨rest, same⟩
  rcases past with _ | ⟨head, _ | ⟨next, tail⟩⟩
  · cases same
    exact one
  · cases same
    exact two
  · simp at same

/-- `malloc(16)` returning `start`. -/
def mallocStep (start : Word .aarch64) (nonnull : start ≠ 0)
    (fits : start.toNat + 16 < 2 ^ Arch.aarch64.wordBits) : HeapStep .aarch64 where
  call := .simple (.libc .malloc) 16 0 start
  effect := { allocated := some ⟨start, 16, by decide, fits⟩ }
  performs := .malloc rfl rfl rfl nonnull

/-- Two blocks of 16 bytes, the first at `0x5000`. -/
def mallocTwice (next : Word .aarch64) (nonnull : next ≠ 0)
    (fits : next.toNat + 16 < 2 ^ Arch.aarch64.wordBits) : List (HeapStep .aarch64) :=
  [mallocStep 0x5000 (by decide) (by decide), mallocStep next nonnull fits]

theorem mallocTwice_lawful {next : Word .aarch64} {nonnull : next ≠ 0}
    {fits : next.toNat + 16 < 2 ^ Arch.aarch64.wordBits} (above : 0x5010 ≤ next.toNat) :
    Lawful (mallocTwice next nonnull fits) := by
  refine forall_steps_pair ⟨by rintro _ ⟨⟩, ?_⟩ ⟨by rintro _ ⟨⟩, ?_⟩
  · exact List.pairwise_singleton ..
  · exact List.pairwise_pair.mpr (.inl above)

theorem mirrors_iff_clear_gap :
    Mirrors (tableAfter {} (mallocTwice 0x5020 (by decide) (by decide)))
      (liveAfter (mallocTwice 0x5020 (by decide) (by decide))) := by
  have lawful : Lawful (mallocTwice 0x5020 (by decide) (by decide)) :=
    mallocTwice_lawful (by decide)
  refine (mirrors_iff_clear rfl lawful).mpr ?_ _ (List.prefix_refl _)
  refine forall_steps_pair ?_ ?_
  · rintro _ ⟨⟩
    exact ⟨by decide, by rintro _ ⟨⟩⟩
  · rintro _ ⟨⟩
    refine ⟨by decide, fun other member => ?_⟩
    cases List.mem_singleton.mp member
    decide

/-- Two blocks next to each other: the table refuses the second one. -/
theorem adjacent_block_missed :
    Lawful (mallocTwice 0x5010 (by decide) (by decide)) ∧
      ¬ Mirrors (tableAfter {} (mallocTwice 0x5010 (by decide) (by decide)))
        (liveAfter (mallocTwice 0x5010 (by decide) (by decide))) := by
  refine ⟨mallocTwice_lawful (by decide), fun mirrors => ?_⟩
  have live : ((0x5010 : Word .aarch64), (0x5020 : Word .aarch64)) ∈
      (liveAfter (mallocTwice 0x5010 (by decide) (by decide))).map LiveBlock.bounds := by decide
  exact absurd ((mirrors _).mpr live) (by decide)

end QbdiTracer
