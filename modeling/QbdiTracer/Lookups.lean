import QbdiTracer.BlockTable
import QbdiTracer.TableCalls

/-! Lookups between the calls of an allocator. What a lookup adopts stays in the table,
and an allocation that has an end in it is refused. -/

namespace QbdiTracer

open EventLog

variable {arch : Arch}

/-- A filter commutes with the removal of the first hit if no hit that is filtered out
stands before one that is kept. -/
theorem filter_eraseP {α : Type} {hit keep : α → Bool} {list : List α}
    (first : list.Pairwise fun earlier later => hit earlier → hit later → keep later → keep earlier) :
    (list.eraseP hit).filter keep = (list.filter keep).eraseP hit := by
  induction first with
  | nil => rfl
  | @cons head rest here later ih =>
    by_cases found : hit head
    · rw [List.eraseP_cons_of_pos found]
      by_cases kept : keep head
      · rw [List.filter_cons_of_pos kept, List.eraseP_cons_of_pos found]
      · rw [List.filter_cons_of_neg kept, List.eraseP_of_forall_not]
        intro other member hits
        obtain ⟨inside, keeps⟩ := List.mem_filter.mp member
        exact kept (here other inside found hits keeps)
    · rw [List.eraseP_cons_of_neg found]
      by_cases kept : keep head
      · rw [List.filter_cons_of_pos kept, List.filter_cons_of_pos kept,
          List.eraseP_cons_of_neg found, ih]
      · rw [List.filter_cons_of_neg kept, List.filter_cons_of_neg kept, ih]

def TableCall.isLookup : TableCall arch → Bool
  | .lookup _ _ => true
  | _ => false

/-- The calls that are no lookups. -/
def withoutLookups (calls : List (TableCall arch)) : List (TableCall arch) :=
  calls.filter (!·.isLookup)

/-- The table, and the indices of the blocks that came in as allocations. -/
structure Tracking (arch : Arch) where
  manager : MemoryManager arch
  own : List ℕ := []

namespace Tracking

def apply (tracking : Tracking arch) (call : TableCall arch) : Tracking arch where
  manager := call.apply tracking.manager
  own :=
    match call with
    | .add addr size _ =>
      if (tracking.manager.addMemory addr size).2 then
        tracking.own ++ [tracking.manager.memoryIndex]
      else tracking.own
    | _ => tracking.own

def applyAll (manager : MemoryManager arch) (calls : List (TableCall arch)) : Tracking arch :=
  calls.foldl apply { manager }

/-- The blocks of the allocator that are tracked. -/
def ownBlocks (tracking : Tracking arch) : List (MemoryInfo arch) :=
  tracking.manager.memoryInfos.filter (·.memoryIndex ∈ tracking.own)

def ownBounds (tracking : Tracking arch) : List (Word arch × Word arch) :=
  tracking.ownBlocks.map fun info => (info.start, info.stop)

/-- A tracked block that a lookup brought in. -/
def Adopted (tracking : Tracking arch) (block : MemoryInfo arch) : Prop :=
  block ∈ tracking.manager.memoryInfos ∧ block.memoryIndex ∉ tracking.own

theorem applyAll_concat (manager : MemoryManager arch) (past : List (TableCall arch))
    (call : TableCall arch) : applyAll manager (past ++ [call]) = (applyAll manager past).apply call := by
  simp [applyAll]

theorem applyAll_manager (manager : MemoryManager arch) (calls : List (TableCall arch)) :
    (applyAll manager calls).manager = TableCall.applyAll manager calls := by
  induction calls using List.reverseRecOn with
  | nil => rfl
  | append_singleton calls call ih =>
    rw [applyAll_concat, TableCall.applyAll_concat, ← ih]
    rfl

/-- What holds of the table whatever the calls: indices are drawn in order, adopted
blocks are found by their own start, and none of them hides a block of the allocator
from a release. -/
structure Sound (tracking : Tracking arch) : Prop where
  own : ∀ index ∈ tracking.own, index < tracking.manager.memoryIndex
  blocks : ∀ block ∈ tracking.manager.memoryInfos,
    block.memoryIndex < tracking.manager.memoryIndex
  adopted : ∀ block, tracking.Adopted block → block.start ≠ 0 ∧ block.start ≤ block.stop
  ownFirst : tracking.manager.memoryInfos.Pairwise fun earlier later =>
    earlier.start = later.start → later.memoryIndex ∈ tracking.own →
      earlier.memoryIndex ∈ tracking.own

section Step

variable {tracking : Tracking arch}

/-- Fewer blocks and later indices. -/
theorem Sound.sublist (sound : tracking.Sound) {manager : MemoryManager arch}
    (fewer : manager.memoryInfos.Sublist tracking.manager.memoryInfos)
    (later : tracking.manager.memoryIndex ≤ manager.memoryIndex) :
    Sound ⟨manager, tracking.own⟩ where
  own := fun index member => Nat.lt_of_lt_of_le (sound.own index member) later
  blocks := fun block member => Nat.lt_of_lt_of_le (sound.blocks block (fewer.subset member)) later
  adopted := fun block adopted => sound.adopted block ⟨fewer.subset adopted.1, adopted.2⟩
  ownFirst := sound.ownFirst.sublist fewer

/-- The next index is not an index of the allocator. -/
theorem Sound.fresh (sound : tracking.Sound) : tracking.manager.memoryIndex ∉ tracking.own :=
  fun member => absurd (sound.own _ member) (Nat.lt_irrefl _)

/-- A lookup adopts a block. -/
theorem Sound.adopt (sound : tracking.Sound) {manager : MemoryManager arch} {start stop : Word arch}
    (infos : manager.memoryInfos =
      tracking.manager.memoryInfos ++ [⟨tracking.manager.memoryIndex, start, stop⟩])
    (index : manager.memoryIndex = tracking.manager.memoryIndex + 1) (nonzero : start ≠ 0)
    (ordered : start ≤ stop) : Sound ⟨manager, tracking.own⟩ where
  own := by
    intro other member
    rw [index]
    exact Nat.lt_succ_of_lt (sound.own other member)
  blocks := by
    rw [infos, index, List.forall_mem_append, List.forall_mem_singleton]
    exact ⟨fun block member => Nat.lt_succ_of_lt (sound.blocks block member), Nat.lt_succ_self _⟩
  adopted := by
    rintro block ⟨member, notOwn⟩
    rw [infos, List.mem_append, List.mem_singleton] at member
    rcases member with old | rfl
    · exact sound.adopted block ⟨old, notOwn⟩
    · exact ⟨nonzero, ordered⟩
  ownFirst := by
    rw [infos, List.pairwise_append]
    refine ⟨sound.ownFirst, List.pairwise_singleton .., fun earlier _ later same _ own => ?_⟩
    rw [List.mem_singleton.mp same] at own
    exact absurd own sound.fresh

theorem Sound.ownBlocks_adopt (sound : tracking.Sound) {manager : MemoryManager arch}
    {start stop : Word arch} (infos : manager.memoryInfos =
      tracking.manager.memoryInfos ++ [⟨tracking.manager.memoryIndex, start, stop⟩]) :
    ownBlocks ⟨manager, tracking.own⟩ = tracking.ownBlocks := by
  rw [ownBlocks, infos, List.filter_append, ownBlocks]
  simp [sound.fresh]

/-- The tracked table with a new block of the allocator. -/
def allocate (tracking : Tracking arch) (addr stop : Word arch) : Tracking arch where
  manager := { tracking.manager with
    memoryInfos := tracking.manager.memoryInfos ++ [⟨tracking.manager.memoryIndex, addr, stop⟩]
    memoryIndex := tracking.manager.memoryIndex + 1 }
  own := tracking.own ++ [tracking.manager.memoryIndex]

theorem Sound.mem_own_iff (sound : tracking.Sound) {block : MemoryInfo arch}
    (member : block ∈ tracking.manager.memoryInfos) :
    block.memoryIndex ∈ tracking.own ++ [tracking.manager.memoryIndex] ↔
      block.memoryIndex ∈ tracking.own := by
  have older := sound.blocks block member
  rw [List.mem_append, List.mem_singleton]
  exact or_iff_left (Nat.ne_of_lt older)

theorem Sound.allocate (sound : tracking.Sound) {addr : Word arch} (stop : Word arch)
    (free : tracking.manager.isInMemory addr = false) : (tracking.allocate addr stop).Sound where
  own := by
    intro index member
    rcases List.mem_append.mp member with old | new
    · exact Nat.lt_succ_of_lt (sound.own index old)
    · rw [List.mem_singleton.mp new]
      exact Nat.lt_succ_self _
  blocks := by
    refine List.forall_mem_append.mpr ⟨fun block member => ?_, List.forall_mem_singleton.mpr ?_⟩
    · exact Nat.lt_succ_of_lt (sound.blocks block member)
    · exact Nat.lt_succ_self _
  adopted := by
    rintro block ⟨member, notOwn⟩
    rcases List.mem_append.mp member with old | new
    · exact sound.adopted block ⟨old, fun own => notOwn (List.mem_append_left _ own)⟩
    · rw [List.mem_singleton.mp new] at notOwn
      exact absurd (List.mem_append_right _ List.mem_cons_self) notOwn
  ownFirst := by
    refine List.pairwise_append.mpr ⟨?_, List.pairwise_singleton .., ?_⟩
    · refine sound.ownFirst.imp_of_mem fun earlierIn laterIn first starts own => ?_
      rw [Tracking.allocate, sound.mem_own_iff laterIn] at own
      exact List.mem_append_left _ (first starts own)
    · intro earlier member later same starts _
      rw [List.mem_singleton.mp same] at starts
      -- an adopted block that starts here would have been reached
      by_contra notOwn
      obtain ⟨nonzero, ordered⟩ := sound.adopted earlier
        ⟨member, fun own => notOwn (List.mem_append_left _ own)⟩
      rcases MemoryManager.isInMemory_eq_false_iff.mp free with zero | outside
      · exact nonzero (starts.trans zero)
      · have missed := MemoryManager.reaches_eq_false_iff.mp (outside earlier member)
        rw [← show earlier.start = addr from starts] at missed
        exact missed.elim (BitVec.lt_irrefl _) (BitVec.not_lt.mpr ordered)

theorem Sound.ownBlocks_allocate (sound : tracking.Sound) (addr stop : Word arch) :
    (tracking.allocate addr stop).ownBlocks =
      tracking.ownBlocks ++ [⟨tracking.manager.memoryIndex, addr, stop⟩] := by
  rw [ownBlocks, Tracking.allocate, List.filter_append, ownBlocks]
  congr 1
  · exact List.filter_congr fun block member => decide_eq_decide.mpr (sound.mem_own_iff member)
  · simp

theorem apply_refused {addr size : Word arch} {fits : addr.toNat + size.toNat < 2 ^ arch.wordBits}
    (refused : tracking.manager.addMemory addr size = (tracking.manager, false)) :
    tracking.apply (.add addr size fits) = tracking := by
  simp [apply, TableCall.apply, refused]

theorem apply_added {addr size : Word arch} {fits : addr.toNat + size.toNat < 2 ^ arch.wordBits}
    (added : tracking.manager.addMemory addr size =
      ((tracking.allocate addr (addr + size)).manager, true)) :
    tracking.apply (.add addr size fits) = tracking.allocate addr (addr + size) := by
  simp [apply, TableCall.apply, added, allocate]

theorem apply_sound (sound : tracking.Sound) (call : TableCall arch) :
    (tracking.apply call).Sound := by
  cases call with
  | add addr size fits =>
    rcases tracking.manager.addMemory_cases addr size with ⟨-, refused⟩ | ⟨free, added⟩
    · rw [apply_refused refused]
      exact sound
    · rw [apply_added added]
      exact sound.allocate (addr + size) free.1
  | remove process addr =>
    refine sound.sublist ?_ ?_
    · rw [TableCall.apply, MemoryManager.removeMemory_memoryInfos]
      exact List.eraseP_sublist
    · exact (MemoryManager.removeMemory_memoryIndex process _ addr).ge
  | lookup process addr =>
    rcases tracking.manager.getMemoryOffset_cases process addr with
      ⟨-, infos, index⟩ | ⟨-, bounds, adopted, infos, index⟩
    · exact sound.sublist (infos ▸ List.Sublist.refl _) index
    · obtain ⟨nonzero, above, below⟩ := MemoryManager.adoptable_reaches adopted
      exact sound.adopt infos index nonzero (BitVec.le_trans above below)
  | clear process =>
    exact sound.sublist (List.nil_sublist _) (MemoryManager.clear_memoryIndex process _).ge

theorem applyAll_sound {manager : MemoryManager arch} (empty : manager.memoryInfos = [])
    (calls : List (TableCall arch)) : (applyAll manager calls).Sound := by
  induction calls using List.reverseRecOn with
  | nil =>
    have nothing : ∀ block, block ∉ manager.memoryInfos := by simp [empty]
    refine ⟨nofun, fun block member => absurd member (nothing block),
      fun block adopted => absurd adopted.1 (nothing block), ?_⟩
    rw [applyAll, List.foldl_nil, empty]
    exact .nil
  | append_singleton calls call ih =>
    rw [applyAll_concat]
    exact apply_sound ih call

end Step

end Tracking

/-- The blocks of the allocator are those of a table without lookups. -/
def Tracking.Agrees (tracking : Tracking arch) (plain : MemoryManager arch) : Prop :=
  tracking.ownBounds = plain.bounds

/-- The call is no allocation that a table without lookups accepts and that has an end
in an adopted block. -/
def Tracking.Passes (tracking : Tracking arch) (plain : MemoryManager arch) :
    TableCall arch → Prop
  | .add addr size _ =>
    plain.isInMemory addr = false → plain.isInMemory (addr + size) = false →
      ∀ block, tracking.Adopted block → ¬ block.reaches addr ∧ ¬ block.reaches (addr + size)
  | _ => True

namespace Tracking

section Agrees

variable {tracking : Tracking arch} {plain : MemoryManager arch}

theorem isInMemory_iff_adopted (sound : tracking.Sound) (agrees : tracking.Agrees plain)
    (addr : Word arch) : tracking.manager.isInMemory addr = true ↔
      plain.isInMemory addr = true ∨ ∃ block, tracking.Adopted block ∧ block.reaches addr := by
  by_cases zero : addr = 0
  · -- neither table looks for address 0, and no adopted block starts there
    subst zero
    simp only [MemoryManager.isInMemory, ↓reduceIte, Bool.false_eq_true, false_or, false_iff]
    rintro ⟨block, adopted, reached⟩
    rw [MemoryInfo.reaches, Bool.and_eq_true, decide_eq_true_eq] at reached
    exact (sound.adopted block adopted).1 (BitVec.le_zero_iff.mp reached.1)
  · have others : plain.isInMemory addr = true ↔
        ∃ bounds ∈ tracking.ownBounds, bounds.1 ≤ addr ∧ addr ≤ bounds.2 := by
      rw [MemoryManager.isInMemory_iff_bounds zero, ← agrees]
    rw [others, MemoryManager.isInMemory, if_neg zero, List.any_eq_true]
    constructor
    · rintro ⟨block, member, reached⟩
      by_cases own : block.memoryIndex ∈ tracking.own
      · left
        have tracked : block ∈ tracking.ownBlocks := List.mem_filter.mpr ⟨member, by simpa using own⟩
        exact ⟨_, List.mem_map_of_mem tracked, by simpa [MemoryInfo.reaches] using reached⟩
      · exact .inr ⟨block, ⟨member, own⟩, reached⟩
    · rintro (⟨bounds, member, reached⟩ | ⟨block, adopted, reached⟩)
      · obtain ⟨block, tracked, rfl⟩ := List.mem_map.mp member
        exact ⟨block, (List.mem_filter.mp tracked).1, by simpa [MemoryInfo.reaches] using reached⟩
      · exact ⟨block, adopted.1, reached⟩

theorem accepted_iff_passes (sound : tracking.Sound) (agrees : tracking.Agrees plain)
    {addr size : Word arch} (fits : addr.toNat + size.toNat < 2 ^ arch.wordBits) :
    (tracking.manager.addMemory addr size).2 = (plain.addMemory addr size).2 ↔
      tracking.Passes plain (.add addr size fits) := by
  have start := isInMemory_iff_adopted sound agrees addr
  have stop := isInMemory_iff_adopted sound agrees (addr + size)
  rw [Passes]
  rcases plain.addMemory_cases addr size with ⟨taken, refused⟩ | ⟨⟨free, freeStop⟩, added⟩
  · rw [refused]
    rcases tracking.manager.addMemory_cases addr size with ⟨-, alsoRefused⟩ | ⟨also, -⟩
    · rw [alsoRefused]
      refine iff_of_true rfl fun free freeStop => ?_
      simp [free, freeStop] at taken
    · rcases taken with taken | taken
      · rw [start.mpr (.inl taken)] at also
        cases also.1
      · rw [stop.mpr (.inl taken)] at also
        cases also.2
  · rw [added]
    simp only [free, freeStop, Bool.false_eq_true, false_or, forall_const] at start stop ⊢
    rcases tracking.manager.addMemory_cases addr size with ⟨taken, refused⟩ | ⟨also, alsoAdded⟩
    · rw [refused]
      refine iff_of_false nofun fun passes => ?_
      rcases taken with taken | taken
      · obtain ⟨block, adopted, reached⟩ := start.mp taken
        exact (passes block adopted).1 reached
      · obtain ⟨block, adopted, reached⟩ := stop.mp taken
        exact (passes block adopted).2 reached
    · rw [alsoAdded]
      refine iff_of_true rfl fun block adopted => ⟨fun reached => ?_, fun reached => ?_⟩
      · rw [start.mpr ⟨block, adopted, reached⟩] at also
        cases also.1
      · rw [stop.mpr ⟨block, adopted, reached⟩] at also
        cases also.2

/-- After an allocation the tables agree exactly when both did the same with it. -/
theorem agrees_add_iff (sound : tracking.Sound) (agrees : tracking.Agrees plain)
    {addr size : Word arch} (fits : addr.toNat + size.toNat < 2 ^ arch.wordBits) :
    (tracking.apply (.add addr size fits)).Agrees (plain.addMemory addr size).1 ↔
      (tracking.manager.addMemory addr size).2 = (plain.addMemory addr size).2 := by
  have allocated : (tracking.allocate addr (addr + size)).ownBounds =
      tracking.ownBounds ++ [(addr, addr + size)] := by
    rw [ownBounds, sound.ownBlocks_allocate, List.map_append]
    rfl
  have lengths := congrArg List.length agrees
  rcases tracking.manager.addMemory_cases addr size with ⟨-, refused⟩ | ⟨-, added⟩
  · rw [apply_refused refused, refused]
    rcases plain.addMemory_cases addr size with ⟨-, alsoRefused⟩ | ⟨-, other⟩
    · rw [alsoRefused]
      exact iff_of_true agrees rfl
    · rw [other]
      refine iff_of_false (fun same => ?_) Bool.false_ne_true
      have longer := congrArg List.length same
      simp [MemoryManager.bounds] at lengths longer
      omega
  · rw [apply_added added, added]
    rcases plain.addMemory_cases addr size with ⟨-, refused⟩ | ⟨-, alsoAdded⟩
    · rw [refused]
      refine iff_of_false (fun same => ?_) Bool.false_ne_true.symm
      have longer := congrArg List.length (allocated.symm.trans same)
      simp at lengths longer
      omega
    · rw [alsoAdded]
      refine iff_of_true ?_ rfl
      rw [Agrees, allocated, agrees]
      simp [MemoryManager.bounds]

theorem agrees_remove (sound : tracking.Sound) (agrees : tracking.Agrees plain)
    (process : Process arch) (addr : Word arch) :
    (tracking.apply (.remove process addr)).Agrees (plain.removeMemory process addr).1 := by
  have erased : (tracking.apply (.remove process addr)).ownBlocks =
      tracking.ownBlocks.eraseP (·.start == addr) := by
    rw [ownBlocks, ownBlocks, ← filter_eraseP]
    · exact congrArg _ (MemoryManager.removeMemory_memoryInfos process _ addr)
    · refine sound.ownFirst.imp fun first starts also kept => ?_
      rw [beq_iff_eq] at starts also
      rw [decide_eq_true_eq] at kept ⊢
      exact first (starts.trans also.symm) kept
  rw [Agrees, ownBounds, erased, map_bounds_eraseP, MemoryManager.bounds,
    MemoryManager.removeMemory_memoryInfos, map_bounds_eraseP]
  exact congrArg _ agrees

theorem agrees_lookup (sound : tracking.Sound) (agrees : tracking.Agrees plain)
    (process : Process arch) (addr : Word arch) :
    (tracking.apply (.lookup process addr)).Agrees plain := by
  have same : (tracking.apply (.lookup process addr)).ownBlocks = tracking.ownBlocks := by
    rcases tracking.manager.getMemoryOffset_cases process addr with
      ⟨-, infos, -⟩ | ⟨-, bounds, -, infos, -⟩
    · exact congrArg (List.filter _) infos
    · exact sound.ownBlocks_adopt infos
  rw [Agrees, ownBounds, same]
  exact agrees

end Agrees

end Tracking

/-- The lookups in a history do not show: the allocator's calls are answered as without
them, and its blocks are the ones tracked without them. -/
structure Unaffected (manager : MemoryManager arch) (history : List (TableCall arch)) : Prop where
  accepted : Always (fun past call => ∀ addr size fits, call = .add addr size fits →
    ((TableCall.applyAll manager past).addMemory addr size).2 =
      ((TableCall.applyAll manager (withoutLookups past)).addMemory addr size).2) history
  tracked : ∀ past, past <+: history → (Tracking.applyAll manager past).ownBounds =
    (TableCall.applyAll manager (withoutLookups past)).bounds

section Histories

variable {manager : MemoryManager arch}

/-- The condition on the calls of a history. -/
def PassesAll (manager : MemoryManager arch) (past : List (TableCall arch)) :
    TableCall arch → Prop :=
  (Tracking.applyAll manager past).Passes (TableCall.applyAll manager (withoutLookups past))

theorem withoutLookups_concat (past : List (TableCall arch)) (call : TableCall arch) :
    withoutLookups (past ++ [call]) =
      if call.isLookup then withoutLookups past else withoutLookups past ++ [call] := by
  rw [withoutLookups, List.filter_append]
  cases looks : call.isLookup <;> simp [looks, withoutLookups]

/-- One more call keeps the agreement exactly when it passes. -/
theorem agrees_concat_iff (empty : manager.memoryInfos = []) (past : List (TableCall arch))
    (call : TableCall arch) (agrees : (Tracking.applyAll manager past).Agrees
      (TableCall.applyAll manager (withoutLookups past))) :
    (Tracking.applyAll manager (past ++ [call])).Agrees
        (TableCall.applyAll manager (withoutLookups (past ++ [call]))) ↔
      PassesAll manager past call := by
  have sound := Tracking.applyAll_sound empty past
  rw [Tracking.applyAll_concat, withoutLookups_concat]
  cases call with
  | add addr size fits =>
    rw [if_neg nofun, TableCall.applyAll_concat]
    exact (Tracking.agrees_add_iff sound agrees fits).trans
      (Tracking.accepted_iff_passes sound agrees fits)
  | remove process addr =>
    rw [if_neg nofun, TableCall.applyAll_concat]
    exact iff_of_true (Tracking.agrees_remove sound agrees process addr) trivial
  | lookup process addr =>
    have looks : (TableCall.lookup process addr).isLookup = true := rfl
    rw [if_pos looks]
    exact iff_of_true (Tracking.agrees_lookup sound agrees process addr) trivial
  | clear process =>
    rw [if_neg nofun, TableCall.applyAll_concat]
    exact iff_of_true rfl trivial

/-- Lookups do not show in a history exactly when no allocation that would be accepted
without them has an end in a block that a lookup adopted and that is still tracked. -/
theorem unaffected_iff (empty : manager.memoryInfos = []) (history : List (TableCall arch)) :
    Unaffected manager history ↔ Always (PassesAll manager) history := by
  have start : (Tracking.applyAll manager []).Agrees
      (TableCall.applyAll manager (withoutLookups [])) := by
    simp [Tracking.Agrees, Tracking.applyAll, Tracking.ownBounds, Tracking.ownBlocks, empty,
      TableCall.applyAll, withoutLookups, MemoryManager.bounds]
  have states := forall_prefix_iff start (agrees_concat_iff empty) history
  constructor
  · exact fun unaffected => states.mp unaffected.tracked
  · intro passes
    have agrees := states.mpr passes
    refine ⟨fun past call later split => ?_, agrees⟩
    rintro addr size fits rfl
    rw [← Tracking.applyAll_manager]
    refine (Tracking.accepted_iff_passes (Tracking.applyAll_sound empty past)
      (agrees past ?_) fits).mpr (passes past _ later split)
    rw [split]
    exact List.prefix_append ..

end Histories

/-- The blocks that the allocator has handed out and not taken back, by start and
size. -/
def handedOut (calls : List (TableCall arch)) : List (Word arch × Word arch) :=
  calls.foldl (fun live call =>
    match call with
    | .add addr size _ => live ++ [(addr, size)]
    | .remove _ addr => live.eraseP (·.1 == addr)
    | _ => live) []

/-- An allocator hands out blocks that are apart from the others, and takes back what
it handed out. -/
def AllocatorCorrect (past : List (TableCall arch)) : TableCall arch → Prop
  | .add addr size _ => addr ≠ 0 ∧ 0 < size ∧
      ∀ live ∈ handedOut past, addr + size ≤ live.1 ∨ live.1 + live.2 ≤ addr
  | .remove _ addr => ∃ live ∈ handedOut past, live.1 = addr
  | _ => True

/-- The map is adopted, and the allocation is outside of it. -/
theorem unaffected_iff_outside :
    Unaffected {} [.lookup .chunkless 0x6000, .add 0xa000 16 (by decide)] := by
  refine (unaffected_iff rfl _).mpr (always_cons.mpr ⟨trivial, always_singleton.mpr ?_⟩)
  intro _ _ block adopted
  cases List.mem_singleton.mp adopted.1
  decide

/-- The map is adopted, and an allocation inside of it is refused. -/
theorem lookup_hides_allocation :
    Always AllocatorCorrect [.lookup .chunkless 0x6000, .add 0x7000 16 (by decide)] ∧
      ¬ Unaffected {} [.lookup .chunkless 0x6000, .add 0x7000 16 (by decide)] := by
  refine ⟨always_cons.mpr ⟨trivial, always_singleton.mpr ⟨by decide, by decide, nofun⟩⟩, ?_⟩
  intro unaffected
  have same := unaffected.accepted [.lookup .chunkless 0x6000] _ [] rfl 0x7000 16 (by decide) rfl
  exact absurd same (by decide)

end QbdiTracer
