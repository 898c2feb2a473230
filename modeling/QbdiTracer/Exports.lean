import QbdiTracer.SymbolTables

/-! What `xdl_enumerate_exports` reports of a library whose `.dynsym` has a `.gnu.hash`. The
loop does not pass over an empty bucket, whose entry is the index 0: it begins at the null
symbol there, and goes on to the first word with a mark. -/

namespace QbdiTracer

open WhileLoop GroupedItems

variable {arch : Arch} {dyn : DynSym arch} {symbols : List (ElfSym arch)}

namespace DynSym

/-- The test that ends the loop of a bucket. -/
def isRunEnd (dyn : DynSym arch) (n : BitVec 32) : Bool :=
  decide (dyn.gnuHash.chainsAll arch n &&& 1#32 ≠ 0#32)

/-- The `j`-th symbol's word, as the loop comes to it. -/
theorem Hashes.chainsAll_offset (hashes : dyn.Hashes symbols) {j : ℕ} (inside : j < symbols.length) :
    dyn.gnuHash.chainsAll arch (BitVec.ofNat 32 (dyn.gnuHash.symoffset.toNat + j)) =
      dyn.gnuHash.chain arch j := by
  have fits := hashes.fits
  rw [GnuHash.chainsAll, GnuHash.chain, BitVec.toNat_ofNat, Nat.mod_eq_of_lt (by omega)]
  congr 1
  omega

/-- The loop of a bucket with symbols goes through these. -/
theorem Hashes.visited (hashes : dyn.Hashes symbols) {b : ℕ}
    (inside : b < dyn.gnuHash.bucketsCnt.toNat) (filled : group dyn.bucketOf symbols b ≠ []) :
    Run (· + 1#32) dyn.isRunEnd (dyn.gnuHash.bucket arch b) (dyn.indices symbols b) := by
  refine hashes.bucket_run inside filled fun j below => ?_
  rw [isRunEnd, hashes.chainsAll_offset below]

theorem Hashes.indices_lt (hashes : dyn.Hashes symbols) {b : ℕ} {n : BitVec 32}
    (member : n ∈ dyn.indices symbols b) :
    n.toNat < dyn.gnuHash.symoffset.toNat + symbols.length := by
  have count := length_group_le hashes (b := b)
  obtain ⟨place, listed, rfl⟩ := List.mem_map.mp member
  obtain ⟨i, here, rfl⟩ := List.mem_range'.mp listed
  rw [BitVec.toNat_ofNat]
  exact Nat.lt_of_le_of_lt (Nat.mod_le _ _) (by omega)

end DynSym

namespace XdlHandle

open DynSym

variable {self : XdlHandle arch} {ifunc : Resolver arch} {reported : List (Export arch)}

theorem exportRound_eq (self : XdlHandle arch) (ifunc : Resolver arch) (dyn : DynSym arch) :
    self.exportRound ifunc dyn = collectRound (· + 1#32) dyn.isRunEnd
      fun n => self.exportOf ifunc (dyn.sym n.toNat) := by
  funext state
  by_cases ends : dyn.gnuHash.chainsAll arch state.2 &&& 1#32 = 0#32
  · simp [exportRound, collectRound, isRunEnd, ends]
  · simp [exportRound, collectRound, isRunEnd, ends]

/-- The indices the loops come to, a run from the entry of each bucket. -/
def Visited (dyn : DynSym arch) (runs : List (List (BitVec 32))) : Prop :=
  List.Forall₂ (fun b run => Run (· + 1#32) dyn.isRunEnd (dyn.gnuHash.bucket arch b) run)
    (List.range dyn.gnuHash.bucketsCnt.toNat) runs

theorem Visited.exists_run {runs : List (List (BitVec 32))} (visited : Visited dyn runs) {b : ℕ}
    (inside : b < dyn.gnuHash.bucketsCnt.toNat) :
    ∃ run ∈ runs, Run (· + 1#32) dyn.isRunEnd (dyn.gnuHash.bucket arch b) run := by
  obtain ⟨length, run⟩ := List.forall₂_iff_get.mp visited
  have left : b < (List.range dyn.gnuHash.bucketsCnt.toNat).length := by rwa [List.length_range]
  have ends := run b left (length ▸ left)
  simp only [List.get_eq_getElem, List.getElem_range] at ends
  exact ⟨_, List.getElem_mem _, ends⟩

theorem enumerateDynsym_eq (buckets : dyn.gnuHash.bucketsCnt ≠ 0#32) (fuel : ℕ) :
    self.enumerateDynsym ifunc fuel dyn =
      ((List.range dyn.gnuHash.bucketsCnt.toNat).map (dyn.gnuHash.bucket arch)).foldlM
        (fun reported start => iterate (collectRound (· + 1#32) dyn.isRunEnd
          fun n => self.exportOf ifunc (dyn.sym n.toNat)) fuel (reported, start)) [] := by
  rw [enumerateDynsym, if_pos buckets, exportRound_eq, List.foldlM_map]

theorem Visited.enumerateDynsym {runs : List (List (BitVec 32))} (visited : Visited dyn runs)
    (buckets : dyn.gnuHash.bucketsCnt ≠ 0#32) {fuel : ℕ}
    (enough : ∀ run ∈ runs, run.length ≤ fuel) :
    self.enumerateDynsym ifunc fuel dyn =
      some (runs.flatten.map fun n => self.exportOf ifunc (dyn.sym n.toNat)) := by
  rw [enumerateDynsym_eq buckets, foldlM_collect (List.forall₂_map_left_iff.mpr visited) enough,
    List.nil_append]

/-- The enumeration of `.dynsym` comes to an end exactly if all its loops do. -/
theorem enumerateDynsym_iff (buckets : dyn.gnuHash.bucketsCnt ≠ 0#32) :
    (∃ fuel, self.enumerateDynsym ifunc fuel dyn = some reported) ↔
      ∃ runs, Visited dyn runs ∧
        reported = runs.flatten.map fun n => self.exportOf ifunc (dyn.sym n.toNat) := by
  constructor
  · rintro ⟨fuel, ended⟩
    rw [enumerateDynsym_eq buckets] at ended
    obtain ⟨runs, all, same⟩ := runs_of_foldlM ended
    exact ⟨runs, List.forall₂_map_left_iff.mp all, same⟩
  · rintro ⟨runs, visited, rfl⟩
    refine ⟨runs.flatten.length, visited.enumerateDynsym buckets fun run member => ?_⟩
    exact List.Sublist.length_le (List.sublist_flatten_of_mem member)

/-- No loop is shorter than the chain of its bucket. -/
theorem Visited.least {runs : List (List (BitVec 32))} (visited : Visited dyn runs)
    (hashes : dyn.Hashes symbols) :
    List.Forall₂ (fun b run => (group dyn.bucketOf symbols b).length ≤ run.length)
      (List.range dyn.gnuHash.bucketsCnt.toNat) runs := by
  rw [List.forall₂_iff_get]
  obtain ⟨length, run⟩ := List.forall₂_iff_get.mp visited
  refine ⟨length, fun b left right => ?_⟩
  have inside : b < dyn.gnuHash.bucketsCnt.toNat := by rwa [List.length_range] at left
  have ends := run b left right
  simp only [List.get_eq_getElem, List.getElem_range] at ends ⊢
  by_cases empty : group dyn.bucketOf symbols b = []
  · rw [empty]
    exact Nat.zero_le _
  · rw [ends.unique (hashes.visited inside empty), length_indices]

/-- The symbols of the hash table are the only ones of `.dynsym` that are reported, each once,
exactly if no bucket is empty. -/
theorem enumerateExports_iff (loaded : self.dynsym = some dyn) (hashes : dyn.Hashes symbols)
    (ifunc : Resolver arch) :
    (∃ fuel, self.enumerateExports ifunc fuel =
        some (symbols.map (self.exportOf ifunc) ++ self.enumerateSymtab)) ↔
      ∀ b < dyn.gnuHash.bucketsCnt.toNat, ∃ sym ∈ symbols, dyn.bucketOf sym = b := by
  have dynsym : (∃ fuel, self.enumerateExports ifunc fuel =
      some (symbols.map (self.exportOf ifunc) ++ self.enumerateSymtab)) ↔
      ∃ fuel, self.enumerateDynsym ifunc fuel dyn = some (symbols.map (self.exportOf ifunc)) := by
    refine exists_congr fun fuel => ?_
    simp [enumerateExports, loaded, Option.map_eq_some_iff]
  have whole : (List.range dyn.gnuHash.bucketsCnt.toNat).flatMap (group dyn.bucketOf symbols) =
      symbols := by
    rw [flatMap_group hashes.sorted, before_eq_self hashes.bounded]
  rw [dynsym, enumerateDynsym_iff hashes.buckets]
  constructor
  · rintro ⟨runs, visited, same⟩ b inside
    have count : runs.flatten.length = ((List.range dyn.gnuHash.bucketsCnt.toNat).map
        fun b => (group dyn.bucketOf symbols b).length).sum := by
      have lengths := congrArg List.length same
      rw [List.length_map, List.length_map] at lengths
      rw [← lengths, ← List.length_flatMap, whole]
    obtain ⟨length, run⟩ := List.forall₂_iff_get.mp (lengths_of_sum (visited.least hashes) count)
    have inRange : b < (List.range dyn.gnuHash.bucketsCnt.toNat).length := by
      rwa [List.length_range]
    have own := run b inRange (length ▸ inRange)
    have long := ((List.forall₂_iff_get.mp visited).2 b inRange (length ▸ inRange)).length_pos
    simp only [List.get_eq_getElem, List.getElem_range] at own long
    rw [← own] at long
    obtain ⟨sym, member⟩ := List.exists_mem_of_length_pos long
    exact ⟨sym, mem_group.mp member⟩
  · intro filled
    refine ⟨(List.range dyn.gnuHash.bucketsCnt.toNat).map (dyn.indices symbols), ?_, ?_⟩
    · rw [Visited, List.forall₂_map_right_iff, List.forall₂_same]
      intro b member
      have inside := List.mem_range.mp member
      obtain ⟨sym, listed, own⟩ := filled b inside
      exact hashes.visited inside fun none => group_eq_nil_iff.mp none sym listed own
    · have chains : ∀ b, (dyn.indices symbols b).map (fun n => self.exportOf ifunc (dyn.sym n.toNat)) =
          (group dyn.bucketOf symbols b).map (self.exportOf ifunc) := by
        intro b
        rw [← hashes.map_indices, List.map_map]
        rfl
      conv_lhs => rw [← whole, List.map_flatMap]
      rw [← List.flatMap_def, List.map_flatMap]
      exact congrArg (List.flatMap · _) (funext fun b => (chains b).symm)

/-- The first bucket of the sample is empty, and the only one of the other library is not. -/
theorem enumerateExports_sample :
    (¬ ∃ fuel, sampleLibrary.enumerateExports (fun _ => 0) fuel =
      some (sampleSymbols.map (sampleLibrary.exportOf fun _ => 0) ++ sampleLibrary.enumerateSymtab)) ∧
    ∃ fuel, filledLibrary.enumerateExports (fun _ => 0) fuel =
      some [("a", 0x70000100), ("b", 0x70000200), ("c", 0x70000300)] := by
  constructor
  · intro ended
    have loaded : sampleLibrary.dynsym = some sampleDynSym := rfl
    have filled := (enumerateExports_iff loaded sample_hashes _).mp ended 0 (by decide)
    revert filled
    decide
  · have loaded : filledLibrary.dynsym = some filledDynSym := rfl
    exact (enumerateExports_iff loaded filled_hashes _).mpr (by decide)

section Reports

/-- A loop that begins before an index with a mark ends there at the latest. -/
theorem exists_run {last : BitVec 32 → Bool} {start more : ℕ} (fits : start + more < 2 ^ 32)
    (marked : last (BitVec.ofNat 32 (start + more)) = true) :
    ∃ run, Run (· + 1#32) last (BitVec.ofNat 32 start) run ∧ run.length ≤ more + 1 ∧
      ∀ n ∈ run, n.toNat ≤ start + more := by
  induction more generalizing start with
  | zero =>
    refine ⟨_, .final marked, Nat.le_refl _, fun n member => ?_⟩
    rw [List.mem_singleton.mp member, BitVec.toNat_ofNat]
    exact Nat.mod_le _ _
  | succ more ih =>
    have below : ∀ n : BitVec 32, n = BitVec.ofNat 32 start → n.toNat ≤ start + (more + 1) := by
      rintro n rfl
      rw [BitVec.toNat_ofNat]
      exact Nat.le_trans (Nat.mod_le _ _) (Nat.le_add_right _ _)
    cases here : last (BitVec.ofNat 32 start) with
    | true =>
      refine ⟨_, .final here, Nat.succ_le_succ (Nat.zero_le _), fun n member => ?_⟩
      exact below n (List.mem_singleton.mp member)
    | false =>
      rw [Nat.add_comm more, ← Nat.add_assoc] at fits marked
      obtain ⟨run, ends, short, bound⟩ := ih fits marked
      rw [BitVec.ofNat_add] at ends
      refine ⟨_, .onward here ends, Nat.succ_le_succ short, fun n member => ?_⟩
      rcases List.mem_cons.mp member with first | later
      · exact below n first
      · exact Nat.le_trans (bound n later) (by omega)

/-- Every loop ends, within `.dynsym`: an empty bucket's at the end of a chain at the latest. -/
theorem exists_visited (hashes : dyn.Hashes symbols) (nonempty : symbols ≠ []) :
    ∃ runs, Visited dyn runs ∧ ∀ run ∈ runs,
      run.length ≤ dyn.gnuHash.symoffset.toNat + symbols.length ∧
        ∀ n ∈ run, n.toNat < dyn.gnuHash.symoffset.toNat + symbols.length := by
  -- the end of a chain, which stops the loops that begin before it
  obtain ⟨sym, present⟩ := List.exists_mem_of_ne_nil _ nonempty
  have filled : group dyn.bucketOf symbols (dyn.bucketOf sym) ≠ [] :=
    List.ne_nil_of_mem (mem_group.mpr ⟨present, rfl⟩)
  obtain ⟨last, member, marked⟩ :=
    (hashes.visited (hashes.bucketOf_lt sym) filled).exists_marked
  have each : ∀ b, ∃ run, b < dyn.gnuHash.bucketsCnt.toNat →
      Run (· + 1#32) dyn.isRunEnd (dyn.gnuHash.bucket arch b) run ∧
        run.length ≤ dyn.gnuHash.symoffset.toNat + symbols.length ∧
        ∀ n ∈ run, n.toNat < dyn.gnuHash.symoffset.toNat + symbols.length := by
    intro b
    by_cases inside : b < dyn.gnuHash.bucketsCnt.toNat
    · by_cases empty : group dyn.bucketOf symbols b = []
      · rw [hashes.empty b inside empty]
        have below : (0 : ℕ) + last.toNat < 2 ^ 32 := by
          rw [Nat.zero_add]
          exact last.isLt
        obtain ⟨run, ends, short, bound⟩ := @exists_run dyn.isRunEnd 0 last.toNat below (by
          rwa [Nat.zero_add, BitVec.ofNat_toNat, BitVec.setWidth_eq])
        rw [Nat.zero_add] at bound
        exact ⟨run, fun _ => ⟨ends, Nat.le_trans short (hashes.indices_lt member),
          fun n listed => Nat.lt_of_le_of_lt (bound n listed) (hashes.indices_lt member)⟩⟩
      · have count := length_group_le hashes (b := b)
        refine ⟨dyn.indices symbols b, fun _ => ⟨hashes.visited inside empty, ?_, ?_⟩⟩
        · rw [length_indices]
          omega
        · exact fun n listed => hashes.indices_lt listed
    · exact ⟨[], fun within => absurd within inside⟩
  choose runOf within using each
  refine ⟨(List.range dyn.gnuHash.bucketsCnt.toNat).map runOf, ?_, fun run member => ?_⟩
  · rw [Visited, List.forall₂_map_right_iff, List.forall₂_same]
    exact fun b member => (within b (List.mem_range.mp member)).1
  · obtain ⟨b, listed, rfl⟩ := List.mem_map.mp member
    exact (within b (List.mem_range.mp listed)).2

/-- The enumeration ends. Of `.dynsym` it reports every symbol of the hash table; what else it
reports of it stands before the hash table. -/
theorem enumerateExports_reports (loaded : self.dynsym = some dyn) (hashes : dyn.Hashes symbols)
    (nonempty : symbols ≠ []) {fuel : ℕ} (enough : dyn.rounds symbols ≤ fuel) (ifunc : Resolver arch) :
    ∃ front, self.enumerateExports ifunc fuel = some (front ++ self.enumerateSymtab) ∧
      (∀ sym ∈ symbols, self.exportOf ifunc sym ∈ front) ∧
      ∀ entry ∈ front, (∃ sym ∈ symbols, entry = self.exportOf ifunc sym) ∨
        ∃ n < dyn.gnuHash.symoffset.toNat, entry = self.exportOf ifunc (dyn.sym n) := by
  rw [rounds] at enough
  obtain ⟨runs, visited, within⟩ := exists_visited hashes nonempty
  have listed : self.enumerateDynsym ifunc fuel dyn = _ :=
    visited.enumerateDynsym hashes.buckets fun run member =>
      Nat.le_trans (within run member).1 (by omega)
  have whole : self.enumerateExports ifunc fuel = some
      ((runs.flatten.map fun n => self.exportOf ifunc (dyn.sym n.toNat)) ++ self.enumerateSymtab) := by
    simp only [enumerateExports, loaded, listed, Option.map_some]
  refine ⟨_, whole, ?_, ?_⟩
  · intro sym member
    obtain ⟨run, one, ends⟩ := visited.exists_run (hashes.bucketOf_lt sym)
    have own : sym ∈ group dyn.bucketOf symbols (dyn.bucketOf sym) := mem_group.mpr ⟨member, rfl⟩
    have chain := ends.unique (hashes.visited (hashes.bucketOf_lt sym) (List.ne_nil_of_mem own))
    rw [← hashes.map_indices, ← chain] at own
    obtain ⟨n, inside, rfl⟩ := List.mem_map.mp own
    exact List.mem_map_of_mem (List.mem_flatten_of_mem one inside)
  · intro entry dynsym
    obtain ⟨n, place, rfl⟩ := List.mem_map.mp dynsym
    obtain ⟨run, one, inside⟩ := List.mem_flatten.mp place
    have bound := (within run one).2 n inside
    by_cases before : n.toNat < dyn.gnuHash.symoffset.toNat
    · exact .inr ⟨n.toNat, before, rfl⟩
    · have index : n.toNat - dyn.gnuHash.symoffset.toNat < symbols.length := by omega
      have own := hashes.placed _ index
      rw [Nat.add_sub_cancel' (Nat.le_of_not_lt before)] at own
      exact .inl ⟨_, List.getElem_mem index, congrArg _ own⟩

end Reports

end XdlHandle

end QbdiTracer
