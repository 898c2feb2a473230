import QbdiTracer.Exports

/-! The name that `get_symbol_by_address` gives an address. The way back through the hash table
visits its buckets and passes over the empty ones, and finds what a plain search through the
symbols finds. -/

namespace QbdiTracer

open WhileLoop GroupedItems

variable {arch : Arch} {dyn : DynSym arch} {symbols : List (ElfSym arch)} {fuel : ℕ}

namespace XdlHandle

open DynSym

theorem addrRound_eq (dyn : DynSym arch) (offset : Word arch) :
    addrRound dyn offset = searchRound (· + 1#32) dyn.isRunEnd
      fun n => symIsMatch (dyn.sym n.toNat) offset false := by
  funext n
  by_cases ends : dyn.gnuHash.chainsAll arch n &&& 1#32 = 0#32
  · simp [addrRound, searchRound, isRunEnd, ends]
  · simp [addrRound, searchRound, isRunEnd, ends]

/-- The buckets in turn find what a search through their symbols finds. -/
theorem symByAddrBuckets_eq (hashes : dyn.Hashes symbols) (enough : symbols.length ≤ fuel)
    (offset : Word arch) {buckets : List ℕ}
    (inside : ∀ b ∈ buckets, b < dyn.gnuHash.bucketsCnt.toNat) :
    (symByAddrBuckets fuel dyn offset buckets).map (Option.map fun n => dyn.sym n.toNat) =
      some ((buckets.flatMap (group dyn.bucketOf symbols)).find? (symIsMatch · offset false)) := by
  induction buckets with
  | nil => rfl
  | cons b buckets ih =>
    have later := ih fun other member => inside other (List.mem_cons_of_mem _ member)
    have here := inside b List.mem_cons_self
    rw [List.flatMap_cons, List.find?_append, symByAddrBuckets]
    by_cases empty : group dyn.bucketOf symbols b = []
    · rw [if_pos ((hashes.bucket_lt_iff here).mpr empty), later, empty, List.find?_nil,
        Option.none_or]
    · have count := length_group_le hashes (b := b)
      have short : (dyn.indices symbols b).length ≤ fuel := by
        rw [length_indices]
        omega
      have chain : iterate (addrRound dyn offset) fuel (dyn.gnuHash.bucket arch b) =
          some ((dyn.indices symbols b).find? fun n => symIsMatch (dyn.sym n.toNat) offset false) := by
        rw [addrRound_eq]
        exact (hashes.visited here empty).search short
      rw [if_neg fun reserved => empty ((hashes.bucket_lt_iff here).mp reserved), chain,
        ← hashes.map_indices, List.find?_map]
      simp only [Option.bind_eq_bind, Option.bind_some, Function.comp_def]
      cases (dyn.indices symbols b).find? fun n => symIsMatch (dyn.sym n.toNat) offset false with
      | some n => rfl
      | none =>
        rw [Option.map_none, Option.none_or]
        exact later

theorem symByAddr_eq {self : XdlHandle arch} (loaded : self.dynsym = some dyn)
    (hashes : dyn.Hashes symbols) (enough : symbols.length ≤ fuel) (addr : Word arch) :
    self.symByAddr fuel addr = some (symbols.find? (symIsMatch · (addr - self.loadBias) false)) := by
  have whole : (List.range dyn.gnuHash.bucketsCnt.toNat).flatMap (group dyn.bucketOf symbols) =
      symbols := by
    rw [flatMap_group hashes.sorted, before_eq_self hashes.bounded]
  rw [symByAddr, loaded]
  simp only [if_pos hashes.buckets]
  rw [symByAddrBuckets_eq hashes enough _ fun b member => List.mem_range.mp member, whole]

/-- An address is named after the first symbol of the hash table that lies over it. Where there is
none but `.symtab` has one, the name is copied from freed memory. -/
theorem getSymbolByAddress_eq {phdrs : List (XdlHandle arch)} {handle : XdlHandle arch}
    {address : Word arch} (opened : openByAddr phdrs address = some handle)
    (loaded : handle.dynsym = some dyn) (hashes : dyn.Hashes symbols)
    (enough : symbols.length ≤ fuel) :
    getSymbolByAddress phdrs fuel address =
      some (match symbols.find? (symIsMatch · (address - handle.loadBias) false) with
        | some sym => .mapped sym.name
        | none =>
          if (handle.symtab.getD []).any (symIsMatch · (address - handle.loadBias) true) then .freed
          else .mapped "") := by
  rw [getSymbolByAddress, opened]
  simp only [symByAddr_eq loaded hashes enough, dsymByAddr, Option.bind_eq_bind, Option.bind_some]
  cases symbols.find? (symIsMatch · (address - handle.loadBias) false) with
  | some sym => rfl
  | none =>
    cases covering : (handle.symtab.getD []).find? (symIsMatch · (address - handle.loadBias) true) with
    | some sym =>
      have hit : (handle.symtab.getD []).any (symIsMatch · (address - handle.loadBias) true) = true :=
        List.any_eq_true.mpr
          ⟨sym, List.mem_of_find?_eq_some covering, by simpa using List.find?_some covering⟩
      simp only [hit, if_true]
      rfl
    | none =>
      have miss := List.any_eq_false.mpr (List.find?_eq_none.mp covering)
      simp only [miss, Bool.false_eq_true, if_false]
      rfl

/-- The two lookups of one library are inverse to each other: the address found for a name is
given this name again, if no symbol of another name lies over it. -/
theorem getSymbolByAddress_findSymbol {phdrs : List (XdlHandle arch)} {handle : XdlHandle arch}
    (loaded : handle.dynsym = some dyn) (defines : dyn.Defines symbols)
    (enough : dyn.rounds symbols ≤ fuel) (ifunc : Resolver arch) {symbolName : String}
    (named : symbolName ≠ "") {sym : ElfSym arch}
    (first : symbols.find? (fun sym => sym.name = symbolName) = some sym)
    (direct : sym.type ≠ ElfSym.sttGnuIfunc) (spans : symIsMatch sym sym.value false = true)
    (alone : ∀ other ∈ symbols, symIsMatch other sym.value false = true → other.name = symbolName)
    (nonnull : handle.loadBias + sym.value ≠ 0)
    (opened : openByAddr phdrs (handle.loadBias + sym.value) = some handle) :
    ∃ addr, handle.findSymbol ifunc fuel symbolName = some addr ∧
      getSymbolByAddress phdrs fuel addr = some (.mapped symbolName) := by
  have local_ : sym.type ≠ ElfSym.sttTls := by
    intro tls
    simp [symIsMatch, tls] at spans
  have resolved : handle.resolveSymbolAddress ifunc sym = handle.loadBias + sym.value := by
    rw [resolveSymbolAddress, if_neg local_, if_neg direct]
  have found : handle.findSymbol ifunc fuel symbolName = some (handle.loadBias + sym.value) := by
    have nonempty : ¬ symbolName.isEmpty = true := by simpa using named
    rw [findSymbol, if_neg nonempty, xdlSym_eq loaded defines enough, first, Option.elim_some,
      resolved]
    exact if_neg nonnull
  refine ⟨_, found, ?_⟩
  -- the same offset comes back
  have offset : handle.loadBias + sym.value - handle.loadBias = sym.value := by
    rw [BitVec.add_comm, BitVec.add_sub_cancel]
  have few : symbols.length ≤ fuel := by
    rw [rounds] at enough
    omega
  rw [getSymbolByAddress, opened]
  simp only [symByAddr_eq loaded defines.hashes few, offset, Option.bind_eq_bind, Option.bind_some]
  cases covering : symbols.find? (symIsMatch · sym.value false) with
  | some other =>
    have spans := @List.find?_some _ (symIsMatch · sym.value false) _ _ covering
    have same := alone other (List.mem_of_find?_eq_some covering) spans
    exact congrArg (fun name => some (SymbolText.mapped name)) same
  | none =>
    have away := List.find?_eq_none.mp covering sym (List.mem_of_find?_eq_some first)
    exact absurd spans away

end XdlHandle

theorem openByAddr_alone {library : XdlHandle arch} {address : Word arch} (nonnull : address ≠ 0)
    (placed : (library.loadBias != 0) = true) (inside : library.elfIsMatch address = true) :
    XdlHandle.openByAddr [library] address = some library := by
  rw [XdlHandle.openByAddr, if_neg nonnull, List.find?_cons_of_pos]
  rw [placed, inside]
  rfl

/-- Inside the second function, behind it, and inside one that only `.symtab` has. -/
theorem getSymbolByAddress_eq_sample :
    XdlHandle.getSymbolByAddress [sampleLibrary] 2 0x70000204 = some (.mapped "b") ∧
      XdlHandle.getSymbolByAddress [sampleLibrary] 2 0x70000208 = some (.mapped "") ∧
      XdlHandle.getSymbolByAddress [filledLibrary] 2 0x70000304 = some .freed := by
  have loaded : sampleLibrary.dynsym = some sampleDynSym := rfl
  have loaded' : filledLibrary.dynsym = some filledDynSym := rfl
  refine ⟨?_, ?_, ?_⟩
  · rw [XdlHandle.getSymbolByAddress_eq (openByAddr_alone (by decide) rfl (by decide)) loaded
      sample_hashes (by decide)]
    decide
  · rw [XdlHandle.getSymbolByAddress_eq (openByAddr_alone (by decide) rfl (by decide)) loaded
      sample_hashes (by decide)]
    decide
  · rw [XdlHandle.getSymbolByAddress_eq (openByAddr_alone (by decide) rfl (by decide)) loaded'
      filled_hashes (by decide)]
    decide

theorem getSymbolByAddress_findSymbol_sample :
    ∃ addr, sampleLibrary.findSymbol (fun _ => 0) 4 "b" = some addr ∧
      XdlHandle.getSymbolByAddress [sampleLibrary] 4 addr = some (.mapped "b") :=
  XdlHandle.getSymbolByAddress_findSymbol rfl sample_defines (by decide) _ (by decide)
    (show _ = some ⟨"b", 0x200, 8, 1, 2⟩ by decide) (by decide) (by decide) (by decide) (by decide)
    (openByAddr_alone (by decide) rfl (by decide))

end QbdiTracer
