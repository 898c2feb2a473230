import QbdiTracer.Core.Symbols
import QbdiTracer.Library.GroupedItems
import QbdiTracer.Library.LinkedChains
import Mathlib.Data.List.Find

/-! The two hash sections over `.dynsym` as a static linker writes them, and the lookups of
xDL in them: both agree with a plain search for the name. -/

namespace QbdiTracer

open WhileLoop GroupedItems LinkedChains

variable {arch : Arch}

/-- The word of a chain for a symbol: its hash, with the lowest bit kept for the mark of the
last one. -/
def chainWord (name : String) (isLast : Bool) : BitVec 32 :=
  (xdlGnuHash name &&& ~~~1#32) ||| (if isLast then 1#32 else 0#32)

theorem chainWord_mark (name : String) (isLast : Bool) :
    chainWord name isLast &&& 1#32 = 0#32 ↔ isLast = false := by
  have cleared : xdlGnuHash name &&& ~~~1#32 &&& 1#32 = 0#32 := by
    rw [BitVec.and_assoc, show ~~~1#32 &&& 1#32 = 0#32 by decide, BitVec.and_zero]
  cases isLast with
  | false => simp only [chainWord, Bool.false_eq_true, if_false, BitVec.or_zero, cleared]
  | true =>
    simp only [chainWord, if_true, Bool.true_eq_false, iff_false]
    intro same
    have bit := congrArg (fun word : BitVec 32 => word[0]) same
    simp at bit

theorem chainWord_hash (name : String) (isLast : Bool) :
    chainWord name isLast ||| 1#32 = xdlGnuHash name ||| 1#32 := by
  ext i inside
  have mark : (if isLast then 1#32 else 0#32)[i] = (isLast && decide (i = 0)) := by
    cases isLast <;> simp
  simp only [chainWord, BitVec.getElem_or, BitVec.getElem_and, BitVec.getElem_not,
    BitVec.getElem_one, mark]
  by_cases first : i = 0 <;> simp [first]

namespace DynSym

/-- The bucket of `.gnu.hash` that a symbol is in. -/
def bucketOf (dyn : DynSym arch) (sym : ElfSym arch) : ℕ :=
  (xdlGnuHash sym.name).toNat % dyn.gnuHash.bucketsCnt.toNat

/-- `.gnu.hash` covers these symbols, which stand at the end of `.dynsym`, bucket after bucket:
the buckets say where their chains begin, and the chains have a word for each symbol. -/
structure Hashes (dyn : DynSym arch) (symbols : List (ElfSym arch)) : Prop where
  buckets : dyn.gnuHash.bucketsCnt ≠ 0#32
  bloomWords : dyn.gnuHash.bloomCnt ≠ 0#32
  reserved : 0 < dyn.gnuHash.symoffset.toNat
  fits : dyn.gnuHash.symoffset.toNat + symbols.length < 2 ^ 32
  defined : ∀ sym ∈ symbols, sym.isDynsymExport = true
  sorted : symbols.Pairwise fun left right => dyn.bucketOf left ≤ dyn.bucketOf right
  placed : ∀ i (inside : i < symbols.length),
    dyn.sym (dyn.gnuHash.symoffset.toNat + i) = symbols[i]
  empty : ∀ b < dyn.gnuHash.bucketsCnt.toNat, group dyn.bucketOf symbols b = [] →
    dyn.gnuHash.bucket arch b = 0#32
  starts : ∀ b < dyn.gnuHash.bucketsCnt.toNat, group dyn.bucketOf symbols b ≠ [] →
    dyn.gnuHash.bucket arch b =
      BitVec.ofNat 32 (dyn.gnuHash.symoffset.toNat + (before dyn.bucketOf symbols b).length)
  chains : ∀ b i (inside : i < (group dyn.bucketOf symbols b).length),
    dyn.gnuHash.chain arch ((before dyn.bucketOf symbols b).length + i) =
      chainWord (group dyn.bucketOf symbols b)[i].name
        (i + 1 = (group dyn.bucketOf symbols b).length)
  bloom : ∀ sym ∈ symbols, dyn.gnuHash.bloomHits arch (xdlGnuHash sym.name) = true

section Gnu

variable {dyn : DynSym arch} {symbols : List (ElfSym arch)} {b : ℕ} {name : String}

theorem Hashes.bucketOf_lt (hashes : dyn.Hashes symbols) (sym : ElfSym arch) :
    dyn.bucketOf sym < dyn.gnuHash.bucketsCnt.toNat :=
  Nat.mod_lt _ (Nat.pos_of_ne_zero fun none => hashes.buckets (BitVec.eq_of_toNat_eq none))

theorem Hashes.bounded (hashes : dyn.Hashes symbols) :
    ∀ sym ∈ symbols, dyn.bucketOf sym < dyn.gnuHash.bucketsCnt.toNat :=
  fun sym _ => hashes.bucketOf_lt sym

/-- Where the symbols of a bucket stand in `.dynsym`. -/
def indices (dyn : DynSym arch) (symbols : List (ElfSym arch)) (b : ℕ) : List (BitVec 32) :=
  (List.range' (dyn.gnuHash.symoffset.toNat + (before dyn.bucketOf symbols b).length)
    (group dyn.bucketOf symbols b).length).map (BitVec.ofNat 32)

theorem length_indices : (dyn.indices symbols b).length = (group dyn.bucketOf symbols b).length := by
  simp [indices]

/-- The place of a symbol is no larger than the number of all. -/
theorem length_group_le (hashes : dyn.Hashes symbols) :
    (before dyn.bucketOf symbols b).length + (group dyn.bucketOf symbols b).length ≤
      symbols.length := by
  have front := (before_isPrefix hashes.sorted (b + 1)).length_le
  rwa [before_group hashes.sorted, List.length_append] at front

theorem Hashes.placed_group (hashes : dyn.Hashes symbols) {i : ℕ}
    (inside : i < (group dyn.bucketOf symbols b).length) :
    dyn.sym (dyn.gnuHash.symoffset.toNat + ((before dyn.bucketOf symbols b).length + i)) =
      (group dyn.bucketOf symbols b)[i] := by
  have bound : (before dyn.bucketOf symbols b).length + i < symbols.length :=
    Nat.lt_of_lt_of_le (Nat.add_lt_add_left inside _) (length_group_le hashes)
  have place := getElem?_group hashes.sorted inside
  rw [List.getElem?_eq_getElem bound, List.getElem?_eq_getElem inside] at place
  rw [hashes.placed _ bound, Option.some.inj place]

/-- The symbols at the places of a bucket are its symbols. -/
theorem Hashes.map_indices (hashes : dyn.Hashes symbols) :
    (dyn.indices symbols b).map (fun n => dyn.sym n.toNat) = group dyn.bucketOf symbols b := by
  refine List.ext_getElem (by simp [indices]) fun i left right => ?_
  have fits := hashes.fits
  have bound := length_group_le hashes (b := b)
  rw [← hashes.placed_group right]
  simp only [indices, List.map_map, List.getElem_map, Function.comp, List.getElem_range',
    BitVec.toNat_ofNat]
  congr 1
  omega

theorem Hashes.bucket_run (hashes : dyn.Hashes symbols) {last : BitVec 32 → Bool}
    (inside : b < dyn.gnuHash.bucketsCnt.toNat) (filled : group dyn.bucketOf symbols b ≠ [])
    (marks : ∀ j < symbols.length,
      last (BitVec.ofNat 32 (dyn.gnuHash.symoffset.toNat + j)) =
        decide (dyn.gnuHash.chain arch j &&& 1#32 ≠ 0#32)) :
    Run (· + 1#32) last (dyn.gnuHash.bucket arch b) (dyn.indices symbols b) := by
  obtain ⟨length, count⟩ := Nat.exists_eq_add_one_of_ne_zero
    (Nat.ne_of_gt (List.length_pos_of_ne_nil filled))
  have bound := length_group_le hashes (b := b)
  -- the mark in the word of the j-th symbol of the bucket
  have marked : ∀ j ≤ length, last (BitVec.ofNat 32 (dyn.gnuHash.symoffset.toNat +
      (before dyn.bucketOf symbols b).length + j)) = decide (j = length) := by
    intro j below
    have here : j < (group dyn.bucketOf symbols b).length := by omega
    rw [Nat.add_assoc, marks _ (by omega), hashes.chains b j here]
    have word := chainWord_mark (group dyn.bucketOf symbols b)[j].name
      (j + 1 = (group dyn.bucketOf symbols b).length)
    rw [decide_eq_decide, ne_eq, word, count]
    simp
  rw [hashes.starts b inside filled, indices, count]
  refine Run.map (@run_range' (fun n => last (BitVec.ofNat 32 n)) _ _ (fun j below => ?_) ?_)
    (BitVec.ofNat 32) (fun n _ => BitVec.ofNat_add n 1) fun n _ => rfl
  · rw [marked j (Nat.le_of_lt below), decide_eq_false (Nat.ne_of_lt below)]
  · rw [marked length (Nat.le_refl _), decide_eq_true rfl]

/-- Where no symbol is in a bucket, its entry is the reserved one, which is not looked at. -/
theorem Hashes.bucket_lt_iff (hashes : dyn.Hashes symbols)
    (inside : b < dyn.gnuHash.bucketsCnt.toNat) :
    dyn.gnuHash.bucket arch b < dyn.gnuHash.symoffset ↔ group dyn.bucketOf symbols b = [] := by
  have fits := hashes.fits
  have bound := length_group_le hashes (b := b)
  constructor
  · intro reserved
    by_contra filled
    rw [hashes.starts _ inside filled, BitVec.lt_def, BitVec.toNat_ofNat] at reserved
    omega
  · intro none
    rw [hashes.empty _ inside none, BitVec.lt_def]
    exact hashes.reserved

/-- The `j`-th symbol's word, as the lookup by name comes to it. -/
theorem Hashes.chain_offset (hashes : dyn.Hashes symbols) {j : ℕ} (inside : j < symbols.length) :
    dyn.gnuHash.chain arch
        (BitVec.ofNat 32 (dyn.gnuHash.symoffset.toNat + j) - dyn.gnuHash.symoffset).toNat =
      dyn.gnuHash.chain arch j := by
  have fits := hashes.fits
  congr 1
  rw [BitVec.toNat_sub, BitVec.toNat_ofNat]
  omega

/-- The test for the mark in that loop. -/
def isChainEnd (dyn : DynSym arch) (i : BitVec 32) : Bool :=
  decide (dyn.gnuHash.chain arch (i - dyn.gnuHash.symoffset).toNat &&& 1#32 ≠ 0#32)

/-- The test for the name, which compares the hashes first. -/
def isNamed (dyn : DynSym arch) (symName : String) (i : BitVec 32) : Bool :=
  decide (xdlGnuHash symName ||| 1#32 =
    dyn.gnuHash.chain arch (i - dyn.gnuHash.symoffset).toNat ||| 1#32 ∧
      (dyn.sym i.toNat).name = symName)

theorem gnuRound_eq (dyn : DynSym arch) (symName : String) :
    dyn.gnuRound symName = searchRound (· + 1#32) dyn.isChainEnd (dyn.isNamed symName) := by
  funext i
  simp only [gnuRound, searchRound, isNamed, isChainEnd, decide_eq_true_eq]

/-- The comparison of the hashes turns no symbol of the name away. -/
theorem Hashes.find?_indices (hashes : dyn.Hashes symbols) (symName : String) :
    ((dyn.indices symbols b).find? (dyn.isNamed symName)).map (fun n => dyn.sym n.toNat) =
      (group dyn.bucketOf symbols b).find? fun sym => sym.name = symName := by
  have fits := hashes.fits
  have bound := length_group_le hashes (b := b)
  have agree : ∀ n ∈ dyn.indices symbols b,
      dyn.isNamed symName n = decide ((dyn.sym n.toNat).name = symName) := by
    intro n member
    obtain ⟨place, listed, rfl⟩ := List.mem_map.mp member
    obtain ⟨i, here, rfl⟩ := List.mem_range'.mp listed
    have inside : (before dyn.bucketOf symbols b).length + i < symbols.length := by omega
    rw [isNamed, decide_eq_decide, Nat.one_mul, Nat.add_assoc, hashes.chain_offset inside,
      hashes.chains b i here, chainWord_hash, BitVec.toNat_ofNat, Nat.mod_eq_of_lt (by omega),
      hashes.placed_group here]
    constructor
    · exact And.right
    · intro same
      exact ⟨by rw [same], same⟩
  rw [← hashes.map_indices, List.find?_map]
  congr 1
  exact List.find?_congr agree

/-- The lookup through the bloom filter and the chain of one bucket finds what a search through
all the symbols finds. -/
theorem Hashes.findSymbolUseGnuHash (hashes : dyn.Hashes symbols) {fuel : ℕ}
    (enough : symbols.length ≤ fuel) (symName : String) :
    ∃ found, dyn.findSymbolUseGnuHash fuel symName = some found ∧
      found.map (fun n => dyn.sym n.toNat) = symbols.find? fun sym => sym.name = symName := by
  have own : ∀ sym : ElfSym arch, decide (sym.name = symName) = true →
      dyn.bucketOf sym = (xdlGnuHash symName).toNat % dyn.gnuHash.bucketsCnt.toNat := by
    intro sym same
    rw [bucketOf, of_decide_eq_true same]
  have inside : (xdlGnuHash symName).toNat % dyn.gnuHash.bucketsCnt.toNat <
      dyn.gnuHash.bucketsCnt.toNat :=
    hashes.bucketOf_lt ⟨symName, 0, 0, 0, 0⟩
  rw [← find?_group own, DynSym.findSymbolUseGnuHash]
  cases filtered : dyn.gnuHash.bloomHits arch (xdlGnuHash symName) with
  | false =>
    refine ⟨none, rfl, Eq.symm ?_⟩
    rw [find?_group own, Option.map_none, List.find?_eq_none]
    intro sym member same
    have passes := hashes.bloom sym member
    rw [of_decide_eq_true same, filtered] at passes
    cases passes
  | true =>
    simp only [Bool.not_true, Bool.false_eq_true, if_false]
    by_cases listed : group dyn.bucketOf symbols
        ((xdlGnuHash symName).toNat % dyn.gnuHash.bucketsCnt.toNat) = []
    · exact ⟨none, if_pos ((hashes.bucket_lt_iff inside).mpr listed), by rw [listed]; rfl⟩
    · have bound := length_group_le hashes
        (b := (xdlGnuHash symName).toNat % dyn.gnuHash.bucketsCnt.toNat)
      have run : Run (· + 1#32) dyn.isChainEnd _ _ :=
        hashes.bucket_run inside listed fun j below => by rw [isChainEnd, hashes.chain_offset below]
      have short : (dyn.indices symbols
          ((xdlGnuHash symName).toNat % dyn.gnuHash.bucketsCnt.toNat)).length ≤ fuel := by
        rw [length_indices]
        omega
      have reached : iterate (searchRound _ _ (dyn.isNamed symName)) fuel _ = _ := run.search short
      rw [if_neg fun reserved => listed ((hashes.bucket_lt_iff inside).mp reserved), gnuRound_eq]
      exact ⟨_, reached, hashes.find?_indices symName⟩

end Gnu

section Sysv

variable {dyn : DynSym arch} {fuel : ℕ}

/-- A link of `.hash`. -/
def follow (dyn : DynSym arch) (i : BitVec 32) : Except Empty (BitVec 32) :=
  .ok (dyn.sysvHash.chain i)

/-- `.hash` strings the symbols of each bucket together, all of `.dynsym` but the null symbol. -/
structure Chained (dyn : DynSym arch) : Prop where
  buckets : dyn.sysvHash.bucketsCnt ≠ 0#32
  strung : ∀ b < dyn.sysvHash.bucketsCnt.toNat, ∃ items,
    Chain dyn.follow 0#32 (dyn.sysvHash.bucket b) items ∧
      items.length ≤ dyn.sysvHash.chainsCnt.toNat ∧
      ∀ n, n ∈ items ↔ n ≠ 0#32 ∧ n < dyn.sysvHash.chainsCnt ∧
        (xdlSysvHash (dyn.sym n.toNat).name).toNat % dyn.sysvHash.bucketsCnt.toNat = b

theorem iterate_sysvRound {i : BitVec 32} {items : List (BitVec 32)}
    (chain : Chain dyn.follow 0#32 i items) (enough : items.length < fuel) (symName : String) :
    iterate (dyn.sysvRound symName) fuel i =
      some (items.find? fun n => (dyn.sym n.toNat).name = symName) := by
  induction chain generalizing fuel with
  | ended =>
    obtain ⟨fuel, rfl⟩ := Nat.exists_eq_add_one_of_ne_zero (Nat.ne_of_gt enough)
    exact iterate_leave (by simp [sysvRound]) fuel
  | @link i next rest going leads tail ih =>
    obtain ⟨fuel, rfl⟩ := Nat.exists_eq_add_one_of_ne_zero (Nat.ne_of_gt (Nat.zero_lt_of_lt enough))
    cases leads
    by_cases same : (dyn.sym i.toNat).name = symName
    · rw [List.find?_cons_of_pos (by simpa using same)]
      exact iterate_leave (by simp [sysvRound, going, same]) fuel
    · have goes : dyn.sysvRound symName i = .again (dyn.sysvHash.chain i) := by
        simp [sysvRound, going, same]
      rw [iterate_again goes, ih (Nat.lt_of_succ_lt_succ enough), List.find?_cons_of_neg (by simpa)]

/-- The lookup in `.hash` finds a symbol of the name if `.dynsym` has one. -/
theorem Chained.findSymbolUseSysvHash (chained : dyn.Chained)
    (enough : dyn.sysvHash.chainsCnt.toNat < fuel) (symName : String) :
    ∃ found, dyn.findSymbolUseSysvHash fuel symName = some found ∧
      (∀ n ∈ found, n ≠ 0#32 ∧ n < dyn.sysvHash.chainsCnt ∧ (dyn.sym n.toNat).name = symName) ∧
      (found = none → ∀ n, n ≠ 0#32 → n < dyn.sysvHash.chainsCnt →
        (dyn.sym n.toNat).name ≠ symName) := by
  have inside : (xdlSysvHash symName).toNat % dyn.sysvHash.bucketsCnt.toNat <
      dyn.sysvHash.bucketsCnt.toNat :=
    Nat.mod_lt _ (Nat.pos_of_ne_zero fun none => chained.buckets (BitVec.eq_of_toNat_eq none))
  obtain ⟨items, chain, short, listed⟩ := chained.strung _ inside
  refine ⟨_, iterate_sysvRound chain (Nat.lt_of_le_of_lt short enough) symName, ?_, ?_⟩
  · intro n found
    obtain ⟨nonnull, bound, -⟩ := (listed n).mp (List.mem_of_find?_eq_some found)
    have same := List.find?_some (Option.mem_def.mp found)
    exact ⟨nonnull, bound, of_decide_eq_true same⟩
  · intro absent n nonnull bound same
    have member : n ∈ items := (listed n).mpr ⟨nonnull, bound, by rw [same]⟩
    exact List.find?_eq_none.mp absent n member (decide_eq_true same)

end Sysv

/-- `.dynsym` with these defined symbols: `.gnu.hash` covers them, and `.hash`, where the
library has it too, has no others but imports. -/
structure Defines (dyn : DynSym arch) (symbols : List (ElfSym arch)) : Prop where
  hashes : dyn.Hashes symbols
  chained : dyn.sysvHash.bucketsCnt ≠ 0#32 → dyn.Chained
  covered : ∀ n < dyn.sysvHash.chainsCnt, (dyn.sym n.toNat).isDynsymExport = true →
    dyn.sym n.toNat ∈ symbols

/-- A number of rounds in which every loop is over. -/
def rounds (dyn : DynSym arch) (symbols : List (ElfSym arch)) : ℕ :=
  dyn.gnuHash.symoffset.toNat + symbols.length + dyn.sysvHash.chainsCnt.toNat + 1

/-- The second lookup brings nothing but imports. -/
theorem Defines.findSymbol {dyn : DynSym arch} {symbols : List (ElfSym arch)}
    (defines : dyn.Defines symbols) {fuel : ℕ} (enough : dyn.rounds symbols ≤ fuel)
    (symbol : String) :
    ∃ found, dyn.findSymbol fuel symbol = some found ∧
      (found.map fun n => dyn.sym n.toNat).filter ElfSym.isDynsymExport =
        symbols.find? fun sym => sym.name = symbol := by
  rw [rounds] at enough
  obtain ⟨gnu, looked, agrees⟩ := defines.hashes.findSymbolUseGnuHash (show _ ≤ fuel by omega) symbol
  rw [DynSym.findSymbol, if_pos defines.hashes.buckets, looked]
  simp only [Option.bind_eq_bind, Option.bind_some]
  cases gnu with
  | some n =>
    have exported : (dyn.sym n.toNat).isDynsymExport = true :=
      defines.hashes.defined _ (List.mem_of_find?_eq_some agrees.symm)
    refine ⟨some n, by simp, ?_⟩
    rw [← agrees, Option.map_some, Option.filter_some, if_pos exported]
  | none =>
    by_cases second : dyn.sysvHash.bucketsCnt = 0#32
    · exact ⟨none, by simp [second], agrees⟩
    · obtain ⟨found, searched, named, -⟩ :=
        (defines.chained second).findSymbolUseSysvHash (show _ < fuel by omega) symbol
      refine ⟨found, by simp [second, searched], ?_⟩
      rw [← agrees, Option.map_none, Option.filter_eq_none_iff]
      intro sym found exported
      obtain ⟨n, here, rfl⟩ := Option.map_eq_some_iff.mp found
      obtain ⟨-, bound, same⟩ := named n here
      exact List.find?_eq_none.mp agrees.symm _ (defines.covered n bound exported)
        (decide_eq_true same)

end DynSym

namespace XdlHandle

/-- `xdl_sym` answers with the first defined symbol of the name, as a search without hashes does,
and with null if there is none. -/
theorem xdlSym_eq {self : XdlHandle arch} {dyn : DynSym arch} {symbols : List (ElfSym arch)}
    (loaded : self.dynsym = some dyn) (defines : dyn.Defines symbols) {fuel : ℕ}
    (enough : dyn.rounds symbols ≤ fuel) (ifunc : Resolver arch) (symbol : String) :
    self.xdlSym ifunc fuel symbol =
      some ((symbols.find? fun sym => sym.name = symbol).elim 0
        (self.resolveSymbolAddress ifunc)) := by
  obtain ⟨found, looked, agrees⟩ := defines.findSymbol enough symbol
  rw [← agrees, xdlSym, loaded]
  simp only [looked, Option.bind_eq_bind, Option.bind_some]
  cases found with
  | none => rfl
  | some n =>
    cases exported : (dyn.sym n.toNat).isDynsymExport with
    | false => simp [Option.filter, exported]
    | true => simp [Option.filter, exported]

/-- `find_symbol` answers as two plain searches would, through the defined symbols of `.dynsym`
and, where these bring nothing, through `.symtab`. -/
theorem findSymbol_defined {self : XdlHandle arch} {dyn : DynSym arch}
    {symbols : List (ElfSym arch)} (loaded : self.dynsym = some dyn) (defines : dyn.Defines symbols)
    {fuel : ℕ} (enough : dyn.rounds symbols ≤ fuel) (ifunc : Resolver arch) {symbolName : String}
    (named : symbolName ≠ "") :
    self.findSymbol ifunc fuel symbolName =
      some (match (symbols.find? fun sym => sym.name = symbolName).map
          (self.resolveSymbolAddress ifunc) with
        | some addr => if addr = 0 then self.xdlDsym symbolName else addr
        | none => self.xdlDsym symbolName) := by
  have nonempty : ¬ symbolName.isEmpty = true := by simpa using named
  rw [findSymbol, if_neg nonempty, xdlSym_eq loaded defines enough]
  cases symbols.find? fun sym => sym.name = symbolName with
  | none => rfl
  | some sym =>
    simp only [Option.elim_some, Option.map_some, Option.bind_eq_bind, Option.bind_some]
    split <;> rfl

end XdlHandle

def sampleSymbols : List (ElfSym .aarch64) := [⟨"a", 0x100, 8, 1, 2⟩, ⟨"b", 0x200, 8, 1, 2⟩]

/-- Two functions under a `.gnu.hash` of these words. -/
def hashedWords (words : List (BitVec 32)) : DynSym .aarch64 where
  sym i := (⟨"", 0, 0, 0, 0⟩ :: sampleSymbols).getD i ⟨"", 0, 0, 0, 0⟩
  gnuHash := ⟨fun i => words.getD i.toNat 0⟩

/-- Three buckets, the first of which is empty. -/
def sampleDynSym : DynSym .aarch64 :=
  hashedWords [3, 1, 1, 6, 0xffffffff, 0xffffffff, 0, 1, 2, chainWord "a" true, chainWord "b" true]

/-- One bucket for both functions. -/
def filledDynSym : DynSym .aarch64 :=
  hashedWords [1, 1, 1, 6, 0xffffffff, 0xffffffff, 1, chainWord "a" false, chainWord "b" true]

def sampleLibrary : XdlHandle .aarch64 where
  pathname := "/system/lib64/libab.so"
  loadBias := 0x70000000
  segments := [(0, 0x1000)]
  dynsym := some sampleDynSym
  symtab := none

theorem lt_of_group {bucketOf : ElfSym .aarch64 → ℕ} {count b i : ℕ}
    (bounded : ∀ sym ∈ sampleSymbols, bucketOf sym < count)
    (inside : i < (group bucketOf sampleSymbols b).length) : b < count := by
  obtain ⟨member, own⟩ := mem_group.mp (List.getElem_mem inside)
  exact own ▸ bounded _ member

/-- A second library, with a function that only `.symtab` has. -/
def filledLibrary : XdlHandle .aarch64 where
  pathname := "/system/lib64/libabc.so"
  loadBias := 0x70000000
  segments := [(0, 0x1000)]
  dynsym := some filledDynSym
  symtab := some [⟨"c", 0x300, 8, 1, 2⟩]

theorem sample_hashes : sampleDynSym.Hashes sampleSymbols where
  buckets := by decide
  bloomWords := by decide
  reserved := by decide
  fits := by decide
  defined := by decide
  sorted := by decide
  placed := by decide
  empty := by decide
  starts := by decide
  chains := by
    have inBuckets : ∀ b < 3, ∀ i (inside : i < (group sampleDynSym.bucketOf sampleSymbols b).length),
        sampleDynSym.gnuHash.chain .aarch64
            ((before sampleDynSym.bucketOf sampleSymbols b).length + i) =
          chainWord (group sampleDynSym.bucketOf sampleSymbols b)[i].name
            (i + 1 = (group sampleDynSym.bucketOf sampleSymbols b).length) := by decide
    intro b i inside
    exact inBuckets b (lt_of_group (by decide) inside) i inside
  bloom := by decide

theorem filled_hashes : filledDynSym.Hashes sampleSymbols where
  buckets := by decide
  bloomWords := by decide
  reserved := by decide
  fits := by decide
  defined := by decide
  sorted := by decide
  placed := by decide
  empty := by decide
  starts := by decide
  chains := by
    have inBuckets : ∀ b < 1, ∀ i (inside : i < (group filledDynSym.bucketOf sampleSymbols b).length),
        filledDynSym.gnuHash.chain .aarch64
            ((before filledDynSym.bucketOf sampleSymbols b).length + i) =
          chainWord (group filledDynSym.bucketOf sampleSymbols b)[i].name
            (i + 1 = (group filledDynSym.bucketOf sampleSymbols b).length) := by decide
    intro b i inside
    exact inBuckets b (lt_of_group (by decide) inside) i inside
  bloom := by decide

theorem sample_defines : sampleDynSym.Defines sampleSymbols where
  hashes := sample_hashes
  chained present := absurd rfl present
  covered _ inside := absurd inside BitVec.not_lt_zero

/-- The second name is not in `.gnu.hash`, and there is no `.symtab`. -/
theorem findSymbol_defined_sample :
    sampleLibrary.findSymbol (fun _ => 0) 4 "b" = some 0x70000200 ∧
      sampleLibrary.findSymbol (fun _ => 0) 4 "c" = some 0 :=
  ⟨XdlHandle.findSymbol_defined rfl sample_defines (by decide) _ (by decide),
    XdlHandle.findSymbol_defined rfl sample_defines (by decide) _ (by decide)⟩

end QbdiTracer
