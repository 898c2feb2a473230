import QbdiTracer.Library.WhileLoop
import QbdiTracer.Machine
import Mathlib.Data.Int.Notation

/-! The symbol tables of a loaded library as xDL reads them (`xdl.c`), and what
`core/library.cpp` makes of them: `find_symbol`, `enumerate_exports` and
`get_symbol_by_address`. -/

namespace QbdiTracer

open WhileLoop

variable {arch : Arch}

/-- `ElfW(Sym)`, with the text that `st_name` points at. -/
structure ElfSym (arch : Arch) where
  name : String
  value : Word arch
  size : Word arch := 0
  shndx : BitVec 16
  /-- `ELF_ST_TYPE(st_info)`. -/
  type : BitVec 4
  deriving DecidableEq

namespace ElfSym

/-- `STT_TLS`. -/
def sttTls : BitVec 4 := 6

/-- `STT_GNU_IFUNC`. -/
def sttGnuIfunc : BitVec 4 := 10

/-- `XDL_DYNSYM_IS_EXPORT_SYM`. -/
def isDynsymExport (sym : ElfSym arch) : Bool := sym.shndx != 0

/-- `XDL_SYMTAB_IS_EXPORT_SYM`: no reserved section index either. -/
def isSymtabExport (sym : ElfSym arch) : Bool :=
  sym.shndx != 0 && !(decide (0xff00#16 ≤ sym.shndx) && decide (sym.shndx ≤ 0xffff#16))

end ElfSym

/-- The next byte of a name, read as a `uint8_t`. -/
def hashByte (c : Char) : BitVec 32 := (BitVec.ofNat 8 c.toNat).setWidth 32

def xdlSysvHash (name : String) : BitVec 32 :=
  name.toList.foldl (fun h c =>
    let h := (h <<< 4) + hashByte c
    let g := h &&& 0xf0000000
    let h := h ^^^ g
    h ^^^ (g >>> 24)) 0

def xdlGnuHash (name : String) : BitVec 32 :=
  name.toList.foldl (fun h c => h + ((h <<< 5) + hashByte c)) 5381

/-- `gnu_hash`: the words of the image, counted from the place that `DT_GNU_HASH` points at.
Without that entry they are zero. -/
structure GnuHash where
  word : ℤ → BitVec 32

namespace GnuHash

def bucketsCnt (gnu : GnuHash) : BitVec 32 := gnu.word 0

def symoffset (gnu : GnuHash) : BitVec 32 := gnu.word 1

def bloomCnt (gnu : GnuHash) : BitVec 32 := gnu.word 2

def bloomShift (gnu : GnuHash) : BitVec 32 := gnu.word 3

/-- `bloom[i]`, an `ElfW(Addr)`. -/
def bloom (gnu : GnuHash) (arch : Arch) (i : ℕ) : Word arch :=
  match arch with
  | .arm => gnu.word (4 + i)
  | .aarch64 => gnu.word (5 + 2 * i) ++ gnu.word (4 + 2 * i)

/-- Where `buckets` begins, behind `bloom`. -/
def bucketsAt (gnu : GnuHash) (arch : Arch) : ℕ := 4 + gnu.bloomCnt.toNat * (arch.wordBytes / 4)

def bucket (gnu : GnuHash) (arch : Arch) (i : ℕ) : BitVec 32 := gnu.word (gnu.bucketsAt arch + i : ℕ)

/-- Where `chains` begins, behind `buckets`. -/
def chainsAt (gnu : GnuHash) (arch : Arch) : ℕ := gnu.bucketsAt arch + gnu.bucketsCnt.toNat

def chain (gnu : GnuHash) (arch : Arch) (i : ℕ) : BitVec 32 := gnu.word (gnu.chainsAt arch + i : ℕ)

/-- `chains_all[n]`, of a pointer that lies `symoffset` words before `chains`. -/
def chainsAll (gnu : GnuHash) (arch : Arch) (n : BitVec 32) : BitVec 32 :=
  gnu.word (gnu.chainsAt arch - gnu.symoffset.toNat + n.toNat)

/-- Both bits of a hash are set in the bloom filter. -/
def bloomHits (gnu : GnuHash) (arch : Arch) (hash : BitVec 32) : Bool :=
  let elfclassBits := arch.wordBits
  let word := gnu.bloom arch ((hash.toNat / elfclassBits) % gnu.bloomCnt.toNat)
  let mask : Word arch := 1#_ <<< (hash.toNat % elfclassBits) |||
    1#_ <<< ((hash >>> gnu.bloomShift.toNat).toNat % elfclassBits)
  word &&& mask == mask

end GnuHash

/-- `sysv_hash`: the words from the place that `DT_HASH` points at. -/
structure SysvHash where
  word : ℕ → BitVec 32

namespace SysvHash

def bucketsCnt (sysv : SysvHash) : BitVec 32 := sysv.word 0

def chainsCnt (sysv : SysvHash) : BitVec 32 := sysv.word 1

def bucket (sysv : SysvHash) (i : ℕ) : BitVec 32 := sysv.word (2 + i)

def chain (sysv : SysvHash) (i : BitVec 32) : BitVec 32 :=
  sysv.word (2 + sysv.bucketsCnt.toNat + i.toNat)

end SysvHash

/-- What `xdl_dynsym_load` finds: `.dynsym` with its names, and the hash sections. -/
structure DynSym (arch : Arch) where
  sym : ℕ → ElfSym arch
  gnuHash : GnuHash := ⟨fun _ => 0⟩
  sysvHash : SysvHash := ⟨fun _ => 0⟩

namespace DynSym

/-- One round of the loop in `xdl_dynsym_find_symbol_use_gnu_hash`. -/
def gnuRound (dyn : DynSym arch) (symName : String) (i : BitVec 32) :
    Round (BitVec 32) (Option (BitVec 32)) :=
  let symHash := dyn.gnuHash.chain arch (i - dyn.gnuHash.symoffset).toNat
  if xdlGnuHash symName ||| 1#32 = symHash ||| 1#32 ∧ (dyn.sym i.toNat).name = symName then
    .leave (some i)
  else if symHash &&& 1#32 ≠ 0#32 then .leave none
  else .again (i + 1#32)

/-- `xdl_dynsym_find_symbol_use_gnu_hash`; no result if the loop is not left within `fuel`
rounds. -/
def findSymbolUseGnuHash (dyn : DynSym arch) (fuel : ℕ) (symName : String) :
    Option (Option (BitVec 32)) :=
  let hash := xdlGnuHash symName
  if !dyn.gnuHash.bloomHits arch hash then some none
  else
    let i := dyn.gnuHash.bucket arch (hash.toNat % dyn.gnuHash.bucketsCnt.toNat)
    if i < dyn.gnuHash.symoffset then some none
    else iterate (dyn.gnuRound symName) fuel i

/-- One round of the loop in `xdl_dynsym_find_symbol_use_sysv_hash`. -/
def sysvRound (dyn : DynSym arch) (symName : String) (i : BitVec 32) :
    Round (BitVec 32) (Option (BitVec 32)) :=
  if i = 0#32 then .leave none
  else if (dyn.sym i.toNat).name ≠ symName then .again (dyn.sysvHash.chain i)
  else .leave (some i)

def findSymbolUseSysvHash (dyn : DynSym arch) (fuel : ℕ) (symName : String) :
    Option (Option (BitVec 32)) :=
  iterate (dyn.sysvRound symName) fuel
    (dyn.sysvHash.bucket ((xdlSysvHash symName).toNat % dyn.sysvHash.bucketsCnt.toNat))

/-- The two lookups of `xdl_sym`, one after the other. -/
def findSymbol (dyn : DynSym arch) (fuel : ℕ) (symbol : String) : Option (Option (BitVec 32)) := do
  let gnu ← if dyn.gnuHash.bucketsCnt ≠ 0#32 then dyn.findSymbolUseGnuHash fuel symbol else some none
  if gnu.isNone ∧ dyn.sysvHash.bucketsCnt ≠ 0#32 then dyn.findSymbolUseSysvHash fuel symbol
  else return gnu

end DynSym

/-- `xdl_t`, with the segments of the library and the tables that are loaded on the first use. -/
structure XdlHandle (arch : Arch) where
  pathname : String
  loadBias : Word arch
  /-- `p_vaddr` and `p_memsz` of the `PT_LOAD` segments. -/
  segments : List (Word arch × Word arch) := []
  /-- `none` when `xdl_dynsym_load` fails. -/
  dynsym : Option (DynSym arch)
  /-- `none` when `xdl_symtab_load` fails. -/
  symtab : Option (List (ElfSym arch))

namespace XdlHandle

/-- What the resolver at an address returns when it is called, 0 if it cannot be. -/
abbrev Resolver (arch : Arch) := Word arch → Word arch

def resolveSymbolAddress (self : XdlHandle arch) (ifunc : Resolver arch) (sym : ElfSym arch) :
    Word arch :=
  if sym.type = ElfSym.sttTls then 0
  else if sym.type = ElfSym.sttGnuIfunc then ifunc (self.loadBias + sym.value)
  else self.loadBias + sym.value

/-- `xdl_sym`; 0 is `NULL`. -/
def xdlSym (self : XdlHandle arch) (ifunc : Resolver arch) (fuel : ℕ) (symbol : String) :
    Option (Word arch) :=
  match self.dynsym with
  | none => some 0
  | some dyn => do
    match ← dyn.findSymbol fuel symbol with
    | none => return 0
    | some i =>
      let sym := dyn.sym i.toNat
      if !sym.isDynsymExport then return 0
      else return self.resolveSymbolAddress ifunc sym

/-- `xdl_dsym_is_match`. -/
def dsymIsMatch (str sym : List Char) : Bool :=
  if str.length = 0 then false
  else if str.length < sym.length then false
  else
    let symLenMatch := str.take sym.length == sym
    if str.length = sym.length then symLenMatch
    else symLenMatch && (str[sym.length]? == some '.' || str[sym.length]? == some '$')

def isDsymMatch (symbol : String) (sym : ElfSym arch) : Bool :=
  sym.isSymtabExport && dsymIsMatch sym.name.toList symbol.toList

def xdlDsym (self : XdlHandle arch) (symbol : String) : Word arch :=
  match self.symtab with
  | none => 0
  | some symbols =>
    match symbols.find? (isDsymMatch symbol) with
    | none => 0
    | some sym => self.loadBias + sym.value

/-- `Library::find_symbol`. -/
def findSymbol (self : XdlHandle arch) (ifunc : Resolver arch) (fuel : ℕ) (symbolName : String) :
    Option (Word arch) :=
  if symbolName.isEmpty then some 0
  else do
    let addr ← self.xdlSym ifunc fuel symbolName
    if addr = 0 then return self.xdlDsym symbolName else return addr

/-- The arguments of one call of the callback. -/
abbrev Export (arch : Arch) := String × Word arch

def exportOf (self : XdlHandle arch) (ifunc : Resolver arch) (sym : ElfSym arch) : Export arch :=
  (sym.name, self.resolveSymbolAddress ifunc sym)

/-- One round of the `do` loop in `xdl_enumerate_exports`. The word that ends it is read at any
index, also before the first chain. -/
def exportRound (self : XdlHandle arch) (ifunc : Resolver arch) (dyn : DynSym arch)
    (state : List (Export arch) × BitVec 32) :
    Round (List (Export arch) × BitVec 32) (List (Export arch)) :=
  let reported := state.1 ++ [self.exportOf ifunc (dyn.sym state.2.toNat)]
  if dyn.gnuHash.chainsAll arch state.2 &&& 1#32 = 0#32 then .again (reported, state.2 + 1#32)
  else .leave reported

/-- The calls for `.dynsym`. -/
def enumerateDynsym (self : XdlHandle arch) (ifunc : Resolver arch) (fuel : ℕ) (dyn : DynSym arch) :
    Option (List (Export arch)) :=
  if dyn.gnuHash.bucketsCnt ≠ 0#32 then
    (List.range dyn.gnuHash.bucketsCnt.toNat).foldlM (fun reported i =>
      iterate (self.exportRound ifunc dyn) fuel (reported, dyn.gnuHash.bucket arch i)) []
  else
    some ((List.range dyn.sysvHash.chainsCnt.toNat).map fun i =>
      self.exportOf ifunc (dyn.sym i))

/-- The calls for `.symtab`. -/
def enumerateSymtab (self : XdlHandle arch) : List (Export arch) :=
  ((self.symtab.getD []).filter ElfSym.isSymtabExport).map fun sym =>
    (sym.name, self.loadBias + sym.value)

/-- `Library::enumerate_exports`: the calls of the callback. -/
def enumerateExports (self : XdlHandle arch) (ifunc : Resolver arch) (fuel : ℕ) :
    Option (List (Export arch)) :=
  match self.dynsym with
  | none => some []
  | some dyn => (self.enumerateDynsym ifunc fuel dyn).map (· ++ self.enumerateSymtab)

/-- `xdl_sym_is_match`. The ARM build is compiled to thumb instructions. -/
def symIsMatch (sym : ElfSym arch) (offset : Word arch) (isSymtab : Bool) : Bool :=
  let exported := if isSymtab then sym.isSymtabExport else sym.isDynsymExport
  let fixed : Word arch := match arch with | .arm => sym.value &&& ~~~1#_ | .aarch64 => sym.value
  exported && sym.type != ElfSym.sttTls && (decide (fixed ≤ offset) &&
    decide (offset < fixed + sym.size))

/-- One round of the `do` loop in `xdl_sym_by_addr`. -/
def addrRound (dyn : DynSym arch) (offset : Word arch) (n : BitVec 32) :
    Round (BitVec 32) (Option (BitVec 32)) :=
  if symIsMatch (dyn.sym n.toNat) offset false then .leave (some n)
  else if dyn.gnuHash.chainsAll arch n &&& 1#32 = 0#32 then .again (n + 1#32)
  else .leave none

/-- The buckets one after the other; an empty one is passed over. -/
def symByAddrBuckets (fuel : ℕ) (dyn : DynSym arch) (offset : Word arch) :
    List ℕ → Option (Option (BitVec 32))
  | [] => some none
  | i :: rest =>
    let n := dyn.gnuHash.bucket arch i
    if n < dyn.gnuHash.symoffset then symByAddrBuckets fuel dyn offset rest
    else do
      match ← iterate (addrRound dyn offset) fuel n with
      | some found => return some found
      | none => symByAddrBuckets fuel dyn offset rest

/-- `xdl_sym_by_addr`. -/
def symByAddr (self : XdlHandle arch) (fuel : ℕ) (addr : Word arch) : Option (Option (ElfSym arch)) :=
  match self.dynsym with
  | none => some none
  | some dyn =>
    let offset := addr - self.loadBias
    if dyn.gnuHash.bucketsCnt ≠ 0#32 then
      (symByAddrBuckets fuel dyn offset (List.range dyn.gnuHash.bucketsCnt.toNat)).map
        (Option.map fun n => dyn.sym n.toNat)
    else
      some (((List.range dyn.sysvHash.chainsCnt.toNat).map dyn.sym).find?
        (symIsMatch · offset false))

/-- `xdl_dsym_by_addr`. -/
def dsymByAddr (self : XdlHandle arch) (addr : Word arch) : Option (ElfSym arch) :=
  (self.symtab.getD []).find? (symIsMatch · (addr - self.loadBias) true)

/-- `xdl_elf_is_match`. -/
def elfIsMatch (self : XdlHandle arch) (addr : Word arch) : Bool :=
  if addr < self.loadBias then false
  else self.segments.any fun (vaddr, memsz) =>
    decide (vaddr ≤ addr - self.loadBias) && decide (addr - self.loadBias < vaddr + memsz)

/-- `xdl_open_by_addr`, on the libraries in the order of `dl_iterate_phdr`. -/
def openByAddr (phdrs : List (XdlHandle arch)) (addr : Word arch) : Option (XdlHandle arch) :=
  if addr = 0 then none
  else phdrs.find? fun library => library.loadBias != 0 && library.elfIsMatch addr

/-- Where the text is that `Library::get_symbol_by_address` copies into its result. It does so after
`xdl_addr_clean`, which frees the handle with what was read for it. -/
inductive SymbolText where
  /-- In `.dynstr`, which is mapped with the library. Also the empty text. -/
  | mapped (name : String)
  /-- In `.strtab`, which was on the heap. -/
  | freed
  deriving DecidableEq

/-- `Library::get_symbol_by_address`, with the symbol that `xdl_addr` finds. -/
def getSymbolByAddress (phdrs : List (XdlHandle arch)) (fuel : ℕ) (address : Word arch) :
    Option SymbolText :=
  match openByAddr phdrs address with
  | none => some (.mapped "")
  | some handle => do
    match ← handle.symByAddr fuel address with
    | some sym => return .mapped sym.name
    | none =>
      match handle.dsymByAddr address with
      | some _ => return .freed
      | none => return .mapped ""

end XdlHandle

end QbdiTracer
