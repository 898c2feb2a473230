import QbdiTracer.Core.Symbols
import QbdiTracer.Core.Xdl
import QbdiTracer.TracerManager

/-! The loaded libraries as `init` reaches them: `find_library` goes through xDL by name or by
address, the size comes from the linker's list, the symbols from the tables of the file. -/

namespace QbdiTracer

variable {arch : Arch}

/-- What xDL reads of a mapped library. -/
structure ElfImage (arch : Arch) where
  segments : List (Word arch × Word arch) := []
  dynsym : Option (DynSym arch) := none
  symtab : Option (List (ElfSym arch)) := none

/-- The libraries of a process. -/
structure LoadedLibraries (arch : Arch) where
  auxv : String → Option (Soinfo arch)
  /-- In the order of `dl_iterate_phdr`. -/
  phdrs : List (Soinfo arch)
  solist : List (Soinfo arch)
  sdk : ℤ
  image : Soinfo arch → ElfImage arch
  ifunc : XdlHandle.Resolver arch
  /-- What a name reads as that is copied from freed memory. -/
  freedText : Word arch → String

/-- The library as the tracer is given it; the size is what `get_library_size` returns. -/
def Library.loaded (library : Library arch) (size : Word arch) (findSymbol : String → Word arch)
    (symbolByAddress : Word arch → String) : LoadedLibrary arch :=
  ⟨library.libraryName, library.getLoadBias, size, findSymbol, symbolByAddress⟩

theorem Library.getLibraryRange_loaded {library : Library arch} {solist : List (Soinfo arch)}
    {sdk : ℤ} {size : Word arch} (sized : library.getLibrarySize solist sdk = .ok size)
    (findSymbol : String → Word arch) (symbolByAddress : Word arch → String) :
    library.getLibraryRange solist sdk =
      .ok (library.loaded size findSymbol symbolByAddress).getLibraryRange := by
  rw [getLibraryRange, sized]
  rfl

namespace LoadedLibraries

def handle (libraries : LoadedLibraries arch) (so : Soinfo arch) : XdlHandle arch where
  pathname := so.realpath
  loadBias := so.loadBias
  segments := (libraries.image so).segments
  dynsym := (libraries.image so).dynsym
  symtab := (libraries.image so).symtab

/-- `find_symbol`; a lookup that does not end in `fuel` rounds finds nothing. -/
def findSymbol (libraries : LoadedLibraries arch) (fuel : ℕ) (so : Soinfo arch) (symbol : String) :
    Word arch :=
  ((libraries.handle so).findSymbol libraries.ifunc fuel symbol).getD 0

def symbolByAddress (libraries : LoadedLibraries arch) (fuel : ℕ) (address : Word arch) : String :=
  match XdlHandle.getSymbolByAddress (libraries.phdrs.map libraries.handle) fuel address with
  | some (.mapped name) => name
  | some .freed => libraries.freedText address
  | none => ""

/-- `find_library(name)`, with what the tracer asks of the library. None too where
`get_library_size` dereferences null. -/
def findLibrary (libraries : LoadedLibraries arch) (fuel : ℕ) (name : String) :
    Option (LoadedLibrary arch) := do
  let library ← Library.findLibrary libraries.auxv libraries.phdrs name
  let size ← (library.getLibrarySize libraries.solist libraries.sdk).toOption
  return library.loaded size (libraries.findSymbol fuel library.handler)
    (libraries.symbolByAddress fuel)

/-- `find_library(address)`: the library over the address is looked up again by its path. -/
def findLibraryAt (libraries : LoadedLibraries arch) (fuel : ℕ) (address : Word arch) :
    Option (LoadedLibrary arch) := do
  let opened ← XdlHandle.openByAddr (libraries.phdrs.map libraries.handle) address
  libraries.findLibrary fuel opened.pathname

def loader (libraries : LoadedLibraries arch) (fuel : ℕ) (mmapStack : Word arch)
    (dispatchManager : InstructionDispatchManager arch) : Loader arch where
  findLibrary := libraries.findLibrary fuel
  findLibraryAt := libraries.findLibraryAt fuel
  mmapStack
  dispatchManager

variable {libraries : LoadedLibraries arch} {fuel : ℕ} {name path : String}
  {library : LoadedLibrary arch}

theorem findLibrary_eq_some_iff : libraries.findLibrary fuel name = some library ↔
    ∃ opened size, Library.findLibrary libraries.auxv libraries.phdrs name = some opened ∧
      opened.getLibrarySize libraries.solist libraries.sdk = .ok size ∧
      library = opened.loaded size (libraries.findSymbol fuel opened.handler)
        (libraries.symbolByAddress fuel) := by
  rw [findLibrary]
  cases Library.findLibrary libraries.auxv libraries.phdrs name with
  | none => simp
  | some opened =>
    cases sized : opened.getLibrarySize libraries.solist libraries.sdk with
    | error fault => simp [Except.toOption, sized]
    | ok size => simp [Except.toOption, sized, eq_comm]

/-- The range of the library is what `get_library_range` answers. -/
theorem getLibraryRange_of_found (found : libraries.findLibrary fuel name = some library) :
    ∃ opened, Library.findLibrary libraries.auxv libraries.phdrs name = some opened ∧
      opened.getLibraryRange libraries.solist libraries.sdk = .ok library.getLibraryRange := by
  obtain ⟨opened, size, opens, sized, rfl⟩ := findLibrary_eq_some_iff.mp found
  exact ⟨opened, opens, Library.getLibraryRange_loaded sized _ _⟩

/-- Where a path leads: the first library that xDL accepts for it is at the start, and the first
`soinfo` with the path in its own has the size. -/
def LeadsTo (libraries : LoadedLibraries arch) (path : String) (start size : Word arch) : Prop :=
  ∃ opened so, Xdl.find libraries.auxv libraries.phdrs path = some opened ∧
    Linker.getSoInfo libraries.solist path = some so ∧ opened.loadBias = start ∧ so.size = size

/-- A library has a size only on a level with a layout. -/
theorem supported_of_size (found : libraries.findLibrary fuel name = some library)
    (nonempty : 0 < library.librarySize) : Soinfo.supportsSdk libraries.sdk = true := by
  obtain ⟨opened, size, -, sized, rfl⟩ := findLibrary_eq_some_iff.mp found
  by_contra unsupported
  have zero : size = 0 := by
    rw [Library.getLibrarySize] at sized
    split at sized
    · simp only [Soinfo.getLibrarySize, Soinfo.getField, if_neg unsupported] at sized
      exact (Except.ok.inj sized).symm
    · rw [if_neg unsupported] at sized
      exact (Except.ok.inj sized).symm
  rw [zero] at nonempty
  exact BitVec.lt_irrefl _ nonempty

theorem leadsTo_iff (supported : Soinfo.supportsSdk libraries.sdk = true) {start size : Word arch} :
    libraries.LeadsTo path start size ↔ ∃ library,
      libraries.findLibrary fuel path = some library ∧
        library.loadBias = start ∧ library.librarySize = size := by
  constructor
  · rintro ⟨handler, so, opens, known, rfl, rfl⟩
    have sized : Library.getLibrarySize ⟨path, handler⟩ libraries.solist libraries.sdk =
        .ok so.size := by
      simp only [Library.getLibrarySize, known, Soinfo.getLibrarySize, Soinfo.getField,
        if_pos supported]
    refine ⟨_, findLibrary_eq_some_iff.mpr ⟨⟨path, handler⟩, so.size, ?_, sized, rfl⟩, rfl, rfl⟩
    rw [Library.findLibrary, opens, Option.map_some]
  · rintro ⟨library, found, rfl, rfl⟩
    obtain ⟨opened, size, opens, sized, rfl⟩ := findLibrary_eq_some_iff.mp found
    rw [Library.findLibrary, Option.map_eq_some_iff] at opens
    obtain ⟨handler, first, rfl⟩ := opens
    rw [Library.getLibrarySize] at sized
    split at sized
    · rename_i so known
      simp only [Soinfo.getLibrarySize, Soinfo.getField, if_pos supported] at sized
      exact ⟨handler, so, first, known, rfl, Except.ok.inj sized⟩
    · rw [if_pos supported] at sized
      cases sized

end LoadedLibraries

end QbdiTracer
