import QbdiTracer.Core.Linker
import QbdiTracer.Core.Range

/-! The lookup of xDL behind `Library::find_library`, and the range of a library that
`core/library.cpp` makes of the xDL handle and the linker's `soinfo`. A library has the
same path in `dl_iterate_phdr` and in its `soinfo`. -/

namespace QbdiTracer

variable {arch : Arch}

namespace Xdl

/-- `xdl_util_ends_with`. -/
def endsWith (str ending : List Char) : Bool := ending.isSuffixOf str

/-- The path starts with a slash. -/
def isAbsolute (path : List Char) : Bool := path.head? == some '/'

/-- The check of the path name in `xdl_find_iterate_cb`. -/
def matchesName (filename dlpiName : List Char) : Bool :=
  if filename.head? == some '[' then dlpiName == filename
  else if isAbsolute filename then
    if isAbsolute dlpiName then dlpiName == filename else endsWith filename dlpiName
  else
    if isAbsolute dlpiName then endsWith dlpiName filename else dlpiName == filename

/-- `xdl_find_iterate_cb`, on one library. -/
def findIterateCb (filename : String) (library : Soinfo arch) : Bool :=
  if library.loadBias == 0 then false
  else matchesName filename.toList library.realpath.toList

/-- `xdl_find`: from the auxiliary vector for a few names, else the first library in the
order of `dl_iterate_phdr`. -/
def find (auxv : String → Option (Soinfo arch)) (phdrs : List (Soinfo arch)) (filename : String) :
    Option (Soinfo arch) :=
  (auxv filename).or (phdrs.find? (findIterateCb filename))

end Xdl

/-- A `Library` found by name: what the xDL handle was opened on. -/
structure Library (arch : Arch) where
  libraryName : String
  handler : Soinfo arch

namespace Library

/-- `find_library(name)`. -/
def findLibrary (auxv : String → Option (Soinfo arch)) (phdrs : List (Soinfo arch))
    (libraryName : String) : Option (Library arch) :=
  (Xdl.find auxv phdrs libraryName).map fun handler => ⟨libraryName, handler⟩

/-- `self->load_bias` of the handle. -/
def getLoadBias (library : Library arch) : Word arch := library.handler.loadBias

/-- The size in the `soinfo` that the linker is asked for by name. A null one is
dereferenced on a level that has a layout. -/
def getLibrarySize (library : Library arch) (solist : List (Soinfo arch)) (sdk : ℤ) :
    Except LinkerFault (Word arch) :=
  match Linker.getSoInfo solist library.libraryName with
  | some so => .ok (so.getLibrarySize sdk)
  | none => if Soinfo.supportsSdk sdk then .error .nullSoinfo else .ok 0

def getLibraryRange (library : Library arch) (solist : List (Soinfo arch)) (sdk : ℤ) :
    Except LinkerFault (Range arch.wordBits) :=
  (library.getLibrarySize solist sdk).map fun size =>
    .ofBounds library.getLoadBias (library.getLoadBias + size)

end Library

end QbdiTracer
