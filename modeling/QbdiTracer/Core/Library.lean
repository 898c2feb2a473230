import QbdiTracer.Machine
import Mathlib.Data.Int.Notation

/-! The accessors of `core/library.cpp` to the linker's own record of a library. Each
casts to one of the layouts `soinfo_10` to `soinfo_15` by the API level of the device,
and falls back to a default on a level without a layout. -/

namespace QbdiTracer

variable {arch : Arch}

/-- The fields of `soinfo` that are read or written. `realpath` is what the linker's
`get_realpath` returns for it. -/
structure Soinfo (arch : Arch) where
  realpath : String
  loadBias : Word arch := 0
  size : Word arch := 0
  constructorsCalled : Bool := false
  /-- `init_func_`, the `DT_INIT` function. -/
  initFunc : Word arch := 0
  /-- The entries that `init_array_` points at, `none` for a null pointer. -/
  initArray : Option (ℤ → Word arch) := none
  initArrayCount : Word arch := 0

namespace Soinfo

/-- The levels that have a layout: 30 and 31 share one, 32 has none. -/
def supportsSdk (sdk : ℤ) : Bool :=
  if sdk < 29 then false
  else sdk == 29 || (sdk == 31 || sdk == 30) || sdk == 33 || sdk == 34 || sdk == 35

/-- The pattern of the getters. The layout is taken to be that of the device; for 32 bits it lacks
the members under `__work_around_b_24465209__`, which only `linker.cpp` defines. -/
def getField {Value : Type} (sdk : ℤ) (unsupported : Value) (field : Soinfo arch → Value)
    (so : Soinfo arch) : Value :=
  if supportsSdk sdk then field so else unsupported

/-- The pattern of the setters. -/
def setField (sdk : ℤ) (assign : Soinfo arch → Soinfo arch) (so : Soinfo arch) : Soinfo arch :=
  if supportsSdk sdk then assign so else so

def getInitProc (so : Soinfo arch) (sdk : ℤ) : Word arch := so.getField sdk 0 initFunc

def getInitArrayCount (so : Soinfo arch) (sdk : ℤ) : Word arch := so.getField sdk 0 initArrayCount

def getInitArray (so : Soinfo arch) (sdk : ℤ) : Option (ℤ → Word arch) :=
  so.getField sdk none initArray

def isCtorCalled (so : Soinfo arch) (sdk : ℤ) : Bool := so.getField sdk false constructorsCalled

def getLibrarySize (so : Soinfo arch) (sdk : ℤ) : Word arch := so.getField sdk 0 size

/-- `get_load_bias` of a `Library` made from a `soinfo`, without an xdl handle. -/
def getLoadBias (so : Soinfo arch) (sdk : ℤ) : Word arch := so.getField sdk 0 loadBias

def setInitArrayCount (so : Soinfo arch) (sdk : ℤ) (count : Word arch) : Soinfo arch :=
  so.setField sdk ({ · with initArrayCount := count })

def setInitProc (so : Soinfo arch) (sdk : ℤ) (ptr : Word arch) : Soinfo arch :=
  so.setField sdk ({ · with initFunc := ptr })

end Soinfo

end QbdiTracer
