import QbdiTracer.Core.Library
import Mathlib.Algebra.Group.Int.Defs
import Mathlib.Algebra.Group.Nat.Defs

/-! `core/linker.cpp`: the library monitors, the hook on the linker's
`call_constructors`, and the lookup in the list of `soinfo`s. The traces keep the
functions and callbacks that were called. -/

namespace QbdiTracer

variable {arch : Arch}

inductive LinkerType where
  | dlopen
  | dlopenPost
  | initProc
  | initProcPost
  | initArray
  | initArrayPost
  deriving DecidableEq, Repr

/-- `linker_callback_t`: a function at an address, which is given the `soinfo` and may
change it. -/
structure LinkerCallback (arch : Arch) where
  address : Word arch
  effect : Soinfo arch → Soinfo arch := id

structure LibraryMonitor (arch : Arch) where
  libraryName : String
  type : LinkerType
  callback : Option (LinkerCallback arch)
  userData : Word arch := 0

/-- What happens while the constructors of a library are called. -/
inductive LinkerEvent (arch : Arch) where
  /-- Something that the linker does for a library that this one depends on. -/
  | dependency (number : Nat)
  /-- A monitor's callback is called with these arguments. -/
  | notified (callback : Word arch) (path : String) (type : LinkerType) (userData : Word arch)
  | initCalled (function : Word arch)
  | entryCalled (function : Word arch)
  deriving DecidableEq

/-- The ways the code can leave its defined behaviour. -/
inductive LinkerFault where
  /-- Signed overflow of the loop counter of `call_array`. -/
  | intOverflow
  /-- A field is read through a null `soinfo`. -/
  | nullSoinfo
  deriving DecidableEq, Repr

def strstr : List Char → List Char → Bool
  | [], name => name.isEmpty
  | first :: rest, name => name.isPrefixOf (first :: rest) || strstr rest name

namespace Linker

def isCallable (function : Word arch) : Bool :=
  !(function == 0 || function == BitVec.allOnes _)

def callFunctionT (function : Word arch) : List (LinkerEvent arch) :=
  if isCallable function then [.initCalled function] else []

def callFunction (function : Word arch) : List (LinkerEvent arch) :=
  if isCallable function then [.entryCalled function] else []

def nextIndex (reverse : Bool) (i : ℤ) : ℤ := if reverse then i - 1 else i + 1

/-- The loop of `call_array` from `i` on: its counter is an `int`. -/
def callArrayLoop (functions : ℤ → Word arch) (stop : ℤ) (reverse : Bool) (i : ℤ) :
    Except LinkerFault (List (LinkerEvent arch)) :=
  if i = stop then .ok []
  else if -2 ^ 31 ≤ nextIndex reverse i ∧ nextIndex reverse i < 2 ^ 31 then
    (callArrayLoop functions stop reverse (nextIndex reverse i)).map (callFunction (functions i) ++ ·)
  else .error .intOverflow
termination_by (if reverse then i + 2 ^ 31 else 2 ^ 31 - i).toNat
decreasing_by
  rename_i inRange
  cases reverse <;> simp only [nextIndex, Bool.false_eq_true, ↓reduceIte] at inRange ⊢ <;> omega

def toCInt (count : Word arch) : ℤ := (count.setWidth 32).toInt

def callArray (functions : Option (ℤ → Word arch)) (count : Word arch) (reverse : Bool) :
    Except LinkerFault (List (LinkerEvent arch)) :=
  match functions with
  | none => .ok []
  | some functions =>
    let start := if reverse then toCInt (count - 1) else 0
    let stop := if reverse then -1 else toCInt count
    callArrayLoop functions stop reverse start

end Linker

namespace LibraryMonitor

def matchesPath (monitor : LibraryMonitor arch) (type : LinkerType) (path : String) : Bool :=
  !(monitor.type != type || monitor.libraryName.isEmpty) &&
    strstr path.toList monitor.libraryName.toList

/-- The callback that a loop for one type of event calls. -/
def listener (monitor : LibraryMonitor arch) (type : LinkerType) (path : String) :
    Option (LinkerCallback arch) :=
  if monitor.matchesPath type path then monitor.callback else none

/-- One loop over `monitor_list`: the monitors of one type are called, and told another
one. -/
def notifyAll (path : String) (type told : LinkerType) :
    List (LibraryMonitor arch) → Soinfo arch → Soinfo arch × List (LinkerEvent arch)
  | [], so => (so, [])
  | monitor :: rest, so =>
    match monitor.listener type path with
    | none => notifyAll path type told rest so
    | some callback =>
      let (after, events) := notifyAll path type told rest (callback.effect so)
      (after, .notified callback.address path told monitor.userData :: events)

end LibraryMonitor

/-- The file-level state of `linker.cpp`, and what decides whether its hooks can be
installed: the API level and the two symbols of the linker. -/
structure Linker (arch : Arch) where
  monitorList : List (LibraryMonitor arch) := []
  dlHooked : Bool := false
  linkerHooked : Bool := false
  sdk : ℤ
  hasDoDlopen : Bool
  hasCallConstructors : Bool

namespace Linker

def initDlopenHook (linker : Linker arch) : Linker arch :=
  if linker.dlHooked then linker
  else if linker.sdk < 29 then linker
  else if !linker.hasDoDlopen then linker
  else { linker with dlHooked := true }

def initLinkerHook (linker : Linker arch) : Linker arch :=
  if linker.linkerHooked then linker
  else if linker.sdk < 29 then linker
  else if !linker.hasCallConstructors then linker
  else { linker with linkerHooked := true }

def addLibraryMonitor (linker : Linker arch) (monitor : LibraryMonitor arch) :
    Linker arch × Bool :=
  let hooked :=
    match monitor.type with
    | .dlopen | .dlopenPost => linker.initDlopenHook
    | .initArray | .initArrayPost | .initProc | .initProcPost => linker.initLinkerHook
  ({ hooked with monitorList := hooked.monitorList ++ [monitor] },
    hooked.dlHooked && hooked.linkerHooked)

/-- The linker's own `call_constructors`, which the hook replaces. -/
abbrev CallConstructors (arch : Arch) :=
  Soinfo arch → Soinfo arch × List (LinkerEvent arch)

open LibraryMonitor in
def runInitProc (sdk : ℤ) (monitors : List (LibraryMonitor arch)) (path : String)
    (origProc : Word arch) (so : Soinfo arch) : Soinfo arch × List (LinkerEvent arch) :=
  let (so, before) :=
    if origProc ≠ 0 then notifyAll path .initProc .initProc monitors so else (so, [])
  let so := so.setInitProc sdk origProc
  if origProc ≠ 0 then
    let called := callFunctionT origProc
    let (so, after) := notifyAll path .initProcPost .initProcPost monitors so
    (so, before ++ called ++ after)
  else (so, before)

open LibraryMonitor in
/-- The part of the hook around `DT_INIT_ARRAY`. Both loops pass `INIT_PROC_POST`. -/
def runInitArray (sdk : ℤ) (monitors : List (LibraryMonitor arch)) (path : String)
    (origCount : Word arch) (so : Soinfo arch) :
    Except LinkerFault (Soinfo arch × List (LinkerEvent arch)) :=
  if 0 < origCount then do
    let (so, before) := notifyAll path .initArray .initProcPost monitors so
    let called ← callArray (so.getInitArray sdk) origCount false
    let (so, after) := notifyAll path .initArrayPost .initProcPost monitors so
    return (so, before ++ called ++ after)
  else .ok (so, [])

/-- `hook_call_constructors_stub` on a `soinfo` that is not null. -/
def hookCallConstructors (original : CallConstructors arch) (sdk : ℤ)
    (monitors : List (LibraryMonitor arch)) (so : Soinfo arch) :
    Except LinkerFault (Soinfo arch × List (LinkerEvent arch)) :=
  let path := so.realpath
  if so.isCtorCalled sdk then .ok (original so)
  else do
    let origCount := so.getInitArrayCount sdk
    let origProc := so.getInitProc sdk
    let hidden := (so.setInitArrayCount sdk 0).setInitProc sdk 0
    let (so, constructed) := original hidden
    let (so, proc) := runInitProc sdk monitors path origProc so
    let (so, array) ← runInitArray sdk monitors path origCount so
    return (so.setInitArrayCount sdk origCount, constructed ++ proc ++ array)

/-- `get_so_info`: the first `soinfo` of the solist whose path contains the name. The
linker's symbols it needs are there. -/
def getSoInfo (solist : List (Soinfo arch)) (libraryName : String) : Option (Soinfo arch) :=
  solist.find? fun so => strstr so.realpath.toList libraryName.toList

end Linker

end QbdiTracer
