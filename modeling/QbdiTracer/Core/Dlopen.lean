import QbdiTracer.Core.Linker

/-! The hook on the linker's `do_dlopen` in `core/linker.cpp`. A constructor that runs
during a load may load another library, so calls nest; the linker lets one thread in. -/

namespace QbdiTracer

variable {arch : Arch}

/-- What happens around the calls of `do_dlopen`. -/
inductive DlopenEvent (arch : Arch) where
  | entered (path : Option String)
  | left (handle : Word arch)
  | notified (callback : Word arch) (path : String) (type : LinkerType) (soInfo userData : Word arch)
  | other (number : ℕ)
  deriving DecidableEq

/-- The steps of the thread in the linker. `getSoInfo` is what `get_so_info` answers when the
original call has returned. -/
inductive LoadStep (arch : Arch) where
  | call (path : Option String)
  | leave (handle : Word arch) (getSoInfo : String → Word arch)
  | other (number : ℕ)

/-- The paths of the calls of `do_dlopen` in progress, the innermost first. -/
abbrev Loads := List (Option String)

namespace LibraryMonitor

def notifyLoad (path : String) (type : LinkerType) (soInfo : Word arch) :
    List (LibraryMonitor arch) → List (DlopenEvent arch)
  | [] => []
  | monitor :: rest =>
    match monitor.listener type path with
    | none => notifyLoad path type soInfo rest
    | some callback =>
      .notified callback.address path type soInfo monitor.userData ::
        notifyLoad path type soInfo rest

end LibraryMonitor

namespace Linker

open LibraryMonitor

/-- `hook_do_dlopen_stub` before the original call, where the hook is installed. -/
def beforeOriginal (linker : Linker arch) : Option String → List (DlopenEvent arch)
  | none => []
  | some path => if linker.dlHooked then notifyLoad path .dlopen 0 linker.monitorList else []

/-- The rest of it; the `soinfo` is looked up by the path that `do_dlopen` was given. -/
def afterOriginal (linker : Linker arch) (getSoInfo : String → Word arch) :
    Option String → List (DlopenEvent arch)
  | none => []
  | some path =>
    if linker.dlHooked then notifyLoad path .dlopenPost (getSoInfo path) linker.monitorList else []

/-- One step, with what happens in it. Only a call in progress can return. -/
def loadStep (linker : Linker arch) (loads : Loads) :
    LoadStep arch → Option (Loads × List (DlopenEvent arch))
  | .call path => some (path :: loads, linker.beforeOriginal path ++ [.entered path])
  | .leave handle getSoInfo =>
    match loads with
    | [] => none
    | path :: outer => some (outer, .left handle :: linker.afterOriginal getSoInfo path)
  | .other number => some (loads, [.other number])

def runLoads (linker : Linker arch) :
    Loads → List (LoadStep arch) → Option (Loads × List (DlopenEvent arch))
  | loads, [] => some (loads, [])
  | loads, step :: rest => do
    let (next, events) ← linker.loadStep loads step
    let (last, later) ← linker.runLoads next rest
    return (last, events ++ later)

end Linker

end QbdiTracer
