import QbdiTracer.Core.Symbols
import QbdiTracer.Dispatch.Base
import QbdiTracer.Library.FirstInsert

/-! What the constructors of `DispatchLibc` and `DispatchLibz` make of the symbols of their
module: the handlers by address (`REGISTER_HANDLER` of `trace/common.h`) and the names of the
other functions. -/

namespace QbdiTracer

open FirstInsert

variable {arch : Arch}

namespace DispatchBase

/-- `dispatch_export_func` and `add_export_info`, on one reported symbol. -/
def addExportInfo (symbolInfo : Word arch → Option String) (symbol : String × Word arch) :
    Word arch → Option String :=
  if symbol.2 ≠ 0 then emplaceAt symbolInfo symbol.2 symbol.1 else symbolInfo

/-- `REGISTER_HANDLER`. -/
def registerHandler (module : XdlHandle arch) (ifunc : XdlHandle.Resolver arch) (fuel : ℕ)
    (handlers : Word arch → Option (String × Handler arch)) (entry : String × Handler arch) :
    Option (Word arch → Option (String × Handler arch)) := do
  let addr ← module.findSymbol ifunc fuel entry.1
  if addr ≠ 0 then return emplaceAt handlers addr entry else return handlers

/-- The constructor on its module, with the handlers it has for functions by name. -/
def construct (module : XdlHandle arch) (ifunc : XdlHandle.Resolver arch) (fuel : ℕ)
    (moduleRange : ModuleRange arch) (table : List (String × Handler arch)) :
    Option (DispatchBase arch) := do
  let handlers ← table.foldlM (registerHandler module ifunc fuel) fun _ => none
  let exports ← module.enumerateExports ifunc fuel
  return { moduleRange, handlers, symbolInfo := exports.foldl addExportInfo fun _ => none }

end DispatchBase

end QbdiTracer
