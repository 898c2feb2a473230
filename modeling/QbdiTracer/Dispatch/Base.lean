import QbdiTracer.Common

/-! `trace/dispatch/dispatch_base.cpp`: argument and return registers, the shared
texts, and the state every library dispatcher inherits. -/

namespace QbdiTracer

variable {arch : Arch}

/-- `MAX_REG_ARGS`. -/
def Arch.maxRegArgs : Arch → Nat
  | .arm => 4
  | .aarch64 => 8

/-- `MAX_STACK_ARGS`. -/
def Arch.maxStackArgs : Nat := 16

/-- Index of the stack word read for an argument past the registers. The ARM
build rounds the byte offset up to a multiple of 8 first. -/
def Arch.stackSlot (arch : Arch) (argIndex : Nat) : Nat :=
  let stackOffset := (argIndex - arch.maxRegArgs) * arch.wordBytes
  match arch with
  | .arm =>
    (stackOffset + if stackOffset % 8 ≠ 0 then 8 - stackOffset % 8 else 0) / Arch.arm.wordBytes
  | .aarch64 => stackOffset / Arch.aarch64.wordBytes

/-- The common body of `get_arg_register_value` and `get_ret_register_value`. -/
def registerValue (process : Process arch) (state : GPRState arch) (argIndex : Nat) : Word arch :=
  if arch.maxRegArgs + Arch.maxStackArgs ≤ argIndex then 0
  else if argIndex < arch.maxRegArgs then state.reg argIndex
  else process.readWord (state.sp + BitVec.ofNat _ (arch.stackSlot argIndex * arch.wordBytes))

def getArgRegisterValue (process : Process arch) (status : TraceVmStatus arch) (argIndex : Nat) :
    Word arch :=
  registerValue process status.gprState argIndex

def getRetRegisterValue (process : Process arch) (state : GPRState arch) (argIndex : Nat) :
    Word arch :=
  registerValue process state argIndex

/-- Arguments 0 to 3 are in registers on both builds. -/
theorem registerValue_low (process : Process arch) (state : GPRState arch) {argIndex : Nat}
    (low : argIndex < 4) : registerValue process state argIndex = state.reg argIndex := by
  have inRegisters : argIndex < arch.maxRegArgs := by cases arch <;> simp [Arch.maxRegArgs] <;> omega
  have supported : ¬ arch.maxRegArgs + Arch.maxStackArgs ≤ argIndex := by
    simp only [Arch.maxStackArgs]; omega
  simp [registerValue, supported, inRegisters]

theorem getArgRegisterValue_low (process : Process arch) (status : TraceVmStatus arch)
    {argIndex : Nat} (low : argIndex < 4) :
    getArgRegisterValue process status argIndex = status.gprState.reg argIndex :=
  registerValue_low process status.gprState low

theorem getRetRegisterValue_zero (process : Process arch) (state : GPRState arch) :
    getRetRegisterValue process state 0 = state.reg 0 :=
  registerValue_low process state (by omega)

def readStringFromAddress (process : Process arch) (address : Word arch) : String :=
  if address = 0 then "" else process.cString address

/-- `fmt::format("{:02X} ", byte)`. -/
def hexByte (byte : BitVec 8) : String :=
  String.ofList ((Nat.toDigits 16 (256 + byte.toNat)).drop 1 |>.map Char.toUpper) ++ " "

/-- One row of 16 bytes, padded with blanks past the end of the buffer. -/
def hexdumpRow (process : Process arch) (address : Word arch) (size i : Nat) : String :=
  let inside (j : Nat) : Bool := i + j < size
  let byte (j : Nat) := process.memory (address + BitVec.ofNat _ (i + j))
  let printable (c : BitVec 8) : String :=
    if 32 ≤ c.toNat ∧ c.toNat ≤ 126 then (Char.ofNat c.toNat).toString else "."
  toHex (address + BitVec.ofNat arch.wordBits i) ++ ": "
    ++ String.join ((List.range 16).map fun j => if inside j then hexByte (byte j) else "   ")
    ++ " |"
    ++ String.join ((List.range 16).map fun j => if inside j then printable (byte j) else "")
    ++ "| \t"

def readBufferHexdumpFromAddress (process : Process arch) (address : Word arch) (size : Nat) :
    String :=
  if address = 0 ∨ size = 0 then ""
  else String.join ((List.range ((size + 15) / 16)).map fun row =>
    hexdumpRow process address size (16 * row))

/-- The register texts of `add_common_reg_values`: `R0..R3` or `X0..X7`. -/
def commonRegValues (state : GPRState arch) : List String :=
  let letter := match arch with | .arm => "R" | .aarch64 => "X"
  (List.range arch.maxRegArgs).map fun i => letter ++ toString i ++ "=" ++ toHex (state.reg i)

def addCommonRegValues (info : InstTraceInfo arch) (call : InstFunCall arch) : InstFunCall arch :=
  { call with args := call.args ++ commonRegValues info.preStatus.gprState }

def addCommonReturnValue (call : InstFunCall arch) (state : GPRState arch) : InstFunCall arch :=
  { call with retType := .kUnknown, retValue := "ret=" ++ toHex (state.reg 0) }

/-- What a registered handler contributes: the argument texts it pushes and the
`ret_type` it assigns, if it assigns one. -/
structure HandlerText where
  args : List String := []
  retType : Option FunDataType := none

/-- A handler formats the registers saved at PRE and the memory they point to. -/
abbrev Handler (arch : Arch) := Process arch → TraceVmStatus arch → HandlerText

def HandlerText.push (text : HandlerText) (call : InstFunCall arch) : InstFunCall arch :=
  { call with args := call.args ++ text.args, retType := text.retType.getD call.retType }

/-- The state of one library dispatcher: its range, the handlers its constructor
registered by address, and the exported symbols. -/
structure DispatchBase (arch : Arch) where
  moduleRange : ModuleRange arch
  handlers : Word arch → Option (String × Handler arch)
  symbolInfo : Word arch → Option String

namespace DispatchBase

def isModuleAddress (dispatch : DispatchBase arch) (address : Word arch) : Bool :=
  if address < dispatch.moduleRange.base then false
  else if dispatch.moduleRange.stop < address then false
  else true

theorem isModuleAddress_iff {dispatch : DispatchBase arch} {address : Word arch} :
    dispatch.isModuleAddress address = true ↔
      dispatch.moduleRange.base ≤ address ∧ address ≤ dispatch.moduleRange.stop :=
  ModuleRange.closed_test_iff

def getAddressSymbol (dispatch : DispatchBase arch) (address : Word arch) : String :=
  (dispatch.symbolInfo address).getD ""

/-- `dispatch_args` of `DispatchLibc` and `DispatchLibz`, which differ in the
module name and the handler map. `none` is the result `false`. -/
def dispatchArgsByTable (moduleName : String) (dispatch : DispatchBase arch) (process : Process arch)
    (info : InstTraceInfo arch) (call : InstFunCall arch) : Option (InstFunCall arch) :=
  if dispatch.isModuleAddress call.funAddress then
    let named := { call with callModuleName := moduleName }
    match dispatch.handlers call.funAddress with
    | some (name, handler) =>
      some ((handler process info.preStatus).push { named with funName := name })
    | none =>
      let symbol := dispatch.getAddressSymbol call.funAddress
      if symbol = "" then some named
      else some (addCommonRegValues info { named with funName := symbol })
  else none

end DispatchBase

end QbdiTracer
