import Mathlib.Data.List.DropRight
import QbdiTracer.Library.HexFormats
import QbdiTracer.LoggerManager
import QbdiTracer.RegisterLists

/-! The text of a line of `LoggerManager::write_trace_info`, and of the file its sink
appends to. -/

namespace QbdiTracer

variable {arch : Arch}

/-- `" \t\n\r\f\v"`. -/
def trimmedChars : List Char := [' ', '\t', '\n', '\r', Char.ofNat 12, Char.ofNat 11]

def ltrim (str : String) : String :=
  String.ofList (str.toList.dropWhile fun c => decide (c ∈ trimmedChars))

def rtrim (str : String) : String :=
  String.ofList (str.toList.rdropWhile fun c => decide (c ∈ trimmedChars))

def trim (str : String) : String := rtrim (ltrim str)

/-- One element of `ma_info`. -/
def accessText (entry : AccessInfo arch) : String :=
  let ma := entry.access
  match entry.place, ma.type with
  | .moduleOffset offset, .read =>
    "read module offset:" ++ toHex offset ++ " size:" ++ numberText ma.size ++ " => " ++
      toHex ma.value
  | .moduleOffset offset, .write =>
    "write module offset:" ++ toHex offset ++ " size:" ++ numberText ma.size ++ " => " ++
      toHex ma.value ++ " "
  | .memoryBlock offset index, .read =>
    "read memory:" ++ toHex ma.accessAddress ++ "=>" ++ toHex ma.value ++
      " memory block index:" ++ numberText index ++ " size:" ++ numberText ma.size ++
      " offset:" ++ toHex offset
  | .memoryBlock offset index, .write =>
    "write memory:" ++ toHex ma.accessAddress ++ "=>" ++ toHex ma.value ++
      " memory block index:" ++ numberText index ++ " size:" ++ numberText ma.size ++
      " offset:" ++ toHex offset

/-- What `format_access_info` leaves in `result`. -/
def accessInfoText (entries : List (AccessInfo arch)) : String :=
  if entries.isEmpty then "" else joinList (entries.map accessText) ","

def formatCallInfo (info : InstTraceInfo arch) : String :=
  match info.funCall with
  | none => " "
  | some call =>
    call.callModuleName ++ ":" ++ call.funName ++ " args:" ++ joinList call.args "," ++ " " ++
      call.retValue

/-- What a line needs of QBDI: the operands of an analysis, and the texts the values of a
record's registers have. -/
structure LineContext (arch : Arch) where
  operands : InstAnalysis arch → List OperandAnalysis
  texts : InstTraceInfo arch → RegisterTexts

/-- `reg_info`. -/
def LineContext.registers (context : LineContext arch) (info : InstTraceInfo arch)
    (inst : InstAnalysis arch) : String :=
  formatRegisterInfo (context.texts info) "" info (context.operands inst)

/-- `line`, as `write_info` gets it. -/
def lineText (context : LineContext arch) (moduleRange : ModuleRange arch)
    (line : LogLine arch) : String :=
  "|" ++ toHex line.info.pc ++ "|" ++ toHex (line.info.pc - moduleRange.base) ++ "|" ++
    trim line.inst.disassembly ++ "|" ++ context.registers line.info line.inst ++ "|" ++
    accessInfoText line.accesses ++ "|" ++ formatCallInfo line.info

/-- What the sinks' pattern `[%H:%M:%S.%e] %v` makes of a line, with `stamp` for the time. -/
def patternText (stamp line : String) : String := "[" ++ stamp ++ "] " ++ line

/-- What the file sink has appended after some lines, each with its time. -/
def fileText (context : LineContext arch) (moduleRange : ModuleRange arch)
    (records : List (String × LogLine arch)) : String :=
  String.join (records.map fun record =>
    patternText record.1 (lineText context moduleRange record.2) ++ "\n")

end QbdiTracer
