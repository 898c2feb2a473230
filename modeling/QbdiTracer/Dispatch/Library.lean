import QbdiTracer.Dispatch.Base

/-! The dispatchers for calls that leave the traced module: libc, libz and the
JNI function table. -/

namespace QbdiTracer

variable {arch : Arch}

/-- `memory_alloc_address` and `memory_alloc_size` of a successful allocation. -/
def InstFunCall.allocated (call : InstFunCall arch) (address size : Word arch) : InstFunCall arch :=
  { call with memoryAllocAddress := address, memoryAllocSize := size }

def InstFunCall.freed (call : InstFunCall arch) (address : Word arch) : InstFunCall arch :=
  { call with memoryFreeAddress := address }

/-- The body shared by the `mmap` handlers of libc and of the syscall table. -/
def recordMmap (arg1 retValue : Word arch) (call : InstFunCall arch) : InstFunCall arch :=
  if arg1 = 0 ∨ retValue = 0 then call else call.allocated retValue arg1

/-- The body shared by the handlers of `free` and `munmap`. -/
def recordFree (arg0 : Word arch) (call : InstFunCall arch) : InstFunCall arch :=
  if arg0 = 0 then call else call.freed arg0

namespace DispatchLibc

def dispatchArgs (dispatch : DispatchBase arch) (process : Process arch) (info : InstTraceInfo arch)
    (call : InstFunCall arch) : Option (InstFunCall arch) :=
  dispatch.dispatchArgsByTable "libc.so" process info call

def recordMalloc (arg0 retValue : Word arch) (call : InstFunCall arch) : InstFunCall arch :=
  if arg0 = 0 ∨ retValue = 0 then call else call.allocated retValue arg0

def recordStrdup (process : Process arch) (arg0 retValue : Word arch) (call : InstFunCall arch) :
    InstFunCall arch :=
  if arg0 = 0 ∨ retValue = 0 then call
  else call.allocated retValue (BitVec.ofNat _ (process.cString arg0).utf8ByteSize)

def recordCalloc (arg0 arg1 retValue : Word arch) (call : InstFunCall arch) : InstFunCall arch :=
  if arg0 = 0 ∨ retValue = 0 ∨ arg1 = 0 then call else call.allocated retValue (arg0 * arg1)

def recordRealloc (arg0 arg1 retValue : Word arch) (call : InstFunCall arch) : InstFunCall arch :=
  if arg1 = 0 then call.freed arg0
  else
    let released := if retValue ≠ 0 ∨ arg0 ≠ 0 then call.freed arg0 else call
    if retValue ≠ 0 then released.allocated retValue arg1 else released

def recordMemoryInfo (process : Process arch) (info : InstTraceInfo arch) (call : InstFunCall arch)
    (retStatus : GPRState arch) : InstFunCall arch :=
  let retValue := getRetRegisterValue process retStatus 0
  let arg0 := getArgRegisterValue process info.preStatus 0
  let arg1 := getArgRegisterValue process info.preStatus 1
  match call.funName with
  | "malloc" => recordMalloc arg0 retValue call
  | "strdup" => recordStrdup process arg0 retValue call
  | "free" => recordFree arg0 call
  | "calloc" => recordCalloc arg0 arg1 retValue call
  | "realloc" => recordRealloc arg0 arg1 retValue call
  | "mmap" => recordMmap arg1 retValue call
  | "mmap64" => recordMmap arg1 retValue call
  | "munmap" => recordFree arg0 call
  | _ => call

/-- The result of the `printf` family is the text left in the buffer. -/
def getFormatResult (process : Process arch) (info : InstTraceInfo arch) (call : InstFunCall arch) :
    InstFunCall arch :=
  let arg0 := getArgRegisterValue process info.preStatus 0
  let arg1 := getArgRegisterValue process info.preStatus 1
  let arg2 := getArgRegisterValue process info.preStatus 2
  let formatted (args : List String) : InstFunCall arch :=
    if arg0 = 0 then call
    else { call with args := args, retValue := readStringFromAddress process arg0 }
  match call.funName with
  | "sprintf" => formatted ["fmt=" ++ readStringFromAddress process arg1]
  | "vsprintf" => formatted ["fmt=" ++ readStringFromAddress process arg1]
  | "snprintf" => formatted ["size=" ++ toHex arg1, "fmt=" ++ readStringFromAddress process arg2]
  | "sscanf" => formatted ["fmt=" ++ readStringFromAddress process arg1]
  | _ => call

def dispatchRet (dispatch : DispatchBase arch) (process : Process arch) (info : InstTraceInfo arch)
    (call : InstFunCall arch) (retStatus : GPRState arch) : Option (InstFunCall arch) :=
  if dispatch.isModuleAddress call.funAddress then
    let retValue := getRetRegisterValue process retStatus 0
    let recorded := recordMemoryInfo process info call retStatus
    match call.retType with
    | .kUnknown => some (getFormatResult process info recorded)
    | .kPointer => some { recorded with retValue := "ret=" ++ toHex retValue }
    | .kNumber => some { recorded with retValue := "ret=" ++ toHex retValue }
    | .kString => some { recorded with retValue := "ret=" ++ readStringFromAddress process retValue }
    | _ => some recorded
  else none

end DispatchLibc

namespace DispatchLibz

def dispatchArgs (dispatch : DispatchBase arch) (process : Process arch) (info : InstTraceInfo arch)
    (call : InstFunCall arch) : Option (InstFunCall arch) :=
  dispatch.dispatchArgsByTable "libz.so" process info call

def dispatchRet (dispatch : DispatchBase arch) (process : Process arch) (call : InstFunCall arch)
    (retStatus : GPRState arch) : Option (InstFunCall arch) :=
  if dispatch.isModuleAddress call.funAddress then
    let retValue := getRetRegisterValue process retStatus 0
    match call.retType with
    | .kUnknown => some { call with retValue := toHex retValue }
    | .kNumber => some { call with retValue := toHex retValue }
    | .kPointer => some { call with retValue := readBufferHexdumpFromAddress process retValue 16 }
    | .kString => some { call with retValue := readStringFromAddress process retValue }
    | _ => some call
  else none

end DispatchLibz

namespace DispatchJNIEnv

/-- A call into libart that is not in the JNI table keeps an empty name. -/
def dispatchArgs (dispatch : DispatchBase arch) (process : Process arch) (info : InstTraceInfo arch)
    (call : InstFunCall arch) : Option (InstFunCall arch) :=
  if dispatch.isModuleAddress call.funAddress then
    let named := { call with callModuleName := "libart.so" }
    match dispatch.handlers call.funAddress with
    | some (name, handler) =>
      let env := getArgRegisterValue process info.preStatus 0
      some ((handler process info.preStatus).push
        { named with funName := name, args := named.args ++ ["env=" ++ toHex env] })
    | none => some named
  else none

def dispatchRet (dispatch : DispatchBase arch) (process : Process arch) (call : InstFunCall arch)
    (retStatus : GPRState arch) : Option (InstFunCall arch) :=
  if dispatch.isModuleAddress call.funAddress then
    let retValue := getRetRegisterValue process retStatus 0
    if call.funName = "GetSuperclass" then
      some { call with
        retValue := "ret class=" ++ process.jniClassName retValue ++ ":" ++ toHex retValue }
    else some (addCommonReturnValue call retStatus)
  else none

end DispatchJNIEnv

end QbdiTracer
