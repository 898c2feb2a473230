import QbdiTracer.Dispatch.Library
import QbdiTracer.Dispatch.SyscallTable

/-! `trace/dispatch/dispatch_syscall.cpp`. The handler table is a function-local
static built by the first call of `dispatch_args`; its lambdas capture by
reference the locals of that first activation. A later activation that invokes
one of them reads variables that no longer exist. -/

namespace QbdiTracer

variable {arch : Arch}

/-- The word in which the kernel ABI passes the syscall number: `r7` or `x8`. -/
def Arch.syscallReg : Arch → Nat
  | .arm => 7
  | .aarch64 => 8

namespace DispatchSyscall

inductive HandlerFault where
  /-- A captured variable of a finished activation is read. -/
  | dangling
  /-- `fmt::format_error`. -/
  | formatError
  deriving DecidableEq, Repr

def ArgText.render (process : Process arch) (args : Nat → Word arch) :
    ArgText → Except HandlerFault (List String)
  | .hex name arg => .ok [name ++ "=" ++ toHex (args arg)]
  | .dec name arg => .ok [name ++ "=" ++ toDec (args arg)]
  | .str name arg => .ok [name ++ "=" ++ readStringFromAddress process (args arg)]
  | .strAsHex _ _ => .error .formatError
  | .hexIfNonzero name arg =>
    .ok (if args arg ≠ 0 then [name ++ "=" ++ toHex (args arg)] else [])

def renderAll (process : Process arch) (args : Nat → Word arch) :
    List ArgText → Except HandlerFault (List String)
  | [] => .ok []
  | text :: rest => do
    let first ← ArgText.render process args text
    let others ← renderAll process args rest
    return first ++ others

/-- The `switch` of the AArch64 `prctl` handler; the name given to
`PR_SET_NAME` is read without a null check. -/
def prctlText (process : Process arch) (args : Nat → Word arch) : HandlerText :=
  match (args 0).toNat with
  | 1 => ⟨["PR_SET_PDEATHSIG", "sig=" ++ toHex (args 1)], some .kNumber⟩
  | 2 => ⟨["PR_GET_PDEATHSIG"], some .kNumber⟩
  | 15 => ⟨["PR_SET_NAME", "name=" ++ process.cString (args 1)], some .kNumber⟩
  | 16 => ⟨["PR_GET_NAME"], some .kString⟩
  | 22 => ⟨["PR_SET_SECCOMP", "mode=" ++ toHex (args 1)], some .kNumber⟩
  | 21 => ⟨["PR_GET_SECCOMP"], some .kNumber⟩
  | 38 => ⟨["PR_SET_NO_NEW_PRIVS", "no_new_privs=" ++ toHex (args 1)], some .kNumber⟩
  | 39 => ⟨["PR_GET_NO_NEW_PRIVS"], some .kNumber⟩
  | _ => ⟨["unknown prctl option: " ++ toHex (args 0)], some .kNumber⟩

/-- What a handler pushes when its captured arguments read as `args`. -/
def HandlerBody.run (process : Process arch) (args : Nat → Word arch) :
    HandlerBody → Except HandlerFault HandlerText
  | .push texts retType => do
    let pushed ← renderAll process args texts
    return ⟨pushed, retType⟩
  | .prctl => .ok (prctlText process args)

/-- `handlers.find(sys_value)`; the key type is `uint32_t`. -/
def findHandler (nr : SyscallNr → BitVec 32) (sysValue : Word arch) : Option SyscallEntry :=
  arch.handlers.find? fun entry => nr entry.nr == sysValue.setWidth 32

/-- The call record an entry or a missing entry leaves, given how the handler's
captured arguments read. -/
def recordText (process : Process arch) (entry : Option SyscallEntry)
    (args : Except HandlerFault (Nat → Word arch)) (call : InstFunCall arch) :
    Except HandlerFault (InstFunCall arch) :=
  match entry with
  | none =>
    .ok { call with
      callModuleName := "kernel_syscall", funName := "unknown", args := [], retType := .kNumber }
  | some entry => do
    let captured ← args
    let text ← HandlerBody.run process captured entry.body
    return text.push
      { call with callModuleName := "kernel_syscall", funName := entry.name, args := [] }

/-- One call, the `activation`-th of the process. `builder` is the activation
that initialised the static table, if any did before. -/
def dispatchArgs (nr : SyscallNr → BitVec 32) (builder : Option Nat) (activation : Nat)
    (process : Process arch) (info : InstTraceInfo arch) (call : InstFunCall arch) :
    Option Nat × Except HandlerFault (InstFunCall arch) :=
  let captured := builder.getD activation
  let args := getArgRegisterValue process info.preStatus
  let sysValue := info.preStatus.gprState.reg arch.syscallReg
  (some captured, recordText process (findHandler nr sysValue)
    (if captured = activation then .ok args else .error .dangling) call)

def recordMemoryInfo (process : Process arch) (info : InstTraceInfo arch) (call : InstFunCall arch)
    (retStatus : GPRState arch) : InstFunCall arch :=
  let retValue := getRetRegisterValue process retStatus 0
  let arg0 := getArgRegisterValue process info.preStatus 0
  let arg1 := getArgRegisterValue process info.preStatus 1
  match call.funName with
  | "mmap" => recordMmap arg1 retValue call
  | "mmap2" => recordMmap arg1 retValue call
  | "munmap" => recordFree arg0 call
  | _ => call

def dispatchRet (process : Process arch) (info : InstTraceInfo arch) (call : InstFunCall arch)
    (retStatus : GPRState arch) : InstFunCall arch :=
  { recordMemoryInfo process info call retStatus with
    retValue := "ret= " ++ toHex (getRetRegisterValue process retStatus 0) }

end DispatchSyscall

end QbdiTracer
