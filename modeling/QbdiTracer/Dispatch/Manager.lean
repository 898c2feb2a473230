import QbdiTracer.Dispatch.Syscall

/-! `trace/instruction_dispatch_manager.cpp`: an svc goes to `DispatchSyscall`,
any other call to the first dispatcher of the list that claims its target. -/

namespace QbdiTracer

variable {arch : Arch}

/-- The text an svc record carries after `DispatchSyscall::dispatch_args`. -/
structure SyscallText where
  funName : String
  args : List String
  retType : FunDataType

def SyscallText.store (text : SyscallText) (call : InstFunCall arch) : InstFunCall arch :=
  { call with
    callModuleName := "kernel_syscall", funName := text.funName, args := text.args,
    retType := text.retType }

/-- Whenever `dispatch_args` of the syscall dispatcher is defined, it writes a
text into the call and leaves the address, memory and svc fields alone. -/
theorem DispatchSyscall.dispatchArgs_store {nr : SyscallNr → BitVec 32} {builder : Option Nat}
    {activation : Nat} {process : Process arch} {info : InstTraceInfo arch}
    {call result : InstFunCall arch}
    (defined : (dispatchArgs nr builder activation process info call).2 = .ok result) :
    ∃ text : SyscallText, result = text.store call := by
  simp only [dispatchArgs, recordText] at defined
  split at defined
  · exact ⟨⟨"unknown", [], .kNumber⟩, (Except.ok.inj defined).symm⟩
  · rename_i entry found
    generalize readArgs : (if builder.getD activation = activation then
      (.ok (getArgRegisterValue process info.preStatus) : Except HandlerFault (Nat → Word arch))
      else .error .dangling) = captured at defined
    cases captured with
    | error fault => cases defined
    | ok values =>
      cases ran : HandlerBody.run process values entry.body with
      | error fault => simp [ran, bind, Except.bind] at defined
      | ok text =>
        simp only [ran, bind, Except.bind, pure, Except.pure, Except.ok.injEq] at defined
        exact ⟨⟨entry.name, text.args, text.retType.getD call.retType⟩, by
          simp [← defined, HandlerText.push, SyscallText.store]⟩

/-- The singleton dispatchers. `syscallText` is what the syscall dispatcher
leaves in an svc record; the results about runs hold whatever it is, also where
the captured references of the handler table have gone stale. -/
structure InstructionDispatchManager (arch : Arch) where
  libc : DispatchBase arch
  libz : DispatchBase arch
  jniEnv : DispatchBase arch
  syscallText : Process arch → InstTraceInfo arch → SyscallText

/-- The loop over `dispatch_list`: the first dispatcher that returns true. -/
def firstClaim (call : InstFunCall arch) (libc libz jniEnv : Option (InstFunCall arch)) :
    InstFunCall arch × Option Dispatcher :=
  match libc, libz, jniEnv with
  | some dispatched, _, _ => (dispatched, some .libc)
  | none, some dispatched, _ => (dispatched, some .libz)
  | none, none, some dispatched => (dispatched, some .jniEnv)
  | none, none, none => (call, none)

namespace InstructionDispatchManager

/-- Returns the call and the dispatcher that claimed it. -/
def dispatchArgs (manager : InstructionDispatchManager arch) (process : Process arch)
    (info : InstTraceInfo arch) (call : InstFunCall arch) :
    InstFunCall arch × Option Dispatcher :=
  if call.isSvc then ((manager.syscallText process info).store call, some .syscall)
  else firstClaim call (DispatchLibc.dispatchArgs manager.libc process info call)
    (DispatchLibz.dispatchArgs manager.libz process info call)
    (DispatchJNIEnv.dispatchArgs manager.jniEnv process info call)

def dispatchRet (manager : InstructionDispatchManager arch) (process : Process arch)
    (info : InstTraceInfo arch) (call : InstFunCall arch) (retStatus : GPRState arch) :
    InstFunCall arch × Option Dispatcher :=
  if call.isSvc then (DispatchSyscall.dispatchRet process info call retStatus, some .syscall)
  else firstClaim call (DispatchLibc.dispatchRet manager.libc process info call retStatus)
    (DispatchLibz.dispatchRet manager.libz process call retStatus)
    (DispatchJNIEnv.dispatchRet manager.jniEnv process call retStatus)

/-- An svc record is left as the handlers of the syscall dispatcher leave it, for the text they
come to. -/
theorem dispatchArgs_syscall (manager : InstructionDispatchManager arch)
    {nr : SyscallNr → BitVec 32} {builder : Option Nat} {activation : Nat} {process : Process arch}
    {info : InstTraceInfo arch} {call result : InstFunCall arch} (svc : call.isSvc = true)
    (defined : (DispatchSyscall.dispatchArgs nr builder activation process info call).2 =
      .ok result) :
    ∃ text, { manager with syscallText := fun _ _ => text }.dispatchArgs process info call =
      (result, some .syscall) := by
  obtain ⟨text, rfl⟩ := DispatchSyscall.dispatchArgs_store defined
  exact ⟨text, if_pos svc⟩

/-- The dispatcher responsible for a call, by svc flag and target address. -/
def claimant (manager : InstructionDispatchManager arch) (isSvc : Bool) (target : Word arch) :
    Option Dispatcher :=
  if isSvc then some .syscall
  else if manager.libc.isModuleAddress target then some .libc
  else if manager.libz.isModuleAddress target then some .libz
  else if manager.jniEnv.isModuleAddress target then some .jniEnv
  else none

end InstructionDispatchManager

theorem firstClaim_snd (call : InstFunCall arch) (libc libz jniEnv : Option (InstFunCall arch)) :
    (firstClaim call libc libz jniEnv).2 =
      if libc.isSome then some .libc else if libz.isSome then some .libz
      else if jniEnv.isSome then some .jniEnv else none := by
  cases libc <;> cases libz <;> cases jniEnv <;> rfl

theorem firstClaim_fst {P : InstFunCall arch → Prop} {call : InstFunCall arch}
    {libc libz jniEnv : Option (InstFunCall arch)} (own : P call) (fromLibc : ∀ c ∈ libc, P c)
    (fromLibz : ∀ c ∈ libz, P c) (fromJni : ∀ c ∈ jniEnv, P c) :
    P (firstClaim call libc libz jniEnv).1 := by
  cases libc with
  | some dispatched => exact fromLibc dispatched rfl
  | none =>
    cases libz with
    | some dispatched => exact fromLibz dispatched rfl
    | none =>
      cases jniEnv with
      | some dispatched => exact fromJni dispatched rfl
      | none => exact own

/-- The fields of a call that decide its path, and the block it releases. No
`dispatch_args` changes any of them. -/
structure CallKey (arch : Arch) where
  isSvc : Bool
  funAddress : Word arch
  memoryFreeAddress : Word arch

def InstFunCall.key (call : InstFunCall arch) : CallKey arch :=
  ⟨call.isSvc, call.funAddress, call.memoryFreeAddress⟩

theorem DispatchBase.dispatchArgsByTable_isSome (moduleName : String) (dispatch : DispatchBase arch)
    (process : Process arch) (info : InstTraceInfo arch) (call : InstFunCall arch) :
    (dispatch.dispatchArgsByTable moduleName process info call).isSome =
      dispatch.isModuleAddress call.funAddress := by
  simp only [dispatchArgsByTable]
  split
  · rename_i inside
    split
    · simp [inside]
    · split <;> simp [inside]
  · simp_all

theorem DispatchBase.dispatchArgsByTable_key {moduleName : String} {dispatch : DispatchBase arch}
    {process : Process arch} {info : InstTraceInfo arch} {call dispatched : InstFunCall arch}
    (claimed : dispatched ∈ dispatch.dispatchArgsByTable moduleName process info call) :
    dispatched.key = call.key := by
  simp only [dispatchArgsByTable, Option.mem_def] at claimed
  split at claimed
  · split at claimed
    · cases claimed; rfl
    · split at claimed <;> cases claimed <;> rfl
  · cases claimed

namespace DispatchJNIEnv

theorem dispatchArgs_isSome (dispatch : DispatchBase arch) (process : Process arch)
    (info : InstTraceInfo arch) (call : InstFunCall arch) :
    (dispatchArgs dispatch process info call).isSome =
      dispatch.isModuleAddress call.funAddress := by
  simp only [dispatchArgs]
  split
  · rename_i inside
    split <;> simp [inside]
  · simp_all

theorem dispatchArgs_key {dispatch : DispatchBase arch} {process : Process arch}
    {info : InstTraceInfo arch} {call dispatched : InstFunCall arch}
    (claimed : dispatched ∈ dispatchArgs dispatch process info call) :
    dispatched.key = call.key := by
  simp only [dispatchArgs, Option.mem_def] at claimed
  split at claimed
  · split at claimed <;> cases claimed <;> rfl
  · cases claimed

theorem dispatchRet_isSome (dispatch : DispatchBase arch) (process : Process arch)
    (call : InstFunCall arch) (retStatus : GPRState arch) :
    (dispatchRet dispatch process call retStatus).isSome =
      dispatch.isModuleAddress call.funAddress := by
  simp only [dispatchRet]
  split
  · rename_i inside
    split <;> simp [inside]
  · simp_all

end DispatchJNIEnv

theorem DispatchLibc.dispatchRet_isSome (dispatch : DispatchBase arch) (process : Process arch)
    (info : InstTraceInfo arch) (call : InstFunCall arch) (retStatus : GPRState arch) :
    (dispatchRet dispatch process info call retStatus).isSome =
      dispatch.isModuleAddress call.funAddress := by
  simp only [dispatchRet]
  split
  · rename_i inside
    cases call.retType <;> simp [inside]
  · simp_all

theorem DispatchLibz.dispatchRet_isSome (dispatch : DispatchBase arch) (process : Process arch)
    (call : InstFunCall arch) (retStatus : GPRState arch) :
    (dispatchRet dispatch process call retStatus).isSome =
      dispatch.isModuleAddress call.funAddress := by
  simp only [dispatchRet]
  split
  · rename_i inside
    cases call.retType <;> simp [inside]
  · simp_all

namespace InstructionDispatchManager

/-- Both passes reach the responsible dispatcher: it depends only on the svc
flag and the target, which `dispatch_args` leaves alone. -/
theorem dispatchArgs_claimant (manager : InstructionDispatchManager arch) (process : Process arch)
    (info : InstTraceInfo arch) (call : InstFunCall arch) :
    (manager.dispatchArgs process info call).2 =
      manager.claimant call.isSvc call.funAddress := by
  simp only [dispatchArgs, claimant]
  split
  · rfl
  · simp only [firstClaim_snd, DispatchLibc.dispatchArgs, DispatchLibz.dispatchArgs,
      DispatchBase.dispatchArgsByTable_isSome, DispatchJNIEnv.dispatchArgs_isSome]

theorem dispatchRet_claimant (manager : InstructionDispatchManager arch) (process : Process arch)
    (info : InstTraceInfo arch) (call : InstFunCall arch) (retStatus : GPRState arch) :
    (manager.dispatchRet process info call retStatus).2 =
      manager.claimant call.isSvc call.funAddress := by
  simp only [dispatchRet, claimant]
  split
  · rfl
  · simp only [firstClaim_snd, DispatchLibc.dispatchRet_isSome, DispatchLibz.dispatchRet_isSome,
      DispatchJNIEnv.dispatchRet_isSome]

theorem dispatchArgs_key (manager : InstructionDispatchManager arch) (process : Process arch)
    (info : InstTraceInfo arch) (call : InstFunCall arch) :
    (manager.dispatchArgs process info call).1.key = call.key := by
  simp only [dispatchArgs]
  split
  · rfl
  · exact firstClaim_fst (P := fun dispatched => dispatched.key = call.key) rfl
      (fun _ claimed => DispatchBase.dispatchArgsByTable_key claimed)
      (fun _ claimed => DispatchBase.dispatchArgsByTable_key claimed)
      (fun _ claimed => DispatchJNIEnv.dispatchArgs_key claimed)

/-- The return pass reads `x0`/`r0` and nothing else of the registers it is given:
return text and allocated address are functions of that word. -/
theorem dispatchRet_congr (manager : InstructionDispatchManager arch) (process : Process arch)
    (info : InstTraceInfo arch) (call : InstFunCall arch) {first second : GPRState arch}
    (same : first.reg 0 = second.reg 0) :
    manager.dispatchRet process info call first = manager.dispatchRet process info call second := by
  simp only [dispatchRet, DispatchSyscall.dispatchRet, DispatchSyscall.recordMemoryInfo,
    DispatchLibc.dispatchRet, DispatchLibc.recordMemoryInfo, DispatchLibz.dispatchRet,
    DispatchJNIEnv.dispatchRet, addCommonReturnValue, getRetRegisterValue_zero, same]

end InstructionDispatchManager

end QbdiTracer
