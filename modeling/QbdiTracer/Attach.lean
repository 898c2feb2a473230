import QbdiTracer.CallBack
import QbdiTracer.InitCalls
import QbdiTracer.Library.FirstInsert

/-! `run_attach` of the tracer and the hits of the addresses it patches: the conditions by
address, and the entries that Dobby keeps (`InstructionInstrument.cc`, `Interceptor.cpp`,
`InterceptEntry.cpp`). -/

namespace QbdiTracer

open FirstInsert

variable {arch : Arch}

structure DobbyRegisterContext (arch : Arch) where
  sp : Word arch := 0
  general : ℕ → Word arch := fun _ => 0
  fp : Word arch := 0
  lr : Word arch := 0
  floating : FPRState := default

/-- `doby_to_qbdi` of the general registers. `sp` and `pc` stay as they are. -/
def DobbyRegisterContext.dobyToQbdi (ic : DobbyRegisterContext arch) (status : GPRState arch) :
    GPRState arch :=
  match arch with
  | .arm => ⟨fun i => if i < 13 then ic.general i else if i = 14 then ic.lr else status.reg i⟩
  | .aarch64 =>
    ⟨fun i =>
      if i < 29 then ic.general i
      else if i = 29 then ic.fp
      else if i = 30 then ic.lr
      else status.reg i⟩

/-- `doby_to_qbdi` of the 32 vector registers, which the ARM build leaves alone. -/
def DobbyRegisterContext.dobyToQbdiFloating (ic : DobbyRegisterContext arch) (status : FPRState) :
    FPRState :=
  match arch with
  | .arm => status
  | .aarch64 => ⟨fun i => if i < 512 then ic.floating.vreg i else status.vreg i⟩

structure InterceptEntry (arch : Arch) where
  patchedAddr : Word arch
  thumbMode : Bool := false
  deriving DecidableEq

/-- An odd address on ARM stands for a Thumb instruction. -/
def isThumb (address : Word arch) : Bool := decide (arch = .arm ∧ address.toNat % 2 ≠ 0)

def InterceptEntry.new (address : Word arch) : InterceptEntry arch :=
  if isThumb address then ⟨address - 1, true⟩ else ⟨address, false⟩

def InterceptEntry.find (entries : List (InterceptEntry arch)) (addr : Word arch) :
    Option (InterceptEntry arch) :=
  entries.find? fun entry => entry.patchedAddr = addr

/-- `DobbyInstrument`, where `permitted` tells whether `OSMemory::SetPermission` succeeds; the
result is the comparison with 0. -/
def dobbyInstrument (permitted : Bool) (entries : List (InterceptEntry arch)) (address : Word arch) :
    List (InterceptEntry arch) × Bool :=
  if address = 0 then (entries, false)
  else if !permitted then (entries, false)
  else if (InterceptEntry.find entries address).isSome then (entries, false)
  else (entries ++ [.new address], true)

/-- `inst_at_cond_t`: the answer, and the registers, which it may change. -/
abbrev AttachCond (arch : Arch) :=
  Word arch → DobbyRegisterContext arch → Bool × DobbyRegisterContext arch

structure AttachSession (arch : Arch) where
  tracer : InstructionTracerManager arch := {}
  instAtCondList : Word arch → Option (AttachCond arch) := fun _ => none
  entries : List (InterceptEntry arch) := []

namespace AttachSession

def runAttach (permitted : Bool) (session : AttachSession arch) (atCond : Option (AttachCond arch)) :
    AttachSession arch × Bool :=
  let target := session.tracer.targetTraceAddress
  let instAtCondList := match atCond with
    | some cond => emplaceAt session.instAtCondList target cond
    | none => session.instAtCondList
  let (entries, installed) := dobbyInstrument permitted session.entries target
  ({ session with instAtCondList, entries }, installed)

def checkAttachCond (session : AttachSession arch) (addr : Word arch)
    (ctx : DobbyRegisterContext arch) : Bool × DobbyRegisterContext arch :=
  match session.instAtCondList addr with
  | some cond => cond addr ctx
  | none => (true, ctx)

structure Hit (arch : Arch) where
  session : AttachSession arch
  /-- The registers with which the relocated code goes on afterwards. -/
  ctx : DobbyRegisterContext arch
  traced : Bool

/-- `instrument_forward_handler` with the handler `inst_at_enter`, whose trace sees these
executions. -/
def instAtEnter (process : Process arch) (session : AttachSession arch) (entry : InterceptEntry arch)
    (ctx : DobbyRegisterContext arch) (executions : List (Execution arch)) :
    Except Fault (Hit arch) :=
  let address := entry.patchedAddr
  let (approved, ctx) := session.checkAttachCond address ctx
  if !approved then .ok { session, ctx, traced := false }
  else do
    let vm := session.tracer.vm
    let loaded := { session.tracer with
      vm := { vm with
        gprState := ctx.dobyToQbdi vm.gprState
        fprState := vm.fprState.map ctx.dobyToQbdiFloating } }
    let tracer ← loaded.instAtEnter process executions
    return { session := { session with tracer }, ctx, traced := true }

end AttachSession

inductive AttachCall (arch : Arch) where
  | init (call : InitCall arch)
  | runAttach (permitted : Bool) (atCond : Option (AttachCond arch))
  /-- The code of the entry with this index is reached. -/
  | hit (index : ℕ) (process : Process arch) (ctx : DobbyRegisterContext arch)
      (executions : List (Execution arch))

def AttachCall.apply (session : AttachSession arch) :
    AttachCall arch → Except Fault (AttachSession arch)
  | .init call => .ok { session with tracer := (call.apply session.tracer).1 }
  | .runAttach permitted atCond => .ok (session.runAttach permitted atCond).1
  | .hit index process ctx executions =>
    match session.entries[index]? with
    | none => .ok session
    | some entry =>
      (session.instAtEnter process entry ctx executions).map AttachSession.Hit.session

end QbdiTracer
