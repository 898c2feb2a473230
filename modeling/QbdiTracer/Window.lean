import QbdiTracer.Common

/-! The window of records on its own: what one observed instruction does with the
latest record, which becomes the previous one, and which calls it makes.
Registers, texts and memory tracking are left out. -/

namespace QbdiTracer

variable {arch : Arch}

/-- The events that concern the records themselves. -/
def Event.isControl : Event arch → Bool
  | .args _ _ _ | .ret _ _ _ _ | .written _ _ => true
  | .executed _ | .dumped _ _ _ => false

def control (journal : List (Event arch)) : List (Event arch) := journal.filter Event.isControl

@[simp] theorem control_append (first second : List (Event arch)) :
    control (first ++ second) = control first ++ control second := List.filter_append ..

theorem writtenRecords_control (journal : List (Event arch)) :
    writtenRecords (control journal) = writtenRecords journal := by
  simp only [writtenRecords, control, List.filterMap_filter]
  congr 1
  funext event
  cases event <;> rfl

/-- A call attached to a record: the address of the analysis its line is
written with, and the path its return will take. -/
structure PendingCall (arch : Arch) where
  site : Word arch
  path : CallPath
  deriving DecidableEq

structure Slot (arch : Arch) where
  seq : Nat
  pc : Word arch
  call : Option (PendingCall arch) := none
  deriving DecidableEq

/-- What the window sees of one executed instruction. -/
structure Observation (arch : Arch) where
  seq : Nat
  pc : Word arch
  /-- The `pc` passes the record filter. -/
  recorded : Bool
  /-- Its own record gets a call. -/
  attaches : Bool
  /-- The svc callback fires. -/
  svc : Bool
  path : CallPath
  /-- `x0`/`r0` as the POST callback finds it. -/
  value : Word arch
  deriving DecidableEq

structure Window (arch : Arch) where
  /-- The latest record. -/
  cur : Option (Slot arch) := none
  log : List (Event arch) := []
  deriving DecidableEq

def Observation.slot (seen : Observation arch) : Slot arch :=
  ⟨seen.seq, seen.pc, if seen.attaches then some ⟨seen.pc, seen.path⟩ else none⟩

/-- The record of a slot is written when its `pc` is the given address. -/
def Slot.writes (site : Word arch) (now : Nat) (slot : Slot arch) : List (Event arch) :=
  if slot.pc = site then [.written slot.seq now] else []

def Slot.argsEvents (now : Nat) (slot : Slot arch) : List (Event arch) :=
  match slot.call with
  | none => []
  | some call => [.args slot.seq now call.path]

/-- The previous record's call returns and both slots are offered for its site. -/
def finishEvents (seen : Observation arch) (prev : Option (Slot arch)) : List (Event arch) :=
  match prev with
  | none => []
  | some slot =>
    match slot.call with
    | none => []
    | some call =>
      .ret slot.seq seen.seq call.path seen.value :: slot.writes call.site seen.seq ++
        seen.slot.writes call.site seen.seq

/-- A record without a call is written at once, with whatever else matches. -/
def ownEvents (seen : Observation arch) (prev : Option (Slot arch)) : List (Event arch) :=
  if seen.attaches then []
  else (prev.map (Slot.writes seen.pc seen.seq)).getD [] ++ [.written seen.seq seen.seq]

namespace Window

/-- An svc outside the record filter attaches a call to the latest record. -/
def attachSvc (site : Word arch) (slot : Slot arch) : Slot arch :=
  { slot with call := slot.call <|> some ⟨site, .dispatched (some .syscall)⟩ }

def observe (window : Window arch) (seen : Observation arch) : Window arch :=
  if seen.recorded then
    { cur := some seen.slot
      log := window.log ++ seen.slot.argsEvents seen.seq ++ finishEvents seen window.cur ++
        ownEvents seen window.cur }
  else if seen.svc then { window with cur := window.cur.map (attachSvc seen.pc) }
  else window

def observeAll (window : Window arch) (stream : List (Observation arch)) : Window arch :=
  stream.foldl observe window

end Window

end QbdiTracer
