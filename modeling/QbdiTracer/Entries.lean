import QbdiTracer.RecordOrder

/-! Tracer entries one after the other. The VM keeps its callbacks from one entry
to the next, so each instruction of a later entry meets several of each kind. -/

namespace QbdiTracer

open FlowRun

variable {arch : Arch}

/-- The part of a record that decides which lines are written. -/
structure RecordShape (arch : Arch) where
  seq : Nat
  pc : Word arch
  hasCall : Bool
  instAnalysis : Option (InstAnalysis arch)

def InstTraceInfo.shape (info : InstTraceInfo arch) : RecordShape arch :=
  ⟨info.seq, info.pc, info.funCall.isSome, info.instAnalysis⟩

namespace RecordShape

def writes (site : Word arch) (shape : RecordShape arch) : List Nat :=
  if shape.pc = site then [shape.seq] else []

/-- The records one POST callback writes, on a window of these shapes. -/
def postWrites (address : Word arch) (prev : Option (RecordShape arch)) (cur : RecordShape arch) :
    List Nat :=
  (match prev with
    | none => []
    | some prev =>
      match prev.hasCall, prev.instAnalysis with
      | true, some inst => prev.writes inst.address ++ cur.writes inst.address
      | _, _ => []) ++
  if cur.hasCall then []
  else (prev.map (writes address)).getD [] ++ cur.writes address

/-- The same for any window: nothing when the callback returns early. -/
def block (recorded : Bool) (address : Word arch)
    (shapes : Option (RecordShape arch) × Option (RecordShape arch)) : List Nat :=
  match shapes.2 with
  | none => []
  | some cur => if recorded ∧ cur.pc = address then postWrites address shapes.1 cur else []

/-- No record of its own, nothing to write. -/
theorem block_absent {recorded : Bool} {address : Word arch}
    {shapes : Option (RecordShape arch) × Option (RecordShape arch)}
    (absent : shapes.2.all (·.pc ≠ address)) : block recorded address shapes = [] := by
  obtain ⟨prev, cur⟩ := shapes
  cases cur with
  | none => rfl
  | some cur => simp_all [block]

end RecordShape

namespace InstructionInfoManager

def shapes (manager : InstructionInfoManager arch) :
    Option (RecordShape arch) × Option (RecordShape arch) :=
  (manager.preInfo.map InstTraceInfo.shape, manager.curInfo.map InstTraceInfo.shape)

def written (manager : InstructionInfoManager arch) : List Nat := writtenRecords manager.journal

theorem writtenRecords_slotWrites (site : Word arch) (now : Nat) (slot : Option (InstTraceInfo arch)) :
    writtenRecords (slotWrites site now slot) =
      (slot.map fun info => info.shape.writes site).getD [] := by
  cases slot with
  | none => rfl
  | some info =>
    by_cases here : info.pc = site <;>
      simp [slotWrites, RecordShape.writes, InstTraceInfo.shape, here]

theorem Logged.shapes {before after : InstructionInfoManager arch} {events : List (Event arch)}
    (logged : Logged before after events) : after.shapes = before.shapes := by
  simp only [InstructionInfoManager.shapes, logged.preInfo, logged.curInfo]

theorem Logged.written {before after : InstructionInfoManager arch} {events : List (Event arch)}
    (logged : Logged before after events) :
    after.written = before.written ++ writtenRecords events := by
  rw [InstructionInfoManager.written, ← writtenRecords_control, logged.log, writtenRecords_append,
    writtenRecords_control]
  rfl

end InstructionInfoManager

namespace InstructionTracerManager

open InstructionInfoManager (writtenRecords_slotWrites)

theorem writtenRecords_postEvents (execution : Execution arch)
    (tracer : InstructionTracerManager arch) (manager : InstructionInfoManager arch)
    (info : InstTraceInfo arch) :
    writtenRecords (tracer.postEvents execution manager info) =
      RecordShape.postWrites execution.pc (manager.preInfo.map InstTraceInfo.shape) info.shape := by
  have args : writtenRecords (tracer.argsEvents manager info) = [] := by
    cases call : info.funCall <;> simp [argsEvents, call]
  have returns : writtenRecords (tracer.returnEvents { manager with curInfo := some info }) =
      match manager.preInfo.map InstTraceInfo.shape with
      | none => []
      | some prev =>
        match prev.hasCall, prev.instAnalysis with
        | true, some inst => prev.writes inst.address ++ info.shape.writes inst.address
        | _, _ => [] := by
    cases prevInfo : manager.preInfo with
    | none => simp [returnEvents]
    | some prev =>
      cases call : prev.funCall <;> cases analysis : prev.instAnalysis <;>
        simp [returnEvents, call, analysis, InstTraceInfo.shape,
          writtenRecords_slotWrites]
  have own : writtenRecords (tracer.ownWrites execution { manager with curInfo := some info } info) =
      if info.shape.hasCall then [] else
        ((manager.preInfo.map InstTraceInfo.shape).map (RecordShape.writes execution.pc)).getD [] ++
          info.shape.writes execution.pc := by
    cases call : info.funCall <;>
      simp [ownWrites, call, InstTraceInfo.shape, writtenRecords_slotWrites, Execution.pc,
        Function.comp_def]
  simp only [postEvents, writtenRecords_append, args, List.nil_append, returns, own,
    RecordShape.postWrites]

theorem postWindow_shapes {execution : Execution arch} {tracer : InstructionTracerManager arch}
    {manager : InstructionInfoManager arch} {info : InstTraceInfo arch}
    (current : manager.curInfo = some info) :
    (tracer.postWindow execution manager info).shapes = manager.shapes := by
  have prev : (tracer.postWindow execution manager info).preInfo.map InstTraceInfo.shape =
      manager.preInfo.map InstTraceInfo.shape := by
    rw [postWindow, Option.map_map]
    congr 1
    funext other
    simp [InstTraceInfo.shape, returnedInfo]
  have cur : (tracer.postWindow execution manager info).curInfo.map InstTraceInfo.shape =
      manager.curInfo.map InstTraceInfo.shape := by
    simp [current, postWindow, InstTraceInfo.shape, postedInfo, savedInfo]
  simp only [InstructionInfoManager.shapes, prev, cur]

section Block

variable {execution : Execution arch} {tracer after : InstructionTracerManager arch}
  {manager : InstructionInfoManager arch} {flow : VMAction}

/-- One POST callback writes a block that it leaves the window ready to write
again. It stops the run only on a recorded instruction without a record. -/
theorem postInstructionCall_block (present : tracer.infoManager = some manager)
    (done : tracer.postInstructionCall execution = .ok (flow, after)) :
    ∃ finished, after.infoManager = some finished ∧ finished.shapes = manager.shapes ∧
      finished.written = manager.written ++
        RecordShape.block (tracer.isNeedRecord execution.pc) execution.pc manager.shapes ∧
      (flow = .stop → tracer.isNeedRecord execution.pc = true ∧
        manager.shapes.2.all (·.pc ≠ execution.pc)) := by
  cases postInstructionCall_step done with
  | skips filtered =>
    refine ⟨manager, present, rfl, ?_, by simp⟩
    have passes : tracer.isNeedRecord execution.pc = false := filtered
    cases current : manager.curInfo <;>
      simp [RecordShape.block, InstructionInfoManager.shapes, current, passes]
  | stops recorded foreign =>
    have elsewhere : manager.shapes.2.all (·.pc ≠ execution.pc) := by
      have other := foreign manager present
      cases current : manager.curInfo with
      | none => simp [InstructionInfoManager.shapes, current]
      | some info =>
        rw [InstructionInfoManager.shapes, current]
        exact decide_eq_true (other info current)
    refine ⟨manager, present, rfl, ?_, fun _ => ⟨recorded, elsewhere⟩⟩
    rw [RecordShape.block_absent elsewhere, List.append_nil]
  | posts recorded found current own hook returns writes =>
    cases found.symm.trans present
    have logged := postPasses_logged returns writes
    refine ⟨_, rfl, ?_, ?_, by simp⟩
    · exact logged.shapes.trans (postWindow_shapes current)
    · have passes : tracer.isNeedRecord execution.pc = true := recorded
      rw [logged.written, writtenRecords_postEvents, passes]
      simp [RecordShape.block, InstructionInfoManager.shapes, current, InstTraceInfo.shape, own,
        postWindow, InstructionInfoManager.written, Execution.pc]

/-- The POST callbacks of one instruction write one block each. -/
theorem firePost_blocks {callbacks : List CallbackKind} (present : tracer.infoManager = some manager)
    (done : run (firePost execution) tracer callbacks = .ok (flow, after)) :
    ∃ finished, after.infoManager = some finished ∧
      finished.written = manager.written ++ (List.replicate (callbacks.count .postInstruction)
        (RecordShape.block (tracer.isNeedRecord execution.pc) execution.pc
          manager.shapes)).flatten ∧
      (flow = .stop → tracer.isNeedRecord execution.pc = true ∧
        manager.shapes.2.all (·.pc ≠ execution.pc)) := by
  induction callbacks generalizing tracer manager with
  | nil =>
    simp only [run_nil, Except.ok.injEq, Prod.mk.injEq] at done
    exact ⟨manager, done.2 ▸ present, by simp, fun stopped => by cases done.1.trans stopped⟩
  | cons callback rest ih =>
    rw [run_cons] at done
    cases callback with
    | preInstruction => simpa using ih present done
    | preSvc => simpa using ih present done
    | postInstruction =>
      cases posted : tracer.postInstructionCall execution with
      | error fault => simp [firePost, posted] at done
      | ok result =>
        obtain ⟨verdict, next⟩ := result
        obtain ⟨middle, found, sameShapes, written, stops⟩ := postInstructionCall_block present posted
        cases verdict with
        | stop =>
          simp only [firePost, posted, Except.ok.injEq, Prod.mk.injEq] at done
          obtain ⟨-, rfl⟩ := done
          exact ⟨middle, found, by simp [written, RecordShape.block_absent (stops rfl).2],
            fun _ => stops rfl⟩
        | next =>
          simp only [firePost, posted] at done
          obtain ⟨finished, ended, later, stopped⟩ := ih found done
          rw [sameShapes, config_isNeedRecord (postInstructionCall_config posted)] at later stopped
          refine ⟨finished, ended, ?_, stopped⟩
          rw [later, written]
          simp [List.replicate_succ]

/-- The PRE callbacks write nothing and do not stop the run. -/
theorem firePre_written {callbacks : List CallbackKind} (present : tracer.infoManager = some manager)
    (done : run (firePre execution) tracer callbacks = .ok (flow, after)) :
    flow = .next ∧ ∃ opened, after.infoManager = some opened ∧ opened.written = manager.written := by
  obtain ⟨goes, opened, found, -, journal⟩ := firePre_quiet present done
  exact ⟨goes, opened, found, congrArg writtenRecords journal⟩

theorem noteExecuted_written (execution : Execution arch) (point : NativePoint)
    (present : tracer.infoManager = some manager) :
    ∃ noted, (tracer.noteExecuted execution point).infoManager = some noted ∧
      noted.written = manager.written := by
  obtain ⟨noted, same, logged⟩ := noteExecuted_logged execution point present
  exact ⟨noted, by rw [same], by simpa using logged.written⟩

/-- Each POST registration writes the same lines: the number of lines of any
record grows by a multiple of the number of registrations. -/
def GrowsBy (factor : Nat) (before after : List Nat) : Prop :=
  ∃ new, after = before ++ new ∧ ∀ record, factor ∣ new.count record

theorem GrowsBy.refl (factor : Nat) (lines : List Nat) : GrowsBy factor lines lines :=
  ⟨[], by simp, by simp⟩

theorem GrowsBy.trans {factor : Nat} {first second third : List Nat}
    (head : GrowsBy factor first second) (tail : GrowsBy factor second third) :
    GrowsBy factor first third := by
  obtain ⟨new, rfl, divides⟩ := head
  obtain ⟨later, rfl, dividesLater⟩ := tail
  refine ⟨new ++ later, by simp, fun record => ?_⟩
  rw [List.count_append]
  exact Nat.dvd_add (divides record) (dividesLater record)

theorem GrowsBy.replicate (factor : Nat) (lines block : List Nat) :
    GrowsBy factor lines (lines ++ (List.replicate factor block).flatten) := by
  refine ⟨_, rfl, fun record => ?_⟩
  simp [List.count_flatten]

/-- The POST callbacks of an instruction, counted from its start. -/
theorem executed_growsBy {ready : InstructionTracerManager arch}
    (present : tracer.infoManager = some manager)
    (opens : run (firePre execution) (tracer.loadPre execution) tracer.vm.callbacks =
      .ok (.next, ready))
    (posts : run (firePost execution) (ready.executed execution) ready.vm.callbacks =
      .ok (flow, after)) :
    ∃ finished, after.infoManager = some finished ∧
      GrowsBy (tracer.vm.callbacks.count .postInstruction) manager.written finished.written := by
  have loaded : (tracer.loadPre execution).infoManager = some manager := present
  obtain ⟨-, opened, found, same⟩ := firePre_written loaded opens
  obtain ⟨noted, here, sameNoted⟩ := noteExecuted_written execution .beforePost found
  have executed : (ready.executed execution).infoManager = some noted := here
  have registered := config_callbacks (firePre_config opens)
  change ready.vm.callbacks = tracer.vm.callbacks at registered
  obtain ⟨finished, ended, grows, -⟩ := firePost_blocks executed posts
  refine ⟨finished, ended, ?_⟩
  rw [grows, sameNoted, same, registered]
  exact .replicate ..

theorem execute_growsBy (present : tracer.infoManager = some manager)
    (done : tracer.execute execution = .ok (flow, after)) :
    ∃ finished, after.infoManager = some finished ∧
      GrowsBy (tracer.vm.callbacks.count .postInstruction) manager.written finished.written := by
  have loaded : (tracer.loadPre execution).infoManager = some manager := present
  cases execute_stage done with
  | atPre opens =>
    obtain ⟨-, opened, found, same⟩ := firePre_written loaded opens
    exact ⟨opened, found, same ▸ .refl ..⟩
  | atPost opens posts => exact executed_growsBy present opens posts
  | through opens posts =>
    obtain ⟨finished, ended, grows⟩ := executed_growsBy present opens posts
    obtain ⟨last, final, sameLast⟩ := noteExecuted_written execution .afterPost ended
    exact ⟨last, final, sameLast ▸ grows⟩

theorem run_growsBy {executions : List (Execution arch)}
    (present : tracer.infoManager = some manager)
    (ran : run execute tracer executions = .ok (flow, after)) :
    after.vm.callbacks = tracer.vm.callbacks ∧ ∃ finished, after.infoManager = some finished ∧
      GrowsBy (tracer.vm.callbacks.count .postInstruction) manager.written finished.written := by
  refine run_invariant (fun state : InstructionTracerManager arch =>
    state.vm.callbacks = tracer.vm.callbacks ∧ ∃ finished, state.infoManager = some finished ∧
      GrowsBy (tracer.vm.callbacks.count .postInstruction) manager.written finished.written)
    ?_ ⟨rfl, manager, present, .refl ..⟩ ran
  rintro before execution flow next ⟨registered, middle, found, grows⟩ taken
  obtain ⟨finished, ended, more⟩ := execute_growsBy found taken
  rw [registered] at more
  exact ⟨(execute_callbacks taken).trans registered, finished, ended, grows.trans more⟩

end Block

/-- The two ways a trace is entered. -/
inductive EntryKind where
  | run
  | attach
  deriving DecidableEq, Repr

/-- `run()` or a hit of `inst_at_enter`. -/
def enter (kind : EntryKind) (process : Process arch) (tracer : InstructionTracerManager arch)
    (executions : List (Execution arch)) : Except Fault (InstructionTracerManager arch) :=
  match kind with
  | .run => runTracer process tracer executions
  | .attach => instAtEnter process tracer executions

/-- What happens to the singleton tracer between two moments. -/
inductive Operation (arch : Arch) where
  | enter (kind : EntryKind) (process : Process arch) (executions : List (Execution arch))
  | initSymbol (loader : Loader arch) (name symbol : String)
  | initOffset (loader : Loader arch) (name : String) (offset : Word arch)
  | initAddress (loader : Loader arch) (address : Word arch)

def Operation.entryKind? : Operation arch → Option EntryKind
  | .enter kind _ _ => some kind
  | _ => none

/-- The entries of a history, in order. -/
def entries (history : List (Operation arch)) : List EntryKind :=
  history.filterMap Operation.entryKind?

def Operation.apply (tracer : InstructionTracerManager arch) :
    Operation arch → Except Fault (InstructionTracerManager arch)
  | .enter kind process executions => tracer.enter kind process executions
  | .initSymbol loader name symbol => .ok (tracer.initSymbol loader name symbol).1
  | .initOffset loader name offset => .ok (tracer.initOffset loader name offset).1
  | .initAddress loader address => .ok (tracer.initAddress loader address).1

def applyAll (tracer : InstructionTracerManager arch) (history : List (Operation arch)) :
    Except Fault (InstructionTracerManager arch) :=
  history.foldlM Operation.apply tracer

/-- The records written so far. -/
def written (tracer : InstructionTracerManager arch) : List Nat :=
  (tracer.infoManager.map InstructionInfoManager.written).getD []

/-- How often an entry writes a record. -/
def timesLogged (before after : InstructionTracerManager arch) (record : Nat) : Nat :=
  after.written.count record - before.written.count record

section History

variable {kind : EntryKind} {process : Process arch} {tracer after : InstructionTracerManager arch}
  {executions : List (Execution arch)}

theorem enter_eq (kind : EntryKind) (process : Process arch) (tracer : InstructionTracerManager arch)
    (executions : List (Execution arch)) :
    tracer.enter kind process executions = (do
      let returned ← (tracer.register (onceCallbacks (kind == .run))).vmCall executions
      returned.flushInfo process) := by
  cases kind <;> rfl

/-- An entry that returns has run its instructions and flushed the window. -/
theorem enter_ok (entered : tracer.enter kind process executions = .ok after) :
    ∃ flow returned manager,
      run execute (tracer.register (onceCallbacks (kind == .run))) executions =
        .ok (flow, returned) ∧
      returned.infoManager = some manager ∧
      after = { returned with infoManager := some (manager.flush process) } := by
  rw [enter_eq] at entered
  simp only [vmCall] at entered
  cases result : run execute (tracer.register (onceCallbacks (kind == .run))) executions with
  | error fault => simp [result, Except.map, bind, Except.bind] at entered
  | ok pair =>
    obtain ⟨flow, returned⟩ := pair
    simp only [result, Except.map, bind, Except.bind, flushInfo] at entered
    cases present : returned.infoManager with
    | none => simp [present] at entered
    | some manager =>
      simp only [present, Except.ok.injEq] at entered
      exact ⟨flow, returned, manager, rfl, present, entered.symm⟩

theorem count_onceCallbacks (svcHook : Bool) :
    (onceCallbacks svcHook).count .postInstruction = 1 := by
  cases svcHook <;> rfl

theorem run_callbacks {flow : VMAction} (ran : run execute tracer executions = .ok (flow, after)) :
    after.vm.callbacks = tracer.vm.callbacks :=
  run_invariant (fun state : InstructionTracerManager arch =>
    state.vm.callbacks = tracer.vm.callbacks)
    (fun _ _ _ _ same taken => (execute_callbacks taken).trans same) rfl ran

theorem enter_callbacks (entered : tracer.enter kind process executions = .ok after) :
    after.vm.callbacks = tracer.vm.callbacks ++ onceCallbacks (kind == .run) := by
  obtain ⟨flow, returned, manager, ran, -, rfl⟩ := enter_ok entered
  exact run_callbacks ran

/-- What an `init` does to the callbacks, the record filter and the window:
nothing, or a new info manager. -/
structure Reinitialised (before after : InstructionTracerManager arch) : Prop where
  callbacks : after.vm.callbacks = before.vm.callbacks
  ranges : after.recordRanges = before.recordRanges
  window : after.infoManager = before.infoManager ∨ ∃ manager, after.infoManager = some manager ∧
    manager.preInfo = none ∧ manager.curInfo = none ∧ manager.journal = []

theorem allocFixStack_reinitialised (loader : Loader arch) (tracer : InstructionTracerManager arch) :
    (tracer.allocFixStack loader).vm.callbacks = tracer.vm.callbacks ∧
      (tracer.allocFixStack loader).recordRanges = tracer.recordRanges ∧
      (tracer.allocFixStack loader).infoManager = tracer.infoManager := by
  simp only [allocFixStack, setStackPointers]
  repeat' split
  all_goals exact ⟨rfl, rfl, rfl⟩

theorem initSymbol_reinitialised (loader : Loader arch) (tracer : InstructionTracerManager arch)
    (name symbol : String) : Reinitialised tracer (tracer.initSymbol loader name symbol).1 := by
  have stack := allocFixStack_reinitialised loader
    { tracer with moduleName := name, symbolName := symbol }
  simp only [initSymbol]
  split
  · exact ⟨stack.1, stack.2.1, .inl stack.2.2⟩
  · split
    · exact ⟨stack.1, stack.2.1, .inl stack.2.2⟩
    · exact ⟨stack.1, stack.2.1, .inr ⟨_, rfl, rfl, rfl, rfl⟩⟩

theorem initOffset_reinitialised (loader : Loader arch) (tracer : InstructionTracerManager arch)
    (name : String) (offset : Word arch) :
    Reinitialised tracer (tracer.initOffset loader name offset).1 := by
  have stack := allocFixStack_reinitialised loader { tracer with moduleName := name }
  simp only [initOffset]
  split
  · exact ⟨stack.1, stack.2.1, .inl stack.2.2⟩
  · split
    · exact ⟨stack.1, stack.2.1, .inl stack.2.2⟩
    · exact ⟨stack.1, stack.2.1, .inr ⟨_, rfl, rfl, rfl, rfl⟩⟩

theorem initAddress_reinitialised (loader : Loader arch) (tracer : InstructionTracerManager arch)
    (address : Word arch) : Reinitialised tracer (tracer.initAddress loader address).1 := by
  have stack := allocFixStack_reinitialised loader { tracer with targetTraceAddress := address }
  simp only [initAddress]
  split
  · exact ⟨stack.1, stack.2.1, .inl stack.2.2⟩
  · exact ⟨stack.1, stack.2.1, .inr ⟨_, rfl, rfl, rfl, rfl⟩⟩

/-- The callbacks an entry leaves registered. -/
def EntryKind.registers (kind : EntryKind) : List CallbackKind := onceCallbacks (kind == .run)

theorem Operation.apply_callbacks {operation : Operation arch}
    (done : operation.apply tracer = .ok after) :
    after.vm.callbacks =
      tracer.vm.callbacks ++ operation.entryKind?.toList.flatMap EntryKind.registers := by
  cases operation with
  | enter kind process executions => simpa [entryKind?, EntryKind.registers] using enter_callbacks done
  | initSymbol loader name symbol =>
    cases done
    exact (tracer.initSymbol_reinitialised loader name symbol).callbacks.trans (List.append_nil _).symm
  | initOffset loader name offset =>
    cases done
    exact (tracer.initOffset_reinitialised loader name offset).callbacks.trans (List.append_nil _).symm
  | initAddress loader address =>
    cases done
    exact (tracer.initAddress_reinitialised loader address).callbacks.trans (List.append_nil _).symm

theorem applyAll_cons (operation : Operation arch) (history : List (Operation arch)) :
    tracer.applyAll (operation :: history) =
      (operation.apply tracer).bind fun next => next.applyAll history := rfl

theorem entries_cons (operation : Operation arch) (history : List (Operation arch)) :
    entries (operation :: history) = operation.entryKind?.toList ++ entries history := by
  cases kind : operation.entryKind? <;> simp [entries, kind]

/-- A history leaves the callbacks of all its entries registered. -/
theorem applyAll_callbacks {history : List (Operation arch)}
    (done : tracer.applyAll history = .ok after) :
    after.vm.callbacks = tracer.vm.callbacks ++ (entries history).flatMap EntryKind.registers := by
  induction history generalizing tracer with
  | nil =>
    cases done
    exact (List.append_nil _).symm
  | cons operation history ih =>
    rw [applyAll_cons] at done
    obtain ⟨next, applied, others⟩ := bind_ok done
    have rest := ih others
    rw [rest, Operation.apply_callbacks applied, entries_cons, List.flatMap_append,
      List.append_assoc]

/-- One POST callback for each entry. -/
theorem count_registers (kinds : List EntryKind) :
    (kinds.flatMap EntryKind.registers).count .postInstruction = kinds.length := by
  induction kinds with
  | nil => rfl
  | cons kind rest ih =>
    rw [List.flatMap_cons, List.count_append, ih, EntryKind.registers, count_onceCallbacks,
      List.length_cons, Nat.add_comm]

/-- No entry has happened: no callback is registered, the window is empty and
nothing has been logged. -/
structure Unentered (tracer : InstructionTracerManager arch) : Prop where
  callbacks : tracer.vm.callbacks = []
  window : ∀ manager ∈ tracer.infoManager,
    manager.preInfo = none ∧ manager.curInfo = none ∧ manager.journal = []

/-- The tracer as it would be without the entries before: no callback registered
and no record in the window. -/
def pristine (tracer : InstructionTracerManager arch) : InstructionTracerManager arch :=
  { tracer with
    vm := { tracer.vm with callbacks := [] }
    infoManager := tracer.infoManager.map fun manager =>
      { manager with preInfo := none, curInfo := none } }

theorem Unentered.pristine_eq (unentered : tracer.Unentered) : tracer.pristine = tracer := by
  have window : (tracer.infoManager.map fun manager =>
      { manager with preInfo := none, curInfo := none }) = tracer.infoManager := by
    cases present : tracer.infoManager with
    | none => rfl
    | some manager =>
      obtain ⟨noPre, noCur, -⟩ := unentered.window manager present
      have same : { manager with preInfo := none, curInfo := none } = manager := by
        cases manager
        simp_all
      rw [Option.map_some, same]
  rw [pristine, window, ← unentered.callbacks]

theorem Unentered.reinitialised (unentered : tracer.Unentered)
    (init : Reinitialised tracer after) : after.Unentered := by
  refine ⟨init.callbacks.trans unentered.callbacks, fun manager present => ?_⟩
  rcases init.window with same | ⟨fresh, found, empty⟩
  · exact unentered.window manager (same ▸ present)
  · cases found.symm.trans present
    exact empty

theorem Unentered.applyAll {history : List (Operation arch)} (unentered : tracer.Unentered)
    (inits : entries history = []) (done : tracer.applyAll history = .ok after) :
    after.Unentered := by
  induction history generalizing tracer with
  | nil => cases done; exact unentered
  | cons operation history ih =>
    rw [entries_cons, List.append_eq_nil_iff] at inits
    cases operation with
    | enter kind process executions => cases inits.1
    | initSymbol loader name symbol =>
      exact ih (unentered.reinitialised (tracer.initSymbol_reinitialised loader name symbol))
        inits.2 done
    | initOffset loader name offset =>
      exact ih (unentered.reinitialised (tracer.initOffset_reinitialised loader name offset))
        inits.2 done
    | initAddress loader address =>
      exact ih (unentered.reinitialised (tracer.initAddress_reinitialised loader address))
        inits.2 done

/-- Without an info manager no callback does anything. -/
theorem firePre_absent {execution : Execution arch} {callbacks : List CallbackKind}
    {flow : VMAction} (absent : tracer.infoManager = none)
    (done : run (firePre execution) tracer callbacks = .ok (flow, after)) :
    after.infoManager = none := by
  refine run_invariant (fun state : InstructionTracerManager arch => state.infoManager = none)
    ?_ absent done
  intro before callback flow next missing fired
  cases firePre_step fired with
  | passes => exact missing
  | stops absent => exact missing
  | opens status recorded present hooked => cases present.symm.trans missing
  | attaches present current => cases present.symm.trans missing

theorem firePost_absent {execution : Execution arch} {callbacks : List CallbackKind}
    {flow : VMAction} (absent : tracer.infoManager = none)
    (done : run (firePost execution) tracer callbacks = .ok (flow, after)) :
    after.infoManager = none := by
  refine run_invariant (fun state : InstructionTracerManager arch => state.infoManager = none)
    ?_ absent done
  intro before callback flow next missing fired
  cases callback with
  | postInstruction =>
    cases postInstructionCall_step fired with
    | skips filtered => exact missing
    | stops recorded foreign => exact missing
    | posts recorded present => cases present.symm.trans missing
  | preInstruction => cases fired; exact missing
  | preSvc => cases fired; exact missing

theorem noteExecuted_absent (execution : Execution arch) (point : NativePoint)
    (absent : tracer.infoManager = none) :
    (tracer.noteExecuted execution point).infoManager = none := by
  simp only [noteExecuted]
  split <;> simp [absent]

theorem execute_absent {execution : Execution arch} {flow : VMAction}
    (absent : tracer.infoManager = none) (done : tracer.execute execution = .ok (flow, after)) :
    after.infoManager = none := by
  apply execute_invariant (fun state => state.infoManager = none) _ _ _ _ done
  · exact firePre_absent absent
  · exact noteExecuted_absent execution .beforePost
  · exact firePost_absent
  · exact noteExecuted_absent execution .afterPost

/-- An entry that returns had an info manager. -/
theorem enter_present (entered : tracer.enter kind process executions = .ok after) :
    ∃ manager, tracer.infoManager = some manager := by
  obtain ⟨flow, returned, manager, ran, found, -⟩ := enter_ok entered
  cases present : tracer.infoManager with
  | some opened => exact ⟨opened, rfl⟩
  | none =>
    have registered : (tracer.register (onceCallbacks (kind == .run))).infoManager = none := present
    have absent := run_invariant (fun state : InstructionTracerManager arch =>
      state.infoManager = none) (fun _ _ _ _ absent taken => execute_absent absent taken)
      registered ran
    cases absent.symm.trans found

/-- An entry writes every record a multiple of the number of registrations of the
POST callback. -/
theorem enter_growsBy (entered : tracer.enter kind process executions = .ok after) :
    GrowsBy (tracer.vm.callbacks.count .postInstruction + 1) tracer.written after.written := by
  obtain ⟨opened, present⟩ := enter_present entered
  obtain ⟨flow, returned, manager, ran, found, rfl⟩ := enter_ok entered
  have registered : (tracer.register (onceCallbacks (kind == .run))).infoManager = some opened :=
    present
  obtain ⟨-, finished, ended, grows⟩ := run_growsBy registered ran
  cases ended.symm.trans found
  have count : (tracer.register (onceCallbacks (kind == .run))).vm.callbacks.count
      .postInstruction = tracer.vm.callbacks.count .postInstruction + 1 := by
    simp only [register, List.count_append, count_onceCallbacks]
  rw [count] at grows
  simpa [written, present, InstructionInfoManager.flush, InstructionInfoManager.written] using grows

end History

theorem tracedModule_unentered (recordRanges : List (ModuleRange .aarch64)) :
    (tracedModule [] recordRanges).Unentered :=
  ⟨rfl, by rintro manager ⟨⟩; exact ⟨rfl, rfl, rfl⟩⟩

/-- Take a record that the entry would write once if it were the first. As the
`k`-th entry it writes it equally often exactly when `k` is 1. -/
theorem timesLogged_eq_first_iff {origin before after firstAfter : InstructionTracerManager arch}
    {history : List (Operation arch)} {kind : EntryKind} {process : Process arch}
    {executions : List (Execution arch)} {record k : Nat} (unentered : origin.Unentered)
    (arrived : origin.applyAll history = .ok before)
    (position : k = (entries history).length + 1)
    (entered : before.enter kind process executions = .ok after)
    (entersFirst : before.pristine.enter kind process executions = .ok firstAfter)
    (once : timesLogged before.pristine firstAfter record = 1) :
    timesLogged before after record = timesLogged before.pristine firstAfter record ↔ k = 1 := by
  constructor
  · intro same
    have count : before.vm.callbacks.count .postInstruction = (entries history).length := by
      rw [applyAll_callbacks arrived, unentered.callbacks, List.nil_append, count_registers]
    obtain ⟨new, lines, divides⟩ := enter_growsBy entered
    rw [count, ← position] at divides
    have times : timesLogged before after record = new.count record := by
      simp [timesLogged, lines]
    exact Nat.dvd_one.mp (once ▸ same ▸ times ▸ divides record)
  · intro first
    have untouched := unentered.applyAll (List.length_eq_zero_iff.mp (by omega)) arrived
    rw [untouched.pristine_eq] at entersFirst ⊢
    rw [Except.ok.inj (entered.symm.trans entersFirst)]

/-- Two `run()` calls on one instruction each: the second writes its instruction
four times, as a first one it would write it once. -/
theorem two_runs : ∃ before after firstAfter : InstructionTracerManager .aarch64,
    (tracedModule [] []).applyAll [.enter .run idleProcess [plainAt 0x1000]] = .ok before ∧
    before.enter .run idleProcess [plainAt 0x1004] = .ok after ∧
    before.pristine.enter .run idleProcess [plainAt 0x1004] = .ok firstAfter ∧
    timesLogged before.pristine firstAfter 1 = 1 ∧ timesLogged before after 1 = 4 :=
  ⟨_, _, _, rfl, rfl, rfl, rfl, rfl⟩

theorem timesLogged_eq_first_iff_second :
    ∃ before after firstAfter : InstructionTracerManager .aarch64,
      timesLogged before.pristine firstAfter 1 = 1 ∧
      (timesLogged before after 1 = timesLogged before.pristine firstAfter 1 ↔ 2 = 1) := by
  obtain ⟨before, after, firstAfter, arrived, entered, entersFirst, once, -⟩ := two_runs
  exact ⟨before, after, firstAfter, once,
    timesLogged_eq_first_iff (tracedModule_unentered []) arrived rfl entered entersFirst once⟩

theorem second_entry_logs_more : ∃ before after firstAfter : InstructionTracerManager .aarch64,
    (tracedModule [] []).applyAll [.enter .run idleProcess [plainAt 0x1000]] = .ok before ∧
    before.enter .run idleProcess [plainAt 0x1004] = .ok after ∧
    before.pristine.enter .run idleProcess [plainAt 0x1004] = .ok firstAfter ∧
    timesLogged before after 1 ≠ timesLogged before.pristine firstAfter 1 := by
  obtain ⟨before, after, firstAfter, arrived, entered, entersFirst, once, four⟩ := two_runs
  exact ⟨before, after, firstAfter, arrived, entered, entersFirst, by rw [once, four]; decide⟩

end InstructionTracerManager

end QbdiTracer
