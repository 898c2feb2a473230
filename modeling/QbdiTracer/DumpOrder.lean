import QbdiTracer.Library.EventLog
import QbdiTracer.Simulation

/-! When the bytes of a released block are read: the dump that `remove_memory`
makes, against the moment the releasing call has run. -/

namespace QbdiTracer

open EventLog FlowRun

variable {arch : Arch}

namespace LoggerManager

/-- A block is dumped only for a call that releases an address. -/
theorem trackMemory_releases {process : Process arch} {logger after : LoggerManager arch}
    {info : InstTraceInfo arch} {block : MemoryInfo arch}
    (done : logger.trackMemory process info = .ok (after, some block)) :
    ∃ call ∈ info.funCall, call.memoryFreeAddress ≠ 0 := by
  simp only [trackMemory] at done
  split at done
  · cases done
  · rename_i call attached
    refine ⟨call, attached, fun keeps => ?_⟩
    split at done
    · cases done
    · split at done
      · cases done
      · simp [updateMemory, keeps] at done

theorem writeTraceInfo_releases {process : Process arch} {logger after : LoggerManager arch}
    {info : InstTraceInfo arch} {inst : InstAnalysis arch}
    {memoryAccesses : List (MemoryAccess arch)} {block : MemoryInfo arch}
    (done : logger.writeTraceInfo process info inst memoryAccesses = .ok (after, some block)) :
    ∃ call ∈ info.funCall, call.memoryFreeAddress ≠ 0 := by
  rcases writeTraceInfo_ok done with ⟨-, none⟩ | ⟨tracked, looked, entries, update, -, -⟩
  · cases none
  · exact trackMemory_releases update

end LoggerManager

/-- Every dump of a released block comes after the releasing instruction and its
native callee have run. -/
def Accounted (journal : List (Event arch)) : Prop :=
  Always (fun before event => ∀ record now block, event = .dumped record now block →
    .executed record ∈ before) journal

theorem Accounted.append {journal events : List (Event arch)} (accounted : Accounted journal)
    (ran : ∀ record now block, .dumped record now block ∈ events → .executed record ∈ journal) :
    Accounted (journal ++ events) := by
  refine Always.extend accounted ?_
  rintro _ member before record now block rfl
  exact List.mem_append_left _ (ran record now block member)

namespace InstructionInfoManager

/-- Both records of the window have a number with property `good`. -/
def EveryRecord (good : Nat → Prop) (manager : InstructionInfoManager arch) : Prop :=
  ∀ info, info ∈ manager.preInfo ∨ info ∈ manager.curInfo → good info.seq

section EveryRecord

variable {good : Nat → Prop} {manager : InstructionInfoManager arch} {info : InstTraceInfo arch}

theorem EveryRecord.opened (every : EveryRecord good manager) (own : good info.seq) :
    EveryRecord good (manager.opened info) := by
  rintro other (before | here)
  · cases current : manager.curInfo with
    | none =>
      exact every other (.inl (by simpa [InstructionInfoManager.opened, current] using before))
    | some latest =>
      exact every other (.inr (by simpa [InstructionInfoManager.opened, current] using before))
  · cases here
    exact own

theorem EveryRecord.svc (every : EveryRecord good manager) (current : manager.curInfo = some info)
    (execution : Execution arch) :
    EveryRecord good { manager with curInfo := some (svcInfo execution info) } := by
  rintro other (before | here)
  · exact every other (.inl before)
  · cases here
    have same : (svcInfo execution info).seq = info.seq := by simp only [svcInfo]; split <;> rfl
    rw [same]
    exact every info (.inr current)

end EveryRecord

/-- Between two instructions, every record of the window has run. -/
structure Settled (manager : InstructionInfoManager arch) : Prop where
  ran : EveryRecord (fun seq => .executed seq ∈ manager.journal) manager
  accounted : Accounted manager.journal

/-- While instruction `clock` is traced, every record of the window has run or
belongs to it. -/
structure Opening (clock : Nat) (manager : InstructionInfoManager arch) : Prop where
  known : EveryRecord (fun seq => .executed seq ∈ manager.journal ∨ seq = clock) manager
  accounted : Accounted manager.journal

/-- Before and after a POST callback of instruction `clock`, moreover, the
previous record has run, and so has the current one if its call releases an
address. `noted` tells whether the instruction itself has. -/
structure Ready (noted : Bool) (clock : Nat) (manager : InstructionInfoManager arch) : Prop
    extends Opening clock manager where
  own : noted = true → .executed clock ∈ manager.journal
  prev : ∀ info ∈ manager.preInfo, .executed info.seq ∈ manager.journal
  cur : ∀ info ∈ manager.curInfo, ∀ call ∈ info.funCall, call.memoryFreeAddress ≠ 0 →
    .executed info.seq ∈ manager.journal

theorem Settled.opening {manager : InstructionInfoManager arch} (settled : Settled manager)
    (clock : Nat) : Opening clock manager :=
  ⟨fun info present => .inl (settled.ran info present), settled.accounted⟩

theorem Settled.ready {noted : Bool} {clock : Nat} {manager : InstructionInfoManager arch}
    (settled : Settled manager) (own : noted = true → .executed clock ∈ manager.journal) :
    Ready noted clock manager where
  toOpening := settled.opening clock
  own := own
  prev info present := settled.ran info (.inl present)
  cur info present _ _ _ := settled.ran info (.inr present)

/-- A new record whose call releases nothing yet. -/
theorem Settled.opened {clock : Nat} {manager : InstructionInfoManager arch}
    {info : InstTraceInfo arch} (settled : Settled manager) (own : info.seq = clock)
    (keeps : ∀ call ∈ info.funCall, call.memoryFreeAddress = 0) :
    Ready false clock (manager.opened info) where
  known := (settled.opening clock).known.opened (.inr own)
  accounted := settled.accounted
  own := by simp
  prev other before := by
    cases current : manager.curInfo with
    | none =>
      exact settled.ran other (.inl (by simpa [InstructionInfoManager.opened, current] using before))
    | some latest =>
      exact settled.ran other (.inr (by simpa [InstructionInfoManager.opened, current] using before))
  cur other here call attached releases := by
    cases here
    exact absurd (keeps call attached) releases

/-- Once the instruction has run, all records have. -/
theorem Opening.executed {clock : Nat} {manager : InstructionInfoManager arch}
    (opening : Opening clock manager) : Settled (manager.note (.executed clock)) := by
  refine ⟨fun info present => ?_, opening.accounted.append (by simp)⟩
  rcases opening.known info present with before | rfl
  · exact List.mem_append_left _ before
  · exact List.mem_append_right _ (.head _)

section Ready

variable {noted : Bool} {clock : Nat} {manager written : InstructionInfoManager arch}

theorem Ready.grow (ready : Ready noted clock manager) (logger : LoggerManager arch)
    (events : List (Event arch))
    (ran : ∀ record now block, .dumped record now block ∈ events →
      .executed record ∈ manager.journal) :
    Ready noted clock { manager with logger := logger, journal := manager.journal ++ events } where
  known info present := (ready.known info present).imp_left (List.mem_append_left _)
  own noted := List.mem_append_left _ (ready.own noted)
  prev info present := List.mem_append_left _ (ready.prev info present)
  cur info present call attached releases :=
    List.mem_append_left _ (ready.cur info present call attached releases)
  accounted := ready.accounted.append ran

theorem Ready.note (ready : Ready noted clock manager) {event : Event arch}
    (quiet : ∀ record now block, event ≠ .dumped record now block) :
    Ready noted clock (manager.note event) :=
  ready.grow manager.logger [event] fun record now block member =>
    absurd (List.mem_singleton.mp member).symm (quiet record now block)

theorem Ready.writeSlot {process : Process arch} {now : Nat} {inst : InstAnalysis arch}
    {memoryAccesses : List (MemoryAccess arch)} {slot : Option (InstTraceInfo arch)}
    (ready : Ready noted clock manager)
    (ran : ∀ info ∈ slot, ∀ call ∈ info.funCall, call.memoryFreeAddress ≠ 0 →
      .executed info.seq ∈ manager.journal)
    (done : manager.writeSlot process now inst memoryAccesses slot = .ok written) :
    Ready noted clock written := by
  rcases InstructionInfoManager.writeSlot_ok done with
    ⟨-, rfl⟩ | ⟨info, logger, block, rfl, -, line, rfl⟩
  · exact ready
  · rw [List.append_assoc]
    refine ready.grow logger _ ?_
    intro record time dumped member
    cases block with
    | none => simp at member
    | some found =>
      obtain ⟨call, attached, releases⟩ := LoggerManager.writeTraceInfo_releases line
      obtain ⟨rfl, -⟩ : record = info.seq ∧ _ := by simpa using member
      exact ran info rfl call attached releases

theorem Ready.writeTraceInfo {process : Process arch} {now : Nat} {inst : InstAnalysis arch}
    {memoryAccesses : List (MemoryAccess arch)} (ready : Ready noted clock manager)
    (done : manager.writeTraceInfo process now inst memoryAccesses = .ok written) :
    Ready noted clock written := by
  obtain ⟨middle, first, second⟩ := FlowRun.bind_ok done
  have between := ready.writeSlot (fun info present _ _ _ => ready.prev info present) first
  exact between.writeSlot between.cur second

/-- The arguments pass changes the current record, but not what it releases. -/
theorem Ready.replaceCur {info : InstTraceInfo arch} (ready : Ready noted clock manager)
    (changed : InstTraceInfo arch) (current : manager.curInfo = some info) (sameSeq : changed.seq = info.seq)
    (sameCall : changed.funCall.map InstFunCall.memoryFreeAddress =
      info.funCall.map InstFunCall.memoryFreeAddress) :
    Ready noted clock { manager with curInfo := some changed } where
  known other present := by
    rcases present with before | here
    · exact ready.known other (.inl before)
    · cases here
      rw [sameSeq]
      exact ready.known info (.inr current)
  own := ready.own
  prev := ready.prev
  cur other present call attached releases := by
    cases present
    rw [Option.mem_def.mp attached, Option.map_some] at sameCall
    obtain ⟨old, oldAttached, same⟩ := Option.map_eq_some_iff.mp sameCall.symm
    rw [sameSeq]
    exact ready.cur info current old oldAttached (same ▸ releases)
  accounted := ready.accounted

/-- The return pass changes the previous record, which has run. -/
theorem Ready.replacePrev {info changed : InstTraceInfo arch} (ready : Ready noted clock manager)
    (previous : manager.preInfo = some info) (sameSeq : changed.seq = info.seq) :
    Ready noted clock { manager with preInfo := some changed } where
  known other present := by
    rcases present with before | here
    · cases before
      rw [sameSeq]
      exact ready.known info (.inl previous)
    · exact ready.known other (.inr here)
  own := ready.own
  prev other present := by
    cases present
    rw [sameSeq]
    exact ready.prev info previous
  cur := ready.cur
  accounted := ready.accounted

end Ready

end InstructionInfoManager

namespace InstructionTracerManager

open InstructionInfoManager (Ready)

/-- The tracer while instruction `clock` is traced, its window with a property. -/
def WindowHas (clock : Nat) (good : InstructionInfoManager arch → Prop)
    (tracer : InstructionTracerManager arch) : Prop :=
  tracer.vm.clock = clock ∧ ∃ manager, tracer.infoManager = some manager ∧ good manager

section Post

variable {noted : Bool} {clock : Nat} {execution : Execution arch} {process : Process arch}
  {tracer after : InstructionTracerManager arch} {manager finished : InstructionInfoManager arch}
  {info : InstTraceInfo arch}

theorem dispatchCurrent_ready (process : Process arch) (tracer : InstructionTracerManager arch)
    (ready : Ready noted clock manager) (current : manager.curInfo = some info) :
    Ready noted clock (tracer.dispatchCurrent process manager info) := by
  rw [dispatchCurrent_eq current]
  have noted := ready.grow manager.logger (tracer.argsEvents manager info) (by
    intro record now block member
    cases call : info.funCall <;> simp [argsEvents, call] at member)
  refine noted.replaceCur _ current rfl ?_
  cases info.funCall with
  | none => rfl
  | some call =>
    simp only [Option.map_some]
    exact congrArg some (congrArg CallKey.memoryFreeAddress
      (tracer.dispatchedCall_key process manager info call))

theorem finishPrevious_ready (ready : Ready noted clock manager)
    (done : tracer.finishPrevious process manager = .ok finished) : Ready noted clock finished := by
  simp only [finishPrevious] at done
  split at done
  · exact Except.ok.inj done ▸ ready
  · rename_i prev previous
    split at done
    · exact Except.ok.inj done ▸ ready
    · rename_i call attached
      split at done
      · cases done
      · refine Ready.writeTraceInfo ?_ done
        split
        · refine Ready.note ?_ (by simp)
          exact ready.replacePrev previous rfl
        · refine Ready.note ?_ (by simp)
          exact ready.replacePrev previous rfl

theorem writeCurrent_ready (ready : Ready noted clock manager)
    (done : tracer.writeCurrent execution manager info = .ok finished) : Ready noted clock finished := by
  simp only [writeCurrent] at done
  split at done
  · exact Except.ok.inj done ▸ ready
  · exact ready.writeTraceInfo done

/-- A POST callback keeps the window ready. -/
theorem postInstructionCall_ready {flow : VMAction} (ready : WindowHas clock (Ready noted clock) tracer)
    (done : tracer.postInstructionCall execution = .ok (flow, after)) :
    WindowHas clock (Ready noted clock) after := by
  have sameClock := config_clock (postInstructionCall_config done)
  obtain ⟨now, manager, present, window⟩ := ready
  cases postInstructionCall_step done with
  | skips filtered => exact ⟨now, manager, present, window⟩
  | stops recorded foreign => exact ⟨now, manager, present, window⟩
  | @posts manager returned written info hooked recorded found current own hook returns writes =>
    cases found.symm.trans present
    have hookedNow : hooked.vm.clock = clock := sameClock.trans now
    have saved := window.replaceCur (hooked.savedInfo info) current rfl rfl
    have dispatched := dispatchCurrent_ready execution.process hooked saved rfl
    have finishes := finishPrevious_ready dispatched returns
    exact ⟨hookedNow, written, rfl, writeCurrent_ready finishes writes⟩

end Post

section Pre

open InstructionInfoManager (Opening Settled)

variable {clock : Nat} {execution : Execution arch} {tracer after : InstructionTracerManager arch}
  {flow : VMAction}

/-- The PRE callbacks, registered any number of times. -/
theorem firePre_opening {callbacks : List CallbackKind}
    (opening : WindowHas clock (Opening clock) tracer)
    (done : run (firePre execution) tracer callbacks = .ok (flow, after)) :
    WindowHas clock (Opening clock) after := by
  refine run_invariant _ ?_ opening done
  rintro state callback flow next ⟨now, manager, present, before⟩ fired
  have sameClock := config_clock (firePre_step fired).config
  cases firePre_step fired with
  | passes => exact ⟨now, manager, present, before⟩
  | stops absent => cases present.symm.trans absent
  | opens status recorded found hooked =>
    cases found.symm.trans present
    exact ⟨sameClock.trans now, _, rfl, before.known.opened (.inr now), before.accounted⟩
  | attaches found current =>
    cases found.symm.trans present
    exact ⟨now, _, rfl, before.known.svc current execution, before.accounted⟩

/-- The PRE callbacks registered once leave at most the current record not run,
and that one releases nothing. -/
theorem firePre_ready {svcHook : Bool} (settled : WindowHas clock Settled tracer)
    (done : run (firePre execution) (tracer.loadPre execution) (onceCallbacks svcHook) =
      .ok (flow, after)) :
    WindowHas clock (Ready false clock) after := by
  obtain ⟨now, manager, present, before⟩ := settled
  cases recorded : tracer.isNeedRecord execution.pc with
  | true =>
    obtain ⟨vm, status, -, sameClock, opens⟩ := firePre_opens svcHook recorded present
    rw [opens] at done
    cases done
    refine ⟨sameClock.trans now, _, rfl, before.opened now ?_⟩
    intro call attached
    simp only [preparedInfo, Execution.ownCall, Option.mem_def] at attached
    split at attached
    · cases attached; rfl
    · split at attached <;> cases attached
      rfl
  | false =>
    rw [firePre_skips svcHook recorded] at done
    split at done
    · have loaded : (tracer.loadPre execution).infoManager = some manager := present
      cases current : manager.curInfo with
      | none => simp [preSvcInstructionCall, loaded, current] at done
      | some info =>
        rw [preSvcInstructionCall_attaches execution loaded current] at done
        cases done
        have attached : Settled { manager with curInfo := some (svcInfo execution info) } :=
          ⟨before.ran.svc current execution, before.accounted⟩
        exact ⟨now, _, rfl, attached.ready (by simp)⟩
    · cases done
      exact ⟨now, manager, present, before.ready (by simp)⟩

end Pre

section Run

open InstructionInfoManager (Opening Settled)

variable {noted : Bool} {clock : Nat} {execution : Execution arch}
  {tracer after : InstructionTracerManager arch} {flow : VMAction}

theorem firePost_ready {callbacks : List CallbackKind}
    (ready : WindowHas clock (Ready noted clock) tracer)
    (done : run (firePost execution) tracer callbacks = .ok (flow, after)) :
    WindowHas clock (Ready noted clock) after := by
  refine run_invariant _ ?_ ready done
  intro before callback flow after ready fired
  cases callback with
  | postInstruction => exact postInstructionCall_ready ready fired
  | preInstruction => cases fired; exact ready
  | preSvc => cases fired; exact ready

/-- The note of the native callee settles the window. -/
theorem noteExecuted_settles {point : NativePoint} (here : execution.native = point)
    (opening : WindowHas clock (Opening clock) tracer) :
    WindowHas clock (fun manager => Settled manager ∧ .executed clock ∈ manager.journal)
      (tracer.noteExecuted execution point) := by
  obtain ⟨rfl, manager, present, window⟩ := opening
  refine ⟨by simp [noteExecuted, here], manager.note (.executed tracer.vm.clock),
    by simp [noteExecuted, here, present], window.executed, ?_⟩
  simp [InstructionInfoManager.note]

theorem noteExecuted_elsewhere {point : NativePoint} (elsewhere : execution.native ≠ point) :
    tracer.noteExecuted execution point = tracer := by
  simp [noteExecuted, elsewhere]

/-- How the instructions of a run meet the order of steps: either each callback
is registered once, or every callee runs before the POST callbacks. -/
def StepsInOrder (callbacks : List CallbackKind) (execution : Execution arch) : Prop :=
  execution.native = .beforePost ∨ ∃ svcHook, callbacks = onceCallbacks svcHook

/-- The window as the first POST callback finds it. -/
theorem ready_before_post {ready : InstructionTracerManager arch}
    (inOrder : StepsInOrder tracer.vm.callbacks execution)
    (settled : WindowHas clock Settled tracer)
    (opens : run (firePre execution) (tracer.loadPre execution) tracer.vm.callbacks =
      .ok (flow, ready)) :
    WindowHas clock (Ready (execution.native == .beforePost) clock)
      ((ready.noteExecuted execution .beforePost).loadPost execution) := by
  cases point : execution.native with
  | beforePost =>
    obtain ⟨now, manager, present, window⟩ := settled
    have opening : WindowHas clock (Opening clock) (tracer.loadPre execution) :=
      ⟨now, manager, present, window.opening clock⟩
    obtain ⟨later, noted, found, done, own⟩ :=
      noteExecuted_settles point (firePre_opening opening opens)
    exact ⟨later, noted, found, done.ready fun _ => own⟩
  | afterPost =>
    rcases inOrder with before | ⟨svcHook, once⟩
    · cases point.symm.trans before
    · rw [once] at opens
      rw [noteExecuted_elsewhere (by simp [point])]
      have window := firePre_ready settled opens
      exact ⟨window.1, window.2⟩

/-- An instruction that goes through settles the window again. -/
theorem execute_settles (inOrder : StepsInOrder tracer.vm.callbacks execution)
    (settled : WindowHas clock Settled tracer)
    (done : tracer.execute execution = .ok (.next, after)) :
    WindowHas (clock + 1) Settled after := by
  cases execute_stage done with
  | through opens posts =>
    have posted := firePost_ready (ready_before_post inOrder settled opens) posts
    obtain ⟨rfl, manager, present, window⟩ := posted
    cases point : execution.native with
    | beforePost =>
      rw [noteExecuted_elsewhere (by simp [point])]
      refine ⟨rfl, manager, present, fun info member => ?_, window.accounted⟩
      rcases window.known info member with ran | same
      · exact ran
      · exact same ▸ window.own (by simp [point])
    | afterPost =>
      obtain ⟨now, noted, found, settles, -⟩ :=
        noteExecuted_settles point ⟨rfl, manager, present, window.toOpening⟩
      exact ⟨congrArg (· + 1) now, noted, found, settles⟩

/-- Wherever an instruction ends the run, the dumps so far are accounted for. -/
theorem execute_accounted (inOrder : StepsInOrder tracer.vm.callbacks execution)
    (settled : WindowHas clock Settled tracer)
    (done : tracer.execute execution = .ok (.stop, after)) :
    ∃ manager, after.infoManager = some manager ∧ Accounted manager.journal := by
  cases execute_stage done with
  | atPre opens =>
    obtain ⟨now, manager, present, window⟩ := settled
    have opening : WindowHas clock (Opening clock) (tracer.loadPre execution) :=
      ⟨now, manager, present, window.opening clock⟩
    obtain ⟨-, found, here, kept⟩ := firePre_opening opening opens
    exact ⟨found, here, kept.accounted⟩
  | atPost opens posts =>
    obtain ⟨-, found, here, kept⟩ :=
      firePost_ready (ready_before_post inOrder settled opens) posts
    exact ⟨found, here, kept.accounted⟩

/-- The dumps of a whole run are accounted for. -/
theorem run_accounted {manager : InstructionInfoManager arch} {executions : List (Execution arch)}
    (present : tracer.infoManager = some manager) (settled : Settled manager)
    (inOrder : ∀ execution ∈ executions, StepsInOrder tracer.vm.callbacks execution)
    (ran : run execute tracer executions = .ok (flow, after)) :
    ∃ final, after.infoManager = some final ∧ Accounted final.journal := by
  refine run_outcome
    (fun state => WindowHas state.vm.clock Settled state ∧
      state.vm.callbacks = tracer.vm.callbacks)
    (fun state => ∃ final, state.infoManager = some final ∧ Accounted final.journal)
    ?_ ?_ ?_ ⟨⟨rfl, manager, present, settled⟩, rfl⟩ ran
  · rintro state ⟨⟨-, final, found, window⟩, -⟩
    exact ⟨final, found, window.accounted⟩
  · rintro before execution member next ⟨window, same⟩ taken
    have kept := execute_settles (same ▸ inOrder execution member) window taken
    refine ⟨⟨rfl, kept.2⟩, ?_⟩
    rw [execute_callbacks taken, same]
  · rintro before execution member stopped ⟨window, same⟩ taken
    exact execute_accounted (same ▸ inOrder execution member) window taken

end Run

/-- The bytes of a released block are read while it is live when the releasing
instruction and its callee have not run yet. -/
def ReadsLive (before : List (Event arch)) (record : Nat) : Prop := .executed record ∉ before

/-- No dump of a released block reads it live, however often the callbacks are
registered when the callee runs before the POST callbacks, and wherever it runs
when they are registered once. -/
theorem dump_reads_released {tracer : InstructionTracerManager arch}
    {manager : InstructionInfoManager arch} {executions : List (Execution arch)}
    {journal before after : List (Event arch)} {record now : Nat} {block : MemoryInfo arch}
    (present : tracer.infoManager = some manager) (noPre : manager.preInfo = none)
    (noCur : manager.curInfo = none) (silent : manager.journal = [])
    (inOrder : ∀ execution ∈ executions, StepsInOrder tracer.vm.callbacks execution)
    (ran : tracer.journalAfter executions = .ok journal)
    (dumps : journal = before ++ .dumped record now block :: after) :
    ¬ ReadsLive before record := by
  have settled : InstructionInfoManager.Settled manager :=
    ⟨by simp [InstructionInfoManager.EveryRecord, noPre, noCur], silent ▸ always_nil⟩
  simp only [journalAfter] at ran
  cases result : run execute tracer executions with
  | error fault => simp [result, Except.map] at ran
  | ok pair =>
    obtain ⟨flow, final⟩ := pair
    obtain ⟨finished, found, accounted⟩ := run_accounted present settled inOrder result
    simp only [result, Except.map, found, Option.map_some, Option.getD_some,
      Except.ok.injEq] at ran
    rw [← ran] at dumps
    exact not_not_intro (accounted before _ after dumps record now block rfl)

/-- A tracer that dumps, with a block at `0x5000` tracked and `free` at `0x7000`. -/
def dumpingModule : InstructionTracerManager .aarch64 where
  vm := { callbacks := onceCallbacks true }
  moduleRange := ⟨0x1000, 0x1fff⟩
  infoManager := some {
    moduleRange := ⟨0x1000, 0x1fff⟩
    dispatchManager := { bareDispatchers with
      libc := ⟨⟨0x7000, 0x7fff⟩, fun _ => none, fun address =>
        if address = 0x7000 then some "free" else none⟩ }
    logger := {
      fileLog := true
      moduleRange := ⟨0x1000, 0x1fff⟩
      memoryManager := some {
        memoryDumpFile := { isOpen := true }
        memoryIndex := 1
        memoryInfos := [⟨0, 0x5000, 0x5010⟩] } } }

/-- `free(0x5000)` called from `0x1000`, and the instruction after the call. -/
def freeingRun : List (Execution .aarch64) :=
  [.simple { address := 0x1000, affectControlFlow := true, isCall := true } 0x7000 0x5000 0x5000,
    plainAt 0x1004]

theorem dump_reads_released_free :
    ¬ ReadsLive [.executed 0, .args 0 0 (.dispatched (some .libc)), .executed 1,
      (.ret 0 1 (.dispatched (some .libc)) 0 : Event .aarch64)] 0 := by
  have inOrder : ∀ execution ∈ freeingRun, StepsInOrder dumpingModule.vm.callbacks execution :=
    fun _ _ => .inr ⟨true, rfl⟩
  have ran : dumpingModule.journalAfter freeingRun = .ok [.executed 0,
      .args 0 0 (.dispatched (some .libc)), .executed 1, .ret 0 1 (.dispatched (some .libc)) 0,
      .dumped 0 1 ⟨0, 0x5000, 0x5010⟩, .written 0 1, .written 1 1] := by rfl
  exact dump_reads_released rfl rfl rfl rfl inOrder ran rfl

/-- The dump of the freed block comes after the call that freed it. -/
theorem freed_block_dumped_late :
    let journal : List (Event .aarch64) := [.executed 0, .args 0 0 (.dispatched (some .libc)),
      .executed 1, .ret 0 1 (.dispatched (some .libc)) 0, .dumped 0 1 ⟨0, 0x5000, 0x5010⟩,
      .written 0 1, .written 1 1]
    dumpingModule.journalAfter freeingRun = .ok journal ∧
      ¬ ∀ before record now block after, journal = before ++ .dumped record now block :: after →
        ReadsLive before record := by
  refine ⟨by rfl, fun live => ?_⟩
  exact live [.executed 0, .args 0 0 (.dispatched (some .libc)), .executed 1,
    .ret 0 1 (.dispatched (some .libc)) 0] 0 1 ⟨0, 0x5000, 0x5010⟩ _ rfl (.head _)

end InstructionTracerManager

end QbdiTracer
