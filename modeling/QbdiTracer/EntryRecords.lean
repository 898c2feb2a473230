import QbdiTracer.Entries

/-! The records of one stream of instructions, traced through `run` and through the attach
callback. They differ in one registration: `inst_at_enter` has no svc callback. -/

namespace QbdiTracer

open FlowRun

variable {arch : Arch}

namespace InstructionTracerManager

/-- The same tracer with other callbacks registered. -/
def withCallbacks (callbacks : List CallbackKind) (tracer : InstructionTracerManager arch) :
    InstructionTracerManager arch :=
  { tracer with vm := { tracer.vm with callbacks } }

section Callbacks

variable {execution : Execution arch} {tracer : InstructionTracerManager arch}
  {callbacks : List CallbackKind}

theorem preInstructionCall_withCallbacks :
    (tracer.withCallbacks callbacks).preInstructionCall execution =
      (tracer.preInstructionCall execution).map (Prod.map id (withCallbacks callbacks)) := by
  have hook : ∀ pc, (tracer.withCallbacks callbacks).traceCallbackPre pc =
      (tracer.traceCallbackPre pc).withCallbacks callbacks := by
    intro pc
    simp only [traceCallbackPre, hookOffset, withCallbacks, runHook]
    split <;> rfl
  have recorded : (tracer.withCallbacks callbacks).isNeedRecord
      (tracer.withCallbacks callbacks).vm.gprState.pc =
        tracer.isNeedRecord tracer.vm.gprState.pc := rfl
  have window : (tracer.withCallbacks callbacks).infoManager = tracer.infoManager := rfl
  simp only [preInstructionCall, hook, recorded, window]
  split
  · rfl
  · split <;> rfl

/-- The three passes of the POST callback look at the registers and the module range
only. -/
theorem posts_withCallbacks (manager : InstructionInfoManager arch) (info : InstTraceInfo arch) :
    (do
      let returned ← (tracer.withCallbacks callbacks).finishPrevious execution.process
        ((tracer.withCallbacks callbacks).dispatchCurrent execution.process manager info)
      let written ← (tracer.withCallbacks callbacks).writeCurrent execution returned info
      return (StepFlow.next, { tracer.withCallbacks callbacks with infoManager := some written })) =
    Except.map (Prod.map id (withCallbacks callbacks)) (do
      let returned ← tracer.finishPrevious execution.process
        (tracer.dispatchCurrent execution.process manager info)
      let written ← tracer.writeCurrent execution returned info
      return (StepFlow.next, { tracer with infoManager := some written })) := by
  have dispatches : (tracer.withCallbacks callbacks).dispatchCurrent execution.process manager info =
      tracer.dispatchCurrent execution.process manager info := rfl
  have returns : ∀ other, (tracer.withCallbacks callbacks).finishPrevious execution.process other =
      tracer.finishPrevious execution.process other := fun _ => rfl
  have writes : ∀ other, (tracer.withCallbacks callbacks).writeCurrent execution other info =
      tracer.writeCurrent execution other info := fun _ => rfl
  simp only [dispatches, returns, writes]
  cases tracer.finishPrevious execution.process
      (tracer.dispatchCurrent execution.process manager info) with
  | error fault => rfl
  | ok returned =>
    simp only [bind, Except.bind]
    cases tracer.writeCurrent execution returned info <;> rfl

theorem postInstructionCall_withCallbacks :
    (tracer.withCallbacks callbacks).postInstructionCall execution =
      (tracer.postInstructionCall execution).map (Prod.map id (withCallbacks callbacks)) := by
  have hook : ∀ pc, (tracer.withCallbacks callbacks).traceCallbackPost pc =
      (tracer.traceCallbackPost pc).withCallbacks callbacks := by
    intro pc
    simp only [traceCallbackPost, hookOffset, withCallbacks, runHook]
    split <;> rfl
  have recorded : (tracer.withCallbacks callbacks).isNeedRecord execution.inst.address =
      tracer.isNeedRecord execution.inst.address := rfl
  have window : (tracer.withCallbacks callbacks).infoManager = tracer.infoManager := rfl
  simp only [postInstructionCall, hook, recorded, window]
  split
  · rfl
  · split
    · rfl
    · split
      · rfl
      · rename_i manager _ current _
        split
        · rfl
        · generalize tracer.traceCallbackPost current.pc = hooked
          exact posts_withCallbacks ..

theorem noteExecuted_withCallbacks (point : NativePoint) :
    (tracer.withCallbacks callbacks).noteExecuted execution point =
      (tracer.noteExecuted execution point).withCallbacks callbacks := by
  simp only [noteExecuted]
  split <;> rfl

theorem complete_withCallbacks (registered : tracer.vm.callbacks = onceCallbacks true) :
    (tracer.withCallbacks (onceCallbacks false)).complete execution =
      (tracer.complete execution).map (Prod.map id (withCallbacks (onceCallbacks false))) := by
  have loaded : ∀ state : InstructionTracerManager arch,
      (state.withCallbacks (onceCallbacks false)).loadPost execution =
        (state.loadPost execution).withCallbacks (onceCallbacks false) := fun _ => rfl
  have others : (tracer.withCallbacks (onceCallbacks false)).vm.callbacks = onceCallbacks false := rfl
  simp only [complete, noteExecuted_withCallbacks, loaded, others, registered, run_firePost_once,
    postInstructionCall_withCallbacks]
  cases ((tracer.noteExecuted execution .beforePost).loadPost execution).postInstructionCall
      execution with
  | error fault => rfl
  | ok outcome =>
    obtain ⟨flow, finished⟩ := outcome
    cases flow with
    | stop => rfl
    | next =>
      simp only [Except.map, Prod.map, id, noteExecuted_withCallbacks]
      rfl

/-- One instruction that is no svc. -/
theorem execute_withCallbacks (registered : tracer.vm.callbacks = onceCallbacks true)
    (plain : execution.isSvc = false) :
    (tracer.withCallbacks (onceCallbacks false)).execute execution =
      (tracer.execute execution).map (Prod.map id (withCallbacks (onceCallbacks false))) := by
  have loaded : (tracer.withCallbacks (onceCallbacks false)).loadPre execution =
      (tracer.loadPre execution).withCallbacks (onceCallbacks false) := rfl
  have others : (tracer.withCallbacks (onceCallbacks false)).vm.callbacks = onceCallbacks false := rfl
  simp only [execute, loaded, others, registered, run_firePre_once, plain, Bool.and_false,
    Bool.false_eq_true, ↓reduceIte, preInstructionCall_withCallbacks]
  cases opens : (tracer.loadPre execution).preInstructionCall execution with
  | error fault => rfl
  | ok outcome =>
    obtain ⟨flow, opened⟩ := outcome
    cases flow with
    | stop => rfl
    | next =>
      exact complete_withCallbacks
        ((config_callbacks (preInstructionCall_step opens).config).trans registered)

/-- A stream without svcs is traced alike with and without the svc callback. -/
theorem run_withCallbacks (registered : tracer.vm.callbacks = onceCallbacks true)
    {executions : List (Execution arch)} (plain : ∀ execution ∈ executions, execution.isSvc = false) :
    run execute (tracer.withCallbacks (onceCallbacks false)) executions =
      (run execute tracer executions).map (Prod.map id (withCallbacks (onceCallbacks false))) :=
  run_map (withCallbacks (onceCallbacks false)) (·.vm.callbacks = onceCallbacks true)
    (fun _ execution member registered => execute_withCallbacks registered (plain execution member))
    (fun _ _ _ _ registered done => (execute_callbacks done).trans registered) registered

end Callbacks

end InstructionTracerManager

/-- `DispatchSyscall` is given the arguments of a call. -/
def Event.isSyscallArgs : Event arch → Bool
  | .args _ _ (.dispatched (some .syscall)) => true
  | _ => false

theorem Event.isSyscallArgs_eq_false {record now : Nat} {path : CallPath}
    (other : path ≠ .dispatched (some .syscall)) :
    (Event.args record now path : Event arch).isSyscallArgs = false := by
  rcases path with _ | (_ | handler)
  · rfl
  · rfl
  · cases handler <;> first | rfl | exact absurd rfl other

namespace Window

variable {window : Window arch} {seen : Observation arch}

theorem filter_writes (site : Word arch) (now : Nat) (slot : Slot arch) :
    (slot.writes site now).filter Event.isSyscallArgs = [] := by
  simp only [Slot.writes]
  split <;> rfl

theorem filter_finishEvents (seen : Observation arch) (prev : Option (Slot arch)) :
    (finishEvents seen prev).filter Event.isSyscallArgs = [] := by
  rcases prev with _ | slot
  · rfl
  · cases call : slot.call <;>
      simp [finishEvents, call, filter_writes, Event.isSyscallArgs]

theorem filter_ownEvents (seen : Observation arch) (prev : Option (Slot arch)) :
    (ownEvents seen prev).filter Event.isSyscallArgs = [] := by
  cases attaches : seen.attaches <;> cases prev <;>
    simp [ownEvents, attaches, filter_writes, Event.isSyscallArgs]

/-- Only an instruction's own call brings in the arguments of a call. -/
theorem observe_filter
    (avoids : seen.attaches = true → seen.path ≠ .dispatched (some .syscall)) :
    (window.observe seen).log.filter Event.isSyscallArgs =
      window.log.filter Event.isSyscallArgs := by
  have own : (seen.slot.argsEvents seen.seq).filter Event.isSyscallArgs = [] := by
    cases attaches : seen.attaches with
    | false => simp [Observation.slot, Slot.argsEvents, attaches]
    | true =>
      simp [Observation.slot, Slot.argsEvents, attaches,
        Event.isSyscallArgs_eq_false (avoids attaches)]
  simp only [observe]
  split
  · simp only [List.filter_append, own, filter_finishEvents, filter_ownEvents, List.append_nil]
  · split <;> rfl

theorem observeAll_filter {stream : List (Observation arch)}
    (avoids : ∀ seen ∈ stream, seen.attaches = true → seen.path ≠ .dispatched (some .syscall)) :
    (window.observeAll stream).log.filter Event.isSyscallArgs =
      window.log.filter Event.isSyscallArgs := by
  induction stream generalizing window with
  | nil => rfl
  | cons seen rest ih =>
    have later : ((window.observe seen).observeAll rest).log.filter Event.isSyscallArgs = _ :=
      ih fun other member => avoids other (.tail _ member)
    exact later.trans (observe_filter (avoids seen (.head _)))

end Window

namespace InstructionTracerManager

variable {tracer : InstructionTracerManager arch} {manager : InstructionInfoManager arch}

/-- Without the svc callback no call is an svc. -/
theorem observation_avoids (seq : Nat) (execution : Execution arch) :
    ((tracer.setting manager false).observation seq execution).attaches = true →
      ((tracer.setting manager false).observation seq execution).path ≠
        .dispatched (some .syscall) := by
  intro attaches
  have branches : execution.inst.isFunCall = true := by
    simpa [Setting.observation, setting, Execution.attachesFunCall] using attaches
  simp only [Setting.observation, branches, Bool.not_true, Setting.path, setting]
  split
  · exact CallPath.noConfusion
  · simp only [InstructionDispatchManager.claimant, Bool.false_eq_true, ↓reduceIte]
    repeat' split
    all_goals decide

/-- An attached trace gives nothing to `DispatchSyscall`. -/
theorem attach_no_syscall {executions : List (Execution arch)} {flow : VMAction}
    {after : InstructionTracerManager arch} {finished : InstructionInfoManager arch}
    (fresh : Fresh tracer manager false) (ran : run execute tracer executions = .ok (flow, after))
    (found : after.infoManager = some finished) :
    ∀ event ∈ finished.journal, event.isSyscallArgs = false := by
  obtain ⟨-, last, tracks⟩ := run_tracks fresh.tracks ran
  cases tracks.present.symm.trans found
  have quiet : (control finished.journal).filter Event.isSyscallArgs = [] := by
    rw [tracks.log]
    refine Window.observeAll_filter ?_
    intro seen member
    obtain ⟨entry, -, rfl⟩ := List.mem_map.mp member
    exact observation_avoids entry.2 entry.1
  intro event member
  by_contra syscall
  rw [Bool.not_eq_false] at syscall
  have controls : event ∈ control finished.journal := by
    refine List.mem_filter.mpr ⟨member, ?_⟩
    cases event <;> first | rfl | cases syscall
  have absurd : event ∈ (control finished.journal).filter Event.isSyscallArgs :=
    List.mem_filter.mpr ⟨controls, syscall⟩
  rw [quiet] at absurd
  cases absurd

/-- The two entries leave the same journal, lines and block table, and each svc of the
stream has a record that went to `DispatchSyscall` and to the logger. -/
structure EntriesAgree (tracer : InstructionTracerManager arch) (process : Process arch)
    (executions : List (Execution arch)) : Prop where
  same : (tracer.enter .run process executions).map (·.infoManager) =
    (tracer.enter .attach process executions).map (·.infoManager)
  svcs : ∀ kind, ∀ entry ∈ executions.zipIdx tracer.vm.clock, entry.1.isSvc = true →
    ∃ after finished now later, tracer.enter kind process executions = .ok after ∧
      after.infoManager = some finished ∧
      Event.args entry.2 now (.dispatched (some .syscall)) ∈ finished.journal ∧
      Event.written entry.2 later ∈ finished.journal

section Entries

variable {process : Process arch} {executions : List (Execution arch)}

theorem register_fresh (unentered : tracer.Unentered) (present : tracer.infoManager = some manager)
    (svcHook : Bool) : Fresh (tracer.register (onceCallbacks svcHook)) manager svcHook := by
  obtain ⟨noPre, noCur, silent⟩ := unentered.window manager present
  refine ⟨present, ?_, noPre, noCur, silent⟩
  rw [register, unentered.callbacks]
  rfl

/-- On a stream without svcs the two entries do the same. -/
theorem enter_same (unentered : tracer.Unentered)
    (plain : ∀ execution ∈ executions, execution.isSvc = false) :
    (tracer.enter .run process executions).map (·.infoManager) =
      (tracer.enter .attach process executions).map (·.infoManager) := by
  have registered : (tracer.register (onceCallbacks true)).vm.callbacks = onceCallbacks true := by
    rw [register, unentered.callbacks]
    rfl
  have attached : tracer.register (onceCallbacks false) =
      (tracer.register (onceCallbacks true)).withCallbacks (onceCallbacks false) := by
    simp only [register, withCallbacks, unentered.callbacks, List.nil_append]
  have run_kind : (EntryKind.run == .run) = true := rfl
  have attach_kind : (EntryKind.attach == .run) = false := rfl
  rw [enter_eq, enter_eq, run_kind, attach_kind, attached, vmCall, vmCall,
    run_withCallbacks registered plain]
  cases run execute (tracer.register (onceCallbacks true)) executions with
  | error fault => rfl
  | ok outcome =>
    have window : (outcome.2.withCallbacks (onceCallbacks false)).infoManager =
        outcome.2.infoManager := rfl
    simp only [Except.map, bind, Except.bind, Prod.map, flushInfo, window]
    cases outcome.2.infoManager <;> rfl

/-- On a tracer before its first entry the two ways to enter agree exactly on the streams
without svcs. -/
theorem entriesAgree_iff (unentered : tracer.Unentered)
    (present : tracer.infoManager = some manager) (process : Process arch)
    (executions : List (Execution arch)) :
    EntriesAgree tracer process executions ↔
      ∀ execution ∈ executions, execution.isSvc = false := by
  constructor
  · intro agree execution member
    by_contra svc
    rw [Bool.not_eq_false] at svc
    obtain ⟨seq, numbered⟩ : ∃ seq, (execution, seq) ∈ executions.zipIdx tracer.vm.clock := by
      rw [← List.zipIdx_map_fst tracer.vm.clock executions] at member
      obtain ⟨entry, numbered, rfl⟩ := List.mem_map.mp member
      exact ⟨entry.2, numbered⟩
    obtain ⟨after, finished, now, later, entered, found, args, -⟩ :=
      agree.svcs .attach (execution, seq) numbered svc
    obtain ⟨flow, returned, last, ran, here, rfl⟩ := enter_ok entered
    cases found
    have quiet := attach_no_syscall (register_fresh unentered present false) ran here _ args
    cases quiet
  · intro plain
    refine ⟨enter_same unentered plain, fun kind entry numbered svc => ?_⟩
    have member : entry.1 ∈ executions := List.fst_mem_of_mem_zipIdx numbered
    cases svc.symm.trans (plain entry.1 member)

end Entries

/-- A plain instruction and a branch. -/
theorem entriesAgree_iff_plain :
    EntriesAgree (tracedModule [] []) idleProcess [plainAt 0x1000, branchAt 0x1004 0x1000] := by
  refine (entriesAgree_iff (tracedModule_unentered []) rfl _ _).mpr ?_
  simp [plainAt, branchAt, Execution.simple]

/-- What an entry that ends well has given to `DispatchSyscall`. -/
def syscallArgs (entered : Except Fault (InstructionTracerManager arch)) :
    Except Fault (Option (List (Event arch))) :=
  (entered.map (·.infoManager)).map (Option.map fun manager =>
    manager.journal.filter Event.isSyscallArgs)

/-- An svc: attached, it is logged as a plain instruction. -/
theorem svc_entries_differ :
    syscallArgs ((tracedModule [] []).enter .run idleProcess [svcAt 0x1000, plainAt 0x1004]) =
        .ok (some [.args 0 0 (.dispatched (some .syscall))]) ∧
      syscallArgs ((tracedModule [] []).enter .attach idleProcess
        [svcAt 0x1000, plainAt 0x1004]) = .ok (some []) ∧
      ¬ EntriesAgree (tracedModule [] []) idleProcess [svcAt 0x1000, plainAt 0x1004] := by
  have run : syscallArgs ((tracedModule [] []).enter .run idleProcess
      [svcAt 0x1000, plainAt 0x1004]) = .ok (some [.args 0 0 (.dispatched (some .syscall))]) := rfl
  have attach : syscallArgs ((tracedModule [] []).enter .attach idleProcess
      [svcAt 0x1000, plainAt 0x1004]) = .ok (some []) := rfl
  refine ⟨run, attach, fun agree => ?_⟩
  rw [syscallArgs, agree.same] at run
  cases run.symm.trans attach

end InstructionTracerManager

end QbdiTracer
