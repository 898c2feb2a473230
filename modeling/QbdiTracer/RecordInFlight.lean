import QbdiTracer.DumpFile
import QbdiTracer.EntryEnds

/-! The record of the instruction in flight: what the svc callback and the POST
callback find in `cur_info`. -/

namespace QbdiTracer

open FlowRun

variable {arch : Arch}

theorem InstructionInfoManager.shapes_opened (manager : InstructionInfoManager arch)
    (info : InstTraceInfo arch) :
    (manager.opened info).shapes = (manager.shapes.2.or manager.shapes.1, some info.shape) := by
  cases current : manager.curInfo <;>
    simp [InstructionInfoManager.opened, InstructionInfoManager.shapes, current]

namespace InstructionTracerManager

/-- The shapes of the record window. -/
def window (tracer : InstructionTracerManager arch) :
    Option (Option (RecordShape arch) × Option (RecordShape arch)) :=
  tracer.infoManager.map InstructionInfoManager.shapes

/-- Every record of the window has property `good`. -/
def WindowOf (good : RecordShape arch → Prop) (tracer : InstructionTracerManager arch) : Prop :=
  ∀ shapes ∈ tracer.window, ∀ shape, shape ∈ shapes.1 ∨ shape ∈ shapes.2 → good shape

/-- A property that a new record has, if the filter lets it be opened, and that an
attached svc call does not spoil. -/
structure Lasting (records : Word arch → Bool) (good : RecordShape arch → Prop) : Prop where
  opened : ∀ (execution : Execution arch) seq pc status, records pc = true →
    good (openedInfo execution seq pc status).shape
  attached : ∀ (execution : Execution arch) (info : InstTraceInfo arch), good info.shape →
    good (svcInfo execution info).shape

section Window

variable {execution : Execution arch} {tracer after : InstructionTracerManager arch}
  {flow : VMAction} {good : RecordShape arch → Prop}

theorem WindowOf.of_window_eq (holds : tracer.WindowOf good) (same : after.window = tracer.window) :
    after.WindowOf good := by
  intro shapes present
  rw [same] at present
  exact holds shapes present

theorem PreStep.windowOf (step : PreStep execution tracer flow after)
    (lasting : Lasting tracer.isNeedRecord good) (holds : tracer.WindowOf good) :
    after.WindowOf good := by
  cases step with
  | passes => exact holds
  | stops absent => exact holds
  | @opens manager vm status recorded present hooked =>
    have before : ∀ shape, shape ∈ manager.shapes.1 ∨ shape ∈ manager.shapes.2 → good shape :=
      holds manager.shapes (by simp [window, present])
    intro shapes found shape member
    simp only [window, Option.map_some, Option.mem_def, Option.some.injEq] at found
    subst found
    rw [InstructionInfoManager.shapes_opened] at member
    rcases member with older | newest
    · rcases Option.or_eq_some_iff.mp older with latest | ⟨-, first⟩
      · exact before shape (.inr latest)
      · exact before shape (.inl first)
    · cases newest
      exact lasting.opened execution tracer.vm.clock tracer.vm.gprState.pc status recorded
  | @attaches manager info present current =>
    have before : ∀ shape, shape ∈ manager.shapes.1 ∨ shape ∈ manager.shapes.2 → good shape :=
      holds manager.shapes (by simp [window, present])
    intro shapes found shape member
    simp only [window, Option.map_some, Option.mem_def, Option.some.injEq] at found
    subst found
    rcases member with older | newest
    · exact before shape (.inl older)
    · cases newest
      exact lasting.attached execution info
        (before info.shape (.inr (by simp [InstructionInfoManager.shapes, current])))

/-- The POST callback works on the window without changing its shapes. -/
theorem postInstructionCall_window
    (done : tracer.postInstructionCall execution = .ok (flow, after)) :
    after.window = tracer.window := by
  cases present : tracer.infoManager with
  | none =>
    cases postInstructionCall_step done with
    | skips filtered => rfl
    | stops recorded foreign => rfl
    | posts recorded found => cases found.symm.trans present
  | some manager =>
    obtain ⟨finished, found, same, -⟩ := postInstructionCall_block present done
    simp [window, found, present, same]

theorem noteExecuted_window (execution : Execution arch) (point : NativePoint)
    (tracer : InstructionTracerManager arch) :
    (tracer.noteExecuted execution point).window = tracer.window := by
  cases present : tracer.infoManager with
  | none => simp [window, noteExecuted_absent execution point present, present]
  | some manager =>
    obtain ⟨noted, same, logged⟩ := noteExecuted_logged execution point present
    rw [same]
    simp [window, present, logged.shapes]

theorem firePost_window {callbacks : List CallbackKind}
    (done : run (firePost execution) tracer callbacks = .ok (flow, after)) :
    after.window = tracer.window := by
  refine run_invariant (fun state => state.window = tracer.window) ?_ rfl done
  intro before callback flow after same fired
  cases callback with
  | postInstruction => exact (postInstructionCall_window fired).trans same
  | preInstruction => cases fired; exact same
  | preSvc => cases fired; exact same

theorem firePre_windowOf {callbacks : List CallbackKind} (lasting : Lasting tracer.isNeedRecord good)
    (holds : tracer.WindowOf good)
    (done : run (firePre execution) tracer callbacks = .ok (flow, after)) : after.WindowOf good := by
  refine (run_invariant (fun state => state.config = tracer.config ∧ state.WindowOf good)
    ?_ ⟨rfl, holds⟩ done).2
  rintro before callback flow after ⟨same, holds⟩ fired
  have step := firePre_step fired
  refine ⟨step.config.trans same, step.windowOf ?_ holds⟩
  rw [config_isNeedRecord same]
  exact lasting

theorem executed_window (execution : Execution arch) (ready : InstructionTracerManager arch) :
    (ready.executed execution).window = ready.window :=
  noteExecuted_window execution .beforePost ready

theorem execute_windowOf (lasting : Lasting tracer.isNeedRecord good) (holds : tracer.WindowOf good)
    (done : tracer.execute execution = .ok (flow, after)) : after.WindowOf good := by
  have loaded : (tracer.loadPre execution).WindowOf good := holds
  have lastingLoaded : Lasting (tracer.loadPre execution).isNeedRecord good := lasting
  apply execute_invariant (fun state => state.WindowOf good) _ _ _ _ done
  · exact firePre_windowOf lastingLoaded loaded
  · exact fun opened => opened.of_window_eq (executed_window execution _)
  · exact fun opened posts => opened.of_window_eq (firePost_window posts)
  · exact fun posted => posted.of_window_eq (noteExecuted_window execution .afterPost _)

theorem execute_isNeedRecord (done : tracer.execute execution = .ok (flow, after)) :
    after.isNeedRecord = tracer.isNeedRecord := by
  have same := config_isNeedRecord (execute_config done)
  cases flow <;> exact same

theorem run_windowOf {executions : List (Execution arch)} (lasting : Lasting tracer.isNeedRecord good)
    (holds : tracer.WindowOf good)
    (ran : run execute tracer executions = .ok (flow, after)) :
    after.isNeedRecord = tracer.isNeedRecord ∧ after.WindowOf good := by
  refine run_invariant (fun state => state.isNeedRecord = tracer.isNeedRecord ∧
    state.WindowOf good) ?_ ⟨rfl, holds⟩ ran
  rintro before execution flow next ⟨same, holds⟩ taken
  refine ⟨(execute_isNeedRecord taken).trans same, execute_windowOf ?_ holds taken⟩
  rw [same]
  exact lasting

/-- An operation between two runs keeps the record filter and the property. -/
theorem Operation.apply_windowOf {operation : Operation arch}
    (lasting : Lasting tracer.isNeedRecord good) (holds : tracer.WindowOf good)
    (done : operation.apply tracer = .ok after) :
    after.isNeedRecord = tracer.isNeedRecord ∧ after.WindowOf good := by
  have inits : Reinitialised tracer after →
      after.isNeedRecord = tracer.isNeedRecord ∧ after.WindowOf good := by
    intro init
    refine ⟨by funext addr; simp only [isNeedRecord, init.ranges], ?_⟩
    rcases init.window with same | ⟨fresh, found, noPre, noCur, -⟩
    · exact holds.of_window_eq (congrArg (Option.map InstructionInfoManager.shapes) same)
    · intro shapes present shape member
      simp only [window, found, Option.map_some, Option.mem_def, Option.some.injEq] at present
      subst present
      simp [InstructionInfoManager.shapes, noPre, noCur] at member
  cases operation with
  | enter kind process executions =>
    obtain ⟨flow, returned, manager, ran, found, rfl⟩ := enter_ok done
    have registered : (tracer.register (onceCallbacks (kind == .run))).WindowOf good := holds
    have lastingHere :
        Lasting (tracer.register (onceCallbacks (kind == .run))).isNeedRecord good := lasting
    obtain ⟨filter, kept⟩ := run_windowOf lastingHere registered ran
    refine ⟨filter, kept.of_window_eq ?_⟩
    simp only [window, found]
    rfl
  | initSymbol loader name symbol =>
    cases done
    exact inits (tracer.initSymbol_reinitialised loader name symbol)
  | initOffset loader name offset =>
    cases done
    exact inits (tracer.initOffset_reinitialised loader name offset)
  | initAddress loader address =>
    cases done
    exact inits (tracer.initAddress_reinitialised loader address)

theorem applyAll_windowOf {history : List (Operation arch)}
    (lasting : Lasting tracer.isNeedRecord good) (holds : tracer.WindowOf good)
    (done : tracer.applyAll history = .ok after) :
    after.isNeedRecord = tracer.isNeedRecord ∧ after.WindowOf good := by
  induction history generalizing tracer with
  | nil =>
    cases done
    exact ⟨rfl, holds⟩
  | cons operation history ih =>
    rw [applyAll_cons] at done
    obtain ⟨next, applied, others⟩ := bind_ok done
    obtain ⟨filter, kept⟩ := Operation.apply_windowOf lasting holds applied
    obtain ⟨filterRest, keptRest⟩ := ih (filter ▸ lasting) kept others
    exact ⟨filterRest.trans filter, keptRest⟩

theorem Unentered.windowOf (unentered : tracer.Unentered) : tracer.WindowOf good := by
  intro shapes present shape member
  obtain ⟨manager, found, rfl⟩ := Option.map_eq_some_iff.mp present
  obtain ⟨noPre, noCur, -⟩ := unentered.window manager found
  simp [InstructionInfoManager.shapes, noPre, noCur] at member

end Window

/-- `cur_info` is the record that the PRE callback has opened for the execution. -/
def OwnsRecord (execution : Execution arch) (tracer : InstructionTracerManager arch) : Prop :=
  ∃ manager info, tracer.infoManager = some manager ∧ manager.curInfo = some info ∧
    info.pc = execution.pc ∧ info.seq = tracer.vm.clock

section Own

variable {execution : Execution arch} {tracer after : InstructionTracerManager arch}
  {manager : InstructionInfoManager arch} {flow : VMAction}

theorem svcInfo_identity (execution : Execution arch) (info : InstTraceInfo arch) :
    (svcInfo execution info).pc = info.pc ∧ (svcInfo execution info).seq = info.seq := by
  unfold svcInfo
  split <;> exact ⟨rfl, rfl⟩

theorem preInstructionCall_own (here : tracer.vm.gprState.pc = execution.pc)
    (recorded : tracer.isNeedRecord execution.pc = true)
    (present : tracer.infoManager = some manager)
    (done : tracer.preInstructionCall execution = .ok (flow, after)) :
    after.OwnsRecord execution := by
  have clock := config_clock (preInstructionCall_step done).config
  obtain ⟨vm, status, -, opens⟩ :=
    preInstructionCall_opens execution (here.symm ▸ recorded) present
  cases opens.symm.trans done
  exact ⟨_, _, rfl, rfl, here, clock.symm⟩

/-- A further PRE callback leaves the own record current: it attaches to it, or
opens another one for the same execution. -/
theorem firePre_keepsOwn {callback : CallbackKind} (own : tracer.OwnsRecord execution)
    (here : callback = .preInstruction → tracer.vm.gprState.pc = execution.pc)
    (fired : firePre execution tracer callback = .ok (flow, after)) :
    after.OwnsRecord execution := by
  obtain ⟨manager, info, present, current, pc, seq⟩ := own
  cases callback with
  | postInstruction =>
    cases fired
    exact ⟨manager, info, present, current, pc, seq⟩
  | preSvc =>
    simp only [firePre] at fired
    split at fired
    · obtain ⟨samePc, sameSeq⟩ := svcInfo_identity execution info
      rw [preSvcInstructionCall_attaches execution present current] at fired
      cases fired
      exact ⟨_, _, rfl, rfl, samePc.trans pc, sameSeq.trans seq⟩
    · cases fired
      exact ⟨manager, info, present, current, pc, seq⟩
  | preInstruction =>
    cases recorded : tracer.isNeedRecord tracer.vm.gprState.pc with
    | false =>
      cases (preInstructionCall_skips recorded).symm.trans fired
      exact ⟨manager, info, present, current, pc, seq⟩
    | true => exact preInstructionCall_own (here rfl) (here rfl ▸ recorded) present fired

/-- The own record stays current through the rest of the PRE callbacks, if the
hooks keep the `pc` or no further record is opened. -/
theorem firePre_own {callbacks : List CallbackKind} (own : tracer.OwnsRecord execution)
    (calm : .preInstruction ∈ callbacks →
      tracer.HooksKeepPc ∧ tracer.vm.gprState.pc = execution.pc)
    (done : run (firePre execution) tracer callbacks = .ok (flow, after)) :
    after.OwnsRecord execution := by
  induction callbacks generalizing tracer with
  | nil =>
    cases done
    exact own
  | cons callback rest ih =>
    have here : callback = .preInstruction → tracer.vm.gprState.pc = execution.pc := by
      intro opens
      exact (calm (opens ▸ List.mem_cons_self)).2
    cases fired : firePre execution tracer callback with
    | error fault => simp [run_cons, fired] at done
    | ok result =>
      obtain ⟨verdict, next⟩ := result
      have kept := firePre_keepsOwn own here fired
      cases verdict with
      | stop =>
        simp only [run_cons, fired, Except.ok.injEq, Prod.mk.injEq] at done
        exact done.2 ▸ kept
      | next =>
        rw [run_cons_next fired] at done
        refine ih kept ?_ done
        intro later
        obtain ⟨keeps, pc⟩ := calm (.tail _ later)
        have step := firePre_step fired
        exact ⟨config_hooksKeepPc step.config keeps, (step.pc keeps).trans pc⟩

/-- The PRE callbacks of a recorded execution make its own record current. -/
theorem firePre_opensOwn {others : List CallbackKind}
    (calm : .preInstruction ∈ others → tracer.HooksKeepPc)
    (here : tracer.vm.gprState.pc = execution.pc)
    (recorded : tracer.isNeedRecord execution.pc = true)
    (present : tracer.infoManager = some manager)
    (done : run (firePre execution) tracer (.preInstruction :: others) = .ok (flow, after)) :
    after.OwnsRecord execution := by
  cases fired : firePre execution tracer .preInstruction with
  | error fault => simp [run_cons, fired] at done
  | ok result =>
    obtain ⟨verdict, next⟩ := result
    have own := preInstructionCall_own here recorded present fired
    cases verdict with
    | stop =>
      simp only [run_cons, fired, Except.ok.injEq, Prod.mk.injEq] at done
      exact done.2 ▸ own
    | next =>
      rw [run_cons_next fired] at done
      refine firePre_own own ?_ done
      intro later
      have step := firePre_step fired
      exact ⟨config_hooksKeepPc step.config (calm later), (step.pc (calm later)).trans here⟩

/-- Outside the record filter the PRE callbacks before the svc one do nothing. -/
theorem firePre_filtered {callbacks : List CallbackKind}
    (filtered : tracer.isNeedRecord tracer.vm.gprState.pc = false)
    (silent : .preSvc ∉ callbacks) :
    run (firePre execution) tracer callbacks = .ok (.next, tracer) := by
  induction callbacks with
  | nil => rfl
  | cons callback rest ih =>
    have fired : firePre execution tracer callback = .ok (.next, tracer) := by
      cases callback with
      | preInstruction => exact preInstructionCall_skips filtered
      | postInstruction => rfl
      | preSvc => exact absurd List.mem_cons_self silent
    rw [run_cons_next fired]
    exact ih fun later => silent (.tail _ later)

end Own

/-- The first callback that is registered opens records; in a first entry it is
the only one. -/
theorem registers_cons (kinds : List EntryKind) (kind : EntryKind) :
    ∃ others, kinds.flatMap EntryKind.registers ++ EntryKind.registers kind =
        .preInstruction :: others ∧
      (kinds = [] → .preInstruction ∉ others) := by
  cases kinds with
  | nil => cases kind <;> exact ⟨_, rfl, fun _ => by decide⟩
  | cons first rest => cases first <;> exact ⟨_, rfl, nofun⟩

/-- The tracer as an entry after some history starts its run. -/
theorem entered_callbacks {origin before : InstructionTracerManager arch}
    {history : List (Operation arch)} (kind : EntryKind) (unentered : origin.Unentered)
    (arrived : origin.applyAll history = .ok before)
    (keeps : entries history ≠ [] → before.HooksKeepPc) :
    ∃ others, (before.register kind.registers).vm.callbacks = .preInstruction :: others ∧
      (.preInstruction ∈ others → before.HooksKeepPc) := by
  obtain ⟨others, split, first⟩ := registers_cons (entries history) kind
  refine ⟨others, ?_, ?_⟩
  · rw [← split]
    simp only [register, applyAll_callbacks arrived, unentered.callbacks, List.nil_append]
  · intro later
    exact keeps fun none => first none later

/-- Whenever the svc callback of a run reads `cur_info`, it finds the record of
that very svc. -/
def SvcReadsOwn (tracer : InstructionTracerManager arch) (executions : List (Execution arch)) :
    Prop :=
  ∀ past svc rest reached fired later ready, executions = past ++ svc :: rest →
    run execute tracer past = .ok (.next, reached) → svc.isSvc = true →
    reached.vm.callbacks = fired ++ .preSvc :: later →
    run (firePre svc) (reached.loadPre svc) fired = .ok (.next, ready) →
    ready.infoManager.isSome = true → ready.OwnsRecord svc

/-- Every svc that a run comes to passes the record filter. -/
def SvcsRecorded (tracer : InstructionTracerManager arch) (executions : List (Execution arch)) :
    Prop :=
  ∀ past svc rest reached, executions = past ++ svc :: rest →
    run execute tracer past = .ok (.next, reached) → svc.isSvc = true →
    tracer.isNeedRecord svc.pc = true

section Svc

variable {origin before tracer reached : InstructionTracerManager arch}
  {history : List (Operation arch)} {executions : List (Execution arch)}

/-- The record filter as a property of the window: a record is opened at a `pc`
that passes it, and keeps that `pc`. -/
theorem lasting_recorded (records : Word arch → Bool) :
    Lasting records fun shape => records shape.pc = true where
  opened := fun _ _ _ _ recorded => recorded
  attached := by
    intro execution info recorded
    have same : (svcInfo execution info).shape.pc = info.shape.pc :=
      (svcInfo_identity execution info).1
    rw [same]
    exact recorded

theorem run_reached {flow : VMAction} (ran : run execute tracer executions = .ok (flow, reached)) :
    reached.vm.callbacks = tracer.vm.callbacks ∧ reached.isNeedRecord = tracer.isNeedRecord ∧
      (tracer.HooksKeepPc → reached.HooksKeepPc) := by
  refine run_invariant (fun state : InstructionTracerManager arch =>
    state.vm.callbacks = tracer.vm.callbacks ∧ state.isNeedRecord = tracer.isNeedRecord ∧
      (tracer.HooksKeepPc → state.HooksKeepPc)) ?_ ⟨rfl, rfl, id⟩ ran
  rintro state execution flow next ⟨registered, filter, kept⟩ taken
  refine ⟨(execute_callbacks taken).trans registered, (execute_isNeedRecord taken).trans filter, ?_⟩
  intro keeps
  have same := execute_config taken
  cases flow <;> exact config_hooksKeepPc same (kept keeps)

/-- Recorded svc instructions find their own record. -/
theorem SvcsRecorded.readsOwn {others : List CallbackKind} (recorded : tracer.SvcsRecorded executions)
    (registered : tracer.vm.callbacks = .preInstruction :: others)
    (calm : .preInstruction ∈ others → tracer.HooksKeepPc) : tracer.SvcReadsOwn executions := by
  intro past svc rest reached fired later ready stream ran isSvc split fires present
  have passes := recorded past svc rest reached stream ran isSvc
  obtain ⟨callbacks, filter, kept⟩ := run_reached ran
  rw [callbacks, registered] at split
  -- the first callback that is registered is not the svc one
  cases fired with
  | nil => cases split
  | cons first prior =>
    obtain ⟨rfl, rfl⟩ := List.cons.inj split
    cases found : (reached.loadPre svc).infoManager with
    | none =>
      rw [firePre_absent found fires] at present
      cases present
    | some manager =>
      refine firePre_opensOwn ?_ (reached.loadPre_pc svc) ?_ found fires
      · intro opensAgain
        exact kept (calm (List.mem_append_left _ opensAgain))
      · exact (congrFun filter svc.pc).trans passes

/-- An svc outside the filter finds nothing, or a record that was opened at
another `pc`. -/
theorem SvcReadsOwn.recorded (reads : tracer.SvcReadsOwn executions)
    (present : tracer.infoManager.isSome = true)
    (window : tracer.WindowOf fun shape => tracer.isNeedRecord shape.pc = true)
    (hooked : .preSvc ∈ tracer.vm.callbacks) : tracer.SvcsRecorded executions := by
  intro past svc rest reached stream ran isSvc
  obtain ⟨callbacks, filter, -⟩ := run_reached ran
  by_contra unrecorded
  have filtered : (reached.loadPre svc).isNeedRecord (reached.loadPre svc).vm.gprState.pc = false := by
    rw [reached.loadPre_pc svc]
    exact (congrFun filter svc.pc).trans (Bool.not_eq_true _ ▸ unrecorded)
  obtain ⟨fired, later, split, silent⟩ := List.eq_append_cons_of_mem hooked
  obtain ⟨manager, infos⟩ := Option.isSome_iff_exists.mp present
  obtain ⟨-, middle, found, -⟩ := run_growsBy infos ran
  obtain ⟨last, info, here, current, own, -⟩ := reads past svc rest reached fired later
    (reached.loadPre svc) stream ran isSvc (callbacks.trans split) (firePre_filtered filtered silent)
    (by rw [show (reached.loadPre svc).infoManager = _ from found]; rfl)
  obtain ⟨-, kept⟩ := run_windowOf (lasting_recorded tracer.isNeedRecord) window ran
  have shapes : reached.window = some last.shapes := by
    simp only [InstructionTracerManager.window, show reached.infoManager = _ from here,
      Option.map_some]
  have passes : tracer.isNeedRecord info.pc = true := kept last.shapes shapes info.shape
    (.inr (by simp [InstructionInfoManager.shapes, current]))
  exact unrecorded (own ▸ passes)

/-- In a run, first or later, the svc callback always reads the record of its own
svc exactly when every svc the run comes to passes the record filter. -/
theorem svcReadsOwn_iff (unentered : origin.Unentered)
    (arrived : origin.applyAll history = .ok before)
    (keeps : entries history ≠ [] → before.HooksKeepPc) (executions : List (Execution arch)) :
    (before.register (EntryKind.registers .run)).SvcReadsOwn executions ↔
      (before.infoManager.isSome = true →
        (before.register (EntryKind.registers .run)).SvcsRecorded executions) := by
  obtain ⟨others, registered, calm⟩ := entered_callbacks .run unentered arrived keeps
  constructor
  · intro reads present
    obtain ⟨filter, window⟩ :=
      applyAll_windowOf (lasting_recorded origin.isNeedRecord) unentered.windowOf arrived
    refine reads.recorded present ?_ (List.mem_append_right _ (by decide))
    rw [← filter] at window
    exact window
  · intro recorded
    by_cases present : before.infoManager.isSome = true
    · exact (recorded present).readsOwn registered calm
    · -- without an info manager the svc callback stops before it reads anything
      intro past svc rest reached fired later ready stream ran isSvc split fires found
      have absent : (before.register (EntryKind.registers .run)).infoManager = none :=
        Option.not_isSome_iff_eq_none.mp present
      have missing := run_invariant (fun state : InstructionTracerManager arch =>
        state.infoManager = none) (fun _ _ _ _ absent taken => execute_absent absent taken) absent ran
      rw [firePre_absent (show (reached.loadPre svc).infoManager = none from missing) fires] at found
      cases found

end Svc

theorem svcReadsOwn_iff_inside :
    ((tracedModule [] [⟨0x1000, 0x1004⟩]).register (EntryKind.registers .run)).SvcReadsOwn
      [svcAt 0x1000] := by
  have arrived : (tracedModule [] [⟨0x1000, 0x1004⟩]).applyAll [] =
    .ok (tracedModule [] [⟨0x1000, 0x1004⟩]) := rfl
  apply (svcReadsOwn_iff (tracedModule_unentered _) arrived (fun later => absurd rfl later) _).mpr
  intro present past svc rest reached stream ran isSvc
  cases past with
  | nil => cases stream; rfl
  | cons first others => simp at stream

/-- An svc before the first recorded instruction: `cur_info` is still null. -/
theorem svc_outside_reads_null :
    runTracer idleProcess (tracedModule [] [⟨0x1000, 0x1004⟩]) [svcAt 0x1008] =
      .error .nullRecord ∧
    ¬ ((tracedModule [] [⟨0x1000, 0x1004⟩]).register (EntryKind.registers .run)).SvcReadsOwn
      [svcAt 0x1008] := by
  refine ⟨rfl, fun reads => ?_⟩
  obtain ⟨manager, info, present, current, -⟩ := reads [] (svcAt 0x1008) [] _
    [.preInstruction, .postInstruction] [] _ rfl rfl rfl rfl rfl rfl
  cases present
  cases current

end InstructionTracerManager

end QbdiTracer
