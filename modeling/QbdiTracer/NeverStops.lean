import QbdiTracer.RecordInFlight

/-! A run whose first recorded instruction does not come after its first svc goes
through: no POST callback stops it, and no callback faults. -/

namespace QbdiTracer

open FlowRun

variable {arch : Arch}

/-- A record with a call knows the analysis it is written with. -/
def RecordShape.Analysed (shape : RecordShape arch) : Prop :=
  shape.hasCall = true → shape.instAnalysis.isSome = true

namespace InstructionInfoManager

/-- `memory_manager` of the logger is there to be dereferenced. -/
def HasMemory (manager : InstructionInfoManager arch) : Prop :=
  ∃ memory, manager.logger.memoryManager = some memory

variable {manager : InstructionInfoManager arch}

theorem HasMemory.writeSlot (memory : manager.HasMemory) (process : Process arch) (now : Nat)
    (inst : InstAnalysis arch) (accesses : List (MemoryAccess arch))
    (slot : Option (InstTraceInfo arch)) :
    ∃ written, manager.writeSlot process now inst accesses slot = .ok written ∧
      written.HasMemory := by
  obtain ⟨tracked, present⟩ := memory
  cases slot with
  | none => exact ⟨manager, rfl, tracked, present⟩
  | some info =>
    simp only [InstructionInfoManager.writeSlot]
    split
    · obtain ⟨logger, block, updated, wrote, found, -⟩ :=
        manager.logger.writeTraceInfo_writes process present info inst accesses
      simp only [wrote, bind, Except.bind, pure, Except.pure]
      exact ⟨_, rfl, updated, found⟩
    · exact ⟨manager, rfl, tracked, present⟩

theorem HasMemory.writeTraceInfo (memory : manager.HasMemory) (process : Process arch) (now : Nat)
    (inst : InstAnalysis arch) (accesses : List (MemoryAccess arch)) :
    ∃ written, manager.writeTraceInfo process now inst accesses = .ok written ∧
      written.HasMemory := by
  obtain ⟨first, wroteFirst, memory⟩ := memory.writeSlot process now inst accesses manager.preInfo
  obtain ⟨second, wroteSecond, memory⟩ := memory.writeSlot process now inst accesses first.curInfo
  refine ⟨second, ?_, memory⟩
  simp only [InstructionInfoManager.writeTraceInfo, wroteFirst, wroteSecond, bind, Except.bind]

end InstructionInfoManager

namespace InstructionTracerManager

theorem lasting_analysed (records : Word arch → Bool) :
    Lasting records fun shape => shape.Analysed where
  opened := by
    intro execution seq pc status recorded attached
    cases call : execution.inst.isFunCall <;>
      simp_all [openedInfo, InstTraceInfo.shape]
  attached := by
    intro execution info analysed attached
    unfold svcInfo
    split
    · rename_i called
      exact analysed called
    · rfl

/-- The dereferences of the POST callback succeed. -/
structure Armed (tracer : InstructionTracerManager arch) : Prop where
  memory : ∃ manager, tracer.infoManager = some manager ∧ manager.HasMemory
  analysed : tracer.WindowOf RecordShape.Analysed

section Runs

variable {execution : Execution arch} {tracer after : InstructionTracerManager arch}
  {manager : InstructionInfoManager arch} {flow : VMAction}

theorem finishPrevious_runs (tracer : InstructionTracerManager arch)
    (memory : manager.HasMemory) (process : Process arch)
    (analysed : ∀ prev ∈ manager.preInfo, prev.shape.Analysed) :
    ∃ returned, tracer.finishPrevious process manager = .ok returned ∧ returned.HasMemory := by
  cases prevInfo : manager.preInfo with
  | none =>
    simp only [finishPrevious, prevInfo]
    exact ⟨manager, rfl, memory⟩
  | some prev =>
    cases attached : prev.funCall with
    | none =>
      simp only [finishPrevious, prevInfo, attached]
      exact ⟨manager, rfl, memory⟩
    | some call =>
      obtain ⟨inst, analysis⟩ := Option.isSome_iff_exists.mp
        (analysed prev prevInfo (by simp [InstTraceInfo.shape, attached]))
      have analysis : prev.instAnalysis = some inst := analysis
      simp only [finishPrevious, prevInfo, attached, analysis]
      refine InstructionInfoManager.HasMemory.writeTraceInfo ?_ ..
      split <;> exact memory

theorem writeCurrent_runs (execution : Execution arch) (tracer : InstructionTracerManager arch)
    (memory : manager.HasMemory) (info : InstTraceInfo arch) :
    ∃ written, tracer.writeCurrent execution manager info = .ok written ∧ written.HasMemory := by
  unfold writeCurrent
  split
  · exact ⟨manager, rfl, memory⟩
  · exact memory.writeTraceInfo ..

/-- The POST callback of a recorded instruction goes through on its own record. -/
theorem postInstructionCall_runs (armed : tracer.Armed)
    (own : tracer.isNeedRecord execution.pc = true → tracer.OwnsRecord execution) :
    ∃ after, tracer.postInstructionCall execution = .ok (.next, after) ∧ after.Armed := by
  cases recorded : tracer.isNeedRecord execution.inst.address with
  | false => exact ⟨tracer, postInstructionCall_skips recorded, armed⟩
  | true =>
    obtain ⟨manager, info, present, current, here, -⟩ := own recorded
    obtain ⟨_, found, memory⟩ := armed.memory
    cases present.symm.trans found
    generalize hook : tracer.traceCallbackPost info.pc = hooked
    have dispatchedMemory : (hooked.dispatchCurrent execution.process
        { manager with curInfo := some (hooked.savedInfo info) } (hooked.savedInfo info)).HasMemory := by
      rw [dispatchCurrent_eq rfl]
      exact memory
    have analysed : ∀ prev ∈ (hooked.dispatchCurrent execution.process
        { manager with curInfo := some (hooked.savedInfo info) } (hooked.savedInfo info)).preInfo,
        prev.shape.Analysed := by
      rw [dispatchCurrent_eq rfl]
      intro prev member
      refine armed.analysed manager.shapes (by simp [window, present]) prev.shape (.inl ?_)
      exact Option.mem_map_of_mem InstTraceInfo.shape member
    obtain ⟨returned, returns, memory⟩ :=
      hooked.finishPrevious_runs dispatchedMemory execution.process analysed
    obtain ⟨written, writes, memory⟩ :=
      hooked.writeCurrent_runs execution memory (hooked.savedInfo info)
    have posted : tracer.postInstructionCall execution =
        .ok (.next, { hooked with infoManager := some written }) := by
      have own : ¬ info.pc ≠ execution.inst.address := not_not.mpr here
      simp only [savedInfo] at returns writes
      simp only [postInstructionCall, recorded, present, current, own, Bool.not_true,
        Bool.false_eq_true, ↓reduceIte, hook, returns, writes, bind, Except.bind, pure, Except.pure]
    refine ⟨_, posted, ⟨written, rfl, memory⟩, ?_⟩
    exact armed.analysed.of_window_eq (postInstructionCall_window posted)

/-- The PRE callbacks go through if the svc callback finds a record. -/
theorem firePre_runs {callbacks : List CallbackKind} (present : tracer.infoManager = some manager)
    (current : execution.isSvc = true → manager.curInfo.isSome = true) :
    ∃ ready, run (firePre execution) tracer callbacks = .ok (.next, ready) := by
  induction callbacks generalizing tracer manager with
  | nil => exact ⟨tracer, rfl⟩
  | cons callback rest ih =>
    cases callback with
    | postInstruction => exact ih present current
    | preInstruction =>
      cases recorded : tracer.isNeedRecord tracer.vm.gprState.pc with
      | false =>
        rw [run_cons_next (preInstructionCall_skips recorded)]
        exact ih present current
      | true =>
        obtain ⟨vm, status, -, opens⟩ := preInstructionCall_opens execution recorded present
        rw [run_cons_next opens]
        exact ih rfl fun _ => rfl
    | preSvc =>
      cases isSvc : execution.isSvc with
      | false =>
        have passes : firePre execution tracer .preSvc = .ok (.next, tracer) := by
          simp [firePre, isSvc]
        rw [run_cons_next passes]
        exact ih present current
      | true =>
        obtain ⟨info, found⟩ := Option.isSome_iff_exists.mp (current isSvc)
        have attaches := preSvcInstructionCall_attaches execution present found
        have fired : firePre execution tracer .preSvc =
            tracer.preSvcInstructionCall execution := by
          simp [firePre, isSvc]
        rw [run_cons_next (fired.trans attaches)]
        exact ih rfl fun _ => rfl

theorem OwnsRecord.of_window {before : InstructionTracerManager arch}
    (own : before.OwnsRecord execution) (same : after.window = before.window)
    (clock : after.vm.clock = before.vm.clock) : after.OwnsRecord execution := by
  obtain ⟨manager, info, present, current, here, seq⟩ := own
  have shapes : after.window = some manager.shapes := same.trans (by simp [window, present])
  obtain ⟨last, found, equal⟩ := Option.map_eq_some_iff.mp shapes
  have currents := congrArg Prod.snd equal
  simp only [InstructionInfoManager.shapes, current, Option.map_some] at currents
  obtain ⟨newest, held, shape⟩ := Option.map_eq_some_iff.mp currents
  refine ⟨last, newest, found, held, ?_, ?_⟩
  · exact (congrArg RecordShape.pc shape).trans here
  · exact (congrArg RecordShape.seq shape).trans (seq.trans clock.symm)

/-- The POST callbacks go through on the own record of the instruction. -/
theorem firePost_runs (callbacks : List CallbackKind) (armed : tracer.Armed)
    (own : tracer.isNeedRecord execution.pc = true → tracer.OwnsRecord execution) :
    ∃ finished, run (firePost execution) tracer callbacks = .ok (.next, finished) ∧
      finished.Armed := by
  induction callbacks generalizing tracer with
  | nil => exact ⟨tracer, rfl, armed⟩
  | cons callback rest ih =>
    cases callback with
    | preInstruction => exact ih armed own
    | preSvc => exact ih armed own
    | postInstruction =>
      obtain ⟨next, posted, kept⟩ := postInstructionCall_runs armed own
      have fired : firePost execution tracer .postInstruction = .ok (.next, next) := posted
      have config := postInstructionCall_config posted
      rw [run_cons_next fired]
      refine ih kept ?_
      intro recorded
      rw [config_isNeedRecord config] at recorded
      exact (own recorded).of_window (postInstructionCall_window posted) (config_clock config)

theorem Armed.firePre {callbacks : List CallbackKind} (armed : tracer.Armed)
    (done : run (InstructionTracerManager.firePre execution) tracer callbacks = .ok (flow, after)) :
    after.Armed := by
  obtain ⟨manager, present, memory, found⟩ := armed.memory
  obtain ⟨-, opened, here, sameLogger, -⟩ := firePre_quiet present done
  refine ⟨⟨opened, here, memory, by rw [sameLogger]; exact found⟩, ?_⟩
  exact firePre_windowOf (lasting_analysed tracer.isNeedRecord) armed.analysed done

theorem Armed.noteExecuted (armed : tracer.Armed) (execution : Execution arch)
    (point : NativePoint) : (tracer.noteExecuted execution point).Armed := by
  refine ⟨?_, armed.analysed.of_window_eq (noteExecuted_window execution point tracer)⟩
  obtain ⟨manager, present, memory⟩ := armed.memory
  unfold InstructionTracerManager.noteExecuted
  split
  · exact ⟨manager.note (.executed tracer.vm.clock), by simp [present], memory⟩
  · exact ⟨manager, present, memory⟩

/-- There is a record in `cur_info`. -/
def HasRecord (tracer : InstructionTracerManager arch) : Prop :=
  ∃ manager, tracer.infoManager = some manager ∧ manager.curInfo.isSome = true

theorem OwnsRecord.hasRecord (own : tracer.OwnsRecord execution) : tracer.HasRecord := by
  obtain ⟨manager, info, present, current, -⟩ := own
  exact ⟨manager, present, by rw [current]; rfl⟩

theorem HasRecord.of_window (record : tracer.HasRecord) (same : after.window = tracer.window) :
    after.HasRecord := by
  obtain ⟨manager, present, current⟩ := record
  have shapes : after.window = some manager.shapes := same.trans (by simp [window, present])
  obtain ⟨last, found, equal⟩ := Option.map_eq_some_iff.mp shapes
  have currents := congrArg (fun shapes => shapes.2.isSome) equal
  simp only [InstructionInfoManager.shapes, Option.isSome_map] at currents
  exact ⟨last, found, currents.trans current⟩

/-- No PRE callback empties `cur_info`. -/
theorem firePre_hasRecord {callbacks : List CallbackKind} (record : tracer.HasRecord)
    (done : run (firePre execution) tracer callbacks = .ok (flow, after)) : after.HasRecord := by
  refine run_invariant HasRecord ?_ record done
  intro before callback flow next kept fired
  cases firePre_step fired with
  | passes => exact kept
  | stops absent => exact kept
  | opens status recorded present hooked => exact ⟨_, rfl, rfl⟩
  | attaches present current => exact ⟨_, rfl, rfl⟩

end Runs

/-- The callbacks of an entry: the first one opens records, and if others do so
too the hooks keep the `pc`. -/
structure Hooked (tracer : InstructionTracerManager arch) (others : List CallbackKind) : Prop where
  registered : tracer.vm.callbacks = .preInstruction :: others
  calm : .preInstruction ∈ others → tracer.HooksKeepPc

section Instruction

variable {execution : Execution arch} {tracer ready after : InstructionTracerManager arch}
  {manager : InstructionInfoManager arch} {flow : VMAction} {others : List CallbackKind}

theorem Hooked.execute (hooked : tracer.Hooked others)
    (done : tracer.execute execution = .ok (flow, after)) : after.Hooked others := by
  refine ⟨(execute_callbacks done).trans hooked.registered, fun later => ?_⟩
  have same := execute_config done
  cases flow <;> exact config_hooksKeepPc same (hooked.calm later)

/-- Before its POST callbacks a recorded instruction has its own record. -/
theorem Hooked.executed_own (hooked : tracer.Hooked others)
    (present : tracer.infoManager = some manager)
    (opens : run (firePre execution) (tracer.loadPre execution) tracer.vm.callbacks =
      .ok (.next, ready))
    (recorded : (ready.executed execution).isNeedRecord execution.pc = true) :
    (ready.executed execution).OwnsRecord execution := by
  have config := firePre_config opens
  rw [config_isNeedRecord ((executed_config execution ready).trans config)] at recorded
  rw [hooked.registered] at opens
  have own := firePre_opensOwn (show _ → (tracer.loadPre execution).HooksKeepPc from hooked.calm)
    (tracer.loadPre_pc execution) recorded present opens
  exact own.of_window (executed_window execution ready)
    (config_clock (executed_config execution ready))

/-- An instruction that does not fault goes on to the next one. -/
theorem Hooked.execute_next (hooked : tracer.Hooked others)
    (present : tracer.infoManager = some manager)
    (done : tracer.execute execution = .ok (flow, after)) : flow = .next := by
  have loaded : (tracer.loadPre execution).infoManager = some manager := present
  cases execute_stage done with
  | atPre opens => cases (firePre_quiet loaded opens).1
  | through opens posts => rfl
  | @atPost ready stopped opens posts =>
    obtain ⟨-, opened, found, -⟩ := firePre_quiet loaded opens
    obtain ⟨noted, here, -⟩ := noteExecuted_written execution .beforePost found
    have executed : (ready.executed execution).infoManager = some noted := here
    obtain ⟨-, -, -, stops⟩ := firePost_blocks executed posts
    obtain ⟨recorded, foreign⟩ := stops rfl
    obtain ⟨_, info, same, current, own, -⟩ := hooked.executed_own present opens recorded
    cases same.symm.trans executed
    rw [InstructionInfoManager.shapes, current] at foreign
    exact absurd own (of_decide_eq_true foreign)

/-- An instruction goes through if its svc callback finds a record. -/
theorem Hooked.execute_runs (hooked : tracer.Hooked others) (armed : tracer.Armed)
    (record : execution.isSvc = true →
      tracer.HasRecord ∨ tracer.isNeedRecord execution.pc = true) :
    ∃ after, tracer.execute execution = .ok (.next, after) ∧ after.Armed ∧
      (tracer.HasRecord ∨ tracer.isNeedRecord execution.pc = true → after.HasRecord) := by
  obtain ⟨manager, present, memory⟩ := armed.memory
  have loaded : (tracer.loadPre execution).infoManager = some manager := present
  have here := tracer.loadPre_pc execution
  obtain ⟨ready, opens⟩ : ∃ ready, run (firePre execution) (tracer.loadPre execution)
      tracer.vm.callbacks = .ok (.next, ready) := by
    cases recorded : (tracer.loadPre execution).isNeedRecord execution.pc with
    | true =>
      obtain ⟨vm, status, -, first⟩ :=
        preInstructionCall_opens execution (here.symm ▸ recorded) loaded
      rw [hooked.registered, run_cons_next first]
      exact firePre_runs rfl fun _ => rfl
    | false =>
      refine firePre_runs loaded fun isSvc => ?_
      obtain ⟨_, found, current⟩ := (record isSvc).resolve_right (Bool.eq_false_iff.mp recorded)
      cases present.symm.trans found
      exact current
  have start : (tracer.loadPre execution).Armed := ⟨armed.memory, armed.analysed⟩
  have noted := (start.firePre opens).noteExecuted execution .beforePost
  have executed : (ready.executed execution).Armed := ⟨noted.memory, noted.analysed⟩
  obtain ⟨finished, posts, kept⟩ :=
    firePost_runs ready.vm.callbacks executed (hooked.executed_own present opens)
  have last := kept.noteExecuted execution .afterPost
  refine ⟨(finished.noteExecuted execution .afterPost).tick, ?_, ⟨last.memory, last.analysed⟩, ?_⟩
  · unfold InstructionTracerManager.execute complete
    unfold InstructionTracerManager.executed at posts
    simp only [opens, posts]
  · intro recorded
    have window : (finished.noteExecuted execution .afterPost).window =
        (ready.executed execution).window :=
      (noteExecuted_window execution .afterPost finished).trans (firePost_window posts)
    suffices (ready.executed execution).HasRecord from this.of_window window
    rcases recorded with before | recorded
    · have loadedRecord : (tracer.loadPre execution).HasRecord := before
      exact (firePre_hasRecord loadedRecord opens).of_window (executed_window execution ready)
    · refine (hooked.executed_own present opens ?_).hasRecord
      rw [config_isNeedRecord ((executed_config execution ready).trans (firePre_config opens))]
      exact recorded

end Instruction

/-- A POST callback that passes the record filter has the record of its own
instruction in `cur_info`. -/
def PostsFindOwn (tracer : InstructionTracerManager arch) (executions : List (Execution arch)) :
    Prop :=
  ∀ past execution rest reached ready fired later posting, executions = past ++ execution :: rest →
    run execute tracer past = .ok (.next, reached) →
    run (firePre execution) (reached.loadPre execution) reached.vm.callbacks = .ok (.next, ready) →
    ready.vm.callbacks = fired ++ .postInstruction :: later →
    run (firePost execution) (ready.executed execution) fired = .ok (.next, posting) →
    posting.isNeedRecord execution.inst.address = true →
    ∃ manager info, posting.infoManager = some manager ∧ manager.curInfo = some info ∧
      info.pc = execution.inst.address

/-- The first recorded instruction does not come after the first svc. -/
def RecordsBeforeSvc (tracer : InstructionTracerManager arch) (executions : List (Execution arch)) :
    Prop :=
  ∀ past svc rest, executions = past ++ svc :: rest → svc.isSvc = true →
    ∃ first ∈ past ++ [svc], tracer.isNeedRecord first.pc = true

section Run

variable {origin before tracer : InstructionTracerManager arch}
  {manager : InstructionInfoManager arch} {history : List (Operation arch)}
  {executions : List (Execution arch)} {others : List CallbackKind}

theorem run_hooked {reached : InstructionTracerManager arch} {flow : VMAction}
    (hooked : tracer.Hooked others) (present : tracer.infoManager = some manager)
    (ran : run execute tracer executions = .ok (flow, reached)) :
    flow = .next ∧ reached.Hooked others ∧ ∃ last, reached.infoManager = some last := by
  have step : ∀ (past : List (Execution arch)) (state : InstructionTracerManager arch) execution flow
      next, (state.Hooked others ∧ ∃ last, state.infoManager = some last) →
      state.execute execution = .ok (flow, next) →
      flow = .next ∧ next.Hooked others ∧ ∃ last, next.infoManager = some last := by
    rintro - state execution flow next ⟨hooked, middle, found⟩ done
    obtain ⟨finished, ended, -⟩ := execute_growsBy found done
    exact ⟨hooked.execute_next found done, hooked.execute done, finished, ended⟩
  exact run_history step [] ⟨hooked, manager, present⟩ ran

theorem Hooked.postsFindOwn (hooked : tracer.Hooked others)
    (present : tracer.infoManager = some manager) : tracer.PostsFindOwn executions := by
  intro past execution rest reached ready fired later posting stream ran opens split posts recorded
  obtain ⟨-, hooked, middle, found⟩ := run_hooked hooked present ran
  have config := firePost_config posts
  rw [config_isNeedRecord config] at recorded
  have own := hooked.executed_own found opens recorded
  obtain ⟨last, info, here, current, samePc, -⟩ :=
    own.of_window (firePost_window posts) (config_clock config)
  exact ⟨last, info, here, current, samePc⟩

theorem RecordsBeforeSvc.rest {after : InstructionTracerManager arch} {execution : Execution arch}
    (early : tracer.RecordsBeforeSvc (execution :: executions))
    (filter : after.isNeedRecord = tracer.isNeedRecord)
    (unrecorded : ¬ tracer.isNeedRecord execution.pc = true) :
    after.RecordsBeforeSvc executions := by
  intro past svc rest stream isSvc
  obtain ⟨first, member, recorded⟩ := early (execution :: past) svc rest (by rw [stream]; rfl) isSvc
  refine ⟨first, ?_, filter ▸ recorded⟩
  rcases List.mem_cons.mp member with rfl | later
  · exact absurd recorded unrecorded
  · exact later

/-- The whole run goes through. -/
theorem Hooked.run_runs (hooked : tracer.Hooked others) (armed : tracer.Armed)
    (early : tracer.HasRecord ∨ tracer.RecordsBeforeSvc executions) :
    ∃ after, run InstructionTracerManager.execute tracer executions = .ok (.next, after) := by
  induction executions generalizing tracer with
  | nil => exact ⟨tracer, rfl⟩
  | cons execution rest ih =>
    have record : execution.isSvc = true →
        tracer.HasRecord ∨ tracer.isNeedRecord execution.pc = true := by
      intro isSvc
      refine early.imp_right fun early => ?_
      obtain ⟨first, member, recorded⟩ := early [] execution rest rfl isSvc
      exact List.mem_singleton.mp member ▸ recorded
    obtain ⟨next, done, armed, recorded⟩ := hooked.execute_runs armed record
    rw [run_cons_next done]
    apply ih (hooked.execute done) armed
    by_cases here : tracer.HasRecord ∨ tracer.isNeedRecord execution.pc = true
    · exact .inl (recorded here)
    · refine .inr ((early.resolve_left fun held => here (.inl held)).rest
        (execute_isNeedRecord done) fun passes => here (.inr passes))

/-- On an initialised tracer whose hooks keep the `pc`, a stream that records
before its first svc is never stopped: every POST callback that passes the filter
finds the record of its own instruction, and with a memory manager in the logger
the run goes through to its end. -/
theorem run_never_stops (kind : EntryKind) (unentered : origin.Unentered)
    (arrived : origin.applyAll history = .ok before) (keeps : before.HooksKeepPc)
    (present : before.infoManager = some manager)
    (early : before.RecordsBeforeSvc executions) :
    (before.register kind.registers).PostsFindOwn executions ∧
      (∀ flow after, run execute (before.register kind.registers) executions = .ok (flow, after) →
        flow = .next) ∧
      (manager.logger.memoryManager.isSome = true →
        ∃ after, run execute (before.register kind.registers) executions = .ok (.next, after)) := by
  obtain ⟨others, registered, calm⟩ := entered_callbacks kind unentered arrived fun _ => keeps
  have hooked : (before.register kind.registers).Hooked others := ⟨registered, calm⟩
  refine ⟨hooked.postsFindOwn present, fun flow after ran => (run_hooked hooked present ran).1, ?_⟩
  intro memory
  obtain ⟨-, window⟩ := applyAll_windowOf (lasting_analysed origin.isNeedRecord)
    unentered.windowOf arrived
  have armed : (before.register kind.registers).Armed :=
    ⟨⟨manager, present, Option.isSome_iff_exists.mp memory⟩, window⟩
  exact hooked.run_runs armed (.inr early)

end Run

/-- A recorded instruction, an svc outside the filter and a recorded branch. -/
theorem run_never_stops_svc_outside :
    ∃ after : InstructionTracerManager .aarch64,
      run execute ((tracedModule [] [⟨0x1000, 0x1008⟩]).register (EntryKind.registers .run))
        [plainAt 0x1000, svcAt 0x2000, branchAt 0x1004 0x1000] = .ok (.next, after) := by
  have arrived : (tracedModule [] [⟨0x1000, 0x1008⟩]).applyAll [] =
    .ok (tracedModule [] [⟨0x1000, 0x1008⟩]) := rfl
  refine (run_never_stops .run (tracedModule_unentered _) arrived (by rintro _ _ ⟨⟩) rfl ?_).2.2 rfl
  intro past svc rest stream isSvc
  refine ⟨plainAt 0x1000, ?_, rfl⟩
  cases past with
  | nil =>
    cases stream
    cases isSvc
  | cons first others =>
    rw [← (List.cons.inj stream).1]
    exact .head _

end InstructionTracerManager

end QbdiTracer
