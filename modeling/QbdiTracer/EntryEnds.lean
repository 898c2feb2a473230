import QbdiTracer.Entries

/-! What is still unwritten when an entry returns. A first entry can leave its
last record pending; a later one finishes each record on the spot, or loses it. -/

namespace QbdiTracer

open FlowRun

variable {arch : Arch}

/-- The shape of a record when its PRE callbacks are done. -/
def RecordShape.prepared (execution : Execution arch) (svcHook : Bool) (seq : Nat) :
    RecordShape arch :=
  ⟨seq, execution.pc, execution.attachesFunCall svcHook,
    if execution.attachesFunCall svcHook then some execution.inst else none⟩

theorem shape_preparedInfo (execution : Execution arch) (svcHook : Bool) (seq : Nat)
    (status : TraceVmStatus arch) :
    (preparedInfo execution svcHook seq status).shape = .prepared execution svcHook seq := by
  have attaches := execution.ownCall_isSome svcHook
  cases call : execution.ownCall svcHook <;> rw [call] at attaches <;>
    simp [InstTraceInfo.shape, preparedInfo, RecordShape.prepared, call, ← attaches]

/-- The lines of one POST callback when both records of the window are the
instruction's own: the earlier one made under `hooked`, the later under `svcHook`. -/
def doubledBlock (hooked svcHook : Bool) (execution : Execution arch) (seq : Nat) : List Nat :=
  RecordShape.block true execution.pc
    (some (.prepared execution hooked seq), some (.prepared execution svcHook seq))

theorem doubledBlock_eq (hooked svcHook : Bool) (execution : Execution arch) (seq : Nat) :
    doubledBlock hooked svcHook execution seq =
      (if execution.attachesFunCall hooked then [seq, seq] else []) ++
        if execution.attachesFunCall svcHook then [] else [seq, seq] := by
  cases first : execution.attachesFunCall hooked <;>
    cases second : execution.attachesFunCall svcHook <;>
    simp [doubledBlock, RecordShape.block, RecordShape.postWrites, RecordShape.prepared,
      RecordShape.writes, first, second, Execution.pc]

namespace InstructionTracerManager

/-- No PRE hook moves the `pc` that QBDI delivered. -/
def HooksKeepPc (tracer : InstructionTracerManager arch) : Prop :=
  ∀ offset hook, tracer.preHookCallbacks offset = some hook →
    ∀ gpr fpr, (hook gpr fpr).1.pc = gpr.pc

section Later

variable {execution : Execution arch} {tracer after : InstructionTracerManager arch}
  {manager : InstructionInfoManager arch} {flow : VMAction}

theorem config_hooksKeepPc (same : after.config = tracer.config) (keeps : tracer.HooksKeepPc) :
    after.HooksKeepPc := by
  have hooks := congrArg preHookCallbacks same
  simp only [config] at hooks
  simpa only [HooksKeepPc, hooks] using keeps

theorem traceCallbackPre_pc (keeps : tracer.HooksKeepPc) (pc : Word arch) :
    (tracer.traceCallbackPre pc).vm.gprState.pc = tracer.vm.gprState.pc := by
  simp only [traceCallbackPre, runHook]
  split
  · rfl
  · rename_i hook found
    exact keeps _ hook found _ _

theorem PreStep.pc (keeps : tracer.HooksKeepPc) (step : PreStep execution tracer flow after) :
    after.vm.gprState.pc = tracer.vm.gprState.pc := by
  cases step with
  | passes => rfl
  | stops absent => rfl
  | opens status recorded present hooked =>
    subst hooked
    exact traceCallbackPre_pc keeps _
  | attaches present current => rfl

/-- The PRE callbacks all see the same `pc`. -/
theorem firePre_pc {callbacks : List CallbackKind} (keeps : tracer.HooksKeepPc)
    (done : run (firePre execution) tracer callbacks = .ok (flow, after)) :
    after.vm.gprState.pc = tracer.vm.gprState.pc := by
  refine (run_invariant (fun state : InstructionTracerManager arch => state.HooksKeepPc ∧
    state.vm.gprState.pc = tracer.vm.gprState.pc) ?_ ⟨keeps, rfl⟩ done).2
  rintro before callback flow next ⟨keeps, same⟩ fired
  have step := firePre_step fired
  exact ⟨config_hooksKeepPc step.config keeps, (step.pc keeps).trans same⟩

/-- After the PRE callbacks of two entries, both records of the window are the
instruction's own. -/
theorem firePre_doubles {earlier : List CallbackKind} {hooked svcHook : Bool}
    (keeps : tracer.HooksKeepPc) (here : tracer.vm.gprState.pc = execution.pc)
    (recorded : tracer.isNeedRecord execution.pc = true)
    (present : tracer.infoManager = some manager)
    (done : run (firePre execution) tracer
      (earlier ++ (onceCallbacks hooked ++ onceCallbacks svcHook)) = .ok (flow, after)) :
    ∃ opened, after.infoManager = some opened ∧
      opened.shapes = (some (.prepared execution hooked tracer.vm.clock),
        some (.prepared execution svcHook tracer.vm.clock)) := by
  rcases run_append_next done with ⟨stops, -⟩ | ⟨first, began, rest⟩
  · cases (firePre_written present stops).1
  obtain ⟨-, manager, present, -⟩ := firePre_written present began
  have config := firePre_config began
  have here := (firePre_pc keeps began).trans here
  have keeps := config_hooksKeepPc config keeps
  have recorded : first.isNeedRecord execution.pc = true := by
    rw [config_isNeedRecord config]; exact recorded
  obtain ⟨vm, status, -, clock, opens⟩ := firePre_opensHere hooked here recorded present
  rcases run_append_next rest with ⟨stops, -⟩ | ⟨second, middle, ends⟩
  · cases (firePre_written present stops).1
  have here' := (firePre_pc keeps middle).trans here
  cases opens.symm.trans middle
  obtain ⟨vm', status', -, -, opens'⟩ := firePre_opensHere svcHook here' recorded rfl
  cases opens'.symm.trans ends
  refine ⟨_, rfl, ?_⟩
  simp only [InstructionInfoManager.shapes, InstructionInfoManager.opened, Option.map_some,
    shape_preparedInfo, clock, config_clock config]

/-- The lines of one instruction in a later entry. -/
def laterLines (tracer : InstructionTracerManager arch) (hooked svcHook : Bool)
    (entry : Execution arch × Nat) : List Nat :=
  if tracer.isNeedRecord entry.1.pc then
    (List.replicate (tracer.vm.callbacks.count .postInstruction)
      (doubledBlock hooked svcHook entry.1 entry.2)).flatten
  else []

theorem mem_laterLines_iff {hooked svcHook : Bool} {entry : Execution arch × Nat} {record : Nat}
    (registered : tracer.vm.callbacks.count .postInstruction ≠ 0) :
    record ∈ tracer.laterLines hooked svcHook entry ↔ record = entry.2 ∧
      tracer.isNeedRecord entry.1.pc = true ∧
      (entry.1.attachesFunCall hooked = true ∨ entry.1.attachesFunCall svcHook = false) := by
  cases recorded : tracer.isNeedRecord entry.1.pc <;>
    cases first : entry.1.attachesFunCall hooked <;>
    cases second : entry.1.attachesFunCall svcHook <;>
    simp [laterLines, recorded, doubledBlock_eq, first, second, registered]

/-- The tracer between the two rounds of callbacks: nothing new is written, and
the window of a recorded instruction is its own. -/
theorem executed_later {earlier : List CallbackKind} {hooked svcHook : Bool}
    {ready : InstructionTracerManager arch} (keeps : tracer.HooksKeepPc)
    (present : tracer.infoManager = some manager)
    (registered : tracer.vm.callbacks = earlier ++ (onceCallbacks hooked ++ onceCallbacks svcHook))
    (opens : run (firePre execution) (tracer.loadPre execution) tracer.vm.callbacks =
      .ok (.next, ready)) :
    ∃ noted, (ready.executed execution).infoManager = some noted ∧
      noted.written = manager.written ∧
      (tracer.isNeedRecord execution.pc = true → noted.shapes =
        (some (.prepared execution hooked tracer.vm.clock),
          some (.prepared execution svcHook tracer.vm.clock))) := by
  have loaded : (tracer.loadPre execution).infoManager = some manager := present
  obtain ⟨-, opened, found, same⟩ := firePre_written loaded opens
  obtain ⟨noted, sameNoted, logged⟩ := noteExecuted_logged execution .beforePost found
  refine ⟨noted, by rw [executed, sameNoted]; rfl, by simpa [same] using logged.written, ?_⟩
  intro recorded
  rw [registered] at opens
  obtain ⟨doubled, here, shapes⟩ :=
    firePre_doubles (show (tracer.loadPre execution).HooksKeepPc from keeps)
      (tracer.loadPre_pc execution) recorded loaded opens
  cases here.symm.trans found
  exact logged.shapes.trans shapes

/-- One instruction of a later entry writes its lines and goes on. -/
theorem execute_later {earlier : List CallbackKind} {hooked svcHook : Bool}
    (keeps : tracer.HooksKeepPc) (present : tracer.infoManager = some manager)
    (registered : tracer.vm.callbacks = earlier ++ (onceCallbacks hooked ++ onceCallbacks svcHook))
    (done : tracer.execute execution = .ok (flow, after)) :
    flow = .next ∧ ∃ finished, after.infoManager = some finished ∧ finished.written =
      manager.written ++ tracer.laterLines hooked svcHook (execution, tracer.vm.clock) := by
  have loaded : (tracer.loadPre execution).infoManager = some manager := present
  cases execute_stage done with
  | atPre opens => cases (firePre_written loaded opens).1
  | atPost opens posts =>
    obtain ⟨noted, found, -, window⟩ := executed_later keeps present registered opens
    obtain ⟨-, -, -, stops⟩ := firePost_blocks found posts
    obtain ⟨recorded, absent⟩ := stops rfl
    rw [config_isNeedRecord ((executed_config ..).trans (firePre_config opens))] at recorded
    rw [window recorded] at absent
    simp [RecordShape.prepared] at absent
  | through opens posts =>
    obtain ⟨noted, found, same, window⟩ := executed_later keeps present registered opens
    obtain ⟨finished, ended, grows, -⟩ := firePost_blocks found posts
    obtain ⟨last, final, sameLast⟩ := noteExecuted_written execution .afterPost ended
    have config := firePre_config opens
    have need : (executed execution _).isNeedRecord = tracer.isNeedRecord :=
      config_isNeedRecord ((executed_config ..).trans config)
    refine ⟨rfl, last, final, ?_⟩
    rw [sameLast, grows, same, need, config_callbacks config, laterLines]
    cases recorded : tracer.isNeedRecord execution.pc with
    | true => rw [window recorded]; rfl
    | false =>
      have nothing : RecordShape.block false execution.pc noted.shapes = [] := by
        cases current : noted.shapes.2 <;> simp [RecordShape.block, current]
      simp [nothing]

/-- What a number of instructions leaves of the configuration: only the clock
moves. -/
def advanced (tracer : InstructionTracerManager arch) (count : Nat) :
    InstructionTracerManager arch :=
  { tracer with vm := { tracer.vm with clock := tracer.vm.clock + count } }

/-- A later entry writes the lines of its instructions, each by itself. -/
theorem run_later {earlier : List CallbackKind} {hooked svcHook : Bool}
    {executions : List (Execution arch)} (keeps : tracer.HooksKeepPc)
    (present : tracer.infoManager = some manager)
    (registered : tracer.vm.callbacks = earlier ++ (onceCallbacks hooked ++ onceCallbacks svcHook))
    (ran : run execute tracer executions = .ok (flow, after)) :
    ∃ finished, after.infoManager = some finished ∧ finished.written = manager.written ++
      (executions.zipIdx tracer.vm.clock).flatMap (tracer.laterLines hooked svcHook) := by
  have step : ∀ (past : List (Execution arch)) (before : InstructionTracerManager arch) execution
      flow next,
      (before.config = (tracer.advanced past.length).config ∧
        ∃ middle, before.infoManager = some middle ∧ middle.written = manager.written ++
          (past.zipIdx tracer.vm.clock).flatMap (tracer.laterLines hooked svcHook)) →
      before.execute execution = .ok (flow, next) →
      flow = .next ∧ next.config = (tracer.advanced (past ++ [execution]).length).config ∧
        ∃ middle, next.infoManager = some middle ∧ middle.written = manager.written ++
          ((past ++ [execution]).zipIdx tracer.vm.clock).flatMap
            (tracer.laterLines hooked svcHook) := by
    rintro past before execution flow next ⟨same, middle, found, lines⟩ done
    have callbacks : before.vm.callbacks = tracer.vm.callbacks := (config_callbacks same).trans rfl
    have clock : before.vm.clock = tracer.vm.clock + past.length := config_clock same
    have need : before.isNeedRecord = tracer.isNeedRecord :=
      (config_isNeedRecord same).trans rfl
    obtain ⟨rfl, finished, ended, grows⟩ :=
      execute_later (config_hooksKeepPc same keeps) found (callbacks.trans registered) done
    refine ⟨rfl, ?_, finished, ended, ?_⟩
    · rw [List.length_append]
      exact (execute_config done).trans (congrArg tick same)
    · have sameLines : before.laterLines hooked svcHook = tracer.laterLines hooked svcHook := by
        funext entry
        simp only [laterLines, need, callbacks]
      rw [grows, lines, sameLines, clock, List.append_assoc]
      simp [List.zipIdx_append, Nat.add_comm]
  exact (run_history step [] ⟨rfl, manager, present, by simp⟩ ran).2.2

end Later

end InstructionTracerManager

/-- The last recorded execution has no pending record: it carries no call, or the
call recorded before it sits at the same address. -/
def EndsWritten (svcHook : Bool) (recorded : List (Execution arch × Nat)) : Prop :=
  ∀ last ∈ recorded.getLast?, last.1.attachesFunCall svcHook = false ∨
    ∃ prev ∈ recorded.dropLast.getLast?,
      prev.1.attachesFunCall svcHook = true ∧ prev.1.pc = last.1.pc

theorem endsWritten_iff (setting : Setting arch) (recorded : List (Execution arch × Nat)) :
    EndsWritten setting.svcHook recorded ↔
      ∀ last ∈ (recorded.map setting.observeEntry).getLast?, last.attaches = false ∨
        ∃ prev ∈ (recorded.map setting.observeEntry).dropLast.getLast?,
          prev.attaches = true ∧ prev.pc = last.pc := by
  simp only [EndsWritten, List.getLast?_map, ← List.map_dropLast, Option.mem_map, forall_exists_index,
    and_imp, forall_apply_eq_imp_iff₂, exists_exists_and_eq_and]
  rfl

namespace InstructionTracerManager

/-- Every recorded execution of an entry has been written by it. -/
def WritesAll (before after : InstructionTracerManager arch) (executions : List (Execution arch)) :
    Prop :=
  ∀ entry ∈ before.recordedExecutions executions, 0 < timesLogged before after entry.2

/-- What decides whether an entry leaves nothing unwritten. In a first entry, how
its last recorded execution ends; in a later one, that no execution gets a call
from the svc callback of this entry alone. -/
def LeavesNone (previous : Option EntryKind) (kind : EntryKind)
    (recorded : List (Execution arch × Nat)) : Prop :=
  match previous with
  | none => EndsWritten (kind == .run) recorded
  | some earlier => ∀ entry ∈ recorded, entry.1.attachesFunCall (earlier == .run) = true ∨
      entry.1.attachesFunCall (kind == .run) = false

section History

variable {origin before after : InstructionTracerManager arch} {history : List (Operation arch)}
  {kind : EntryKind} {process : Process arch} {executions : List (Execution arch)}

/-- The flush at the end of an entry writes no record. -/
theorem enter_written (entered : before.enter kind process executions = .ok after) :
    ∃ manager flow returned finished, before.infoManager = some manager ∧
      run execute (before.register (onceCallbacks (kind == .run))) executions =
        .ok (flow, returned) ∧
      returned.infoManager = some finished ∧ after.written = finished.written := by
  obtain ⟨manager, present⟩ := enter_present entered
  obtain ⟨flow, returned, finished, ran, found, rfl⟩ := enter_ok entered
  exact ⟨manager, flow, returned, finished, present, ran, found, rfl⟩

theorem first_writesAll_iff (unentered : before.Unentered)
    (entered : before.enter kind process executions = .ok after) :
    WritesAll before after executions ↔
      EndsWritten (kind == .run) (before.recordedExecutions executions) := by
  obtain ⟨manager, flow, returned, finished, present, ran, found, same⟩ := enter_written entered
  obtain ⟨noPre, noCur, silent⟩ := unentered.window manager present
  have fresh : (before.register (onceCallbacks (kind == .run))).Fresh manager (kind == .run) :=
    ⟨present, by simp [register, unentered.callbacks], noPre, noCur, silent⟩
  have journal : (before.register (onceCallbacks (kind == .run))).journalAfter executions =
      .ok finished.journal := by
    simp [journalAfter, ran, Except.map, found]
  have lines := writtenRecords_journalAfter fresh journal
  have sameEntries : (before.register (onceCallbacks (kind == .run))).recordedExecutions executions =
    before.recordedExecutions executions := rfl
  rw [sameEntries] at lines
  generalize settingDef : (before.register (onceCallbacks (kind == .run))).setting manager
    (kind == .run) = setting at lines
  have hook : (kind == .run) = setting.svcHook := by rw [← settingDef]; rfl
  have distinct : (((before.recordedExecutions executions).map setting.observeEntry).map
      (·.seq)).Nodup := by
    rw [Setting.map_seq_observeEntry]
    exact before.recordedExecutions_distinct executions
  have logged : ∀ record, 0 < timesLogged before after record ↔ record ∈ finished.written := by
    intro record
    have nothing : before.written = [] := by
      simp [written, present, InstructionInfoManager.written, silent]
    simp [timesLogged, nothing, same, List.count_pos_iff]
  rw [hook, endsWritten_iff, ← allWritten_iff distinct, ← lines]
  simp only [WritesAll, logged, List.forall_mem_map]
  rfl

theorem later_writesAll_iff {earlier : List CallbackKind} {hooked : Bool}
    (keeps : before.HooksKeepPc)
    (registered : before.vm.callbacks = earlier ++ onceCallbacks hooked)
    (entered : before.enter kind process executions = .ok after) :
    WritesAll before after executions ↔ ∀ entry ∈ before.recordedExecutions executions,
      entry.1.attachesFunCall hooked = true ∨
        entry.1.attachesFunCall (kind == .run) = false := by
  obtain ⟨manager, flow, returned, finished, present, ran, found, same⟩ := enter_written entered
  generalize trackedDef : before.register (onceCallbacks (kind == .run)) = tracer at ran
  have callbacks : tracer.vm.callbacks =
      earlier ++ (onceCallbacks hooked ++ onceCallbacks (kind == .run)) := by
    rw [← trackedDef, ← List.append_assoc, ← registered]
    rfl
  have posts : tracer.vm.callbacks.count .postInstruction ≠ 0 := by
    rw [callbacks, List.count_append, List.count_append, count_onceCallbacks]
    omega
  have held : tracer.HooksKeepPc := trackedDef ▸ keeps
  have holds : tracer.infoManager = some manager := trackedDef ▸ present
  obtain ⟨last, here, lines⟩ := run_later held holds callbacks ran
  cases here.symm.trans found
  have logged : ∀ record, 0 < timesLogged before after record ↔
      ∃ entry ∈ executions.zipIdx tracer.vm.clock,
        record ∈ tracer.laterLines hooked (kind == .run) entry := by
    intro record
    have start : before.written = manager.written := by simp [written, present]
    rw [timesLogged, same, lines, start, List.count_append, Nat.add_sub_cancel_left,
      List.count_pos_iff, List.mem_flatMap]
  have entries : before.recordedExecutions executions = tracer.recordedExecutions executions := by
    rw [← trackedDef]
    rfl
  simp only [WritesAll, logged, mem_laterLines_iff posts, entries]
  refine forall₂_congr fun entry member => ?_
  obtain ⟨occurs, recorded⟩ := List.mem_filter.mp member
  constructor
  · rintro ⟨other, present, sameNumber, -, condition⟩
    obtain ⟨execution, number⟩ := other
    cases sameNumber
    rwa [zipIdx_unique occurs present]
  · exact fun condition => ⟨entry, occurs, rfl, recorded, condition⟩

/-- An entry, first or later, writes every recorded execution exactly when its
kind and the one before leave none out. -/
theorem enter_writesAll_iff (unentered : origin.Unentered)
    (arrived : origin.applyAll history = .ok before)
    (keeps : entries history ≠ [] → before.HooksKeepPc)
    (entered : before.enter kind process executions = .ok after) :
    WritesAll before after executions ↔
      LeavesNone (entries history).getLast? kind (before.recordedExecutions executions) := by
  cases last : (entries history).getLast? with
  | none =>
    have inits := List.getLast?_eq_none_iff.mp last
    exact first_writesAll_iff (unentered.applyAll inits arrived) entered
  | some previous =>
    obtain ⟨others, split⟩ := List.getLast?_eq_some_iff.mp last
    have registered : before.vm.callbacks =
        others.flatMap EntryKind.registers ++ onceCallbacks (previous == .run) := by
      rw [applyAll_callbacks arrived, unentered.callbacks, split]
      simp [EntryKind.registers]
    exact later_writesAll_iff (keeps (by simp [split])) registered entered

end History

theorem enter_writesAll_iff_return :
    ∃ after : InstructionTracerManager .aarch64,
      (tracedModule [] []).enter .run idleProcess [branchAt 0x1000 0x1008, plainAt 0x1008] =
        .ok after ∧
      WritesAll (tracedModule [] []) after [branchAt 0x1000 0x1008, plainAt 0x1008] := by
  obtain ⟨after, entered⟩ : ∃ after : InstructionTracerManager .aarch64,
    (tracedModule [] []).enter .run idleProcess [branchAt 0x1000 0x1008, plainAt 0x1008] =
      .ok after := ⟨_, rfl⟩
  have arrived : (tracedModule [] []).applyAll [] = .ok (tracedModule [] []) := rfl
  refine ⟨after, entered, (enter_writesAll_iff (tracedModule_unentered []) arrived
    (fun later => absurd rfl later) entered).mpr ?_⟩
  rintro _ ⟨⟩
  exact .inl rfl

/-- A run that ends with a tail call into another module. -/
theorem tail_call_left_pending :
    ∃ after : InstructionTracerManager .aarch64,
      (tracedModule [] []).enter .run idleProcess [plainAt 0x1000, branchAt 0x1004 0x7000] =
        .ok after ∧ after.written = [0] ∧
      ¬ WritesAll (tracedModule [] []) after [plainAt 0x1000, branchAt 0x1004 0x7000] :=
  ⟨_, rfl, rfl, fun all => absurd (all (branchAt 0x1004 0x7000, 1) (.tail _ (.head _))) (by decide)⟩

end InstructionTracerManager

end QbdiTracer
