import QbdiTracer.RecordOrder
import QbdiTracer.WindowCalls

/-! The two passes over a call, on whole runs: which value the return pass is
given, and that it follows the argument pass of the same record. -/

namespace QbdiTracer

open FlowRun

variable {arch : Arch}

namespace InstructionTracerManager

/-- With the svc callback registered, every svc outside the record filter runs
while the latest recorded instruction carries a call. -/
def SvcFindsCall (tracer : InstructionTracerManager arch) (svcHook : Bool)
    (executions : List (Execution arch)) : Prop :=
  ∀ before svc after, executions = before ++ svc :: after → svcHook = true → svc.isSvc = true →
    tracer.isNeedRecord svc.pc = false →
    ∀ last ∈ (tracer.recordedExecutions before).getLast?, last.1.attachesFunCall svcHook = true

section Calls

variable {tracer : InstructionTracerManager arch} {manager : InstructionInfoManager arch}
  {svcHook : Bool} {executions : List (Execution arch)} {journal : List (Event arch)}

theorem SvcFindsCall.safe (finds : tracer.SvcFindsCall svcHook executions) :
    SvcSafe ((tracer.setting manager svcHook).observations tracer.vm.clock executions) := by
  intro before seen after split outside fires
  obtain ⟨entries, rest, whole, rfl, restMap⟩ := List.map_eq_append_iff.mp split
  obtain ⟨entry, later, rfl, rfl, rfl⟩ := List.map_eq_cons_iff.mp restMap
  obtain ⟨first, second, rfl, rfl, tail⟩ := List.zipIdx_eq_append_iff.mp whole
  obtain ⟨svc, others, rfl, rfl, rfl⟩ := List.zipIdx_eq_cons_iff.mp tail.symm
  have hooked : svcHook = true ∧ svc.isSvc = true := by
    simpa [Setting.observeEntry, Setting.observation, setting] using fires
  intro last ending
  have latest := tracer.recordedOf_observations manager svcHook first
  rw [Setting.observations] at latest
  rw [latest, List.getLast?_map, Option.mem_map] at ending
  obtain ⟨entry, present, rfl⟩ := ending
  exact finds first svc others rfl hooked.1 hooked.2 outside entry present

/-- The control events of a run, when no svc attaches a call to a foreign record. -/
theorem journalAfter_events (fresh : tracer.Fresh manager svcHook)
    (finds : tracer.SvcFindsCall svcHook executions)
    (ran : tracer.journalAfter executions = .ok journal) :
    control journal = eventsOf
      ((tracer.recordedExecutions executions).map (tracer.setting manager svcHook).observeEntry) := by
  rw [journalAfter_control fresh ran, (Window.observeAll_exact finds.safe).events,
    recordedOf_observations]

/-- Every return of a run whose svcs find a call follows the one argument pass of
its record. -/
theorem journalAfter_paired (fresh : tracer.Fresh manager svcHook)
    (finds : tracer.SvcFindsCall svcHook executions)
    (ran : tracer.journalAfter executions = .ok journal) : Paired (control journal) := by
  rw [journalAfter_events fresh finds ran]
  apply eventsOf_paired
  rw [Setting.map_seq_observeEntry]
  exact tracer.recordedExecutions_distinct executions

end Calls

/-- An svc after a recorded branch, outside the record ranges. -/
theorem journalAfter_paired_branch_svc :
    Paired (control [.executed 0, .args 0 0 .common, .executed 1, .executed 2,
      (.ret 0 2 .common 0 : Event .aarch64), .written 0 2, .written 2 2]) := by
  have finds : (tracedModule (onceCallbacks true) [⟨0x1000, 0x1008⟩]).SvcFindsCall true
      [branchAt 0x1000 0x1010, svcAt 0x1010, plainAt 0x1004] := by
    rintro (_ | ⟨first, _ | ⟨second, _ | ⟨third, before⟩⟩⟩) svc after whole - isSvc outside
    all_goals simp only [List.nil_append, List.cons_append, List.cons.injEq] at whole
    · obtain ⟨rfl, -⟩ := whole
      cases isSvc
    · obtain ⟨rfl, rfl, -⟩ := whole
      decide
    · obtain ⟨-, -, rfl, -⟩ := whole
      cases isSvc
    · simp at whole
  exact InstructionTracerManager.journalAfter_paired (tracedModule_fresh true _) finds (by rfl)

/-- A recorded instruction without a call, an svc outside the record ranges, and
another recorded instruction: the first gets a return without arguments. -/
theorem svc_returns_without_args :
    let tracer := tracedModule (onceCallbacks true) [⟨0x1000, 0x1004⟩, ⟨0x1008, 0x100c⟩]
    let journal : List (Event .aarch64) := [.written 0 0,
      .ret 0 2 (.dispatched (some .syscall)) 0, .written 2 2]
    (tracer.journalAfter [plainAt 0x1000, svcAt 0x1004, plainAt 0x1008]).map control = .ok journal ∧
      ¬ Paired journal := by
  refine ⟨by rfl, fun paired => ?_⟩
  have answered := paired [.written 0 0] _ [.written 2 2] rfl 0 2 (.dispatched (some .syscall)) 0 rfl
  simp [Event.isArgsOf] at answered

/-- Without record ranges every execution is recorded. -/
theorem recordedExecutions_all {tracer : InstructionTracerManager arch}
    (everything : tracer.recordRanges = []) (executions : List (Execution arch)) :
    tracer.recordedExecutions executions = executions.zipIdx tracer.vm.clock := by
  simp [recordedExecutions, isNeedRecord, everything]

theorem svcFindsCall_all {tracer : InstructionTracerManager arch}
    (everything : tracer.recordRanges = []) (svcHook : Bool) (executions : List (Execution arch)) :
    tracer.SvcFindsCall svcHook executions := by
  intro before svc after whole hooked isSvc outside
  simp [isNeedRecord, everything] at outside

/-- The registers of an instruction as its POST hook leaves them. -/
def postRegisters (tracer : InstructionTracerManager arch) (execution : Execution arch) :
    GPRState arch :=
  ((tracer.loadPost execution).traceCallbackPost execution.pc).vm.gprState

/-- A dispatcher is responsible for the call of this execution: it leaves the
module for one of the libraries, or is an svc. -/
def Dispatches (tracer : InstructionTracerManager arch) (manager : InstructionInfoManager arch)
    (svcHook : Bool) (execution : Execution arch) : Prop :=
  let target := (tracer.postRegisters execution).pc
  execution.attachesFunCall svcHook = true ∧ ∃ handler,
    tracer.callPath manager (!execution.inst.isFunCall) target target = .dispatched (some handler)

/-- The instruction and its POST hook leave `x0`/`r0` as they find it. -/
def KeepsResult (tracer : InstructionTracerManager arch) (execution : Execution arch) : Prop :=
  (tracer.postRegisters execution).reg 0 = execution.preGpr.reg 0

/-- A value of `x0`/`r0` is the one that the callee left, and any registers with it lead the
dispatchers to the return text and the allocated address that the callee's would. -/
structure CalleeReturned (dispatchers : InstructionDispatchManager arch)
    (execution : Execution arch) (value : Word arch) : Prop where
  word : value = execution.preGpr.reg 0
  fields : ∀ process info call (state : GPRState arch), state.reg 0 = value →
    dispatchers.dispatchRet process info call state =
      dispatchers.dispatchRet process info call execution.preGpr

theorem calleeReturned_iff (dispatchers : InstructionDispatchManager arch)
    {execution : Execution arch} {value : Word arch} :
    CalleeReturned dispatchers execution value ↔ value = execution.preGpr.reg 0 := by
  constructor
  · exact CalleeReturned.word
  · rintro rfl
    exact ⟨rfl, fun process info call _ same => dispatchers.dispatchRet_congr process info call same⟩

/-- Every return handed to a dispatcher carries `x0`/`r0` as the callee left it:
its value before the instruction whose POST callback makes the call. -/
def ReturnsCalleeValue (dispatchers : InstructionDispatchManager arch) (start : Nat)
    (executions : List (Execution arch)) (journal : List (Event arch)) : Prop :=
  ∀ record now handler value, .ret record now (.dispatched (some handler)) value ∈ journal →
    ∀ execution, (execution, now) ∈ executions.zipIdx start →
      CalleeReturned dispatchers execution value

theorem returnsCalleeValue_iff (dispatchers : InstructionDispatchManager arch) (start : Nat)
    (executions : List (Execution arch)) (journal : List (Event arch)) :
    ReturnsCalleeValue dispatchers start executions journal ↔
      ∀ event ∈ control journal, event.returnHas fun _ now path value =>
        ∀ handler, path = .dispatched (some handler) →
          ∀ execution, (execution, now) ∈ executions.zipIdx start →
            value = execution.preGpr.reg 0 := by
  simp only [ReturnsCalleeValue, calleeReturned_iff]
  constructor
  · intro returns event member
    cases event with
    | ret record now path value =>
      rintro handler rfl execution present
      exact returns record now handler value (List.mem_filter.mp member).1 execution present
    | _ => trivial
  · intro returns record now handler value member
    exact returns _ (List.mem_filter.mpr ⟨member, rfl⟩) handler rfl

/-- The returns are the callee's values exactly when the instruction after each
dispatched call keeps the result register. -/
theorem journalAfter_returnsCalleeValue {tracer : InstructionTracerManager arch}
    {manager : InstructionInfoManager arch} {svcHook : Bool} {executions : List (Execution arch)}
    {journal : List (Event arch)} (fresh : tracer.Fresh manager svcHook)
    (everything : tracer.recordRanges = [])
    (ran : tracer.journalAfter executions = .ok journal) :
    ReturnsCalleeValue manager.dispatchManager tracer.vm.clock executions journal ↔
      executions.IsChain fun call next =>
        tracer.Dispatches manager svcHook call → tracer.KeepsResult next := by
  rw [returnsCalleeValue_iff,
    journalAfter_events fresh (svcFindsCall_all everything svcHook executions) ran, returns_iff,
    List.isChain_map, recordedExecutions_all everything]
  nth_rewrite 3 [← List.zipIdx_map_fst tracer.vm.clock executions]
  rw [List.isChain_map]
  refine List.IsChain.iff_of_mem_imp fun call next _ present => ?_
  constructor
  · rintro returns ⟨attaches, handler, path⟩
    exact returns attaches handler path next.1 present
  · intro keeps attaches handler path execution here
    rw [zipIdx_unique here present]
    exact keeps ⟨attaches, handler, path⟩

/-- `malloc` called from `0x1000`, then an instruction that keeps its result. -/
theorem journalAfter_returnsCalleeValue_kept :
    ReturnsCalleeValue bareDispatchers 0
      [branchAt 0x1000 0x7000, .simple { address := 0x1004 } 0x1008 0xabc0 0xabc0]
      [.executed 0, .args 0 0 (.dispatched (some .libc)), .executed 1,
        .ret 0 1 (.dispatched (some .libc)) (0xabc0 : Word .aarch64), .written 0 1,
        .written 1 1] := by
  refine (journalAfter_returnsCalleeValue (tracedModule_fresh true []) rfl (by rfl)).mpr ?_
  refine .cons_cons (fun _ => by rfl) (.singleton _)

/-- The same call followed by an instruction that clears `x0`. -/
theorem cleared_result_returned :
    let executions : List (Execution .aarch64) :=
      [branchAt 0x1000 0x7000, .simple { address := 0x1004 } 0x1008 0xabc0 0]
    let journal : List (Event .aarch64) := [.args 0 0 (.dispatched (some .libc)),
      .ret 0 1 (.dispatched (some .libc)) 0, .written 0 1, .written 1 1]
    ((tracedModule (onceCallbacks true) []).journalAfter executions).map control = .ok journal ∧
      ¬ ReturnsCalleeValue bareDispatchers 0 executions journal := by
  refine ⟨by rfl, fun returns => ?_⟩
  have kept := (returns 0 1 .libc 0 (by simp) _ (.tail _ (.head _))).word
  exact absurd kept (by decide)

end InstructionTracerManager

end QbdiTracer
