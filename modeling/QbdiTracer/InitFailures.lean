import QbdiTracer.TracerCalls

/-! What an `init` that returns false leaves behind. Each overload assigns some fields
before it knows whether it will succeed. -/

namespace QbdiTracer

open EventLog

variable {arch : Arch}

namespace InitCall

/-- The fields that the call assigns before it can fail hold these values already. -/
def Repeats (state : TracingState arch) : InitCall arch → Prop
  | .bySymbol _ name symbol => state.moduleName = name ∧ state.symbolName = symbol
  | .byOffset loader name _ => state.moduleName = name ∧
      ∀ library ∈ loader.findLibrary name, state.moduleRange = library.bounds
  | .byAddress _ address => state.targetTraceAddress = address

theorem leaves_eq_iff {call : InitCall arch} {state : TracingState arch} :
    call.leaves state = state ↔ call.Repeats state := by
  obtain ⟨moduleName, symbolName, moduleRange, target, manager⟩ := state
  cases call with
  | bySymbol loader name symbol => simp [leaves, Repeats, eq_comm]
  | byOffset loader name offset =>
    cases found : loader.findLibrary name <;> simp [leaves, Repeats, found, eq_comm]
  | byAddress loader address => simp [leaves, Repeats, eq_comm]

end InitCall

/-- The module range of the tracer is the one its info manager and logger use. -/
def InstructionTracerManager.Agrees (tracer : InstructionTracerManager arch) : Prop :=
  ∀ ranges ∈ tracer.managerRanges, ranges = (tracer.moduleRange, tracer.moduleRange)

namespace TracerCall

variable {start tracer after : InstructionTracerManager arch}

/-- A failed `init` leaves the tracing state alone. -/
def Unchanged (start : InstructionTracerManager arch) (past : List (TracerCall arch))
    (call : TracerCall arch) : Prop :=
  ∀ init before, call = .init init → applyAll start past = .ok before →
    (init.apply before).2 = false → (init.apply before).1.tracingState = before.tracingState

/-- An `init` that will fail repeats what the tracer holds. -/
def FailsAlike (start : InstructionTracerManager arch) (past : List (TracerCall arch))
    (call : TracerCall arch) : Prop :=
  ∀ init before, call = .init init → applyAll start past = .ok before → init.succeeds = false →
    init.Repeats before.tracingState

theorem unchanged_iff {past : List (TracerCall arch)} {call : TracerCall arch} :
    Unchanged start past call ↔ FailsAlike start past call := by
  constructor
  · intro unchanged init before same reached failed
    have kept := unchanged init before same reached ((init.apply_result before).trans failed)
    rw [InitCall.failed_tracingState ((init.apply_result before).trans failed)] at kept
    exact InitCall.leaves_eq_iff.mp kept
  · intro alike init before same reached failed
    rw [InitCall.failed_tracingState failed]
    exact InitCall.leaves_eq_iff.mpr
      (alike init before same reached ((init.apply_result before).symm.trans failed))

/-- A call that leaves the tracing state alone when it fails keeps the copies of the
module range equal. -/
theorem apply_agrees {call : TracerCall arch} (agrees : tracer.Agrees)
    (alike : ∀ init, call = .init init → init.succeeds = false → init.Repeats tracer.tracingState)
    (done : call.apply tracer = .ok after) : after.Agrees := by
  by_cases inits : ∃ init, call = .init init
  · obtain ⟨init, rfl⟩ := inits
    cases done
    have outcome := init.apply_outcome tracer
    cases succeeds : init.succeeds with
    | true =>
      obtain ⟨manager, name, present, range, logger⟩ := outcome.made succeeds
      intro ranges member
      simp only [InstructionTracerManager.managerRanges, present, Option.map_some,
        Option.mem_some_iff, range, logger] at member
      exact member.symm
    | false =>
      have state := InitCall.failed_tracingState (outcome.result.trans succeeds)
      rw [InitCall.leaves_eq_iff.mpr (alike init rfl succeeds)] at state
      have range := congrArg TracingState.moduleRange state
      have manager := congrArg TracingState.infoManager state
      intro ranges member
      rw [show (init.apply tracer).1.moduleRange = tracer.moduleRange from range]
      apply agrees
      rw [InstructionTracerManager.managerRanges] at member ⊢
      rwa [show (init.apply tracer).1.infoManager = tracer.infoManager from manager] at member
  · obtain ⟨moduleRange, managerRanges⟩ := apply_ranges (fun init same => inits ⟨init, same⟩) done
    rw [InstructionTracerManager.Agrees, moduleRange, managerRanges]
    exact agrees

theorem applyAll_agrees (agrees : start.Agrees) {history : List (TracerCall arch)}
    (alike : Always (FailsAlike start) history) (reached : applyAll start history = .ok tracer) :
    tracer.Agrees := by
  induction history using List.reverseRecOn generalizing tracer with
  | nil =>
    cases reached
    exact agrees
  | append_singleton past call ih =>
    obtain ⟨middle, before, done⟩ := foldlM_concat_ok reached
    rw [always_append, always_singleton, List.append_nil] at alike
    exact apply_agrees (ih alike.1 before)
      (fun init same failed => alike.2 init middle same before failed) done

/-- Over any history, failed `init` calls leave the tracing state alone and the module
range agrees with its copies in every state, exactly when every `init` that fails only
repeats what the tracer holds. -/
theorem failed_inits_unchanged_iff (agrees : start.Agrees) (history : List (TracerCall arch)) :
    (Always (Unchanged start) history ∧
        ∀ past tracer, past <+: history → applyAll start past = .ok tracer → tracer.Agrees) ↔
      Always (FailsAlike start) history := by
  have calls : Always (Unchanged start) history ↔ Always (FailsAlike start) history :=
    ⟨fun all past call rest split => unchanged_iff.mp (all past call rest split),
      fun all past call rest split => unchanged_iff.mpr (all past call rest split)⟩
  rw [calls]
  refine ⟨And.left, fun alike => ⟨alike, ?_⟩⟩
  rintro past tracer ⟨rest, rfl⟩ reached
  exact applyAll_agrees agrees (always_append.mp alike).1 reached

/-- After a successful `init`, an offset beyond the end of the same library. -/
theorem failed_inits_unchanged_iff_offset :
    Always (Unchanged {}) [.init (.byOffset .target "libtarget.so" 8),
      .init (.byOffset .target "libtarget.so" 0x2000)] := by
  refine ((failed_inits_unchanged_iff (by rintro ranges ⟨⟩) _).mpr ?_).1
  rw [always_cons, always_singleton]
  constructor
  · rintro init before ⟨⟩ - failed
    cases failed
  · rintro init before ⟨⟩ reached -
    cases reached
    refine ⟨rfl, ?_⟩
    rintro library ⟨⟩
    rfl

/-- An offset beyond the end of another library: the tracer takes over its range, the
info manager keeps the old one. -/
theorem failed_init_changes_range :
    ¬ Always (Unchanged {}) [.init (.byOffset .target "libtarget.so" 8),
        .init (.byOffset .target "libother.so" 0x2000)] ∧
      ∃ tracer, applyAll {} [.init (.byOffset .target "libtarget.so" 8),
        .init (.byOffset .target "libother.so" 0x2000)] = .ok tracer ∧ ¬ tracer.Agrees := by
  constructor
  · intro unchanged
    have kept := unchanged [.init (.byOffset .target "libtarget.so" 8)] _ [] rfl _ _ rfl rfl rfl
    have names := congrArg TracingState.moduleName kept
    revert names
    decide
  · refine ⟨_, rfl, fun agrees => ?_⟩
    have same := agrees (⟨0x1000, 0x2000⟩, ⟨0x1000, 0x2000⟩) rfl
    revert same
    decide

end TracerCall

end QbdiTracer
