import QbdiTracer.TracerManager

/-! The three overloads of `init` as one kind of call: when a call succeeds, which
module range it leaves, and what it leaves of the tracing state when it fails. -/

namespace QbdiTracer

variable {arch : Arch}

/-- A call of one of the three overloads. -/
inductive InitCall (arch : Arch) where
  | bySymbol (loader : Loader arch) (name symbol : String)
  | byOffset (loader : Loader arch) (name : String) (offset : Word arch)
  | byAddress (loader : Loader arch) (address : Word arch)

/-- `get_library_range` as the bounds of a module. -/
def LoadedLibrary.bounds (library : LoadedLibrary arch) : ModuleRange arch :=
  ⟨library.getLibraryRange.start, library.getLibraryRange.stop⟩

/-- The symbol has an address in the library. -/
def LoadedLibrary.resolves (library : LoadedLibrary arch) (symbol : String) : Bool :=
  decide (library.findSymbol symbol ≠ 0)

/-- The part of the tracer that decides what is traced and how it is logged. -/
structure TracingState (arch : Arch) where
  moduleName : String
  symbolName : String
  moduleRange : ModuleRange arch
  targetTraceAddress : Word arch
  infoManager : Option (InstructionInfoManager arch)

def InstructionTracerManager.tracingState (tracer : InstructionTracerManager arch) :
    TracingState arch :=
  ⟨tracer.moduleName, tracer.symbolName, tracer.moduleRange, tracer.targetTraceAddress,
    tracer.infoManager⟩

namespace InitCall

def apply (tracer : InstructionTracerManager arch) :
    InitCall arch → InstructionTracerManager arch × Bool
  | .bySymbol loader name symbol => tracer.initSymbol loader name symbol
  | .byOffset loader name offset => tracer.initOffset loader name offset
  | .byAddress loader address => tracer.initAddress loader address

/-- What the call returns, whatever the tracer. -/
def succeeds : InitCall arch → Bool
  | .bySymbol loader name symbol => (loader.findLibrary name).any (·.resolves symbol)
  | .byOffset loader name offset =>
    (loader.findLibrary name).any fun library => !decide (library.getLibraryRange.size < offset)
  | .byAddress loader address => (loader.findLibraryAt address).isSome

/-- The module range that the call assigns, if it comes to that. An offset that is out
of range is found out after the assignment. -/
def assigns : InitCall arch → Option (ModuleRange arch)
  | .bySymbol loader name symbol =>
    ((loader.findLibrary name).filter (·.resolves symbol)).map fun library =>
      ⟨library.bounds.base, library.bounds.base + library.bounds.stop⟩
  | .byOffset loader name _ => (loader.findLibrary name).map (·.bounds)
  | .byAddress loader address => (loader.findLibraryAt address).map (·.bounds)

/-- The tracing state that a failed call leaves. -/
def leaves (state : TracingState arch) : InitCall arch → TracingState arch
  | .bySymbol _ name symbol => { state with moduleName := name, symbolName := symbol }
  | .byOffset loader name _ =>
    { state with
      moduleName := name
      moduleRange := ((loader.findLibrary name).map (·.bounds)).getD state.moduleRange }
  | .byAddress _ address => { state with targetTraceAddress := address }

end InitCall

namespace InstructionTracerManager

/-- The stack comes with every call, and is not part of the tracing state. -/
@[simp] theorem allocFixStack_tracingState (loader : Loader arch)
    (tracer : InstructionTracerManager arch) :
    (tracer.allocFixStack loader).tracingState = tracer.tracingState := by
  simp only [allocFixStack, setStackPointers]
  repeat' split
  all_goals rfl

@[simp] theorem allocFixStack_recordRanges (loader : Loader arch)
    (tracer : InstructionTracerManager arch) :
    (tracer.allocFixStack loader).recordRanges = tracer.recordRanges := by
  simp only [allocFixStack, setStackPointers]
  repeat' split
  all_goals rfl

/-- The info manager of the tracer was made for a module range: its own and that of its
logger are that range, and the logger is a new one. -/
def NewFor (tracer : InstructionTracerManager arch) (range : ModuleRange arch) : Prop :=
  ∃ manager name, tracer.infoManager = some manager ∧ manager.moduleRange = range ∧
    manager.logger = { moduleName := name, moduleRange := range }

end InstructionTracerManager

namespace InitCall

open InstructionTracerManager (allocFixStack_tracingState allocFixStack_recordRanges initSymbol
  initOffset initAddress newInfoManager)

variable {call : InitCall arch} {tracer : InstructionTracerManager arch}

theorem apply_result (call : InitCall arch) (tracer : InstructionTracerManager arch) :
    (call.apply tracer).2 = call.succeeds := by
  cases call with
  | bySymbol loader name symbol =>
    simp only [apply, initSymbol, succeeds]
    cases loader.findLibrary name with
    | none => rfl
    | some library =>
      by_cases null : library.findSymbol symbol = 0
      · have unresolved : library.resolves symbol = false := decide_eq_false (not_not_intro null)
        simp only [if_pos null, Option.any_some, unresolved]
      · have resolved : library.resolves symbol = true := decide_eq_true null
        simp only [if_neg null, Option.any_some, resolved]
  | byOffset loader name offset =>
    simp only [apply, initOffset, succeeds]
    cases loader.findLibrary name with
    | none => rfl
    | some library =>
      by_cases outside : library.getLibraryRange.size < offset
      · simp [outside]
      · simp [outside]
  | byAddress loader address =>
    simp only [apply, initAddress, succeeds]
    cases loader.findLibraryAt address <;> rfl

theorem apply_recordRanges (call : InitCall arch) (tracer : InstructionTracerManager arch) :
    (call.apply tracer).1.recordRanges = tracer.recordRanges := by
  cases call with
  | bySymbol loader name symbol =>
    simp only [apply, initSymbol]
    repeat' split
    all_goals exact allocFixStack_recordRanges ..
  | byOffset loader name offset =>
    simp only [apply, initOffset]
    repeat' split
    all_goals exact allocFixStack_recordRanges ..
  | byAddress loader address =>
    simp only [apply, initAddress]
    split
    all_goals exact allocFixStack_recordRanges ..

/-- A call that succeeds assigns the range, and makes a new info manager for it. -/
theorem succeeded_new (succeeded : (call.apply tracer).2 = true) :
    call.assigns = some (call.apply tracer).1.moduleRange ∧
      (call.apply tracer).1.NewFor (call.apply tracer).1.moduleRange := by
  cases call with
  | bySymbol loader name symbol =>
    simp only [apply, initSymbol] at succeeded ⊢
    split at succeeded
    · cases succeeded
    · rename_i library found
      split at succeeded
      · cases succeeded
      · rename_i null
        have resolved : library.resolves symbol = true := decide_eq_true null
        simp only [if_neg null]
        refine ⟨?_, _, name, rfl, rfl, rfl⟩
        simp [assigns, found, resolved, Option.filter, LoadedLibrary.bounds, newInfoManager]
  | byOffset loader name offset =>
    simp only [apply, initOffset] at succeeded ⊢
    split at succeeded
    · cases succeeded
    · rename_i library found
      split at succeeded
      · cases succeeded
      · rename_i inside
        simp only [if_neg inside]
        refine ⟨?_, _, name, rfl, rfl, rfl⟩
        simp [assigns, found, LoadedLibrary.bounds, newInfoManager]
  | byAddress loader address =>
    simp only [apply, initAddress] at succeeded ⊢
    split at succeeded
    · cases succeeded
    · rename_i library found
      refine ⟨?_, _, _, rfl, rfl, rfl⟩
      simp [assigns, found, LoadedLibrary.bounds, newInfoManager]

/-- A call that fails has assigned what comes before the failure. -/
theorem failed_tracingState (failed : (call.apply tracer).2 = false) :
    (call.apply tracer).1.tracingState = call.leaves tracer.tracingState := by
  cases call with
  | bySymbol loader name symbol =>
    have stack := allocFixStack_tracingState loader
      { tracer with moduleName := name, symbolName := symbol }
    simp only [apply, initSymbol] at failed ⊢
    split at failed
    · exact stack
    · rename_i library found
      split at failed
      · rename_i null
        simp only [if_pos null]
        exact stack
      · cases failed
  | byOffset loader name offset =>
    have stack := allocFixStack_tracingState loader { tracer with moduleName := name }
    simp only [apply, initOffset] at failed ⊢
    split at failed
    · rename_i missing
      simp only [missing, leaves, Option.map_none, Option.getD_none]
      exact stack
    · rename_i library found
      split at failed
      · rename_i outside
        simp only [found, if_pos outside, leaves, Option.map_some, Option.getD_some]
        exact congrArg (fun state : TracingState arch =>
          { state with moduleRange := library.bounds }) stack
      · cases failed
  | byAddress loader address =>
    have stack := allocFixStack_tracingState loader { tracer with targetTraceAddress := address }
    simp only [apply, initAddress] at failed ⊢
    split at failed
    · exact stack
    · cases failed

/-- The range that a failed call leaves is the one it assigned, if it came to that. -/
theorem leaves_moduleRange (failed : call.succeeds = false) (state : TracingState arch) :
    (call.leaves state).moduleRange = call.assigns.getD state.moduleRange := by
  cases call with
  | bySymbol loader name symbol =>
    have unresolved : (loader.findLibrary name).filter (·.resolves symbol) = none := by
      rw [Option.filter_eq_none_iff]
      intro library found resolved
      simp [succeeds, found, resolved] at failed
    rw [assigns, unresolved]
    rfl
  | byOffset loader name offset => rfl
  | byAddress loader address =>
    rw [succeeds, Option.isSome_eq_false_iff, Option.isNone_iff_eq_none] at failed
    rw [assigns, failed]
    rfl

theorem leaves_infoManager (call : InitCall arch) (state : TracingState arch) :
    (call.leaves state).infoManager = state.infoManager := by
  cases call <;> rfl

/-- What every `init` does to the module range, the record ranges and the info manager. -/
structure Outcome (call : InitCall arch) (tracer after : InstructionTracerManager arch)
    (result : Bool) : Prop where
  result : result = call.succeeds
  moduleRange : after.moduleRange = call.assigns.getD tracer.moduleRange
  recordRanges : after.recordRanges = tracer.recordRanges
  made : call.succeeds = true → after.NewFor after.moduleRange
  kept : call.succeeds = false → after.infoManager = tracer.infoManager

theorem apply_outcome (call : InitCall arch) (tracer : InstructionTracerManager arch) :
    Outcome call tracer (call.apply tracer).1 (call.apply tracer).2 := by
  have result := call.apply_result tracer
  cases succeeds : call.succeeds with
  | true =>
    obtain ⟨assigned, new⟩ := succeeded_new (result.trans succeeds)
    refine ⟨result, ?_, call.apply_recordRanges tracer, fun _ => new, ?_⟩
    · rw [assigned, Option.getD_some]
    · intro fails
      cases succeeds.symm.trans fails
  | false =>
    have state := failed_tracingState (result.trans succeeds)
    refine ⟨result, ?_, call.apply_recordRanges tracer, ?_, fun _ => ?_⟩
    · have range := congrArg TracingState.moduleRange state
      exact range.trans (leaves_moduleRange succeeds tracer.tracingState)
    · intro goes
      cases succeeds.symm.trans goes
    · have manager := congrArg TracingState.infoManager state
      exact manager.trans (call.leaves_infoManager tracer.tracingState)

end InitCall

/-- A library of one page at `base` that exports `target` at its beginning. -/
def LoadedLibrary.page (name : String) (base : Word .aarch64) : LoadedLibrary .aarch64 where
  libraryName := name
  loadBias := base
  librarySize := 0x1000
  findSymbol := fun symbol => if symbol = "target" then base else 0
  symbolByAddress := fun _ => ""

/-- A process with these libraries, and with dispatchers that claim nothing. -/
def Loader.of (libraries : List (LoadedLibrary .aarch64)) : Loader .aarch64 where
  findLibrary := fun name => libraries.find? (·.libraryName = name)
  findLibraryAt := fun address => libraries.find? fun library =>
    library.bounds.base ≤ address ∧ address < library.bounds.stop
  mmapStack := 0x70000000
  dispatchManager := ⟨nobody, nobody, nobody, fun _ _ => ⟨"unknown", [], .kNumber⟩⟩
where
  nobody : DispatchBase .aarch64 := ⟨⟨0, 0⟩, fun _ => none, fun _ => none⟩

/-- Two libraries with a gap between them. -/
def Loader.target : Loader .aarch64 :=
  .of [.page "libtarget.so" 0x1000, .page "libother.so" 0x8000]

end QbdiTracer
