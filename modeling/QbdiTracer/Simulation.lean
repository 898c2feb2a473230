import QbdiTracer.StepSpec

/-! The callbacks on an instruction stream refine the window of `Window.lean`,
when each callback is registered once. -/

namespace QbdiTracer

open FlowRun

variable {arch : Arch}

/-- What a run leaves unchanged and the window depends on. -/
structure Setting (arch : Arch) where
  /-- The record filter. -/
  records : Word arch → Bool
  /-- The closed module range of the tracer. -/
  inModule : Word arch → Bool
  claimant : Bool → Word arch → Option Dispatcher
  /-- The registers of an instruction after its POST hook. -/
  postState : Execution arch → GPRState arch
  /-- The svc callback is registered. -/
  svcHook : Bool

namespace Setting

def path (setting : Setting arch) (isSvc : Bool) (inside target : Word arch) : CallPath :=
  if setting.inModule inside && !isSvc then .common
  else .dispatched (setting.claimant isSvc target)

def observation (setting : Setting arch) (seq : Nat) (execution : Execution arch) :
    Observation arch :=
  let post := setting.postState execution
  { seq
    pc := execution.pc
    recorded := setting.records execution.pc
    attaches := execution.attachesFunCall setting.svcHook
    svc := setting.svcHook && execution.isSvc
    path := setting.path (!execution.inst.isFunCall) post.pc post.pc
    value := post.reg 0 }

/-- The window's view of a record. -/
def slot (setting : Setting arch) (info : InstTraceInfo arch) : Slot arch :=
  ⟨info.seq, info.pc, do
    let call ← info.funCall
    let inst ← info.instAnalysis
    return ⟨inst.address,
      setting.path call.isSvc info.postStatus.gprState.pc call.funAddress⟩⟩

def observeEntry (setting : Setting arch) (entry : Execution arch × Nat) : Observation arch :=
  setting.observation entry.2 entry.1

/-- The observations of a stream whose first instruction has number `start`. -/
def observations (setting : Setting arch) (start : Nat) (executions : List (Execution arch)) :
    List (Observation arch) :=
  (executions.zipIdx start).map setting.observeEntry

end Setting

/-- The callbacks `run` and `inst_at_enter` register, in order. -/
def onceCallbacks (svcHook : Bool) : List CallbackKind :=
  if svcHook then [.preInstruction, .postInstruction, .preSvc]
  else [.preInstruction, .postInstruction]

/-- The call the PRE callbacks attach to an instruction's own record. -/
def Execution.ownCall (execution : Execution arch) (svcHook : Bool) : Option (InstFunCall arch) :=
  if execution.inst.isFunCall then some {}
  else if svcHook && execution.isSvc then some { isSvc := true } else none

/-- The record of an instruction when its PRE callbacks are done. -/
def preparedInfo (execution : Execution arch) (svcHook : Bool) (seq : Nat)
    (status : TraceVmStatus arch) : InstTraceInfo arch :=
  { seq
    pc := execution.pc
    preStatus := status
    funCall := execution.ownCall svcHook
    instAnalysis := (execution.ownCall svcHook).map fun _ => execution.inst }

theorem Execution.ownCall_isSome (execution : Execution arch) (svcHook : Bool) :
    (execution.ownCall svcHook).isSome = execution.attachesFunCall svcHook := by
  simp only [ownCall, attachesFunCall]
  split <;> simp_all
  split <;> simp_all

theorem Execution.ownCall_isSvc {execution : Execution arch} {svcHook : Bool}
    {call : InstFunCall arch} (attached : execution.ownCall svcHook = some call) :
    call.isSvc = !execution.inst.isFunCall := by
  simp only [ownCall] at attached
  split at attached
  · rename_i branches
    cases attached
    simp [branches]
  · rename_i plain
    split at attached
    · cases attached
      simp [plain]
    · cases attached

namespace InstructionTracerManager

def setting (tracer : InstructionTracerManager arch) (manager : InstructionInfoManager arch)
    (svcHook : Bool) : Setting arch where
  records := tracer.isNeedRecord
  inModule := tracer.isAddressInModuleRange
  claimant := manager.dispatchManager.claimant
  postState execution := ((tracer.loadPost execution).traceCallbackPost execution.pc).vm.gprState
  svcHook := svcHook

theorem run_firePre_once (execution : Execution arch) (tracer : InstructionTracerManager arch)
    (svcHook : Bool) :
    run (firePre execution) tracer (onceCallbacks svcHook) =
      match tracer.preInstructionCall execution with
      | .error fault => .error fault
      | .ok (.stop, stopped) => .ok (.stop, stopped)
      | .ok (.next, opened) =>
        if svcHook && execution.isSvc then opened.preSvcInstructionCall execution
        else .ok (.next, opened) := by
  cases svcHook with
  | false =>
    simp only [onceCallbacks, Bool.false_eq_true, ↓reduceIte, run_cons, firePre, run_nil,
      Bool.false_and]
    rcases tracer.preInstructionCall execution with fault | ⟨_ | _, opened⟩ <;> rfl
  | true =>
    simp only [onceCallbacks, ↓reduceIte, run_cons, firePre, run_nil, Bool.true_and]
    rcases tracer.preInstructionCall execution with fault | ⟨_ | _, opened⟩
    · rfl
    · cases execution.isSvc with
      | false => rfl
      | true =>
        rcases svc : opened.preSvcInstructionCall execution with fault | ⟨_ | _, attached⟩ <;>
          simp [svc]
    · rfl

theorem run_firePost_once (execution : Execution arch) (tracer : InstructionTracerManager arch)
    (svcHook : Bool) :
    run (firePost execution) tracer (onceCallbacks svcHook) =
      tracer.postInstructionCall execution := by
  cases svcHook <;> simp only [onceCallbacks, run_cons, firePost, Bool.false_eq_true, ↓reduceIte,
    run_nil]
  all_goals rcases tracer.postInstructionCall execution with fault | ⟨_ | _, finished⟩ <;> rfl

theorem loadPre_pc (execution : Execution arch) (tracer : InstructionTracerManager arch) :
    (tracer.loadPre execution).vm.gprState.pc = execution.pc := execution.pre_pc

theorem firePre_skips {execution : Execution arch} {tracer : InstructionTracerManager arch}
    (svcHook : Bool) (filtered : tracer.isNeedRecord execution.pc = false) :
    run (firePre execution) (tracer.loadPre execution) (onceCallbacks svcHook) =
      if svcHook && execution.isSvc then (tracer.loadPre execution).preSvcInstructionCall execution
      else .ok (.next, tracer.loadPre execution) := by
  have skipped : (tracer.loadPre execution).preInstructionCall execution =
      .ok (.next, tracer.loadPre execution) :=
    preInstructionCall_skips (by rw [loadPre_pc]; exact filtered)
  rw [run_firePre_once, skipped]

/-- The PRE callbacks of a recorded instruction open its record. -/
theorem firePre_opensHere {execution : Execution arch} {tracer : InstructionTracerManager arch}
    {manager : InstructionInfoManager arch} (svcHook : Bool)
    (here : tracer.vm.gprState.pc = execution.pc)
    (recorded : tracer.isNeedRecord execution.pc = true)
    (present : tracer.infoManager = some manager) :
    ∃ vm status, vm.callbacks = tracer.vm.callbacks ∧ vm.clock = tracer.vm.clock ∧
      run (firePre execution) tracer (onceCallbacks svcHook) =
        .ok (.next, { tracer with
          vm := vm
          infoManager := some (manager.opened
            (preparedInfo execution svcHook tracer.vm.clock status)) }) := by
  obtain ⟨vm, status, -, opens⟩ :=
    preInstructionCall_opens execution (by rw [here]; exact recorded) present
  have same := (preInstructionCall_step opens).config
  refine ⟨vm, status, config_callbacks same, config_clock same, ?_⟩
  rw [run_firePre_once, opens, here]
  by_cases fires : (svcHook && execution.isSvc) = true
  · simp only [fires, ↓reduceIte]
    rw [preSvcInstructionCall_attaches execution rfl rfl]
    cases branches : execution.inst.isFunCall <;>
      simp [InstructionInfoManager.opened, svcInfo, openedInfo, preparedInfo, Execution.ownCall,
        branches, fires]
  · cases branches : execution.inst.isFunCall <;>
      simp [openedInfo, preparedInfo, Execution.ownCall, branches, fires]

theorem firePre_opens {execution : Execution arch} {tracer : InstructionTracerManager arch}
    {manager : InstructionInfoManager arch} (svcHook : Bool)
    (recorded : tracer.isNeedRecord execution.pc = true)
    (present : tracer.infoManager = some manager) :
    ∃ vm status, vm.callbacks = tracer.vm.callbacks ∧ vm.clock = tracer.vm.clock ∧
      run (firePre execution) (tracer.loadPre execution) (onceCallbacks svcHook) =
        .ok (.next, { tracer with
          vm := vm
          infoManager := some (manager.opened
            (preparedInfo execution svcHook tracer.vm.clock status)) }) :=
  firePre_opensHere svcHook (tracer.loadPre_pc execution) recorded present

/-- The native callee leaves a note that is no control event. -/
theorem noteExecuted_logged (execution : Execution arch) (point : NativePoint)
    {tracer : InstructionTracerManager arch} {manager : InstructionInfoManager arch}
    (present : tracer.infoManager = some manager) :
    ∃ noted, tracer.noteExecuted execution point = { tracer with infoManager := some noted } ∧
      InstructionInfoManager.Logged manager noted [] := by
  simp only [noteExecuted]
  split
  · refine ⟨manager.note (.executed tracer.vm.clock), by simp [present], rfl, ?_⟩
    simp [InstructionInfoManager.note, control, Event.isControl]
  · exact ⟨manager, by simp [← present], .refl manager⟩

/-- The register files after the POST hook do not depend on the rest of the VM. -/
theorem postState_eq (tracer : InstructionTracerManager arch) (execution : Execution arch)
    (vm : VM arch) (infoManager : Option (InstructionInfoManager arch)) :
    ((loadPost execution { tracer with vm, infoManager }).traceCallbackPost
        execution.pc).vm.gprState =
      ((tracer.loadPost execution).traceCallbackPost execution.pc).vm.gprState := by
  simp only [traceCallbackPost, runHook, loadPost, hookOffset]
  split <;> rfl

theorem setting_frame {manager other : InstructionInfoManager arch}
    (same : other.dispatchManager = manager.dispatchManager)
    (tracer : InstructionTracerManager arch) (vm : VM arch)
    (infoManager : Option (InstructionInfoManager arch)) (svcHook : Bool) :
    setting { tracer with vm, infoManager } other svcHook = tracer.setting manager svcHook := by
  have states : (fun execution => ((loadPost execution { tracer with vm, infoManager
      }).traceCallbackPost execution.pc).vm.gprState) = fun execution =>
        ((tracer.loadPost execution).traceCallbackPost execution.pc).vm.gprState :=
    funext fun execution => postState_eq tracer execution vm infoManager
  simp only [setting, states, same]
  rfl

/-- The tracer before instruction `seq` is the window `window`. -/
structure Tracks (setting : Setting arch) (seq : Nat) (tracer : InstructionTracerManager arch)
    (manager : InstructionInfoManager arch) (window : Window arch) : Prop where
  present : tracer.infoManager = some manager
  callbacks : tracer.vm.callbacks = onceCallbacks setting.svcHook
  clock : tracer.vm.clock = seq
  fixed : tracer.setting manager setting.svcHook = setting
  started : manager.curInfo = none → manager.preInfo = none
  analysed : ∀ info ∈ manager.curInfo, info.funCall.isSome = true → info.instAnalysis.isSome = true
  cur : manager.curInfo.map setting.slot = window.cur
  log : control manager.journal = window.log

section Step

variable {setting : Setting arch} {seq : Nat} {tracer after : InstructionTracerManager arch}
  {manager : InstructionInfoManager arch} {window : Window arch} {execution : Execution arch}
  {flow : VMAction}

theorem Tracks.need (tracks : Tracks setting seq tracer manager window) (addr : Word arch) :
    tracer.isNeedRecord addr = setting.records addr := by rw [← tracks.fixed]; rfl

theorem Tracks.path (tracks : Tracks setting seq tracer manager window) (isSvc : Bool)
    (inside target : Word arch) :
    tracer.callPath manager isSvc inside target = setting.path isSvc inside target := by
  rw [← tracks.fixed]; rfl

theorem Tracks.postState (tracks : Tracks setting seq tracer manager window)
    (execution : Execution arch) (vm : VM arch)
    (infoManager : Option (InstructionInfoManager arch)) :
    ((loadPost execution { tracer with vm, infoManager }).traceCallbackPost
      execution.pc).vm.gprState = setting.postState execution := by
  rw [postState_eq, ← tracks.fixed]; rfl

/-- An instruction outside the record filter only leaves the notes of its native
callee. -/
theorem execute_quiet {ready : InstructionTracerManager arch} {svcHook : Bool}
    (opens : run (firePre execution) (tracer.loadPre execution) tracer.vm.callbacks =
      .ok (.next, ready))
    (once : ready.vm.callbacks = onceCallbacks svcHook)
    (filtered : ready.isNeedRecord execution.pc = false)
    (present : ready.infoManager = some manager) :
    ∃ noted, InstructionInfoManager.Logged manager noted [] ∧
      tracer.execute execution = .ok (.next, { ready with
        vm := { ready.vm with
          gprState := execution.postGpr
          fprState := execution.postFpr
          clock := ready.vm.clock + 1 }
        infoManager := some noted }) := by
  obtain ⟨before, notedBefore, loggedBefore⟩ :=
    noteExecuted_logged execution .beforePost present
  have loaded : (loadPost execution { ready with infoManager := some before }).infoManager =
      some before := rfl
  obtain ⟨noted, notedAfter, loggedAfter⟩ := noteExecuted_logged execution .afterPost loaded
  refine ⟨noted, by simpa using loggedBefore.trans loggedAfter, ?_⟩
  have posted : run (firePost execution) (loadPost execution { ready with infoManager := some before })
      ready.vm.callbacks =
        .ok (.next, loadPost execution { ready with infoManager := some before }) := by
    rw [once, run_firePost_once]
    exact postInstructionCall_skips filtered
  simp only [execute, opens, complete, notedBefore, posted, notedAfter]
  rfl

theorem Tracks.claimant_svc (tracks : Tracks setting seq tracer manager window)
    (target : Word arch) : setting.claimant true target = some .syscall := by
  rw [← tracks.fixed]; rfl

theorem slot_svcInfo {info : InstTraceInfo arch}
    (syscall : ∀ target, setting.claimant true target = some .syscall)
    (analysed : info.funCall.isSome = true → info.instAnalysis.isSome = true) :
    setting.slot (svcInfo execution info) = Window.attachSvc execution.pc (setting.slot info) := by
  cases call : info.funCall with
  | none => simp [svcInfo, call, Setting.slot, Window.attachSvc, Setting.path, syscall, Execution.pc]
  | some attached =>
    obtain ⟨inst, analysis⟩ := Option.isSome_iff_exists.mp (analysed (by simp [call]))
    simp [svcInfo, call, analysis, Setting.slot, Window.attachSvc]

/-- A skipped instruction whose PRE callbacks leave the window alone. -/
theorem execute_untouched (tracks : Tracks setting seq tracer manager window)
    (filtered : setting.records execution.pc = false)
    (opens : run (firePre execution) (tracer.loadPre execution) tracer.vm.callbacks =
      .ok (.next, tracer.loadPre execution)) :
    ∃ finished after, tracer.execute execution = .ok (.next, after) ∧
      Tracks setting (seq + 1) after finished window := by
  have need : tracer.isNeedRecord execution.pc = false := by rw [tracks.need, filtered]
  obtain ⟨noted, logged, executed⟩ := execute_quiet opens tracks.callbacks need tracks.present
  exact ⟨noted, _, executed, {
    present := rfl
    callbacks := tracks.callbacks
    clock := by simp [loadPre, tracks.clock]
    fixed := (setting_frame (by rw [logged.frame]) ..).trans tracks.fixed
    started := by rw [logged.preInfo, logged.curInfo]; exact tracks.started
    analysed := by rw [logged.curInfo]; exact tracks.analysed
    cur := by rw [logged.curInfo]; exact tracks.cur
    log := by rw [logged.log, List.append_nil]; exact tracks.log }⟩

/-- A skipped svc attaches its call to the record of an earlier instruction. -/
theorem execute_attaches {info : InstTraceInfo arch}
    (tracks : Tracks setting seq tracer manager window)
    (filtered : setting.records execution.pc = false) (current : manager.curInfo = some info)
    (opens : run (firePre execution) (tracer.loadPre execution) tracer.vm.callbacks =
      (tracer.loadPre execution).preSvcInstructionCall execution) :
    ∃ finished after, tracer.execute execution = .ok (.next, after) ∧
      Tracks setting (seq + 1) after finished
        { window with cur := window.cur.map (Window.attachSvc execution.pc) } := by
  have need : tracer.isNeedRecord execution.pc = false := by rw [tracks.need, filtered]
  have present : (tracer.loadPre execution).infoManager = some manager := tracks.present
  rw [preSvcInstructionCall_attaches execution present current] at opens
  obtain ⟨noted, logged, executed⟩ := execute_quiet opens tracks.callbacks need rfl
  have attached : noted.curInfo = some (svcInfo execution info) := logged.curInfo
  have svc : setting.slot (svcInfo execution info) =
      Window.attachSvc execution.pc (setting.slot info) :=
    slot_svcInfo tracks.claimant_svc (tracks.analysed info current)
  exact ⟨noted, _, executed, {
    present := rfl
    callbacks := tracks.callbacks
    clock := by simp [loadPre, tracks.clock]
    fixed := (setting_frame (by rw [logged.frame]) ..).trans tracks.fixed
    started := by simp [attached]
    analysed := by
      simp only [attached, Option.mem_def, Option.some.injEq]
      rintro _ rfl _
      simp only [svcInfo]
      split
      · exact tracks.analysed info current ‹_›
      · rfl
    cur := by rw [attached, ← tracks.cur, current, Option.map_some, svc]; rfl
    log := by rw [logged.log, List.append_nil]; exact tracks.log }⟩

theorem execute_skips (tracks : Tracks setting seq tracer manager window)
    (filtered : setting.records execution.pc = false)
    (done : tracer.execute execution = .ok (flow, after)) :
    flow = .next ∧ ∃ finished, Tracks setting (seq + 1) after finished
      (window.observe (setting.observation seq execution)) := by
  have need : tracer.isNeedRecord execution.pc = false := by rw [tracks.need, filtered]
  have opens := firePre_skips setting.svcHook need
  rw [← tracks.callbacks] at opens
  by_cases fires : (setting.svcHook && execution.isSvc) = true
  · rw [if_pos fires] at opens
    have observed : window.observe (setting.observation seq execution) =
        { window with cur := window.cur.map (Window.attachSvc execution.pc) } := by
      simp [Window.observe, Setting.observation, filtered, fires]
    rw [observed]
    cases current : manager.curInfo with
    | none =>
      have present : (tracer.loadPre execution).infoManager = some manager := tracks.present
      simp [execute, opens, preSvcInstructionCall, present, current] at done
    | some info =>
      obtain ⟨finished, reached, executed, tracked⟩ :=
        execute_attaches tracks filtered current opens
      cases executed.symm.trans done
      exact ⟨rfl, finished, tracked⟩
  · rw [if_neg fires] at opens
    have observed : window.observe (setting.observation seq execution) = window := by
      simp [Window.observe, Setting.observation, filtered, fires]
    rw [observed]
    obtain ⟨finished, reached, executed, tracked⟩ := execute_untouched tracks filtered opens
    cases executed.symm.trans done
    exact ⟨rfl, finished, tracked⟩

/-- The POST callback of an instruction that went through, and what follows it. -/
theorem execute_posted {ready : InstructionTracerManager arch} {svcHook : Bool}
    (opens : run (firePre execution) (tracer.loadPre execution) tracer.vm.callbacks =
      .ok (.next, ready))
    (once : ready.vm.callbacks = onceCallbacks svcHook)
    (done : tracer.execute execution = .ok (flow, after)) :
    ∃ verdict finished,
      (ready.executed execution).postInstructionCall execution = .ok (verdict, finished) ∧
      (verdict = .next → flow = .next ∧ after = (finished.noteExecuted execution .afterPost).tick) := by
  cases execute_stage done with
  | atPre stops => cases opens.symm.trans stops
  | atPost began posts =>
    cases opens.symm.trans began
    rw [once, run_firePost_once] at posts
    exact ⟨.stop, _, posts, by simp⟩
  | through began posts =>
    cases opens.symm.trans began
    rw [once, run_firePost_once] at posts
    exact ⟨.next, _, posts, fun _ => ⟨rfl, rfl⟩⟩

/-- The tracer in the POST callback of a recorded instruction, after the hook. -/
def hookedPost (execution : Execution arch) (tracer : InstructionTracerManager arch) (vm : VM arch)
    (manager : InstructionInfoManager arch) : InstructionTracerManager arch :=
  (loadPost execution { tracer with vm := vm, infoManager := some manager }).traceCallbackPost
    execution.pc

/-- A recorded instruction opens its record, and its POST callback works on the
window with that record current. -/
theorem execute_opened (tracks : Tracks setting seq tracer manager window)
    (recorded : setting.records execution.pc = true)
    (done : tracer.execute execution = .ok (flow, after)) :
    flow = .next ∧ ∃ vm status before finished,
      vm.callbacks = tracer.vm.callbacks ∧ vm.clock = seq ∧
      InstructionInfoManager.Logged
        (manager.opened (preparedInfo execution setting.svcHook seq status)) before [] ∧
      InstructionInfoManager.Logged
        ((hookedPost execution tracer vm before).postWindow execution before
          (preparedInfo execution setting.svcHook seq status)) finished
        ((hookedPost execution tracer vm before).postEvents execution before
          (preparedInfo execution setting.svcHook seq status)) ∧
      after = tick { hookedPost execution tracer vm before with infoManager := some finished } := by
  have need : tracer.isNeedRecord execution.pc = true := by rw [tracks.need, recorded]
  obtain ⟨vm, status, callbacks, clock, opens⟩ :=
    firePre_opens setting.svcHook need tracks.present
  rw [← tracks.callbacks, tracks.clock] at opens
  obtain ⟨verdict, posted, post, ends⟩ :=
    execute_posted opens (callbacks.trans tracks.callbacks) done
  have openedPresent : InstructionTracerManager.infoManager { tracer with
      vm := vm
      infoManager := some (manager.opened (preparedInfo execution setting.svcHook seq status)) } =
        some (manager.opened (preparedInfo execution setting.svcHook seq status)) := rfl
  obtain ⟨before, notedBefore, loggedBefore⟩ :=
    noteExecuted_logged execution .beforePost openedPresent
  rw [executed, notedBefore] at post
  have loadedNeed : (loadPost execution { tracer with
      vm := vm, infoManager := some before }).isNeedRecord execution.inst.address = true := need
  obtain ⟨continues, written, rfl, logged⟩ :=
    postInstructionCall_posts loadedNeed rfl loggedBefore.curInfo rfl post
  obtain ⟨rfl, rfl⟩ := ends continues
  have writtenPresent : InstructionTracerManager.infoManager
      { hookedPost execution tracer vm before with infoManager := some written } = some written :=
    rfl
  obtain ⟨finished, notedAfter, loggedAfter⟩ :=
    noteExecuted_logged execution .afterPost writtenPresent
  refine ⟨rfl, vm, status, before, finished, callbacks, clock.trans tracks.clock, loggedBefore,
    ?_, ?_⟩
  · have all := logged.trans loggedAfter
    rwa [List.append_nil] at all
  · exact congrArg tick notedAfter

/-- The tracer of a POST callback reads the setting, the registers and the
number of the instruction. -/
structure AtPost (setting : Setting arch) (seq : Nat) (execution : Execution arch)
    (tracer : InstructionTracerManager arch) (manager : InstructionInfoManager arch) : Prop where
  paths : ∀ isSvc inside target,
    tracer.callPath manager isSvc inside target = setting.path isSvc inside target
  state : tracer.vm.gprState = setting.postState execution
  clock : tracer.vm.clock = seq

theorem AtPost.argsEvents (post : AtPost setting seq execution tracer manager)
    (status : TraceVmStatus arch) :
    tracer.argsEvents manager (preparedInfo execution setting.svcHook seq status) =
      (setting.observation seq execution).slot.argsEvents seq := by
  have attaches := execution.ownCall_isSome setting.svcHook
  cases call : execution.ownCall setting.svcHook with
  | none =>
    rw [call] at attaches
    simp [InstructionTracerManager.argsEvents, preparedInfo, call, Observation.slot,
      Setting.observation, Slot.argsEvents, ← attaches]
  | some own =>
    rw [call] at attaches
    simp [InstructionTracerManager.argsEvents, preparedInfo, call, Observation.slot,
      Setting.observation, Slot.argsEvents, ← attaches, post.paths, post.state, post.clock,
      Execution.ownCall_isSvc call]

theorem AtPost.postedSlot (post : AtPost setting seq execution tracer manager)
    (status : TraceVmStatus arch) :
    setting.slot (tracer.postedInfo execution.process manager
      (preparedInfo execution setting.svcHook seq status)) =
        (setting.observation seq execution).slot := by
  have attaches := execution.ownCall_isSome setting.svcHook
  cases call : execution.ownCall setting.svcHook with
  | none =>
    rw [call] at attaches
    simp [Setting.slot, postedInfo, savedInfo, preparedInfo, call, Observation.slot,
      Setting.observation, ← attaches]
  | some own =>
    rw [call] at attaches
    simp [Setting.slot, postedInfo, savedInfo, preparedInfo, call, Observation.slot,
      Setting.observation, ← attaches, TraceVmStatus.save, post.state, Execution.pc,
      Execution.ownCall_isSvc call]

theorem AtPost.returnEvents (post : AtPost setting seq execution tracer manager)
    (status : TraceVmStatus arch) {latest : Option (InstTraceInfo arch)}
    (shifted : manager.preInfo = latest)
    (analysed : ∀ info ∈ latest, info.funCall.isSome = true → info.instAnalysis.isSome = true) :
    tracer.returnEvents { manager with
        curInfo := some (preparedInfo execution setting.svcHook seq status) } =
      finishEvents (setting.observation seq execution) (latest.map setting.slot) := by
  subst shifted
  cases prevInfo : manager.preInfo with
  | none => simp [InstructionTracerManager.returnEvents, finishEvents]
  | some prev =>
    cases attached : prev.funCall with
    | none =>
      simp [InstructionTracerManager.returnEvents, attached, finishEvents, Setting.slot]
    | some call =>
      obtain ⟨inst, analysis⟩ :=
        Option.isSome_iff_exists.mp (analysed prev prevInfo (by simp [attached]))
      simp only [InstructionTracerManager.returnEvents, attached, analysis, finishEvents,
        Setting.slot, post.clock, post.state, Option.map_some, Option.bind_eq_bind,
        Option.bind_some, Option.pure_def, ← post.paths]
      rfl

theorem AtPost.ownWrites (post : AtPost setting seq execution tracer manager)
    (status : TraceVmStatus arch) {latest : Option (InstTraceInfo arch)}
    (shifted : manager.preInfo = latest) :
    tracer.ownWrites execution { manager with
        curInfo := some (preparedInfo execution setting.svcHook seq status) }
        (preparedInfo execution setting.svcHook seq status) =
      ownEvents (setting.observation seq execution) (latest.map setting.slot) := by
  subst shifted
  have attaches := execution.ownCall_isSome setting.svcHook
  cases call : (execution.ownCall setting.svcHook).isSome <;> rw [call] at attaches <;>
    cases prevInfo : manager.preInfo <;>
    simp [InstructionTracerManager.ownWrites, preparedInfo, call, ownEvents, Setting.observation,
      ← attaches, post.clock, InstructionInfoManager.slotWrites, Slot.writes,
      Setting.slot, Execution.pc]

/-- A recorded instruction: its record becomes the current one, and the previous
record is finished. -/
theorem execute_records (tracks : Tracks setting seq tracer manager window)
    (recorded : setting.records execution.pc = true)
    (done : tracer.execute execution = .ok (flow, after)) :
    flow = .next ∧ ∃ finished, Tracks setting (seq + 1) after finished
      (window.observe (setting.observation seq execution)) := by
  obtain ⟨rfl, vm, status, before, finished, callbacks, clock, opened, posted, rfl⟩ :=
    execute_opened tracks recorded done
  have sameDispatch : before.dispatchManager = manager.dispatchManager := by
    rw [opened.frame]; rfl
  have shifted : before.preInfo = manager.curInfo := by
    rw [opened.preInfo]
    cases current : manager.curInfo with
    | none => simp [InstructionInfoManager.opened, current, tracks.started current]
    | some info => simp [InstructionInfoManager.opened, current]
  have post : AtPost setting seq execution (hookedPost execution tracer vm before) before := by
    refine ⟨fun isSvc inside target => ?_, tracks.postState .., ?_⟩
    · rw [← tracks.path]
      simp only [callPath, sameDispatch]
      rfl
    · rw [← clock]
      simp only [hookedPost, traceCallbackPost, runHook]
      split <;> rfl
  have current := posted.curInfo
  refine ⟨rfl, finished, ?_⟩
  exact {
    present := rfl
    callbacks := by
      rw [← tracks.callbacks, ← callbacks]
      simp only [tick, hookedPost, traceCallbackPost, runHook]
      split <;> rfl
    clock := by simp [tick, post.clock]
    fixed := by
      refine Eq.trans ?_ tracks.fixed
      have same : finished.dispatchManager = manager.dispatchManager := by
        rw [posted.frame]; exact sameDispatch
      exact setting_frame same tracer (hookedPost execution tracer vm before).tick.vm _ _
    started := by simp [current, postWindow]
    analysed := by
      simp only [current, postWindow, Option.mem_def, Option.some.injEq]
      rintro _ rfl attached
      simpa [postedInfo, savedInfo, preparedInfo] using attached
    cur := by
      simp [current, postWindow, post.postedSlot, Window.observe, Setting.observation, recorded]
    log := by
      rw [posted.log, postEvents, post.argsEvents, post.returnEvents status shifted tracks.analysed,
        post.ownWrites status shifted, tracks.cur]
      have quiet : control before.journal = window.log := by
        rw [opened.log, List.append_nil, ← tracks.log]; rfl
      simp [postWindow, quiet, Window.observe, Setting.observation, recorded] }

theorem execute_tracks (tracks : Tracks setting seq tracer manager window)
    (done : tracer.execute execution = .ok (flow, after)) :
    flow = .next ∧ ∃ finished, Tracks setting (seq + 1) after finished
      (window.observe (setting.observation seq execution)) := by
  cases recorded : setting.records execution.pc with
  | true => exact execute_records tracks recorded done
  | false => exact execute_skips tracks recorded done

end Step

/-- The tracer before a first entry, its callbacks registered. -/
structure Fresh (tracer : InstructionTracerManager arch) (manager : InstructionInfoManager arch)
    (svcHook : Bool) : Prop where
  present : tracer.infoManager = some manager
  callbacks : tracer.vm.callbacks = onceCallbacks svcHook
  noPre : manager.preInfo = none
  noCur : manager.curInfo = none
  silent : manager.journal = []

theorem Fresh.tracks {tracer : InstructionTracerManager arch}
    {manager : InstructionInfoManager arch} {svcHook : Bool} (fresh : Fresh tracer manager svcHook) :
    Tracks (tracer.setting manager svcHook) tracer.vm.clock tracer manager {} where
  present := fresh.present
  callbacks := fresh.callbacks
  clock := rfl
  fixed := rfl
  started := fun _ => fresh.noPre
  analysed := by simp [fresh.noCur]
  cur := by simp [fresh.noCur]
  log := by simp [fresh.silent, control]

theorem observations_concat (setting : Setting arch) (start : Nat)
    (executions : List (Execution arch)) (execution : Execution arch) :
    setting.observations start (executions ++ [execution]) =
      setting.observations start executions ++
        [setting.observation (start + executions.length) execution] := by
  simp [Setting.observations, Setting.observeEntry, List.zipIdx_append, Nat.add_comm]

/-- Every run of the callbacks is the run of the window on its observations. -/
theorem run_tracks {setting : Setting arch} {start : Nat}
    {tracer after : InstructionTracerManager arch} {manager : InstructionInfoManager arch}
    {window : Window arch} {executions : List (Execution arch)} {flow : VMAction}
    (tracks : Tracks setting start tracer manager window)
    (ran : run execute tracer executions = .ok (flow, after)) :
    flow = .next ∧ ∃ finished, Tracks setting (start + executions.length) after finished
      (window.observeAll (setting.observations start executions)) := by
  have step : ∀ history before execution flow after,
      (∃ middle, Tracks setting (start + List.length history) before middle
        (window.observeAll (setting.observations start history))) →
      execute before execution = .ok (flow, after) →
      flow = .next ∧ ∃ middle, Tracks setting (start + (history ++ [execution]).length) after middle
        (window.observeAll (setting.observations start (history ++ [execution]))) := by
    rintro history before execution flow after ⟨middle, related⟩ done
    rw [observations_concat, Window.observeAll, List.foldl_append, List.length_append]
    exact execute_tracks related done
  have kept := run_history step [] ⟨manager, tracks⟩ ran
  simpa using kept

/-- The journal a stream of instructions leaves behind. -/
def journalAfter (tracer : InstructionTracerManager arch) (executions : List (Execution arch)) :
    Except Fault (List (Event arch)) :=
  (run execute tracer executions).map fun result =>
    (result.2.infoManager.map (·.journal)).getD []

/-- The calls a fresh tracer makes are those of the empty window. -/
theorem journalAfter_control {tracer : InstructionTracerManager arch}
    {manager : InstructionInfoManager arch} {svcHook : Bool} {executions : List (Execution arch)}
    {journal : List (Event arch)} (fresh : Fresh tracer manager svcHook)
    (ran : tracer.journalAfter executions = .ok journal) :
    control journal = (({} : Window arch).observeAll
      ((tracer.setting manager svcHook).observations tracer.vm.clock executions)).log := by
  simp only [journalAfter] at ran
  cases result : run execute tracer executions with
  | error fault => simp [result, Except.map] at ran
  | ok pair =>
    obtain ⟨flow, after⟩ := pair
    obtain ⟨-, finished, tracks⟩ := run_tracks fresh.tracks result
    simp only [result, Except.map, tracks.present, Option.map_some, Option.getD_some,
      Except.ok.injEq] at ran
    rw [← ran, tracks.log]

/-- The executions that pass the record filter, with their numbers. -/
def recordedExecutions (tracer : InstructionTracerManager arch)
    (executions : List (Execution arch)) : List (Execution arch × Nat) :=
  (executions.zipIdx tracer.vm.clock).filter fun entry => tracer.isNeedRecord entry.1.pc

theorem recordedExecutions_distinct (tracer : InstructionTracerManager arch)
    (executions : List (Execution arch)) :
    ((tracer.recordedExecutions executions).map Prod.snd).Nodup := by
  have whole : ((executions.zipIdx tracer.vm.clock).map Prod.snd).Nodup := by
    rw [List.zipIdx_map_snd]
    exact List.nodup_range'
  exact whole.sublist (List.filter_sublist.map Prod.snd)

/-- The number of an execution determines it. -/
theorem zipIdx_unique {executions : List (Execution arch)} {start now : Nat}
    {first second : Execution arch} (left : (first, now) ∈ executions.zipIdx start)
    (right : (second, now) ∈ executions.zipIdx start) : first = second := by
  have atLeft := (List.mk_mem_zipIdx_iff_le_and_getElem?_sub.mp left).2
  have atRight := (List.mk_mem_zipIdx_iff_le_and_getElem?_sub.mp right).2
  exact Option.some.inj (atLeft.symm.trans atRight)

end InstructionTracerManager

/-! Concrete machines, to evaluate the model on. -/

/-- A process with empty memory and no further mappings. -/
def idleProcess : Process arch := ⟨fun _ => 0, fun _ => "", [], none, fun _ => ""⟩

/-- Registers that hold a `pc` and the first two argument words. -/
def registers (pc : Word arch) (first second : Word arch) : GPRState arch :=
  ⟨fun i => if i = arch.regPc then pc else if i = 0 then first
    else if i = 1 then second else 0⟩

theorem registers_pc (pc first second : Word arch) : (registers pc first second).pc = pc := by
  simp [registers, GPRState.pc]

/-- An instruction that ends at `next` with `result` in its first register. -/
def Execution.simple (inst : InstAnalysis arch) (next argument result : Word arch) :
    Execution arch where
  inst := inst
  preGpr := registers inst.address argument 0
  postGpr := registers next result 0
  process := idleProcess
  pre_pc := registers_pc ..

def plainAt (address : Word arch) : Execution arch := .simple { address } (address + 4) 0 0

/-- A branch or call to `target`. -/
def branchAt (address target : Word arch) : Execution arch :=
  .simple { address, affectControlFlow := true, isBranch := true } target 0 0

def svcAt (address : Word arch) : Execution arch :=
  { Execution.simple { address } (address + 4) 0 0 with isSvc := true }

/-- Dispatchers for libraries at fixed places, without handlers. -/
def bareDispatchers : InstructionDispatchManager .aarch64 where
  libc := ⟨⟨0x7000, 0x7fff⟩, fun _ => none, fun _ => none⟩
  libz := ⟨⟨0x8000, 0x8fff⟩, fun _ => none, fun _ => none⟩
  jniEnv := ⟨⟨0x9000, 0x9fff⟩, fun _ => none, fun _ => none⟩
  syscallText := fun _ _ => ⟨"unknown", [], .kNumber⟩

/-- A freshly initialised tracer for a module at `0x1000`, with a file sink. -/
def tracedModule (callbacks : List CallbackKind) (recordRanges : List (ModuleRange .aarch64)) :
    InstructionTracerManager .aarch64 where
  vm := { callbacks }
  recordRanges := recordRanges
  moduleRange := ⟨0x1000, 0x1fff⟩
  infoManager := some {
    moduleRange := ⟨0x1000, 0x1fff⟩
    dispatchManager := bareDispatchers
    logger := { fileLog := true, moduleRange := ⟨0x1000, 0x1fff⟩ } }

theorem tracedModule_fresh (svcHook : Bool) (recordRanges : List (ModuleRange .aarch64)) :
    (tracedModule (onceCallbacks svcHook) recordRanges).Fresh
      { moduleRange := ⟨0x1000, 0x1fff⟩
        dispatchManager := bareDispatchers
        logger := { fileLog := true, moduleRange := ⟨0x1000, 0x1fff⟩ } } svcHook :=
  ⟨rfl, rfl, rfl, rfl, rfl⟩

end QbdiTracer
