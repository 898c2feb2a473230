import QbdiTracer.InitCalls
import QbdiTracer.Library.EventLog

/-! The text sinks of one process: every successful `init` makes a new logger without
sinks, while the names of the sinks made before stay in spdlog's registry. -/

namespace QbdiTracer

open EventLog

variable {arch : Arch}

/-- The two text sinks of a logger. -/
inductive SinkKind where
  | logcat
  | file
  deriving DecidableEq, Repr

/-- The name that the logger of a sink is registered under. -/
def SinkKind.loggerName : SinkKind → String
  | .logcat => "logcat_itrace"
  | .file => "itracer"

theorem SinkKind.loggerName_injective {kind other : SinkKind}
    (same : kind.loggerName = other.loggerName) : kind = other := by
  cases kind <;> cases other <;> first | rfl | simp [loggerName] at same

namespace LoggerManager

/-- The sink is installed. -/
def sink (logger : LoggerManager arch) : SinkKind → Bool
  | .logcat => logger.logcat
  | .file => logger.fileLog

/-- `set_enable_to_logcat(enable)` or `set_enable_to_file(enable)`, in a process that can
make its directories. -/
def setSink (registry : LogRegistry) (logger : LoggerManager arch) (enable : Bool) :
    SinkKind → Except SpdlogEx (LogRegistry × LoggerManager arch)
  | .logcat => logger.setEnableToLogcat registry enable
  | .file => logger.setEnableToFile registry true enable

def withSink (logger : LoggerManager arch) (enable : Bool) : SinkKind → LoggerManager arch
  | .logcat => { logger with logcat := enable }
  | .file => { logger with fileLog := enable }

@[simp] theorem withSink_sink (logger : LoggerManager arch) (enable : Bool)
    (kind other : SinkKind) :
    (logger.withSink enable kind).sink other = if other = kind then enable else logger.sink other := by
  cases kind <;> cases other <;> rfl

/-- Both calls do the same: a sink is registered when it is made, and only then. -/
theorem setSink_eq (registry : LogRegistry) (logger : LoggerManager arch) (enable : Bool)
    (kind : SinkKind) :
    logger.setSink registry enable kind =
      if enable = true ∧ logger.sink kind = false then
        (registry.registerLogger kind.loggerName).map (·, logger.withSink true kind)
      else .ok (registry, logger.withSink enable kind) := by
  obtain ⟨manager, logcat, fileLog, name, range, lines⟩ := logger
  cases kind with
  | logcat => cases enable <;> cases logcat <;> rfl
  | file => cases enable <;> cases fileLog <;> rfl

end LoggerManager

/-- A process with its registry and its tracer. -/
structure SinkSession (arch : Arch) where
  registry : LogRegistry := {}
  tracer : InstructionTracerManager arch

def SinkSession.withLogger (session : SinkSession arch) (registry : LogRegistry)
    (manager : InstructionInfoManager arch) : SinkSession arch :=
  { registry, tracer := { session.tracer with infoManager := some manager } }

inductive SinkCall (arch : Arch) where
  | init (call : InitCall arch)
  /-- `get_info_manager()->set_enable_to_logcat(on)` or `set_enable_to_file(on)`. -/
  | enable (kind : SinkKind) (on : Bool)

/-- How a call can fail to return. -/
inductive SinkFailure where
  | thrown (exception : SpdlogEx)
  | nullInfoManager
  deriving DecidableEq

namespace SinkCall

def apply (session : SinkSession arch) : SinkCall arch → Except SinkFailure (SinkSession arch)
  | .init call => .ok { session with tracer := (call.apply session.tracer).1 }
  | .enable kind on =>
    match session.tracer.infoManager with
    | none => .error .nullInfoManager
    | some manager =>
      match manager.logger.setSink session.registry on kind with
      | .error exception => .error (.thrown exception)
      | .ok (registry, logger) => .ok (session.withLogger registry { manager with logger := logger })

/-- The call enables the sink. -/
def enables (kind : SinkKind) : SinkCall arch → Bool
  | .enable other true => other == kind
  | _ => false

/-- Whether the sink is installed after the call, given whether it was before. -/
def installs (kind : SinkKind) (live : Bool) : SinkCall arch → Bool
  | .init call => live && !call.succeeds
  | .enable other on => if kind = other then on else live

/-- The sink has been enabled in this process. -/
def used (kind : SinkKind) (past : List (SinkCall arch)) : Bool := past.any (enables kind)

/-- The sink has been enabled, and since then neither disabled nor left behind with its
logger by a successful `init`. -/
def live (kind : SinkKind) (past : List (SinkCall arch)) : Bool :=
  past.foldl (installs kind) false

/-- A sink is enabled only for the first time, or while it is installed. -/
def Fresh (past : List (SinkCall arch)) (call : SinkCall arch) : Prop :=
  ∀ kind, call.enables kind = true → used kind past = true → live kind past = true

theorem live_concat (kind : SinkKind) (past : List (SinkCall arch)) (call : SinkCall arch) :
    live kind (past ++ [call]) = call.installs kind (live kind past) := by
  simp [live]

theorem used_concat (kind : SinkKind) (past : List (SinkCall arch)) (call : SinkCall arch) :
    used kind (past ++ [call]) = (used kind past || call.enables kind) := by
  simp [used]

theorem used_of_live {kind : SinkKind} {past : List (SinkCall arch)}
    (installed : live kind past = true) : used kind past = true := by
  induction past using List.reverseRecOn with
  | nil => cases installed
  | append_singleton past call ih =>
    rw [live_concat] at installed
    rw [used_concat, Bool.or_eq_true]
    cases call with
    | init call =>
      simp only [installs, Bool.and_eq_true] at installed
      exact .inl (ih installed.1)
    | enable other on =>
      by_cases same : kind = other
      · rw [installs, if_pos same] at installed
        exact .inr (by simp [installed, same, enables])
      · rw [installs, if_neg same] at installed
        exact .inl (ih installed)

theorem fresh_enable_iff {past : List (SinkCall arch)} {kind : SinkKind} {on : Bool} :
    Fresh past (.enable kind on) ↔ (on = true → used kind past = true → live kind past = true) := by
  constructor
  · intro fresh enabling
    exact fresh kind (by simp [enabling, enables])
  · intro fresh other enabling
    cases on with
    | false => cases enabling
    | true =>
      cases beq_iff_eq.mp enabling
      exact fresh rfl

end SinkCall

namespace SinkSession

open SinkCall (used live installs enables Fresh live_concat used_concat used_of_live
  fresh_enable_iff)

variable {start session next : SinkSession arch} {call : SinkCall arch}
  {history past : List (SinkCall arch)}

/-- The sink of the current logger, if there is one. -/
def sink (session : SinkSession arch) (kind : SinkKind) : Option Bool :=
  session.tracer.infoManager.map (·.logger.sink kind)

/-- The session agrees with what has happened in it. -/
structure Reflects (session : SinkSession arch) (past : List (SinkCall arch)) : Prop where
  sink : ∀ kind, session.sink kind = some (live kind past)
  names : ∀ kind : SinkKind, kind.loggerName ∈ session.registry.names ↔ used kind past = true

theorem Reflects.init (reflects : session.Reflects past) (call : InitCall arch) :
    Reflects { session with tracer := (call.apply session.tracer).1 } (past ++ [.init call]) := by
  have outcome := call.apply_outcome session.tracer
  constructor
  · intro kind
    rw [live_concat]
    cases succeeds : call.succeeds with
    | false =>
      have same : SinkSession.sink { session with tracer := (call.apply session.tracer).1 } kind =
          session.sink kind := by
        simp only [SinkSession.sink, outcome.kept succeeds]
      rw [same, reflects.sink kind]
      simp [installs, succeeds]
    | true =>
      obtain ⟨manager, name, present, -, logger⟩ := outcome.made succeeds
      simp only [SinkSession.sink, present, Option.map_some, logger]
      cases kind <;> simp [installs, succeeds, LoggerManager.sink]
  · intro kind
    rw [used_concat]
    simpa [enables] using reflects.names kind

theorem Reflects.manager (reflects : session.Reflects past) :
    ∃ manager, session.tracer.infoManager = some manager ∧
      ∀ kind, manager.logger.sink kind = live kind past := by
  cases present : session.tracer.infoManager with
  | none =>
    have some := reflects.sink .logcat
    simp [SinkSession.sink, present] at some
  | some manager =>
    refine ⟨manager, rfl, fun kind => ?_⟩
    have some := reflects.sink kind
    simpa [SinkSession.sink, present] using some

/-- A sink has been set, and its name is registered when it was enabled. -/
theorem Reflects.set (session : SinkSession arch) (registry : LogRegistry)
    {manager : InstructionInfoManager arch} {kind : SinkKind} {on : Bool}
    (sinks : ∀ kind, manager.logger.sink kind = live kind past)
    (names : ∀ other : SinkKind, other.loggerName ∈ registry.names ↔
      used other past = true ∨ (other = kind ∧ on = true)) :
    (session.withLogger registry
      { manager with logger := manager.logger.withSink on kind }).Reflects
        (past ++ [.enable kind on]) := by
  constructor
  · intro other
    rw [live_concat]
    simp [SinkSession.sink, withLogger, installs, sinks]
  · intro other
    rw [used_concat, Bool.or_eq_true]
    refine (names other).trans (or_congr_right ?_)
    cases on with
    | false => simp [enables]
    | true =>
      rw [enables, beq_iff_eq, eq_comm]
      exact and_iff_left rfl

/-- A sink that has to be made is made if its name was never registered. -/
theorem Reflects.enable_missing (reflects : session.Reflects past) {kind : SinkKind}
    (gone : live kind past = false) :
    Fresh past (.enable kind true) ∧ (∃ next, (SinkCall.enable kind true).apply session = .ok next ∧
        next.Reflects (past ++ [.enable kind true])) ∨
      ¬ Fresh past (.enable kind true) ∧
        ∃ failure, (SinkCall.enable kind true).apply session = .error failure := by
  obtain ⟨manager, present, sinks⟩ := reflects.manager
  have set := manager.logger.setSink_eq session.registry true kind
  rw [if_pos ⟨rfl, (sinks kind).trans gone⟩] at set
  rw [fresh_enable_iff]
  by_cases registered : kind.loggerName ∈ session.registry.names
  · right
    refine ⟨fun fresh => ?_, ?_⟩
    · cases gone.symm.trans (fresh rfl ((reflects.names kind).mp registered))
    · simp [SinkCall.apply, present, set, LogRegistry.registerLogger, registered, Except.map]
  · left
    refine ⟨fun _ earlier => absurd ((reflects.names kind).mpr earlier) registered, _, ?_,
      Reflects.set session { names := kind.loggerName :: session.registry.names } sinks ?_⟩
    · simp [SinkCall.apply, present, set, LogRegistry.registerLogger, registered, Except.map]
    · intro other
      rw [List.mem_cons, reflects.names other, or_comm]
      simp only [and_true]
      refine or_congr_right ⟨SinkKind.loggerName_injective, congrArg _⟩

/-- A sink that is there, or is dropped, needs no name. -/
theorem Reflects.enable_kept (reflects : session.Reflects past) {kind : SinkKind} {on : Bool}
    (kept : on = true → live kind past = true) :
    Fresh past (.enable kind on) ∧ ∃ next, (SinkCall.enable kind on).apply session = .ok next ∧
      next.Reflects (past ++ [.enable kind on]) := by
  obtain ⟨manager, present, sinks⟩ := reflects.manager
  have set := manager.logger.setSink_eq session.registry on kind
  have unmade : ¬ (on = true ∧ manager.logger.sink kind = false) := by
    rintro ⟨enabling, missing⟩
    cases (kept enabling).symm.trans ((sinks kind).symm.trans missing)
  rw [if_neg unmade] at set
  rw [fresh_enable_iff]
  refine ⟨fun enabling _ => kept enabling, _, ?_, Reflects.set session session.registry sinks ?_⟩
  · simp [SinkCall.apply, present, set]
  · intro other
    rw [reflects.names other]
    refine ⟨.inl, ?_⟩
    rintro (earlier | ⟨rfl, enabling⟩)
    · exact earlier
    · exact used_of_live (kept enabling)

/-- A call on a sink goes through exactly when it is fresh. -/
theorem Reflects.enable (reflects : session.Reflects past) (kind : SinkKind) (on : Bool) :
    Fresh past (.enable kind on) ∧ (∃ next, (SinkCall.enable kind on).apply session = .ok next ∧
        next.Reflects (past ++ [.enable kind on])) ∨
      ¬ Fresh past (.enable kind on) ∧
        ∃ failure, (SinkCall.enable kind on).apply session = .error failure := by
  cases on with
  | false =>
    left
    exact reflects.enable_kept nofun
  | true =>
    cases present : live kind past with
    | false => exact reflects.enable_missing present
    | true =>
      left
      exact reflects.enable_kept fun _ => present

/-- The state after a history of calls. -/
def applyAll (session : SinkSession arch) (history : List (SinkCall arch)) :
    Except SinkFailure (SinkSession arch) :=
  history.foldlM SinkCall.apply session

theorem Reflects.step (reflects : session.Reflects past) (call : SinkCall arch) :
    Fresh past call ∧ (∃ next, call.apply session = .ok next ∧ next.Reflects (past ++ [call])) ∨
      ¬ Fresh past call ∧ ∃ failure, call.apply session = .error failure := by
  cases call with
  | init call => exact .inl ⟨nofun, _, rfl, reflects.init call⟩
  | enable kind on => exact reflects.enable kind on

theorem Reflects.applyAll (initialised : start.Reflects [])
    (reached : start.applyAll history = .ok session) : session.Reflects history := by
  refine foldlM_history (fun past session => session.Reflects past) initialised ?_ reached
  intro past call before after reflects applied
  rcases reflects.step call with ⟨-, next, done, kept⟩ | ⟨-, failure, failed⟩
  · cases done.symm.trans applied
    exact kept
  · cases failed.symm.trans applied

/-- A history goes through exactly when its calls are fresh. -/
theorem applyAll_ok_iff (initialised : start.Reflects []) (history : List (SinkCall arch)) :
    (∃ final, start.applyAll history = .ok final) ↔ Always Fresh history := by
  apply foldlM_ok_iff
  intro past call session reached
  have reflects : session.Reflects past := initialised.applyAll reached
  rcases reflects.step call with ⟨fresh, next, done, -⟩ | ⟨stale, failure, failed⟩
  · exact iff_of_true ⟨next, done⟩ fresh
  · refine iff_of_false ?_ stale
    rintro ⟨next, done⟩
    cases failed.symm.trans done

/-- The call returns, and after it the sink is installed exactly when asked for. -/
def Sets (start : SinkSession arch) (past : List (SinkCall arch)) (call : SinkCall arch) : Prop :=
  ∀ kind on, call = .enable kind on → ∃ before after, start.applyAll past = .ok before ∧
    call.apply before = .ok after ∧ after.sink kind = some on

/-- In a process that begins with a new logger, every call on a sink does what it says
exactly when no sink is enabled again after it was disabled or left behind. -/
theorem always_sets_iff (initialised : start.Reflects []) (history : List (SinkCall arch)) :
    Always start.Sets history ↔ Always Fresh history := by
  rw [← applyAll_ok_iff initialised]
  constructor
  · intro sets
    induction history using List.reverseRecOn with
    | nil => exact ⟨start, rfl⟩
    | append_singleton past call ih =>
      rw [always_append, always_singleton] at sets
      obtain ⟨middle, reached⟩ := ih sets.1
      rw [applyAll, foldlM_concat, show past.foldlM SinkCall.apply start = _ from reached]
      cases call with
      | init call => exact ⟨_, rfl⟩
      | enable kind on =>
        obtain ⟨before, after, same, done, -⟩ := sets.2 kind on rfl
        rw [List.append_nil] at same
        cases same.symm.trans reached
        exact ⟨after, done⟩
  · rintro ⟨final, ran⟩ past call rest rfl kind on rfl
    have fresh := (applyAll_ok_iff initialised _).mp ⟨final, ran⟩
    rw [← List.singleton_append, ← List.append_assoc, always_append] at fresh
    obtain ⟨after, reached⟩ := (applyAll_ok_iff initialised _).mpr fresh.1
    obtain ⟨before, arrived, done⟩ := foldlM_concat_ok reached
    refine ⟨before, after, arrived, done, ?_⟩
    have reflects : after.Reflects (past ++ [.enable kind on]) := initialised.applyAll reached
    rw [reflects.sink kind, live_concat, installs, if_pos rfl]

/-- A process after its first `init`. -/
def initialised : SinkSession .aarch64 :=
  { tracer := ((InitCall.byAddress .target 0x1000).apply {}).1 }

theorem initialised_reflects : initialised.Reflects [] := by
  constructor
  · intro kind
    cases kind <;> rfl
  · intro kind
    simp [initialised, used]

/-- Both sinks are enabled, one of them twice, then one is disabled. -/
theorem always_sets_iff_once : Always initialised.Sets
    [.enable .logcat true, .enable .logcat true, .enable .file true, .enable .logcat false] := by
  apply (always_sets_iff initialised_reflects _).mpr
  rw [always_cons, always_cons, always_cons, always_singleton]
  refine ⟨fresh_enable_iff.mpr ?_, fresh_enable_iff.mpr ?_, fresh_enable_iff.mpr ?_,
    fresh_enable_iff.mpr ?_⟩
  all_goals decide

/-- logcat is enabled again after it was disabled, and after a second `init`. -/
theorem enabled_again_throws :
    ¬ Always initialised.Sets
        [.enable .logcat true, .enable .logcat false, .enable .logcat true] ∧
      ¬ Always initialised.Sets [.enable .logcat true,
        .init (.byOffset .target "libtarget.so" 8), .enable .logcat true] := by
  constructor
  · intro sets
    obtain ⟨before, after, reached, done, -⟩ :=
      sets [.enable .logcat true, .enable .logcat false] _ [] rfl .logcat true rfl
    cases reached
    cases done
  · intro sets
    obtain ⟨before, after, reached, done, -⟩ := sets [.enable .logcat true,
      .init (.byOffset .target "libtarget.so" 8)] _ [] rfl .logcat true rfl
    cases reached
    cases done

end SinkSession

end QbdiTracer
