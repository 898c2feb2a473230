import QbdiTracer.Constructors

/-! The monitors that one pass through the hook calls, and what they are told. -/

namespace QbdiTracer

variable {arch : Arch}

namespace LibraryMonitor

variable {monitors : List (LibraryMonitor arch)} {path : String} {type told other : LinkerType}

/-- No monitor of this type is meant for the library. -/
def Silent (path : String) (type : LinkerType) (monitors : List (LibraryMonitor arch)) : Prop :=
  ∀ monitor ∈ monitors, monitor.listener type path = none

theorem silent_iff : Silent path type monitors ↔ notifications path type told monitors = [] := by
  simp [Silent, notifications]

/-- What the callbacks are told can be read off the trace. -/
theorem notifications_eq_iff (differs : told ≠ other) :
    notifications path type told monitors = notifications path type other monitors ↔
      Silent path type monitors := by
  constructor
  · intro same
    induction monitors with
    | nil => simp [Silent]
    | cons monitor rest ih =>
      simp only [notifications, List.filterMap_cons] at same
      cases heard : monitor.listener type path with
      | none =>
        simp only [heard, Option.map_none] at same
        intro next member
        rcases List.mem_cons.mp member with rfl | later
        · exact heard
        · exact ih same next later
      | some callback =>
        simp only [heard, Option.map_some, List.cons.injEq, LinkerEvent.notified.injEq] at same
        exact absurd same.1.2.2.1 differs
  · intro silent
    rw [silent_iff.mp silent, silent_iff.mp silent]

theorem length_notifications :
    (notifications path type told monitors).length =
      (notifications path type other monitors).length := by
  induction monitors with
  | nil => rfl
  | cons monitor rest ih =>
    simp only [notifications, List.filterMap_cons] at ih ⊢
    cases monitor.listener type path with
    | none => exact ih
    | some callback => exact congrArg (· + 1) ih

theorem filter_isNotified_notifications :
    (notifications path type told monitors).filter LinkerEvent.isNotified =
      notifications path type told monitors :=
  List.filter_eq_self.mpr fun _ => notifications_isNotified

end LibraryMonitor

namespace Linker

open LibraryMonitor

/-- The linker after these registrations. -/
def addAll (linker : Linker arch) (monitors : List (LibraryMonitor arch)) : Linker arch :=
  monitors.foldl (fun linker monitor => (linker.addLibraryMonitor monitor).1) linker

theorem addLibraryMonitor_list (linker : Linker arch) (monitor : LibraryMonitor arch) :
    (linker.addLibraryMonitor monitor).1.monitorList = linker.monitorList ++ [monitor] ∧
      (linker.addLibraryMonitor monitor).1.sdk = linker.sdk := by
  simp only [addLibraryMonitor, initDlopenHook, initLinkerHook]
  cases monitor.type <;> dsimp only <;> repeat' split
  all_goals exact ⟨rfl, rfl⟩

/-- Every registration is kept, whether or not the hooks could be installed. -/
theorem addAll_list (linker : Linker arch) (monitors : List (LibraryMonitor arch)) :
    (linker.addAll monitors).monitorList = linker.monitorList ++ monitors ∧
      (linker.addAll monitors).sdk = linker.sdk := by
  induction monitors generalizing linker with
  | nil => simp [addAll]
  | cons monitor rest ih =>
    obtain ⟨list, sdk⟩ := addLibraryMonitor_list linker monitor
    obtain ⟨lists, sdks⟩ := ih (linker.addLibraryMonitor monitor).1
    refine ⟨?_, sdks.trans sdk⟩
    rw [list, List.append_assoc] at lists
    exact lists

/-- The events of the library itself. -/
def ownEvents (events : List (LinkerEvent arch)) : List (LinkerEvent arch) :=
  events.filter fun event => !event.isDependency

/-- What a pass over a library should come to: the phases in order, the monitors of each
in order of registration, each told the type it was registered for. -/
def phases (path : String) (monitors : List (LibraryMonitor arch)) (proc : Word arch)
    (array : Option (ℤ → Word arch)) (count : Word arch) : List (LinkerEvent arch) :=
  (if proc ≠ 0 then
    notifications path .initProc .initProc monitors ++ callFunctionT proc ++
      notifications path .initProcPost .initProcPost monitors
  else []) ++
  if 0 < count then
    notifications path .initArray .initArray monitors ++ entryCalls array count.toNat ++
      notifications path .initArrayPost .initArrayPost monitors
  else []

/-- The array that the pass comes upon: the callbacks before may have changed it. -/
def arrayFound (sdk : ℤ) (monitors : List (LibraryMonitor arch)) (so : Soinfo arch) :
    Option (ℤ → Word arch) :=
  if Soinfo.supportsSdk sdk then
    (atArray so.realpath monitors
      (runInitProc sdk monitors so.realpath so.initFunc (constructedHidden so)).1).initArray
  else so.initArray

/-- One pass through the hook goes through the phases. -/
def PassesPhases (original : CallConstructors arch) (sdk : ℤ)
    (monitors : List (LibraryMonitor arch)) (so : Soinfo arch) : Prop :=
  (hookCallConstructors original sdk monitors so).map (fun pass => ownEvents pass.2) =
    .ok (phases so.realpath monitors so.initFunc (arrayFound sdk monitors so) so.initArrayCount)

/-- The condition under which they are passed through: no monitor waits for an array
that is there, the API level is supported wherever a monitor waits for `DT_INIT`, and the
length of the array survives its conversion to `int` or nothing callable is lost by it. -/
structure Covered (sdk : ℤ) (monitors : List (LibraryMonitor arch)) (so : Soinfo arch) :
    Prop where
  array : 0 < so.initArrayCount →
    Silent so.realpath .initArray monitors ∧ Silent so.realpath .initArrayPost monitors
  proc : Soinfo.supportsSdk sdk = false → so.initFunc ≠ 0 →
    Silent so.realpath .initProc monitors ∧ Silent so.realpath .initProcPost monitors
  length : Soinfo.supportsSdk sdk = true → 0 < so.initArrayCount →
    ∀ functions ∈ arrayFound sdk monitors so, 0 ≤ toCInt so.initArrayCount ∧
      ∀ i : ℕ, (toCInt so.initArrayCount).toNat ≤ i → i < so.initArrayCount.toNat →
        isCallable (functions i) = false

section Phases

variable {original : CallConstructors arch} {sdk : ℤ} {monitors : List (LibraryMonitor arch)}
  {so : Soinfo arch} {path : String}

theorem toCInt_toNat_le (count : Word arch) : (toCInt count).toNat ≤ count.toNat := by
  have truncated : (count.setWidth 32).toNat ≤ count.toNat := by
    rw [BitVec.toNat_setWidth]
    exact Nat.mod_le ..
  have signed : toCInt count ≤ (count.setWidth 32).toNat := by
    rw [toCInt, BitVec.toInt_eq_toNat_cond]
    split <;> omega
  omega

/-- Fewer entries make the same calls exactly if the others are not callable. -/
theorem entryCalls_eq_iff {functions : ℤ → Word arch} {few count : ℕ} (fewer : few ≤ count) :
    entryCalls (some functions) few = entryCalls (some functions) count ↔
      ∀ i : ℕ, few ≤ i → i < count → isCallable (functions i) = false := by
  obtain ⟨more, rfl⟩ := Nat.exists_eq_add_of_le fewer
  have silent : ∀ function : Word arch, callFunction function = [] ↔ isCallable function = false := by
    intro function
    cases callable : isCallable function <;> simp [callFunction, callable]
  simp only [entryCalls, List.range_add, List.flatMap_append, List.flatMap_map,
    List.self_eq_append_right, List.flatMap_eq_nil_iff, List.mem_range, silent]
  constructor
  · intro all i above below
    have entry := all (i - few) (by omega)
    rwa [Nat.add_sub_cancel' above] at entry
  · intro all i below
    exact all (few + i) (by omega) (by omega)

/-- A constructor is no callback. -/
theorem filter_isNotified_calls {events : List (LinkerEvent arch)}
    (calls : ∀ event ∈ events, event.isConstructor = true) :
    events.filter LinkerEvent.isNotified = [] := by
  apply List.filter_eq_nil_iff.mpr
  intro event member
  have called := calls event member
  cases event <;> simp_all [LinkerEvent.isConstructor, LinkerEvent.isNotified]

/-- The phases around the array differ from what the hook makes of them as soon as a
monitor is called in them. -/
theorem array_phases_iff {functions : Option (ℤ → Word arch)} {few count : ℕ} :
    notifications path .initArray .initProcPost monitors ++ entryCalls functions few ++
        notifications path .initArrayPost .initProcPost monitors =
      notifications path .initArray .initArray monitors ++ entryCalls functions count ++
        notifications path .initArrayPost .initArrayPost monitors ↔
      (Silent path .initArray monitors ∧ Silent path .initArrayPost monitors) ∧
        entryCalls functions few = entryCalls functions count := by
  constructor
  · intro same
    have told := congrArg (List.filter LinkerEvent.isNotified) same
    simp only [List.filter_append, filter_isNotified_notifications,
      filter_isNotified_calls fun _ => entryCalls_isConstructor, List.append_nil] at told
    obtain ⟨before, after⟩ := List.append_inj told length_notifications
    have silent := (notifications_eq_iff (by decide)).mp before
    have silentPost := (notifications_eq_iff (by decide)).mp after
    refine ⟨⟨silent, silentPost⟩, ?_⟩
    simpa only [silent_iff.mp silent, silent_iff.mp silentPost, List.nil_append,
      List.append_nil] using same
  · rintro ⟨⟨silent, silentPost⟩, same⟩
    simp only [silent_iff.mp silent, silent_iff.mp silentPost, List.nil_append, List.append_nil,
      same]

theorem ownEvents_dependencies {dependencies events : List (LinkerEvent arch)}
    (only : ∀ event ∈ dependencies, event.isDependency = true)
    (own : ∀ event ∈ events, event.isDependency = false) :
    ownEvents (dependencies ++ events) = events := by
  have others : dependencies.filter (fun event => !event.isDependency) = [] := by
    apply List.filter_eq_nil_iff.mpr
    intro event member
    simp [only event member]
  rw [ownEvents, List.filter_append, others, List.nil_append]
  apply List.filter_eq_self.mpr
  intro event member
  simp [own event member]

theorem notifications_own {type told : LinkerType} :
    ∀ event ∈ notifications path type told monitors, event.isDependency = false := by
  intro event member
  have notified := notifications_isNotified member
  cases event <;> simp_all [LinkerEvent.isNotified, LinkerEvent.isDependency]

theorem calls_own {events : List (LinkerEvent arch)}
    (calls : ∀ event ∈ events, event.isConstructor = true) :
    ∀ event ∈ events, event.isDependency = false := by
  intro event member
  have called := calls event member
  cases event <;> simp_all [LinkerEvent.isConstructor, LinkerEvent.isDependency]

theorem filter_isNotified_phases {proc count : Word arch} {array : Option (ℤ → Word arch)} :
    (phases path monitors proc array count).filter LinkerEvent.isNotified =
      (if proc ≠ 0 then notifications path .initProc .initProc monitors ++
        notifications path .initProcPost .initProcPost monitors else []) ++
      if 0 < count then notifications path .initArray .initArray monitors ++
        notifications path .initArrayPost .initArrayPost monitors else [] := by
  rw [phases, List.filter_append]
  congr 1
  · split
    · simp only [List.filter_append, filter_isNotified_notifications,
        filter_isNotified_calls fun _ => callFunctionT_isConstructor, List.append_nil]
    · rfl
  · split
    · simp only [List.filter_append, filter_isNotified_notifications,
        filter_isNotified_calls fun _ => entryCalls_isConstructor, List.append_nil]
    · rfl

/-- Without monitors the phases are the constructors alone. -/
theorem phases_silent {proc count : Word arch} {array : Option (ℤ → Word arch)}
    (procs : proc ≠ 0 → Silent path .initProc monitors ∧ Silent path .initProcPost monitors)
    (arrays : 0 < count → Silent path .initArray monitors ∧ Silent path .initArrayPost monitors) :
    phases path monitors proc array count = callFunctionT proc ++ entryCalls array count.toNat := by
  rw [phases]
  congr 1
  · split
    · rename_i present
      simp only [silent_iff.mp (procs present).1, silent_iff.mp (procs present).2, List.nil_append,
        List.append_nil]
    · rename_i absent
      rw [not_not.mp absent, callFunctionT_zero]
  · split
    · rename_i present
      simp only [silent_iff.mp (arrays present).1, silent_iff.mp (arrays present).2,
        List.nil_append, List.append_nil]
    · rename_i absent
      have zero : count.toNat = 0 := by
        simpa using BitVec.le_def.mp (BitVec.not_lt.mp absent)
      rw [zero, entryCalls_zero]

theorem around_own {first second told other : LinkerType} {events : List (LinkerEvent arch)}
    (calls : ∀ event ∈ events, event.isConstructor = true) :
    ∀ event ∈ notifications path first told monitors ++ events ++
      notifications path second other monitors, event.isDependency = false := by
  intro event member
  rcases List.mem_append.mp member with early | late
  · rcases List.mem_append.mp early with told | called
    · exact notifications_own event told
    · exact calls_own calls event called
  · exact notifications_own event late

/-- An array whose length does not turn negative is called in full exactly if it has no
callable entry past the length as an `int`. -/
theorem entryCalls_found_iff {array : Option (ℤ → Word arch)} {count : Word arch}
    (ends : ¬ (array.isSome && decide (toCInt count < 0)) = true) :
    entryCalls array (toCInt count).toNat = entryCalls array count.toNat ↔
      ∀ functions ∈ array, 0 ≤ toCInt count ∧
        ∀ i : ℕ, (toCInt count).toNat ≤ i → i < count.toNat → isCallable (functions i) = false := by
  cases array with
  | none => exact iff_of_true rfl (by rintro functions ⟨⟩)
  | some functions =>
    have nonnegative : 0 ≤ toCInt count := by simpa using ends
    rw [entryCalls_eq_iff (toCInt_toNat_le count)]
    constructor
    · rintro past other ⟨⟩
      exact ⟨nonnegative, past⟩
    · intro all
      exact (all functions rfl).2

/-- On a level without a layout the constructors run and no monitor hears of it. -/
theorem unsupported_iff (documented : Documented original) (fresh : so.constructorsCalled = false)
    (unsupported : Soinfo.supportsSdk sdk = false) :
    PassesPhases original sdk monitors so ↔ Covered sdk monitors so := by
  obtain ⟨dependencies, only, constructs⟩ := documented.constructs so fresh
  have own : ownEvents (original so).2 =
      callFunctionT so.initFunc ++ entryCalls so.initArray so.initArrayCount.toNat := by
    rw [constructs, List.append_assoc]
    apply ownEvents_dependencies only
    intro event member
    rcases List.mem_append.mp member with proc | entry
    · exact calls_own (fun _ => callFunctionT_isConstructor) event proc
    · exact calls_own (fun _ => entryCalls_isConstructor) event entry
  have array : arrayFound sdk monitors so = so.initArray := by
    simp [arrayFound, unsupported]
  rw [PassesPhases, hookCallConstructors_unsupported unsupported, array]
  simp only [Except.map, own, Except.ok.injEq]
  constructor
  · intro same
    have told := congrArg (List.filter LinkerEvent.isNotified) same
    rw [List.filter_append, filter_isNotified_calls fun _ => callFunctionT_isConstructor,
      filter_isNotified_calls fun _ => entryCalls_isConstructor, filter_isNotified_phases,
      List.nil_append, eq_comm, List.append_eq_nil_iff] at told
    refine ⟨fun present => ?_, fun _ present => ?_, fun supported => ?_⟩
    · rw [if_pos present, List.append_eq_nil_iff] at told
      exact ⟨silent_iff.mpr told.2.1, silent_iff.mpr told.2.2⟩
    · rw [if_pos present, List.append_eq_nil_iff] at told
      exact ⟨silent_iff.mpr told.1.1, silent_iff.mpr told.1.2⟩
    · cases supported.symm.trans unsupported
  · intro covered
    exact (phases_silent (covered.proc unsupported) covered.array).symm

theorem ownEvents_eq_self {events : List (LinkerEvent arch)}
    (own : ∀ event ∈ events, event.isDependency = false) : ownEvents events = events := by
  have same : ownEvents ([] ++ events) = events := ownEvents_dependencies (by simp) own
  exact same

/-- The pass splits into the two parts of the hook. -/
theorem hookCallConstructors_ownEvents (documented : Documented original)
    (fresh : so.constructorsCalled = false) (supported : Soinfo.supportsSdk sdk = true) :
    (hookCallConstructors original sdk monitors so).map (fun pass => ownEvents pass.2) =
      ((runInitArray sdk monitors so.realpath so.initArrayCount
        (runInitProc sdk monitors so.realpath so.initFunc (constructedHidden so)).1).map
          Prod.snd).map fun events =>
            initProcEvents so.realpath monitors so.initFunc ++ ownEvents events := by
  obtain ⟨dependencies, only, hooked⟩ :=
    hookCallConstructors_eq monitors documented supported fresh
  have proc : ∀ event ∈ initProcEvents so.realpath monitors so.initFunc,
      event.isDependency = false := by
    intro event member
    simp only [initProcEvents] at member
    split at member
    · exact around_own (fun _ => callFunctionT_isConstructor) event member
    · cases member
  rw [hooked]
  simp only [runInitProc_events]
  cases runInitArray sdk monitors so.realpath so.initArrayCount
      (runInitProc sdk monitors so.realpath so.initFunc (constructedHidden so)).1 with
  | error fault => rfl
  | ok array =>
    have events : ownEvents (dependencies ++ initProcEvents so.realpath monitors so.initFunc ++
        array.2) = initProcEvents so.realpath monitors so.initFunc ++ ownEvents array.2 := by
      have first := ownEvents_dependencies only proc
      rw [ownEvents] at first ⊢
      rw [List.filter_append, first]
      rfl
    exact congrArg Except.ok events

/-- On the other levels only the phases around the array can go wrong. -/
theorem supported_iff (documented : Documented original) (fresh : so.constructorsCalled = false)
    (supported : Soinfo.supportsSdk sdk = true) :
    PassesPhases original sdk monitors so ↔ Covered sdk monitors so := by
  have found : (atArray so.realpath monitors (runInitProc sdk monitors so.realpath so.initFunc
      (constructedHidden so)).1).initArray = arrayFound sdk monitors so := by
    simp only [arrayFound, supported, ↓reduceIte]
  have phased : phases so.realpath monitors so.initFunc (arrayFound sdk monitors so)
      so.initArrayCount = initProcEvents so.realpath monitors so.initFunc ++ _ := rfl
  rw [PassesPhases, hookCallConstructors_ownEvents documented fresh supported,
    runInitArray_events supported, found, phased]
  by_cases present : 0 < so.initArrayCount
  · rw [if_pos present, if_pos present, callArray_eq]
    split
    · rename_i overflows
      rw [Bool.and_eq_true, decide_eq_true_eq, Option.isSome_iff_exists] at overflows
      obtain ⟨⟨functions, array⟩, negative⟩ := overflows
      refine iff_of_false (fun passes => ?_) fun covered => ?_
      · cases passes
      · have nonnegative := (covered.length supported present functions array).1
        omega
    · rename_i ends
      have own : ownEvents (notifications so.realpath .initArray .initProcPost monitors ++
          entryCalls (arrayFound sdk monitors so) (toCInt so.initArrayCount).toNat ++
          notifications so.realpath .initArrayPost .initProcPost monitors) = _ :=
        ownEvents_eq_self (around_own fun _ => entryCalls_isConstructor)
      simp only [Except.map, Except.ok.injEq, own, List.append_cancel_left_eq]
      rw [array_phases_iff, entryCalls_found_iff ends]
      constructor
      · rintro ⟨silent, enough⟩
        refine ⟨fun _ => silent, fun unsupported => ?_, fun _ _ => enough⟩
        cases supported.symm.trans unsupported
      · intro covered
        exact ⟨covered.array present, covered.length supported present⟩
  · rw [if_neg present, if_neg present]
    refine iff_of_true rfl ⟨fun some => absurd some present, ?_, fun _ some => absurd some present⟩
    intro unsupported
    cases supported.symm.trans unsupported

/-- A pass over a library that is not constructed goes through the phases, for monitors
registered in any order, exactly under `Covered`. -/
theorem passesPhases_iff (linker : Linker arch) (new : linker.monitorList = [])
    (documented : Documented original) (so : Soinfo arch) (fresh : so.constructorsCalled = false)
    (registered : List (LibraryMonitor arch)) :
    PassesPhases original (linker.addAll registered).sdk (linker.addAll registered).monitorList so ↔
      Covered linker.sdk registered so := by
  obtain ⟨list, level⟩ := addAll_list linker registered
  rw [list, level, new, List.nil_append]
  cases supported : Soinfo.supportsSdk linker.sdk with
  | false => exact unsupported_iff documented fresh supported
  | true => exact supported_iff documented fresh supported

end Phases

/-- A device with Android 14, before any registration. -/
def android14 : Linker .aarch64 where
  sdk := 34
  hasDoDlopen := true
  hasCallConstructors := true

/-- A monitor for one kind of event of `libtest`. -/
def libtestMonitor (type : LinkerType) : LibraryMonitor .aarch64 :=
  ⟨"libtest.so", type, some { address := 0x5000 }, 0⟩

/-- Monitors for `DT_INIT`, one of them registered twice. -/
theorem passesPhases_iff_initProc :
    PassesPhases callConstructorsOnce
      (android14.addAll [libtestMonitor .initProcPost, libtestMonitor .initProc,
        libtestMonitor .initProc]).sdk
      (android14.addAll [libtestMonitor .initProcPost, libtestMonitor .initProc,
        libtestMonitor .initProc]).monitorList libtest := by
  refine (passesPhases_iff android14 rfl callConstructorsOnce_documented libtest rfl _).mpr
    ⟨fun _ => ⟨?_, ?_⟩, fun unsupported => absurd unsupported (by decide), ?_⟩
  · simp [Silent, libtestMonitor, listener, matchesPath]
  · simp [Silent, libtestMonitor, listener, matchesPath]
  · rintro - - functions -
    have four : toCInt libtest.initArrayCount = 4 := by decide
    rw [four]
    refine ⟨by omega, fun i above below => ?_⟩
    have length : libtest.initArrayCount.toNat = 4 := by decide
    omega

/-- A monitor for the array is told that `DT_INIT` has been called. -/
theorem array_monitor_misled :
    ¬ PassesPhases callConstructorsOnce
        (android14.addAll [libtestMonitor .initArray]).sdk
        (android14.addAll [libtestMonitor .initArray]).monitorList libtest := by
  intro passes
  have covered : Covered 34 [libtestMonitor .initArray] libtest :=
    (supported_iff callConstructorsOnce_documented rfl rfl).mp passes
  have silent := (covered.array (by decide)).1 (libtestMonitor .initArray) (.head _)
  have heard : (libtestMonitor .initArray).matchesPath .initArray libtest.realpath = true := by
    decide
  rw [listener, if_pos heard] at silent
  cases silent

end Linker

end QbdiTracer
