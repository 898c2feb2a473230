import QbdiTracer.Core.Linker
import Mathlib.Data.List.Basic

/-! The constructors that run under the hook on `call_constructors`, compared with the
linker's own function: the hook hides them from it, calls them and puts them back. -/

namespace QbdiTracer

variable {arch : Arch}

namespace LinkerEvent

/-- A constructor of the library itself is called. -/
def isConstructor : LinkerEvent arch → Bool
  | .initCalled _ => true
  | .entryCalled _ => true
  | _ => false

def isNotified : LinkerEvent arch → Bool
  | .notified _ _ _ _ => true
  | _ => false

def isDependency : LinkerEvent arch → Bool
  | .dependency _ => true
  | _ => false

end LinkerEvent

namespace Linker

/-- The calls for the first entries of an array. -/
def entryCalls (functions : Option (ℤ → Word arch)) (count : ℕ) : List (LinkerEvent arch) :=
  match functions with
  | none => []
  | some functions => (List.range count).flatMap fun i : ℕ => callFunction (functions i)

theorem callArrayLoop_ends {functions : ℤ → Word arch} {stop i : ℤ} (below : i ≤ stop)
    (lower : 0 ≤ i) (upper : stop < 2 ^ 31) :
    callArrayLoop functions stop false i =
      .ok ((List.range (stop - i).toNat).flatMap fun k : ℕ => callFunction (functions (i + k))) := by
  -- induction on the rounds that are left
  generalize rounds : (stop - i).toNat = left
  induction left generalizing i with
  | zero =>
    have last : i = stop := by omega
    rw [callArrayLoop, if_pos last]
    rfl
  | succ left ih =>
    have goes : i ≠ stop := by omega
    have inRange : -2 ^ 31 ≤ nextIndex false i ∧ nextIndex false i < 2 ^ 31 := by
      simp only [nextIndex, Bool.false_eq_true, ↓reduceIte]
      omega
    rw [callArrayLoop, if_neg goes, if_pos inRange]
    simp only [nextIndex, Bool.false_eq_true, ↓reduceIte]
    rw [ih (by omega) (by omega) (by omega), List.range_succ_eq_map]
    simp only [Except.map, List.flatMap_cons, List.flatMap_map, Int.natCast_zero, Int.add_zero,
      Nat.succ_eq_add_one, Int.natCast_add, Int.natCast_one, Int.add_assoc, Int.add_comm 1]

/-- A bound that is already behind the counter is never met. -/
theorem callArrayLoop_overflows {functions : ℤ → Word arch} {stop i : ℤ} (behind : stop < i)
    (lower : 0 ≤ i) : callArrayLoop functions stop false i = .error .intOverflow := by
  generalize rounds : (2 ^ 31 - i).toNat = left
  induction left generalizing i with
  | zero =>
    have outside : ¬ (-2 ^ 31 ≤ nextIndex false i ∧ nextIndex false i < 2 ^ 31) := by
      simp only [nextIndex, Bool.false_eq_true, ↓reduceIte]
      omega
    rw [callArrayLoop, if_neg (by omega), if_neg outside]
  | succ left ih =>
    rw [callArrayLoop, if_neg (by omega)]
    split
    · simp only [nextIndex, Bool.false_eq_true, ↓reduceIte]
      rw [ih (by omega) (by omega) (by omega)]
      rfl
    · rfl

theorem toCInt_lt (count : Word arch) : toCInt count < 2 ^ 31 := by
  have bound := BitVec.toInt_lt (x := count.setWidth 32)
  exact bound

theorem toCInt_of_lt {count : Word arch} (short : count.toNat < 2 ^ 31) :
    toCInt count = count.toNat := by
  rw [toCInt, BitVec.toInt_eq_toNat_of_lt]
  · rw [BitVec.toNat_setWidth, Nat.mod_eq_of_lt (by omega)]
  · rw [BitVec.toNat_setWidth, Nat.mod_eq_of_lt (by omega)]
    omega

/-- `call_array` calls as many entries as the count says when read as an `int`, and does
not come to an end if that is negative. -/
theorem callArray_eq (functions : Option (ℤ → Word arch)) (count : Word arch) :
    callArray functions count false =
      if functions.isSome && decide (toCInt count < 0) then .error .intOverflow
      else .ok (entryCalls functions (toCInt count).toNat) := by
  cases functions with
  | none => rfl
  | some functions =>
    simp only [callArray, Bool.false_eq_true, ↓reduceIte, Option.isSome_some, Bool.true_and,
      decide_eq_true_eq]
    split
    · rename_i negative
      exact callArrayLoop_overflows negative (Int.le_refl 0)
    · rename_i nonnegative
      rw [callArrayLoop_ends (Int.not_lt.mp nonnegative) (Int.le_refl 0) (toCInt_lt count)]
      simp [entryCalls]

end Linker

/-- `strstr` finds the name wherever it stands in the path. -/
theorem strstr_iff {path name : List Char} : strstr path name = true ↔ name <:+: path := by
  induction path with
  | nil => simp [strstr]
  | cons first rest ih =>
    rw [strstr, Bool.or_eq_true, ih, List.isPrefixOf_iff_prefix, List.infix_cons_iff]

namespace LibraryMonitor

variable {monitors : List (LibraryMonitor arch)} {path : String} {type told : LinkerType}

theorem matchesPath_iff {monitor : LibraryMonitor arch} :
    monitor.matchesPath type path = true ↔ monitor.type = type ∧ monitor.libraryName ≠ "" ∧
      monitor.libraryName.toList <:+: path.toList := by
  simp [matchesPath, strstr_iff, and_assoc]

/-- A monitor is called if it waits for the event, its name is not empty and stands in the
path, and its callback is not null. -/
theorem listener_eq_some_iff {monitor : LibraryMonitor arch} {callback : LinkerCallback arch} :
    monitor.listener type path = some callback ↔
      (monitor.type = type ∧ monitor.libraryName ≠ "" ∧
        monitor.libraryName.toList <:+: path.toList) ∧ monitor.callback = some callback := by
  rw [listener, Option.ite_none_right_eq_some, matchesPath_iff]

/-- What a loop over `monitor_list` tells the callbacks. -/
def notifications (path : String) (type told : LinkerType)
    (monitors : List (LibraryMonitor arch)) : List (LinkerEvent arch) :=
  monitors.filterMap fun monitor =>
    (monitor.listener type path).map fun callback =>
      .notified callback.address path told monitor.userData

/-- The callback leaves the `soinfo` alone. -/
def Harmless (monitor : LibraryMonitor arch) : Prop :=
  ∀ callback ∈ monitor.callback, ∀ so, callback.effect so = so

theorem notifyAll_events (so : Soinfo arch) :
    (notifyAll path type told monitors so).2 = notifications path type told monitors := by
  induction monitors generalizing so with
  | nil => rfl
  | cons monitor rest ih =>
    simp only [notifyAll, notifications, List.filterMap_cons]
    cases monitor.listener type path with
    | none => exact ih so
    | some callback => exact congrArg (_ :: ·) (ih (callback.effect so))

theorem notifyAll_harmless (harmless : ∀ monitor ∈ monitors, monitor.Harmless)
    (so : Soinfo arch) : (notifyAll path type told monitors so).1 = so := by
  induction monitors generalizing so with
  | nil => rfl
  | cons monitor rest ih =>
    have others := ih fun other member => harmless other (.tail _ member)
    simp only [notifyAll]
    cases present : monitor.listener type path with
    | none => exact others so
    | some callback =>
      have own : callback ∈ monitor.callback := (listener_eq_some_iff.mp present).2
      simp only [harmless monitor (.head _) callback own]
      exact others so

theorem notifications_isNotified {event : LinkerEvent arch}
    (member : event ∈ notifications path type told monitors) : event.isNotified = true := by
  obtain ⟨monitor, -, told⟩ := List.mem_filterMap.mp member
  obtain ⟨callback, -, rfl⟩ := Option.map_eq_some_iff.mp told
  rfl

/-- No callback is a constructor. -/
theorem filter_isConstructor_notifications :
    (notifications path type told monitors).filter LinkerEvent.isConstructor = [] := by
  apply List.filter_eq_nil_iff.mpr
  intro event member
  have notified := notifications_isNotified member
  cases event <;> simp_all [LinkerEvent.isNotified, LinkerEvent.isConstructor]

end LibraryMonitor

namespace Linker

theorem callFunctionT_zero : callFunctionT (0 : Word arch) = [] := by
  simp [callFunctionT, isCallable]

theorem entryCalls_zero (functions : Option (ℤ → Word arch)) : entryCalls functions 0 = [] := by
  cases functions <;> rfl

theorem callFunctionT_isConstructor {function : Word arch} {event : LinkerEvent arch}
    (member : event ∈ callFunctionT function) : event.isConstructor = true := by
  simp only [callFunctionT] at member
  split at member
  · cases List.mem_singleton.mp member
    rfl
  · cases member

theorem entryCalls_isConstructor {functions : Option (ℤ → Word arch)} {count : ℕ}
    {event : LinkerEvent arch} (member : event ∈ entryCalls functions count) :
    event.isConstructor = true := by
  cases functions with
  | none => cases member
  | some functions =>
    obtain ⟨i, -, called⟩ := List.mem_flatMap.mp member
    simp only [callFunction] at called
    split at called
    · cases List.mem_singleton.mp called
      rfl
    · cases called

/-- What the linker's `call_constructors` does: nothing for a library that is already
constructed, else it sets the flag, sees to the dependencies and calls `DT_INIT` and the
entries of the array. -/
structure Documented (original : CallConstructors arch) : Prop where
  skips : ∀ so, so.constructorsCalled = true → original so = (so, [])
  constructs : ∀ so, so.constructorsCalled = false → ∃ dependencies : List (LinkerEvent arch),
    (∀ event ∈ dependencies, event.isDependency = true) ∧
      original so = ({ so with constructorsCalled := true },
        dependencies ++ callFunctionT so.initFunc ++
          entryCalls so.initArray so.initArrayCount.toNat)

/-- The constructors that are called. -/
def constructorCalls (events : List (LinkerEvent arch)) : List (LinkerEvent arch) :=
  events.filter LinkerEvent.isConstructor

section Hook

open LibraryMonitor

variable {original : CallConstructors arch} {sdk : ℤ} {monitors : List (LibraryMonitor arch)}
  {so : Soinfo arch} {path : String}

/-- On a level without a layout the hook is a plain call. -/
theorem hookCallConstructors_unsupported (unsupported : Soinfo.supportsSdk sdk = false) :
    hookCallConstructors original sdk monitors so = .ok (original so) := by
  simp [hookCallConstructors, Soinfo.isCtorCalled, Soinfo.getField, unsupported,
    Soinfo.getInitArrayCount, Soinfo.getInitProc, Soinfo.setInitArrayCount, Soinfo.setInitProc,
    Soinfo.setField, runInitProc, runInitArray, bind, Except.bind, pure, Except.pure]

theorem hookCallConstructors_constructed (supported : Soinfo.supportsSdk sdk = true)
    (constructed : so.constructorsCalled = true) :
    hookCallConstructors original sdk monitors so = .ok (original so) := by
  simp [hookCallConstructors, Soinfo.isCtorCalled, Soinfo.getField, supported, constructed]

/-- The events of the hook around a `DT_INIT` function. -/
def initProcEvents (path : String) (monitors : List (LibraryMonitor arch)) (proc : Word arch) :
    List (LinkerEvent arch) :=
  if proc ≠ 0 then
    notifications path .initProc .initProc monitors ++ callFunctionT proc ++
      notifications path .initProcPost .initProcPost monitors
  else []

theorem runInitProc_events (proc : Word arch) :
    (runInitProc sdk monitors path proc so).2 = initProcEvents path monitors proc := by
  simp only [runInitProc, initProcEvents]
  split
  · simp only [notifyAll_events]
  · rfl

theorem runInitProc_harmless (harmless : ∀ monitor ∈ monitors, monitor.Harmless)
    (proc : Word arch) :
    (runInitProc sdk monitors path proc so).1 = so.setInitProc sdk proc := by
  simp only [runInitProc]
  split
  · simp only [notifyAll_harmless harmless]
  · rfl

/-- The `soinfo` when the array is read: the callbacks for `INIT_ARRAY` have been called. -/
def atArray (path : String) (monitors : List (LibraryMonitor arch)) (so : Soinfo arch) :
    Soinfo arch :=
  (notifyAll path .initArray .initProcPost monitors so).1

theorem runInitArray_events (supported : Soinfo.supportsSdk sdk = true) (count : Word arch) :
    (runInitArray sdk monitors path count so).map Prod.snd =
      if 0 < count then
        (callArray (atArray path monitors so).initArray count false).map fun called =>
          notifications path .initArray .initProcPost monitors ++ called ++
            notifications path .initArrayPost .initProcPost monitors
      else .ok [] := by
  have array : (notifyAll path .initArray .initProcPost monitors so).1.getInitArray sdk =
      (atArray path monitors so).initArray := by
    simp [atArray, Soinfo.getInitArray, Soinfo.getField, supported]
  simp only [runInitArray]
  split
  · simp only [array, notifyAll_events]
    cases callArray (atArray path monitors so).initArray count false <;> rfl
  · rfl

theorem runInitArray_harmless (supported : Soinfo.supportsSdk sdk = true)
    (harmless : ∀ monitor ∈ monitors, monitor.Harmless) (count : Word arch)
    (short : count.toNat < 2 ^ 31) :
    ∃ events, runInitArray sdk monitors path count so = .ok (so, events) ∧
      constructorCalls events = entryCalls so.initArray count.toNat := by
  have called : callArray so.initArray count false =
      .ok (entryCalls so.initArray count.toNat) := by
    rw [callArray_eq, toCInt_of_lt short, if_neg (by simp)]
    rfl
  have array : so.getInitArray sdk = so.initArray := by
    simp [Soinfo.getInitArray, Soinfo.getField, supported]
  simp only [runInitArray]
  split
  · refine ⟨notifications path .initArray .initProcPost monitors ++
      entryCalls so.initArray count.toNat ++
      notifications path .initArrayPost .initProcPost monitors, ?_, ?_⟩
    · simp only [notifyAll_harmless harmless, notifyAll_events, array, called]
      rfl
    · simp only [constructorCalls, List.filter_append, filter_isConstructor_notifications,
        List.nil_append, List.append_nil]
      exact List.filter_eq_self.mpr fun event => entryCalls_isConstructor
  · rename_i empty
    have zero : count.toNat = 0 := by
      have bound := BitVec.le_def.mp (BitVec.not_lt.mp empty)
      simpa using bound
    refine ⟨[], rfl, ?_⟩
    rw [zero, entryCalls_zero]
    rfl

/-- The `soinfo` that the linker's function is given, and leaves. -/
def constructedHidden (so : Soinfo arch) : Soinfo arch :=
  { so with initArrayCount := 0, initFunc := 0, constructorsCalled := true }

/-- The hook on a library that is not constructed: the linker's function sees to the
dependencies only. -/
theorem hookCallConstructors_eq (monitors : List (LibraryMonitor arch))
    (documented : Documented original) (supported : Soinfo.supportsSdk sdk = true)
    (fresh : so.constructorsCalled = false) :
    ∃ dependencies : List (LinkerEvent arch),
      (∀ event ∈ dependencies, event.isDependency = true) ∧
        hookCallConstructors original sdk monitors so = do
          let proc := runInitProc sdk monitors so.realpath so.initFunc (constructedHidden so)
          let array ← runInitArray sdk monitors so.realpath so.initArrayCount proc.1
          return (array.1.setInitArrayCount sdk so.initArrayCount,
            dependencies ++ proc.2 ++ array.2) := by
  obtain ⟨dependencies, only, constructs⟩ :=
    documented.constructs { so with initArrayCount := 0, initFunc := 0 } fresh
  refine ⟨dependencies, only, ?_⟩
  have zero : (0 : Word arch).toNat = 0 := by simp
  simp only [callFunctionT_zero, zero, entryCalls_zero, List.append_nil] at constructs
  have called : so.isCtorCalled sdk = false := by
    simp only [Soinfo.isCtorCalled, Soinfo.getField, supported, ↓reduceIte, fresh]
  simp only [hookCallConstructors, called, Soinfo.getInitArrayCount, Soinfo.getInitProc,
    Soinfo.getField, Soinfo.setInitArrayCount, Soinfo.setInitProc, Soinfo.setField, supported,
    ↓reduceIte, Bool.false_eq_true, constructs]
  rfl

/-- The hook and the linker's own function come to the same: the library is left alike,
and the same constructors have been called. -/
structure Transparent (original : CallConstructors arch) (sdk : ℤ)
    (monitors : List (LibraryMonitor arch)) (so after : Soinfo arch)
    (events : List (LinkerEvent arch)) : Prop where
  returns : hookCallConstructors original sdk monitors so = .ok (after, events)
  soinfo : after = (original so).1
  calls : constructorCalls events = constructorCalls (original so).2
  initFunc : after.initFunc = so.initFunc
  initArrayCount : after.initArrayCount = so.initArrayCount
  skips : so.constructorsCalled = true → constructorCalls events = []
  constructs : so.constructorsCalled = false → constructorCalls events =
    callFunctionT so.initFunc ++ entryCalls so.initArray so.initArrayCount.toNat

theorem Documented.initFields (documented : Documented original) (so : Soinfo arch) :
    (original so).1.initFunc = so.initFunc ∧
      (original so).1.initArrayCount = so.initArrayCount := by
  cases constructed : so.constructorsCalled with
  | true =>
    rw [documented.skips so constructed]
    exact ⟨rfl, rfl⟩
  | false =>
    obtain ⟨dependencies, -, constructs⟩ := documented.constructs so constructed
    rw [constructs]
    exact ⟨rfl, rfl⟩

theorem filter_isConstructor_dependencies {dependencies : List (LinkerEvent arch)}
    (only : ∀ event ∈ dependencies, event.isDependency = true) :
    dependencies.filter LinkerEvent.isConstructor = [] := by
  apply List.filter_eq_nil_iff.mpr
  intro event member
  have dependency := only event member
  cases event <;> simp_all [LinkerEvent.isDependency, LinkerEvent.isConstructor]

/-- The constructors that the linker's function calls. -/
theorem Documented.calls (documented : Documented original)
    (fresh : so.constructorsCalled = false) :
    constructorCalls (original so).2 =
      callFunctionT so.initFunc ++ entryCalls so.initArray so.initArrayCount.toNat := by
  obtain ⟨dependencies, only, constructs⟩ := documented.constructs so fresh
  rw [constructs]
  simp only [constructorCalls, List.filter_append, filter_isConstructor_dependencies only,
    List.nil_append]
  congr 1
  · exact List.filter_eq_self.mpr fun event => callFunctionT_isConstructor
  · exact List.filter_eq_self.mpr fun event => entryCalls_isConstructor

theorem constructorCalls_initProcEvents (path : String) (monitors : List (LibraryMonitor arch))
    (proc : Word arch) :
    constructorCalls (initProcEvents path monitors proc) = callFunctionT proc := by
  simp only [initProcEvents]
  split
  · simp only [constructorCalls, List.filter_append, filter_isConstructor_notifications,
      List.nil_append, List.append_nil]
    exact List.filter_eq_self.mpr fun event => callFunctionT_isConstructor
  · rename_i absent
    rw [not_not.mp absent, callFunctionT_zero]
    rfl

/-- A hook that comes down to a plain call is transparent. -/
theorem transparent_of_plain (documented : Documented original)
    (plain : hookCallConstructors original sdk monitors so = .ok (original so)) :
    Transparent original sdk monitors so (original so).1 (original so).2 := by
  refine ⟨plain, rfl, rfl, (documented.initFields so).1, (documented.initFields so).2, ?_,
    documented.calls⟩
  intro constructed
  rw [documented.skips so constructed]
  rfl

theorem transparent_of_fresh (documented : Documented original)
    (harmless : ∀ monitor ∈ monitors, monitor.Harmless)
    (short : so.initArrayCount.toNat < 2 ^ 31) (supported : Soinfo.supportsSdk sdk = true)
    (fresh : so.constructorsCalled = false) :
    ∃ events, Transparent original sdk monitors so (original so).1 events := by
  obtain ⟨dependencies, only, hooked⟩ :=
    hookCallConstructors_eq monitors documented supported fresh
  -- the `soinfo` as the array finds it, once `DT_INIT` is back in its place
  let shown : Soinfo arch := { so with initArrayCount := 0, constructorsCalled := true }
  have back : (constructedHidden so).setInitProc sdk so.initFunc = shown := by
    simp only [Soinfo.setInitProc, Soinfo.setField, supported, ↓reduceIte]
    rfl
  obtain ⟨array, ran, entries⟩ :
      ∃ events, runInitArray sdk monitors so.realpath so.initArrayCount shown = .ok (shown, events) ∧
        constructorCalls events = entryCalls so.initArray so.initArrayCount.toNat :=
    runInitArray_harmless supported harmless so.initArrayCount short
  have left : shown.setInitArrayCount sdk so.initArrayCount = (original so).1 := by
    obtain ⟨others, -, constructs⟩ := documented.constructs so fresh
    simp only [constructs, Soinfo.setInitArrayCount, Soinfo.setField, supported, ↓reduceIte]
    rfl
  have calls : constructorCalls
      (dependencies ++ initProcEvents so.realpath monitors so.initFunc ++ array) =
        callFunctionT so.initFunc ++ entryCalls so.initArray so.initArrayCount.toNat := by
    rw [← entries, ← constructorCalls_initProcEvents so.realpath monitors]
    simp only [constructorCalls, List.filter_append, filter_isConstructor_dependencies only,
      List.nil_append]
  refine ⟨dependencies ++ initProcEvents so.realpath monitors so.initFunc ++ array, ?_, rfl,
    calls.trans (documented.calls fresh).symm, (documented.initFields so).1,
    (documented.initFields so).2, ?_, fun _ => calls⟩
  · rw [hooked]
    simp only [runInitProc_events, runInitProc_harmless harmless, back, ran]
    rw [← left]
    rfl
  · intro constructed
    cases constructed.symm.trans fresh

/-- On every API level, whatever the monitors, the hook is transparent. -/
theorem hookCallConstructors_transparent (documented : Documented original)
    (harmless : ∀ monitor ∈ monitors, monitor.Harmless)
    (short : so.initArrayCount.toNat < 2 ^ 31) :
    ∃ after events, Transparent original sdk monitors so after events := by
  cases supported : Soinfo.supportsSdk sdk with
  | false =>
    exact ⟨_, _, transparent_of_plain documented (hookCallConstructors_unsupported supported)⟩
  | true =>
    cases constructed : so.constructorsCalled with
    | true =>
      exact ⟨_, _, transparent_of_plain documented
        (hookCallConstructors_constructed supported constructed)⟩
    | false => exact ⟨_, transparent_of_fresh documented harmless short supported constructed⟩

end Hook

/-- The linker's function for a library with one dependency. -/
def callConstructorsOnce : CallConstructors arch := fun so =>
  if so.constructorsCalled then (so, [])
  else ({ so with constructorsCalled := true },
    [.dependency 0] ++ callFunctionT so.initFunc ++
      entryCalls so.initArray so.initArrayCount.toNat)

theorem callConstructorsOnce_documented : Documented (callConstructorsOnce : CallConstructors arch) where
  skips := by
    intro so constructed
    simp only [callConstructorsOnce, constructed, ↓reduceIte]
  constructs := by
    intro so fresh
    refine ⟨[.dependency 0], by simp [LinkerEvent.isDependency], ?_⟩
    simp only [callConstructorsOnce, fresh, Bool.false_eq_true, ↓reduceIte]

/-- A library with a `DT_INIT` function and an array with two functions in it. -/
def libtest : Soinfo .aarch64 where
  realpath := "/data/app/libtest.so"
  initFunc := 0x1000
  initArray := some fun i => if i = 0 then 0x2000 else if i = 3 then 0x3000 else -1
  initArrayCount := 4

/-- One monitor for the array of `libtest`, on Android 14. -/
theorem hookCallConstructors_transparent_libtest :
    ∃ after events, Transparent callConstructorsOnce 34
      [⟨"libtest.so", .initArrayPost, some { address := 0x5000 }, 0⟩] libtest after events := by
  refine hookCallConstructors_transparent callConstructorsOnce_documented ?_ (by decide)
  intro monitor member
  cases List.mem_singleton.mp member
  rintro callback ⟨⟩ so
  rfl

end Linker

end QbdiTracer
