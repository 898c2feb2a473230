import QbdiTracer.Monitors
import QbdiTracer.Core.Dlopen
import QbdiTracer.Library.FlowRun
import Mathlib.Data.List.Basic

/-! What a pair of callbacks, one for `DLOPEN` and one for `DLOPEN_POST`, can tell about the
loads in progress, also where a library that is being loaded loads others. -/

namespace QbdiTracer

variable {arch : Arch}

/-- A client that keeps the paths it has heard the beginning of: `opened` and `closed` are its
two callbacks. A path can only be closed when it is the last one opened. -/
def observe (opened closed : Word arch) (open_ : List String) :
    DlopenEvent arch → Option (List String)
  | .notified callback path .dlopen _ _ =>
    some (if callback = opened then path :: open_ else open_)
  | .notified callback path .dlopenPost _ _ =>
    if callback = closed then
      match open_ with
      | [] => none
      | last :: outer => if last = path then some outer else none
    else some open_
  | _ => some open_

/-- What the client knows after these events. -/
def observeAll (opened closed : Word arch) (open_ : List String)
    (events : List (DlopenEvent arch)) : Option (List String) :=
  events.foldlM (observe opened closed) open_

namespace LibraryMonitor

variable {opened closed : Word arch} {path : String} {monitors : List (LibraryMonitor arch)}
  {soInfo : Word arch} {open_ outer : List String}

/-- The monitor calls this callback. -/
def calls (callback : Word arch) (type : LinkerType) (path : String)
    (monitor : LibraryMonitor arch) : Bool :=
  (monitor.listener type path).any fun listener => listener.address = callback

theorem observeAll_opens (open_ : List String) :
    observeAll opened closed open_ (notifyLoad path .dlopen soInfo monitors) =
      some (List.replicate (monitors.countP (calls opened .dlopen path)) path ++ open_) := by
  induction monitors generalizing open_ with
  | nil => rfl
  | cons monitor rest ih =>
    cases heard : monitor.listener .dlopen path with
    | none =>
      have silent : ¬ calls opened .dlopen path monitor = true := by simp [calls, heard]
      rw [notifyLoad, heard, List.countP_cons_of_neg silent]
      exact ih open_
    | some callback =>
      rw [notifyLoad, heard, observeAll, List.foldlM_cons]
      by_cases own : callback.address = opened
      · have told : calls opened .dlopen path monitor = true := by simp [calls, heard, own]
        have next := ih (path :: open_)
        rw [List.countP_cons_of_pos told, List.replicate_succ', List.append_assoc]
        simpa [observe, own, observeAll] using next
      · have silent : ¬ calls opened .dlopen path monitor = true := by simp [calls, heard, own]
        rw [List.countP_cons_of_neg silent]
        simpa [observe, own, observeAll] using ih open_

/-- The loop of the other type closes as many paths as it makes calls. -/
theorem observeAll_closes :
    observeAll opened closed
        (List.replicate (monitors.countP (calls closed .dlopenPost path)) path ++ outer)
        (notifyLoad path .dlopenPost soInfo monitors) = some outer := by
  induction monitors with
  | nil => rfl
  | cons monitor rest ih =>
    cases heard : monitor.listener .dlopenPost path with
    | none =>
      have silent : ¬ calls closed .dlopenPost path monitor = true := by simp [calls, heard]
      rw [notifyLoad, heard, List.countP_cons_of_neg silent]
      exact ih
    | some callback =>
      rw [notifyLoad, heard, observeAll, List.foldlM_cons]
      by_cases own : callback.address = closed
      · have told : calls closed .dlopenPost path monitor = true := by simp [calls, heard, own]
        rw [List.countP_cons_of_pos told, List.replicate_succ, List.cons_append]
        simpa [observe, own, observeAll] using ih
      · have silent : ¬ calls closed .dlopenPost path monitor = true := by simp [calls, heard, own]
        rw [List.countP_cons_of_neg silent]
        simpa [observe, own, observeAll] using ih

theorem length_observeAll_closes {left : List String}
    (closes : observeAll opened closed open_ (notifyLoad path .dlopenPost soInfo monitors) =
      some left) :
    left.length + monitors.countP (calls closed .dlopenPost path) = open_.length := by
  induction monitors generalizing open_ with
  | nil =>
    cases closes
    rfl
  | cons monitor rest ih =>
    cases heard : monitor.listener .dlopenPost path with
    | none =>
      have silent : ¬ calls closed .dlopenPost path monitor = true := by simp [calls, heard]
      rw [notifyLoad, heard] at closes
      rw [List.countP_cons_of_neg silent]
      exact ih closes
    | some callback =>
      rw [notifyLoad, heard, observeAll, List.foldlM_cons] at closes
      by_cases own : callback.address = closed
      · have told : calls closed .dlopenPost path monitor = true := by simp [calls, heard, own]
        rw [List.countP_cons_of_pos told]
        cases open_ with
        | nil => simp [observe, own] at closes
        | cons last outer =>
          by_cases same : last = path
          · simp only [observe, own, same, ↓reduceIte, Option.bind_eq_bind, Option.bind_some] at closes
            have rest := ih closes
            rw [List.length_cons]
            omega
          · simp [observe, own, same] at closes
      · have silent : ¬ calls closed .dlopenPost path monitor = true := by simp [calls, heard, own]
        simp only [observe, own, ↓reduceIte, Option.bind_eq_bind, Option.bind_some] at closes
        rw [List.countP_cons_of_neg silent]
        exact ih closes

end LibraryMonitor

namespace Linker

open LibraryMonitor

variable {linker : Linker arch} {opened closed : Word arch} {loads next last : Loads}
  {step : LoadStep arch} {steps : List (LoadStep arch)} {events : List (DlopenEvent arch)}

/-- How often a callback hears of one load of this path, by the loop for this type. -/
def timesTold (linker : Linker arch) (callback : Word arch) (type : LinkerType) (path : String) :
    ℕ :=
  if linker.dlHooked then linker.monitorList.countP (calls callback type path) else 0

/-- A load, as often as the callback has been told of it. -/
def toldOfLoad (linker : Linker arch) (opened : Word arch) : Option String → List String
  | none => []
  | some path => List.replicate (linker.timesTold opened .dlopen path) path

def toldOf (linker : Linker arch) (opened : Word arch) (loads : Loads) : List String :=
  loads.flatMap (linker.toldOfLoad opened)

theorem toldOf_cons (path : Option String) (outer : Loads) :
    linker.toldOf opened (path :: outer) =
      linker.toldOfLoad opened path ++ linker.toldOf opened outer :=
  List.flatMap_cons

theorem observeAll_beforeOriginal (closed : Word arch) (path : Option String)
    (open_ : List String) :
    observeAll opened closed open_ (linker.beforeOriginal path) =
      some (linker.toldOfLoad opened path ++ open_) := by
  cases path with
  | none => rfl
  | some path =>
    simp only [beforeOriginal, toldOfLoad, timesTold]
    cases linker.dlHooked with
    | false => rfl
    | true => exact observeAll_opens open_

theorem observeAll_afterOriginal {path : String} (getSoInfo : String → Word arch)
    (paired : linker.timesTold opened .dlopen path = linker.timesTold closed .dlopenPost path)
    (outer : List String) :
    observeAll opened closed (linker.toldOfLoad opened (some path) ++ outer)
      (linker.afterOriginal getSoInfo (some path)) = some outer := by
  rw [toldOfLoad, paired]
  simp only [afterOriginal, timesTold]
  cases linker.dlHooked with
  | false => rfl
  | true => exact observeAll_closes

/-- What one step does to the client's list. -/
theorem loadStep_observed
    (paired : ∀ path, linker.timesTold opened .dlopen path =
      linker.timesTold closed .dlopenPost path)
    (taken : linker.loadStep loads step = some (next, events)) :
    observeAll opened closed (linker.toldOf opened loads) events =
      some (linker.toldOf opened next) := by
  cases step with
  | call path =>
    cases taken
    rw [observeAll, List.foldlM_append, ← observeAll, observeAll_beforeOriginal, toldOf_cons]
    rfl
  | leave handle getSoInfo =>
    cases loads with
    | nil => cases taken
    | cons path outer =>
      cases taken
      rw [toldOf_cons]
      cases path with
      | none => rfl
      | some path => exact observeAll_afterOriginal getSoInfo (paired path) _
  | other number =>
    cases taken
    rfl

theorem runLoads_observed
    (paired : ∀ path, linker.timesTold opened .dlopen path =
      linker.timesTold closed .dlopenPost path)
    (ran : linker.runLoads loads steps = some (last, events)) :
    observeAll opened closed (linker.toldOf opened loads) events =
      some (linker.toldOf opened last) := by
  induction steps generalizing loads events with
  | nil =>
    cases ran
    rfl
  | cons step rest ih =>
    obtain ⟨⟨next, happened⟩, taken, rest⟩ := Option.bind_eq_some_iff.mp ran
    obtain ⟨⟨ended, later⟩, others, same⟩ := Option.bind_eq_some_iff.mp rest
    cases same
    rw [observeAll, List.foldlM_append, ← observeAll, loadStep_observed paired taken]
    exact ih others

/-- The client's list follows the loads in progress through every run exactly if each path that
one callback hears of when its load begins, the other hears of as often when it ends. -/
theorem loads_observed_iff (linker : Linker arch) (opened closed : Word arch) :
    (∀ steps last events, linker.runLoads [] steps = some (last, events) →
      observeAll opened closed [] events = some (linker.toldOf opened last)) ↔
    ∀ path, linker.timesTold opened .dlopen path = linker.timesTold closed .dlopenPost path := by
  constructor
  · intro follows path
    have once := follows [.call (some path), .leave 0 fun _ => 0] [] _ rfl
    rw [List.append_nil, observeAll, List.foldlM_append, List.foldlM_append, ← observeAll,
      observeAll_beforeOriginal, List.append_nil] at once
    have closes : observeAll opened closed (linker.toldOfLoad opened (some path))
        (linker.afterOriginal (fun _ => 0) (some path)) = some [] := once
    simp only [toldOfLoad, timesTold, afterOriginal] at closes ⊢
    cases hooked : linker.dlHooked with
    | false => rfl
    | true =>
      rw [hooked] at closes
      have balance := length_observeAll_closes closes
      simpa using balance.symm
  · intro paired steps last events ran
    exact runLoads_observed paired ran

section Registration

/-- A registration that asks for the hook on `do_dlopen`. -/
def asksForLoads (monitor : LibraryMonitor arch) : Bool :=
  monitor.type = .dlopen || monitor.type = .dlopenPost

/-- The device lets the hook be installed. -/
def canHookLoads (linker : Linker arch) : Bool :=
  !decide (linker.sdk < 29) && linker.hasDoDlopen

theorem initDlopenHook_hooked (linker : Linker arch) :
    linker.initDlopenHook.dlHooked = (linker.dlHooked || linker.canHookLoads) ∧
      linker.initDlopenHook.canHookLoads = linker.canHookLoads := by
  cases hooked : linker.dlHooked with
  | true => simp [initDlopenHook, canHookLoads, hooked]
  | false =>
    by_cases old : linker.sdk < 29
    · simp [initDlopenHook, canHookLoads, hooked, old]
    · cases symbol : linker.hasDoDlopen <;>
        simp [initDlopenHook, canHookLoads, hooked, old, symbol]

theorem initLinkerHook_hooked (linker : Linker arch) :
    linker.initLinkerHook.dlHooked = linker.dlHooked ∧
      linker.initLinkerHook.canHookLoads = linker.canHookLoads := by
  simp only [initLinkerHook]
  repeat' split
  all_goals exact ⟨rfl, rfl⟩

theorem addLibraryMonitor_hooked (linker : Linker arch) (monitor : LibraryMonitor arch) :
    (linker.addLibraryMonitor monitor).1.dlHooked =
        (linker.dlHooked || asksForLoads monitor && linker.canHookLoads) ∧
      (linker.addLibraryMonitor monitor).1.canHookLoads = linker.canHookLoads := by
  obtain ⟨name, type, callback, userData⟩ := monitor
  have others : linker.initLinkerHook.dlHooked = (linker.dlHooked || false && linker.canHookLoads) ∧
      linker.initLinkerHook.canHookLoads = linker.canHookLoads := by
    rw [Bool.false_and, Bool.or_false]
    exact initLinkerHook_hooked linker
  cases type with
  | dlopen => exact initDlopenHook_hooked linker
  | dlopenPost => exact initDlopenHook_hooked linker
  | initProc => exact others
  | initProcPost => exact others
  | initArray => exact others
  | initArrayPost => exact others

theorem addAll_hooked (linker : Linker arch) (monitors : List (LibraryMonitor arch)) :
    (linker.addAll monitors).dlHooked =
      (linker.dlHooked || monitors.any asksForLoads && linker.canHookLoads) := by
  induction monitors generalizing linker with
  | nil => simp [addAll]
  | cons monitor rest ih =>
    obtain ⟨hooked, can⟩ := addLibraryMonitor_hooked linker monitor
    have later := ih (linker.addLibraryMonitor monitor).1
    rw [hooked, can] at later
    rw [List.any_cons, Bool.and_or_distrib_right, ← Bool.or_assoc]
    exact later

/-- The only registration of this type with this callback. -/
def OnlyMonitor (callback : Word arch) (type : LinkerType) (name : String)
    (monitors : List (LibraryMonitor arch)) : Prop :=
  ∃ effect userData, monitors.filter (fun monitor => monitor.type = type &&
    monitor.callback.any fun listener => listener.address = callback) =
    [⟨name, type, some ⟨callback, effect⟩, userData⟩]

theorem OnlyMonitor.countP_calls {callback : Word arch} {type : LinkerType} {name : String}
    {monitors : List (LibraryMonitor arch)} (only : OnlyMonitor callback type name monitors)
    (named : name.isEmpty = false) (path : String) :
    monitors.countP (calls callback type path) =
      if strstr path.toList name.toList then 1 else 0 := by
  obtain ⟨effect, userData, filtered⟩ := only
  have within : calls callback type path = fun monitor : LibraryMonitor arch =>
      (calls callback type path monitor && (decide (monitor.type = type) &&
        monitor.callback.any fun listener => listener.address = callback)) := by
    funext monitor
    cases told : calls callback type path monitor with
    | false => rfl
    | true =>
      simp only [calls, listener, Option.any_eq_true] at told
      obtain ⟨listener, heard, own⟩ := told
      rw [Option.ite_none_right_eq_some] at heard
      have same := (matchesPath_iff.mp heard.1).1
      simp [same, heard.2, own]
  rw [within, ← List.countP_filter, filtered]
  cases inside : strstr path.toList name.toList <;>
    simp [calls, listener, matchesPath, named, inside]

/-- The paths in progress that contain the name. -/
def inProgress (name : String) (loads : Loads) : List String :=
  loads.filterMap fun path => path.filter fun path => strstr path.toList name.toList

theorem toldOf_only {name : String} (hooked : linker.dlHooked = true)
    (only : OnlyMonitor opened .dlopen name linker.monitorList) (named : name.isEmpty = false)
    (loads : Loads) : linker.toldOf opened loads = inProgress name loads := by
  induction loads with
  | nil => rfl
  | cons path outer ih =>
    rw [toldOf_cons, ih]
    cases path with
    | none => rfl
    | some path =>
      rw [toldOfLoad, timesTold, if_pos hooked, only.countP_calls named, inProgress,
        inProgress, List.filterMap_cons]
      cases inside : strstr path.toList name.toList with
      | true => simp [Option.filter, inside]
      | false => simp [Option.filter, inside]

/-- A client that registers one callback for `DLOPEN` and one for `DLOPEN_POST`, under the same
name, and nobody else with them: its list is the loads in progress with the name in the path. -/
theorem registered_pair_observes {name : String} {monitors : List (LibraryMonitor arch)}
    (fresh : linker.monitorList = []) (can : linker.canHookLoads = true)
    (named : name.isEmpty = false) (opens : OnlyMonitor opened .dlopen name monitors)
    (closes : OnlyMonitor closed .dlopenPost name monitors)
    (ran : (linker.addAll monitors).runLoads [] steps = some (last, events)) :
    observeAll opened closed [] events = some (inProgress name last) := by
  have kept : (linker.addAll monitors).monitorList = monitors := by
    rw [(addAll_list linker monitors).1, fresh, List.nil_append]
  have hooked : (linker.addAll monitors).dlHooked = true := by
    obtain ⟨effect, userData, filtered⟩ := opens
    have member : _ ∈ monitors.filter _ := filtered ▸ List.mem_singleton_self _
    have asks : monitors.any asksForLoads = true :=
      List.any_eq_true.mpr ⟨_, List.mem_of_mem_filter member, rfl⟩
    rw [addAll_hooked, asks, can, Bool.true_and, Bool.or_true]
  rw [← kept] at opens closes
  have paired : ∀ path, (linker.addAll monitors).timesTold opened .dlopen path =
      (linker.addAll monitors).timesTold closed .dlopenPost path := by
    intro path
    rw [timesTold, timesTold, opens.countP_calls named, closes.countP_calls named]
  have observed := runLoads_observed paired ran
  rw [toldOf_only hooked opens named, toldOf_only hooked opens named] at observed
  exact observed

def api33 : Linker .aarch64 := { sdk := 33, hasDoDlopen := true, hasCallConstructors := true }

def libzMonitors : List (LibraryMonitor .aarch64) :=
  [⟨"libz.so", .dlopen, some ⟨0x10, id⟩, 0⟩, ⟨"libz.so", .dlopenPost, some ⟨0x20, id⟩, 0⟩]

/-- A load of `libz.so` from the constructor of another library. -/
theorem registered_pair_observes_nested :
    ∃ last events, (api33.addAll libzMonitors).runLoads []
        [.call (some "/data/libapp.so"), .call (some "/system/libz.so"), .other 1] =
          some (last, events) ∧
      observeAll 0x10 0x20 [] events = some (inProgress "libz.so" last) := by
  have opens : OnlyMonitor 0x10 .dlopen "libz.so" libzMonitors := ⟨id, 0, rfl⟩
  have closes : OnlyMonitor 0x20 .dlopenPost "libz.so" libzMonitors := ⟨id, 0, rfl⟩
  have ran : (api33.addAll libzMonitors).runLoads []
      [.call (some "/data/libapp.so"), .call (some "/system/libz.so"), .other 1] =
        some (_, _) := rfl
  exact ⟨_, _, ran, registered_pair_observes rfl rfl (by decide) opens closes ran⟩

end Registration

end Linker

end QbdiTracer
