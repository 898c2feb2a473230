import QbdiTracer.Library.EventLog
import QbdiTracer.WindowOrder

/-! The argument and return passes of the window: when every call belongs to the
record of its own instruction, the two passes come in pairs. -/

namespace QbdiTracer

open Consecutive EventLog

variable {arch : Arch}

/-- The control events of a recorded instruction whose predecessor kept the call
of its own instruction. -/
def stepEvents (last : Option (Observation arch)) (seen : Observation arch) : List (Event arch) :=
  let prev := last.map Observation.slot
  seen.slot.argsEvents seen.seq ++ finishEvents seen prev ++ ownEvents seen prev

def eventsOf (recorded : List (Observation arch)) : List (Event arch) :=
  outputs stepEvents none recorded

theorem eventsOf_concat (recorded : List (Observation arch)) (seen : Observation arch) :
    eventsOf (recorded ++ [seen]) = eventsOf recorded ++ stepEvents recorded.getLast? seen := by
  simp [eventsOf, outputs_concat]

/-- Every svc outside the record filter finds the latest record with a call. -/
def SvcSafe (stream : List (Observation arch)) : Prop :=
  ∀ before seen after, stream = before ++ seen :: after → seen.recorded = false → seen.svc = true →
    ∀ last ∈ (recordedOf before).getLast?, last.attaches = true

theorem SvcSafe.left {first second : List (Observation arch)} (safe : SvcSafe (first ++ second)) :
    SvcSafe first := by
  intro before seen after whole
  exact safe before seen (after ++ second) (by simp [whole])

/-- A record that already has a call keeps it. -/
theorem attachSvc_slot {seen : Observation arch} (attaches : seen.attaches = true)
    (site : Word arch) : Window.attachSvc site seen.slot = seen.slot := by
  simp [Window.attachSvc, Observation.slot, attaches]

/-- The window holds the latest record as its instruction left it, and has made
the calls of the recorded instructions. -/
structure Window.Exact (recorded : List (Observation arch)) (window : Window arch) : Prop where
  current : window.cur = recorded.getLast?.map Observation.slot
  events : window.log = eventsOf recorded

theorem Window.observe_exact {history : List (Observation arch)} {window : Window arch}
    {seen : Observation arch} (safe : SvcSafe (history ++ [seen]))
    (exactly : Exact (recordedOf history) window) :
    Exact (recordedOf (history ++ [seen])) (window.observe seen) := by
  rw [recordedOf_concat]
  cases recorded : seen.recorded with
  | true =>
    constructor
    · simp [observe, recorded]
    · simp [observe, recorded, eventsOf_concat, exactly.events, exactly.current, stepEvents]
  | false =>
    cases fires : seen.svc with
    | false => simpa [observe, recorded, fires] using exactly
    | true =>
      have carries := safe history seen [] rfl recorded fires
      constructor
      · cases ending : (recordedOf history).getLast? with
        | none => simp [observe, recorded, fires, exactly.current, ending]
        | some last =>
          simp [observe, recorded, fires, exactly.current, ending, attachSvc_slot (carries last ending)]
      · simpa [observe, recorded, fires] using exactly.events

theorem Window.observeAll_exact {stream : List (Observation arch)} (safe : SvcSafe stream) :
    Exact (recordedOf stream) (({} : Window arch).observeAll stream) := by
  refine observeAll_history (fun history window => SvcSafe history →
    Exact (recordedOf history) window) ?_ (fun _ => ⟨rfl, rfl⟩) stream safe
  intro history window seen exactly whole
  exact observe_exact whole (exactly whole.left)

/-- The return event of a recorded instruction's predecessor. -/
def returnOf (prev seen : Observation arch) : Event arch :=
  .ret prev.seq seen.seq prev.path seen.value

theorem stepEvents_none (seen : Observation arch) :
    stepEvents none seen = seen.slot.argsEvents seen.seq ++
      if seen.attaches then [] else [.written seen.seq seen.seq] := by
  simp [stepEvents, finishEvents, ownEvents]

/-- Arguments first, then the return of the predecessor, then lines. -/
theorem stepEvents_some (prev seen : Observation arch) :
    ∃ lines : List (Event arch), (∀ event ∈ lines, ∃ record, event = .written record seen.seq) ∧
      stepEvents (some prev) seen = seen.slot.argsEvents seen.seq ++
        ((if prev.attaches then [returnOf prev seen] else []) ++ lines) := by
  have writesLines : ∀ (slot : Slot arch) (site : Word arch), ∀ event ∈ slot.writes site seen.seq,
      ∃ record, event = .written record seen.seq := by
    intro slot site event member
    simp only [Slot.writes] at member
    split at member
    · exact ⟨slot.seq, by simpa using member⟩
    · cases member
  refine ⟨(if prev.attaches then prev.slot.writes prev.pc seen.seq ++
    seen.slot.writes prev.pc seen.seq else []) ++ ownEvents seen (some prev.slot), ?_, ?_⟩
  · intro event member
    rcases List.mem_append.mp member with finishing | own
    · split at finishing
      · rcases List.mem_append.mp finishing with first | second
        · exact writesLines _ _ event first
        · exact writesLines _ _ event second
      · cases finishing
    · simp only [ownEvents, Option.map_some, Option.getD_some] at own
      split at own
      · cases own
      · rcases List.mem_append.mp own with first | second
        · exact writesLines _ _ event first
        · exact ⟨seen.seq, by simpa using second⟩
  · cases attaches : prev.attaches <;>
      simp [stepEvents, finishEvents, Observation.slot, attaches, returnOf]

def Event.isArgsOf (record : Nat) : Event arch → Bool
  | .args other _ _ => other == record
  | _ => false

/-- Every return follows exactly one argument pass of its record, made in the
POST callback of the record's own instruction and by the same path. -/
def Paired (log : List (Event arch)) : Prop :=
  Always (fun before event => ∀ record now path value, event = .ret record now path value →
    before.filter (·.isArgsOf record) = [.args record record path]) log

theorem filter_argsEvents (record now : Nat) (seen : Observation arch) :
    (seen.slot.argsEvents now).filter (·.isArgsOf record) =
      if seen.attaches && seen.seq == record then [.args seen.seq now seen.path] else [] := by
  cases attaches : seen.attaches <;> by_cases same : seen.seq = record <;>
    simp [Slot.argsEvents, Observation.slot, attaches, Event.isArgsOf, same]

theorem filter_stepEvents (record : Nat) (last : Option (Observation arch))
    (seen : Observation arch) :
    (stepEvents last seen).filter (·.isArgsOf record) =
      if seen.attaches && seen.seq == record then [.args seen.seq seen.seq seen.path] else [] := by
  cases last with
  | none =>
    rw [stepEvents_none, List.filter_append, filter_argsEvents]
    cases seen.attaches <;> simp [Event.isArgsOf]
  | some prev =>
    obtain ⟨lines, onlyLines, whole⟩ := stepEvents_some prev seen
    have silent : lines.filter (·.isArgsOf record) = [] := by
      rw [List.filter_eq_nil_iff]
      intro event member
      obtain ⟨other, rfl⟩ := onlyLines event member
      simp [Event.isArgsOf]
    rw [whole, List.filter_append, filter_argsEvents, List.filter_append, silent]
    cases prev.attaches <;> simp [returnOf, Event.isArgsOf]

/-- The argument passes of a record are those of the instruction it belongs to. -/
theorem filter_eventsOf (record : Nat) (recorded : List (Observation arch)) :
    (eventsOf recorded).filter (·.isArgsOf record) =
      (recorded.filter fun seen => seen.attaches && seen.seq == record).map
        fun seen => .args seen.seq seen.seq seen.path := by
  induction recorded using List.reverseRecOn with
  | nil => rfl
  | append_singleton recorded seen ih =>
    rw [eventsOf_concat, List.filter_append, ih, filter_stepEvents]
    cases chosen : seen.attaches && seen.seq == record <;> simp [List.filter_append, chosen]

/-- A property of the returns, if the event is one. -/
def Event.returnHas (good : Nat → Nat → CallPath → Word arch → Prop) : Event arch → Prop
  | .ret record now path value => good record now path value
  | _ => True

/-- The argument pass makes no return. -/
theorem Slot.argsEvents_returnHas (good : Nat → Nat → CallPath → Word arch → Prop)
    (slot : Slot arch) (now : Nat) : ∀ event ∈ slot.argsEvents now, event.returnHas good := by
  cases call : slot.call <;> simp [Slot.argsEvents, call, Event.returnHas]

/-- A return among the events of an instruction is that of its predecessor, right
after the instruction's own arguments. -/
theorem stepEvents_return {last : Option (Observation arch)} {seen : Observation arch}
    {before after : List (Event arch)} {record now : Nat} {path : CallPath} {value : Word arch}
    (split : stepEvents last seen = before ++ .ret record now path value :: after) :
    before = seen.slot.argsEvents seen.seq ∧
      ∃ prev ∈ last, prev.attaches = true ∧ .ret record now path value = returnOf prev seen := by
  have notArgs : ∀ event ∈ seen.slot.argsEvents seen.seq, event ≠ .ret record now path value := by
    rintro event member rfl
    exact seen.slot.argsEvents_returnHas (fun _ _ _ _ => False) seen.seq _ member
  cases last with
  | none =>
    have member : Event.ret record now path value ∈ stepEvents none seen := by simp [split]
    rw [stepEvents_none] at member
    rcases List.mem_append.mp member with args | own
    · exact absurd rfl (notArgs _ args)
    · split at own <;> simp at own
  | some prev =>
    obtain ⟨lines, onlyLines, whole⟩ := stepEvents_some prev seen
    have notLine : Event.ret record now path value ∉ lines := by
      intro member
      obtain ⟨other, same⟩ := onlyLines _ member
      cases same
    have first : ∀ later, (if prev.attaches then [returnOf prev seen] else []) ++ lines =
        later ++ .ret record now path value :: after →
        later = [] ∧ prev.attaches = true ∧ .ret record now path value = returnOf prev seen := by
      intro later rest
      cases attaches : prev.attaches with
      | false => exact absurd (by simp [attaches] at rest; simp [rest]) notLine
      | true =>
        cases later with
        | nil => simp_all
        | cons event later => exact absurd (by simp [attaches] at rest; simp [rest]) notLine
    rw [whole] at split
    rcases List.append_eq_append_iff.mp split with ⟨later, rfl, rest⟩ | ⟨args, own, rest⟩
    · obtain ⟨rfl, attaches, same⟩ := first later rest
      exact ⟨List.append_nil _, prev, rfl, attaches, same⟩
    · cases args with
      | nil =>
        obtain ⟨-, attaches, same⟩ := first [] rest.symm
        exact ⟨by simpa using own.symm, prev, rfl, attaches, same⟩
      | cons event args =>
        simp only [List.cons_append, List.cons.injEq] at rest
        exact absurd rest.1.symm (notArgs event (by simp [own]))

theorem eventsOf_paired {recorded : List (Observation arch)}
    (distinct : (recorded.map (·.seq)).Nodup) : Paired (eventsOf recorded) := by
  induction recorded using List.reverseRecOn with
  | nil => exact always_nil
  | append_singleton recorded seen ih =>
    rw [List.map_append, List.nodup_append] at distinct
    rw [eventsOf_concat]
    refine always_append.mpr ⟨ih distinct.1, ?_⟩
    rintro before _ after split record now path value rfl
    obtain ⟨rfl, prev, ending, attaches, same⟩ := stepEvents_return split
    obtain ⟨rfl, rfl, rfl, rfl⟩ : record = prev.seq ∧ now = seen.seq ∧ path = prev.path ∧
      value = seen.value := by simpa [returnOf] using same
    obtain ⟨earlier, rfl⟩ := List.getLast?_eq_some_iff.mp ending
    have notSeen : seen.seq ≠ prev.seq := fun equal =>
      distinct.2.2 prev.seq (by simp) seen.seq (by simp) equal.symm
    have notEarlier : earlier.filter (fun other => other.attaches && other.seq == prev.seq) = [] := by
      rw [List.filter_eq_nil_iff]
      intro other member
      have unique := distinct.1
      rw [List.map_append, List.nodup_append] at unique
      have different := unique.2.2 other.seq (List.mem_map_of_mem member) prev.seq (by simp)
      simp [different]
    rw [List.filter_append, filter_eventsOf, filter_argsEvents]
    simp [List.filter_append, notEarlier, attaches, notSeen]

/-- The returns of a run are those of consecutive recorded instructions. -/
theorem returns_iff (good : Nat → Nat → CallPath → Word arch → Prop)
    (recorded : List (Observation arch)) :
    (∀ event ∈ eventsOf recorded, event.returnHas good) ↔
      recorded.IsChain fun prev seen =>
        prev.attaches = true → good prev.seq seen.seq prev.path seen.value := by
  have argsFine (seen : Observation arch) := seen.slot.argsEvents_returnHas good seen.seq
  refine forall_outputs_iff ?_ ?_ recorded
  · intro seen event member
    rw [stepEvents_none] at member
    rcases List.mem_append.mp member with args | own
    · exact argsFine seen event args
    · cases attaches : seen.attaches <;> simp [attaches] at own
      simp [own, Event.returnHas]
  · intro prev seen
    obtain ⟨lines, onlyLines, whole⟩ := stepEvents_some prev seen
    have linesFine : ∀ event ∈ lines, event.returnHas good := by
      intro event member
      obtain ⟨other, rfl⟩ := onlyLines event member
      trivial
    rw [whole]
    cases attaches : prev.attaches with
    | false =>
      simp only [Bool.false_eq_true, ↓reduceIte, List.nil_append, false_implies, iff_true]
      intro event member
      exact (List.mem_append.mp member).elim (argsFine seen event) (linesFine event)
    | true =>
      simp only [↓reduceIte, true_implies]
      constructor
      · intro all
        exact all (returnOf prev seen) (by simp)
      · intro fine event member
        simp only [List.mem_append, List.mem_singleton] at member
        rcases member with args | rfl | line
        · exact argsFine seen event args
        · exact fine
        · exact linesFine event line

end QbdiTracer
