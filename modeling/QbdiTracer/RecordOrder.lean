import QbdiTracer.Simulation
import QbdiTracer.WindowOrder

/-! The order in which records reach the logger, over whole runs. -/

namespace QbdiTracer

open FlowRun

variable {arch : Arch}

theorem Setting.map_seq_observeEntry (setting : Setting arch) (entries : List (Execution arch × Nat)) :
    (entries.map setting.observeEntry).map (·.seq) = entries.map Prod.snd := by
  rw [List.map_map]
  rfl

theorem Setting.pendingOf_observeEntry (setting : Setting arch)
    (entries : List (Execution arch × Nat)) :
    pendingOf (entries.map setting.observeEntry) =
      match entries.getLast? with
      | none => []
      | some last => if last.1.attachesFunCall setting.svcHook then [last.2] else [] := by
  cases ending : entries.getLast? <;>
    simp [pendingOf, List.getLast?_map, ending, observeEntry, observation]

namespace InstructionTracerManager

theorem recordedOf_observations (tracer : InstructionTracerManager arch)
    (manager : InstructionInfoManager arch) (svcHook : Bool) (executions : List (Execution arch)) :
    recordedOf ((tracer.setting manager svcHook).observations tracer.vm.clock executions) =
      (tracer.recordedExecutions executions).map (tracer.setting manager svcHook).observeEntry := by
  simp only [recordedOf, Setting.observations, List.filter_map, recordedExecutions]
  rfl

theorem observations_filtered (tracer : InstructionTracerManager arch)
    (manager : InstructionInfoManager arch) (svcHook : Bool) (executions : List (Execution arch)) :
    Filtered tracer.isNeedRecord
      ((tracer.setting manager svcHook).observations tracer.vm.clock executions) := by
  intro seen member
  obtain ⟨entry, -, rfl⟩ := List.mem_map.mp member
  rfl

section Order

variable {tracer : InstructionTracerManager arch} {manager : InstructionInfoManager arch}
  {svcHook : Bool} {executions : List (Execution arch)} {journal : List (Event arch)}

/-- The lines of a run, from its recorded instructions alone. -/
theorem writtenRecords_journalAfter (fresh : tracer.Fresh manager svcHook)
    (ran : tracer.journalAfter executions = .ok journal) :
    writtenRecords journal = writesOf
      ((tracer.recordedExecutions executions).map (tracer.setting manager svcHook).observeEntry) := by
  rw [← writtenRecords_control, journalAfter_control fresh ran,
    (Window.observeAll_summary (observations_filtered tracer manager svcHook executions)).written,
    recordedOf_observations]

end Order

end InstructionTracerManager

/-- Two consecutive recorded executions at one address are harmless only when
the first carries no call and the second does. -/
def SafeNeighbours (svcHook : Bool) (prev next : Execution arch × Nat) : Prop :=
  prev.1.pc = next.1.pc →
    prev.1.attachesFunCall svcHook = false ∧ next.1.attachesFunCall svcHook = true

instance (svcHook : Bool) (prev next : Execution arch × Nat) :
    Decidable (SafeNeighbours svcHook prev next) :=
  inferInstanceAs (Decidable (prev.1.pc = next.1.pc →
    prev.1.attachesFunCall svcHook = false ∧ next.1.attachesFunCall svcHook = true))

/-- The records handed to the logger are the recorded executions in order, each
once, except for at most one pending record that carries a call. -/
structure WritesInOrder (svcHook : Bool) (recorded : List (Execution arch × Nat))
    (written : List Nat) : Prop where
  inOrder : written <+: recorded.map Prod.snd
  once : written.Nodup
  lag : recorded.map Prod.snd = written ∨ ∃ last ∈ recorded.getLast?,
    last.1.attachesFunCall svcHook = true ∧ recorded.map Prod.snd = written ++ [last.2]

namespace InstructionTracerManager

theorem recordedExecutions_append (tracer : InstructionTracerManager arch)
    (first second : List (Execution arch)) :
    tracer.recordedExecutions first <+: tracer.recordedExecutions (first ++ second) := by
  simp [recordedExecutions, List.zipIdx_append]

/-- After each instruction of a run whose neighbouring records are safe, the
records written are the recorded ones up to a pending call. -/
theorem journalAfter_writesInOrder {tracer : InstructionTracerManager arch}
    {manager : InstructionInfoManager arch} {svcHook : Bool}
    {executions rest : List (Execution arch)} {journal : List (Event arch)}
    (fresh : tracer.Fresh manager svcHook)
    (safe : (tracer.recordedExecutions (executions ++ rest)).IsChain (SafeNeighbours svcHook))
    (reached : tracer.journalAfter executions = .ok journal) :
    WritesInOrder svcHook (tracer.recordedExecutions executions) (writtenRecords journal) := by
  obtain ⟨later, whole⟩ := tracer.recordedExecutions_append executions rest
  rw [← whole] at safe
  have chain : ((tracer.recordedExecutions executions).map
      (tracer.setting manager svcHook).observeEntry).IsChain Separate :=
    (List.isChain_map _).mpr safe.left_of_append
  have ordered := writesOf_pendingOf chain
  rw [← writtenRecords_journalAfter fresh reached, Setting.map_seq_observeEntry,
    Setting.pendingOf_observeEntry] at ordered
  refine ⟨⟨_, ordered⟩, (tracer.recordedExecutions_distinct executions).sublist ?_, ?_⟩
  · exact ordered ▸ List.sublist_append_left ..
  · cases ending : (tracer.recordedExecutions executions).getLast? with
    | none => exact .inl (by simpa [ending] using ordered.symm)
    | some last =>
      cases attaches : last.1.attachesFunCall svcHook with
      | false => exact .inl (by simpa [ending, setting, attaches] using ordered.symm)
      | true =>
        exact .inr ⟨last, rfl, attaches, by simpa [ending, setting, attaches] using ordered.symm⟩

theorem journalAfter_writesInOrder_branch :
    WritesInOrder true ((tracedModule (onceCallbacks true) []).recordedExecutions
      [plainAt 0x1000, branchAt 0x1004 0x1010]) [0] := by
  have safe : ((tracedModule (onceCallbacks true) []).recordedExecutions
      ([plainAt 0x1000, branchAt 0x1004 0x1010] ++ [plainAt 0x1010])).IsChain
        (SafeNeighbours true) := by decide
  have reached : (tracedModule (onceCallbacks true) []).journalAfter
      [plainAt 0x1000, branchAt 0x1004 0x1010] =
        .ok [.executed 0, .written 0 0, .executed 1, .args 1 1 .common] := by rfl
  exact journalAfter_writesInOrder (tracedModule_fresh true []) safe reached

/-- A loop whose first instruction is the only recorded one: its second pass
writes the first one again. -/
theorem loop_written_twice :
    let tracer := tracedModule (onceCallbacks true) [⟨0x1000, 0x1004⟩]
    let executions := [plainAt 0x1000, branchAt 0x1004 0x1000, plainAt 0x1000]
    (tracer.journalAfter executions).map writtenRecords = .ok [0, 0, 2] ∧
      ¬ WritesInOrder true (tracer.recordedExecutions executions) [0, 0, 2] := by
  refine ⟨by rfl, fun ordered => ?_⟩
  exact absurd ordered.once (by decide)

end InstructionTracerManager

end QbdiTracer
