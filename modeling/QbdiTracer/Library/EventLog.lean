import Mathlib.Data.List.Basic
import Mathlib.Data.List.Induction

/-! Properties of a log that each event must have with respect to the events
before it, and logs of calls that can fail. -/

namespace EventLog

universe u

variable {Event State Failure : Type u} {good : List Event → Event → Prop}

/-- Every event of the log is good after the events that precede it. -/
def Always (good : List Event → Event → Prop) (log : List Event) : Prop :=
  ∀ before event after, log = before ++ event :: after → good before event

theorem always_nil : Always good [] := by
  intro before event after whole
  simp at whole

/-- A log that grows keeps the property when the new events have it after the
old ones. -/
theorem always_append {log block : List Event} :
    Always good (log ++ block) ↔
      Always good log ∧ Always (fun before => good (log ++ before)) block := by
  constructor
  · intro whole
    refine ⟨fun before event after split => ?_, fun before event after split => ?_⟩
    · exact whole before event (after ++ block) (by simp [split])
    · exact whole (log ++ before) event after (by simp [split])
  · rintro ⟨old, new⟩ before event after split
    rcases List.append_eq_append_iff.mp split with ⟨later, rfl, rest⟩ | ⟨earlier, rfl, rest⟩
    · exact new later event after rest
    · cases earlier with
      | nil => simpa using new [] event after rest.symm
      | cons first earlier =>
        simp only [List.cons_append, List.cons.injEq] at rest
        obtain ⟨rfl, -⟩ := rest
        exact old before _ earlier rfl

/-- Events that are good after any extension of the log may be appended. -/
theorem Always.extend {log block : List Event} (old : Always good log)
    (new : ∀ event ∈ block, ∀ before, good (log ++ before) event) : Always good (log ++ block) :=
  always_append.mpr ⟨old, fun before event after split => new event (by simp [split]) before⟩

theorem always_singleton {event : Event} : Always good [event] ↔ good [] event := by
  constructor
  · intro always
    exact always [] event [] rfl
  · rintro first before other after split
    cases before with
    | nil =>
      cases split
      exact first
    | cons head tail => simp at split

theorem always_cons {event : Event} {rest : List Event} :
    Always good (event :: rest) ↔
      good [] event ∧ Always (fun before => good (event :: before)) rest := by
  have split : Always good ([event] ++ rest) ↔ Always good [event] ∧
      Always (fun before => good ([event] ++ before)) rest := always_append
  rwa [always_singleton] at split

/-- A property of logs that the good events keep, and only they, holds of all the
beginnings of a log exactly when all its events are good. -/
theorem forall_prefix_iff {holds : List Event → Prop} (initial : holds [])
    (step : ∀ past event, holds past → (holds (past ++ [event]) ↔ good past event))
    (log : List Event) : (∀ past, past <+: log → holds past) ↔ Always good log := by
  induction log using List.reverseRecOn with
  | nil =>
    refine iff_of_true (fun past happened => ?_) always_nil
    rw [List.prefix_nil.mp happened]
    exact initial
  | append_singleton log event ih =>
    rw [always_append, ← ih, always_singleton, List.append_nil]
    constructor
    · intro all
      have old : ∀ past, past <+: log → holds past := fun past happened =>
        all past (happened.trans (List.prefix_append ..))
      exact ⟨old, (step log event (old log (List.prefix_refl _))).mp (all _ (List.prefix_refl _))⟩
    · rintro ⟨old, now⟩ past happened
      rcases List.prefix_concat_iff.mp happened with rfl | earlier
      · exact (step log event (old log (List.prefix_refl _))).mpr now
      · exact old past earlier

/-- The last call of a log meets the state that the calls before it have left. -/
theorem foldlM_concat (step : State → Event → Except Failure State) (start : State)
    (past : List Event) (event : Event) :
    (past ++ [event]).foldlM step start = (past.foldlM step start).bind (step · event) := by
  rw [List.foldlM_append]
  congr 1
  funext state
  simp only [List.foldlM_cons, List.foldlM_nil, bind_pure]

theorem foldlM_concat_ok {step : State → Event → Except Failure State} {start final : State}
    {past : List Event} {event : Event}
    (ran : (past ++ [event]).foldlM step start = .ok final) :
    ∃ middle, past.foldlM step start = .ok middle ∧ step middle event = .ok final := by
  rw [foldlM_concat] at ran
  cases before : past.foldlM step start with
  | error failure =>
    rw [before] at ran
    cases ran
  | ok middle =>
    rw [before] at ran
    exact ⟨middle, rfl, ran⟩

/-- The rule for what the state has to do with the calls so far. -/
theorem foldlM_history {step : State → Event → Except Failure State} {start final : State}
    (property : List Event → State → Prop) (initial : property [] start)
    (keeps : ∀ past event state next, property past state → step state event = .ok next →
      property (past ++ [event]) next)
    {log : List Event} (ran : log.foldlM step start = .ok final) : property log final := by
  induction log using List.reverseRecOn generalizing final with
  | nil =>
    cases ran
    exact initial
  | append_singleton past event ih =>
    obtain ⟨middle, before, taken⟩ := foldlM_concat_ok ran
    exact keeps past event middle final (ih before) taken

/-- A log fails the way one of its calls does. -/
theorem foldlM_error {step : State → Event → Except Failure State} (bad : Failure → Prop)
    (fails : ∀ state event failure, step state event = .error failure → bad failure)
    {log : List Event} {start : State} {failure : Failure}
    (failed : log.foldlM step start = .error failure) : bad failure := by
  induction log generalizing start with
  | nil => cases failed
  | cons event rest ih =>
    rw [List.foldlM_cons] at failed
    cases taken : step start event with
    | error earlier =>
      rw [taken] at failed
      cases failed
      exact fails start event failure taken
    | ok next =>
      rw [taken] at failed
      exact ih failed

/-- A log of calls goes through exactly when each of its calls does in the state that
it meets. -/
theorem foldlM_ok_iff {step : State → Event → Except Failure State} {start : State}
    (goes : ∀ past event state, past.foldlM step start = .ok state →
      ((∃ next, step state event = .ok next) ↔ good past event)) (log : List Event) :
    (∃ final, log.foldlM step start = .ok final) ↔ Always good log := by
  have prefixes : (∀ past, past <+: log → ∃ state, past.foldlM step start = .ok state) ↔
      Always good log := by
    apply forall_prefix_iff ⟨start, rfl⟩
    rintro past event ⟨state, reached⟩
    rw [foldlM_concat, reached]
    exact goes past event state reached
  rw [← prefixes]
  constructor
  · rintro ⟨final, whole⟩ past ⟨rest, rfl⟩
    rw [List.foldlM_append] at whole
    cases first : past.foldlM step start with
    | error failure =>
      rw [first] at whole
      cases whole
    | ok state => exact ⟨state, rfl⟩
  · intro all
    exact all log (List.prefix_refl _)

end EventLog
