import QbdiTracer.Attach
import QbdiTracer.Entries
import QbdiTracer.Library.EventLog

/-! Whole sessions of `init`, `run_attach` and hits. A hit is decided by the condition that was
given first for the patched address, which is not the address of a Thumb function. -/

namespace QbdiTracer

open EventLog FirstInsert FlowRun InstructionTracerManager

variable {arch : Arch}

/-- The address a call of `init` aims the tracer at. -/
def InitCall.aims (aim : Word arch) : InitCall arch → Word arch
  | .bySymbol loader name symbol =>
    (((loader.findLibrary name).filter (·.resolves symbol)).map (·.findSymbol symbol)).getD aim
  | .byOffset loader name offset =>
    (((loader.findLibrary name).filter fun library =>
      !decide (library.getLibraryRange.size < offset)).map fun library =>
        library.getLibraryRange.start + offset).getD aim
  | .byAddress _ address => address

theorem InitCall.apply_target (call : InitCall arch) (tracer : InstructionTracerManager arch) :
    (call.apply tracer).1.targetTraceAddress = call.aims tracer.targetTraceAddress := by
  cases call with
  | bySymbol loader name symbol =>
    have stack := congrArg TracingState.targetTraceAddress (allocFixStack_tracingState loader
      { tracer with moduleName := name, symbolName := symbol })
    simp only [InitCall.apply, initSymbol, InitCall.aims]
    cases loader.findLibrary name with
    | none => exact stack
    | some library =>
      by_cases null : library.findSymbol symbol = 0
      · have unresolved : library.resolves symbol = false := decide_eq_false (not_not_intro null)
        simp only [if_pos null, Option.filter_some, unresolved, Bool.false_eq_true, if_false]
        exact stack
      · have resolved : library.resolves symbol = true := decide_eq_true null
        simp only [if_neg null, Option.filter_some, resolved, if_true]
        rfl
  | byOffset loader name offset =>
    have stack := congrArg TracingState.targetTraceAddress
      (allocFixStack_tracingState loader { tracer with moduleName := name })
    simp only [InitCall.apply, initOffset, InitCall.aims]
    cases loader.findLibrary name with
    | none => exact stack
    | some library =>
      by_cases outside : library.getLibraryRange.size < offset
      · simp only [Option.filter_some, outside, decide_true, Bool.not_true,
          Bool.false_eq_true, if_false]
        exact stack
      · simp only [Option.filter_some, outside, decide_false, Bool.not_false, if_true]
        rfl
  | byAddress loader address =>
    have stack := congrArg TracingState.targetTraceAddress
      (allocFixStack_tracingState loader { tracer with targetTraceAddress := address })
    simp only [InitCall.apply, initAddress, InitCall.aims]
    cases loader.findLibraryAt address with
    | none => exact stack
    | some library => exact stack

namespace AttachCall

/-- The target after a call. -/
def aims (aim : Word arch) : AttachCall arch → Word arch
  | .init call => call.aims aim
  | _ => aim

def aimed (past : List (AttachCall arch)) : Word arch := past.foldl aims 0

/-- The condition that a call gives for the target. -/
def gives (aim : Word arch) : AttachCall arch → Option (Word arch × AttachCond arch)
  | .runAttach _ (some cond) => some (aim, cond)
  | _ => none

/-- The conditions given so far, each with its target. -/
def given (aim : Word arch) : List (AttachCall arch) → List (Word arch × AttachCond arch)
  | [] => []
  | call :: rest => (call.gives aim).toList ++ given (call.aims aim) rest

/-- The condition that was given first for a target. -/
def firstGiven (past : List (AttachCall arch)) (target : Word arch) : Option (AttachCond arch) :=
  ((given 0 past).find? fun pair => pair.1 = target).map Prod.snd

theorem aimed_concat (past : List (AttachCall arch)) (call : AttachCall arch) :
    aimed (past ++ [call]) = call.aims (aimed past) := by
  simp [aimed]

theorem given_concat (aim : Word arch) (past : List (AttachCall arch)) (call : AttachCall arch) :
    given aim (past ++ [call]) = given aim past ++ (call.gives (past.foldl aims aim)).toList := by
  induction past generalizing aim with
  | nil => simp [given]
  | cons first past ih => rw [List.cons_append, given, given, ih, List.append_assoc, List.foldl_cons]

theorem firstGiven_concat (past : List (AttachCall arch)) (call : AttachCall arch)
    (target : Word arch) :
    firstGiven (past ++ [call]) target = (firstGiven past target).or
      (((call.gives (aimed past)).filter fun pair => pair.1 = target).map Prod.snd) := by
  have last : ∀ found : Option (Word arch × AttachCond arch),
      (found.toList.find? fun pair => pair.1 = target) = found.filter fun pair => pair.1 = target := by
    rintro (_ | pair)
    · rfl
    · by_cases same : pair.1 = target <;> simp [same, Option.filter]
  rw [firstGiven, firstGiven, given_concat, List.find?_append, last, Option.map_or]
  rfl

end AttachCall

namespace InterceptEntry

/-- The address an entry was made for. -/
def target (entry : InterceptEntry arch) : Word arch :=
  if entry.thumbMode then entry.patchedAddr + 1 else entry.patchedAddr

@[simp] theorem new_target (address : Word arch) : (new address).target = address := by
  by_cases thumb : isThumb address = true
  · rw [new, if_pos thumb, target, if_pos rfl, BitVec.sub_add_cancel]
  · rw [new, if_neg thumb, target, if_neg Bool.false_ne_true]

theorem new_patchedAddr {address : Word arch} (plain : isThumb address = false) :
    (new address).patchedAddr = address := by
  rw [new, if_neg (by rw [plain]; exact Bool.false_ne_true)]

theorem new_patchedAddr_thumb {address : Word arch} (thumb : isThumb address = true) :
    (new address).patchedAddr = address - 1 := by
  rw [new, if_pos thumb]

end InterceptEntry

namespace AttachSession

open AttachCall

variable {session next : AttachSession arch} {past : List (AttachCall arch)} {process : Process arch}
  {entry : InterceptEntry arch} {ctx : DobbyRegisterContext arch} {executions : List (Execution arch)}

/-- A run of instructions does not aim the tracer anew. -/
theorem run_target {tracer after : InstructionTracerManager arch} {flow : VMAction}
    (ran : run execute tracer executions = .ok (flow, after)) :
    after.targetTraceAddress = tracer.targetTraceAddress := by
  refine run_invariant (fun state : InstructionTracerManager arch =>
    state.targetTraceAddress = tracer.targetTraceAddress) ?_ rfl ran
  intro before execution flow after same taken
  have frame := congrArg targetTraceAddress (execute_config taken)
  refine Eq.trans ?_ same
  cases flow <;> exact frame

theorem enter_target {tracer after : InstructionTracerManager arch} {kind : EntryKind}
    (entered : tracer.enter kind process executions = .ok after) :
    after.targetTraceAddress = tracer.targetTraceAddress := by
  obtain ⟨flow, returned, manager, ran, -, rfl⟩ := enter_ok entered
  have same := run_target ran
  exact same

/-- A hit touches the tracer at most. -/
theorem instAtEnter_frame {hit : Hit arch}
    (entered : session.instAtEnter process entry ctx executions = .ok hit) :
    hit.traced = (session.checkAttachCond entry.patchedAddr ctx).1 ∧
      hit.session.instAtCondList = session.instAtCondList ∧ hit.session.entries = session.entries ∧
      hit.session.tracer.targetTraceAddress = session.tracer.targetTraceAddress := by
  rw [instAtEnter] at entered
  simp only at entered
  split at entered
  · rename_i refused
    cases entered
    rw [Bool.not_eq_true'] at refused
    exact ⟨refused.symm, rfl, rfl, rfl⟩
  · rename_i approved
    obtain ⟨tracer, traced, done⟩ := bind_ok entered
    cases done
    have attached : InstructionTracerManager.enter .attach process _ executions = .ok tracer := traced
    have same := enter_target attached
    rw [Bool.not_eq_true', Bool.not_eq_false] at approved
    exact ⟨approved.symm, rfl, rfl, same⟩

/-- What a session has to do with the calls so far. -/
structure Reflects (past : List (AttachCall arch)) (session : AttachSession arch) : Prop where
  target : session.tracer.targetTraceAddress = aimed past
  conditions : ∀ addr, session.instAtCondList addr = firstGiven past addr
  entries : ∀ entry ∈ session.entries, ∃ address, entry = .new address

/-- The condition stays that was given first for the target. -/
theorem runAttach_conditions (session : AttachSession arch) (permitted : Bool)
    (atCond : Option (AttachCond arch)) (addr : Word arch) :
    (session.runAttach permitted atCond).1.instAtCondList addr = (session.instAtCondList addr).or
      ((((AttachCall.runAttach permitted atCond).gives session.tracer.targetTraceAddress).filter
        fun pair => pair.1 = addr).map Prod.snd) := by
  cases atCond with
  | none => exact (Option.or_none).symm
  | some cond =>
    refine (emplaceAt_eq addr).trans ?_
    rw [gives]
    congr 1
    by_cases same : session.tracer.targetTraceAddress = addr <;> simp [same, Option.filter]

/-- Either nothing is instrumented, or there is one entry more, at an address none was at. -/
theorem dobbyInstrument_cases (permitted : Bool) (entries : List (InterceptEntry arch))
    (address : Word arch) :
    (dobbyInstrument permitted entries address).1 = entries ∨
      (dobbyInstrument permitted entries address).1 = entries ++ [.new address] ∧
        ∀ entry ∈ entries, entry.patchedAddr ≠ address := by
  rw [dobbyInstrument]
  split
  · exact .inl rfl
  · split
    · exact .inl rfl
    · split
      · exact .inl rfl
      · rename_i unknown
        refine .inr ⟨rfl, fun entry member same => unknown ?_⟩
        rw [InterceptEntry.find, List.find?_isSome]
        exact ⟨entry, member, decide_eq_true same⟩

/-- A hit leaves what it is decided by as it is. -/
theorem hit_frame {index : ℕ}
    (done : (AttachCall.hit index process ctx executions).apply session = .ok next) :
    next.instAtCondList = session.instAtCondList ∧ next.entries = session.entries ∧
      next.tracer.targetTraceAddress = session.tracer.targetTraceAddress := by
  rw [AttachCall.apply] at done
  split at done
  · cases done
    exact ⟨rfl, rfl, rfl⟩
  · obtain ⟨hit, entered, rfl⟩ := map_ok done
    exact (instAtEnter_frame entered).2

theorem Reflects.apply {call : AttachCall arch} (reflects : Reflects past session)
    (done : call.apply session = .ok next) : Reflects (past ++ [call]) next := by
  cases call with
  | init call =>
    cases done
    refine ⟨?_, fun addr => ?_, reflects.entries⟩
    · rw [aimed_concat, call.apply_target, reflects.target]
      rfl
    · rw [firstGiven_concat, reflects.conditions]
      exact (Option.or_none).symm
  | runAttach permitted atCond =>
    cases done
    refine ⟨?_, fun addr => ?_, fun entry member => ?_⟩
    · rw [aimed_concat]
      exact reflects.target
    · rw [firstGiven_concat, ← reflects.conditions addr, ← reflects.target]
      exact runAttach_conditions session permitted atCond addr
    · have listed : entry ∈ (dobbyInstrument permitted session.entries
          session.tracer.targetTraceAddress).1 := member
      rcases dobbyInstrument_cases permitted session.entries session.tracer.targetTraceAddress with
        same | ⟨added, -⟩
      · exact reflects.entries entry (same ▸ listed)
      · rcases List.mem_append.mp (added ▸ listed) with old | new
        · exact reflects.entries entry old
        · exact ⟨_, List.mem_singleton.mp new⟩
  | hit index process ctx executions =>
    obtain ⟨conditions, entries, target⟩ := hit_frame done
    refine ⟨?_, fun addr => ?_, fun entry member => ?_⟩
    · rw [aimed_concat, target]
      exact reflects.target
    · rw [firstGiven_concat, conditions, reflects.conditions]
      exact (Option.or_none).symm
    · exact reflects.entries entry (entries ▸ member)

/-- After every history the session agrees with what has happened in it. -/
theorem reflects_of_history (ran : past.foldlM AttachCall.apply {} = .ok session) :
    Reflects past session := by
  refine foldlM_history (fun past session => Reflects past session) ?_ ?_ ran
  · exact ⟨rfl, fun _ => rfl, fun _ member => absurd member List.not_mem_nil⟩
  · exact fun _ _ _ _ reflects done => reflects.apply done

/-- Every hit is decided by the condition given first for the patched address. -/
theorem hit_traced {hit : Hit arch} (ran : past.foldlM AttachCall.apply {} = .ok session)
    (entered : session.instAtEnter process entry ctx executions = .ok hit) :
    hit.traced = (firstGiven past entry.patchedAddr).elim true
      fun cond => (cond entry.patchedAddr ctx).1 := by
  have conditions := (reflects_of_history ran).conditions entry.patchedAddr
  rw [(instAtEnter_frame entered).1, checkAttachCond, conditions]
  cases firstGiven past entry.patchedAddr <;> rfl

/-- In every history the hits of this target are traced exactly if the condition given first for
it approves them, or none was given. -/
def Obeys (target : Word arch) : Prop :=
  ∀ past session entry process ctx executions hit,
    past.foldlM AttachCall.apply {} = .ok session → entry ∈ session.entries → entry.target = target →
    session.instAtEnter process entry ctx executions = .ok hit →
    hit.traced = (firstGiven past target).elim true fun cond => (cond target ctx).1

/-- A library of one page around any address, and dispatchers that claim nothing. -/
def anywhere (arch : Arch) : Loader arch where
  findLibrary _ := none
  findLibraryAt address :=
    some ⟨"libtarget.so", address &&& ~~~0xfff#_, 0x1000#_, fun _ => 0, fun _ => ""⟩
  mmapStack := 0
  dispatchManager := ⟨nobody, nobody, nobody, fun _ _ => ⟨"unknown", [], .kNumber⟩⟩
where
  nobody : DispatchBase arch := ⟨⟨0, 0⟩, fun _ => none, fun _ => none⟩

/-- The tracer is attached at the address, with a condition that refuses every hit. -/
def refused (address : Word arch) : List (AttachCall arch) :=
  [.init (.byAddress (anywhere arch) address), .runAttach true (some fun _ ctx => (false, ctx))]

theorem refused_ran {address : Word arch} (nonnull : address ≠ 0) :
    ∃ session, (refused address).foldlM AttachCall.apply {} = .ok session ∧
      session.entries = [.new address] ∧ session.tracer.infoManager.isSome = true := by
  refine ⟨_, rfl, ?_, rfl⟩
  have fresh : dobbyInstrument true [] address = ([.new address], true) := by
    rw [dobbyInstrument, if_neg nonnull]
    rfl
  exact congrArg Prod.fst fresh

theorem firstGiven_refused (address other : Word arch) :
    firstGiven (refused address) other =
      if address = other then some fun _ ctx => (false, ctx) else none := by
  have pairs : given 0 (refused address) = [(address, fun _ ctx => (false, ctx))] := rfl
  rw [firstGiven, pairs]
  by_cases same : address = other
  · rw [if_pos same, List.find?_cons_of_pos (by simpa using same), Option.map_some]
  · rw [if_neg same, List.find?_cons_of_neg (by simpa using same), List.find?_nil, Option.map_none]

/-- A hit whose trace sees no instruction comes to an end. -/
theorem instAtEnter_idle (ready : session.tracer.infoManager.isSome = true)
    (process : Process arch) (entry : InterceptEntry arch) (ctx : DobbyRegisterContext arch) :
    ∃ hit, session.instAtEnter process entry ctx [] = .ok hit := by
  obtain ⟨manager, present⟩ := Option.isSome_iff_exists.mp ready
  rw [instAtEnter]
  simp only
  split
  · exact ⟨_, rfl⟩
  · simp only [InstructionTracerManager.instAtEnter, vmCall, register, run_nil, flushInfo, present]
    exact ⟨_, rfl⟩

theorem thumb_ne_zero {target : Word arch} (thumb : isThumb target = true) : target ≠ 0 := by
  rintro rfl
  simp [isThumb] at thumb

theorem thumb_ne_sub_one {target : Word arch} (thumb : isThumb target = true) :
    target ≠ target - 1 := by
  cases (of_decide_eq_true thumb).1
  intro same
  have differs : ∀ address : BitVec 32, address ≠ address - 1 := by
    intro address
    bv_omega
  exact differs target same

/-- The condition given for a Thumb function is not asked for. -/
theorem not_obeys_thumb {target : Word arch} (thumb : isThumb target = true) : ¬ Obeys target := by
  intro obeys
  obtain ⟨session, ran, entries, ready⟩ := refused_ran (thumb_ne_zero thumb)
  have member : InterceptEntry.new target ∈ session.entries := entries ▸ List.mem_singleton_self _
  obtain ⟨hit, entered⟩ := instAtEnter_idle ready idleProcess (.new target) {}
  have refuses := obeys _ _ _ _ _ _ _ ran member (InterceptEntry.new_target target) entered
  have traced := hit_traced ran entered
  rw [firstGiven_refused, if_pos rfl] at refuses
  rw [InterceptEntry.new_patchedAddr_thumb thumb, firstGiven_refused,
    if_neg (thumb_ne_sub_one thumb)] at traced
  exact Bool.false_ne_true (refuses.symm.trans traced)

/-- A condition decides the hits of its target, except for a Thumb function. -/
theorem obeys_iff (target : Word arch) : Obeys target ↔ isThumb target = false := by
  constructor
  · intro obeys
    by_contra thumb
    exact not_obeys_thumb (Bool.eq_true_of_not_eq_false thumb) obeys
  · intro plain past session entry process ctx executions hit ran member own entered
    obtain ⟨address, rfl⟩ := (reflects_of_history ran).entries entry member
    rw [InterceptEntry.new_target] at own
    subst own
    have decided := hit_traced ran entered
    rwa [InterceptEntry.new_patchedAddr plain] at decided

/-- No code is patched for two entries. -/
def Distinct (session : AttachSession arch) : Prop :=
  (session.entries.map InterceptEntry.patchedAddr).Nodup

theorem Distinct.apply {call : AttachCall arch} (even : arch ≠ .arm) (distinct : session.Distinct)
    (done : call.apply session = .ok next) : next.Distinct := by
  cases call with
  | init call =>
    cases done
    exact distinct
  | runAttach permitted atCond =>
    cases done
    have plain : isThumb session.tracer.targetTraceAddress = false :=
      decide_eq_false fun thumb => even thumb.1
    have patched := InterceptEntry.new_patchedAddr plain
    show (List.map InterceptEntry.patchedAddr (dobbyInstrument permitted session.entries
      session.tracer.targetTraceAddress).1).Nodup
    rcases dobbyInstrument_cases permitted session.entries session.tracer.targetTraceAddress with
      same | ⟨added, unknown⟩
    · rw [same]
      exact distinct
    · rw [added, List.map_append, List.map_singleton, patched, List.nodup_append]
      refine ⟨distinct, List.nodup_singleton _, fun old listed new single => ?_⟩
      obtain ⟨entry, member, rfl⟩ := List.mem_map.mp listed
      rw [List.mem_singleton.mp single]
      exact unknown entry member
  | hit index process ctx executions =>
    rw [Distinct, (hit_frame done).2.1]
    exact distinct

/-- The tracer is attached this many times at the address. -/
def attachedTimes (address : Word arch) (times : ℕ) : List (AttachCall arch) :=
  .init (.byAddress (anywhere arch) address) :: List.replicate times (.runAttach true none)

/-- The search for an earlier entry of a Thumb function finds none. -/
theorem dobbyInstrument_thumb {target : Word arch} (thumb : isThumb target = true) (times : ℕ) :
    (dobbyInstrument true (List.replicate times (.new target)) target).1 =
      List.replicate (times + 1) (.new target) := by
  have missed : ¬ (InterceptEntry.find (List.replicate times (.new target)) target).isSome = true := by
    rw [InterceptEntry.find, List.find?_isSome]
    rintro ⟨entry, member, same⟩
    rw [List.eq_of_mem_replicate member, InterceptEntry.new_patchedAddr_thumb thumb,
      decide_eq_true_eq] at same
    exact thumb_ne_sub_one thumb same.symm
  rw [dobbyInstrument, if_neg (thumb_ne_zero thumb), if_neg (by decide), if_neg missed,
    List.replicate_succ']

theorem attachedTimes_ran {target : Word arch} (thumb : isThumb target = true) (times : ℕ) :
    ∃ session, (attachedTimes target times).foldlM AttachCall.apply {} = .ok session ∧
      session.tracer.targetTraceAddress = target ∧
      session.entries = List.replicate times (.new target) := by
  induction times with
  | zero => exact ⟨_, rfl, InitCall.apply_target (.byAddress (anywhere arch) target) {}, rfl⟩
  | succ times ih =>
    obtain ⟨session, ran, aim, entries⟩ := ih
    refine ⟨(session.runAttach true none).1, ?_, aim, ?_⟩
    · rw [attachedTimes, List.replicate_succ', ← List.cons_append, List.foldlM_append,
        ← attachedTimes, ran]
      rfl
    · change (dobbyInstrument true session.entries session.tracer.targetTraceAddress).1 = _
      rw [aim, entries]
      exact dobbyInstrument_thumb thumb times

theorem attachedTimes_patched {target : Word arch} (thumb : isThumb target = true) (times : ℕ) :
    ∃ session, (attachedTimes target times).foldlM AttachCall.apply {} = .ok session ∧
      session.entries.map InterceptEntry.patchedAddr = List.replicate times (target - 1) := by
  obtain ⟨session, ran, -, entries⟩ := attachedTimes_ran thumb times
  refine ⟨session, ran, ?_⟩
  rw [entries, List.map_replicate, InterceptEntry.new_patchedAddr_thumb thumb]

/-- In every history no code is patched for two entries, except on ARM: there a Thumb function gets
as many entries as it is attached. -/
theorem distinct_iff :
    ((∀ (past : List (AttachCall arch)) (session : AttachSession arch),
        past.foldlM AttachCall.apply {} = .ok session → session.Distinct) ↔ arch ≠ .arm) ∧
      ∀ target : Word arch, isThumb target = true → ∀ times, ∃ session,
        (attachedTimes target times).foldlM AttachCall.apply {} = .ok session ∧
          session.entries.map InterceptEntry.patchedAddr = List.replicate times (target - 1) := by
  refine ⟨⟨?_, fun even past session ran => ?_⟩, fun _ thumb => attachedTimes_patched thumb⟩
  · rintro distinct rfl
    obtain ⟨session, ran, patched⟩ := @attachedTimes_patched .arm 0x1001 (by decide) 2
    have both := distinct _ session ran
    rw [Distinct, patched, List.nodup_replicate] at both
    omega
  · refine foldlM_history (fun _ session => session.Distinct) List.nodup_nil ?_ ran
    exact fun _ _ _ _ distinct done => distinct.apply even done

end AttachSession

end QbdiTracer
