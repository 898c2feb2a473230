import QbdiTracer.Dispatch.Syscall
import QbdiTracer.Library.Digits

/-! The syscall dispatcher over a sequence of svc records. Its handlers belong to
the activation that built the table, so only that activation can run them. -/

namespace QbdiTracer

variable {arch : Arch}

/-- One svc record as `dispatch_args` receives it, with the process it reads. -/
structure SvcRecord (arch : Arch) where
  process : Process arch
  info : InstTraceInfo arch
  call : InstFunCall arch

namespace SvcRecord

def gprState (record : SvcRecord arch) : GPRState arch := record.info.preStatus.gprState

/-- The table entry of the record's syscall number. -/
def handler? (nr : SyscallNr → BitVec 32) (record : SvcRecord arch) : Option SyscallEntry :=
  DispatchSyscall.findHandler nr (record.gprState.reg arch.syscallReg)

theorem handler?_mem {nr : SyscallNr → BitVec 32} {record : SvcRecord arch} {entry : SyscallEntry}
    (found : record.handler? nr = some entry) : entry ∈ arch.handlers :=
  List.mem_of_find?_eq_some found

/-- What the record alone calls for: its own number, and the arguments where the
kernel takes them from, argument `i` in `x_i`/`r_i`. -/
def expected (nr : SyscallNr → BitVec 32) (record : SvcRecord arch) :
    Except DispatchSyscall.HandlerFault (InstFunCall arch) :=
  DispatchSyscall.recordText record.process (record.handler? nr) (.ok record.gprState.reg) record.call

end SvcRecord

/-- The captured arguments a handler reads. -/
def HandlerBody.argsRead : HandlerBody → List Nat
  | .push texts _ => texts.map ArgText.arg
  | .prctl => [0, 1]

/-- A text that shows its argument: a plain `{:#x}`, or one of the first four
arguments in any form that `fmt` accepts. -/
def ArgText.plain : ArgText → Bool
  | .hex _ _ => true
  | .strAsHex _ _ => false
  | other => other.arg < 4

/-- The handler reads registers only, or every text it pushes is plain. -/
def HandlerBody.showsStack : HandlerBody → Bool
  | .push texts _ => texts.all (·.arg < 4) || texts.all ArgText.plain
  | .prctl => true

/-- No handler reads an argument past the sixth. -/
theorem argsRead_lt {entry : SyscallEntry} (member : entry ∈ arch.handlers) {arg : Nat}
    (read : arg ∈ entry.body.argsRead) : arg < 6 := by
  have checked : arch.handlers.all (fun entry => entry.body.argsRead.all (· < 6)) = true := by
    cases arch <;> decide +kernel
  have bounded := List.all_eq_true.mp (List.all_eq_true.mp checked entry member) arg read
  exact of_decide_eq_true bounded

theorem armHandlers_showsStack {entry : SyscallEntry} (member : entry ∈ armHandlers) :
    entry.body.showsStack = true := by
  have checked : armHandlers.all (·.body.showsStack) = true := by decide +kernel
  exact List.all_eq_true.mp checked entry member

namespace DispatchSyscall

section Render

variable {process : Process arch} {args other : Nat → Word arch}

theorem render_congr {text : ArgText} (same : args text.arg = other text.arg) :
    ArgText.render process args text = ArgText.render process other text := by
  cases text <;> simp only [ArgText.arg] at same <;> simp [ArgText.render, same]

theorem renderAll_congr {texts : List ArgText}
    (same : ∀ text ∈ texts, args text.arg = other text.arg) :
    renderAll process args texts = renderAll process other texts := by
  induction texts with
  | nil => rfl
  | cons text rest ih =>
    simp only [renderAll, render_congr (same text (by simp)),
      ih fun text member => same text (by simp [member])]

/-- What a handler pushes depends on the arguments it reads. -/
theorem run_congr {body : HandlerBody} (same : ∀ arg ∈ body.argsRead, args arg = other arg) :
    HandlerBody.run process args body = HandlerBody.run process other body := by
  cases body with
  | push texts retType =>
    simp only [HandlerBody.run, renderAll_congr fun text member =>
      same text.arg (List.mem_map_of_mem member)]
  | prctl =>
    have first := same 0 (by simp [HandlerBody.argsRead])
    have second := same 1 (by simp [HandlerBody.argsRead])
    simp only [HandlerBody.run, prctlText, first, second]

/-- Two renderings of a plain text are equally many strings, and equal only for
equal words. -/
theorem render_plain (process : Process arch) (low : ∀ arg < 4, args arg = other arg)
    {text : ArgText} (plain : text.plain = true) :
    ∃ strings strings', ArgText.render process args text = .ok strings ∧
      ArgText.render process other text = .ok strings' ∧ strings.length = strings'.length ∧
      (strings = strings' ↔ args text.arg = other text.arg) := by
  cases text with
  | hex name arg =>
    refine ⟨_, _, rfl, rfl, rfl, ?_⟩
    simp only [ArgText.arg, List.cons.injEq, and_true]
    constructor
    · intro texts
      have words := congrArg String.toList texts
      simp only [String.toList_append, List.append_cancel_left_eq] at words
      exact toHex_injective (String.toList_inj.mp words)
    · intro same
      rw [same]
  | strAsHex name arg => cases plain
  | dec name arg | str name arg | hexIfNonzero name arg =>
    have same := low arg (of_decide_eq_true plain)
    exact ⟨_, _, rfl, rfl, by simp [same], by simp [ArgText.arg, same]⟩

theorem renderAll_plain (process : Process arch) (low : ∀ arg < 4, args arg = other arg)
    {texts : List ArgText} (plain : texts.all ArgText.plain = true) :
    ∃ strings strings', renderAll process args texts = .ok strings ∧
      renderAll process other texts = .ok strings' ∧ strings.length = strings'.length ∧
      (strings = strings' ↔ ∀ text ∈ texts, args text.arg = other text.arg) := by
  induction texts with
  | nil => exact ⟨[], [], rfl, rfl, rfl, by simp⟩
  | cons text rest ih =>
    simp only [List.all_cons, Bool.and_eq_true] at plain
    obtain ⟨head, head', shown, shown', lengths, heads⟩ := render_plain process low plain.1
    obtain ⟨tail, tail', all, all', longer, tails⟩ := ih plain.2
    refine ⟨head ++ tail, head' ++ tail', ?_, ?_, by simp [lengths, longer], ?_⟩
    · simp only [renderAll, shown, all]; rfl
    · simp only [renderAll, shown', all']; rfl
    · rw [List.forall_mem_cons, ← heads, ← tails]
      constructor
      · exact fun same => List.append_inj same lengths
      · rintro ⟨rfl, rfl⟩; rfl

/-- A handler fails with a format error or not at all. -/
theorem renderAll_ne_dangling (process : Process arch) (args : Nat → Word arch)
    (texts : List ArgText) : .error .dangling ≠ renderAll process args texts := by
  induction texts with
  | nil => simp [renderAll]
  | cons text rest ih =>
    simp only [renderAll]
    cases text <;> cases tail : renderAll process args rest <;>
      simp_all [ArgText.render, bind, Except.bind, pure, Except.pure]

theorem run_ne_dangling (process : Process arch) (args : Nat → Word arch) (body : HandlerBody) :
    .error .dangling ≠ HandlerBody.run process args body := by
  cases body with
  | prctl => simp [HandlerBody.run]
  | push texts retType =>
    have never := renderAll_ne_dangling process args texts
    cases rendered : renderAll process args texts <;>
      simp_all [HandlerBody.run, bind, Except.bind, pure, Except.pure]

/-- An ARM handler that reads the same registers leaves the same record only if
it reads the same stack arguments. -/
theorem recordText_eq_iff {entry : SyscallEntry} (member : entry ∈ armHandlers)
    (low : ∀ arg < 4, args arg = other arg) (call : InstFunCall arch) :
    recordText process (some entry) (.ok args) call =
        recordText process (some entry) (.ok other) call ↔
      ∀ arg ∈ entry.body.argsRead, args arg = other arg := by
  refine ⟨fun same => ?_, fun same => by simp only [recordText, bind, Except.bind, run_congr same]⟩
  have shows := armHandlers_showsStack member
  cases body : entry.body with
  | prctl => simp [HandlerBody.argsRead, low]
  | push texts retType =>
    simp only [body, HandlerBody.showsStack, Bool.or_eq_true, List.all_eq_true,
      decide_eq_true_eq] at shows
    simp only [HandlerBody.argsRead, List.forall_mem_map]
    rcases shows with registers | plain
    · exact fun text member => low _ (registers text member)
    · obtain ⟨strings, strings', shown, shown', -, equal⟩ :=
        renderAll_plain process low (List.all_eq_true.mpr plain)
      refine equal.mp ?_
      simpa [recordText, body, HandlerBody.run, shown, shown', bind, Except.bind, pure, Except.pure,
        HandlerText.push] using same

end Render

/-- The records in order, each dispatched by a further activation. -/
def dispatchFrom (nr : SyscallNr → BitVec 32) :
    Option Nat → Nat → List (SvcRecord arch) → List (Except HandlerFault (InstFunCall arch))
  | _, _, [] => []
  | builder, activation, record :: rest =>
    let (built, output) :=
      dispatchArgs nr builder activation record.process record.info record.call
    output :: dispatchFrom nr built (activation + 1) rest

/-- All svc records of the process: nobody has built the table before. -/
def dispatchAll (nr : SyscallNr → BitVec 32) (records : List (SvcRecord arch)) :
    List (Except HandlerFault (InstFunCall arch)) :=
  dispatchFrom nr none 0 records

/-- What an activation that did not build the table makes of a record. -/
def late (nr : SyscallNr → BitVec 32) (record : SvcRecord arch) :
    Except HandlerFault (InstFunCall arch) :=
  recordText record.process (record.handler? nr) (.error .dangling) record.call

/-- Once the table is built, every later activation finds dangling captures. -/
theorem dispatchFrom_built (nr : SyscallNr → BitVec 32) {builder activation : Nat}
    (past : builder < activation) (records : List (SvcRecord arch)) :
    dispatchFrom nr (some builder) activation records = records.map (late nr) := by
  induction records generalizing activation with
  | nil => rfl
  | cons record rest ih =>
    have other : builder ≠ activation := by omega
    simp only [dispatchFrom, dispatchArgs, Option.getD_some, other, ↓reduceIte,
      ih (Nat.lt_succ_of_lt past), List.map_cons]
    rfl

/-- The first record is dispatched with its own captures, all others late. -/
theorem dispatchAll_cons (nr : SyscallNr → BitVec 32) (record : SvcRecord arch)
    (rest : List (SvcRecord arch)) :
    dispatchAll nr (record :: rest) =
      recordText record.process (record.handler? nr)
        (.ok (getArgRegisterValue record.process record.info.preStatus)) record.call ::
      rest.map (late nr) := by
  simp only [dispatchAll, dispatchFrom, dispatchArgs, Option.getD_none, ↓reduceIte]
  rw [dispatchFrom_built nr (by omega)]
  rfl

/-- A late activation still records an unknown number, and nothing else. -/
theorem late_eq_expected_iff (nr : SyscallNr → BitVec 32) (record : SvcRecord arch) :
    late nr record = record.expected nr ↔ record.handler? nr = none := by
  cases found : record.handler? nr with
  | none => simp [late, SvcRecord.expected, found, recordText]
  | some entry =>
    have never := run_ne_dangling record.process record.gprState.reg entry.body
    cases pushed : HandlerBody.run record.process record.gprState.reg entry.body <;>
      simp_all [late, SvcRecord.expected, recordText, bind, Except.bind, pure, Except.pure]

/-- Where `get_arg_register_value` finds the six arguments. -/
theorem getArgRegisterValue_arm (process : Process .arm) (status : TraceVmStatus .arm) :
    getArgRegisterValue process status 4 = process.readWord status.gprState.sp ∧
      getArgRegisterValue process status 5 = process.readWord (status.gprState.sp + 8) := by
  simp [getArgRegisterValue, registerValue, Arch.maxRegArgs, Arch.maxStackArgs, Arch.stackSlot,
    Arch.wordBytes]

theorem getArgRegisterValue_aarch64 (process : Process .aarch64) (status : TraceVmStatus .aarch64)
    {arg : Nat} (small : arg < 6) :
    getArgRegisterValue process status arg = status.gprState.reg arg := by
  have inRegisters : arg < Arch.aarch64.maxRegArgs := by simp only [Arch.maxRegArgs]; omega
  have supported : ¬ Arch.aarch64.maxRegArgs + Arch.maxStackArgs ≤ arg := by omega
  simp [getArgRegisterValue, registerValue, inRegisters, supported]

/-- On ARM the fifth and sixth argument are read from the stack, the kernel
takes them from `r4` and `r5`: those the handler prints are the same words. -/
def StackArgsAgree (nr : SyscallNr → BitVec 32) (record : SvcRecord arch) : Prop :=
  arch = .arm → ∀ entry ∈ record.handler? nr,
    (4 ∈ entry.body.argsRead →
      record.process.readWord record.gprState.sp = record.gprState.reg 4) ∧
    (5 ∈ entry.body.argsRead →
      record.process.readWord (record.gprState.sp + 8#_) = record.gprState.reg 5)

theorem stackArgsAgree_arm (nr : SyscallNr → BitVec 32) {record : SvcRecord .arm}
    {entry : SyscallEntry} (found : record.handler? nr = some entry) :
    StackArgsAgree nr record ↔ ∀ arg ∈ entry.body.argsRead,
      getArgRegisterValue record.process record.info.preStatus arg = record.gprState.reg arg := by
  obtain ⟨fifth, sixth⟩ := getArgRegisterValue_arm record.process record.info.preStatus
  simp only [StackArgsAgree, found, Option.mem_def, Option.some.injEq, forall_eq', true_imp_iff]
  constructor
  · rintro ⟨four, five⟩ arg read
    have small := argsRead_lt (SvcRecord.handler?_mem found) read
    by_cases low : arg < 4
    · exact getArgRegisterValue_low _ _ low
    · obtain rfl | rfl : arg = 4 ∨ arg = 5 := by omega
      · exact fifth.trans (four read)
      · exact sixth.trans (five read)
  · intro same
    exact ⟨fun read => fifth.symm.trans (same 4 read), fun read => sixth.symm.trans (same 5 read)⟩

/-- The activation that builds the table meets the kernel's view of its record
exactly when the stack arguments agree. -/
theorem first_eq_expected_iff (nr : SyscallNr → BitVec 32) (record : SvcRecord arch) :
    recordText record.process (record.handler? nr)
        (.ok (getArgRegisterValue record.process record.info.preStatus)) record.call =
      record.expected nr ↔ StackArgsAgree nr record := by
  cases found : record.handler? nr with
  | none => simp [SvcRecord.expected, found, recordText, StackArgsAgree]
  | some entry =>
    rw [SvcRecord.expected, found]
    cases arch with
    | arm =>
      rw [stackArgsAgree_arm nr found]
      exact recordText_eq_iff (SvcRecord.handler?_mem found)
        (fun arg low => getArgRegisterValue_low _ _ low) record.call
    | aarch64 =>
      have same : HandlerBody.run record.process
          (getArgRegisterValue record.process record.info.preStatus) entry.body =
          HandlerBody.run record.process record.gprState.reg entry.body :=
        run_congr fun arg read => getArgRegisterValue_aarch64 _ _
          (argsRead_lt (SvcRecord.handler?_mem found) read)
      simp [StackArgsAgree, recordText, same, bind, Except.bind]

/-- The `k`-th record of any sequence gets the name and arguments of its own
registers exactly when its number has no handler, or it is the first record and
its stack arguments agree. -/
theorem dispatchAll_eq_expected_iff (nr : SyscallNr → BitVec 32) (records : List (SvcRecord arch))
    (k : Nat) {record : SvcRecord arch} (found : records[k]? = some record) :
    (dispatchAll nr records)[k]? = some (record.expected nr) ↔
      record.handler? nr = none ∨ k = 0 ∧ StackArgsAgree nr record := by
  cases records with
  | nil => simp at found
  | cons first rest =>
    rw [dispatchAll_cons]
    cases k with
    | zero =>
      obtain rfl : first = record := by simpa using found
      have unknown : first.handler? nr = none → StackArgsAgree nr first := by
        intro missing
        simp [StackArgsAgree, missing]
      simp only [List.getElem?_cons_zero, Option.some.injEq, first_eq_expected_iff, true_and]
      exact ⟨.inr, fun either => either.elim unknown id⟩
    | succ position =>
      rw [List.getElem?_cons_succ] at found
      simp [found, late_eq_expected_iff]

/-- The AArch64 syscall numbers, which run through the table in order up to
`arch_specific_syscall`. -/
def asmGenericNr (nr : SyscallNr) : BitVec 32 := BitVec.ofNat 32 nr.ctorIdx

/-- An svc with a syscall number and its first argument. -/
def svcRecord (number argument : Word .aarch64) : SvcRecord .aarch64 where
  process := ⟨fun _ => 0, fun _ => "", [], none, fun _ => ""⟩
  info :=
    { seq := 0, pc := 0x1000
      preStatus := { gprState := ⟨fun i => if i = 8 then number else if i = 0 then argument else 0⟩ } }
  call := { isSvc := true }

theorem dispatchAll_eq_expected_iff_first :
    (dispatchAll asmGenericNr [svcRecord 57 3, svcRecord 57 4])[0]? =
      some ((svcRecord 57 3).expected asmGenericNr) :=
  (dispatchAll_eq_expected_iff asmGenericNr [svcRecord 57 3, svcRecord 57 4] 0 rfl).mpr
    (.inr ⟨rfl, fun arm => by cases arm⟩)

/-- Two `close` calls: the second one reads the locals of the first. -/
theorem second_close_dangles :
    (dispatchAll asmGenericNr [svcRecord 57 3, svcRecord 57 4])[1]? = some (.error .dangling) ∧
      (svcRecord 57 4).expected asmGenericNr = .ok
        { isSvc := true, callModuleName := "kernel_syscall", funName := "close"
          args := ["fd=0x4"], retType := .kNumber } ∧
      (dispatchAll asmGenericNr [svcRecord 57 3, svcRecord 57 4])[1]? ≠
        some ((svcRecord 57 4).expected asmGenericNr) :=
  ⟨rfl, rfl, by rintro ⟨⟩⟩

end DispatchSyscall

end QbdiTracer
