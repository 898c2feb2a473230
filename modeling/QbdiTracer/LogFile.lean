import QbdiTracer.LogReading
import QbdiTracer.TraceLog

/-! The trace file of a whole run: when its lines are the records, and what it says of them. -/

namespace QbdiTracer

open FlowRun

variable {arch : Arch}

/-- The lines of a file, each ended by a newline. -/
def logLines (text : String) : List (List Char) := DelimiterCuts.lines '\n' text.toList

def readLog (text : String) : Option (List ShownLine) := (logLines text).mapM readLine

/-- Text that is no delimiter of lines or fields. -/
def PlainText (text : String) : Prop := ∀ c ∈ ['|', '\n'], c ∉ text.toList

instance (text : String) : Decidable (PlainText text) :=
  List.decidableBAll (fun c => c ∉ text.toList) ['|', '\n']

section File

variable {context : LineContext arch} {moduleRange : ModuleRange arch}
  {records : List (String × LogLine arch)}

/-- What the sink makes of a record. -/
def printed (context : LineContext arch) (moduleRange : ModuleRange arch)
    (record : String × LogLine arch) : List Char :=
  (patternText record.1 (lineText context moduleRange record.2)).toList

theorem toList_fileText (context : LineContext arch) (moduleRange : ModuleRange arch)
    (records : List (String × LogLine arch)) :
    (fileText context moduleRange records).toList =
      (records.map (printed context moduleRange)).flatMap (· ++ ['\n']) := by
  simp [fileText, printed, String.toList_join, List.flatMap_map]

/-- The newlines of a file: one for each record, and those in the records' texts. -/
theorem count_newline_fileText (context : LineContext arch) (moduleRange : ModuleRange arch)
    (records : List (String × LogLine arch)) :
    (fileText context moduleRange records).toList.count '\n' =
      (records.map fun record => (printed context moduleRange record).count '\n').sum +
        records.length := by
  rw [toList_fileText]
  induction records with
  | nil => rfl
  | cons record records ih =>
    rw [List.map_cons, List.flatMap_cons, List.count_append, List.count_append, ih, List.map_cons,
      List.sum_cons, List.length_cons]
    have one : ['\n'].count '\n' = 1 := rfl
    omega

theorem length_logLines_iff : (logLines (fileText context moduleRange records)).length =
    records.length ↔ ∀ record ∈ records, '\n' ∉ printed context moduleRange record := by
  rw [logLines, DelimiterCuts.length_lines, count_newline_fileText, Nat.add_eq_right,
    List.sum_eq_zero_iff_forall_eq_nat, List.forall_mem_map]
  exact forall₂_congr fun record _ => List.count_eq_zero

theorem logLines_fileText (whole : ∀ record ∈ records, '\n' ∉ printed context moduleRange record) :
    logLines (fileText context moduleRange records) =
      records.map (printed context moduleRange) := by
  have free : ∀ text ∈ records.map (printed context moduleRange), '\n' ∉ text := by
    intro text member
    obtain ⟨record, listed, rfl⟩ := List.mem_map.mp member
    exact whole record listed
  rw [logLines, toList_fileText, DelimiterCuts.lines_terminated free]

/-- Only the call field can break a line. -/
theorem newline_printed_iff {record : String × LogLine arch} (names : context.Free '\n')
    (clock : PlainText record.1) (disassembly : PlainText record.2.inst.disassembly) :
    '\n' ∉ printed context moduleRange record ↔
      '\n' ∉ (formatCallInfo record.2.info).toList := by
  have fields : ∀ field ∈ lineFields context moduleRange record.1 record.2, '\n' ∉ field :=
    not_mem_lineFields (by decide) names (clock _ (by decide)) (disassembly _ (by decide))
  have front : '\n' ∉ (lineFields context moduleRange record.1 record.2).flatMap (· ++ ['|']) := by
    intro member
    obtain ⟨field, listed, inside⟩ := List.mem_flatMap.mp member
    rcases List.mem_append.mp inside with here | bar
    · exact fields field listed here
    · cases List.mem_singleton.mp bar
  rw [printed, toList_patternText, List.mem_append, not_or]
  exact ⟨And.right, fun call => ⟨front, call⟩⟩

/-- The records whose texts hold no newline are read back from their lines. -/
theorem readLog_printed (bars : context.Free '|')
    (clock : ∀ record ∈ records, PlainText record.1)
    (disassembly : ∀ record ∈ records, PlainText record.2.inst.disassembly)
    (whole : ∀ record ∈ records, '\n' ∉ printed context moduleRange record) :
    readLog (fileText context moduleRange records) =
      some (records.map fun record => record.2.shown context moduleRange) := by
  rw [readLog, logLines_fileText whole]
  clear whole
  induction records with
  | nil => rfl
  | cons record records ih =>
    have line : readLine (patternText record.1 (lineText context moduleRange record.2)).toList =
        some (record.2.shown context moduleRange) := readLine_patternText bars
      (clock record List.mem_cons_self _ (by decide))
      (disassembly record List.mem_cons_self _ (by decide))
    have later := ih (fun other member => clock other (List.mem_cons_of_mem _ member))
      fun other member => disassembly other (List.mem_cons_of_mem _ member)
    rw [List.map_cons, List.mapM_cons, later, printed, line]
    rfl

/-- The records whose calls hold no newline are read back. -/
theorem readLog_calls (bars : context.Free '|') (names : context.Free '\n')
    (clock : ∀ record ∈ records, PlainText record.1)
    (disassembly : ∀ record ∈ records, PlainText record.2.inst.disassembly)
    (calls : ∀ record ∈ records, '\n' ∉ (formatCallInfo record.2.info).toList) :
    readLog (fileText context moduleRange records) =
      some (records.map fun record => record.2.shown context moduleRange) := by
  apply readLog_printed bars clock disassembly
  intro record listed
  rw [newline_printed_iff names (clock record listed) (disassembly record listed)]
  exact calls record listed

/-- A file has one line for each record exactly when no call field holds a newline, and
then every record is read back from its line. -/
theorem readLog_fileText (bars : context.Free '|') (names : context.Free '\n')
    (clock : ∀ record ∈ records, PlainText record.1)
    (disassembly : ∀ record ∈ records, PlainText record.2.inst.disassembly) :
    ((logLines (fileText context moduleRange records)).length = records.length ↔
      ∀ record ∈ records, '\n' ∉ (formatCallInfo record.2.info).toList) ∧
    ((∀ record ∈ records, '\n' ∉ (formatCallInfo record.2.info).toList) →
      readLog (fileText context moduleRange records) =
        some (records.map fun record => record.2.shown context moduleRange)) := by
  refine ⟨length_logLines_iff.trans ?_, readLog_calls bars names clock disassembly⟩
  exact forall₂_congr fun record listed =>
    newline_printed_iff names (clock record listed) (disassembly record listed)

/-- A call with a newline in an argument breaks its line. -/
theorem readLog_fileText_newline :
    let context : LineContext .aarch64 :=
      { operands := fun _ => [], texts := fun _ => ⟨fun _ => "", fun _ => "", 0, 0⟩ }
    let line : LogLine .aarch64 :=
      { info := { seq := 0, pc := 0x1004, funCall := some { funName := "puts", args := ["a\nb"] } }
        inst := { address := 0x1004, disassembly := "\tbl\t#16" }
        accesses := [] }
    (logLines (fileText context ⟨0x1000, 0x1fff⟩ [("00:31:57.995", line)])).length ≠ 1 := by
  intro context line one
  have plain : ∀ c : Char, context.Free c :=
    fun c => ⟨by simp [context], by simp [context], by simp [context]⟩
  have lines := (@readLog_fileText _ context ⟨0x1000, 0x1fff⟩ [("00:31:57.995", line)] (plain '|')
    (plain '\n') (by decide) (by decide)).1.mp one
  exact absurd (lines _ List.mem_cons_self) (by decide)

end File

/-- The line says what it was asked to show, each access at some place. -/
structure ShownLine.Reports (context : LineContext arch) (moduleRange : ModuleRange arch)
    (shown : ShownLine) (request : WriteRequest arch) : Prop where
  pc : shown.pc = request.info.pc.toNat
  offset : shown.offset = (request.info.pc - moduleRange.base).toNat
  disassembly : shown.disassembly = (trim request.inst.disassembly).toList
  registers : shown.registers = (context.registers request.info request.inst).toList
  accesses : List.Forall₂ (fun entry access => ∃ place, entry = AccessInfo.shown ⟨access, place⟩)
    shown.accesses request.memoryAccesses
  call : shown.call = (formatCallInfo request.info).toList

theorem LogLine.Shows.reports {line : LogLine arch} {request : WriteRequest arch}
    (shows : line.Shows request) (context : LineContext arch) (moduleRange : ModuleRange arch) :
    (line.shown context moduleRange).Reports context moduleRange request := by
  have places : List.Forall₂ (fun entry access => ∃ place, entry = AccessInfo.shown ⟨access, place⟩)
      (line.accesses.map AccessInfo.shown) (line.accesses.map (·.access)) := by
    rw [List.forall₂_map_left_iff, List.forall₂_map_right_iff]
    exact List.forall₂_same.mpr fun entry _ => ⟨entry.place, rfl⟩
  rw [shows.accesses] at places
  rw [LogLine.shown, shows.info, shows.inst]
  refine ⟨?_, ?_, ?_, ?_, places, ?_⟩ <;> simp only

section Requests

variable {lines : List (LogLine arch)} {requests : List (WriteRequest arch)}

theorem exists_shows (agree : List.Forall₂ LogLine.Shows lines requests) :
    ∀ line ∈ lines, ∃ request ∈ requests, line.Shows request := by
  intro line member
  obtain ⟨i, bound, rfl⟩ := List.getElem_of_mem member
  have here : i < requests.length := agree.length_eq ▸ bound
  exact ⟨_, List.getElem_mem here, (List.forall₂_iff_get.mp agree).2 i bound here⟩

/-- The lines of requests, each with its stamp, read back as what was asked. -/
theorem readLog_requests {context : LineContext arch} {stamps : List String}
    (moduleRange : ModuleRange arch) (agree : List.Forall₂ LogLine.Shows lines requests)
    (bars : context.Free '|') (names : context.Free '\n')
    (disassembly : ∀ request ∈ requests, PlainText request.inst.disassembly)
    (calls : ∀ request ∈ requests, '\n' ∉ (formatCallInfo request.info).toList)
    (clock : ∀ stamp ∈ stamps, PlainText stamp) (timed : stamps.length = requests.length) :
    ∃ shown, readLog (fileText context moduleRange (stamps.zip lines)) = some shown ∧
      List.Forall₂ (ShownLine.Reports context moduleRange) shown requests := by
  have read := @readLog_calls _ context moduleRange (stamps.zip lines) bars names
    (fun record member => clock record.1 (List.of_mem_zip member).1)
    (fun record member => by
      obtain ⟨request, asked, shows⟩ := exists_shows agree record.2 (List.of_mem_zip member).2
      rw [shows.inst]
      exact disassembly request asked)
    (fun record member => by
      obtain ⟨request, asked, shows⟩ := exists_shows agree record.2 (List.of_mem_zip member).2
      rw [shows.info]
      exact calls request asked)
  have unzipped : (stamps.zip lines).map (fun record => record.2.shown context moduleRange) =
      lines.map (·.shown context moduleRange) := by
    have same : (stamps.zip lines).map Prod.snd = lines :=
      List.map_snd_zip (Nat.le_of_eq (agree.length_eq.trans timed.symm))
    conv_rhs => rw [← same, List.map_map]
    rfl
  refine ⟨_, read, ?_⟩
  rw [unzipped, List.forall₂_map_left_iff]
  exact agree.imp fun _ _ shows => shows.reports context moduleRange

end Requests

namespace InstructionTracerManager

/-- A line is written with the analysis of a recorded instruction. -/
theorem mem_lineRequests {tracer : InstructionTracerManager arch}
    {manager : InstructionInfoManager arch} {svcHook : Bool}
    {recorded : List (Execution arch × Nat)} {request : WriteRequest arch}
    (member : request ∈ tracer.lineRequests manager svcHook recorded) :
    ∃ entry ∈ recorded, request.inst = entry.1.inst := by
  induction recorded using List.reverseRecOn with
  | nil => cases member
  | append_singleton recorded entry ih =>
    rw [lineRequests_concat, List.mem_append] at member
    rcases member with earlier | here
    · obtain ⟨origin, listed, same⟩ := ih earlier
      exact ⟨origin, List.mem_append_left _ listed, same⟩
    · rcases List.mem_append.mp here with called | own
      · cases ending : recorded.getLast? with
        | none => simp [callLine, ending] at called
        | some last =>
          simp only [callLine, ending, List.mem_ite_nil_right, List.mem_singleton] at called
          obtain ⟨-, rfl⟩ := called
          exact ⟨last, List.mem_append_left _ (List.mem_of_getLast? ending), rfl⟩
      · simp only [ownLine, List.mem_ite_nil_left, List.mem_singleton] at own
        obtain ⟨-, rfl⟩ := own
        exact ⟨entry, List.mem_append_right _ (List.mem_singleton_self _), rfl⟩

/-- Of a run with a file sink, the file reads back as the lines of the recorded
instructions. -/
theorem run_file_reads {tracer after : InstructionTracerManager arch}
    {manager : InstructionInfoManager arch} {svcHook : Bool} {executions : List (Execution arch)}
    {flow : VMAction} {context : LineContext arch} {stamps : List String}
    (fresh : tracer.Fresh manager svcHook)
    (safe : (tracer.recordedExecutions executions).IsChain (SafeNeighbours svcHook))
    (ran : run execute tracer executions = .ok (flow, after))
    (sink : manager.logger.fileLog = true) (empty : manager.logger.lines = [])
    (bars : context.Free '|') (names : context.Free '\n')
    (disassembly : ∀ execution ∈ executions, PlainText execution.inst.disassembly)
    (calls : ∀ request ∈ tracer.lineRequests manager svcHook
      (tracer.recordedExecutions executions), '\n' ∉ (formatCallInfo request.info).toList)
    (clock : ∀ stamp ∈ stamps, PlainText stamp)
    (timed : stamps.length = (tracer.lineRequests manager svcHook
      (tracer.recordedExecutions executions)).length) :
    ∃ finished shown, after.infoManager = some finished ∧
      readLog (fileText context manager.logger.moduleRange
        (stamps.zip finished.logger.lines)) = some shown ∧
      List.Forall₂ (ShownLine.Reports context manager.logger.moduleRange) shown
        (tracer.lineRequests manager svcHook (tracer.recordedExecutions executions)) := by
  obtain ⟨finished, logs⟩ := fresh.hasLogged.run fresh.callbacks safe ran
  obtain ⟨added, lines, agree⟩ := LoggerManager.foldlM_write_lines
    (by simp [LoggerManager.hasSink, sink]) logs.logged
  rw [empty, List.nil_append] at lines
  subst lines
  have plain : ∀ request ∈ tracer.lineRequests manager svcHook
      (tracer.recordedExecutions executions), PlainText request.inst.disassembly := by
    intro request asked
    obtain ⟨entry, recorded, same⟩ := mem_lineRequests asked
    rw [same]
    exact disassembly entry.1 (List.fst_mem_of_mem_zipIdx (List.mem_of_mem_filter recorded))
  obtain ⟨shown, read, reports⟩ :=
    readLog_requests manager.logger.moduleRange agree bars names plain calls clock timed
  exact ⟨finished, shown, logs.present, read, reports⟩

theorem run_file_reads_branch :
    let tracer := tracedModule (onceCallbacks true) []
    let context : LineContext .aarch64 :=
      { operands := fun _ => [], texts := fun _ => ⟨fun _ => "", fun _ => "", 0, 0⟩ }
    let requests := tracer.lineRequests
      { moduleRange := ⟨0x1000, 0x1fff⟩
        dispatchManager := bareDispatchers
        logger := { fileLog := true, moduleRange := ⟨0x1000, 0x1fff⟩ } } true
      (tracer.recordedExecutions [plainAt 0x1000, branchAt 0x1004 0x1010, svcAt 0x1010])
    requests.length = 2 ∧
    ∃ (lines : List (LogLine .aarch64)) (shown : List ShownLine),
      readLog (fileText context ⟨0x1000, 0x1fff⟩ (["00:31:57.995", "00:31:57.996"].zip lines)) =
        some shown ∧
      List.Forall₂ (ShownLine.Reports context ⟨0x1000, 0x1fff⟩) shown requests := by
  intro tracer context requests
  have plain : ∀ c : Char, context.Free c :=
    fun c => ⟨by simp [context], by simp [context], by simp [context]⟩
  have calls : ∀ request ∈ requests, '\n' ∉ (formatCallInfo request.info).toList := by decide
  have clock : ∀ stamp ∈ ["00:31:57.995", "00:31:57.996"], PlainText stamp := by decide
  refine ⟨by rfl, ?_⟩
  obtain ⟨finished, shown, -, read, agree⟩ := run_file_reads (tracedModule_fresh true [])
    (by decide) (by rfl) rfl rfl (plain '|') (plain '\n') (by decide) calls clock (by rfl)
  exact ⟨finished.logger.lines, shown, read, agree⟩

end InstructionTracerManager

end QbdiTracer
