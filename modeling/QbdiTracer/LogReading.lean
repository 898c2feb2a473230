import QbdiTracer.LogText
import QbdiTracer.LineRegisters

/-! Reading a trace log: the fields of a line, its accesses with their numbers, and the
lines of a whole file. -/

namespace QbdiTracer

open HexFormats

variable {arch : Arch}

theorem toList_numberText (value : Nat) : (numberText value).toList = hexText value := by
  rw [numberText, String.toList_append, String.toList_ofList]
  simp [hexText]

theorem toList_toHex {n : Nat} (value : BitVec n) : (toHex value).toList = hexText value.toNat :=
  toList_numberText value.toNat

/-- The four ways an access is printed. -/
inductive AccessForm where
  | inModule (type : MemoryAccessType)
  | inMemory (type : MemoryAccessType)
  deriving DecidableEq

def AccessForm.format : AccessForm → List Piece
  | .inModule .read => [.text "read module offset:".toList, .hex, .text " size:".toList, .hex,
      .text " => ".toList, .hex]
  | .inModule .write => [.text "write module offset:".toList, .hex, .text " size:".toList, .hex,
      .text " => ".toList, .hex, .text " ".toList]
  | .inMemory .read => [.text "read memory:".toList, .hex, .text "=>".toList, .hex,
      .text " memory block index:".toList, .hex, .text " size:".toList, .hex,
      .text " offset:".toList, .hex]
  | .inMemory .write => [.text "write memory:".toList, .hex, .text "=>".toList, .hex,
      .text " memory block index:".toList, .hex, .text " size:".toList, .hex,
      .text " offset:".toList, .hex]

def accessForms : List AccessForm :=
  [.inModule .read, .inModule .write, .inMemory .read, .inMemory .write]

theorem mem_accessForms (form : AccessForm) : form ∈ accessForms := by
  rcases form with type | type <;> cases type <;> decide

/-- The form of an access and the numbers it shows: offset, size and value, or address,
value, block index, size and offset. -/
def AccessInfo.shown (entry : AccessInfo arch) : AccessForm × List Nat :=
  let ma := entry.access
  match entry.place with
  | .moduleOffset offset => (.inModule ma.type, [offset.toNat, ma.size, ma.value.toNat])
  | .memoryBlock offset index =>
    (.inMemory ma.type, [ma.accessAddress.toNat, ma.value.toNat, index, ma.size, offset.toNat])

theorem toList_accessText (entry : AccessInfo arch) :
    (accessText entry).toList = render entry.shown.1.format entry.shown.2 := by
  rcases entry with ⟨access, offset | ⟨offset, index⟩⟩ <;> rcases type : access.type <;>
    simp only [accessText, AccessInfo.shown, AccessForm.format, type, toList_toHex,
      toList_numberText, render, String.toList_append, List.append_assoc, List.append_nil]

def readAccess (text : List Char) : Option (AccessForm × List Nat) :=
  readForms (accessForms.map fun form => (form, form.format)) text

theorem readAccess_accessText (entry : AccessInfo arch) :
    readAccess (accessText entry).toList = some entry.shown := by
  have apart : (accessForms.map fun form => (form, form.format)).Pairwise
      fun first second => BeginApart first.2 second.2 := by decide
  have member := List.mem_map_of_mem (f := fun form => (form, AccessForm.format form))
    (mem_accessForms entry.shown.1)
  have separate : ∀ form : AccessForm, separated form.format = true := by
    rintro (type | type) <;> cases type <;> decide
  have count : entry.shown.2.length = slots entry.shown.1.format := by
    rcases entry with ⟨⟨_, _, _, type⟩, _ | _⟩ <;> cases type <;> rfl
  rw [toList_accessText]
  exact readForms_render apart member (separate _) count

/-- The characters that part accesses, fields and lines are in no access. -/
theorem not_mem_accessText {c : Char} (delimiter : c ∈ [',', '|', '\n']) (entry : AccessInfo arch) :
    c ∉ (accessText entry).toList := by
  have foreign : ∀ form : AccessForm, Foreign form.format c := by
    simp only [List.mem_cons, List.not_mem_nil, or_false] at delimiter
    rintro (type | type) <;> cases type <;> rcases delimiter with rfl | rfl | rfl <;> decide
  rw [toList_accessText]
  exact (foreign _).not_mem_render _

/-- The elements of a bracketed list, by its commas. -/
def readList (text : List Char) : Option (List (List Char)) :=
  match text with
  | '[' :: rest => if rest.getLast? = some ']' then some (rest.dropLast.splitOn ',') else none
  | _ => none

theorem toList_bracketed (elements : List String) :
    (bracketed elements).toList = '[' :: ([','].intercalate (elements.map String.toList) ++ [']']) := by
  simp [bracketed, String.toList_intercalate]

theorem readList_bracketed {elements : List String} (nonempty : elements ≠ [])
    (plain : ∀ element ∈ elements, ',' ∉ element.toList) :
    readList (bracketed elements).toList = some (elements.map String.toList) := by
  have free : ∀ text ∈ elements.map String.toList, ',' ∉ text := by
    intro text member
    obtain ⟨element, listed, rfl⟩ := List.mem_map.mp member
    exact plain element listed
  rw [toList_bracketed]
  simp only [readList, List.getLast?_concat, if_true, List.dropLast_concat]
  rw [List.splitOn_intercalate _ free (by simpa using nonempty)]

/-- The access field of a line. -/
def readAccesses (text : List Char) : Option (List (AccessForm × List Nat)) :=
  if text = [] then some [] else (readList text).bind fun elements => elements.mapM readAccess

theorem mapM_readAccess (entries : List (AccessInfo arch)) :
    ((entries.map accessText).map String.toList).mapM readAccess =
      some (entries.map AccessInfo.shown) := by
  induction entries with
  | nil => rfl
  | cons entry entries ih =>
    simp only [List.map_cons, List.mapM_cons, readAccess_accessText, ih]
    rfl

theorem readAccesses_accessInfoText (entries : List (AccessInfo arch)) :
    readAccesses (accessInfoText entries).toList = some (entries.map AccessInfo.shown) := by
  cases entries with
  | nil => rfl
  | cons entry entries =>
    have plain : ∀ text ∈ (entry :: entries).map accessText, ',' ∉ text.toList := by
      intro text member
      obtain ⟨shown, -, rfl⟩ := List.mem_map.mp member
      exact not_mem_accessText (by decide) shown
    have listed := readList_bracketed (by simp) plain
    have some_text : (bracketed ((entry :: entries).map accessText)).toList ≠ [] := by
      rw [toList_bracketed]
      exact List.cons_ne_nil _ _
    rw [accessInfoText, if_neg (by simp), joinList_eq, readAccesses, if_neg some_text, listed,
      Option.bind_some, mapM_readAccess]

theorem not_mem_bracketed {c : Char} {elements : List String} (other : c ∉ ['[', ',', ']'])
    (plain : ∀ element ∈ elements, c ∉ element.toList) : c ∉ (bracketed elements).toList := by
  have inner : c ∉ [','].intercalate (elements.map String.toList) := by
    rcases elements.eq_nil_or_concat with rfl | ⟨init, last, rfl⟩
    · simp
    · simp only [List.concat_eq_append] at plain ⊢
      rw [List.map_append, List.map_singleton, DelimiterCuts.intercalate_concat, List.mem_append,
        not_or]
      refine ⟨?_, plain last (by simp)⟩
      intro member
      obtain ⟨text, listed, inside⟩ := List.mem_flatMap.mp member
      obtain ⟨element, origin, rfl⟩ := List.mem_map.mp listed
      rcases List.mem_append.mp inside with here | comma
      · exact plain element (List.mem_append_left _ origin) here
      · exact other (by simp [List.mem_singleton.mp comma])
  rw [toList_bracketed]
  simp only [List.mem_cons, List.not_mem_nil, or_false, not_or] at other
  simp [other.1, other.2.2, inner]

theorem not_mem_accessInfoText {c : Char} (delimiter : c ∈ ['|', '\n'])
    (entries : List (AccessInfo arch)) : c ∉ (accessInfoText entries).toList := by
  have among : c ∈ [',', '|', '\n'] := List.mem_cons_of_mem _ delimiter
  have other : c ∉ ['[', ',', ']'] := by
    rcases List.mem_cons.mp delimiter with rfl | newline
    · decide
    · rw [List.mem_singleton.mp newline]
      decide
  rw [accessInfoText]
  split
  · simp
  · rw [joinList_eq]
    refine not_mem_bracketed other fun text member => ?_
    obtain ⟨entry, -, rfl⟩ := List.mem_map.mp member
    exact not_mem_accessText among entry

/-- The character is in no register name and in no text of a floating-point value. -/
structure LineContext.Free (context : LineContext arch) (c : Char) : Prop where
  name : ∀ inst, ∀ operand ∈ context.operands inst, ∀ name ∈ operand.regName, c ∉ name.toList
  float : ∀ info bits, c ∉ ((context.texts info).float bits).toList
  double : ∀ info bits, c ∉ ((context.texts info).double bits).toList

section Registers

variable {texts : RegisterTexts} {info : InstTraceInfo arch} {operand : OperandAnalysis} {c : Char}

theorem not_mem_toHex {n : Nat} (delimiter : c ∈ ['|', '\n']) (value : BitVec n) :
    c ∉ (toHex value).toList := by
  have other : ∀ c ∈ ['|', '\n'], CText.isDigit 16 c = false ∧ c ≠ 'x' := by
    simp [CText.isDigit, CText.digitValue]
  rw [toList_toHex]
  exact not_mem_hexText (other c delimiter).1 (other c delimiter).2 _

theorem not_mem_registerEntry (delimiter : c ∈ ['|', '\n']) {name value : String}
    (named : c ∉ name.toList) (valued : c ∉ value.toList) :
    c ∉ (registerEntry name value).toList := by
  have other : ∀ c ∈ ['|', '\n'], c ∉ "= ".toList := by simp
  rw [registerEntry, String.toList_append, String.toList_append]
  simp only [List.mem_append, not_or]
  exact ⟨⟨named, other c delimiter⟩, valued⟩

theorem not_mem_valueText (delimiter : c ∈ ['|', '\n'])
    (float : ∀ bits, c ∉ (texts.float bits).toList)
    (double : ∀ bits, c ∉ (texts.double bits).toList) (status : TraceVmStatus arch)
    (name : String) : c ∉ (operand.valueText texts status name).toList := by
  cases arch <;> simp only [OperandAnalysis.valueText]
  case aarch64 =>
    split
    · exact not_mem_toHex delimiter _
    · exact not_mem_toHex delimiter _
  case arm =>
    split
    · exact not_mem_toHex delimiter _
    · split
      · exact float _
      · split
        · exact double _
        · exact not_mem_toHex delimiter _

theorem not_mem_postEntry (delimiter : c ∈ ['|', '\n'])
    (float : ∀ bits, c ∉ (texts.float bits).toList)
    (double : ∀ bits, c ∉ (texts.double bits).toList)
    (named : ∀ name ∈ operand.regName, c ∉ name.toList) {entry : String}
    (printed : operand.postEntry texts info = some entry) : c ∉ entry.toList := by
  obtain ⟨name, shown, rfl⟩ := Option.map_eq_some_iff.mp printed
  exact not_mem_registerEntry delimiter (named name (shownName_eq_some.mp shown).1)
    (not_mem_valueText delimiter float double _ _)

theorem not_mem_preEntry (delimiter : c ∈ ['|', '\n'])
    (float : ∀ bits, c ∉ (texts.float bits).toList)
    (double : ∀ bits, c ∉ (texts.double bits).toList)
    (named : ∀ name ∈ operand.regName, c ∉ name.toList) {entry : String}
    (printed : operand.preEntry texts info = some entry) : c ∉ entry.toList := by
  rw [OperandAnalysis.preEntry] at printed
  split at printed
  · obtain ⟨name, shown, rfl⟩ := Option.map_eq_some_iff.mp printed
    exact not_mem_registerEntry delimiter (named name (shownName_eq_some.mp shown).1)
      (not_mem_valueText delimiter float double _ _)
  · cases printed

/-- The addresses a quad register is printed with. -/
theorem not_mem_quadEntry (delimiter : c ∈ ['|', '\n']) {name entry : String}
    (named : c ∉ name.toList) {before : Bool} {pre post : BitVec 64}
    (member : entry ∈ (if before then [registerEntry name (toHex pre)] else []) ++
      [registerEntry name (toHex post)]) : c ∉ entry.toList := by
  have address : ∀ value : BitVec 64, c ∉ (registerEntry name (toHex value)).toList :=
    fun value => not_mem_registerEntry delimiter named (not_mem_toHex delimiter value)
  rcases List.mem_append.mp member with first | after
  · split at first
    · rw [List.mem_singleton.mp first]
      exact address _
    · cases first
  · rw [List.mem_singleton.mp after]
    exact address _

theorem not_mem_registerOperand (delimiter : c ∈ ['|', '\n'])
    (float : ∀ bits, c ∉ (texts.float bits).toList)
    (double : ∀ bits, c ∉ (texts.double bits).toList)
    (named : ∀ name ∈ operand.regName, c ∉ name.toList) {entry : String}
    (member : entry ∈ (registerOperand texts info {} operand).cur ∨
      entry ∈ (registerOperand texts info {} operand).read) : c ∉ entry.toList := by
  have post : operand.postEntry texts info = some entry → c ∉ entry.toList :=
    not_mem_postEntry delimiter float double named
  have pre : operand.preEntry texts info = some entry → c ∉ entry.toList :=
    not_mem_preEntry delimiter float double named
  cases arch with
  | aarch64 =>
    rw [registerOperand_aarch64] at member
    rcases member with cur | read
    · exact post (Option.mem_toList.mp cur)
    · exact pre (Option.mem_toList.mp read)
  | arm =>
    cases shown : operand.shownName .arm with
    | none =>
      rw [registerOperand_hidden texts info shown] at member
      simp at member
    | some name =>
      rw [registerOperand_arm texts info shown] at member
      split at member
      · rcases member with cur | read
        · exact post (Option.mem_toList.mp cur)
        · cases read
      · split at member
        · rcases member with cur | read
          · exact not_mem_quadEntry delimiter (named name (shownName_eq_some.mp shown).1) cur
          · cases read
        · rcases member with cur | read
          · exact post (Option.mem_toList.mp cur)
          · exact pre (Option.mem_toList.mp read)

theorem LineContext.Free.not_mem_registers {context : LineContext arch}
    (free : context.Free c) (delimiter : c ∈ ['|', '\n']) (info : InstTraceInfo arch)
    (inst : InstAnalysis arch) : c ∉ (context.registers info inst).toList := by
  have brackets : ∀ c ∈ ['|', '\n'], c ∉ ['[', ',', ']'] ∧ c ∉ ",".toList := by simp
  have operands : ∀ operand ∈ context.operands inst, ∀ entry,
      entry ∈ (registerOperand (context.texts info) info {} operand).cur ∨
        entry ∈ (registerOperand (context.texts info) info {} operand).read → c ∉ entry.toList :=
    fun operand listed entry member => not_mem_registerOperand delimiter (free.float info)
      (free.double info) (free.name inst operand listed) member
  have cur : ∀ entry ∈ (registerVectors (context.texts info) info (context.operands inst)).cur,
      c ∉ entry.toList := by
    intro entry member
    rw [registerVectors_eq] at member
    obtain ⟨operand, listed, added⟩ := List.mem_flatMap.mp member
    exact operands operand listed entry (.inl added)
  have read : ∀ entry ∈ (registerVectors (context.texts info) info (context.operands inst)).read,
      c ∉ entry.toList := by
    intro entry member
    rw [registerVectors_eq] at member
    obtain ⟨operand, listed, added⟩ := List.mem_flatMap.mp member
    exact operands operand listed entry (.inr added)
  rw [registers, formatRegisterInfo_eq, printedLists, String.toList_append, String.toList_append]
  simp only [List.mem_append, not_or]
  refine ⟨by simp, ?_, ?_⟩
  · split
    · simp
    · exact not_mem_bracketed (brackets c delimiter).1 cur
  · split
    · simp
    · rw [String.toList_append, List.mem_append, not_or]
      exact ⟨(brackets c delimiter).2, not_mem_bracketed (brackets c delimiter).1 read⟩

end Registers

/-- What a line says. -/
structure ShownLine where
  pc : Nat
  offset : Nat
  disassembly : List Char
  registers : List Char
  accesses : List (AccessForm × List Nat)
  call : List Char
  deriving DecidableEq

def LogLine.shown (context : LineContext arch) (moduleRange : ModuleRange arch)
    (line : LogLine arch) : ShownLine where
  pc := line.info.pc.toNat
  offset := (line.info.pc - moduleRange.base).toNat
  disassembly := (trim line.inst.disassembly).toList
  registers := (context.registers line.info line.inst).toList
  accesses := line.accesses.map AccessInfo.shown
  call := (formatCallInfo line.info).toList

def readNumber (text : List Char) : Option Nat :=
  match scanHex text with
  | some (value, []) => some value
  | _ => none

theorem readNumber_hexText (value : Nat) : readNumber (hexText value) = some value := by
  have read := @scanHex_hexText [] value rfl
  rw [List.append_nil] at read
  rw [readNumber, read]

/-- The fields between the bars; the first one is what the sink put in front. -/
def readLine (text : List Char) : Option ShownLine :=
  match DelimiterCuts.fields '|' 6 text with
  | [_, pc, offset, disassembly, registers, accesses, call] =>
    (readNumber pc).bind fun pc => (readNumber offset).bind fun offset =>
      (readAccesses accesses).map fun accesses =>
        { pc, offset, disassembly, registers, accesses, call }
  | _ => none

theorem mem_of_mem_trim {c : Char} {str : String} (member : c ∈ (trim str).toList) :
    c ∈ str.toList := by
  rw [trim, rtrim, ltrim, String.toList_ofList, String.toList_ofList] at member
  exact (List.dropWhile_suffix _).subset ((List.rdropWhile_prefix _ _).subset member)

section Line

variable {context : LineContext arch} {moduleRange : ModuleRange arch} {line : LogLine arch}
  {stamp : String} {c : Char}

/-- The fields of a line in front of its call. -/
def lineFields (context : LineContext arch) (moduleRange : ModuleRange arch) (stamp : String)
    (line : LogLine arch) : List (List Char) :=
  [patternText stamp "", toHex line.info.pc, toHex (line.info.pc - moduleRange.base),
    trim line.inst.disassembly, context.registers line.info line.inst,
    accessInfoText line.accesses].map String.toList

theorem toList_patternText (context : LineContext arch) (moduleRange : ModuleRange arch)
    (stamp : String) (line : LogLine arch) :
    (patternText stamp (lineText context moduleRange line)).toList =
      (lineFields context moduleRange stamp line).flatMap (· ++ ['|']) ++
        (formatCallInfo line.info).toList := by
  delta lineText
  simp only [patternText, lineFields, String.toList_append, List.map_cons, List.map_nil,
    List.flatMap_cons, List.flatMap_nil, List.append_assoc, List.append_nil, String.toList_empty]
  rfl

theorem not_mem_lineFields (delimiter : c ∈ ['|', '\n']) (free : context.Free c)
    (clock : c ∉ stamp.toList) (disassembly : c ∉ line.inst.disassembly.toList) :
    ∀ field ∈ lineFields context moduleRange stamp line, c ∉ field := by
  have frame : ∀ c ∈ ['|', '\n'], c ∉ "[".toList ∧ c ∉ "] ".toList := by simp
  have pattern : c ∉ (patternText stamp "").toList := by
    simp only [patternText, String.toList_append, List.mem_append, not_or]
    exact ⟨⟨⟨(frame c delimiter).1, clock⟩, (frame c delimiter).2⟩, by simp⟩
  intro field member
  obtain ⟨text, listed, rfl⟩ := List.mem_map.mp member
  simp only [List.mem_cons, List.not_mem_nil, or_false] at listed
  rcases listed with rfl | rfl | rfl | rfl | rfl | rfl
  · exact pattern
  · exact not_mem_toHex delimiter _
  · exact not_mem_toHex delimiter _
  · exact fun inside => disassembly (mem_of_mem_trim inside)
  · exact free.not_mem_registers delimiter _ _
  · exact not_mem_accessInfoText delimiter _

/-- A line is read back, whatever its call field holds. -/
theorem readLine_patternText (free : context.Free '|') (clock : '|' ∉ stamp.toList)
    (disassembly : '|' ∉ line.inst.disassembly.toList) :
    readLine (patternText stamp (lineText context moduleRange line)).toList =
      some (line.shown context moduleRange) := by
  have separated : ∀ field ∈ lineFields context moduleRange stamp line, '|' ∉ field :=
    not_mem_lineFields (by decide) free clock disassembly
  have cut := DelimiterCuts.fields_joined separated (formatCallInfo line.info).toList
  rw [← toList_patternText] at cut
  have six : (lineFields context moduleRange stamp line).length = 6 := rfl
  rw [six] at cut
  rw [readLine, cut]
  simp only [lineFields, List.map_cons, List.map_nil, List.cons_append, List.nil_append,
    toList_toHex, readNumber_hexText, readAccesses_accessInfoText, Option.bind_some,
    Option.map_some]
  rfl

end Line

end QbdiTracer
