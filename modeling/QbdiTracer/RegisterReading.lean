import QbdiTracer.LogReading

/-! On AArch64 the register field of a line is read back: names and numbers, after the
instruction and before it. -/

namespace QbdiTracer

open HexFormats DelimiterCuts

def readEntry (text : List Char) : Option (List Char × Nat) :=
  match fields '=' 1 text with
  | [name, ' ' :: value] => (readNumber value).map fun value => (name, value)
  | _ => none

def readEntries (text : List Char) : Option (List (List Char × Nat)) :=
  (text.splitOn ',').mapM readEntry

/-- Both lists of a register field. -/
def readRegisters (text : List Char) :
    Option (List (List Char × Nat) × List (List Char × Nat)) :=
  if text = [] then some ([], [])
  else
    match fields ']' 2 text with
    | ['[' :: cur, []] => (readEntries cur).map fun cur => (cur, [])
    | ['[' :: cur, ',' :: '[' :: read, []] =>
      (readEntries cur).bind fun cur => (readEntries read).map fun read => (cur, read)
    | _ => none

namespace OperandAnalysis

/-- The number of a register in a saved state: the whole word of a general register, also for an
operand of four bytes. -/
def number (status : TraceVmStatus .aarch64) (operand : OperandAnalysis) (name : String) : Nat :=
  let index := operand.regCtxIdx.toNat
  if operand.type = .gpr then (status.gprState.reg index).toNat
  else (status.fprState.lane (laneWidth name) (index / laneWidth name)).toNat

/-- The name of a shown operand with its number after the instruction. -/
def postRegister (info : InstTraceInfo .aarch64) (operand : OperandAnalysis) :
    Option (List Char × Nat) :=
  (operand.shownName .aarch64).map fun name => (name.toList, operand.number info.postStatus name)

/-- The name of an operand that is read with its number before the instruction. -/
def preRegister (info : InstTraceInfo .aarch64) (operand : OperandAnalysis) :
    Option (List Char × Nat) :=
  if operand.isRead then (operand.shownName .aarch64).map fun name =>
    (name.toList, operand.number info.preStatus name)
  else none

/-- No character of the lists' own is in the operand's name. -/
def PlainName (operand : OperandAnalysis) : Prop :=
  ∀ name ∈ operand.regName, ∀ c ∈ ['=', ',', ']'], c ∉ name.toList

end OperandAnalysis

section Entries

variable {texts : RegisterTexts} {info : InstTraceInfo .aarch64} {operand : OperandAnalysis}

theorem toList_valueText (status : TraceVmStatus .aarch64) (name : String) :
    (operand.valueText texts status name).toList = hexText (operand.number status name) := by
  simp only [OperandAnalysis.valueText, OperandAnalysis.number]
  split
  · exact toList_toHex _
  · exact toList_toHex _

/-- An entry spells a name and a number. -/
def Spells (entry : String) (register : List Char × Nat) : Prop :=
  entry.toList = register.1 ++ '=' :: ' ' :: hexText register.2 ∧
    ∀ c ∈ ['=', ',', ']'], c ∉ register.1

theorem Spells.readEntry {entry : String} {register : List Char × Nat}
    (spells : Spells entry register) : readEntry entry.toList = some register := by
  have cut := fields_cons (spells.2 '=' (by decide)) 0 (' ' :: hexText register.2)
  rw [QbdiTracer.readEntry, spells.1, cut]
  simp only [fields, readNumber_hexText, Option.map_some]

theorem Spells.free {entry : String} {register : List Char × Nat} (spells : Spells entry register)
    {c : Char} (delimiter : c ∈ [',', ']']) : c ∉ entry.toList := by
  have other : ∀ c ∈ [',', ']'], c ≠ '=' ∧ c ≠ ' ' ∧ CText.isDigit 16 c = false ∧ c ≠ 'x' := by
    simp [CText.isDigit, CText.digitValue]
  obtain ⟨sign, blank, noDigit, noX⟩ := other c delimiter
  rw [spells.1, List.mem_append, List.mem_cons, List.mem_cons]
  rintro (named | rfl | rfl | digits)
  · exact spells.2 c (List.mem_cons_of_mem _ delimiter) named
  · exact sign rfl
  · exact blank rfl
  · exact not_mem_hexText noDigit noX _ digits

/-- What is printed of an operand spells its register. -/
theorem spells_registerEntry {name : String} (plain : operand.PlainName)
    (shown : operand.shownName .aarch64 = some name) (status : TraceVmStatus .aarch64) :
    Spells (registerEntry name (operand.valueText texts status name))
      (name.toList, operand.number status name) := by
  refine ⟨?_, plain name (shownName_eq_some.mp shown).1⟩
  rw [registerEntry, String.toList_append, String.toList_append, toList_valueText]
  simp

theorem postEntry_rel (plain : operand.PlainName) :
    Option.Rel Spells (operand.postEntry texts info) (operand.postRegister info) := by
  rw [OperandAnalysis.postEntry, OperandAnalysis.postRegister]
  cases shown : operand.shownName .aarch64 with
  | none => exact .none
  | some name => exact .some (spells_registerEntry plain shown info.postStatus)

theorem preEntry_rel (plain : operand.PlainName) :
    Option.Rel Spells (operand.preEntry texts info) (operand.preRegister info) := by
  rw [OperandAnalysis.preEntry, OperandAnalysis.preRegister]
  split
  · cases shown : operand.shownName .aarch64 with
    | none => exact .none
    | some name => exact .some (spells_registerEntry plain shown info.preStatus)
  · exact .none

/-- The lists of related elements. -/
theorem filterMap_rel {Item First Second : Type} {relation : First → Second → Prop}
    {first : Item → Option First} {second : Item → Option Second} {items : List Item}
    (related : ∀ item ∈ items, Option.Rel relation (first item) (second item)) :
    List.Forall₂ relation (items.filterMap first) (items.filterMap second) := by
  induction items with
  | nil => exact .nil
  | cons item items ih =>
    have later := ih fun other member => related other (List.mem_cons_of_mem _ member)
    rw [List.filterMap_cons, List.filterMap_cons]
    have head := related item List.mem_cons_self
    generalize first item = one, second item = two at head
    cases head with
    | none => exact later
    | some holds => exact .cons holds later

theorem mapM_readEntry {entries : List String} {registers : List (List Char × Nat)}
    (spell : List.Forall₂ Spells entries registers) :
    (entries.map String.toList).mapM readEntry = some registers := by
  induction spell with
  | nil => rfl
  | cons spells _ ih =>
    rw [List.map_cons, List.mapM_cons, spells.readEntry, ih]
    rfl

end Entries

section Lists

variable {entries : List String} {registers : List (List Char × Nat)}

/-- The text between the brackets. -/
def listed (entries : List String) : List Char := [','].intercalate (entries.map String.toList)

theorem readEntries_listed (spell : List.Forall₂ Spells entries registers) (some : entries ≠ []) :
    readEntries (listed entries) = .some registers := by
  have free : ∀ text ∈ entries.map String.toList, ',' ∉ text := by
    intro text member
    obtain ⟨entry, here, rfl⟩ := List.mem_map.mp member
    obtain ⟨i, bound, rfl⟩ := List.getElem_of_mem here
    have other : i < registers.length := spell.length_eq ▸ bound
    exact ((List.forall₂_iff_get.mp spell).2 i bound other).free (by decide)
  rw [readEntries, listed, List.splitOn_intercalate _ free (by simpa using some)]
  exact mapM_readEntry spell

theorem not_mem_listed (spell : List.Forall₂ Spells entries registers) : ']' ∉ listed entries := by
  induction spell with
  | nil => simp [listed]
  | @cons entry register entries registers spells later ih =>
    have head : ']' ∉ entry.toList := spells.free (by decide)
    cases entries with
    | nil => simpa [listed] using head
    | cons next entries =>
      rw [listed, List.map_cons, List.intercalate_cons_of_ne_nil (by simp)]
      simp only [List.mem_append, List.mem_singleton, not_or]
      exact ⟨⟨head, by decide⟩, ih⟩

theorem toList_bracketed_listed (entries : List String) :
    (bracketed entries).toList = ('[' :: listed entries) ++ [']'] :=
  toList_bracketed entries

/-- Both lists, of which the second is empty when the first is. -/
theorem readRegisters_printedLists {cur read : List String} {after before : List (List Char × Nat)}
    (spellCur : List.Forall₂ Spells cur after) (spellRead : List.Forall₂ Spells read before)
    (within : cur = [] → read = []) :
    readRegisters (printedLists cur read).toList = some (after, before) := by
  have bracket {entries : List String} {registers : List (List Char × Nat)}
      (spell : List.Forall₂ Spells entries registers) (front : List Char) (other : ']' ∉ front) :
      ']' ∉ front ++ '[' :: listed entries := by
    simp [other, not_mem_listed spell]
  cases cur with
  | nil =>
    rw [within rfl] at spellRead ⊢
    cases spellCur
    cases spellRead
    rfl
  | cons entry cur =>
    have readCur := readEntries_listed spellCur (List.cons_ne_nil _ _)
    cases read with
    | nil =>
      cases spellRead
      have text : (printedLists (entry :: cur) []).toList =
          ('[' :: listed (entry :: cur)) ++ ']' :: [] := by
        simp [printedLists, toList_bracketed_listed]
      have cut := fields_cons (bracket spellCur [] (by simp)) 1 []
      rw [List.nil_append] at cut
      rw [readRegisters, text, if_neg (by simp), cut]
      simp only [fields, List.not_mem_nil, if_false, readCur, Option.map_some]
    | cons first read =>
      have readRead := readEntries_listed spellRead (List.cons_ne_nil _ _)
      have text : (printedLists (entry :: cur) (first :: read)).toList =
          ('[' :: listed (entry :: cur)) ++ ']' ::
            ((',' :: '[' :: listed (first :: read)) ++ ']' :: []) := by
        simp [printedLists, toList_bracketed_listed]
      have cut := fields_cons (bracket spellCur [] (by simp)) 1
        ((',' :: '[' :: listed (first :: read)) ++ ']' :: [])
      have cutRead := fields_cons (bracket spellRead [','] (by simp)) 0 []
      rw [List.nil_append] at cut
      rw [List.singleton_append] at cutRead
      rw [readRegisters, text, if_neg (by simp), cut, cutRead]
      simp only [fields, readCur, readRead, Option.bind_some, Option.map_some]

end Lists

/-- The register field of an AArch64 line, with names that hold none of the lists' own
characters. -/
theorem readRegisters_shown {context : LineContext .aarch64} {moduleRange : ModuleRange .aarch64}
    {line : LogLine .aarch64} (plain : ∀ operand ∈ context.operands line.inst, operand.PlainName) :
    readRegisters (line.shown context moduleRange).registers =
      some ((context.operands line.inst).filterMap (OperandAnalysis.postRegister line.info),
        (context.operands line.inst).filterMap (OperandAnalysis.preRegister line.info)) := by
  have cur : List.Forall₂ Spells ((context.operands line.inst).filterMap
      (OperandAnalysis.postEntry (context.texts line.info) line.info))
      ((context.operands line.inst).filterMap (OperandAnalysis.postRegister line.info)) :=
    filterMap_rel fun operand member => postEntry_rel (plain operand member)
  have read : List.Forall₂ Spells ((context.operands line.inst).filterMap
      (OperandAnalysis.preEntry (context.texts line.info) line.info))
      ((context.operands line.inst).filterMap (OperandAnalysis.preRegister line.info)) :=
    filterMap_rel fun operand member => preEntry_rel (plain operand member)
  have vectors : registerVectors (context.texts line.info) line.info (context.operands line.inst) =
      ⟨(context.operands line.inst).filterMap
          (OperandAnalysis.postEntry (context.texts line.info) line.info),
        (context.operands line.inst).filterMap
          (OperandAnalysis.preEntry (context.texts line.info) line.info)⟩ := by
    simp only [registerVectors_eq, registerOperand_aarch64, List.filterMap_eq_flatMap_toList]
  have text : (line.shown context moduleRange).registers = (printedLists
      ((context.operands line.inst).filterMap
        (OperandAnalysis.postEntry (context.texts line.info) line.info))
      ((context.operands line.inst).filterMap
        (OperandAnalysis.preEntry (context.texts line.info) line.info))).toList := by
    rw [LogLine.shown, LineContext.registers, formatRegisterInfo_eq, vectors, String.empty_append]
  rw [text]
  refine readRegisters_printedLists cur read fun none => List.filterMap_eq_nil_iff.mpr ?_
  intro operand member
  -- a register that is read is shown after the instruction too
  have hidden := List.filterMap_eq_nil_iff.mp none operand member
  rw [OperandAnalysis.postEntry, Option.map_eq_none_iff] at hidden
  simp [OperandAnalysis.preEntry, hidden]

/-- `add x0, x0, #1`: the number after it in the first list, the one before it in the second. -/
theorem readRegisters_shown_add :
    let context : LineContext .aarch64 :=
      { operands := fun _ => [⟨.gpr, 8, 0, some "X0", .readWrite⟩, ⟨.imm, 8, -1, none, .unused⟩]
        texts := fun _ => ⟨fun _ => "", fun _ => "", 0, 0⟩ }
    let line : LogLine .aarch64 :=
      { info :=
          { seq := 0, pc := 0x1000, preStatus := { gprState := ⟨fun _ => 0x41⟩ }
            postStatus := { gprState := ⟨fun _ => 0x42⟩ } }
        inst := { address := 0x1000 }
        accesses := [] }
    readRegisters (line.shown context ⟨0x1000, 0x1fff⟩).registers =
      some ([(['X', '0'], 0x42)], [(['X', '0'], 0x41)]) := by
  intro context line
  refine readRegisters_shown fun operand member => ?_
  intro name named
  simp only [context, List.mem_cons, List.not_mem_nil, or_false] at member
  rcases member with rfl | rfl
  · cases named
    simp
  · cases named

end QbdiTracer
