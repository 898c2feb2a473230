import Mathlib.Data.List.Basic
import QbdiTracer.Library.DelimiterCuts
import QbdiTracer.RegisterInfo

/-! The two lists of `format_register_info`: which operands are in them, in what
order and with which values. -/

namespace QbdiTracer

variable {arch : Arch}

/-- Rows of pieces, none longer than its counterpart, are equal piece by piece. -/
theorem flatMap_eq_iff_of_length_le {Item Entry : Type} {first second : Item → List Entry}
    {items : List Item} (shorter : ∀ item, (first item).length ≤ (second item).length) :
    items.flatMap first = items.flatMap second ↔ ∀ item ∈ items, first item = second item := by
  have lengths : ∀ items : List Item,
      (items.flatMap first).length ≤ (items.flatMap second).length := by
    intro items
    induction items with
    | nil => exact Nat.le_refl _
    | cons item others ih =>
      rw [List.flatMap_cons, List.flatMap_cons, List.length_append, List.length_append]
      exact Nat.add_le_add (shorter item) ih
  induction items with
  | nil => simp
  | cons item others ih =>
    rw [List.forall_mem_cons, List.flatMap_cons, List.flatMap_cons]
    constructor
    · intro same
      have total := congrArg List.length same
      rw [List.length_append, List.length_append] at total
      have head := shorter item
      have tail := lengths others
      obtain ⟨equal, others_equal⟩ := List.append_inj same (by omega)
      exact ⟨equal, ih.mp others_equal⟩
    · rintro ⟨equal, others_equal⟩
      rw [equal, ih.mpr others_equal]

section Specification

namespace OperandAnalysis

/-- The name of an operand that is to be printed: a general or floating-point
register with a name, a valid context index and an access kind, of a size the ARM
build knows. -/
def shownName (arch : Arch) (operand : OperandAnalysis) : Option String :=
  operand.regName.filter fun _ =>
    operand.regAccess ≠ .unused ∧ 0 ≤ operand.regCtxIdx ∧
      (operand.type = .gpr ∨ operand.type = .fpr ∧
        (arch = .arm → operand.size = 4 ∨ operand.size = 8 ∨ operand.size = 16))

/-- The bytes of a vector register that its name stands for on AArch64. -/
def laneWidth (name : String) : Nat :=
  if name.toList.head? = some 'B' then 1
  else if name.toList.head? = some 'H' then 2
  else if name.toList.head? = some 'S' then 4
  else if name.toList.head? = some 'D' then 8
  else 16

/-- The value of the register in a saved state: the whole word of a general register, also for an
operand of four bytes. -/
def valueText (texts : RegisterTexts) (status : TraceVmStatus arch) (operand : OperandAnalysis)
    (name : String) : String :=
  let index := operand.regCtxIdx.toNat
  if operand.type = .gpr then toHex (status.gprState.reg index)
  else
    match arch with
    | .arm =>
      if operand.size = 4 then texts.float (status.fprState.lane 4 index)
      else if operand.size = 8 then texts.double (status.fprState.lane 8 index)
      else toHex (status.fprState.lane 16 index)
    | .aarch64 => toHex (status.fprState.lane (laneWidth name) (index / laneWidth name))

/-- The operand's entry with its value after the instruction. -/
def postEntry (texts : RegisterTexts) (info : InstTraceInfo arch) (operand : OperandAnalysis) :
    Option String :=
  (operand.shownName arch).map fun name =>
    registerEntry name (operand.valueText texts info.postStatus name)

/-- Its entry with the value before it, when the operand is read. -/
def preEntry (texts : RegisterTexts) (info : InstTraceInfo arch) (operand : OperandAnalysis) :
    Option String :=
  if operand.isRead then (operand.shownName arch).map fun name =>
    registerEntry name (operand.valueText texts info.preStatus name)
  else none

/-- The build prints the operand right: always on AArch64. On ARM a general register
must not be read, nor a quad register, whose printed number is an address. -/
def PrintedRight (texts : RegisterTexts) (info : InstTraceInfo arch) (operand : OperandAnalysis) :
    Prop :=
  arch = .aarch64 ∨ ((operand.shownName arch).isSome →
    (operand.type = .gpr → operand.isRead = false) ∧
    (operand.type = .fpr → operand.size = 16 → operand.isRead = false ∧
      (info.postStatus.fprState.lane 16 operand.regCtxIdx.toNat).toNat =
        (quadAddress texts.postVreg operand.regCtxIdx.toNat).toNat))

end OperandAnalysis

/-- `[a,b,..]`. -/
def bracketed (entries : List String) : String := "[" ++ String.intercalate "," entries ++ "]"

/-- Both lists, each left out when it is empty. -/
def printedLists (cur read : List String) : String :=
  (if cur.isEmpty then "" else bracketed cur) ++ if read.isEmpty then "" else "," ++ bracketed read

/-- The first list holds the value after the instruction of every operand shown, the
second the value before it of every one read, both in operand order; and they are
what is printed. -/
structure RegisterInfoRight (texts : RegisterTexts) (info : InstTraceInfo arch)
    (operands : List OperandAnalysis) : Prop where
  cur : (registerVectors texts info operands).cur =
    operands.filterMap (OperandAnalysis.postEntry texts info)
  read : (registerVectors texts info operands).read =
    operands.filterMap (OperandAnalysis.preEntry texts info)
  printed : ∀ result, formatRegisterInfo texts result info operands =
    result ++ printedLists (operands.filterMap (OperandAnalysis.postEntry texts info))
      (operands.filterMap (OperandAnalysis.preEntry texts info))

end Specification

namespace RegisterVectors

def append (first second : RegisterVectors) : RegisterVectors :=
  ⟨first.cur ++ second.cur, first.read ++ second.read⟩

@[simp] theorem append_pushCur (first second : RegisterVectors) (entry : String) :
    (first.append second).pushCur entry = first.append (second.pushCur entry) := by
  simp [append, pushCur]

@[simp] theorem append_pushRead (first second : RegisterVectors) (entry : String) :
    (first.append second).pushRead entry = first.append (second.pushRead entry) := by
  simp [append, pushRead]

@[simp] theorem append_empty (vectors : RegisterVectors) : vectors.append {} = vectors := by
  simp [append]

end RegisterVectors

section Loop

variable (texts : RegisterTexts) (info : InstTraceInfo arch)

/-- What a branch pushes does not depend on what is in the vectors. -/
theorem armOperand_append (operand : OperandAnalysis) (name : String) (index : Nat)
    (first second : RegisterVectors) :
    armOperand texts info operand name index (first.append second) =
      first.append (armOperand texts info operand name index second) := by
  cases read : operand.isRead <;> simp only [armOperand, read]
  all_goals
    split
    · split <;> simp
    · simp
    · rfl

theorem aarch64Operand_append (operand : OperandAnalysis) (name : String) (index : Nat)
    (first second : RegisterVectors) :
    aarch64Operand info operand name index (first.append second) =
      first.append (aarch64Operand info operand name index second) := by
  cases read : operand.isRead <;> simp only [aarch64Operand, read]
  all_goals
    split
    · simp only [apply_ite first.append, RegisterVectors.append_pushCur,
        RegisterVectors.append_pushRead, if_true, if_false, Bool.false_eq_true]
    · simp
    · rfl

theorem registerOperand_append (operand : OperandAnalysis) (first second : RegisterVectors) :
    registerOperand texts info (first.append second) operand =
      first.append (registerOperand texts info second operand) := by
  simp only [registerOperand]
  split
  · cases operand.regName with
    | none => rfl
    | some name =>
      by_cases unknown : operand.regCtxIdx < 0
      · simp [unknown]
      · cases arch with
        | arm =>
          simpa [unknown, shownOperand] using
            armOperand_append texts info operand name _ first second
        | aarch64 =>
          simpa [unknown, shownOperand] using
            aarch64Operand_append info operand name _ first second
  · rfl

/-- The two vectors are rows of what each operand adds. -/
theorem registerVectors_eq (operands : List OperandAnalysis) :
    registerVectors texts info operands =
      ⟨operands.flatMap fun operand => (registerOperand texts info {} operand).cur,
        operands.flatMap fun operand => (registerOperand texts info {} operand).read⟩ := by
  have fold : ∀ vectors : RegisterVectors, operands.foldl (registerOperand texts info) vectors =
      vectors.append ⟨operands.flatMap fun operand => (registerOperand texts info {} operand).cur,
        operands.flatMap fun operand => (registerOperand texts info {} operand).read⟩ := by
    induction operands with
    | nil => intro vectors; simp [RegisterVectors.append]
    | cons operand others ih =>
      intro vectors
      have step := registerOperand_append texts info operand vectors {}
      rw [RegisterVectors.append_empty] at step
      rw [List.foldl_cons, ih, step]
      simp [RegisterVectors.append]
  rw [registerVectors, fold]
  simp [RegisterVectors.append]

theorem shownName_eq_some {operand : OperandAnalysis} {name : String} :
    operand.shownName arch = some name ↔
      operand.regName = some name ∧ operand.regAccess ≠ .unused ∧ 0 ≤ operand.regCtxIdx ∧
        (operand.type = .gpr ∨ operand.type = .fpr ∧
          (arch = .arm → operand.size = 4 ∨ operand.size = 8 ∨ operand.size = 16)) := by
  simp only [OperandAnalysis.shownName, Option.filter_eq_some_iff, decide_eq_true_eq]

/-- The body of the loop, past its checks. -/
theorem registerOperand_checked {operand : OperandAnalysis} {name : String}
    (named : operand.regName = some name) (used : operand.regAccess ≠ .unused)
    (known : 0 ≤ operand.regCtxIdx) :
    registerOperand texts info {} operand =
      shownOperand texts info operand name operand.regCtxIdx.toNat {} := by
  have access : operand.regAccess = .read ∨ operand.regAccess = .readWrite ∨
      operand.regAccess = .write := by
    cases kind : operand.regAccess with
    | unused => exact absurd kind used
    | read => simp
    | write => simp
    | readWrite => simp
  simp only [registerOperand, access, named, Int.not_lt.mpr known, if_true, if_false]

/-- An operand that is not shown adds nothing. -/
theorem registerOperand_hidden {operand : OperandAnalysis}
    (hidden : operand.shownName arch = none) : registerOperand texts info {} operand = {} := by
  cases named : operand.regName with
  | none => simp [registerOperand, named]
  | some name =>
    by_cases used : operand.regAccess = .unused
    · simp [registerOperand, used]
    · by_cases known : 0 ≤ operand.regCtxIdx
      · have other : ¬ (operand.type = .gpr ∨ operand.type = .fpr ∧
            (arch = .arm → operand.size = 4 ∨ operand.size = 8 ∨ operand.size = 16)) := fun kind =>
          Option.some_ne_none name
            ((shownName_eq_some.mpr ⟨named, used, known, kind⟩).symm.trans hidden)
        rw [registerOperand_checked texts info named used known]
        cases arch with
        | aarch64 => cases kind : operand.type <;> simp_all [shownOperand, aarch64Operand]
        | arm =>
          cases kind : operand.type with
          | gpr => simp [kind] at other
          | fpr =>
            simp only [shownOperand, kind, armOperand]
            simp only [kind, reduceCtorEq, false_or, true_and, forall_const, not_or] at other
            split <;> simp_all
          | _ => simp [shownOperand, kind, armOperand]
      · simp [registerOperand, named, Int.not_le.mp known]

theorem pushBoth_eq (read : Bool) (pre post : String) :
    (if read = true then RegisterVectors.pushRead {} pre else {}).pushCur post =
      ⟨[post], (if read = true then some pre else none).toList⟩ := by
  cases read <;> rfl

/-- What an AArch64 vector register adds, seen in lanes of a width. -/
def laneVectors (operand : OperandAnalysis) (name : String) (index width : Nat) :
    RegisterVectors :=
  ⟨[registerEntry name (toHex (info.postStatus.fprState.lane width (index / width)))],
    (if operand.isRead = true then
      some (registerEntry name (toHex (info.preStatus.fprState.lane width (index / width))))
    else none).toList⟩

/-- The five widths are one branch, with the width the name stands for. -/
theorem aarch64Operand_fpr (operand : OperandAnalysis) (name : String) (index : Nat)
    (fpr : operand.type = .fpr) :
    aarch64Operand info operand name index {} =
      laneVectors info operand name index (OperandAnalysis.laneWidth name) := by
  rw [OperandAnalysis.laneWidth]
  simp only [apply_ite (laneVectors info operand name index)]
  simp only [aarch64Operand, fpr, pushBoth_eq, laneVectors, Nat.div_one]

theorem registerOperand_aarch64 (info : InstTraceInfo .aarch64) (operand : OperandAnalysis) :
    registerOperand texts info {} operand =
      ⟨(operand.postEntry texts info).toList, (operand.preEntry texts info).toList⟩ := by
  cases shown : operand.shownName .aarch64 with
  | none =>
    rw [registerOperand_hidden texts info shown]
    simp [OperandAnalysis.postEntry, OperandAnalysis.preEntry, shown]
  | some name =>
    obtain ⟨named, used, known, kind⟩ := shownName_eq_some.mp shown
    rw [registerOperand_checked texts info named used known]
    simp only [OperandAnalysis.postEntry, OperandAnalysis.preEntry, shown, Option.map_some]
    rcases kind with gpr | ⟨fpr, -⟩
    · simp only [shownOperand, aarch64Operand, gpr, pushBoth_eq, OperandAnalysis.valueText, if_true,
        Option.toList_some]
    · rw [shownOperand, aarch64Operand_fpr info operand name _ fpr]
      simp [OperandAnalysis.valueText, laneVectors, fpr]

/-- On ARM a general register adds its value after the instruction and nothing else,
a quad register adds addresses to the first list. -/
theorem registerOperand_arm (info : InstTraceInfo .arm) {operand : OperandAnalysis} {name : String}
    (shown : operand.shownName .arm = some name) :
    registerOperand texts info {} operand =
      if operand.type = .gpr then ⟨(operand.postEntry texts info).toList, []⟩
      else if operand.size = 16 then
        ⟨(if operand.isRead = true then
            [registerEntry name (toHex (quadAddress texts.preVreg operand.regCtxIdx.toNat))]
          else []) ++
          [registerEntry name (toHex (quadAddress texts.postVreg operand.regCtxIdx.toNat))], []⟩
      else ⟨(operand.postEntry texts info).toList, (operand.preEntry texts info).toList⟩ := by
  obtain ⟨named, used, known, kind⟩ := shownName_eq_some.mp shown
  rw [registerOperand_checked texts info named used known]
  simp only [OperandAnalysis.postEntry, OperandAnalysis.preEntry, shown, Option.map_some]
  rcases kind with gpr | ⟨fpr, size⟩
  · simp [shownOperand, armOperand, gpr, OperandAnalysis.valueText, RegisterVectors.pushCur]
  · rcases size rfl with single | double | quad
    · simp [shownOperand, armOperand, fpr, single, pushBoth_eq, OperandAnalysis.valueText]
    · simp [shownOperand, armOperand, fpr, double, pushBoth_eq, OperandAnalysis.valueText]
    · cases read : operand.isRead <;>
        simp [shownOperand, armOperand, fpr, quad, read, RegisterVectors.pushCur]

/-- The first list never gets fewer entries than it should, the second never more. -/
theorem registerOperand_length (operand : OperandAnalysis) :
    (operand.postEntry texts info).toList.length ≤
        (registerOperand texts info {} operand).cur.length ∧
      (registerOperand texts info {} operand).read.length ≤
        (operand.preEntry texts info).toList.length := by
  cases arch with
  | aarch64 => rw [registerOperand_aarch64]; exact ⟨Nat.le_refl _, Nat.le_refl _⟩
  | arm =>
    cases shown : operand.shownName .arm with
    | none =>
      rw [registerOperand_hidden texts info shown]
      simp [OperandAnalysis.postEntry, OperandAnalysis.preEntry, shown]
    | some name =>
      rw [registerOperand_arm texts info shown]
      split
      · simp
      · split
        · simp [OperandAnalysis.postEntry, shown]
        · exact ⟨Nat.le_refl _, Nat.le_refl _⟩

/-- An operand adds what it should exactly when it is printed right. -/
theorem registerOperand_right_iff (operand : OperandAnalysis) :
    ((operand.postEntry texts info).toList = (registerOperand texts info {} operand).cur ∧
      (registerOperand texts info {} operand).read = (operand.preEntry texts info).toList) ↔
      operand.PrintedRight texts info := by
  cases arch with
  | aarch64 =>
    rw [registerOperand_aarch64]
    simp [OperandAnalysis.PrintedRight]
  | arm =>
    cases shown : operand.shownName .arm with
    | none =>
      rw [registerOperand_hidden texts info shown]
      simp [OperandAnalysis.PrintedRight, OperandAnalysis.postEntry, OperandAnalysis.preEntry,
        shown]
    | some name =>
      obtain ⟨-, -, -, kind⟩ := shownName_eq_some.mp shown
      rw [registerOperand_arm texts info shown]
      simp only [OperandAnalysis.PrintedRight, OperandAnalysis.postEntry, OperandAnalysis.preEntry,
        shown, Option.map_some, reduceCtorEq, false_or, Option.isSome_some, true_imp_iff]
      rcases kind with gpr | ⟨fpr, size⟩
      · cases read : operand.isRead <;> simp [gpr]
      · by_cases quad : operand.size = 16
        · cases read : operand.isRead with
          | true => simp [fpr, quad]
          | false =>
            simp [fpr, quad, OperandAnalysis.valueText, registerEntry, String.append_right_inj,
              toHex_inj]
        · simp [fpr, quad]

end Loop

theorem joinList_eq (elements : List String) : joinList elements "," = bracketed elements := by
  rcases elements.eq_nil_or_concat with rfl | ⟨init, last, rfl⟩
  · decide
  · have joined := DelimiterCuts.intercalate_concat [','] (init.map String.toList) last.toList
    rw [← String.toList_inj]
    simp [joinList, bracketed, String.toList_join, String.toList_intercalate, joined,
      List.flatMap_map]

theorem formatRegisterInfo_eq (texts : RegisterTexts) (result : String) (info : InstTraceInfo arch)
    (operands : List OperandAnalysis) :
    formatRegisterInfo texts result info operands =
      result ++ printedLists (registerVectors texts info operands).cur
        (registerVectors texts info operands).read := by
  simp only [formatRegisterInfo, printedLists, joinList_eq]
  split <;> split <;> simp [String.append_assoc]

/-- The lists are right exactly when every operand is printed right. -/
theorem registerInfo_right_iff (texts : RegisterTexts) (info : InstTraceInfo arch)
    (operands : List OperandAnalysis) :
    RegisterInfoRight texts info operands ↔
      ∀ operand ∈ operands, operand.PrintedRight texts info := by
  have cur := @flatMap_eq_iff_of_length_le _ _ _ _ operands
    fun operand => (registerOperand_length texts info operand).1
  have read := @flatMap_eq_iff_of_length_le _ _ _ _ operands
    fun operand => (registerOperand_length texts info operand).2
  have lists : ((registerVectors texts info operands).cur =
        operands.filterMap (OperandAnalysis.postEntry texts info) ∧
      (registerVectors texts info operands).read =
        operands.filterMap (OperandAnalysis.preEntry texts info)) ↔
      ∀ operand ∈ operands, operand.PrintedRight texts info := by
    rw [registerVectors_eq, List.filterMap_eq_flatMap_toList, List.filterMap_eq_flatMap_toList,
      eq_comm, cur, read, ← forall₂_and]
    exact forall₂_congr fun operand _ => registerOperand_right_iff texts info operand
  rw [← lists]
  constructor
  · intro right
    exact ⟨right.cur, right.read⟩
  · rintro ⟨sameCur, sameRead⟩
    refine ⟨sameCur, sameRead, fun result => ?_⟩
    rw [formatRegisterInfo_eq, sameCur, sameRead]

/-- On ARM, `r0` and `q0` are read; `q0` is all zero and its saved copies are at
0x2000 and 0x3000. -/
def readOperands : List OperandAnalysis :=
  [⟨.gpr, 4, 0, some "R0", .read⟩, ⟨.fpr, 16, 0, some "Q0", .read⟩]

def readTexts : RegisterTexts := ⟨fun _ => "", fun _ => "", 0x2000, 0x3000⟩

def readInfo : InstTraceInfo .arm :=
  { seq := 0, pc := 0x1000, preStatus := { gprState := ⟨fun _ => 5⟩ },
    postStatus := { gprState := ⟨fun _ => 5⟩ } }

/-- No value of a register read gets into the second list, and the first has one
entry too many, of addresses. -/
theorem arm_reads_lost :
    registerVectors readTexts readInfo readOperands =
        ⟨["R0= 0x5", "Q0= 0x2000", "Q0= 0x3000"], []⟩ ∧
      readOperands.filterMap (OperandAnalysis.postEntry readTexts readInfo) =
        ["R0= 0x5", "Q0= 0x0"] ∧
      readOperands.filterMap (OperandAnalysis.preEntry readTexts readInfo) =
        ["R0= 0x5", "Q0= 0x0"] ∧
      ¬ RegisterInfoRight readTexts readInfo readOperands := by
  have vectors : registerVectors readTexts readInfo readOperands =
      ⟨["R0= 0x5", "Q0= 0x2000", "Q0= 0x3000"], []⟩ := by decide
  have wanted : readOperands.filterMap (OperandAnalysis.preEntry readTexts readInfo) =
      ["R0= 0x5", "Q0= 0x0"] := by decide
  refine ⟨vectors, by decide, wanted, fun right => ?_⟩
  have read := right.read
  rw [vectors, wanted] at read
  exact absurd read (by simp)

end QbdiTracer
