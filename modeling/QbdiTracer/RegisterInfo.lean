import QbdiTracer.Common

/-! `LoggerManager::format_register_info`: the register operands of an instruction
with their values before and after it. -/

namespace QbdiTracer

variable {arch : Arch}

/-- `QBDI::RegisterAccessType`. -/
inductive RegisterAccessType where
  | unused
  | read
  | write
  | readWrite
  deriving DecidableEq, Repr

/-- `QBDI::OperandType`. -/
inductive OperandType where
  | invalid
  | imm
  | gpr
  | pred
  | fpr
  | seg
  deriving DecidableEq, Repr

/-- The fields of `QBDI::OperandAnalysis` that are printed. -/
structure OperandAnalysis where
  type : OperandType
  size : Nat
  /-- Index into the register context, negative when it is not known. -/
  regCtxIdx : Int
  regName : Option String
  regAccess : RegisterAccessType
  deriving DecidableEq

/-- The test for `REGISTER_READ` or `REGISTER_READ_WRITE`. -/
def OperandAnalysis.isRead (operand : OperandAnalysis) : Bool :=
  operand.regAccess = .read || operand.regAccess = .readWrite

/-- Element `index` of the vector registers seen as an array of `width` bytes each,
little endian. -/
def FPRState.lane (state : FPRState) (width index : Nat) : BitVec (8 * width) :=
  BitVec.ofNat _ ((List.range width).foldr
    (fun i high => (state.vreg (width * index + i)).toNat + 256 * high) 0)

/-- What the text of a register depends on besides its bits: how `fmt` prints the
floating-point types with `{:.2a}`, and where the two saved `vreg` unions are. -/
structure RegisterTexts where
  float : BitVec 32 → String
  double : BitVec 64 → String
  preVreg : BitVec 32
  postVreg : BitVec 32

/-- `(uint64_t) vreg.q[index]`. The element is an array of 16 bytes, which decays to
its address. -/
def quadAddress (vreg : BitVec 32) (index : Nat) : BitVec 64 :=
  (vreg + BitVec.ofNat _ (16 * index)).setWidth 64

/-- `fmt::format("{}= {}", name, value)`. -/
def registerEntry (name value : String) : String := name ++ "= " ++ value

/-- `cur_regs_vector` and `read_regs_vector`. -/
structure RegisterVectors where
  cur : List String := []
  read : List String := []
  deriving DecidableEq

namespace RegisterVectors

def pushCur (vectors : RegisterVectors) (entry : String) : RegisterVectors :=
  { vectors with cur := vectors.cur ++ [entry] }

def pushRead (vectors : RegisterVectors) (entry : String) : RegisterVectors :=
  { vectors with read := vectors.read ++ [entry] }

end RegisterVectors

/-- The `__arm__` branch for one operand. -/
def armOperand (texts : RegisterTexts) (info : InstTraceInfo arch) (operand : OperandAnalysis)
    (name : String) (index : Nat) (vectors : RegisterVectors) : RegisterVectors :=
  let pre := info.preStatus
  let post := info.postStatus
  match operand.type with
  | .fpr =>
    match operand.size with
    | 4 =>
      let vectors := if operand.isRead then
        vectors.pushRead (registerEntry name (texts.float (pre.fprState.lane 4 index)))
        else vectors
      vectors.pushCur (registerEntry name (texts.float (post.fprState.lane 4 index)))
    | 8 =>
      let vectors := if operand.isRead then
        vectors.pushRead (registerEntry name (texts.double (pre.fprState.lane 8 index)))
        else vectors
      vectors.pushCur (registerEntry name (texts.double (post.fprState.lane 8 index)))
    | 16 =>
      -- the value read goes to the first list here
      let vectors := if operand.isRead then
        vectors.pushCur (registerEntry name (toHex (quadAddress texts.preVreg index)))
        else vectors
      vectors.pushCur (registerEntry name (toHex (quadAddress texts.postVreg index)))
    | _ => vectors
  | .gpr => vectors.pushCur (registerEntry name (toHex (post.gprState.reg index)))
  | _ => vectors

/-- The other branch. The context index of a vector register counts bytes, and the
first letter of the name selects the width. -/
def aarch64Operand (info : InstTraceInfo arch) (operand : OperandAnalysis) (name : String)
    (index : Nat) (vectors : RegisterVectors) : RegisterVectors :=
  let pre := info.preStatus
  let post := info.postStatus
  match operand.type with
  | .fpr =>
    if name.toList.head? = some 'B' then
      let vectors := if operand.isRead then
        vectors.pushRead (registerEntry name (toHex (pre.fprState.lane 1 index)))
        else vectors
      vectors.pushCur (registerEntry name (toHex (post.fprState.lane 1 index)))
    else if name.toList.head? = some 'H' then
      let vectors := if operand.isRead then
        vectors.pushRead (registerEntry name (toHex (pre.fprState.lane 2 (index / 2))))
        else vectors
      vectors.pushCur (registerEntry name (toHex (post.fprState.lane 2 (index / 2))))
    else if name.toList.head? = some 'S' then
      let vectors := if operand.isRead then
        vectors.pushRead (registerEntry name (toHex (pre.fprState.lane 4 (index / 4))))
        else vectors
      vectors.pushCur (registerEntry name (toHex (post.fprState.lane 4 (index / 4))))
    else if name.toList.head? = some 'D' then
      let vectors := if operand.isRead then
        vectors.pushRead (registerEntry name (toHex (pre.fprState.lane 8 (index / 8))))
        else vectors
      vectors.pushCur (registerEntry name (toHex (post.fprState.lane 8 (index / 8))))
    else
      let vectors := if operand.isRead then
        vectors.pushRead (registerEntry name (toHex (pre.fprState.lane 16 (index / 16))))
        else vectors
      vectors.pushCur (registerEntry name (toHex (post.fprState.lane 16 (index / 16))))
  | .gpr =>
    let vectors := if operand.isRead then
      vectors.pushRead (registerEntry name (toHex (pre.gprState.reg index)))
        else vectors
    vectors.pushCur (registerEntry name (toHex (post.gprState.reg index)))
  | _ => vectors

/-- The choice by `__arm__`. -/
def shownOperand (texts : RegisterTexts) (info : InstTraceInfo arch) (operand : OperandAnalysis)
    (name : String) (index : Nat) (vectors : RegisterVectors) : RegisterVectors :=
  match arch with
  | .arm => armOperand texts info operand name index vectors
  | .aarch64 => aarch64Operand info operand name index vectors

/-- The body of the loop over the operands. -/
def registerOperand (texts : RegisterTexts) (info : InstTraceInfo arch)
    (vectors : RegisterVectors) (operand : OperandAnalysis) : RegisterVectors :=
  if operand.regAccess = .read ∨ operand.regAccess = .readWrite ∨ operand.regAccess = .write then
    match operand.regName with
    | none => vectors
    | some name =>
      if operand.regCtxIdx < 0 then vectors
      else shownOperand texts info operand name operand.regCtxIdx.toNat vectors
  else vectors

def registerVectors (texts : RegisterTexts) (info : InstTraceInfo arch)
    (operands : List OperandAnalysis) : RegisterVectors :=
  operands.foldl (registerOperand texts info) {}

/-- `join`: every element but the last is followed by the delimiter. -/
def joinList (elements : List String) (delim : String) : String :=
  match elements.getLast? with
  | none => "[]"
  | some last => "[" ++ String.join (elements.dropLast.map (· ++ delim)) ++ last ++ "]"

def formatRegisterInfo (texts : RegisterTexts) (result : String) (info : InstTraceInfo arch)
    (operands : List OperandAnalysis) : String :=
  let vectors := registerVectors texts info operands
  let result := if vectors.cur.isEmpty then result else result ++ joinList vectors.cur ","
  if vectors.read.isEmpty then result else result ++ "," ++ joinList vectors.read ","

end QbdiTracer
