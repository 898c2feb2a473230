import Mathlib.Data.List.Basic
import QbdiTracer.Dispatch.Base
import QbdiTracer.Library.Digits

/-! Where the procedure call standard puts the arguments of a call, and where
`get_arg_register_value` and `get_ret_register_value` look for them. -/

namespace QbdiTracer

variable {arch : Arch}

/-- A word is the little-endian number of its bytes. -/
theorem Process.readWord_of_bytes {process : Process arch} {address value : Word arch}
    (bytes : ∀ i < arch.wordBytes,
      (process.memory (address + BitVec.ofNat _ i)).toNat = value.toNat / 256 ^ i % 256) :
    process.readWord address = value := by
  have digits : (List.range arch.wordBytes).foldr
      (fun i high => (process.memory (address + BitVec.ofNat _ i)).toNat + 256 * high) 0 =
      value.toNat % 256 ^ arch.wordBytes := by
    rw [← Digits.foldr_digits]
    refine List.foldr_ext _ _ _ fun i member high => ?_
    rw [bytes i (List.mem_range.mp member)]
  have width : 256 ^ arch.wordBytes = 2 ^ arch.wordBits := by cases arch <;> rfl
  rw [Process.readWord, digits, width, Nat.mod_eq_of_lt value.isLt, BitVec.ofNat_toNat,
    BitVec.setWidth_eq]

/-- A place an argument can be in. -/
inductive ArgLocation (arch : Arch) where
  | register (index : Nat)
  | word (address : Word arch)
  deriving DecidableEq

def ArgLocation.value (process : Process arch) (state : GPRState arch) :
    ArgLocation arch → Word arch
  | .register index => state.reg index
  | .word address => process.readWord address

/-- The procedure call standard: the first arguments in registers, the others in
consecutive words from `sp` upwards. -/
def Arch.argLocation (arch : Arch) (sp : Word arch) (argIndex : Nat) : ArgLocation arch :=
  if argIndex < arch.maxRegArgs then .register argIndex
  else .word (sp + BitVec.ofNat _ ((argIndex - arch.maxRegArgs) * arch.wordBytes))

/-- The place the two readers take an argument from. -/
def Arch.readLocation (arch : Arch) (sp : Word arch) (argIndex : Nat) : ArgLocation arch :=
  if argIndex < arch.maxRegArgs then .register argIndex
  else .word (sp + BitVec.ofNat _ (arch.stackSlot argIndex * arch.wordBytes))

/-- The arguments of a call are where the standard wants them. -/
def LaidOut (process : Process arch) (state : GPRState arch) (args : List (Word arch)) : Prop :=
  ∀ (argIndex : Nat) (bound : argIndex < args.length),
    (arch.argLocation state.sp argIndex).value process state = args[argIndex]

/-- Both readers return the argument under every index, whatever else registers
and memory hold, and never take two arguments from one place. -/
structure ArgumentsRead (args : List (Word arch)) : Prop where
  argument : ∀ (process : Process arch) (status : TraceVmStatus arch),
    LaidOut process status.gprState args → ∀ (argIndex : Nat) (bound : argIndex < args.length),
      getArgRegisterValue process status argIndex = args[argIndex]
  returned : ∀ (process : Process arch) (state : GPRState arch),
    LaidOut process state args → ∀ (argIndex : Nat) (bound : argIndex < args.length),
      getRetRegisterValue process state argIndex = args[argIndex]
  distinct : ∀ (sp : Word arch) (first second : Nat), first < args.length →
    second < args.length → arch.readLocation sp first = arch.readLocation sp second → first = second

theorem registerValue_eq_value {process : Process arch} {state : GPRState arch} {argIndex : Nat}
    (supported : argIndex < arch.maxRegArgs + Arch.maxStackArgs) :
    registerValue process state argIndex =
      (arch.readLocation state.sp argIndex).value process state := by
  rw [registerValue, if_neg (Nat.not_le.mpr supported), Arch.readLocation]
  by_cases inRegisters : argIndex < arch.maxRegArgs
  · rw [if_pos inRegisters, if_pos inRegisters]
    rfl
  · rw [if_neg inRegisters, if_neg inRegisters]
    rfl

/-- Rounding the byte offset up to 8 skips to the next word at every odd index. -/
theorem Arch.stackSlot_arm {argIndex : Nat} (onStack : 4 ≤ argIndex) :
    Arch.arm.stackSlot argIndex = argIndex - 4 + argIndex % 2 := by
  change ((argIndex - 4) * 4 +
    if (argIndex - 4) * 4 % 8 ≠ 0 then 8 - (argIndex - 4) * 4 % 8 else 0) / 4 = _
  by_cases rounded : (argIndex - 4) * 4 % 8 = 0
  · rw [if_neg (not_not.mpr rounded)]
    omega
  · rw [if_pos rounded]
    omega

theorem Arch.stackSlot_aarch64 (argIndex : Nat) :
    Arch.aarch64.stackSlot argIndex = argIndex - Arch.aarch64.maxRegArgs :=
  Nat.mul_div_cancel _ (by decide)

/-- The indices under which the readers look where the standard says. -/
def Arch.AlignedArg (arch : Arch) (argIndex : Nat) : Prop :=
  arch = .aarch64 ∨ argIndex < 4 ∨ argIndex % 2 = 0

theorem Arch.AlignedArg.readLocation {argIndex : Nat} (aligned : arch.AlignedArg argIndex)
    (sp : Word arch) : arch.readLocation sp argIndex = arch.argLocation sp argIndex := by
  by_cases inRegisters : argIndex < arch.maxRegArgs
  · rw [Arch.readLocation, Arch.argLocation, if_pos inRegisters, if_pos inRegisters]
  · have sameSlot : arch.stackSlot argIndex = argIndex - arch.maxRegArgs := by
      cases arch with
      | aarch64 => exact Arch.stackSlot_aarch64 argIndex
      | arm =>
        have onStack : 4 ≤ argIndex := Nat.not_lt.mp inRegisters
        have even : argIndex % 2 = 0 := by
          rcases aligned with other | low | even
          · cases other
          · omega
          · exact even
        rw [Arch.stackSlot_arm onStack, even]
        rfl
    rw [Arch.readLocation, Arch.argLocation, if_neg inRegisters, if_neg inRegisters, sameSlot]

/-- The other indices belong to the next argument, which is on the stack too. -/
theorem Arch.readLocation_of_not_aligned {argIndex : Nat} (odd : ¬ arch.AlignedArg argIndex)
    (sp : Word arch) :
    arch.maxRegArgs ≤ argIndex ∧
      arch.readLocation sp argIndex = arch.argLocation sp (argIndex + 1) := by
  simp only [Arch.AlignedArg, not_or] at odd
  obtain ⟨build, high, odd⟩ := odd
  cases arch with
  | aarch64 => exact absurd rfl build
  | arm =>
    have onStack : 4 ≤ argIndex := Nat.not_lt.mp high
    have past : ¬ argIndex < Arch.arm.maxRegArgs := high
    have pastNext : ¬ argIndex + 1 < Arch.arm.maxRegArgs := by simp only [Arch.maxRegArgs]; omega
    have slot : argIndex - 4 + argIndex % 2 = argIndex + 1 - Arch.arm.maxRegArgs := by
      simp only [Arch.maxRegArgs]; omega
    refine ⟨onStack, ?_⟩
    rw [Arch.readLocation, Arch.argLocation, if_neg past, if_neg pastNext,
      Arch.stackSlot_arm onStack, slot]

/-- The standard gives every argument a place of its own. -/
theorem Arch.argLocation_injective {sp : Word arch} {first second : Nat}
    (bound : first < arch.maxRegArgs + Arch.maxStackArgs)
    (bound' : second < arch.maxRegArgs + Arch.maxStackArgs)
    (same : arch.argLocation sp first = arch.argLocation sp second) : first = second := by
  rw [Arch.argLocation, Arch.argLocation] at same
  split at same <;> split at same
  · exact ArgLocation.register.inj same
  · cases same
  · cases same
  · have offsets := (BitVec.add_right_inj sp).mp (ArgLocation.word.inj same)
    have numbers := congrArg BitVec.toNat offsets
    cases arch <;>
      simp only [Arch.maxRegArgs, Arch.maxStackArgs, Arch.wordBytes, Arch.wordBits,
        BitVec.toNat_ofNat] at * <;> omega

/-- A call with these arguments: `sp` is 0, and `filler` is in every stack word
past the last argument. -/
def standardProcess (args : List (Word arch)) (filler : Word arch) : Process arch where
  memory address :=
    let argIndex := arch.maxRegArgs + address.toNat / arch.wordBytes
    BitVec.ofNat 8 ((args[argIndex]?.getD filler).toNat / 256 ^ (address.toNat % arch.wordBytes))
  cString _ := ""
  maps := []
  mallocIterate := none
  jniClassName _ := ""

def standardState (args : List (Word arch)) : GPRState arch where
  reg index := if index < arch.maxRegArgs then args[index]?.getD 0 else 0

theorem standardState_sp (args : List (Word arch)) : (standardState args).sp = 0#_ := by
  cases arch <;> rfl

/-- The word at the place of a stack argument, or past the last one. -/
theorem readWord_standardProcess (args : List (Word arch)) (filler : Word arch) {slot : Nat}
    (near : slot ≤ Arch.maxStackArgs) :
    (standardProcess args filler).readWord (0#_ + BitVec.ofNat _ (slot * arch.wordBytes)) =
      args[arch.maxRegArgs + slot]?.getD filler := by
  apply Process.readWord_of_bytes
  intro i small
  have noWrap : slot * arch.wordBytes + i < 2 ^ arch.wordBits := by
    cases arch <;> simp only [Arch.maxStackArgs, Arch.wordBytes, Arch.wordBits] at * <;> omega
  have offset : ((0#_ : Word arch) + BitVec.ofNat _ (slot * arch.wordBytes) +
      BitVec.ofNat _ i).toNat = slot * arch.wordBytes + i := by
    rw [BitVec.zero_add, ← BitVec.ofNat_add, BitVec.toNat_ofNat, Nat.mod_eq_of_lt noWrap]
  have positive : 0 < arch.wordBytes := Nat.zero_lt_of_lt small
  have word : (slot * arch.wordBytes + i) / arch.wordBytes = slot := by
    rw [Nat.mul_comm, Nat.mul_add_div positive, Nat.div_eq_of_lt small, Nat.add_zero]
  have byte : (slot * arch.wordBytes + i) % arch.wordBytes = i := by
    rw [Nat.mul_comm, Nat.mul_add_mod, Nat.mod_eq_of_lt small]
  simp only [standardProcess, offset, word, byte, BitVec.toNat_ofNat]

theorem argLocation_standard (args : List (Word arch)) (filler : Word arch) {argIndex : Nat}
    (near : argIndex ≤ arch.maxRegArgs + Arch.maxStackArgs) :
    (arch.argLocation (standardState args).sp argIndex).value (standardProcess args filler)
        (standardState args) =
      args[argIndex]?.getD (if argIndex < arch.maxRegArgs then 0 else filler) := by
  rw [Arch.argLocation, standardState_sp]
  by_cases inRegisters : argIndex < arch.maxRegArgs
  · rw [if_pos inRegisters, if_pos inRegisters]
    exact if_pos inRegisters
  · rw [if_neg inRegisters, if_neg inRegisters]
    have slot : arch.maxRegArgs + (argIndex - arch.maxRegArgs) = argIndex := by omega
    have value := readWord_standardProcess args filler
      (show argIndex - arch.maxRegArgs ≤ Arch.maxStackArgs by omega)
    rwa [slot] at value

theorem laidOut_standard {args : List (Word arch)}
    (length : args.length ≤ arch.maxRegArgs + Arch.maxStackArgs) (filler : Word arch) :
    LaidOut (standardProcess args filler) (standardState args) args := by
  intro argIndex bound
  rw [argLocation_standard args filler (by omega), List.getElem?_eq_getElem bound]
  rfl

theorem add_one_ne (word : Word arch) : word + 1 ≠ word := by
  intro same
  have one : (1 : Word arch) = 0#_ := BitVec.add_right_eq_self.mp same
  cases arch with
  | arm => exact absurd one (by decide)
  | aarch64 => exact absurd one (by decide)

/-- An index is read right in every layout when it is an aligned one, or when the
next argument happens to be the same word. -/
theorem registerValue_iff {args : List (Word arch)}
    (length : args.length ≤ arch.maxRegArgs + Arch.maxStackArgs) {argIndex : Nat}
    (bound : argIndex < args.length) :
    (∀ process state, LaidOut process state args →
      registerValue process state argIndex = args[argIndex]) ↔
      arch.AlignedArg argIndex ∨ args[argIndex + 1]? = some args[argIndex] := by
  constructor
  · intro reads
    by_cases aligned : arch.AlignedArg argIndex
    · exact Or.inl aligned
    · right
      -- any filler but the argument itself shows the difference
      have read := reads _ _ (laidOut_standard length (args[argIndex] + 1))
      obtain ⟨onStack, nextRead⟩ :=
        Arch.readLocation_of_not_aligned aligned (standardState args).sp
      rw [registerValue_eq_value (by omega), nextRead, argLocation_standard _ _ (by omega),
        if_neg (by omega)] at read
      cases next : args[argIndex + 1]? with
      | some word =>
        rw [next] at read
        exact congrArg some read
      | none =>
        rw [next] at read
        exact absurd read (add_one_ne _)
  · intro right process state laid
    rw [registerValue_eq_value (by omega)]
    by_cases aligned : arch.AlignedArg argIndex
    · rw [aligned.readLocation]
      exact laid argIndex bound
    · have same := right.resolve_left aligned
      obtain ⟨boundNext, equal⟩ := List.getElem?_eq_some_iff.mp same
      have nextRead := (Arch.readLocation_of_not_aligned aligned state.sp).2
      rw [nextRead, laid (argIndex + 1) boundNext, equal]

/-- A list of arguments is read right on AArch64, and on ARM up to the fifth. -/
theorem arguments_read_iff (args : List (Word arch))
    (length : args.length ≤ arch.maxRegArgs + Arch.maxStackArgs) :
    ArgumentsRead args ↔ arch = .aarch64 ∨ args.length ≤ 5 := by
  constructor
  · intro read
    cases arch with
    | aarch64 => exact Or.inl rfl
    | arm =>
      right
      by_contra long
      have bound : 5 < args.length := Nat.not_le.mp long
      by_cases sixth : args.length = 6
      · -- the sixth argument is the last: what follows it is read instead
        have right := (registerValue_iff length bound).mp fun process state laid =>
          read.returned process state laid 5 bound
        rw [List.getElem?_eq_none (by omega)] at right
        rcases right with (other | low | even) | some
        · cases other
        · omega
        · omega
        · cases some
      · have same : Arch.arm.readLocation 0 5 = Arch.arm.readLocation 0 6 := rfl
        have equal := read.distinct 0 5 6 bound (by omega) same
        omega
  · intro short
    have aligned : ∀ argIndex < args.length, arch.AlignedArg argIndex := fun argIndex bound =>
      short.imp_right fun few => by omega
    refine ⟨fun process status laid argIndex bound => ?_,
      fun process state laid argIndex bound => ?_, fun sp first second bound bound' same => ?_⟩
    · exact (registerValue_iff length bound).mpr (Or.inl (aligned argIndex bound)) process _ laid
    · exact (registerValue_iff length bound).mpr (Or.inl (aligned argIndex bound)) process _ laid
    · rw [(aligned first bound).readLocation, (aligned second bound').readLocation] at same
      exact Arch.argLocation_injective (by omega) (by omega) same

/-- `mmap(0, 0x1000, 3, 2, 7, 0x2000)` on ARM. -/
def mmapArguments : List (Word .arm) := [0, 0x1000, 3, 2, 7, 0x2000]

theorem arguments_read_iff_mmap :
    ArgumentsRead mmapArguments ↔ Arch.arm = .aarch64 ∨ mmapArguments.length ≤ 5 :=
  arguments_read_iff mmapArguments (by decide)

/-- The offset is in the second stack word, the third is read. -/
theorem mmap_offset_lost :
    LaidOut (standardProcess mmapArguments 0) (standardState mmapArguments) mmapArguments ∧
      mmapArguments[5]? = some 0x2000 ∧
      (∀ fprState, getArgRegisterValue (standardProcess mmapArguments 0)
        ⟨standardState mmapArguments, fprState⟩ 5 = 0) ∧
      getRetRegisterValue (standardProcess mmapArguments 0) (standardState mmapArguments) 5 = 0 ∧
      ¬ ArgumentsRead mmapArguments := by
  have laid := laidOut_standard (show mmapArguments.length ≤ 4 + 16 by decide) 0
  have lost : registerValue (standardProcess mmapArguments 0) (standardState mmapArguments) 5 =
      0 := by decide
  refine ⟨laid, rfl, fun fprState => lost, lost, fun read => ?_⟩
  have offset := read.returned _ _ laid 5 (by decide)
  exact absurd (lost.symm.trans offset) (by decide)

end QbdiTracer
