import QbdiTracer.HexDump
import QbdiTracer.Library.Digits

/-! The line buffer of `Dump` seen as address digits and sixteen cells, and what the
inner loops make of them. -/

namespace QbdiTracer

variable {arch : Arch}

/-- One of the sixteen cells of a line, in both parts of it. -/
structure DumpCell where
  high : Char
  low : Char
  text : Char

namespace DumpCell

def blank : DumpCell := ⟨' ', ' ', ' '⟩

def ofByte (byte : BitVec 8) : DumpCell :=
  ⟨gHexDigit (byte.toNat / 16), gHexDigit (byte.toNat % 16), printableChar byte⟩

def hex (cell : DumpCell) : List Char := [cell.high, cell.low, ' ']

theorem length_flatMap_hex (cells : List DumpCell) :
    (cells.flatMap hex).length = 3 * cells.length := by
  induction cells with
  | nil => rfl
  | cons cell others ih =>
    rw [List.flatMap_cons, List.length_append, ih, List.length_cons, Nat.mul_succ, Nat.add_comm]
    rfl

end DumpCell

def renderLine (digits : List Char) (cells : List DumpCell) : List Char :=
  digits ++ ':' :: ' ' :: (cells.flatMap DumpCell.hex ++ ' ' :: cells.map DumpCell.text)

/-- The last digits of a value, the highest first. -/
def hexAddress (digits value : Nat) : List Char :=
  ((List.range digits).map fun i => gHexDigit (value / 16 ^ i % 16)).reverse

theorem hexAddress_succ (digits value : Nat) :
    hexAddress (digits + 1) value =
      gHexDigit (value / 16 ^ digits % 16) :: hexAddress digits value := by
  simp [hexAddress, List.range_succ]

@[simp] theorem length_hexAddress (digits value : Nat) :
    (hexAddress digits value).length = digits := by
  simp [hexAddress]

section Stores

/-- A store in front of the end, where the line is cut there. -/
theorem storeChar_eq {out before after : List Char} {old : Char} {position : Nat}
    (cut : out = before ++ old :: after) (here : position = before.length) (c : Char) :
    storeChar out position c = .ok (before ++ c :: after) := by
  subst cut here
  simp [storeChar]

variable {digits : List Char} {before after : List DumpCell} {cell : DumpCell}

/-- A line cut at the digits of a cell. -/
theorem renderLine_cut_hex : renderLine digits (before ++ cell :: after) =
    (digits ++ ':' :: ' ' :: before.flatMap DumpCell.hex) ++ cell.high :: cell.low :: ' ' ::
      (after.flatMap DumpCell.hex ++ ' ' :: (before ++ cell :: after).map DumpCell.text) := by
  simp [renderLine, DumpCell.hex]

/-- A line cut at the character of a cell. -/
theorem renderLine_cut_text : renderLine digits (before ++ cell :: after) =
    (digits ++ ':' :: ' ' :: ((before ++ cell :: after).flatMap DumpCell.hex ++
      ' ' :: before.map DumpCell.text)) ++ cell.text :: after.map DumpCell.text := by
  simp [renderLine]

theorem storeHigh_eq (c : Char) :
    storeChar (renderLine digits (before ++ cell :: after))
        (digits.length + 2 + 3 * before.length) c =
      .ok (renderLine digits (before ++ { cell with high := c } :: after)) := by
  rw [storeChar_eq renderLine_cut_hex ?_ c, renderLine_cut_hex]
  · simp
  · simp only [List.length_append, List.length_cons, DumpCell.length_flatMap_hex]
    omega

theorem storeLow_eq (c : Char) :
    storeChar (renderLine digits (before ++ cell :: after))
        (digits.length + 2 + 3 * before.length + 1) c =
      .ok (renderLine digits (before ++ { cell with low := c } :: after)) := by
  rw [storeChar_eq (renderLine_cut_hex.trans (List.append_cons _ _ _)) ?_ c, renderLine_cut_hex]
  · simp
  · simp only [List.length_append, List.length_cons, List.length_nil,
      DumpCell.length_flatMap_hex]
    omega

theorem storeText_eq (sixteen : before.length + 1 + after.length = 16) (c : Char) :
    storeChar (renderLine digits (before ++ cell :: after))
        (digits.length + 51 + before.length) c =
      .ok (renderLine digits (before ++ { cell with text := c } :: after)) := by
  rw [storeChar_eq renderLine_cut_text ?_ c, renderLine_cut_text]
  · simp [DumpCell.hex]
  · simp only [List.length_append, List.length_cons, List.length_map,
      DumpCell.length_flatMap_hex]
    omega

end Stores

section Offset

theorem Arch.two_pow_wordBits (arch : Arch) : 2 ^ arch.wordBits = 16 ^ arch.addressDigits := by
  cases arch <;> rfl

theorem Arch.two_pow_top (arch : Arch) :
    2 ^ (arch.wordBits - 4) = 16 ^ (arch.addressDigits - 1) := by
  cases arch <;> rfl

/-- With `left` digits to go, the value has been shifted up by the ones written. -/
theorem writeOffset_eq {left : Nat} (bound : left ≤ arch.addressDigits) {lineOffset : Word arch}
    {value : Nat} (shifted : lineOffset.toNat =
      16 ^ (arch.addressDigits - left) * value % 16 ^ arch.addressDigits)
    {written old after : List Char} (room : old.length = left) :
    writeOffset left lineOffset written.length (written ++ (old ++ after)) =
      .ok (written ++ (hexAddress left value ++ after)) := by
  induction left generalizing lineOffset written old with
  | zero =>
    rw [List.length_eq_zero_iff.mp room]
    rfl
  | succ left ih =>
    obtain ⟨first, others, rfl⟩ := List.exists_cons_of_length_eq_add_one room
    -- the digit on top of what is left
    have top : (lineOffset >>> (arch.wordBits - 4)).toNat = value / 16 ^ left % 16 := by
      have split : 16 ^ arch.addressDigits = 16 ^ (arch.addressDigits - 1) * 16 := by
        rw [← Nat.pow_succ]
        congr 1
        omega
      have below : 16 ^ (arch.addressDigits - 1) =
          16 ^ (arch.addressDigits - (left + 1)) * 16 ^ left := by
        rw [← Nat.pow_add]
        congr 1
        omega
      rw [BitVec.toNat_ushiftRight, Nat.shiftRight_eq_div_pow, Arch.two_pow_top, shifted, split,
        Nat.mod_mul_right_div_self, below, Nat.mul_div_mul_left _ _ (Nat.pow_pos (by decide))]
    have next : (lineOffset <<< 4).toNat =
        16 ^ (arch.addressDigits - left) * value % 16 ^ arch.addressDigits := by
      have shift : 16 ^ (arch.addressDigits - left) =
          16 ^ (arch.addressDigits - (left + 1)) * 2 ^ 4 := by
        change _ = _ * 16
        rw [← Nat.pow_succ]
        congr 1
        omega
      rw [BitVec.toNat_shiftLeft, Nat.shiftLeft_eq, Arch.two_pow_wordBits, shifted, shift,
        Nat.mod_mul_mod, Nat.mul_right_comm]
    have digit := storeChar_eq (List.cons_append ▸ rfl :
      written ++ (first :: others ++ after) = written ++ first :: (others ++ after)) rfl
      (gHexDigit (value / 16 ^ left % 16))
    have rest := @ih (by omega) _ next (written ++ [gHexDigit (value / 16 ^ left % 16)]) others
      (Nat.succ.inj room)
    simp only [List.length_append, List.length_singleton, List.append_assoc,
      List.singleton_append] at rest
    simp only [writeOffset, top, digit, bind, Except.bind]
    rw [rest, hexAddress_succ, List.cons_append]

end Offset

namespace DumpCursor

/-- The cursor in front of a cell of a line. -/
def inLine (digits : List Char) (cells : List DumpCell) (index : Nat)
    (addr : Word arch) : DumpCursor arch :=
  ⟨renderLine digits cells, digits.length + 2 + 3 * index, digits.length + 51 + index, addr⟩

variable {digits : List Char} {before after : List DumpCell} {old : DumpCell}

theorem writeByte_eq (process : Process arch) (sixteen : before.length + 1 + after.length = 16)
    (addr : Word arch) :
    writeByte process (DumpCursor.inLine digits (before ++ old :: after) before.length addr) =
      .ok (DumpCursor.inLine digits (before ++ .ofByte (process.memory addr) :: after)
        (before.length + 1) (addr + 1)) := by
  have high : (process.memory addr >>> 4).toNat = (process.memory addr).toNat / 16 := by
    rw [BitVec.toNat_ushiftRight, Nat.shiftRight_eq_div_pow]
  have low : (process.memory addr &&& 0x0f).toNat = (process.memory addr).toNat % 16 := by
    rw [BitVec.toNat_and]
    exact Nat.and_two_pow_sub_one_eq_mod _ 4
  simp only [writeByte, DumpCursor.inLine, high, low, storeHigh_eq, storeLow_eq,
    storeText_eq sixteen, bind, Except.bind, pure, Except.pure]
  rfl

theorem eraseCell_eq (sixteen : before.length + 1 + after.length = 16) (addr : Word arch) :
    eraseCell (DumpCursor.inLine digits (before ++ old :: after) before.length addr) =
      .ok (DumpCursor.inLine digits (before ++ .blank :: after) (before.length + 1) addr) := by
  simp only [eraseCell, DumpCursor.inLine, storeHigh_eq, storeLow_eq, storeText_eq sixteen, bind,
    Except.bind, pure, Except.pure]
  rfl

/-- A loop whose body replaces one cell and moves on replaces a row of cells. -/
theorem forCells_eq {body : DumpCursor arch → Except DumpFault (DumpCursor arch)}
    {addrs : Nat → Word arch} {cells : Nat → DumpCell}
    (step : ∀ (i : Nat) (before : List DumpCell) (old : DumpCell) (after : List DumpCell),
      before.length + 1 + after.length = 16 →
        body (DumpCursor.inLine digits (before ++ old :: after) before.length (addrs i)) =
          .ok (DumpCursor.inLine digits (before ++ cells i :: after) (before.length + 1)
            (addrs (i + 1))))
    (first : Nat) {before olds after : List DumpCell}
    (sixteen : before.length + olds.length + after.length = 16) :
    forCells body olds.length
        (DumpCursor.inLine digits (before ++ (olds ++ after)) before.length (addrs first)) =
      .ok (DumpCursor.inLine digits
        (before ++ ((List.range' first olds.length).map cells ++ after))
        (before.length + olds.length) (addrs (first + olds.length))) := by
  induction olds generalizing first before with
  | nil => rfl
  | cons old others ih =>
    simp only [List.length_cons] at sixteen ⊢
    have replaced := step first before old (others ++ after) (by simp; omega)
    have rest := @ih (first + 1) (before ++ [cells first]) (by simp; omega)
    simp only [List.length_append, List.length_singleton, List.append_assoc,
      List.singleton_append] at rest
    simp only [forCells, List.cons_append, replaced, bind, Except.bind]
    rw [rest, List.range'_succ, List.map_cons, List.cons_append, Nat.add_assoc, Nat.add_assoc,
      Nat.add_comm 1]

end DumpCursor

/-- `offset & ~0x0f`. -/
theorem toNat_lineOffset (offset : Word arch) :
    (offset &&& ~~~0x0f#_).toNat = offset.toNat / 16 * 16 := by
  have shifted : offset &&& ~~~0x0f#_ = (offset >>> 4) <<< 4 := by
    apply BitVec.eq_of_getLsbD_eq
    intro i bound
    have mask : (BitVec.ofNat arch.wordBits 15).getLsbD i = decide (i < 4) := by
      rw [BitVec.getLsbD_ofNat, show (15 : Nat) = 2 ^ 4 - 1 from rfl, Nat.testBit_two_pow_sub_one]
      simp [bound]
    simp only [BitVec.getLsbD_and, BitVec.getLsbD_not, mask, BitVec.getLsbD_shiftLeft,
      BitVec.getLsbD_ushiftRight, bound]
    by_cases low : i < 4
    · simp [low]
    · simp [low, Nat.add_sub_cancel' (Nat.not_lt.mp low)]
  have fits : offset.toNat / 16 * 16 < 2 ^ arch.wordBits := by
    have := offset.isLt
    omega
  rw [shifted, BitVec.toNat_shiftLeft, BitVec.toNat_ushiftRight, Nat.shiftLeft_eq,
    Nat.shiftRight_eq_div_pow]
  exact Nat.mod_eq_of_lt fits

theorem val_dumpGap (offset : Word arch) : (dumpGap offset).val = offset.toNat % 16 := by
  have mask : (0x0f#_ : Word arch).toNat = 2 ^ 4 - 1 := by cases arch <;> rfl
  change (offset &&& 0x0f#_).toNat = _
  rw [BitVec.toNat_and, mask]
  exact Nat.and_two_pow_sub_one_eq_mod _ 4

/-- The digits of the line's address replace the old ones. -/
theorem writeLineOffset_eq {digits : List Char} (width : digits.length = arch.addressDigits)
    (cells : List DumpCell) (offset : Word arch) :
    writeOffset arch.addressDigits (offset &&& ~~~0x0f#_) 0 (renderLine digits cells) =
      .ok (renderLine (hexAddress arch.addressDigits (offset.toNat / 16 * 16)) cells) := by
  have aligned : (offset &&& ~~~0x0f#_).toNat =
      16 ^ (arch.addressDigits - arch.addressDigits) * (offset.toNat / 16 * 16) %
        16 ^ arch.addressDigits := by
    rw [← Arch.two_pow_wordBits, Nat.sub_self, Nat.pow_zero, Nat.one_mul, ← toNat_lineOffset]
    exact (Nat.mod_eq_of_lt (BitVec.isLt _)).symm
  exact @writeOffset_eq arch _ (Nat.le_refl _) _ _ aligned [] digits _ width

namespace DumpCursor

variable {digits : List Char} {before olds after : List DumpCell}

theorem writeBytes_eq (process : Process arch)
    (sixteen : before.length + olds.length + after.length = 16) (addr : Word arch) :
    forCells (writeByte process) olds.length
        (inLine digits (before ++ (olds ++ after)) before.length addr) =
      .ok (inLine digits
        (before ++ ((List.range olds.length).map (fun i =>
          .ofByte (process.memory (addr + BitVec.ofNat _ i))) ++ after))
        (before.length + olds.length) (addr + BitVec.ofNat _ olds.length)) := by
  have step : ∀ (i : Nat) (before : List DumpCell) (old : DumpCell) (after : List DumpCell),
      before.length + 1 + after.length = 16 →
        writeByte process (inLine digits (before ++ old :: after) before.length
            (addr + BitVec.ofNat _ i)) =
          .ok (inLine digits
            (before ++ .ofByte (process.memory (addr + BitVec.ofNat _ i)) :: after)
            (before.length + 1) (addr + BitVec.ofNat _ (i + 1))) := by
    intro i before old after row
    rw [BitVec.ofNat_add, ← BitVec.add_assoc]
    exact writeByte_eq process row _
  have run := @forCells_eq arch digits _ (fun i => addr + BitVec.ofNat _ i) _ step 0 _ _ _ sixteen
  simp only [BitVec.add_zero, Nat.zero_add, ← List.range_eq_range'] at run
  exact run

theorem eraseCells_eq (sixteen : before.length + olds.length = 16) (addr : Word arch) :
    forCells eraseCell olds.length (inLine digits (before ++ olds) before.length addr) =
      .ok (inLine digits (before ++ List.replicate olds.length .blank) 16 addr) := by
  have run := @forCells_eq arch digits eraseCell (fun _ => addr) (fun _ => .blank)
    (fun _ _ _ _ row => eraseCell_eq row addr) 0 before olds [] (by simpa using sixteen)
  simp only [List.append_nil, List.map_const', List.length_range', sixteen] at run
  exact run

end DumpCursor

/-- One line: fresh digits, the bytes behind the gap, and blanks behind the bytes. -/
theorem dumpLine_eq (process : Process arch) {digits : List Char}
    (width : digits.length = arch.addressDigits) {before olds erased : List DumpCell}
    (sixteen : before.length + olds.length + erased.length = 16) (addr offset : Word arch) :
    dumpLine process (renderLine digits (before ++ (olds ++ erased))) addr offset olds.length
        before.length =
      .ok (renderLine (hexAddress arch.addressDigits (offset.toNat / 16 * 16))
        (before ++ ((List.range olds.length).map (fun i =>
          .ofByte (process.memory (addr + BitVec.ofNat _ i))) ++
          List.replicate erased.length .blank)), addr + BitVec.ofNat _ olds.length) := by
  have hexColumn : (if before.length ≠ 0 then arch.addressDigits + 2 + before.length * 3
      else arch.addressDigits + 2) = arch.addressDigits + 2 + 3 * before.length := by
    split <;> omega
  have textColumn : (if before.length ≠ 0 then
        arch.addressDigits + 1 + 16 * 3 + 2 + before.length
      else arch.addressDigits + 1 + 16 * 3 + 2) = arch.addressDigits + 51 + before.length := by
    split <;> omega
  have bytes := @DumpCursor.writeBytes_eq arch
    (hexAddress arch.addressDigits (offset.toNat / 16 * 16)) _ _ _ process sixteen addr
  have row : (before ++ (List.range olds.length).map fun i => DumpCell.ofByte
      (process.memory (addr + BitVec.ofNat _ i))).length = before.length + olds.length := by
    simp
  have rest := @DumpCursor.eraseCells_eq arch
    (hexAddress arch.addressDigits (offset.toNat / 16 * 16))
    (before ++ (List.range olds.length).map fun i => DumpCell.ofByte
      (process.memory (addr + BitVec.ofNat _ i))) erased
    (by rw [row, sixteen]) (addr + BitVec.ofNat _ olds.length)
  have left : 16 - (olds.length + before.length) = erased.length := by omega
  rw [row, List.append_assoc, List.append_assoc] at rest
  simp only [DumpCursor.inLine, length_hexAddress] at bytes rest
  simp only [dumpLine, writeLineOffset_eq width, hexColumn, textColumn, bytes, left, rest, bind,
    Except.bind, pure, Except.pure]

end QbdiTracer
