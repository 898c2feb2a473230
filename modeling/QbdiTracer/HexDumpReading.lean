import Mathlib.Data.List.Basic
import QbdiTracer.HexDumpLines

/-! What a hexdump shows, cell by cell, and the address and bytes read back from it. -/

namespace QbdiTracer

variable {arch : Arch}

/-- The two hex digits of a column. -/
def hexCell (arch : Arch) (line : List Char) (column : Nat) : List Char :=
  (line.drop (arch.addressDigits + 2 + 3 * column)).take 2

/-- The character of a column in the text part. -/
def textCell (arch : Arch) (text : List Char) (column : Nat) : Option Char :=
  text[arch.addressDigits + 51 + column]?

def hexValue (c : Char) : Option Nat := (List.range 16).find? fun digit => gHexDigit digit = c

def readCell : List Char → Option (BitVec 8)
  | [high, low] => do
    let high ← hexValue high
    let low ← hexValue low
    return BitVec.ofNat 8 (16 * high + low)
  | _ => none

def readAddress (digits : List Char) : Nat :=
  digits.foldl (fun value c => (hexValue c).getD 0 + 16 * value) 0

/-- The address of the first byte and the bytes, read from the hex cells of a dump. -/
def readDump (arch : Arch) (text : List Char) : Nat × List (BitVec 8) :=
  let lines := text.splitOn '\n'
  let cells := lines.flatMap fun line =>
    (List.range 16).map fun column => readCell (hexCell arch line column)
  (readAddress ((lines.headD []).take arch.addressDigits) + (cells.takeWhile Option.isNone).length,
    cells.filterMap id)

/-- The lines show the bytes at their places and nothing else, and can be read back. -/
structure DumpReadable (address : Word arch) (bytes : List (BitVec 8))
    (lines : List (List Char)) : Prop where
  count : lines.length = (address.toNat % 16 + bytes.length + 15) / 16
  width : ∀ line ∈ lines, line.length = arch.dumpColumns
  offset : ∀ (row : Nat) (bound : row < lines.length),
    lines[row].take arch.addressDigits =
      hexAddress arch.addressDigits (address.toNat - address.toNat % 16 + 16 * row)
  byte : ∀ (i : Nat) (bound : i < bytes.length),
    ∃ row : (address.toNat % 16 + i) / 16 < lines.length,
      hexCell arch lines[(address.toNat % 16 + i) / 16] ((address.toNat + i) % 16) =
        [gHexDigit (bytes[i].toNat / 16), gHexDigit (bytes[i].toNat % 16)] ∧
      textCell arch lines[(address.toNat % 16 + i) / 16] ((address.toNat + i) % 16) =
        some (printableChar bytes[i])
  blank : ∀ (row : Nat) (bound : row < lines.length) (column : Nat), column < 16 →
    (∀ i < bytes.length,
      ¬ ((address.toNat % 16 + i) / 16 = row ∧ (address.toNat + i) % 16 = column)) →
      hexCell arch lines[row] column = [' ', ' '] ∧ textCell arch lines[row] column = some ' '
  separators : ∀ text ∈ lines, text[arch.addressDigits]? = some ':' ∧
    text[arch.addressDigits + 1]? = some ' ' ∧
    (∀ column < 16, text[arch.addressDigits + 4 + 3 * column]? = some ' ') ∧
    text[arch.addressDigits + 50]? = some ' '
  readBack : readDump arch (['\n'].intercalate lines) = (address.toNat, bytes)

section Columns

variable {digits : List Char} {cells : List DumpCell}

theorem cut_at {column : Nat} (bound : column < cells.length) :
    cells = cells.take column ++ cells[column] :: cells.drop (column + 1) := by
  rw [List.getElem_cons_drop, List.take_append_drop]

theorem hexCell_renderLine (width : digits.length = arch.addressDigits) {column : Nat}
    (bound : column < cells.length) :
    hexCell arch (renderLine digits cells) column =
      [cells[column].high, cells[column].low] := by
  have cut := @renderLine_cut_hex digits (cells.take column) (cells.drop (column + 1)) cells[column]
  rw [← cut_at bound] at cut
  rw [hexCell, cut, List.drop_left']
  · rfl
  · simp only [List.length_append, List.length_cons, DumpCell.length_flatMap_hex,
      List.length_take]
    omega

theorem getElem?_cut {out before after : List Char} {c : Char} {position : Nat}
    (cut : out = before ++ c :: after) (here : position = before.length) :
    out[position]? = some c := by
  subst cut here
  simp

theorem textCell_renderLine (width : digits.length = arch.addressDigits)
    (sixteen : cells.length = 16) {column : Nat} (bound : column < cells.length) :
    textCell arch (renderLine digits cells) column = some cells[column].text := by
  have cut := @renderLine_cut_text digits (cells.take column) (cells.drop (column + 1))
    cells[column]
  rw [← cut_at bound] at cut
  refine getElem?_cut cut ?_
  simp only [List.length_append, List.length_cons, List.length_map,
    DumpCell.length_flatMap_hex, List.length_take]
  omega

theorem length_renderLine (width : digits.length = arch.addressDigits)
    (sixteen : cells.length = 16) : (renderLine digits cells).length = arch.dumpColumns := by
  simp only [renderLine, Arch.dumpColumns, List.length_append, List.length_cons, List.length_map,
    DumpCell.length_flatMap_hex, sixteen, width]

/-- The columns between the cells. -/
theorem separators_renderLine (width : digits.length = arch.addressDigits)
    (sixteen : cells.length = 16) :
    (renderLine digits cells)[arch.addressDigits]? = some ':' ∧
      (renderLine digits cells)[arch.addressDigits + 1]? = some ' ' ∧
      (∀ column < 16, (renderLine digits cells)[arch.addressDigits + 4 + 3 * column]? = some ' ') ∧
      (renderLine digits cells)[arch.addressDigits + 50]? = some ' ' := by
  refine ⟨getElem?_cut rfl width.symm, ?_, fun column small => ?_, ?_⟩
  · refine getElem?_cut (List.append_cons _ _ _) ?_
    rw [List.length_append, width, List.length_singleton]
  · have bound : column < cells.length := by omega
    have cut := @renderLine_cut_hex digits (cells.take column) (cells.drop (column + 1))
      cells[column]
    rw [← cut_at bound, List.append_cons, List.append_cons] at cut
    refine getElem?_cut cut ?_
    simp only [List.length_append, List.length_cons, List.length_nil,
      DumpCell.length_flatMap_hex, List.length_take]
    omega
  · have cut : renderLine digits cells = (digits ++ ':' :: ' ' :: cells.flatMap DumpCell.hex) ++
        ' ' :: cells.map DumpCell.text := by
      simp [renderLine]
    refine getElem?_cut cut ?_
    simp only [List.length_append, List.length_cons, DumpCell.length_flatMap_hex, sixteen, width]

end Columns

section Values

theorem hexValue_gHexDigit {value : Nat} (small : value < 16) :
    hexValue (gHexDigit value) = some value := by
  have digits : ∀ digit : Fin 16, hexValue (gHexDigit digit.val) = some digit.val := by decide
  exact digits ⟨value, small⟩

/-- The digits of an address are read back. -/
theorem readAddress_hexAddress (digits value : Nat) :
    readAddress (hexAddress digits value) = value % 16 ^ digits := by
  rw [readAddress, hexAddress, List.foldl_reverse, List.foldr_map, ← Digits.foldr_digits]
  refine List.foldr_ext _ _ _ fun i _ high => ?_
  rw [hexValue_gHexDigit (Nat.mod_lt _ (by decide))]
  rfl

theorem readCell_ofByte (byte : BitVec 8) :
    readCell [(DumpCell.ofByte byte).high, (DumpCell.ofByte byte).low] = some byte := by
  have small := byte.isLt
  have whole : 16 * (byte.toNat / 16) + byte.toNat % 16 = byte.toNat := by omega
  have high := hexValue_gHexDigit (show byte.toNat / 16 < 16 by omega)
  have low := hexValue_gHexDigit (show byte.toNat % 16 < 16 by omega)
  simp only [readCell, DumpCell.ofByte, high, low, bind, Option.bind, pure, whole,
    BitVec.ofNat_toNat, BitVec.setWidth_eq]

theorem readCell_blank : readCell [DumpCell.blank.high, DumpCell.blank.low] = none := by decide

end Values

section Reading

variable (process : Process arch) (start stop : Nat)

/-- The byte a cell shows. -/
def dumpedByte (address : Nat) : Option (BitVec 8) :=
  if start ≤ address ∧ address < stop then some (process.memory (BitVec.ofNat _ address)) else none

theorem hexCell_dumpedLine (line : Nat) {column : Nat} (small : column < 16) :
    hexCell arch (dumpedLine process start stop line) column =
      [(dumpedCell process start stop (line + column)).high,
        (dumpedCell process start stop (line + column)).low] := by
  rw [dumpedLine, hexCell_renderLine (length_hexAddress _ _) (by simpa [dumpedRow] using small)]
  simp [dumpedRow]

theorem textCell_dumpedLine (line : Nat) {column : Nat} (small : column < 16) :
    textCell arch (dumpedLine process start stop line) column =
      some (dumpedCell process start stop (line + column)).text := by
  rw [dumpedLine, textCell_renderLine (length_hexAddress _ _) (by simp [dumpedRow])
    (by simpa [dumpedRow] using small)]
  simp [dumpedRow]

theorem readCell_dumpedLine (line : Nat) {column : Nat} (small : column < 16) :
    readCell (hexCell arch (dumpedLine process start stop line) column) =
      dumpedByte process start stop (line + column) := by
  rw [hexCell_dumpedLine process start stop line small, dumpedCell, dumpedByte]
  split
  · exact readCell_ofByte _
  · exact readCell_blank

/-- Rows of sixteen, one after the other. -/
theorem flatMap_rows {Value : Type} (value : Nat → Value) (rows : Nat) :
    (List.range rows).flatMap (fun row => (List.range 16).map fun column =>
      value (16 * row + column)) = (List.range (16 * rows)).map value := by
  induction rows with
  | zero => rfl
  | succ rows ih =>
    have last : List.range (rows + 1) = List.range rows ++ [rows] := List.range_succ
    rw [last, List.flatMap_append, ih, Nat.mul_succ, List.range_add, List.map_append,
      List.map_map]
    simp [Function.comp_def]

theorem cells_dumpedLines (first : Nat) :
    (dumpedLines process start stop first).flatMap (fun line => (List.range 16).map fun column =>
        readCell (hexCell arch line column)) =
      (List.range (16 * ((stop - first + 15) / 16))).map fun place =>
        dumpedByte process start stop (first + place) := by
  rw [dumpedLines, List.flatMap_map, ← flatMap_rows]
  refine List.flatMap_congr fun row _ => List.map_congr_left fun column small => ?_
  rw [readCell_dumpedLine process start stop _ (List.mem_range.mp small), Nat.add_assoc]

/-- Blanks up to the first byte, the bytes, blanks up to the end of the last line. -/
theorem dumpedBytes_eq (length : Nat) :
    ((List.range (16 * ((start % 16 + length + 15) / 16))).map fun place =>
        dumpedByte process start (start + length) (start / 16 * 16 + place)) =
      List.replicate (start % 16) none ++ ((List.range length).map (fun i =>
          some (process.memory (BitVec.ofNat _ (start + i)))) ++
        List.replicate (16 * ((start % 16 + length + 15) / 16) - (start % 16 + length)) none) := by
  rw [← map_window _ _ (by omega)]
  refine List.map_congr_left fun place _ => ?_
  rw [dumpedByte]
  by_cases within : start % 16 ≤ place ∧ place < start % 16 + length
  · have address : start + (place - start % 16) = start / 16 * 16 + place := by omega
    rw [if_pos within, if_pos (by omega), address]
  · rw [if_neg within, if_neg (by omega)]

end Reading

section Dump

variable {address : Word arch} {bytes : List (BitVec 8)}

/-- The lines a dump of `length` bytes consists of. -/
def linesOf (process : Process arch) (address : Word arch) (length : Nat) : List (List Char) :=
  dumpedLines process address.toNat (address.toNat + length) (address.toNat / 16 * 16)

theorem toNat_pos_of_ne_zero (nonnull : address ≠ 0) : 0 < address.toNat := by
  rw [Nat.pos_iff_ne_zero]
  intro zero
  exact nonnull (BitVec.eq_of_toNat_eq zero)

theorem toNat_byteCount {length : Nat} (fits : length < 2 ^ arch.wordBits) :
    (BitVec.ofNat arch.wordBits length).toNat = length := by
  rw [BitVec.toNat_ofNat]
  exact Nat.mod_eq_of_lt fits

theorem hexDump_eq (process : Process arch) (nonnull : address ≠ 0) {length : Nat}
    (positive : 0 < length) (fits : address.toNat + length ≤ 2 ^ arch.wordBits) :
    hexDump process address (BitVec.ofNat _ length) =
      .ok (['\n'].intercalate (linesOf process address length)) := by
  have start := toNat_pos_of_ne_zero nonnull
  have count := @toNat_byteCount arch length (by omega)
  have some_bytes : BitVec.ofNat arch.wordBits length ≠ 0 := by
    intro none
    rw [none] at count
    exact absurd count.symm (Nat.ne_of_gt positive)
  have gap := val_dumpGap address
  have sixteen : (dumpGap address).val + (16 - dumpGap address) = 16 := by omega
  have cleared : (List.replicate arch.dumpColumns ' ').set arch.addressDigits ':' =
      renderLine (List.replicate arch.addressDigits ' ')
        (List.replicate (dumpGap address) .blank ++
          List.replicate (16 - dumpGap address) .blank) := by
    rw [← List.replicate_add, sixteen]
    cases arch <;> rfl
  have position : address.toNat / 16 * 16 + dumpGap address = address.toNat := by omega
  have loop := @dumpLoop_eq arch process address.toNat _ fits length (address.toNat / 16 * 16)
    (dumpGap address) (Nat.mul_mod_left _ _) (by omega) (by omega) (by omega) (Or.inl position)
    (List.replicate arch.addressDigits ' ') List.length_replicate
    (List.replicate (16 - dumpGap address) .blank) (by rw [List.length_replicate, sixteen]) []
  rw [position, BitVec.ofNat_toNat, BitVec.setWidth_eq] at loop
  rw [hexDump, if_neg some_bytes, if_neg nonnull, cleared, count, loop]
  rfl

theorem getElem_linesOf (process : Process arch) {length row : Nat}
    (bound : row < (linesOf process address length).length) :
    (linesOf process address length)[row] =
      dumpedLine process address.toNat (address.toNat + length)
        (address.toNat / 16 * 16 + 16 * row) := by
  simp [linesOf, dumpedLines]

theorem mem_linesOf {process : Process arch} {length : Nat} {line : List Char}
    (member : line ∈ linesOf process address length) :
    ∃ value, line =
      dumpedLine process address.toNat (address.toNat + length) value := by
  obtain ⟨row, -, rfl⟩ := List.mem_map.mp member
  exact ⟨_, rfl⟩

theorem length_linesOf (process : Process arch) (length : Nat) :
    (linesOf process address length).length = (address.toNat % 16 + length + 15) / 16 := by
  simp only [linesOf, dumpedLines, List.length_map, List.length_range]
  omega

/-- The byte at an address of the range that holds the bytes. -/
theorem memory_eq {process : Process arch}
    (held : process.readBytes address (BitVec.ofNat _ bytes.length) = bytes)
    (fits : bytes.length < 2 ^ arch.wordBits) {i : Nat} (bound : i < bytes.length) :
    process.memory (BitVec.ofNat _ (address.toNat + i)) = bytes[i] := by
  have count := toNat_byteCount fits
  have byte := congrArg (fun list : List (BitVec 8) => list[i]?) held
  simp only [Process.readBytes, count, List.getElem?_map, List.getElem?_range bound,
    Option.map_some, List.getElem?_eq_getElem bound, Option.some.injEq] at byte
  rw [BitVec.ofNat_add, BitVec.ofNat_toNat, BitVec.setWidth_eq]
  exact byte

/-- The cells of a dump: blanks up to the address, the bytes, blanks to the end of the
last line. -/
theorem readCells_linesOf {process : Process arch}
    (memory : ∀ (i : Nat) (bound : i < bytes.length),
      process.memory (BitVec.ofNat _ (address.toNat + i)) = bytes[i]) :
    (linesOf process address bytes.length).flatMap (fun line =>
      (List.range 16).map fun column => readCell (hexCell arch line column)) =
        List.replicate (address.toNat % 16) none ++ (bytes.map some ++
          List.replicate (16 * ((address.toNat % 16 + bytes.length + 15) / 16) -
            (address.toNat % 16 + bytes.length)) none) := by
  have shown : (List.range bytes.length).map (fun i =>
      some (process.memory (BitVec.ofNat _ (address.toNat + i)))) = bytes.map some := by
    apply List.ext_getElem
    · simp
    · intro i bound bound'
      simp only [List.getElem_map, List.getElem_range]
      rw [memory i (by simpa using bound)]
  have span : address.toNat + bytes.length - address.toNat / 16 * 16 =
      address.toNat % 16 + bytes.length := by omega
  rw [linesOf, cells_dumpedLines, span, dumpedBytes_eq, shown]

/-- The first line of a dump begins at the multiple of 16 below the address. -/
theorem linesOf_cons (process : Process arch) (address : Word arch) {size : Nat}
    (positive : 0 < size) :
    linesOf process address size =
      dumpedLine process address.toNat (address.toNat + size) (address.toNat / 16 * 16) ::
        dumpedLines process address.toNat (address.toNat + size)
          (address.toNat / 16 * 16 + 16) :=
  dumpedLines_cons process _ _ (by omega)

theorem readAddress_linesOf (process : Process arch) (address : Word arch) {size : Nat}
    (positive : 0 < size) :
    readAddress (((linesOf process address size).headD []).take arch.addressDigits) =
      address.toNat / 16 * 16 := by
  have low : (address.toNat / 16 * 16) % 16 ^ arch.addressDigits = address.toNat / 16 * 16 := by
    have bound := address.isLt
    rw [Arch.two_pow_wordBits] at bound
    exact Nat.mod_eq_of_lt (by omega)
  rw [linesOf_cons process address positive, List.headD_cons, dumpedLine, renderLine,
    List.take_left' (length_hexAddress _ _), readAddress_hexAddress, low]

theorem readDump_linesOf {process : Process arch} (nonempty : bytes ≠ [])
    (memory : ∀ (i : Nat) (bound : i < bytes.length),
      process.memory (BitVec.ofNat _ (address.toNat + i)) = bytes[i]) :
    readDump arch (['\n'].intercalate (linesOf process address bytes.length)) =
      (address.toNat, bytes) := by
  have positive := List.length_pos_iff.mpr nonempty
  have noNewline : ∀ line ∈ linesOf process address bytes.length, '\n' ∉ line := by
    intro line member newline
    obtain ⟨value, rfl⟩ := mem_linesOf member
    exact absurd (visible_dumpedLine process _ _ value _ newline) (by decide)
  have lines : linesOf process address bytes.length ≠ [] := by
    rw [linesOf_cons process address positive]
    exact List.cons_ne_nil _ _
  rw [readDump, List.splitOn_intercalate _ noNewline lines]
  have gap : ((List.replicate (address.toNat % 16) none ++ (bytes.map some ++
      List.replicate (16 * ((address.toNat % 16 + bytes.length + 15) / 16) -
        (address.toNat % 16 + bytes.length)) none)).takeWhile Option.isNone).length =
      address.toNat % 16 := by
    obtain ⟨byte, others, rfl⟩ := List.exists_cons_of_ne_nil nonempty
    rw [List.takeWhile_append_of_pos (by simp)]
    simp
  have kept : (List.replicate (address.toNat % 16) none ++ (bytes.map some ++
      List.replicate (16 * ((address.toNat % 16 + bytes.length + 15) / 16) -
        (address.toNat % 16 + bytes.length)) none)).filterMap id = bytes := by
    simp
  simp only [readCells_linesOf memory, readAddress_linesOf process address positive, gap, kept]
  rw [Nat.mul_comm, Nat.div_add_mod]

/-- Every byte stands in its column, in hexadecimal and as text. -/
theorem byte_linesOf {process : Process arch} {i : Nat} (bound : i < bytes.length)
    (memory : process.memory (BitVec.ofNat _ (address.toNat + i)) = bytes[i]) :
    ∃ row : (address.toNat % 16 + i) / 16 < (linesOf process address bytes.length).length,
      hexCell arch (linesOf process address bytes.length)[(address.toNat % 16 + i) / 16]
          ((address.toNat + i) % 16) =
        [gHexDigit (bytes[i].toNat / 16), gHexDigit (bytes[i].toNat % 16)] ∧
      textCell arch (linesOf process address bytes.length)[(address.toNat % 16 + i) / 16]
          ((address.toNat + i) % 16) = some (printableChar bytes[i]) := by
  have row : (address.toNat % 16 + i) / 16 < (linesOf process address bytes.length).length := by
    rw [length_linesOf]
    omega
  have column : (address.toNat + i) % 16 < 16 := Nat.mod_lt _ (by decide)
  have place : address.toNat / 16 * 16 + 16 * ((address.toNat % 16 + i) / 16) +
      (address.toNat + i) % 16 = address.toNat + i := by omega
  have cell : dumpedCell process address.toNat (address.toNat + bytes.length)
      (address.toNat + i) = .ofByte bytes[i] := by
    rw [dumpedCell, if_pos (by omega), memory]
  refine ⟨row, ?_, ?_⟩
  · rw [getElem_linesOf, hexCell_dumpedLine _ _ _ _ column, place, cell]
    rfl
  · rw [getElem_linesOf, textCell_dumpedLine _ _ _ _ column, place, cell]
    rfl

/-- Every other column is blank. -/
theorem blank_linesOf (process : Process arch) (address : Word arch) {size row column : Nat}
    (bound : row < (linesOf process address size).length) (small : column < 16)
    (other : ∀ i < size,
      ¬ ((address.toNat % 16 + i) / 16 = row ∧ (address.toNat + i) % 16 = column)) :
    hexCell arch (linesOf process address size)[row] column = [' ', ' '] ∧
      textCell arch (linesOf process address size)[row] column = some ' ' := by
  have outside : ¬ (address.toNat ≤ address.toNat / 16 * 16 + 16 * row + column ∧
      address.toNat / 16 * 16 + 16 * row + column < address.toNat + size) := by
    rintro ⟨above, below⟩
    refine other (address.toNat / 16 * 16 + 16 * row + column - address.toNat) (by omega) ?_
    omega
  rw [getElem_linesOf, hexCell_dumpedLine _ _ _ _ small, textCell_dumpedLine _ _ _ _ small,
    dumpedCell, if_neg outside]
  exact ⟨rfl, rfl⟩

/-- Every non-null address and every list of bytes below the end of the address space
is printed, within the line buffer, in lines that show it and give it back. -/
theorem hexDump_readable (process : Process arch) (address : Word arch) (bytes : List (BitVec 8))
    (nonnull : address ≠ 0) (nonempty : bytes ≠ [])
    (fits : address.toNat + bytes.length ≤ 2 ^ arch.wordBits)
    (held : process.readBytes address (BitVec.ofNat _ bytes.length) = bytes) :
    ∃ lines, hexDump process address (BitVec.ofNat _ bytes.length) =
        .ok (['\n'].intercalate lines) ∧ DumpReadable address bytes lines := by
  have positive := List.length_pos_iff.mpr nonempty
  refine ⟨_, hexDump_eq process nonnull positive fits, ?_⟩
  have start := toNat_pos_of_ne_zero nonnull
  have memory : ∀ (i : Nat) (bound : i < bytes.length),
      process.memory (BitVec.ofNat _ (address.toNat + i)) = bytes[i] :=
    fun i bound => memory_eq held (by omega) bound
  have sixteen : ∀ line,
      (dumpedRow process address.toNat (address.toNat + bytes.length) line).length = 16 := by
    intro line
    rw [dumpedRow, List.length_map, List.length_range]
  constructor
  case count => exact length_linesOf process bytes.length
  case width =>
    intro line member
    obtain ⟨value, rfl⟩ := mem_linesOf member
    exact length_renderLine (length_hexAddress _ _) (sixteen value)
  case offset =>
    intro row bound
    have aligned : address.toNat - address.toNat % 16 = address.toNat / 16 * 16 := by omega
    rw [getElem_linesOf, aligned, dumpedLine, renderLine,
      List.take_left' (length_hexAddress _ _)]
  case byte => exact fun i bound => byte_linesOf bound (memory i bound)
  case blank =>
    exact fun row bound column small other => blank_linesOf process address bound small other
  case separators =>
    intro line member
    obtain ⟨value, rfl⟩ := mem_linesOf member
    exact separators_renderLine (length_hexAddress _ _) (sixteen value)
  case readBack => exact readDump_linesOf nonempty memory

/-- A process whose memory counts. -/
def countingProcess : Process .arm := ⟨fun a => a.setWidth 8, fun _ => "", [], none, fun _ => ""⟩

/-- Twenty bytes from 0x100d on: three on the first line, one on the last. -/
theorem hexDump_readable_twenty :
    ∃ lines, hexDump countingProcess 0x100d 20 = .ok (['\n'].intercalate lines) ∧
      DumpReadable (0x100d : Word .arm) ((List.range 20).map fun i => BitVec.ofNat 8 (13 + i))
        lines :=
  hexDump_readable countingProcess 0x100d ((List.range 20).map fun i => BitVec.ofNat 8 (13 + i))
    (by decide) (by decide) (by decide) (by decide)

end Dump

end QbdiTracer
