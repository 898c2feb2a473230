import Mathlib.Data.List.TakeWhile
import QbdiTracer.HexDumpBuffer

/-! The lines `Dump` prints, and what can be read back from them. -/

namespace QbdiTracer

variable {arch : Arch}

section Visible

/-- The characters of a line are neither NUL nor a newline. -/
def Visible (c : Char) : Prop := 0x20 ≤ c.toNat

instance (c : Char) : Decidable (Visible c) := inferInstanceAs (Decidable (_ ≤ _))

theorem visible_gHexDigit (value : Nat) : Visible (gHexDigit (value % 16)) := by
  have digits : ∀ digit : Fin 16, 0x20 ≤ (gHexDigit digit.val).toNat := by decide
  exact digits ⟨value % 16, Nat.mod_lt _ (by decide)⟩

theorem visible_printableChar (byte : BitVec 8) : Visible (printableChar byte) := by
  rw [printableChar]
  split
  · rename_i printable
    have valid : byte.toNat.isValidChar := Or.inl (by omega)
    rw [Visible, Char.ofNat, dif_pos valid]
    exact printable.1
  · decide

def DumpCell.AllVisible (cell : DumpCell) : Prop :=
  Visible cell.high ∧ Visible cell.low ∧ Visible cell.text

theorem DumpCell.allVisible_ofByte (byte : BitVec 8) : (DumpCell.ofByte byte).AllVisible := by
  have high : byte.toNat / 16 = byte.toNat / 16 % 16 := by
    have := byte.isLt
    omega
  refine ⟨?_, visible_gHexDigit _, visible_printableChar byte⟩
  rw [DumpCell.ofByte, high]
  exact visible_gHexDigit _

theorem DumpCell.allVisible_blank : DumpCell.blank.AllVisible := by
  refine ⟨?_, ?_, ?_⟩ <;> exact Nat.le_refl 0x20

theorem visible_renderLine {digits value : Nat} {cells : List DumpCell}
    (visible : ∀ cell ∈ cells, cell.AllVisible) :
    ∀ c ∈ renderLine (hexAddress digits value) cells, Visible c := by
  intro c member
  simp only [renderLine, List.mem_append, List.mem_cons, List.mem_flatMap, List.mem_map,
    DumpCell.hex, hexAddress, List.mem_reverse, List.not_mem_nil, or_false] at member
  rcases member with ⟨i, -, rfl⟩ | rfl | rfl | ⟨cell, inRow, rfl | rfl | rfl⟩ | rfl |
    ⟨cell, inRow, rfl⟩
  · exact visible_gHexDigit _
  · decide
  · decide
  · exact (visible cell inRow).1
  · exact (visible cell inRow).2.1
  · decide
  · decide
  · exact (visible cell inRow).2.2

theorem printedLine_of_visible {out : List Char} (visible : ∀ c ∈ out, Visible c) :
    printedLine out = out := by
  rw [printedLine, List.takeWhile_eq_self_iff]
  intro c member
  have shown := visible c member
  rw [decide_eq_true_eq]
  rintro rfl
  exact absurd shown (by decide)

end Visible

section Lines

variable (process : Process arch) (start stop : Nat)

/-- The cell of an address: its byte when it lies in the range dumped. -/
def dumpedCell (address : Nat) : DumpCell :=
  if start ≤ address ∧ address < stop then .ofByte (process.memory (BitVec.ofNat _ address))
  else .blank

def dumpedRow (line : Nat) : List DumpCell :=
  (List.range 16).map fun column => dumpedCell process start stop (line + column)

def dumpedLine (line : Nat) : List Char :=
  renderLine (hexAddress arch.addressDigits line) (dumpedRow process start stop line)

/-- The lines from an aligned address on. -/
def dumpedLines (first : Nat) : List (List Char) :=
  (List.range ((stop - first + 15) / 16)).map fun row =>
    dumpedLine process start stop (first + 16 * row)

theorem dumpedLines_cons {first : Nat} (more : first < stop) :
    dumpedLines process start stop first =
      dumpedLine process start stop first :: dumpedLines process start stop (first + 16) := by
  have count : (stop - first + 15) / 16 = (stop - (first + 16) + 15) / 16 + 1 := by omega
  rw [dumpedLines, dumpedLines, count, List.range_succ_eq_map, List.map_cons, List.map_map]
  congr 1
  refine List.map_congr_left fun row _ => ?_
  rw [Function.comp_apply, Nat.mul_succ, Nat.add_assoc, Nat.add_comm 16]

theorem dumpedLines_nil {first : Nat} (past : stop ≤ first) :
    dumpedLines process start stop first = [] := by
  have count : (stop - first + 15) / 16 = 0 := by omega
  rw [dumpedLines, count]
  rfl

theorem visible_dumpedLine (line : Nat) :
    ∀ c ∈ dumpedLine process start stop line, Visible c := by
  refine visible_renderLine fun cell member => ?_
  obtain ⟨column, -, rfl⟩ := List.mem_map.mp member
  rw [dumpedCell]
  split
  · exact DumpCell.allVisible_ofByte _
  · exact DumpCell.allVisible_blank

variable {start stop}

/-- Values in a window of a row, and the same default on both sides of it. -/
theorem map_window {Value : Type} (inside : Nat → Value) (default : Value) {gap count width : Nat}
    (fits : gap + count ≤ width) :
    (List.range width).map (fun place =>
        if gap ≤ place ∧ place < gap + count then inside (place - gap) else default) =
      List.replicate gap default ++ ((List.range count).map inside ++
        List.replicate (width - (gap + count)) default) := by
  apply List.ext_getElem
  · simp only [List.length_map, List.length_range, List.length_append, List.length_replicate]
    omega
  · intro place bound bound'
    simp only [List.getElem_map, List.getElem_range, List.getElem_append, List.getElem_replicate,
      List.length_map, List.length_range, List.length_replicate]
    by_cases before : place < gap
    · rw [dif_pos before, if_neg (by omega)]
    · rw [dif_neg before]
      by_cases within : place - gap < count
      · rw [dif_pos within, if_pos (by omega)]
      · rw [dif_neg within, if_neg (by omega)]

/-- What one round of the loop leaves in the cells: blanks up to the first address,
the bytes, blanks behind the last one. -/
theorem dumpedRow_eq {line gap count : Nat} (small : gap < 16) (above : start ≤ line + gap)
    (begins : line + gap = start ∨ gap = 0)
    (counted : min (stop - (line + gap)) (16 - gap) = count) :
    List.replicate gap .blank ++ ((List.range count).map (fun i =>
        .ofByte (process.memory (BitVec.ofNat _ (line + gap) + BitVec.ofNat _ i))) ++
      List.replicate (16 - (gap + count)) .blank) = dumpedRow process start stop line := by
  rw [← map_window _ _ (by omega), dumpedRow]
  refine List.map_congr_left fun column member => ?_
  have bound := List.mem_range.mp member
  rw [dumpedCell]
  by_cases within : gap ≤ column ∧ column < gap + count
  · have address : line + gap + (column - gap) = line + column := by omega
    rw [if_pos within, if_pos (by omega), ← BitVec.ofNat_add, address]
  · rw [if_neg within, if_neg (by omega)]

/-- The outer loop prints the lines from the one of its position on. At its start the
cells in front of the position are blank. -/
theorem dumpLoop_eq (fits : stop ≤ 2 ^ arch.wordBits) {byteCount line : Nat} {gap : Fin 16}
    (aligned : line % 16 = 0) (remaining : byteCount = stop - (line + gap))
    (below : line + gap < stop) (above : start ≤ line + gap)
    (begins : line + gap = start ∨ gap.val = 0) {digits : List Char}
    (width : digits.length = arch.addressDigits) {cells : List DumpCell}
    (sixteen : gap + cells.length = 16) (os : List Char) :
    dumpLoop process os (renderLine digits (List.replicate gap .blank ++ cells))
        (BitVec.ofNat _ (line + gap)) (BitVec.ofNat _ (line + gap)) byteCount gap =
      .ok (os ++ ['\n'].intercalate (dumpedLines process start stop line)) := by
  induction byteCount using Nat.strongRecOn generalizing line gap digits cells os with
  | ind byteCount ih =>
    have small := gap.isLt
    generalize counted : min (stop - (line + gap)) (16 - gap) = count
    have row := dumpedRow_eq process small above begins counted
    have line_fits : (BitVec.ofNat arch.wordBits (line + gap)).toNat / 16 * 16 = line := by
      rw [BitVec.toNat_ofNat, Nat.mod_eq_of_lt (Nat.lt_of_lt_of_le below fits)]
      omega
    have taken : (cells.take count).length = count := by
      rw [List.length_take]
      omega
    have dropped : (cells.drop count).length = 16 - (gap + count) := by
      rw [List.length_drop]
      omega
    have printed := printedLine_of_visible (visible_dumpedLine process start stop line)
    have written := @dumpLine_eq arch process digits width (List.replicate gap .blank)
      (cells.take count) (cells.drop count)
      (by rw [List.length_replicate, taken, dropped]; omega) (BitVec.ofNat _ (line + gap))
      (BitVec.ofNat _ (line + gap))
    rw [List.take_append_drop, taken, dropped, List.length_replicate, line_fits, row] at written
    rw [dumpedLine] at printed
    rw [dumpLoop, dif_neg (by omega), remaining, counted]
    simp only [written, printed, ← BitVec.ofNat_add]
    rw [dumpedLines_cons process start stop (by omega), dumpedLine]
    by_cases more : line + gap + count < stop
    · -- the line is full, and the next one starts without a gap
      have full : line + gap + count = line + 16 := by omega
      have rest := @ih (stop - (line + gap) - count) (by omega) (line + 16) 0 (by omega)
        (by simp only [Fin.val_zero]; omega) (by simp only [Fin.val_zero]; omega)
        (by simp only [Fin.val_zero]; omega) (Or.inr rfl) _
        (length_hexAddress arch.addressDigits line) (dumpedRow process start stop line)
        (by simp [dumpedRow])
      simp only [Fin.val_zero, List.replicate_zero, List.nil_append, Nat.add_zero] at rest
      rw [full, rest, if_pos (by omega), List.intercalate_cons_of_ne_nil]
      · simp
      · rw [dumpedLines_cons process start stop (by omega)]
        exact List.cons_ne_nil _ _
    · have done : stop - (line + gap) - count = 0 := by omega
      rw [done, dumpLoop, dif_pos rfl, if_neg (Nat.lt_irrefl 0),
        dumpedLines_nil process start stop (by omega), List.intercalate_singleton]

end Lines

end QbdiTracer
