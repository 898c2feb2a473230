import QbdiTracer.PatternGrammar
import Mathlib.Data.List.Forall2

/-! Texts with a mask part: the two cursors keep in step only where no gap of the
match part is wider than the gap of the mask part at the same place. -/

namespace QbdiTracer.MemoryScan

namespace ByteUnit

/-- Two hexadecimal digits. -/
def Digits (unit : ByteUnit) : Prop :=
  (hexDigits.lookup unit.upper).isSome ∧ (hexDigits.lookup unit.lower).isSome

instance (unit : ByteUnit) : Decidable unit.Digits := inferInstanceAs (Decidable (_ ∧ _))

theorem Digits.valid {unit : ByteUnit} (digits : unit.Digits) : unit.Valid :=
  ⟨.inr digits.1, .inr digits.2⟩

end ByteUnit

/-- Two characters and the spaces before them. -/
structure Placed where
  gap : ℕ
  unit : ByteUnit

def Placed.text (placed : Placed) : List Char :=
  List.replicate placed.gap ' ' ++ [placed.unit.upper, placed.unit.lower]

/-- The units of a text, each with the spaces before it, and the spaces at the end. -/
def spacedText (pieces : List Placed) (trailing : ℕ) : List Char :=
  pieces.flatMap Placed.text ++ List.replicate trailing ' '

/-- One part of a pattern text. -/
structure PatternPart (Allowed : ByteUnit → Prop) where
  pieces : List Placed
  trailing : ℕ
  allowed : ∀ placed ∈ pieces, Allowed placed.unit

/-- The part before the colon: digits and `?`. -/
abbrev MatchPart := PatternPart ByteUnit.Valid

/-- The part behind the colon: digits only. -/
abbrev MaskPart := PatternPart ByteUnit.Digits

namespace PatternPart

variable {Allowed : ByteUnit → Prop}

def text (part : PatternPart Allowed) : List Char := spacedText part.pieces part.trailing

def gaps (part : PatternPart Allowed) : List ℕ := part.pieces.map Placed.gap

def units (part : PatternPart Allowed) : List ByteUnit := part.pieces.map Placed.unit

end PatternPart

/-- The whole text. -/
def patternText (matchPart : MatchPart) (maskPart : MaskPart) : List Char :=
  matchPart.text ++ ':' :: maskPart.text

/-- What the mask part is for: as many mask bytes as units narrow the units one by
one, another number of them is an error. -/
def MaskedAsWritten (matchPart : MatchPart) (maskPart : MaskPart) : Prop :=
  if matchPart.pieces.length = maskPart.pieces.length then
    ∃ pattern, memoryScanNew (patternText matchPart maskPart) = .ok (true, pattern) ∧
      pattern.byteLen = matchPart.pieces.length ∧
      pattern.flatten.map MaskedByte.mask =
        List.zipWith (fun unit byte => byte.value &&& unit.mask) matchPart.units maskPart.units
  else ∃ pattern, memoryScanNew (patternText matchPart maskPart) = .ok (false, pattern)

/-- Some unit finds no byte in the mask part: its gap leaves a piece of the mask part
that does not begin, behind any spaces, with two digits. Once nothing is left, the
other units find none either, but the loop is over. -/
def Misread : List ℕ → List Char → Prop
  | [], _ => False
  | gap :: gaps, masks =>
    gap < masks.length ∧
      match (masks.drop gap).dropWhile (· = ' ') with
      | upper :: lower :: rest => (ByteUnit.mk upper lower).Digits → Misread gaps rest
      | _ => True

section Cursor

theorem takeMask_digits {masks rest : List Char} {byte : ByteUnit} (digits : byte.Digits)
    (skipped : masks.dropWhile (· = ' ') = byte.upper :: byte.lower :: rest) :
    takeMask (some masks) = some (byte.value, some rest) := by
  obtain ⟨high, upper⟩ := Option.isSome_iff_exists.mp digits.1
  obtain ⟨low, lower⟩ := Option.isSome_iff_exists.mp digits.2
  simp [takeMask, skipped, upper, lower, ByteUnit.value, nibble]

theorem takeMask_none {masks : List Char}
    (absent : ∀ upper lower rest, masks.dropWhile (· = ' ') = upper :: lower :: rest →
      ¬ (ByteUnit.mk upper lower).Digits) : takeMask (some masks) = none := by
  cases taken : takeMask (some masks) with
  | none => rfl
  | some found =>
    obtain ⟨upper, lower, rest, skipped, high, low, -⟩ := takeMask_some taken
    exact absurd ⟨high, low⟩ (absent upper lower rest skipped)

/-- A gap of the match part takes as many characters off the mask part. -/
theorem readUnits_gap (masks : List Char) (gap : ℕ) (text : List Char) :
    readUnits (some masks) (List.replicate gap ' ' ++ text) =
      readUnits (some (masks.drop gap)) text := by
  induction gap generalizing masks with
  | zero => rfl
  | succ gap ih =>
    cases masks with
    | nil => rw [List.drop_nil, readUnits_ended, readUnits_ended]
    | cons c rest =>
      rw [List.replicate_succ, List.cons_append, readUnits_space (by simp)]
      exact ih rest

theorem spacedText_cons (placed : Placed) (pieces : List Placed) (trailing : ℕ) :
    spacedText (placed :: pieces) trailing = List.replicate placed.gap ' ' ++
      placed.unit.upper :: placed.unit.lower :: spacedText pieces trailing := by
  simp [spacedText, Placed.text]

theorem readUnits_spaces (masks : List Char) (trailing : ℕ) :
    readUnits (some masks) (spacedText [] trailing) = ([], true) := by
  have spaces := readUnits_gap masks trailing []
  rwa [List.append_nil, readUnits_nil] at spaces

variable {placed : Placed} {pieces : List Placed} {masks : List Char} {trailing : ℕ}

/-- A unit behind a gap that the mask part does not outlast ends the loop. -/
theorem readUnits_exhausted (short : masks.length ≤ placed.gap) :
    readUnits (some masks) (spacedText (placed :: pieces) trailing) = ([], true) := by
  rw [spacedText_cons, readUnits_gap, List.drop_eq_nil_of_le short, readUnits_ended]

theorem readUnits_misread (valid : placed.unit.Valid) (long : placed.gap < masks.length)
    (refused : takeMask (some (masks.drop placed.gap)) = none) :
    readUnits (some masks) (spacedText (placed :: pieces) trailing) = ([], false) := by
  rw [spacedText_cons, readUnits_gap, readUnits_refused _ refused valid.upper_ne_space]
  simpa using long

theorem readUnits_read {byte : ByteUnit} {rest : List Char} (valid : placed.unit.Valid)
    (digits : byte.Digits)
    (skipped : (masks.drop placed.gap).dropWhile (· = ' ') = byte.upper :: byte.lower :: rest) :
    readUnits (some masks) (spacedText (placed :: pieces) trailing) =
      (placed.unit.under byte.value :: (readUnits (some rest) (spacedText pieces trailing)).1,
        (readUnits (some rest) (spacedText pieces trailing)).2) := by
  rw [spacedText_cons, readUnits_gap, readUnits_unit _ (takeMask_digits digits skipped) valid]
  intro empty
  rw [Option.some.inj empty] at skipped
  cases skipped

/-- A text is refused exactly when it is misread. -/
theorem refused_iff_misread (valid : ∀ placed ∈ pieces, placed.unit.Valid) (masks : List Char) :
    (readUnits (some masks) (spacedText pieces trailing)).2 = false ↔
      Misread (pieces.map Placed.gap) masks := by
  induction pieces generalizing masks with
  | nil => simp [readUnits_spaces, Misread]
  | cons placed pieces ih =>
    have here := valid placed List.mem_cons_self
    have later := ih fun other member => valid other (List.mem_cons_of_mem _ member)
    by_cases long : placed.gap < masks.length
    · rw [List.map_cons, Misread]
      simp only [long, true_and]
      split
      · rename_i upper lower rest skipped
        by_cases digits : (ByteUnit.mk upper lower).Digits
        · rw [readUnits_read here digits skipped]
          simpa [digits] using later rest
        · have refused : takeMask (some (masks.drop placed.gap)) = none := by
            refine takeMask_none fun high low left same => ?_
            rw [skipped] at same
            cases same
            exact digits
          rw [readUnits_misread here long refused]
          simp [digits]
      · rename_i short
        have refused : takeMask (some (masks.drop placed.gap)) = none :=
          takeMask_none fun high low left same => (short high low left same).elim
        rw [readUnits_misread here long refused]
        simp
    · rw [readUnits_exhausted (Nat.le_of_not_lt long), List.map_cons, Misread]
      simp [long]

theorem digit_ne_space {c : Char} (digit : (hexDigits.lookup c).isSome) : c ≠ ' ' := by
  rintro rfl
  exact absurd digit (by decide)

/-- Every unit that is read uses up two digits of the mask part. -/
theorem two_mul_length_le (masks : Option (List Char)) (text : List Char) :
    ∀ left ∈ masks, 2 * (readUnits masks text).1.length ≤ left.countP (· ≠ ' ') := by
  fun_induction readUnits masks text with
  | case1 text => simp
  | case2 masks going => simp
  | case3 masks text going ih =>
    intro left held
    cases held
    cases left with
    | nil => exact absurd rfl going
    | cons c rest =>
      calc 2 * (readUnits (some rest) text).1.length ≤ rest.countP (· ≠ ' ') := ih rest rfl
        _ ≤ (c :: rest).countP (· ≠ ' ') := (List.sublist_cons_self c rest).countP_le
  | case4 masks upper going other mask rest lower text taken valid later ih =>
    intro left held
    cases held
    obtain ⟨high, low, after, skipped, highDigit, lowDigit, rfl⟩ := takeMask_some taken
    have left_ge : (high :: low :: after).countP (· ≠ ' ') ≤ left.countP (· ≠ ' ') := by
      rw [← skipped]
      exact (List.dropWhile_sublist _).countP_le
    rw [List.countP_cons_of_pos (by simpa using digit_ne_space highDigit),
      List.countP_cons_of_pos (by simpa using digit_ne_space lowDigit)] at left_ge
    have enough : 2 * later.1.length ≤ after.countP (· ≠ ' ') := ih after rfl
    rw [List.length_cons]
    omega
  | case5 masks upper going other mask rest lower text taken invalid => simp
  | case6 masks upper text going other absent => simp

end Cursor

/-- The texts of a mask part. -/
theorem countP_spacedText (pieces : List Placed) (trailing : ℕ) :
    (spacedText pieces trailing).countP (· ≠ ' ') ≤ 2 * pieces.length := by
  induction pieces with
  | nil => simp [spacedText]
  | cons placed pieces ih =>
    rw [spacedText_cons, List.countP_append, List.countP_cons, List.countP_cons]
    have spaces : (List.replicate placed.gap ' ').countP (· ≠ ' ') = 0 := by simp
    rw [spaces, List.length_cons]
    split <;> split <;> omega

/-- Less than two digits for each piece are left behind the gap of the first one. -/
theorem countP_drop_spacedText {byte : Placed} {gap : ℕ} (wide : byte.gap < gap)
    (bytes : List Placed) (trailing : ℕ) :
    ((spacedText (byte :: bytes) trailing).drop gap).countP (· ≠ ' ') ≤ 2 * bytes.length + 1 := by
  have behind : (spacedText (byte :: bytes) trailing).drop (byte.gap + 1) =
      byte.unit.lower :: spacedText bytes trailing := by
    rw [spacedText_cons, ← List.drop_drop, List.drop_left' List.length_replicate]
    rfl
  calc ((spacedText (byte :: bytes) trailing).drop gap).countP (· ≠ ' ')
      ≤ ((spacedText (byte :: bytes) trailing).drop (byte.gap + 1)).countP (· ≠ ' ') :=
        (List.drop_sublist_drop_left _ wide).countP_le
    _ = (byte.unit.lower :: spacedText bytes trailing).countP (· ≠ ' ') := by rw [behind]
    _ ≤ (spacedText bytes trailing).countP (· ≠ ' ') + 1 := by
        rw [List.countP_cons]
        split <;> omega
    _ ≤ 2 * bytes.length + 1 := Nat.add_le_add_right (countP_spacedText bytes trailing) 1

theorem dropWhile_gap {c : Char} (other : c ≠ ' ') (gap : ℕ) (rest : List Char) :
    (List.replicate gap ' ' ++ c :: rest).dropWhile (· = ' ') = c :: rest := by
  induction gap with
  | zero => exact List.dropWhile_cons_of_neg (by simpa using other)
  | succ gap ih => exact (List.dropWhile_cons_of_pos (by simp)).trans ih

section Steps

variable {placed byte : Placed} {pieces bytes : List Placed} {trailing maskTrailing : ℕ}

/-- A gap no wider than the one of the mask part keeps the cursors in step. -/
theorem readUnits_step (valid : placed.unit.Valid) (digits : byte.unit.Digits)
    (fits : placed.gap ≤ byte.gap) :
    readUnits (some (spacedText (byte :: bytes) maskTrailing))
        (spacedText (placed :: pieces) trailing) =
      (placed.unit.under byte.unit.value ::
          (readUnits (some (spacedText bytes maskTrailing)) (spacedText pieces trailing)).1,
        (readUnits (some (spacedText bytes maskTrailing)) (spacedText pieces trailing)).2) := by
  apply readUnits_read valid digits
  rw [spacedText_cons, List.drop_append_of_le_length (by simpa using fits), List.drop_replicate]
  exact dropWhile_gap digits.valid.upper_ne_space _ _

/-- Parts that keep in step are read to the end. -/
theorem readUnits_aligned (fits : List.Forall₂ (fun placed byte => placed.gap ≤ byte.gap) pieces bytes)
    (valid : ∀ placed ∈ pieces, placed.unit.Valid) (digits : ∀ byte ∈ bytes, byte.unit.Digits) :
    readUnits (some (spacedText bytes maskTrailing)) (spacedText pieces trailing) =
      (List.zipWith (fun placed byte => placed.unit.under byte.unit.value) pieces bytes, true) := by
  induction fits with
  | nil => exact readUnits_spaces _ _
  | @cons placed byte pieces bytes here fits ih =>
    rw [List.forall_mem_cons] at valid digits
    rw [readUnits_step valid.1 digits.1 here, ih valid.2 digits.2]
    rfl

/-- Parts of the same number of bytes that are read to the end keep in step. -/
theorem aligned_of_length (same : pieces.length = bytes.length)
    (valid : ∀ placed ∈ pieces, placed.unit.Valid) (digits : ∀ byte ∈ bytes, byte.unit.Digits)
    (all : (readUnits (some (spacedText bytes maskTrailing))
      (spacedText pieces trailing)).1.length = pieces.length) :
    List.Forall₂ (fun placed byte => placed.gap ≤ byte.gap) pieces bytes := by
  induction pieces generalizing bytes with
  | nil =>
    cases bytes with
    | nil => exact .nil
    | cons byte bytes => cases same
  | cons placed pieces ih =>
    cases bytes with
    | nil => cases same
    | cons byte bytes =>
      rw [List.forall_mem_cons] at valid digits
      by_cases fits : placed.gap ≤ byte.gap
      · rw [readUnits_step valid.1 digits.1 fits] at all
        exact .cons fits (ih (Nat.succ.inj same) valid.2 digits.2 (Nat.succ.inj all))
      · -- the gap eats a digit of the mask part, and too few are left
        exfalso
        have left := countP_drop_spacedText (Nat.lt_of_not_le fits) bytes maskTrailing
        rw [spacedText_cons placed, readUnits_gap] at all
        have enough := two_mul_length_le (some ((spacedText (byte :: bytes) maskTrailing).drop
          placed.gap)) (placed.unit.upper :: placed.unit.lower :: spacedText pieces trailing) _ rfl
        rw [all, List.length_cons] at enough
        rw [List.length_cons, List.length_cons] at same
        omega

end Steps

theorem not_mem_spacedText {c : Char} (other : c ≠ ' ') (outside : ¬ IsPatternChar c)
    {pieces : List Placed} (valid : ∀ placed ∈ pieces, placed.unit.Valid) (trailing : ℕ) :
    c ∉ spacedText pieces trailing := by
  induction pieces with
  | nil => simp [spacedText, other]
  | cons placed pieces ih =>
    rw [List.forall_mem_cons] at valid
    rw [spacedText_cons, List.mem_append, List.mem_cons, List.mem_cons]
    rintro (space | rfl | rfl | later)
    · exact other (List.eq_of_mem_replicate space)
    · exact outside valid.1.1
    · exact outside valid.1.2
    · exact ih valid.2 later

theorem Spells.gap {text : List Char} {units : List ByteUnit} (spells : Spells text units)
    (gap : ℕ) : Spells (List.replicate gap ' ' ++ text) units := by
  induction gap with
  | zero => exact spells
  | succ gap ih => exact .space ih

theorem spells_spacedText {pieces : List Placed} (valid : ∀ placed ∈ pieces, placed.unit.Valid)
    (trailing : ℕ) : Spells (spacedText pieces trailing) (pieces.map Placed.unit) := by
  induction pieces with
  | nil =>
    have spaces := Spells.nil.gap trailing
    rwa [List.append_nil] at spaces
  | cons placed pieces ih =>
    rw [List.forall_mem_cons] at valid
    rw [spacedText_cons]
    exact (Spells.unit placed.unit valid.1 (ih valid.2)).gap placed.gap

theorem MaskedByte.stored_mask (unit : MaskedByte) : unit.stored.mask = unit.mask := by
  unfold MaskedByte.stored
  split
  · rename_i none
    exact none.symm
  · rfl

/-- The masks of an accepted text. -/
theorem finish_masks (units : List MaskedByte) :
    (finish {} (units, true)).2.byteLen = units.length ∧
      (finish {} (units, true)).2.flatten.map MaskedByte.mask = units.map MaskedByte.mask := by
  obtain ⟨-, flatten, byteLen⟩ := (Built.empty.pushUnits units).matchTokenCmp
  refine ⟨byteLen, ?_⟩
  rw [finish, if_pos rfl, flatten, List.nil_append, List.map_map]
  exact List.map_congr_left fun unit _ => unit.stored_mask

section Parts

variable (matchPart : MatchPart) (maskPart : MaskPart)

/-- What the parse loop reads from the two parts. -/
def reading : List MaskedByte × Bool :=
  readUnits (if maskPart.text = [] then none else some maskPart.text) matchPart.text

theorem memoryScanNew_parts :
    memoryScanNew (patternText matchPart maskPart) = .ok (finish {} (reading matchPart maskPart)) := by
  have validMask : ∀ byte ∈ maskPart.pieces, byte.unit.Valid := fun byte member =>
    (maskPart.allowed byte member).valid
  exact memoryScanNew_masked
    (not_mem_spacedText (by decide) (by decide) matchPart.allowed _)
    (not_mem_spacedText (by decide) (by decide) matchPart.allowed _)
    (not_mem_spacedText (by decide) (by decide) validMask _)

variable {matchPart maskPart}

theorem pieces_of_text_nil (empty : maskPart.text = []) : maskPart.pieces = [] := by
  cases held : maskPart.pieces with
  | nil => rfl
  | cons byte bytes =>
    rw [PatternPart.text, held, spacedText_cons] at empty
    simp at empty

theorem reading_of_text_nil (empty : maskPart.text = []) :
    reading matchPart maskPart = (matchPart.units.map ByteUnit.masked, true) := by
  rw [reading, if_pos empty]
  exact (spells_spacedText matchPart.allowed _).readUnits_eq

theorem reading_refused_iff :
    (reading matchPart maskPart).2 = false ↔ Misread matchPart.gaps maskPart.text := by
  by_cases empty : maskPart.text = []
  · rw [reading_of_text_nil empty, empty]
    cases held : matchPart.gaps with
    | nil => simp [Misread]
    | cons gap gaps => simp [Misread]
  · rw [reading, if_neg empty]
    exact refused_iff_misread matchPart.allowed _

theorem reading_aligned (fits : List.Forall₂ (· ≤ ·) matchPart.gaps maskPart.gaps) :
    reading matchPart maskPart = (List.zipWith (fun unit byte => unit.under byte.value)
      matchPart.units maskPart.units, true) := by
  by_cases empty : maskPart.text = []
  · have noBytes := pieces_of_text_nil empty
    rw [PatternPart.gaps, PatternPart.gaps, noBytes, List.map_nil, List.forall₂_nil_right_iff] at fits
    have noUnits : matchPart.units = [] := by
      rw [PatternPart.units, List.map_eq_nil_iff.mp fits, List.map_nil]
    rw [reading_of_text_nil empty, noUnits]
    rfl
  · rw [PatternPart.gaps, PatternPart.gaps, List.forall₂_map_left_iff, List.forall₂_map_right_iff]
      at fits
    rw [reading, if_neg empty, PatternPart.units, PatternPart.units, List.zipWith_map]
    exact readUnits_aligned fits matchPart.allowed maskPart.allowed

theorem aligned_of_reading (same : matchPart.pieces.length = maskPart.pieces.length)
    (all : (reading matchPart maskPart).1.length = matchPart.pieces.length) :
    List.Forall₂ (· ≤ ·) matchPart.gaps maskPart.gaps := by
  rw [PatternPart.gaps, PatternPart.gaps, List.forall₂_map_left_iff, List.forall₂_map_right_iff]
  by_cases empty : maskPart.text = []
  · rw [pieces_of_text_nil empty] at same ⊢
    rw [List.length_eq_zero_iff.mp same]
    exact .nil
  · rw [reading, if_neg empty] at all
    exact aligned_of_length same matchPart.allowed maskPart.allowed all

/-- Parts in step are applied as written. -/
theorem maskedAsWritten_of_aligned (fits : List.Forall₂ (· ≤ ·) matchPart.gaps maskPart.gaps) :
    MaskedAsWritten matchPart maskPart := by
  have same : matchPart.pieces.length = maskPart.pieces.length := by
    have lengths := fits.length_eq
    rwa [PatternPart.gaps, PatternPart.gaps, List.length_map, List.length_map] at lengths
  rw [MaskedAsWritten, if_pos same, memoryScanNew_parts, reading_aligned fits]
  have masks := finish_masks (List.zipWith (fun unit byte => unit.under byte.value)
    matchPart.units maskPart.units)
  refine ⟨_, rfl, masks.1.trans ?_, masks.2.trans ?_⟩
  · simp [PatternPart.units, same]
  · rw [List.map_zipWith]
    rfl

/-- Another number of mask bytes is an error only where the mask part is misread. -/
theorem maskedAsWritten_iff_misread (differ : matchPart.pieces.length ≠ maskPart.pieces.length) :
    MaskedAsWritten matchPart maskPart ↔ Misread matchPart.gaps maskPart.text := by
  rw [MaskedAsWritten, if_neg differ, memoryScanNew_parts, ← reading_refused_iff]
  simp [finish]

/-- As long as the parts are in step, they are misread only where spaces are left of the mask part
for a unit behind the last byte. -/
theorem misread_iff_of_step {pieces bytes : List Placed} {trailing : ℕ}
    (digits : ∀ byte ∈ bytes, byte.unit.Digits)
    (fits : ∀ pair ∈ pieces.zip bytes, pair.1.gap ≤ pair.2.gap) :
    Misread (pieces.map Placed.gap) (spacedText bytes trailing) ↔
      ∃ placed ∈ pieces[bytes.length]?, placed.gap < trailing := by
  induction pieces generalizing bytes with
  | nil => simp [Misread]
  | cons placed pieces ih =>
    rw [List.map_cons, Misread]
    cases bytes with
    | nil =>
      simp [spacedText]
    | cons byte bytes =>
      rw [List.zip_cons_cons, List.forall_mem_cons] at fits
      rw [List.forall_mem_cons] at digits
      have first : ((spacedText (byte :: bytes) trailing).drop placed.gap).dropWhile (· = ' ') =
          byte.unit.upper :: byte.unit.lower :: spacedText bytes trailing := by
        rw [spacedText_cons, List.drop_append_of_le_length (by simpa using fits.1),
          List.drop_replicate]
        exact dropWhile_gap digits.1.valid.upper_ne_space _ _
      have long : placed.gap < (spacedText (byte :: bytes) trailing).length := by
        have gap : placed.gap ≤ byte.gap := fits.1
        rw [spacedText_cons, List.length_append, List.length_replicate, List.length_cons]
        omega
      simp only [first, long, true_and]
      rw [imp_iff_right digits.1]
      exact ih digits.2 fits.2

/-- Parts of unequal numbers of bytes that are in step: the text is refused exactly if there is a
unit behind the last mask byte, and more spaces at the end of the mask part than before it. -/
theorem maskedAsWritten_iff_of_step (differ : matchPart.pieces.length ≠ maskPart.pieces.length)
    (fits : ∀ pair ∈ matchPart.pieces.zip maskPart.pieces, pair.1.gap ≤ pair.2.gap) :
    MaskedAsWritten matchPart maskPart ↔
      ∃ placed ∈ matchPart.pieces[maskPart.pieces.length]?, placed.gap < maskPart.trailing := by
  rw [maskedAsWritten_iff_misread differ]
  exact misread_iff_of_step maskPart.allowed fits

/-- The mask part is applied as written exactly when it has as many bytes as there
are units and no gap between the units is wider than the gap at the same place in
the mask part, or when the numbers differ and the mask part is misread. -/
theorem maskedAsWritten_iff (matchPart : MatchPart) (maskPart : MaskPart) :
    MaskedAsWritten matchPart maskPart ↔
      List.Forall₂ (· ≤ ·) matchPart.gaps maskPart.gaps ∨
        matchPart.pieces.length ≠ maskPart.pieces.length ∧
          Misread matchPart.gaps maskPart.text := by
  by_cases same : matchPart.pieces.length = maskPart.pieces.length
  · constructor
    · intro written
      rw [MaskedAsWritten, if_pos same, memoryScanNew_parts] at written
      obtain ⟨pattern, result, byteLen, -⟩ := written
      left
      apply aligned_of_reading same
      have compiled := Except.ok.inj result
      generalize reading matchPart maskPart = read at compiled ⊢
      obtain ⟨units, ended⟩ := read
      have accepted : ended = true := congrArg Prod.fst compiled
      subst accepted
      rw [← (finish_masks units).1, compiled]
      exact byteLen
    · rintro (fits | ⟨differ, -⟩)
      · exact maskedAsWritten_of_aligned fits
      · exact absurd same differ
  · have mismatch : ¬ List.Forall₂ (· ≤ ·) matchPart.gaps maskPart.gaps := by
      intro fits
      have lengths := fits.length_eq
      simp only [PatternPart.gaps, List.length_map] at lengths
      exact same lengths
    rw [maskedAsWritten_iff_misread same]
    simp [mismatch, same]

end Parts

/-- `41 42` -/
def spacedPair : MatchPart := ⟨[⟨0, '4', '1'⟩, ⟨1, '4', '2'⟩], 0, by decide⟩

/-- `ffff` -/
def packedMasks : MaskPart := ⟨[⟨0, 'f', 'f'⟩, ⟨0, 'f', 'f'⟩], 0, by decide⟩

/-- `ff` -/
def singleMask : MaskPart := ⟨[⟨0, 'f', 'f'⟩], 0, by decide⟩

/-- `41 42:ffff` is refused: the space takes a digit off the mask part. `41 42:ff` is
accepted as a pattern of one byte. -/
theorem mask_out_of_step :
    (patternText spacedPair packedMasks = "41 42:ffff".toList ∧
      ¬ MaskedAsWritten spacedPair packedMasks) ∧
    (patternText spacedPair singleMask = "41 42:ff".toList ∧
      ¬ MaskedAsWritten spacedPair singleMask) := by
  refine ⟨⟨by decide, ?_⟩, ⟨by decide, ?_⟩⟩
  · have refused : (memoryScanNew (patternText spacedPair packedMasks)).toOption.map Prod.fst =
        some false := by decide
    rw [MaskedAsWritten, if_pos (by decide)]
    rintro ⟨pattern, accepted, -⟩
    rw [accepted] at refused
    cases refused
  · have accepted : (memoryScanNew (patternText spacedPair singleMask)).toOption.map Prod.fst =
        some true := by decide
    rw [MaskedAsWritten, if_neg (by decide)]
    rintro ⟨pattern, refused⟩
    rw [refused] at accepted
    cases accepted

end QbdiTracer.MemoryScan
