import QbdiTracer.PatternTokens
import Mathlib.Data.List.TakeWhile

/-! The texts of patterns: what the parse loop reads from the two parts of a text. -/

namespace QbdiTracer.MemoryScan

open WhileLoop

/-! The digits. -/

/-- The hexadecimal digits with their values. -/
def hexDigits : List (Char × ℕ) :=
  "0123456789ABCDEF".toList.zipIdx ++ "abcdef".toList.zipIdx 10

theorem asciiXdigitValue_eq (c : Char) : asciiXdigitValue c = hexDigits.lookup c := by
  have table : ∀ n < 128, asciiXdigitValue (Char.ofNat n) = hexDigits.lookup (Char.ofNat n) := by
    decide +kernel
  by_cases ascii : c.toNat < 128
  · have here := table c.toNat ascii
    rwa [Char.ofNat_toNat] at here
  · have upper : ¬ ('A' ≤ c ∧ c ≤ 'F') := by
      rintro ⟨-, below⟩
      exact ascii (Nat.lt_of_le_of_lt below (by decide))
    have lower : ¬ ('a' ≤ c ∧ c ≤ 'f') := by
      rintro ⟨-, below⟩
      exact ascii (Nat.lt_of_le_of_lt below (by decide))
    have digit : asciiIsDigit c = false := by
      have outside : asciiTableData[c.toNat]? = none :=
        List.getElem?_eq_none (Nat.le_of_not_lt ascii)
      rw [asciiIsDigit, List.getD_eq_getElem?_getD, outside]
      rfl
    have absent : hexDigits.lookup c = none := by
      rw [List.lookup_eq_none_iff]
      intro entry member
      have small : ∀ entry ∈ hexDigits, entry.1.toNat < 128 := by decide
      rw [bne_iff_ne]
      rintro rfl
      exact ascii (small entry member)
    rw [asciiXdigitValue, if_neg upper, if_neg lower, asciiDigitValue, digit, absent]
    rfl

/-- A character from `[0-9A-Fa-f?]`. -/
def IsPatternChar (c : Char) : Prop := c = '?' ∨ (hexDigits.lookup c).isSome

instance (c : Char) : Decidable (IsPatternChar c) := inferInstanceAs (Decidable (_ ∨ _))

/-- The value of a digit; a `?` counts as `wild`. -/
def nibble (wild : ℕ) (c : Char) : ℕ := (hexDigits.lookup c).getD wild

theorem readNibble_eq (wild : ℕ) (c : Char) :
    readNibble wild c = if IsPatternChar c then some (nibble wild c) else none := by
  unfold readNibble nibble IsPatternChar
  rw [asciiXdigitValue_eq]
  by_cases query : c = '?'
  · subst query
    simp only [↓reduceIte, true_or]
    rfl
  · by_cases digit : (hexDigits.lookup c).isSome
    · obtain ⟨value, found⟩ := Option.isSome_iff_exists.mp digit
      simp [query, found]
    · have absent : hexDigits.lookup c = none := Option.not_isSome_iff_eq_none.mp digit
      simp [query, absent]

/-- The two characters of a byte unit. -/
structure ByteUnit where
  upper : Char
  lower : Char
  deriving DecidableEq

namespace ByteUnit

def Valid (unit : ByteUnit) : Prop := IsPatternChar unit.upper ∧ IsPatternChar unit.lower

instance (unit : ByteUnit) : Decidable unit.Valid := inferInstanceAs (Decidable (_ ∧ _))

theorem Valid.upper_ne_space {unit : ByteUnit} (valid : unit.Valid) : unit.upper ≠ ' ' := by
  intro space
  have char := valid.1
  rw [space] at char
  exact absurd char (by decide)

/-- The byte that a unit spells; the characters `4` and `2` stand in for `?`. -/
def value (unit : ByteUnit) : Byte := joinNibbles (nibble 4 unit.upper) (nibble 2 unit.lower)

/-- The nibbles that a unit fixes. -/
def mask (unit : ByteUnit) : Byte :=
  (if unit.upper = '?' then 0x0f else 0xff) &&& (if unit.lower = '?' then 0xf0 else 0xff)

/-- What a unit asks for under a byte of the mask part. -/
def under (unit : ByteUnit) (mask : Byte) : MaskedByte := ⟨unit.value, mask &&& unit.mask⟩

theorem and_ones (byte : Byte) : byte &&& 0xff = byte := BitVec.and_allOnes

/-- The two steps in which the source narrows the mask. -/
theorem under_mask (unit : ByteUnit) (mask : Byte) :
    (if unit.lower = '?' then (if unit.upper = '?' then mask &&& 0x0f else mask) &&& 0xf0
      else if unit.upper = '?' then mask &&& 0x0f else mask) = (unit.under mask).mask := by
  rw [under, ByteUnit.mask]
  by_cases upper : unit.upper = '?'
  · by_cases lower : unit.lower = '?'
    · simp only [if_pos upper, if_pos lower, BitVec.and_assoc]
    · simp only [if_pos upper, if_neg lower, and_ones]
  · by_cases lower : unit.lower = '?'
    · simp only [if_neg upper, if_pos lower]
      rw [BitVec.and_comm 0xff, and_ones]
    · simp only [if_neg upper, if_neg lower, and_ones]

/-- What a unit asks for when there is no mask part. -/
def masked (unit : ByteUnit) : MaskedByte := ⟨unit.value, unit.mask⟩

def type (unit : ByteUnit) : MatchType :=
  if unit.upper = '?' ∧ unit.lower = '?' then .wildcard
  else if unit.upper = '?' ∨ unit.lower = '?' then .mask
  else .exact

theorem under_ones (unit : ByteUnit) : unit.under 0xff = unit.masked := by
  rw [under, masked, BitVec.and_comm, and_ones]

theorem typeOfMask_mask (unit : ByteUnit) : typeOfMask unit.mask = unit.type := by
  unfold mask type
  by_cases upper : unit.upper = '?'
  · by_cases lower : unit.lower = '?'
    · simp only [upper, lower, ↓reduceIte, and_self]
      decide
    · simp only [upper, lower, ↓reduceIte, and_false, or_false]
      decide
  · by_cases lower : unit.lower = '?'
    · simp only [upper, lower, ↓reduceIte, false_and, or_true]
      decide
    · simp only [upper, lower, ↓reduceIte, and_self, or_self]
      decide

/-- The byte that stands in for `??` is the one that a wildcard token keeps. -/
theorem stored_masked (unit : ByteUnit) : unit.masked.stored = unit.masked := by
  unfold MaskedByte.stored masked
  by_cases none : unit.mask = 0x00
  · have wild : unit.type = .wildcard := by
      rw [← typeOfMask_mask, none]
      decide
    have queries : unit.upper = '?' ∧ unit.lower = '?' := by
      by_contra other
      rw [type, if_neg other] at wild
      split at wild
      · cases wild
      · cases wild
    rw [if_pos none, none, value, queries.1, queries.2]
    decide
  · rw [if_neg none]

end ByteUnit

/-! The parse loop. -/

/-- The next byte of the mask part, behind any spaces; without a mask part it is
0xff. -/
def takeMask : Option (List Char) → Option (Byte × Option (List Char))
  | none => some (0xff, none)
  | some text =>
    match text.dropWhile (· = ' ') with
    | upper :: lower :: rest => do
      let high ← hexDigits.lookup upper
      let low ← hexDigits.lookup lower
      some (joinNibbles high low, some rest)
    | _ => none

/-- The bytes that the parse loop reads from the mask part and the match part, and
whether it gets to the end of one of them. A space of the match part takes any
character off the mask part. -/
def readUnits : Option (List Char) → List Char → List MaskedByte × Bool
  | some [], _ => ([], true)
  | _, [] => ([], true)
  | masks, upper :: text =>
    if upper = ' ' then readUnits (masks.map List.tail) text
    else
      match takeMask masks, text with
      | some (mask, masks), lower :: text =>
        if (ByteUnit.mk upper lower).Valid then
          let later := readUnits masks text
          ((ByteUnit.mk upper lower).under mask :: later.1, later.2)
        else ([], false)
      | _, _ => ([], false)

section ReadUnits

variable {masks rest : Option (List Char)} {mask : Byte}

theorem readUnits_cons (going : masks ≠ some []) (upper : Char) (text : List Char) :
    readUnits masks (upper :: text) =
      if upper = ' ' then readUnits (masks.map List.tail) text
      else
        match takeMask masks, text with
        | some (mask, masks), lower :: text =>
          if (ByteUnit.mk upper lower).Valid then
            ((ByteUnit.mk upper lower).under mask :: (readUnits masks text).1,
              (readUnits masks text).2)
          else ([], false)
        | _, _ => ([], false) := by
  rw [readUnits.eq_def]
  split
  · exact absurd rfl going
  · rename_i empty
    cases empty
  · rename_i same
    cases same
    rfl

theorem readUnits_nil (masks : Option (List Char)) : readUnits masks [] = ([], true) := by
  rcases masks with _ | _ | ⟨c, rest⟩ <;> rfl

theorem readUnits_ended (text : List Char) : readUnits (some []) text = ([], true) := by
  cases text <;> rfl

theorem readUnits_space (going : masks ≠ some []) (text : List Char) :
    readUnits masks (' ' :: text) = readUnits (masks.map List.tail) text := by
  rw [readUnits_cons going, if_pos rfl]

theorem readUnits_unit (going : masks ≠ some []) (taken : takeMask masks = some (mask, rest))
    {unit : ByteUnit} (valid : unit.Valid) (text : List Char) :
    readUnits masks (unit.upper :: unit.lower :: text) =
      (unit.under mask :: (readUnits rest text).1, (readUnits rest text).2) := by
  rw [readUnits_cons going, if_neg valid.upper_ne_space, taken]
  exact if_pos valid

theorem readUnits_refused (going : masks ≠ some []) (refused : takeMask masks = none)
    {upper : Char} (other : upper ≠ ' ') (text : List Char) :
    readUnits masks (upper :: text) = ([], false) := by
  rw [readUnits_cons going, if_neg other, refused]

theorem readUnits_invalid (going : masks ≠ some []) {upper : Char} {text : List Char}
    (other : upper ≠ ' ') (invalid : ¬ (ByteUnit.mk upper (text.headD nul)).Valid) :
    readUnits masks (upper :: text) = ([], false) := by
  rw [readUnits_cons going, if_neg other]
  cases text with
  | nil =>
    split
    · rename_i none
      cases none
    · rfl
  | cons lower text =>
    split
    · rename_i same
      cases same
      exact if_neg invalid
    · rfl

end ReadUnits

/-- What the parse loop leaves behind when it has read the units. -/
def finish (pattern : MatchPattern) (read : List MaskedByte × Bool) : Bool × MatchPattern :=
  (read.2, if read.2 then matchTokenCmp (pushUnits pattern read.1) else pushUnits pattern read.1)

section Loop

variable {mh : TextCursor} {masks : Option (List Char)} {text : List Char} {pattern : MatchPattern}

theorem TextCursor.read_head (rest : List Char) :
    TextCursor.read (some rest) 0 = .ok (rest.headD nul) := by
  cases rest <;> rfl

theorem TextCursor.read_second (c : Char) (rest : List Char) :
    TextCursor.read (some (c :: rest)) 1 = .ok (rest.headD nul) := by
  cases rest <;> rfl

theorem lookup_nul : hexDigits.lookup nul = none := by decide

theorem not_isPatternChar_nul : ¬ IsPatternChar nul := by decide

theorem readMask_eq (text : List Char) :
    (takeMask (some text) = none ∧ readMask (some text) = .ok none) ∨
      ∃ mask skipped rest, takeMask (some text) = some (mask, some rest) ∧
        readMask (some text) = .ok (some (mask, skipped)) ∧
        TextCursor.advance (TextCursor.advance skipped) = some rest := by
  unfold takeMask readMask TextCursor.skipSpaces
  simp only [asciiXdigitValue_eq, bind, Except.bind, pure, Except.pure, TextCursor.read_head]
  rcases text.dropWhile (· = ' ') with _ | ⟨upper, _ | ⟨lower, rest⟩⟩
  · left
    simp [lookup_nul]
  · left
    simp only [List.headD_cons, TextCursor.read_second, List.headD_nil, lookup_nul]
    cases hexDigits.lookup upper with
    | none => simp
    | some high => simp
  · simp only [List.headD_cons, TextCursor.read_second]
    cases hexDigits.lookup upper with
    | none => simp
    | some high =>
      cases hexDigits.lookup lower with
      | none => simp
      | some low =>
        right
        exact ⟨_, _, rest, rfl, rfl, rfl⟩

/-- The mask byte of a unit, with or without a mask part. -/
theorem readMaskOf_eq (stands : masks.isSome → mh = masks) :
    (takeMask masks = none ∧
      (if masks.isSome then readMask mh else .ok (some (0xff, mh))) = .ok none) ∨
    ∃ mask skipped rest, takeMask masks = some (mask, rest) ∧ rest.isSome = masks.isSome ∧
      (if masks.isSome then readMask mh else .ok (some (0xff, mh))) = .ok (some (mask, skipped)) ∧
      (rest.isSome → TextCursor.advance (TextCursor.advance skipped) = rest) := by
  cases masks with
  | none => exact .inr ⟨0xff, mh, none, rfl, rfl, rfl, nofun⟩
  | some left =>
    rw [stands rfl]
    rcases readMask_eq left with refused | ⟨mask, skipped, rest, taken, read, moved⟩
    · exact .inl refused
    · exact .inr ⟨mask, skipped, some rest, taken, rfl, read, fun _ => moved⟩

theorem parseUnit_refused (upper : Char) (text : List Char) (pattern : MatchPattern)
    (stands : masks.isSome → mh = masks) (refused : takeMask masks = none) :
    parseUnit masks.isSome ⟨some (upper :: text), mh, pattern⟩ = .ok none := by
  rcases readMaskOf_eq stands with ⟨-, read⟩ | ⟨mask, skipped, rest, taken, -⟩
  · simp only [parseUnit, read, bind, Except.bind, pure, Except.pure]
  · rw [refused] at taken
    cases taken

theorem parseUnit_eq (upper : Char) (text : List Char) (pattern : MatchPattern) {mask : Byte}
    {rest : Option (List Char)} (stands : masks.isSome → mh = masks)
    (taken : takeMask masks = some (mask, rest)) :
    parseUnit masks.isSome ⟨some (upper :: text), mh, pattern⟩ = .ok none ∧
        ¬ (ByteUnit.mk upper (text.headD nul)).Valid ∨
      (ByteUnit.mk upper (text.headD nul)).Valid ∧ ∃ skipped,
        parseUnit masks.isSome ⟨some (upper :: text), mh, pattern⟩ = .ok (some {
          ch := TextCursor.advance (some text)
          mh := skipped
          pattern := pushUnit pattern ((ByteUnit.mk upper (text.headD nul)).under mask).value
            ((ByteUnit.mk upper (text.headD nul)).under mask).mask }) ∧
        (rest.isSome → skipped = rest) := by
  rcases readMaskOf_eq stands with ⟨refused, -⟩ | ⟨byte, skipped, left, now, -, read, moved⟩
  · rw [refused] at taken
    cases taken
  · rw [now] at taken
    cases taken
    simp only [parseUnit, read, bind, Except.bind, pure, Except.pure, TextCursor.read_head,
      TextCursor.read_second, readNibble_eq, List.headD_cons]
    by_cases high : IsPatternChar upper
    · by_cases low : IsPatternChar (text.headD nul)
      · right
        refine ⟨⟨high, low⟩, _, ?_, moved⟩
        rw [if_pos high, ← ByteUnit.under_mask]
        simp only [if_pos low]
        rfl
      · left
        refine ⟨?_, fun valid => low valid.2⟩
        rw [if_pos high]
        simp only [if_neg low]
    · left
      refine ⟨?_, fun valid => high valid.1⟩
      rw [if_neg high]

theorem parseRound_of_end (ended : atEnd masks.isSome ⟨some text, mh, pattern⟩ = .ok true) :
    parseRound masks.isSome ⟨some text, mh, pattern⟩ =
      .ok (.leave (true, matchTokenCmp pattern)) := by
  simp only [parseRound, ended, bind, Except.bind, pure, Except.pure, ↓reduceIte]

theorem parseRound_of_not_end {upper : Char}
    (goes : atEnd masks.isSome ⟨some (upper :: text), mh, pattern⟩ = .ok false) :
    parseRound masks.isSome ⟨some (upper :: text), mh, pattern⟩ =
      if upper = ' ' then .ok (.again ⟨some text, mh.advance, pattern⟩)
      else (parseUnit masks.isSome ⟨some (upper :: text), mh, pattern⟩).map fun unit =>
        match unit with
        | none => .leave (false, pattern)
        | some next => .again next := by
  simp only [parseRound, goes, bind, Except.bind, pure, Except.pure, TextCursor.read_head,
    List.headD_cons, Bool.false_eq_true, ↓reduceIte]
  split
  · rfl
  · cases parseUnit masks.isSome ⟨some (upper :: text), mh, pattern⟩ with
    | error fault => rfl
    | ok unit => cases unit <;> rfl

/-- The loop condition looks at the characters under the two cursors. -/
theorem atEnd_cases (stands : masks.isSome → mh = masks) (text : List Char)
    (pattern : MatchPattern) :
    atEnd masks.isSome ⟨some text, mh, pattern⟩ = .ok true ∧
        (text.headD nul = nul ∨ ∃ left ∈ masks, left.headD nul = nul) ∨
      atEnd masks.isSome ⟨some text, mh, pattern⟩ = .ok false ∧ text.headD nul ≠ nul ∧
        ∀ left ∈ masks, left.headD nul ≠ nul := by
  simp only [atEnd, bind, Except.bind, pure, Except.pure, TextCursor.read_head]
  by_cases stops : text.headD nul = nul
  · exact .inl ⟨if_pos stops, .inl stops⟩
  · cases masks with
    | none =>
      simp only [if_neg stops]
      exact .inr ⟨rfl, stops, nofun⟩
    | some left =>
      rw [stands rfl]
      simp only [if_neg stops, Option.isSome_some, ↓reduceIte, TextCursor.read_head]
      by_cases stopsMask : left.headD nul = nul
      · exact .inl ⟨congrArg _ (decide_eq_true stopsMask), .inr ⟨left, rfl, stopsMask⟩⟩
      · refine .inr ⟨congrArg _ (decide_eq_false stopsMask), stops, ?_⟩
        intro other same
        cases same
        exact stopsMask

/-- Where a mask byte comes from. -/
theorem takeMask_some {left : List Char} {mask : Byte} {rest : Option (List Char)}
    (taken : takeMask (some left) = some (mask, rest)) :
    ∃ upper lower after, left.dropWhile (· = ' ') = upper :: lower :: after ∧
      (hexDigits.lookup upper).isSome ∧ (hexDigits.lookup lower).isSome ∧ rest = some after := by
  unfold takeMask at taken
  simp only at taken
  split at taken
  · rename_i upper lower after skipped
    cases high : hexDigits.lookup upper with
    | none => simp [high] at taken
    | some upperValue =>
      cases low : hexDigits.lookup lower with
      | none => simp [high, low] at taken
      | some lowerValue =>
        simp only [high, low, Option.bind_eq_bind, Option.bind_some, Option.some.injEq,
          Prod.mk.injEq] at taken
        exact ⟨upper, lower, after, skipped, by simp [high], by simp [low], taken.2.symm⟩
  · cases taken

theorem takeMask_isSome {mask : Byte} {rest : Option (List Char)}
    (taken : takeMask masks = some (mask, rest)) : rest.isSome = masks.isSome := by
  cases masks with
  | none =>
    cases taken
    rfl
  | some left =>
    obtain ⟨upper, lower, after, -, -, -, rfl⟩ := takeMask_some taken
    rfl

/-- What a C string shows of a text. -/
def beforeNul (text : List Char) : List Char := text.takeWhile (· ≠ nul)

@[simp] theorem beforeNul_nul (rest : List Char) : beforeNul (nul :: rest) = [] := by
  simp [beforeNul]

theorem beforeNul_cons {c : Char} (other : c ≠ nul) (rest : List Char) :
    beforeNul (c :: rest) = c :: beforeNul rest := by
  simp [beforeNul, other]

theorem headD_beforeNul (text : List Char) : (beforeNul text).headD nul = text.headD nul := by
  cases text with
  | nil => rfl
  | cons c rest =>
    by_cases null : c = nul
    · subst null
      rw [beforeNul_nul]
      rfl
    · rw [beforeNul_cons null]
      rfl

theorem beforeNul_of_head {text : List Char} (null : text.headD nul = nul) :
    beforeNul text = [] := by
  cases text with
  | nil => rfl
  | cons c rest =>
    obtain rfl : c = nul := null
    exact beforeNul_nul rest

theorem beforeNul_eq_self {text : List Char} (noNul : nul ∉ text) : beforeNul text = text := by
  apply List.takeWhile_eq_self_iff.mpr
  intro c member
  rw [decide_eq_true_eq]
  rintro rfl
  exact noNul member

theorem exists_cons {text : List Char} (more : text.headD nul ≠ nul) :
    ∃ c rest, text = c :: rest := by
  cases text with
  | nil => exact absurd rfl more
  | cons c rest => exact ⟨c, rest, rfl⟩

theorem dropWhile_beforeNul (text : List Char) :
    (beforeNul text).dropWhile (· = ' ') = beforeNul (text.dropWhile (· = ' ')) := by
  induction text with
  | nil => rfl
  | cons c rest ih =>
    by_cases space : c = ' '
    · subst space
      rw [beforeNul_cons (by decide)]
      simpa using ih
    · rw [List.dropWhile_cons_of_neg (by simpa using space)]
      by_cases null : c = nul
      · subst null
        rw [beforeNul_nul]
        rfl
      · rw [beforeNul_cons null, List.dropWhile_cons_of_neg (by simpa using space)]

/-- A mask byte ends before the NUL. -/
theorem takeMask_beforeNul (masks : Option (List Char)) :
    takeMask (masks.map beforeNul) =
      (takeMask masks).map fun (mask, rest) => (mask, rest.map beforeNul) := by
  cases masks with
  | none => rfl
  | some left =>
    simp only [takeMask, Option.map_some, dropWhile_beforeNul]
    rcases left.dropWhile (· = ' ') with _ | ⟨upper, rest⟩
    · rfl
    · by_cases null : upper = nul
      · subst null
        rw [beforeNul_nul]
        cases rest with
        | nil => rfl
        | cons lower rest => simp [lookup_nul]
      · rw [beforeNul_cons null]
        cases rest with
        | nil => rfl
        | cons lower rest =>
          by_cases nullLower : lower = nul
          · subst nullLower
            simp [lookup_nul]
          · rw [beforeNul_cons nullLower]
            cases high : hexDigits.lookup upper with
            | none => simp [high]
            | some upperValue => cases low : hexDigits.lookup lower <;> simp [high, low]

/-- A mask part that goes on is not empty up to its NUL. -/
theorem masks_not_ended (goes : ∀ left ∈ masks, left.headD nul ≠ nul) :
    masks.map beforeNul ≠ some [] := by
  intro empty
  obtain ⟨left, held, gone⟩ := Option.map_eq_some_iff.mp empty
  apply goes left held
  rw [← headD_beforeNul, gone]
  rfl

theorem tail_beforeNul (goes : ∀ left ∈ masks, left.headD nul ≠ nul) :
    (masks.map beforeNul).map List.tail = (masks.map List.tail).map beforeNul := by
  cases masks with
  | none => rfl
  | some left =>
    obtain ⟨c, left, rfl⟩ := exists_cons (goes left rfl)
    have shown := beforeNul_cons (goes (c :: left) rfl) left
    rw [List.headD_cons] at shown
    simp [shown]

theorem iterate_ended (stands : masks.isSome → mh = masks)
    (ended : text.headD nul = nul ∨ ∃ left ∈ masks, left.headD nul = nul) (fuel : ℕ) :
    iterate (fun state => .ofExcept (parseRound masks.isSome state)) (fuel + 1)
        ⟨some text, mh, pattern⟩ =
      some (.ok (finish pattern (readUnits (masks.map beforeNul) (beforeNul text)))) := by
  have read : readUnits (masks.map beforeNul) (beforeNul text) = ([], true) := by
    rcases ended with null | ⟨left, rfl, null⟩
    · rw [beforeNul_of_head null]
      exact readUnits_nil _
    · rw [Option.map_some, beforeNul_of_head null]
      exact readUnits_ended _
  rcases atEnd_cases stands text pattern with ⟨stops, -⟩ | ⟨-, goes, goesMask⟩
  · rw [iterate_leave (by rw [parseRound_of_end stops]; rfl), read]
    rfl
  · rcases ended with null | ⟨left, held, null⟩
    · exact absurd null goes
    · exact absurd null (goesMask left held)

/-- Taking a character off the mask part moves its cursor along. -/
theorem advance_stands (stands : masks.isSome → mh = masks)
    (goes : ∀ left ∈ masks, left.headD nul ≠ nul) :
    (masks.map List.tail).isSome → mh.advance = masks.map List.tail := by
  intro held
  rw [Option.isSome_map] at held
  obtain ⟨left, rfl⟩ := Option.isSome_iff_exists.mp held
  obtain ⟨c, left, rfl⟩ := exists_cons (goes left rfl)
  rw [stands rfl]
  rfl

/-- A round at a unit pushes what the reading takes first, or ends where the reading
ends. -/
theorem parseRound_unit_cases {upper : Char} (stands : masks.isSome → mh = masks)
    (goes : atEnd masks.isSome ⟨some (upper :: text), mh, pattern⟩ = .ok false)
    (going : masks.map beforeNul ≠ some []) (space : upper ≠ ' ') :
    parseRound masks.isSome ⟨some (upper :: text), mh, pattern⟩ = .ok (.leave (false, pattern)) ∧
        readUnits (masks.map beforeNul) (upper :: beforeNul text) = ([], false) ∨
      ∃ unit skipped rest lower later, text = lower :: later ∧
        parseRound masks.isSome ⟨some (upper :: text), mh, pattern⟩ =
          .ok (.again ⟨some later, skipped, pushUnits pattern [unit]⟩) ∧
        rest.isSome = masks.isSome ∧ (rest.isSome → skipped = rest) ∧
        readUnits (masks.map beforeNul) (upper :: beforeNul text) =
          (unit :: (readUnits (rest.map beforeNul) (beforeNul later)).1,
            (readUnits (rest.map beforeNul) (beforeNul later)).2) := by
  have round := parseRound_of_not_end goes
  rw [if_neg space] at round
  cases taken : takeMask masks with
  | none =>
    have refused : takeMask (masks.map beforeNul) = none := by
      rw [takeMask_beforeNul, taken]
      rfl
    rw [parseUnit_refused upper text pattern stands taken] at round
    exact .inl ⟨round, readUnits_refused going refused space _⟩
  | some found =>
    obtain ⟨mask, rest⟩ := found
    have takenBefore : takeMask (masks.map beforeNul) = some (mask, rest.map beforeNul) := by
      rw [takeMask_beforeNul, taken]
      rfl
    rcases parseUnit_eq upper text pattern stands taken with
      ⟨parsed, invalid⟩ | ⟨valid, skipped, parsed, moved⟩
    · rw [parsed] at round
      rw [← headD_beforeNul] at invalid
      exact .inl ⟨round, readUnits_invalid going space invalid⟩
    · rw [parsed] at round
      have more : text.headD nul ≠ nul := fun null => not_isPatternChar_nul (null ▸ valid.2)
      obtain ⟨lower, later, rfl⟩ := exists_cons more
      rw [List.headD_cons] at more
      have unit := readUnits_unit going takenBefore valid (beforeNul later)
      rw [List.headD_cons, ← beforeNul_cons more] at unit
      exact .inr ⟨_, skipped, rest, lower, later, rfl, round, takeMask_isSome taken, moved, unit⟩

/-- The parse loop reads the units up to a NUL and gets them into the pattern. -/
theorem iterate_parse {hasMask : Bool} (masks : Option (List Char)) (text : List Char)
    (mh : TextCursor) (pattern : MatchPattern) (fuel : ℕ) (present : masks.isSome = hasMask)
    (stands : masks.isSome → mh = masks) (enough : text.length ≤ fuel) :
    iterate (fun state => .ofExcept (parseRound hasMask state)) (fuel + 1)
        ⟨some text, mh, pattern⟩ =
      some (.ok (finish pattern (readUnits (masks.map beforeNul) (beforeNul text)))) := by
  subst present
  induction fuel generalizing masks text mh pattern with
  | zero =>
    obtain rfl := List.length_eq_zero_iff.mp (Nat.le_zero.mp enough)
    exact iterate_ended stands (.inl rfl) 0
  | succ fuel ih =>
    rcases atEnd_cases stands text pattern with ⟨-, ended⟩ | ⟨goes, first, firstMask⟩
    · exact iterate_ended stands ended (fuel + 1)
    · obtain ⟨upper, text, rfl⟩ := exists_cons first
      rw [List.headD_cons] at first
      have going := masks_not_ended firstMask
      rw [List.length_cons] at enough
      rw [beforeNul_cons first]
      by_cases space : upper = ' '
      · subst space
        have round := parseRound_of_not_end goes
        rw [if_pos rfl] at round
        have same : (masks.map List.tail).isSome = masks.isSome := Option.isSome_map
        rw [iterate_again (by rw [round]; rfl), readUnits_space going, tail_beforeNul firstMask,
          ← same]
        exact ih _ text _ pattern (advance_stands stands firstMask)
          (Nat.le_of_succ_le_succ enough)
      · rcases parseRound_unit_cases stands goes going space with
          ⟨round, read⟩ | ⟨unit, skipped, rest, lower, later, rfl, round, same, moved, read⟩
        · rw [iterate_leave (by rw [round]; rfl), read]
          rfl
        · rw [iterate_again (by rw [round]; rfl), read, ← same]
          apply ih rest later skipped _ moved
          rw [List.length_cons] at enough
          omega

end Loop

/-! The two parts of a text. -/

theorem colon_at (text : List Char) (pos : ℕ) :
    [':'].isPrefixOf (text.drop pos) = true ↔ text[pos]? = some ':' := by
  rw [← List.head?_drop]
  cases text.drop pos with
  | nil => simp
  | cons c rest => simp [eq_comm (a := ':')]

theorem find_none {text : List Char} (noColon : ':' ∉ text) : find text [':'] = none := by
  rw [find, List.find?_eq_none]
  intro pos _ here
  exact noColon (List.mem_of_getElem? ((colon_at text pos).mp here))

theorem find_some {text : List Char} (noColon : ':' ∉ text) (others : List Char) :
    find (text ++ ':' :: others) [':'] = some text.length := by
  rw [find, List.find?_range_eq_some]
  have inRange : text.length ∈ List.range ((text ++ ':' :: others).length + 1) := by
    rw [List.mem_range, List.length_append]
    omega
  refine ⟨(colon_at _ _).mpr (by simp), inRange, fun pos before => ?_⟩
  rw [Bool.not_eq_true', Bool.eq_false_iff]
  intro here
  have inside := (colon_at _ _).mp here
  rw [List.getElem?_append_left before] at inside
  exact noColon (List.mem_of_getElem? inside)

theorem stringSplit_one {text : List Char} (noColon : ':' ∉ text) :
    stringSplit text [':'] 2 = [text] := by
  rw [stringSplit, find_none noColon]

theorem stringSplit_two {text : List Char} (noColon : ':' ∉ text) (masks : List Char) :
    stringSplit (text ++ ':' :: masks) [':'] 2 = if masks = [] then [text] else [text, masks] := by
  rw [stringSplit, find_some noColon]
  simp [stringSplitLoop]

/-- The match part of a text, as a C string. -/
def matchText (str : List Char) : List Char := beforeNul (str.takeWhile (· ≠ ':'))

/-- Its mask part; an empty one counts as none. -/
def maskText (str : List Char) : Option (List Char) :=
  let masks := (str.dropWhile (· ≠ ':')).tail
  if masks = [] then none else some (beforeNul masks)

/-- What the parse loop makes of the parts of a text. -/
theorem matchPatternNewFromString_parts {str text : List Char} {others : List (List Char)}
    (split : stringSplit str [':'] 2 = text :: others) (pattern : MatchPattern) :
    matchPatternNewFromString pattern str = .ok (finish pattern (readUnits
      (if others.headD [] = [] then none else some (beforeNul (others.headD [])))
      (beforeNul text))) := by
  rw [matchPatternNewFromString, split]
  simp only
  cases others.headD [] with
  | nil =>
    exact congrArg (·.getD (.error .unfinished))
      (iterate_parse none text none pattern _ rfl nofun (Nat.le_refl _))
  | cons c rest =>
    exact congrArg (·.getD (.error .unfinished))
      (iterate_parse (some (c :: rest)) text _ pattern _ rfl (fun _ => rfl) (Nat.le_refl _))

theorem forall_ne_colon {text : List Char} (noColon : ':' ∉ text) :
    ∀ c ∈ text, decide (c ≠ ':') = true := by
  intro c member
  rw [decide_eq_true_eq]
  rintro rfl
  exact noColon member

/-- What the compiler makes of a text. -/
theorem memoryScanNew_eq (str : List Char) :
    memoryScanNew str = .ok (finish {} (readUnits (maskText str) (matchText str))) := by
  by_cases colon : ':' ∈ str
  · obtain ⟨text, masks, rfl, noColon⟩ := List.eq_append_cons_of_mem colon
    have other := forall_ne_colon noColon
    have matchPart : matchText (text ++ ':' :: masks) = beforeNul text := by
      rw [matchText, List.takeWhile_append_of_pos other]
      simp
    have maskPart : maskText (text ++ ':' :: masks) =
        if masks = [] then none else some (beforeNul masks) := by
      rw [maskText, List.dropWhile_append_of_pos other]
      simp
    rw [memoryScanNew, matchPart, maskPart]
    by_cases empty : masks = []
    · have split := stringSplit_two noColon masks
      rw [if_pos empty] at split
      rw [matchPatternNewFromString_parts split, if_pos empty]
      rfl
    · have split := stringSplit_two noColon masks
      rw [if_neg empty] at split
      exact matchPatternNewFromString_parts split {}
  · have other := forall_ne_colon colon
    have matchPart : matchText str = beforeNul str := by
      rw [matchText, List.takeWhile_eq_self_iff.mpr other]
    have maskPart : maskText str = none := by
      rw [maskText, List.dropWhile_eq_nil_iff.mpr other]
      rfl
    rw [memoryScanNew, matchPart, maskPart]
    exact matchPatternNewFromString_parts (stringSplit_one colon) {}

/-- What the compiler makes of a text without a mask part. -/
theorem memoryScanNew_plain {text : List Char} (noNul : nul ∉ text) (noColon : ':' ∉ text) :
    memoryScanNew text = .ok (finish {} (readUnits none text)) := by
  have parts := matchPatternNewFromString_parts (stringSplit_one noColon) {}
  rw [beforeNul_eq_self noNul] at parts
  exact parts

/-- What the compiler makes of a match part and a mask part. -/
theorem memoryScanNew_masked {text masks : List Char} (noNul : nul ∉ text) (noColon : ':' ∉ text)
    (noNulMasks : nul ∉ masks) :
    memoryScanNew (text ++ ':' :: masks) =
      .ok (finish {} (readUnits (if masks = [] then none else some masks) text)) := by
  have split := stringSplit_two noColon masks
  by_cases empty : masks = []
  · rw [if_pos empty] at split ⊢
    have parts := matchPatternNewFromString_parts split {}
    rw [beforeNul_eq_self noNul] at parts
    exact parts
  · rw [if_neg empty] at split ⊢
    have parts := matchPatternNewFromString_parts split {}
    rw [beforeNul_eq_self noNul, List.headD_cons, beforeNul_eq_self noNulMasks, if_neg empty]
      at parts
    exact parts

end QbdiTracer.MemoryScan
