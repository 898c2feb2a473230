import Mathlib.Data.BitVec
import Mathlib.Data.List.TakeWhile
import Mathlib.Data.Nat.Notation

/-! C strings in a buffer of fixed size: pointers that are read through and moved, numbers,
and lines of a file. -/

namespace CText

def nul : Char := Char.ofNat 0

inductive ReadFault where
  /-- A character outside of the buffer is read. -/
  | outside
  deriving DecidableEq, Repr

/-- `isspace` of the C locale. -/
def isspace (c : Char) : Bool := decide (c = ' ') || decide ('\t' ≤ c) && decide (c ≤ '\r')

/-- The value of a digit in a base of up to 36. -/
def digitValue (c : Char) : Option ℕ :=
  if '0' ≤ c ∧ c ≤ '9' then some (c.toNat - '0'.toNat)
  else if 'a' ≤ c ∧ c ≤ 'z' then some (c.toNat - 'a'.toNat + 10)
  else if 'A' ≤ c ∧ c ≤ 'Z' then some (c.toNat - 'A'.toNat + 10)
  else none

def isDigit (base : ℕ) (c : Char) : Bool := (digitValue c).any (· < base)

def number (base : ℕ) (digits : List Char) : ℕ :=
  digits.foldl (fun value c => base * value + (digitValue c).getD 0) 0

/-- Where a `char *` stands: the characters from there to the end of the buffer, how many
of the buffer are behind the NUL of the string, and whether one of these has been read. -/
structure Cursor where
  rest : List Char
  behind : ℕ
  overrun : Bool := false

namespace Cursor

/-- A pointer to the first character of the buffer. -/
def start (buffer : List Char) : Cursor where
  rest := buffer
  behind := buffer.length - (buffer.takeWhile (· ≠ nul)).length - 1

/-- `*ptr`. -/
def look (cursor : Cursor) : Except ReadFault (Char × Cursor) :=
  match cursor.rest with
  | [] => .error .outside
  | c :: rest =>
    .ok (c, { cursor with overrun := cursor.overrun || decide (rest.length < cursor.behind) })

/-- `ptr++`. -/
def advance (cursor : Cursor) : Cursor := { cursor with rest := cursor.rest.tail }

def scanFrom (test : Char → Bool) (behind : ℕ) :
    List Char → Bool → Except ReadFault (List Char × Cursor)
  | [], _ => .error .outside
  | c :: rest, overrun =>
    if test c then
      (scanFrom test behind rest (overrun || decide (rest.length < behind))).map
        fun (found, cursor) => (c :: found, cursor)
    else .ok ([], ⟨c :: rest, behind, overrun || decide (rest.length < behind)⟩)

/-- `while (test(*ptr)) ptr++`, with the characters that were passed. -/
def scan (cursor : Cursor) (test : Char → Bool) : Except ReadFault (List Char × Cursor) :=
  scanFrom test cursor.behind cursor.rest cursor.overrun

/-- A `0x` is skipped if a digit follows it. -/
def skipZeroX (cursor : Cursor) : Except ReadFault Cursor := do
  let (zero, first) ← cursor.look
  if zero ≠ '0' then return first
  let (x, second) ← first.advance.look
  if x ≠ 'x' ∧ x ≠ 'X' then return { first with overrun := second.overrun }
  let (digit, third) ← second.advance.look
  if isDigit 16 digit then return third
  return { first with overrun := third.overrun }

/-- `strtoul(nptr, &nptr, base)` for a base of 10 or 16 and an `unsigned long` of `width`
bits: the value, and the pointer behind the number, which stays where it is if there is
none. -/
def strtoul (width base : ℕ) (nptr : Cursor) : Except ReadFault (BitVec width × Cursor) := do
  let (_, cursor) ← nptr.scan isspace
  let (sign, cursor) ← cursor.look
  let cursor := if sign = '-' ∨ sign = '+' then cursor.advance else cursor
  let cursor ← if base = 16 then cursor.skipZeroX else .ok cursor
  let (digits, cursor) ← cursor.scan (isDigit base)
  if digits = [] then return (0, { nptr with overrun := cursor.overrun })
  if 2 ^ width ≤ number base digits then return (BitVec.allOnes width, cursor)
  let value := BitVec.ofNat width (number base digits)
  return (if sign = '-' then -value else value, cursor)

end Cursor

/-- `strrchr`: the string from the last occurrence on. -/
def strrchr (c : Char) : List Char → Option (List Char)
  | [] => none
  | first :: rest => (strrchr c rest).or (if first = c then some (first :: rest) else none)

/-- `if ((ptr = strchr(line, '\n')) != nullptr) *ptr = '\0'`. -/
def cutLine : List Char → List Char
  | [] => []
  | c :: rest => if c = nul then c :: rest else if c = '\n' then nul :: rest else c :: cutLine rest

/-- The characters up to and with a newline, at most `room` of them. -/
def takeLine : ℕ → List Char → List Char
  | 0, _ => []
  | _ + 1, [] => []
  | room + 1, c :: rest => if c = '\n' then [c] else c :: takeLine room rest

/-- `fgets`: the buffer and what is left of the file, or `none` at its end. What stood
behind the NUL in the buffer stays there. -/
def fgets (size : ℕ) (buffer file : List Char) : Option (List Char × List Char) :=
  match file with
  | [] => none
  | c :: rest =>
    let line := takeLine (size - 1) (c :: rest)
    some (line ++ nul :: buffer.drop (line.length + 1), (c :: rest).drop line.length)

/-! Reading inside the string. -/

section Reading

variable {c : Char} {tail found : List Char} {behind : ℕ} {overrun : Bool} {test : Char → Bool}

@[simp] theorem Cursor.advance_cons :
    Cursor.advance ⟨c :: tail, behind, overrun⟩ = ⟨tail, behind, overrun⟩ := rfl

theorem Cursor.look_cons (inside : behind ≤ tail.length) :
    Cursor.look ⟨c :: tail, behind, overrun⟩ = .ok (c, ⟨c :: tail, behind, overrun⟩) := by
  simp [look, inside]

theorem Cursor.scan_none (stops : test c = false) (inside : behind ≤ tail.length) :
    Cursor.scan ⟨c :: tail, behind, overrun⟩ test = .ok ([], ⟨c :: tail, behind, overrun⟩) := by
  simp [scan, scanFrom, stops, inside]

/-- A scan that stops at the latest at the NUL. -/
theorem Cursor.scan_eq (passes : ∀ d ∈ found, test d = true) (stops : test c = false)
    (inside : behind ≤ tail.length) :
    Cursor.scan ⟨found ++ c :: tail, behind, overrun⟩ test =
      .ok (found, ⟨c :: tail, behind, overrun⟩) := by
  induction found with
  | nil => exact scan_none stops inside
  | cons d rest ih =>
    rw [List.forall_mem_cons] at passes
    have shorter : ¬ (rest ++ c :: tail).length < behind := by
      rw [List.length_append, List.length_cons]
      omega
    have later := ih passes.2
    rw [scan] at later ⊢
    rw [List.cons_append, scanFrom, if_pos passes.1, decide_eq_false shorter, Bool.or_false, later]
    rfl

/-- A scan of the text before the NUL. -/
theorem Cursor.scan_text (stops : test nul = false) (text : List Char) :
    Cursor.scan ⟨text ++ nul :: tail, tail.length, overrun⟩ test =
      .ok (text.takeWhile test, ⟨text.dropWhile test ++ nul :: tail, tail.length, overrun⟩) := by
  have passes : ∀ d ∈ text.takeWhile test, test d = true := fun d => List.mem_takeWhile_imp
  have split : text.takeWhile test ++ text.dropWhile test = text := List.takeWhile_append_dropWhile
  cases left : text.dropWhile test with
  | nil =>
    rw [left, List.append_nil] at split
    have scanned := @scan_eq nul tail (text.takeWhile test) tail.length overrun test passes stops
      (Nat.le_refl _)
    rw [split] at scanned ⊢
    exact scanned
  | cons c rest =>
    have stopped : test c = false := by
      have first := List.head?_dropWhile_not test text
      rw [left, List.head?_cons] at first
      simpa using first
    have inside : tail.length ≤ (rest ++ nul :: tail).length := by
      rw [List.length_append, List.length_cons]
      omega
    have scanned := @scan_eq c (rest ++ nul :: tail) (text.takeWhile test) tail.length overrun test
      passes stopped inside
    rw [← List.cons_append, ← left, ← List.append_assoc, split, left] at scanned
    exact scanned

theorem Cursor.start_eq (noNul : nul ∉ found) :
    Cursor.start (found ++ nul :: tail) = ⟨found ++ nul :: tail, tail.length, false⟩ := by
  have text : (found ++ nul :: tail).takeWhile (· ≠ nul) = found := by
    rw [List.takeWhile_append_of_pos]
    · simp
    · intro d member
      rw [decide_eq_true_eq]
      rintro rfl
      exact noNul member
  have count : (found ++ nul :: tail).length - found.length - 1 = tail.length := by
    rw [List.length_append, List.length_cons]
    omega
  rw [start, text, count]

end Reading

/-! Numbers. -/

section Numbers

variable {base : ℕ} {c : Char}

theorem digitValue_of_le (low : c ≤ '/') : digitValue c = none := by
  have above : ∀ first : Char, '/' < first → ¬ first ≤ c := by
    intro first later begins
    exact Char.not_le.mpr later (Char.le_trans begins low)
  unfold digitValue
  rw [if_neg fun range => above '0' (by decide) range.1,
    if_neg fun range => above 'a' (by decide) range.1,
    if_neg fun range => above 'A' (by decide) range.1]

theorem isspace_le (space : isspace c = true) : c ≤ '/' := by
  simp only [isspace, Bool.or_eq_true, Bool.and_eq_true, decide_eq_true_eq] at space
  rcases space with rfl | ⟨-, below⟩
  · decide
  · exact Char.le_trans below (by decide)

theorem not_isDigit_of_le (low : c ≤ '/') : isDigit base c = false := by
  rw [isDigit, digitValue_of_le low]
  rfl

/-- What a digit is not. -/
theorem isDigit_facts (small : base ≤ 16) (digit : isDigit base c = true) :
    isspace c = false ∧ c ≠ '-' ∧ c ≠ '+' ∧ c ≠ 'x' ∧ c ≠ 'X' := by
  have high : ¬ c ≤ '/' := by
    intro low
    rw [not_isDigit_of_le low] at digit
    cases digit
  have letter : isDigit base 'x' = false ∧ isDigit base 'X' = false := by
    simp [isDigit, digitValue]
    omega
  refine ⟨?_, ?_, ?_, ?_, ?_⟩
  · rw [Bool.eq_false_iff]
    exact fun space => high (isspace_le space)
  · rintro rfl
    exact high (by decide)
  · rintro rfl
    exact high (by decide)
  · rintro rfl
    rw [letter.1] at digit
    cases digit
  · rintro rfl
    rw [letter.2] at digit
    cases digit

theorem digitValue_digitChar {n : ℕ} (small : n < 16) : digitValue n.digitChar = some n := by
  have checked : ∀ n : Fin 16, digitValue n.val.digitChar = some n.val := by decide
  exact checked ⟨n, small⟩

theorem number_append (base : ℕ) (first second : List Char) :
    number base (first ++ second) =
      second.foldl (fun value c => base * value + (digitValue c).getD 0) (number base first) :=
  List.foldl_append ..

/-- What `%0*x`, or `%lu` with no width, prints. -/
def printed (base width n : ℕ) : List Char := (Nat.toDigits base n).leftpad width '0'

theorem number_toDigits (above : 1 < base) (small : base ≤ 16) (n : ℕ) :
    number base (Nat.toDigits base n) = n := by
  induction n using Nat.strongRecOn with
  | ind n ih =>
    rcases Nat.lt_or_ge n base with less | large
    · rw [Nat.toDigits_of_lt_base less]
      simp [number, digitValue_digitChar (Nat.lt_of_lt_of_le less small)]
    · have low : n % base < 16 := Nat.lt_of_lt_of_le (Nat.mod_lt _ (by omega)) small
      rw [Nat.toDigits_of_base_le above large, number_append,
        ih (n / base) (Nat.div_lt_self (by omega) above)]
      simp [digitValue_digitChar low, Nat.div_add_mod]

theorem number_printed (above : 1 < base) (small : base ≤ 16) (width n : ℕ) :
    number base (printed base width n) = n := by
  have zeros : ∀ count, number base (List.replicate count '0') = 0 := by
    intro count
    induction count with
    | zero => rfl
    | succ count ih =>
      rw [List.replicate_succ', number_append, ih]
      simp [digitValue]
  rw [printed, List.leftpad, number_append, zeros]
  exact number_toDigits above small n

theorem isDigit_toDigits (above : 1 < base) (small : base ≤ 16) (n : ℕ) :
    ∀ d ∈ Nat.toDigits base n, isDigit base d = true := by
  induction n using Nat.strongRecOn with
  | ind n ih =>
    rcases Nat.lt_or_ge n base with less | large
    · rw [Nat.toDigits_of_lt_base less]
      simp [isDigit, digitValue_digitChar (Nat.lt_of_lt_of_le less small), less]
    · have low : n % base < base := Nat.mod_lt _ (by omega)
      rw [Nat.toDigits_of_base_le above large, List.forall_mem_append]
      refine ⟨ih (n / base) (Nat.div_lt_self (by omega) above), ?_⟩
      simp [isDigit, digitValue_digitChar (Nat.lt_of_lt_of_le low small), low]

theorem isDigit_printed (above : 1 < base) (small : base ≤ 16) (width n : ℕ) :
    ∀ d ∈ printed base width n, isDigit base d = true := by
  intro d member
  rw [printed, List.leftpad, List.mem_append] at member
  rcases member with zero | digit
  · rw [List.eq_of_mem_replicate zero]
    simp [isDigit, digitValue]
    omega
  · exact isDigit_toDigits above small n d digit

theorem printed_ne_nil (base width n : ℕ) : printed base width n ≠ [] := by
  intro empty
  rw [printed, List.leftpad, List.append_eq_nil_iff] at empty
  exact Nat.toDigits_ne_nil empty.2

variable {tail digits : List Char} {behind : ℕ} {overrun : Bool}

theorem Cursor.skipZeroX_eq (digit : ∀ d ∈ digits, isDigit 16 d = true) (nonempty : digits ≠ [])
    (other : c ≠ 'x' ∧ c ≠ 'X') (inside : behind ≤ tail.length) :
    Cursor.skipZeroX ⟨digits ++ c :: tail, behind, overrun⟩ =
      .ok ⟨digits ++ c :: tail, behind, overrun⟩ := by
  cases digits with
  | nil => exact absurd rfl nonempty
  | cons first rest =>
    rw [List.forall_mem_cons] at digit
    have long : behind ≤ (rest ++ c :: tail).length := by
      rw [List.length_append, List.length_cons]
      omega
    simp only [List.cons_append, skipZeroX, look_cons long, bind, Except.bind, pure, Except.pure]
    split
    · rfl
    · cases rest with
      | nil => simp [look_cons inside, other]
      | cons second rest =>
        obtain ⟨-, -, -, small, large⟩ := isDigit_facts (Nat.le_refl 16) (digit.2 second (.head _))
        have longer : behind ≤ (rest ++ c :: tail).length := by
          rw [List.length_append, List.length_cons]
          omega
        simp [look_cons longer, small, large]

/-- A number that is followed by another character. -/
theorem Cursor.strtoul_eq (width : ℕ) (small : base = 16 ∨ base = 10)
    (digit : ∀ d ∈ digits, isDigit base d = true) (nonempty : digits ≠ [])
    (stops : isDigit base c = false) (other : c ≠ 'x' ∧ c ≠ 'X') (inside : behind ≤ tail.length) :
    Cursor.strtoul width base ⟨digits ++ c :: tail, behind, overrun⟩ =
      .ok (if 2 ^ width ≤ number base digits then BitVec.allOnes width
        else BitVec.ofNat width (number base digits), ⟨c :: tail, behind, overrun⟩) := by
  have below : base ≤ 16 := by omega
  cases digits with
  | nil => exact absurd rfl nonempty
  | cons first rest =>
    obtain ⟨space, minus, plus, -, -⟩ := isDigit_facts below (digit first (.head _))
    have long : behind ≤ (rest ++ c :: tail).length := by
      rw [List.length_append, List.length_cons]
      omega
    have spaces : Cursor.scan ⟨first :: rest ++ c :: tail, behind, overrun⟩ isspace =
        .ok ([], ⟨first :: rest ++ c :: tail, behind, overrun⟩) := scan_none space long
    have sign : Cursor.look ⟨first :: rest ++ c :: tail, behind, overrun⟩ =
        .ok (first, ⟨first :: rest ++ c :: tail, behind, overrun⟩) := look_cons long
    have unsigned : ¬ (first = '-' ∨ first = '+') := by simp [minus, plus]
    rcases small with rfl | rfl
    · simp only [strtoul, spaces, sign, if_neg unsigned, ↓reduceIte,
        skipZeroX_eq digit nonempty other inside, scan_eq digit stops inside, bind, Except.bind,
        pure, Except.pure, if_neg nonempty, if_neg minus]
      split <;> rfl
    · have decimal : ¬ (10 : ℕ) = 16 := by decide
      simp only [strtoul, spaces, sign, if_neg unsigned, if_neg decimal,
        scan_eq digit stops inside, bind, Except.bind, pure, Except.pure, if_neg nonempty,
        if_neg minus]
      split <;> rfl

/-- A printed number is read back; one that is too large is read as the largest. -/
theorem Cursor.strtoul_printed (width : ℕ) (small : base = 16 ∨ base = 10) (pad n : ℕ)
    (stops : isDigit base c = false) (other : c ≠ 'x' ∧ c ≠ 'X') (inside : behind ≤ tail.length) :
    Cursor.strtoul width base ⟨printed base pad n ++ c :: tail, behind, overrun⟩ =
      .ok (if 2 ^ width ≤ n then BitVec.allOnes width else BitVec.ofNat width n,
        ⟨c :: tail, behind, overrun⟩) := by
  have above : 1 < base := by omega
  have below : base ≤ 16 := by omega
  rw [strtoul_eq width small (isDigit_printed above below pad n) (printed_ne_nil base pad n) stops
    other inside, number_printed above below]

/-- One space before another character. -/
theorem Cursor.scan_blank (other : isspace c = false) (inside : behind ≤ tail.length) :
    Cursor.scan ⟨' ' :: c :: tail, behind, overrun⟩ isspace =
      .ok ([' '], ⟨c :: tail, behind, overrun⟩) :=
  @scan_eq c tail [' '] behind overrun isspace (List.forall_mem_singleton.mpr (by decide)) other
    inside

/-- One space before a number. -/
theorem Cursor.scan_blank_printed (small : base = 16 ∨ base = 10) (pad n : ℕ)
    (inside : behind ≤ tail.length) :
    Cursor.scan ⟨' ' :: (printed base pad n ++ tail), behind, overrun⟩ isspace =
      .ok ([' '], ⟨printed base pad n ++ tail, behind, overrun⟩) := by
  have digit := @isDigit_printed base (by omega) (by omega) pad n
  cases spelled : printed base pad n with
  | nil => exact absurd spelled (printed_ne_nil base pad n)
  | cons first rest =>
    rw [spelled] at digit
    have longer : behind ≤ (rest ++ tail).length := by
      rw [List.length_append]
      omega
    exact scan_blank (isDigit_facts (by omega) (digit first (.head _))).1 longer

end Numbers

/-! Lines. -/

section Lines

variable {text rest buffer : List Char} {room : ℕ}

theorem takeLine_short (noNewline : '\n' ∉ text) (fits : text.length < room) :
    takeLine room (text ++ '\n' :: rest) = text ++ ['\n'] := by
  induction text generalizing room with
  | nil =>
    obtain ⟨room, rfl⟩ := Nat.exists_eq_add_one_of_ne_zero (Nat.ne_zero_of_lt fits)
    rfl
  | cons c text ih =>
    obtain ⟨room, rfl⟩ := Nat.exists_eq_add_one_of_ne_zero (Nat.ne_zero_of_lt fits)
    rw [List.mem_cons, not_or] at noNewline
    rw [List.length_cons, Nat.add_lt_add_iff_right] at fits
    rw [List.cons_append, takeLine, if_neg (Ne.symm noNewline.1), ih noNewline.2 fits,
      List.cons_append]

theorem takeLine_long (noNewline : '\n' ∉ text) (long : room ≤ text.length) :
    takeLine room (text ++ rest) = text.take room := by
  induction text generalizing room with
  | nil =>
    obtain rfl := Nat.le_zero.mp long
    rfl
  | cons c text ih =>
    cases room with
    | zero => rfl
    | succ room =>
      rw [List.mem_cons, not_or] at noNewline
      rw [List.length_cons, Nat.add_le_add_iff_right] at long
      rw [List.cons_append, takeLine, if_neg (Ne.symm noNewline.1), ih noNewline.2 long,
        List.take_succ_cons]

theorem cutLine_eq (noNewline : '\n' ∉ text) (noNul : nul ∉ text) :
    cutLine (text ++ '\n' :: rest) = text ++ nul :: rest := by
  induction text with
  | nil => rfl
  | cons c text ih =>
    rw [List.mem_cons, not_or] at noNewline noNul
    rw [List.cons_append, cutLine, if_neg (Ne.symm noNul.1), if_neg (Ne.symm noNewline.1),
      ih noNewline.2 noNul.2, List.cons_append]

variable {size : ℕ}

theorem fgets_of_ne_nil {file : List Char} (more : file ≠ []) :
    fgets size buffer file = some
      (takeLine (size - 1) file ++ nul :: buffer.drop ((takeLine (size - 1) file).length + 1),
        file.drop (takeLine (size - 1) file).length) := by
  cases file with
  | nil => exact absurd rfl more
  | cons c rest => rfl

/-- A whole line fits the buffer. -/
theorem fgets_short (noNewline : '\n' ∉ text) (fits : text.length < size - 1) :
    fgets size buffer (text ++ '\n' :: rest) =
      some (text ++ '\n' :: nul :: buffer.drop (text.length + 2), rest) := by
  have left : (text ++ '\n' :: rest).drop (text.length + 1) = rest := by
    rw [List.drop_append]
    simp
  rw [fgets_of_ne_nil (by simp), takeLine_short noNewline fits, List.length_append,
    List.length_singleton, left, List.append_assoc]
  rfl

/-- A line that does not fit is cut. -/
theorem fgets_long (noNewline : '\n' ∉ text) (positive : 1 < size) (long : size - 1 ≤ text.length) :
    fgets size buffer (text ++ rest) =
      some (text.take (size - 1) ++ nul :: buffer.drop size, text.drop (size - 1) ++ rest) := by
  have more : text ++ rest ≠ [] := by
    intro empty
    rw [(List.append_eq_nil_iff.mp empty).1, List.length_nil] at long
    omega
  have whole : size - 1 + 1 = size := by omega
  rw [fgets_of_ne_nil more, takeLine_long noNewline long, List.length_take, Nat.min_eq_left long,
    whole, List.drop_append_of_le_length long]

theorem takeLine_ne_nil {c : Char} (positive : 0 < room) : takeLine room (c :: rest) ≠ [] := by
  obtain ⟨room, rfl⟩ := Nat.exists_eq_add_one_of_ne_zero (Nat.ne_of_gt positive)
  rw [takeLine]
  split
  · exact List.cons_ne_nil _ _
  · exact List.cons_ne_nil _ _

/-- Something is taken from the file. -/
theorem fgets_shorter (positive : 1 < size) {file line left : List Char}
    (got : fgets size buffer file = some (line, left)) : left.length < file.length := by
  cases file with
  | nil => cases got
  | cons c rest =>
    rw [fgets_of_ne_nil (List.cons_ne_nil _ _), Option.some.injEq, Prod.mk.injEq] at got
    have taken := List.length_pos_iff.mpr (@takeLine_ne_nil rest (size - 1) c (by omega))
    rw [← got.2, List.length_drop, List.length_cons]
    omega

end Lines

end CText
