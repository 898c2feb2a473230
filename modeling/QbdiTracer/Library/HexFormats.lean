import QbdiTracer.Library.CText

/-! Formats of fixed text and numbers in `{:#x}`: printing, and reading the numbers back. -/

namespace HexFormats

open CText

inductive Piece where
  | text (chars : List Char)
  | hex
  deriving DecidableEq

/-- `{:#x}`. -/
def hexText (n : ℕ) : List Char := '0' :: 'x' :: Nat.toDigits 16 n

def slots (format : List Piece) : ℕ := format.count .hex

def render : List Piece → List ℕ → List Char
  | [], _ => []
  | .text chars :: format, values => chars ++ render format values
  | .hex :: format, value :: values => hexText value ++ render format values
  | .hex :: format, [] => render format []

/-- The number at the front of a text, and what is left. -/
def scanHex (text : List Char) : Option (ℕ × List Char) :=
  match text.dropPrefix? ['0', 'x'] with
  | none => none
  | some digits =>
    if digits.takeWhile (isDigit 16) = [] then none
    else some (number 16 (digits.takeWhile (isDigit 16)), digits.dropWhile (isDigit 16))

/-- The numbers of a format at the front of a text, and what is left. -/
def scan : List Piece → List Char → Option (List ℕ × List Char)
  | [], text => some ([], text)
  | .text chars :: format, text => (text.dropPrefix? chars).bind (scan format)
  | .hex :: format, text =>
    (scanHex text).bind fun found => (scan format found.2).map fun others =>
      (found.1 :: others.1, others.2)

/-- The text does not begin with a hex digit. -/
def stops (text : List Char) : Bool := text.head?.all fun c => !isDigit 16 c

/-- The text after each number begins with no digit. -/
def separated : List Piece → Bool
  | [] => true
  | .text _ :: format => separated format
  | [.hex] => true
  | .hex :: .text chars :: format => !chars.isEmpty && stops chars && separated format
  | .hex :: .hex :: _ => false

variable {format : List Piece} {values : List ℕ} {rest : List Char}

theorem scanHex_hexText (n : ℕ) (stop : stops rest = true) :
    scanHex (hexText n ++ rest) = some (n, rest) := by
  have digits := isDigit_toDigits (show 1 < 16 by decide) (Nat.le_refl 16) n
  have nonempty : Nat.toDigits 16 n ≠ [] := Nat.toDigits_ne_nil
  have taken : (Nat.toDigits 16 n ++ rest).takeWhile (isDigit 16) = Nat.toDigits 16 n := by
    rw [List.takeWhile_append_of_pos digits]
    cases rest with
    | nil => simp
    | cons c rest => simpa [stops] using stop
  have dropped : (Nat.toDigits 16 n ++ rest).dropWhile (isDigit 16) = rest := by
    rw [List.dropWhile_append_of_pos digits]
    cases rest with
    | nil => rfl
    | cons c rest =>
      refine List.dropWhile_cons_of_neg ?_
      simpa [stops] using stop
  have same : (['0', 'x'] == ['0', 'x']) = true := rfl
  have cut : (hexText n ++ rest).dropPrefix? ['0', 'x'] = some (Nat.toDigits 16 n ++ rest) :=
    List.dropPrefix?_append_of_beq _ same
  rw [scanHex, cut]
  simp only [taken, dropped, if_neg nonempty, number_toDigits (show 1 < 16 by decide) (Nat.le_refl 16)]

/-- What follows a number does not prolong it. -/
theorem stops_render (apart : separated (.hex :: format) = true) (stop : stops rest = true) :
    stops (render format values ++ rest) = true := by
  cases format with
  | nil => exact stop
  | cons piece format =>
    cases piece with
    | hex => cases apart
    | text chars =>
      cases chars with
      | nil => cases apart
      | cons c chars =>
        simp only [separated, Bool.and_eq_true] at apart
        exact apart.1.2

theorem separated_tail {piece : Piece} (apart : separated (piece :: format) = true) :
    separated format = true := by
  cases piece with
  | text chars => exact apart
  | hex =>
    cases format with
    | nil => rfl
    | cons next format =>
      cases next with
      | hex => cases apart
      | text chars =>
        simp only [separated, Bool.and_eq_true] at apart
        exact apart.2

/-- The numbers that were printed are read back. -/
theorem scan_render (apart : separated format = true) (count : values.length = slots format)
    (stop : stops rest = true) : scan format (render format values ++ rest) = some (values, rest) := by
  induction format generalizing values with
  | nil =>
    cases List.eq_nil_of_length_eq_zero count
    rfl
  | cons piece format ih =>
    have later := separated_tail apart
    cases piece with
    | text chars =>
      have cut : (chars ++ (render format values ++ rest)).dropPrefix? chars =
          some (render format values ++ rest) := List.dropPrefix?_append_of_beq _ (beq_self_eq_true _)
      rw [render, List.append_assoc, scan, cut]
      exact ih later count
    | hex =>
      cases values with
      | nil => simp [slots] at count
      | cons value values =>
        have fewer : values.length = slots format := by simpa [slots] using count
        rw [render, List.append_assoc, scan, scanHex_hexText value (stops_render apart stop)]
        simp only [Option.bind_some, ih later fewer, Option.map_some]

section Forms

variable {Tag : Type} {forms : List (Tag × List Piece)} {form : Tag × List Piece}

/-- The numbers of a whole text in one format. -/
def scanWhole (format : List Piece) (text : List Char) : Option (List ℕ) :=
  match scan format text with
  | some (values, []) => some values
  | _ => none

/-- The first of several formats that reads a whole text. -/
def readForms (forms : List (Tag × List Piece)) (text : List Char) : Option (Tag × List ℕ) :=
  forms.findSome? fun form => (scanWhole form.2 text).map fun values => (form.1, values)

/-- The fixed text a format begins with. -/
def opening : List Piece → List Char
  | .text chars :: _ => chars
  | _ => []

/-- Neither opening continues the other. -/
def BeginApart (first second : List Piece) : Prop :=
  ¬ opening first <+: opening second ∧ ¬ opening second <+: opening first

instance (first second : List Piece) : Decidable (BeginApart first second) :=
  inferInstanceAs (Decidable (_ ∧ _))

theorem scanWhole_render (apart : separated format = true) (count : values.length = slots format) :
    scanWhole format (render format values) = some values := by
  have read := @scan_render _ _ [] apart count rfl
  rw [List.append_nil] at read
  rw [scanWhole, read]

/-- What is printed in one format is no text of a format that begins apart. -/
theorem scanWhole_eq_none {other : List Piece} (apart : BeginApart other format) :
    scanWhole other (render format values) = none := by
  cases other with
  | nil => exact absurd List.nil_prefix apart.1
  | cons piece other =>
    cases piece with
    | hex => exact absurd List.nil_prefix apart.1
    | text chars =>
      cases format with
      | nil => exact absurd List.nil_prefix apart.2
      | cons piece format =>
        cases piece with
        | hex => exact absurd List.nil_prefix apart.2
        | text chars' =>
          have cut : (chars' ++ render format values).dropPrefix? chars = none := by
            rw [Option.eq_none_iff_forall_ne_some]
            intro rest found
            obtain ⟨front, same, equal⟩ := List.dropPrefix?_eq_some_iff.mp found
            rw [beq_iff_eq] at equal
            subst equal
            rcases List.prefix_or_prefix_of_prefix (List.prefix_append chars' _)
              (same ▸ List.prefix_append front rest) with shorter | longer
            · exact apart.2 shorter
            · exact apart.1 longer
          rw [scanWhole, render, scan, cut]
          rfl

/-- Formats that all begin apart are told from each other. -/
theorem readForms_render (apart : forms.Pairwise fun first second => BeginApart first.2 second.2)
    (member : form ∈ forms) (separate : separated form.2 = true)
    (count : values.length = slots form.2) :
    readForms forms (render form.2 values) = some (form.1, values) := by
  induction forms with
  | nil => cases member
  | cons first forms ih =>
    obtain ⟨begins, others⟩ := List.pairwise_cons.mp apart
    rw [readForms, List.findSome?_cons]
    rcases List.mem_cons.mp member with rfl | later
    · rw [scanWhole_render separate count]
      rfl
    · rw [scanWhole_eq_none (begins form later)]
      exact ih others later

end Forms

/-- A character of no fixed text that is no hex digit, and is not the `x`. -/
def Foreign (format : List Piece) (c : Char) : Prop :=
  isDigit 16 c = false ∧ c ≠ 'x' ∧ ∀ piece ∈ format, c ∉ opening [piece]

instance (format : List Piece) (c : Char) : Decidable (Foreign format c) :=
  inferInstanceAs (Decidable (_ ∧ _))

theorem not_mem_hexText {c : Char} (noDigit : isDigit 16 c = false) (noX : c ≠ 'x') (n : ℕ) :
    c ∉ hexText n := by
  intro member
  rcases List.mem_cons.mp member with rfl | member
  · cases noDigit
  rcases List.mem_cons.mp member with rfl | member
  · exact noX rfl
  · have digit := isDigit_toDigits (show 1 < 16 by decide) (Nat.le_refl 16) n c member
    cases noDigit.symm.trans digit

theorem Foreign.not_mem_render {c : Char} (foreign : Foreign format c) (values : List ℕ) :
    c ∉ render format values := by
  induction format generalizing values with
  | nil => simp [render]
  | cons piece format ih =>
    have later : Foreign format c :=
      ⟨foreign.1, foreign.2.1, fun other member => foreign.2.2 other (List.mem_cons_of_mem _ member)⟩
    cases piece with
    | text chars =>
      rw [render, List.mem_append, not_or]
      exact ⟨foreign.2.2 _ List.mem_cons_self, ih later values⟩
    | hex =>
      cases values with
      | nil => exact ih later []
      | cons value values =>
        rw [render, List.mem_append, not_or]
        exact ⟨not_mem_hexText foreign.1 foreign.2.1 value, ih later values⟩

end HexFormats
