import Mathlib.Data.List.Infix
import Mathlib.Data.Nat.Find
import Mathlib.Data.Nat.Notation

/-! Cutting a list at a delimiter, from the left and a bounded number of times. -/

namespace DelimiterCuts

universe u

variable {Item : Type u} {delimiter string rest : List Item} {pieces : List (List Item)}
  {pos cuts : ℕ}

/-- The first delimiter of the string begins at the position. -/
structure FirstAt (delimiter string : List Item) (pos : ℕ) : Prop where
  here : delimiter <+: string.drop pos
  first : ∀ earlier < pos, ¬ delimiter <+: string.drop earlier

theorem infix_iff_exists_drop : delimiter <:+: string ↔ ∃ pos, delimiter <+: string.drop pos := by
  rw [List.infix_iff_prefix_suffix]
  constructor
  · rintro ⟨rest, begins, suffix⟩
    rw [List.suffix_iff_eq_drop] at suffix
    exact ⟨_, suffix ▸ begins⟩
  · rintro ⟨pos, begins⟩
    exact ⟨string.drop pos, begins, List.drop_suffix pos string⟩

theorem infix_iff_exists_firstAt :
    delimiter <:+: string ↔ ∃ pos, FirstAt delimiter string pos := by
  rw [infix_iff_exists_drop]
  constructor
  · intro occurs
    classical
    exact ⟨Nat.find occurs, Nat.find_spec occurs, fun _ => Nat.find_min occurs⟩
  · rintro ⟨pos, found⟩
    exact ⟨pos, found.here⟩

/-- What stands before the first delimiter, the delimiter and what is left. -/
theorem FirstAt.parts (found : FirstAt delimiter string pos) :
    string = string.take pos ++ (delimiter ++ string.drop (pos + delimiter.length)) := by
  obtain ⟨rest, same⟩ := found.here
  have left : string.drop (pos + delimiter.length) = rest := by
    rw [← List.drop_drop, ← same, List.drop_left]
  rw [left, same, List.take_append_drop]

/-- There is no delimiter in what stands before the first one. -/
theorem FirstAt.not_infix (found : FirstAt delimiter string pos) (nonempty : delimiter ≠ []) :
    ¬ delimiter <:+: string.take pos := by
  rw [infix_iff_exists_drop]
  rintro ⟨earlier, begins⟩
  have length := begins.length_le
  have positive := List.length_pos_iff.mpr nonempty
  rw [List.length_drop, List.length_take] at length
  refine found.first earlier (by omega) (begins.trans ?_)
  rw [List.drop_take]
  exact List.take_prefix _ _

/-- The pieces of a string that is cut at the first delimiter of what is left, up to `cuts`
times and as long as there is one, and what is left then. -/
inductive Cut (delimiter : List Item) : ℕ → List Item → List (List Item) → List Item → Prop where
  | stop {cuts : ℕ} {string : List Item} (ended : cuts = 0 ∨ ¬ delimiter <:+: string) :
      Cut delimiter cuts string [] string
  | cut {cuts pos : ℕ} {string rest : List Item} {pieces : List (List Item)}
      (found : FirstAt delimiter string pos)
      (later : Cut delimiter cuts (string.drop (pos + delimiter.length)) pieces rest) :
      Cut delimiter (cuts + 1) string (string.take pos :: pieces) rest

theorem Cut.joined (cut : Cut delimiter cuts string pieces rest) :
    pieces.flatMap (· ++ delimiter) ++ rest = string := by
  induction cut with
  | stop ended => rfl
  | cut found later ih =>
    rw [List.flatMap_cons, List.append_assoc, ih, List.append_assoc]
    exact found.parts.symm

theorem Cut.length_le (cut : Cut delimiter cuts string pieces rest) : pieces.length ≤ cuts := by
  induction cut with
  | stop ended => exact Nat.zero_le _
  | cut found later ih => exact Nat.succ_le_succ ih

theorem Cut.pieces_free (cut : Cut delimiter cuts string pieces rest) (nonempty : delimiter ≠ []) :
    ∀ piece ∈ pieces, ¬ delimiter <:+: piece := by
  induction cut with
  | stop ended => exact List.forall_mem_nil _
  | cut found later ih => exact List.forall_mem_cons.mpr ⟨found.not_infix nonempty, ih⟩

/-- A delimiter is left only if there were no more cuts to make. -/
theorem Cut.rest_free (cut : Cut delimiter cuts string pieces rest) (fewer : pieces.length < cuts) :
    ¬ delimiter <:+: rest := by
  induction cut with
  | stop ended => exact ended.resolve_left (Nat.ne_of_gt fewer)
  | cut found later ih => exact ih (Nat.lt_of_succ_lt_succ fewer)

/-- The cuts are determined by the string. -/
theorem Cut.unique (cut : Cut delimiter cuts string pieces rest) {others : List (List Item)}
    {left : List Item} (other : Cut delimiter cuts string others left) :
    pieces = others ∧ rest = left := by
  have absurd_of : ∀ {string : List Item} {pos cuts : ℕ}, FirstAt delimiter string pos →
      ¬ (cuts + 1 = 0 ∨ ¬ delimiter <:+: string) := by
    rintro string pos cuts found (none | free)
    · cases none
    · exact free (infix_iff_exists_drop.mpr ⟨pos, found.here⟩)
  induction cut generalizing others left with
  | stop ended =>
    cases other with
    | stop _ => exact ⟨rfl, rfl⟩
    | cut found later => exact absurd ended (absurd_of found)
  | @cut cuts pos string rest pieces found later ih =>
    cases other with
    | stop ended => exact absurd ended (absurd_of found)
    | @cut _ position _ _ _ same next =>
      obtain rfl : pos = position := by
        rcases Nat.lt_trichotomy pos position with less | equal | more
        · exact absurd found.here (same.first pos less)
        · exact equal
        · exact absurd same.here (found.first position more)
      obtain ⟨rfl, rfl⟩ := ih next
      exact ⟨rfl, rfl⟩

/-- Joining pieces is putting a delimiter behind each but the last. -/
theorem intercalate_concat (delimiter : List Item) (pieces : List (List Item)) (last : List Item) :
    delimiter.intercalate (pieces ++ [last]) = pieces.flatMap (· ++ delimiter) ++ last := by
  induction pieces with
  | nil => exact List.intercalate_singleton
  | cons piece pieces ih =>
    rw [List.cons_append, List.intercalate_cons_of_ne_nil (by simp), ih, List.flatMap_cons,
      List.append_assoc, List.append_assoc, List.append_assoc]

section Fields

variable [DecidableEq Item]

/-- The fields of a string with single delimiters; the last one keeps what is left after
`cuts` of them. -/
def fields (delimiter : Item) : ℕ → List Item → List (List Item)
  | 0, string => [string]
  | cuts + 1, string =>
    if delimiter ∈ string then
      string.takeWhile (· != delimiter) ::
        fields delimiter cuts (string.dropWhile (· != delimiter)).tail
    else [string]

theorem fields_cons {delimiter : Item} {piece : List Item} (free : delimiter ∉ piece) (cuts : ℕ)
    (rest : List Item) :
    fields delimiter (cuts + 1) (piece ++ delimiter :: rest) =
      piece :: fields delimiter cuts rest := by
  have passes : ∀ item ∈ piece, (item != delimiter) = true := by
    intro item member
    exact bne_iff_ne.mpr fun same => free (same ▸ member)
  have taken : (piece ++ delimiter :: rest).takeWhile (· != delimiter) = piece := by
    rw [List.takeWhile_append_of_pos passes, List.takeWhile_cons_of_neg (by simp), List.append_nil]
  have dropped : (piece ++ delimiter :: rest).dropWhile (· != delimiter) = delimiter :: rest := by
    rw [List.dropWhile_append_of_pos passes, List.dropWhile_cons_of_neg (by simp)]
  rw [fields, if_pos (List.mem_append_right _ List.mem_cons_self), taken, dropped, List.tail_cons]

/-- Fields without the delimiter are cut apart again, whatever the last one holds. -/
theorem fields_joined {delimiter : Item} {pieces : List (List Item)}
    (free : ∀ piece ∈ pieces, delimiter ∉ piece) (last : List Item) :
    fields delimiter pieces.length (pieces.flatMap (· ++ [delimiter]) ++ last) =
      pieces ++ [last] := by
  induction pieces with
  | nil => rfl
  | cons piece pieces ih =>
    have later := ih fun other member => free other (List.mem_cons_of_mem piece member)
    rw [List.flatMap_cons, List.append_assoc, List.append_assoc, List.singleton_append,
      List.length_cons, fields_cons (free piece List.mem_cons_self), later]
    rfl

/-- The pieces of a string that ends each with a terminator. -/
def lines (terminator : Item) (string : List Item) : List (List Item) :=
  (string.splitOn terminator).dropLast

/-- Nothing is left after the last terminator. -/
theorem lines_terminated {terminator : Item} {pieces : List (List Item)}
    (free : ∀ piece ∈ pieces, terminator ∉ piece) :
    lines terminator (pieces.flatMap (· ++ [terminator])) = pieces := by
  have split : (pieces.flatMap (· ++ [terminator])).splitOn terminator = pieces ++ [[]] := by
    induction pieces with
    | nil => exact List.splitOn_nil terminator
    | cons piece pieces ih =>
      have later := ih fun other member => free other (List.mem_cons_of_mem piece member)
      rw [List.flatMap_cons, List.append_assoc, List.singleton_append,
        List.splitOn_append_cons_self, List.splitOn_eq_singleton (free piece List.mem_cons_self),
        later]
      rfl
  rw [lines, split, List.dropLast_concat]

/-- There are as many as terminators. -/
theorem length_lines (terminator : Item) (string : List Item) :
    (lines terminator string).length = string.count terminator := by
  have split : (string.splitOn terminator).length = string.count terminator + 1 := by
    induction string with
    | nil => rw [List.splitOn_nil]; rfl
    | cons item string ih =>
      rw [List.splitOn_cons_eq_if_modifyHead, List.count_cons]
      split
      · rw [List.length_cons, ih]
      · rw [List.length_modifyHead, ih]
  rw [lines, List.length_dropLast, split, Nat.add_sub_cancel]

end Fields

end DelimiterCuts
