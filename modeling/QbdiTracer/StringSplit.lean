import QbdiTracer.Library.DelimiterCuts
import QbdiTracer.PatternGrammar

/-! The pieces of `string_split`: where the string is cut, and that joining them gives it
back. A delimiter at the very end is lost. -/

namespace QbdiTracer.MemoryScan

open DelimiterCuts

variable {string delimiter : List Char} {maxTokens : ℕ}

theorem find_eq_some_iff (nonempty : delimiter ≠ []) (pos : ℕ) :
    find string delimiter = some pos ↔ FirstAt delimiter string pos := by
  rw [find, List.find?_range_eq_some]
  simp only [List.isPrefixOf_iff_prefix, List.mem_range, Bool.not_eq_true']
  constructor
  · rintro ⟨here, -, first⟩
    refine ⟨here, fun earlier before begins => ?_⟩
    rw [← List.isPrefixOf_iff_prefix, first earlier before] at begins
    cases begins
  · rintro ⟨here, first⟩
    refine ⟨here, ?_, fun earlier before => ?_⟩
    · have length := here.length_le
      have positive := List.length_pos_iff.mpr nonempty
      rw [List.length_drop] at length
      omega
    · rw [← Bool.not_eq_true, List.isPrefixOf_iff_prefix]
      exact first earlier before

theorem find_eq_none_iff (nonempty : delimiter ≠ []) :
    find string delimiter = none ↔ ¬ delimiter <:+: string := by
  rw [← Option.not_isSome_iff_eq_none, Option.isSome_iff_exists, infix_iff_exists_firstAt]
  simp only [find_eq_some_iff nonempty]

/-- The loop cuts the remainder, and drops what is left if it is empty. -/
theorem stringSplitLoop_cut (nonempty : delimiter ≠ []) (cuts : ℕ) (remainder : List Char)
    (strList : List (List Char)) :
    ∃ pieces rest, Cut delimiter cuts remainder pieces rest ∧
      stringSplitLoop delimiter cuts remainder (find remainder delimiter) strList =
        strList ++ pieces ++ if rest = [] then [] else [rest] := by
  induction cuts generalizing remainder strList with
  | zero =>
    refine ⟨[], remainder, .stop (.inl rfl), ?_⟩
    cases remainder <;> simp [stringSplitLoop]
  | succ cuts ih =>
    cases found : find remainder delimiter with
    | none =>
      refine ⟨[], remainder, .stop (.inr ((find_eq_none_iff nonempty).mp found)), ?_⟩
      cases remainder <;> simp [stringSplitLoop]
    | some pos =>
      obtain ⟨pieces, rest, later, same⟩ := ih (remainder.drop (pos + delimiter.length))
        (strList ++ [remainder.take pos])
      refine ⟨_, rest, .cut ((find_eq_some_iff nonempty pos).mp found) later, ?_⟩
      rw [stringSplitLoop, same]
      simp

/-- The last of the cuts is made at a delimiter that ends the string. -/
def LastCutAtEnd (string delimiter : List Char) (maxTokens : ℕ) : Prop :=
  ∃ pieces, pieces ≠ [] ∧ Cut delimiter (maxTokens - 1) string pieces []

/-- The pieces are those of the cuts, with what is left unless it is empty behind a cut. -/
theorem stringSplit_cut (nonempty : delimiter ≠ []) (string : List Char) (maxTokens : ℕ) :
    ∃ pieces rest, Cut delimiter (maxTokens - 1) string pieces rest ∧
      stringSplit string delimiter maxTokens =
        if pieces ≠ [] ∧ rest = [] then pieces else pieces ++ [rest] := by
  cases found : find string delimiter with
  | none =>
    refine ⟨[], string, .stop (.inr ((find_eq_none_iff nonempty).mp found)), ?_⟩
    simp [stringSplit, found]
  | some pos =>
    obtain ⟨pieces, rest, cut, same⟩ :=
      stringSplitLoop_cut nonempty (maxTokens - 1) string []
    refine ⟨pieces, rest, cut, ?_⟩
    rw [found] at same
    rw [stringSplit, found]
    simp only [same, List.nil_append]
    cases pieces with
    | cons piece pieces => by_cases empty : rest = [] <;> simp [empty]
    | nil =>
      -- nothing was cut, and the string holds a delimiter
      have whole : rest = string := cut.joined
      have holds := ((find_eq_some_iff nonempty pos).mp found).parts
      have more : rest ≠ [] := by
        rintro rfl
        rw [← whole] at holds
        simp [nonempty] at holds
      simp [more]

theorem getElem?_concat_cases {pieces : List (List Char)} {last piece : List Char} {index : ℕ}
    (present : (pieces ++ [last])[index]? = some piece) :
    pieces[index]? = some piece ∨ index = pieces.length ∧ piece = last := by
  rcases Nat.lt_or_ge index pieces.length with before | behind
  · rw [List.getElem?_append_left before] at present
    exact .inl present
  · rw [List.getElem?_append_right behind, List.getElem?_singleton] at present
    split at present
    · rename_i here
      cases present
      exact .inr ⟨by omega, rfl⟩
    · cases present

theorem head?_stringSplit_colon (text : List Char) :
    (stringSplit text [':'] 2).head? = some (text.takeWhile (· ≠ ':')) := by
  by_cases colon : ':' ∈ text
  · obtain ⟨before, masks, rfl, noColon⟩ := List.eq_append_cons_of_mem colon
    rw [stringSplit_two noColon, List.takeWhile_append_of_pos (forall_ne_colon noColon)]
    split <;> simp
  · rw [stringSplit_one colon, List.takeWhile_eq_self_iff.mpr (forall_ne_colon colon)]
    rfl

/-- There are one to `max_tokens` pieces, only the last of that many can hold the delimiter,
and joined they are the string, without a delimiter at its end that was cut. The first piece
of a pattern text is its match part. -/
theorem string_split_pieces (string : List Char) (nonempty : delimiter ≠ [])
    (positive : 1 ≤ maxTokens) :
    (1 ≤ (stringSplit string delimiter maxTokens).length ∧
        (stringSplit string delimiter maxTokens).length ≤ maxTokens) ∧
      (∀ index, index + 1 ≠ maxTokens →
        ∀ piece ∈ (stringSplit string delimiter maxTokens)[index]?, ¬ delimiter <:+: piece) ∧
      (¬ LastCutAtEnd string delimiter maxTokens →
        delimiter.intercalate (stringSplit string delimiter maxTokens) = string) ∧
      (LastCutAtEnd string delimiter maxTokens →
        delimiter.intercalate (stringSplit string delimiter maxTokens) ++ delimiter = string) ∧
      ∀ text, (stringSplit text [':'] 2).head? = some (text.takeWhile (· ≠ ':')) := by
  obtain ⟨pieces, rest, cut, same⟩ := stringSplit_cut nonempty string maxTokens
  have fewer := cut.length_le
  have joined := cut.joined
  have free := cut.pieces_free nonempty
  rw [same]
  by_cases atEnd : pieces ≠ [] ∧ rest = []
  · obtain ⟨cuts, rfl⟩ := atEnd
    have positiveLength := List.length_pos_iff.mpr cuts
    rw [if_pos ⟨cuts, rfl⟩]
    refine ⟨⟨positiveLength, by omega⟩, fun index _ piece member => ?_,
      fun other => absurd ⟨pieces, cuts, cut⟩ other, fun _ => ?_, head?_stringSplit_colon⟩
    · exact free piece (List.mem_of_getElem? member)
    · obtain ⟨earlier, last, rfl⟩ := (List.eq_nil_or_concat' pieces).resolve_left cuts
      rw [intercalate_concat, List.append_assoc]
      simpa using joined
  · rw [if_neg atEnd, intercalate_concat, joined]
    refine ⟨⟨by simp, by simp; omega⟩, fun index other piece member => ?_, fun _ => rfl,
      fun ⟨others, cuts, last⟩ => ?_, head?_stringSplit_colon⟩
    · rcases getElem?_concat_cases member with earlier | ⟨behind, rfl⟩
      · exact free piece (List.mem_of_getElem? earlier)
      · exact cut.rest_free (by omega)
    · obtain ⟨rfl, rfl⟩ := cut.unique last
      exact absurd ⟨cuts, rfl⟩ atEnd

theorem string_split_pieces_three :
    stringSplit "a::b:".toList [':'] 3 = ["a".toList, [], "b:".toList] ∧
      (1 ≤ (stringSplit "a::b:".toList [':'] 3).length ∧
        (stringSplit "a::b:".toList [':'] 3).length ≤ 3) :=
  ⟨by decide, (string_split_pieces "a::b:".toList (List.cons_ne_nil _ _) (by decide)).1⟩

end QbdiTracer.MemoryScan
