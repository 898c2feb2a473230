import QbdiTracer.PatternText
import Mathlib.Data.List.SplitBy

/-! What the compiler makes of a text: a well-formed pattern from any text, and from a
text without a mask part the units that it spells. -/

namespace QbdiTracer.MemoryScan

open WhileLoop

/-- What holds of the parse loop on any text, also one with a NUL inside. -/
structure Parsing (hasMask : Bool) (state : ParseState) : Prop where
  ch : state.ch.isSome
  mh : hasMask → state.mh.isSome
  built : ∃ units, Built state.pattern units

theorem isSome_advance {cursor : TextCursor} (more : ∃ c rest, cursor = some (c :: rest)) :
    cursor.advance.isSome := by
  obtain ⟨c, rest, rfl⟩ := more
  rfl

/-- A round leaves the loop with a well-formed pattern, or goes on with less text. -/
theorem Parsing.round {hasMask : Bool} {state : ParseState} (parsing : Parsing hasMask state) :
    (∃ result, parseRound hasMask state = .ok (.leave result) ∧ result.2.WellFormed) ∨
      ∃ next, parseRound hasMask state = .ok (.again next) ∧ Parsing hasMask next ∧
        (next.ch.getD []).length < (state.ch.getD []).length := by
  obtain ⟨ch, mh, pattern⟩ := state
  obtain ⟨text, rfl⟩ := Option.isSome_iff_exists.mp parsing.ch
  obtain ⟨units, built⟩ := parsing.built
  obtain ⟨masks, present, stands⟩ : ∃ masks : Option (List Char), masks.isSome = hasMask ∧
      (masks.isSome → mh = masks) := by
    cases hasMask with
    | true => exact ⟨mh, parsing.mh rfl, fun _ => rfl⟩
    | false => exact ⟨none, rfl, nofun⟩
  subst present
  rcases atEnd_cases stands text pattern with ⟨ended, -⟩ | ⟨goes, first, firstMask⟩
  · exact .inl ⟨_, parseRound_of_end ended, built.matchTokenCmp.1⟩
  · obtain ⟨upper, text, rfl⟩ := exists_cons first
    rw [parseRound_of_not_end goes]
    by_cases space : upper = ' '
    · rw [if_pos space]
      refine .inr ⟨_, rfl, ⟨rfl, fun held => ?_, units, built⟩, Nat.lt_succ_self _⟩
      obtain ⟨left, rfl⟩ := Option.isSome_iff_exists.mp held
      rw [stands rfl]
      obtain ⟨c, rest, same⟩ := exists_cons (firstMask left rfl)
      exact isSome_advance ⟨c, rest, congrArg _ same⟩
    · rw [if_neg space]
      cases taken : takeMask masks with
      | none =>
        rw [parseUnit_refused upper text pattern stands taken]
        exact .inl ⟨_, rfl, built.formed⟩
      | some found =>
        rcases parseUnit_eq upper text pattern stands taken with
          ⟨parsed, -⟩ | ⟨valid, skipped, parsed, moved⟩
        · rw [parsed]
          exact .inl ⟨_, rfl, built.formed⟩
        · rw [parsed]
          have more : text.headD nul ≠ nul := fun null => not_isPatternChar_nul (null ▸ valid.2)
          obtain ⟨lower, text, rfl⟩ := exists_cons more
          refine .inr ⟨_, rfl, ⟨rfl, fun held => ?_, _, built.pushUnit _⟩, ?_⟩
          · have left := (takeMask_isSome taken).trans held
            rw [moved left]
            exact left
          · exact Nat.lt_add_of_pos_right Nat.zero_lt_two

/-- The loop is left with a well-formed pattern. -/
def LeavesFormed (_ : ParseState) (result : Except ScanFault (Bool × MatchPattern)) : Prop :=
  ∃ found, result = .ok found ∧ found.2.WellFormed

theorem Parsing.iterate {hasMask : Bool} {start : ParseState} (parsing : Parsing hasMask start)
    {fuel : ℕ} (enough : (start.ch.getD []).length < fuel) :
    ∃ result, WhileLoop.iterate (fun state => .ofExcept (parseRound hasMask state)) fuel start =
      some (.ok result) ∧ result.2.WellFormed := by
  have total : ∃ result, WhileLoop.iterate (fun state => .ofExcept (parseRound hasMask state))
      fuel start = some result ∧ LeavesFormed start result := by
    refine iterate_total (Parsing hasMask) (fun state => (state.ch.getD []).length)
      LeavesFormed ?_ parsing enough
    intro state here
    rcases here.round with ⟨found, left, formed⟩ | ⟨next, goes, kept, lower⟩
    · exact .inl ⟨.ok found, by rw [left]; rfl, found, rfl, formed⟩
    · exact .inr ⟨next, by rw [goes]; rfl, kept, lower, fun _ met => met⟩
  obtain ⟨_, ended, found, rfl, formed⟩ := total
  exact ⟨found, ended, formed⟩

theorem exists_stringSplit (text : List Char) :
    ∃ matchStr others, stringSplit text [':'] 2 = matchStr :: others := by
  by_cases colon : ':' ∈ text
  · obtain ⟨before, masks, rfl, noColon⟩ := List.eq_append_cons_of_mem colon
    rw [stringSplit_two noColon]
    split
    · exact ⟨_, _, rfl⟩
    · exact ⟨_, _, rfl⟩
  · exact ⟨_, _, stringSplit_one colon⟩

/-- The compiler comes to an end on every text, and the pattern that it leaves is well
formed, also after a parse error. -/
theorem memoryScanNew_formed (text : List Char) :
    ∃ accepted pattern, memoryScanNew text = .ok (accepted, pattern) ∧ pattern.WellFormed := by
  obtain ⟨matchStr, others, split⟩ := exists_stringSplit text
  rw [memoryScanNew, matchPatternNewFromString, split]
  simp only
  generalize others.headD [] = masks
  have parsing : Parsing (decide (masks.length ≠ 0))
      ⟨some matchStr, if masks.length ≠ 0 then some masks else none, {}⟩ := by
    refine ⟨rfl, fun held => ?_, [], Built.empty⟩
    rw [decide_eq_true_eq] at held
    rw [if_pos held]
    rfl
  obtain ⟨⟨accepted, pattern⟩, ended, formed⟩ := parsing.iterate (Nat.lt_succ_self _)
  exact ⟨accepted, pattern, congrArg (·.getD (.error .unfinished)) ended, formed⟩

/-! The texts that are accepted. -/

/-- The texts of the form `(spaces* unit)* spaces*`, with their units. -/
inductive Spells : List Char → List ByteUnit → Prop where
  | nil : Spells [] []
  | space {text : List Char} {units : List ByteUnit} (rest : Spells text units) :
      Spells (' ' :: text) units
  | unit {text : List Char} {units : List ByteUnit} (unit : ByteUnit) (valid : unit.Valid)
      (rest : Spells text units) : Spells (unit.upper :: unit.lower :: text) (unit :: units)

theorem Spells.readUnits_eq {text : List Char} {units : List ByteUnit} (spells : Spells text units) :
    readUnits none text = (units.map ByteUnit.masked, true) := by
  induction spells with
  | nil => rfl
  | space rest ih => exact (readUnits_space (Option.some_ne_none _).symm _).trans ih
  | unit unit valid rest ih =>
    rw [readUnits_unit (Option.some_ne_none _).symm rfl valid, ih, ByteUnit.under_ones]
    rfl

theorem exists_spells {masks : Option (List Char)} {text : List Char} (plain : masks = none)
    (accepted : (readUnits masks text).2 = true) : ∃ units, Spells text units := by
  fun_induction readUnits masks text with
  | case1 text => cases plain
  | case2 masks going => exact ⟨[], .nil⟩
  | case3 masks text going ih =>
    subst plain
    obtain ⟨units, spells⟩ := ih rfl accepted
    exact ⟨units, .space spells⟩
  | case4 masks upper going other mask rest lower text taken valid later ih =>
    subst plain
    cases taken
    obtain ⟨units, spells⟩ := ih rfl accepted
    exact ⟨_, .unit ⟨upper, lower⟩ valid spells⟩
  | case5 masks upper going other mask rest lower text taken invalid => cases accepted
  | case6 masks upper text going other absent => cases accepted

/-- Two byte positions that go into tokens of the same type. -/
def sameType (left right : MaskedByte) : Bool := typeOfMask left.mask = typeOfMask right.mask

theorem MatchToken.WellFormed.typeOfMask_eq {token : MatchToken} (formed : token.WellFormed) :
    ∀ unit ∈ token.units, typeOfMask unit.mask = token.type := by
  intro unit member
  unfold units at member
  cases kind : token.type with
  | exact =>
    rw [kind] at member
    obtain ⟨byte, -, rfl⟩ := List.mem_map.mp member
    rfl
  | wildcard =>
    rw [kind] at member
    obtain ⟨byte, -, rfl⟩ := List.mem_map.mp member
    rfl
  | mask =>
    rw [kind] at member
    obtain ⟨i, inside, rfl⟩ := List.mem_iff_getElem.mp member
    rw [List.getElem_zipWith]
    exact typeOfMask_eq_mask_iff.mpr (formed.partly _ (List.getElem_mem _))

/-- The tokens are the maximal runs of byte positions of one type. -/
theorem MatchPattern.WellFormed.units_eq_splitBy {pattern : MatchPattern}
    (formed : pattern.WellFormed) :
    pattern.tokens.map MatchToken.units = pattern.flatten.splitBy sameType := by
  have nonempty : ∀ token ∈ pattern.tokens, token.units ≠ [] := by
    intro token member empty
    have bytes := (formed.tokens token member).length_units
    rw [empty, List.length_nil] at bytes
    exact (formed.tokens token member).nonempty (List.length_eq_zero_iff.mp bytes.symm)
  rw [MatchPattern.flatten, List.flatMap_def, List.splitBy_flatten]
  · intro empty
    obtain ⟨token, member, none⟩ := List.mem_map.mp empty
    exact nonempty token member none
  · intro run member
    obtain ⟨token, held, rfl⟩ := List.mem_map.mp member
    have kind := (formed.tokens token held).typeOfMask_eq
    refine List.Pairwise.isChain (List.pairwise_of_forall_mem_list ?_)
    intro left leftIn right rightIn
    simp [sameType, kind left leftIn, kind right rightIn]
  · rw [List.isChain_map]
    refine formed.adjacent.imp_of_mem_imp fun left right leftIn rightIn differ => ?_
    refine ⟨nonempty left leftIn, nonempty right rightIn, ?_⟩
    have leftKind := (formed.tokens left leftIn).typeOfMask_eq _
      (List.getLast_mem (nonempty left leftIn))
    have rightKind := (formed.tokens right rightIn).typeOfMask_eq _
      (List.head_mem (nonempty right rightIn))
    simpa [sameType, leftKind, rightKind] using differ

/-- What a text with the given units is compiled to. -/
structure Compiled (pattern : MatchPattern) (units : List ByteUnit) : Prop where
  byteLen : pattern.byteLen = units.length
  size : pattern.size = pattern.tokens.length
  offset : ∀ i (inside : i < pattern.tokens.length), pattern.tokens[i].offset = i
  masks : ∀ token ∈ pattern.tokens,
    token.masks.length = if token.type = .mask then token.bytes.length else 0
  types : (pattern.tokens.flatMap fun token => token.bytes.map fun _ => token.type) =
    units.map ByteUnit.type
  runs : pattern.tokens.map MatchToken.units = (units.map ByteUnit.masked).splitBy sameType
  flatten : pattern.flatten = units.map ByteUnit.masked

theorem MatchPattern.WellFormed.types_eq {pattern : MatchPattern} (formed : pattern.WellFormed) :
    (pattern.tokens.flatMap fun token => token.bytes.map fun _ => token.type) =
      pattern.flatten.map fun unit => typeOfMask unit.mask := by
  rw [MatchPattern.flatten, List.map_flatMap]
  refine List.flatMap_congr fun token member => ?_
  have kinds := formed.tokens token member
  rw [List.map_const', List.map_congr_left kinds.typeOfMask_eq, List.map_const',
    kinds.length_units]

theorem Spells.compiled {text : List Char} {units : List ByteUnit} (spells : Spells text units) :
    Compiled (finish {} (readUnits none text)).2 units := by
  have built : Built (pushUnits {} (units.map ByteUnit.masked)) (units.map ByteUnit.masked) :=
    Built.empty.pushUnits _
  obtain ⟨formed, flatten, byteLen⟩ := built.matchTokenCmp
  have stored : (units.map ByteUnit.masked).map MaskedByte.stored = units.map ByteUnit.masked := by
    rw [List.map_map]
    exact List.map_congr_left fun unit _ => unit.stored_masked
  rw [stored] at flatten
  rw [spells.readUnits_eq]
  refine ⟨byteLen.trans (List.length_map ..), formed.size, formed.offset,
    fun token member => (formed.tokens token member).masks, ?_, ?_, flatten⟩
  · apply formed.types_eq.trans
    rw [flatten, List.map_map]
    exact List.map_congr_left fun unit _ => unit.typeOfMask_mask
  · exact formed.units_eq_splitBy.trans (congrArg _ flatten)

/-- A text without a mask part is accepted exactly when it spells byte units, and
is then compiled to them. -/
theorem memoryScanNew_spells {text : List Char} (noNul : nul ∉ text) (noColon : ':' ∉ text) :
    ∃ accepted pattern, memoryScanNew text = .ok (accepted, pattern) ∧
      (accepted = true ↔ ∃ units, Spells text units) ∧
      ∀ units, Spells text units → Compiled pattern units := by
  refine ⟨_, _, memoryScanNew_plain noNul noColon, ⟨exists_spells rfl, ?_⟩, ?_⟩
  · rintro ⟨units, spells⟩
    rw [spells.readUnits_eq]
  · exact fun units spells => spells.compiled

/-- `41 4? ??` has a token of each type. -/
theorem memoryScanNew_spells_types : ∃ pattern,
    memoryScanNew "41 4? ??".toList = .ok (true, pattern) ∧
      Compiled pattern [⟨'4', '1'⟩, ⟨'4', '?'⟩, ⟨'?', '?'⟩] := by
  have spells : Spells "41 4? ??".toList [⟨'4', '1'⟩, ⟨'4', '?'⟩, ⟨'?', '?'⟩] :=
    .unit ⟨'4', '1'⟩ (by decide) <| .space <| .unit ⟨'4', '?'⟩ (by decide) <| .space <|
      .unit ⟨'?', '?'⟩ (by decide) .nil
  have noNul : nul ∉ "41 4? ??".toList := by decide
  have noColon : ':' ∉ "41 4? ??".toList := by decide
  obtain ⟨accepted, pattern, result, exactly, compiled⟩ := memoryScanNew_spells noNul noColon
  rw [exactly.mpr ⟨_, spells⟩] at result
  exact ⟨pattern, result, compiled _ spells⟩

end QbdiTracer.MemoryScan
