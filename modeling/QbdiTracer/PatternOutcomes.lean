import QbdiTracer.PatternMask
import QbdiTracer.ScanResults

/-! What becomes of a pattern text: the parser stays inside its two parts, a text that it
refuses leaves the units before the error behind, and a text that it accepts can be
searched for if it fixes a whole byte somewhere. -/

namespace QbdiTracer.MemoryScan

open WhileLoop

section Cursors

/-- The states in which a round of the parse loop begins. -/
inductive ParseReached (hasMask : Bool) (start : ParseState) : ParseState → Prop where
  | start : ParseReached hasMask start start
  | again {state next : ParseState} (reached : ParseReached hasMask start state)
      (round : parseRound hasMask state = .ok (.again next)) : ParseReached hasMask start next

/-- Where the parse loop begins. -/
def parseStart (matchStr maskStr : List Char) : ParseState where
  ch := some matchStr
  mh := if maskStr.length ≠ 0 then some maskStr else none
  pattern := {}

/-- The cursors stand in their texts, at the NUL at the latest. -/
structure CursorsInside (matchStr maskStr : List Char) (state : ParseState) : Prop where
  ch : ∃ left, state.ch = some left ∧ left <:+ matchStr
  mh : maskStr.length ≠ 0 → ∃ left, state.mh = some left ∧ left <:+ maskStr

variable {matchStr maskStr : List Char} {state next : ParseState}

theorem takeMask_suffix {left : List Char} {mask : Byte} {rest : Option (List Char)}
    (taken : takeMask (some left) = some (mask, rest)) :
    ∃ after, rest = some after ∧ after <:+ left := by
  obtain ⟨upper, lower, after, skipped, -, -, rfl⟩ := takeMask_some taken
  refine ⟨after, rfl, ?_⟩
  have behind : after <:+ left.dropWhile (· = ' ') := by
    rw [skipped]
    exact (List.suffix_cons lower after).trans (List.suffix_cons upper _)
  exact behind.trans (List.dropWhile_suffix _)

/-- The mask cursor as what is left of the mask part, if there is one. -/
theorem CursorsInside.exists_masks (inside : CursorsInside matchStr maskStr state) :
    ∃ masks : Option (List Char), masks.isSome = decide (maskStr.length ≠ 0) ∧
      (masks.isSome → state.mh = masks) ∧ ∀ left ∈ masks, left <:+ maskStr := by
  by_cases has : maskStr.length ≠ 0
  · obtain ⟨left, here, part⟩ := inside.mh has
    refine ⟨some left, (decide_eq_true has).symm, fun _ => here, fun other same => ?_⟩
    cases same
    exact part
  · exact ⟨none, (decide_eq_false has).symm, nofun, nofun⟩

/-- No round reads past the end of a text, and the next one begins inside again. -/
theorem CursorsInside.round (inside : CursorsInside matchStr maskStr state) :
    ∃ round, parseRound (decide (maskStr.length ≠ 0)) state = .ok round ∧
      ∀ next, round = .again next → CursorsInside matchStr maskStr next := by
  obtain ⟨ch, mh, pattern⟩ := state
  obtain ⟨text, held, suffix⟩ := inside.ch
  obtain rfl : ch = some text := held
  obtain ⟨masks, present, stands, within⟩ := inside.exists_masks
  have hasMask : maskStr.length ≠ 0 ↔ masks.isSome := by rw [present, decide_eq_true_eq]
  rw [← present]
  rcases atEnd_cases stands text pattern with ⟨ended, -⟩ | ⟨goes, first, firstMask⟩
  · exact ⟨_, parseRound_of_end ended, nofun⟩
  · obtain ⟨upper, text, rfl⟩ := exists_cons first
    have rest : text <:+ matchStr := (List.suffix_cons upper text).trans suffix
    rw [parseRound_of_not_end goes]
    by_cases space : upper = ' '
    · rw [if_pos space]
      refine ⟨_, rfl, fun next same => ?_⟩
      cases same
      refine ⟨⟨text, rfl, rest⟩, fun has => ?_⟩
      obtain ⟨left, rfl⟩ := Option.isSome_iff_exists.mp (hasMask.mp has)
      rw [stands rfl]
      obtain ⟨c, left, rfl⟩ := exists_cons (firstMask left rfl)
      exact ⟨left, rfl, (List.suffix_cons c left).trans (within _ rfl)⟩
    · rw [if_neg space]
      cases taken : takeMask masks with
      | none =>
        rw [parseUnit_refused upper text pattern stands taken]
        exact ⟨_, rfl, nofun⟩
      | some found =>
        rcases parseUnit_eq upper text pattern stands taken with
          ⟨parsed, -⟩ | ⟨valid, skipped, parsed, moved⟩
        · rw [parsed]
          exact ⟨_, rfl, nofun⟩
        · rw [parsed]
          have more : text.headD nul ≠ nul := fun null => not_isPatternChar_nul (null ▸ valid.2)
          obtain ⟨lower, text, rfl⟩ := exists_cons more
          refine ⟨_, rfl, fun next same => ?_⟩
          cases same
          refine ⟨⟨text, rfl, (List.suffix_cons lower text).trans rest⟩, fun has => ?_⟩
          obtain ⟨left, rfl⟩ := Option.isSome_iff_exists.mp (hasMask.mp has)
          obtain ⟨after, same, part⟩ := takeMask_suffix taken
          refine ⟨after, ?_, part.trans (within left rfl)⟩
          exact (moved (by rw [same]; rfl)).trans same

theorem cursorsInside_start (matchStr maskStr : List Char) :
    CursorsInside matchStr maskStr (parseStart matchStr maskStr) :=
  ⟨⟨matchStr, rfl, List.suffix_refl _⟩, fun has => ⟨maskStr, if_pos has, List.suffix_refl _⟩⟩

theorem ParseReached.inside (reached : ParseReached (decide (maskStr.length ≠ 0))
    (parseStart matchStr maskStr) state) : CursorsInside matchStr maskStr state := by
  induction reached with
  | start => exact cursorsInside_start matchStr maskStr
  | again reached round ih =>
    obtain ⟨result, same, kept⟩ := ih.round
    rw [same] at round
    exact kept _ (Except.ok.inj round)

/-- On every text the parser comes to an end, and each of its rounds reads inside the
match part and the mask part only. -/
theorem parser_stays_inside (text : List Char) :
    (∃ accepted pattern, memoryScanNew text = .ok (accepted, pattern)) ∧
      ∃ matchStr others, stringSplit text [':'] 2 = matchStr :: others ∧
        ∀ state, ParseReached (decide ((others.headD []).length ≠ 0))
            (parseStart matchStr (others.headD [])) state →
          CursorsInside matchStr (others.headD []) state ∧
            ∃ round, parseRound (decide ((others.headD []).length ≠ 0)) state = .ok round := by
  obtain ⟨matchStr, others, split⟩ := exists_stringSplit text
  refine ⟨⟨_, _, memoryScanNew_eq text⟩, matchStr, others, split, fun state reached => ?_⟩
  obtain ⟨round, same, -⟩ := reached.inside.round
  exact ⟨reached.inside, round, same⟩

end Cursors

section Refused

/-- Behind its spaces the match part begins with a byte unit, and the mask part, if there
is one, with the byte for it. Each space takes a character off the mask part. -/
def BeginsWithUnit (masks : Option (List Char)) (text : List Char) : Prop :=
  ∃ unit rest, text.dropWhile (· = ' ') = ByteUnit.upper unit :: unit.lower :: rest ∧ unit.Valid ∧
    ∀ left ∈ masks, ∃ byte after,
      (left.drop (text.takeWhile (· = ' ')).length).dropWhile (· = ' ') =
        ByteUnit.upper byte :: byte.lower :: after ∧ byte.Digits

variable {masks : Option (List Char)} {text : List Char}

theorem beginsWithUnit_space : BeginsWithUnit masks (' ' :: text) ↔
    BeginsWithUnit (masks.map List.tail) text := by
  simp only [BeginsWithUnit, List.dropWhile_cons, List.takeWhile_cons, decide_true, ↓reduceIte,
    List.length_cons, Option.mem_def, Option.map_eq_some_iff, forall_exists_index, and_imp,
    forall_apply_eq_imp_iff₂, List.drop_tail]

/-- A mask byte is there if the mask part begins with two digits. -/
theorem exists_takeMask_iff :
    (∃ found, takeMask masks = some found) ↔ ∀ left ∈ masks, ∃ byte after,
      left.dropWhile (· = ' ') = ByteUnit.upper byte :: byte.lower :: after ∧ byte.Digits := by
  cases masks with
  | none => simp [takeMask]
  | some left =>
    simp only [Option.mem_def, Option.some.injEq, forall_eq']
    constructor
    · rintro ⟨⟨mask, rest⟩, taken⟩
      obtain ⟨upper, lower, after, skipped, high, low, -⟩ := takeMask_some taken
      exact ⟨⟨upper, lower⟩, after, skipped, high, low⟩
    · rintro ⟨byte, after, skipped, digits⟩
      exact ⟨_, takeMask_digits digits skipped⟩

theorem beginsWithUnit_other {upper : Char} (other : upper ≠ ' ') :
    BeginsWithUnit masks (upper :: text) ↔
      (∃ lower rest, text = lower :: rest ∧ (ByteUnit.mk upper lower).Valid) ∧
        ∃ found, takeMask masks = some found := by
  rw [exists_takeMask_iff, BeginsWithUnit, List.dropWhile_cons_of_neg (by simpa using other),
    List.takeWhile_cons_of_neg (by simpa using other)]
  simp only [List.length_nil, List.drop_zero]
  constructor
  · rintro ⟨⟨high, low⟩, rest, same, valid, mask⟩
    cases same
    exact ⟨⟨low, rest, rfl, valid⟩, mask⟩
  · rintro ⟨⟨low, rest, rfl, valid⟩, mask⟩
    exact ⟨⟨upper, low⟩, rest, rfl, valid, mask⟩

/-- The parser reads a unit before it stops exactly if the text begins with one. -/
theorem readUnits_ne_nil_iff (masks : Option (List Char)) (text : List Char) :
    (readUnits masks text).1 ≠ [] ↔ BeginsWithUnit masks text := by
  fun_induction readUnits masks text with
  | case1 text =>
    refine iff_of_false (fun read => read rfl) ?_
    rintro ⟨unit, rest, -, -, mask⟩
    obtain ⟨byte, after, same, -⟩ := mask [] rfl
    simp at same
  | case2 masks going =>
    refine iff_of_false (fun read => read rfl) ?_
    rintro ⟨unit, rest, same, -⟩
    cases same
  | case3 masks text going ih => rw [beginsWithUnit_space, ih]
  | case4 masks upper going other mask rest lower text taken valid later ih =>
    refine iff_of_true (List.cons_ne_nil _ _) ((beginsWithUnit_other other).mpr ?_)
    exact ⟨⟨lower, text, rfl, valid⟩, _, taken⟩
  | case5 masks upper going other mask rest lower text taken invalid =>
    refine iff_of_false (fun read => read rfl) fun begins => ?_
    obtain ⟨⟨lower, rest, same, valid⟩, -⟩ := (beginsWithUnit_other other).mp begins
    cases same
    exact invalid valid
  | case6 masks upper text going other absent =>
    refine iff_of_false (fun read => read rfl) fun begins => ?_
    obtain ⟨⟨lower, rest, same, -⟩, ⟨mask, left⟩, taken⟩ := (beginsWithUnit_other other).mp begins
    exact absent mask left lower rest taken same

/-- No scan reports a match of the pattern. -/
def ReportsNothing (pattern : MatchPattern) : Prop :=
  ∀ memory base len func,
    (∀ result trace, memoryScan memory base len func pattern = .ok (result, trace) →
      trace.reported = []) ∧
    (∀ trace, memoryScanAsyn memory base len func pattern = .ok trace → trace.reported = []) ∧
    ∀ found trace, memoryScanOnce memory base (base + len) pattern = .ok (found, trace) →
      found = none

/-- What a parse error should leave behind. -/
def LeftUnparsed (pattern : MatchPattern) : Prop :=
  (pattern.tokens = [] ∧ pattern.size = 0 ∧ pattern.byteLen = 0) ∧ ReportsNothing pattern

theorem reportsNothing_of_no_needle {pattern : MatchPattern}
    (none : matchPatternGetLongestToken pattern .exact = none) : ReportsNothing pattern := by
  intro memory base len func
  simp [memoryScan, memoryScanAsyn, memoryScanThread, memoryScanOnce, copyTokens_eq, none]

theorem pushUnits_tokens_nil_iff (units : List MaskedByte) :
    (pushUnits {} units).tokens = [] ↔ units = [] := by
  constructor
  · intro empty
    have flatten := (Built.empty.pushUnits units).flatten
    rw [MatchPattern.flatten, empty, List.nil_append] at flatten
    exact List.map_eq_nil_iff.mp flatten.symm
  · rintro rfl
    rfl

/-- A text that is refused leaves nothing behind exactly if it does not begin with a unit:
the units before the error stay in the pattern. -/
theorem refused_leaves_nothing_iff {text : List Char} {pattern : MatchPattern}
    (refused : memoryScanNew text = .ok (false, pattern)) :
    LeftUnparsed pattern ↔ ¬ BeginsWithUnit (maskText text) (matchText text) := by
  rw [memoryScanNew_eq] at refused
  rw [← readUnits_ne_nil_iff, not_ne_iff]
  generalize readUnits (maskText text) (matchText text) = read at refused
  obtain ⟨units, ended⟩ := read
  have same := Except.ok.inj refused
  obtain rfl : ended = false := congrArg Prod.fst same
  obtain rfl : pushUnits {} units = pattern := congrArg Prod.snd same
  constructor
  · rintro ⟨⟨empty, -⟩, -⟩
    exact (pushUnits_tokens_nil_iff units).mp empty
  · rintro rfl
    exact ⟨⟨rfl, rfl, rfl⟩, reportsNothing_of_no_needle rfl⟩

theorem refused_at_once :
    memoryScanNew "zz".toList = .ok (false, {}) ∧ LeftUnparsed {} := by
  have refused : memoryScanNew "zz".toList = .ok (false, {}) := by decide
  refine ⟨refused, (refused_leaves_nothing_iff refused).mpr ?_⟩
  rw [← readUnits_ne_nil_iff]
  decide

/-- `41 zz` is refused, and then found wherever there is a byte 41. -/
theorem refused_text_found : ∃ pattern trace,
    memoryScanNew "41 zz".toList = .ok (false, pattern) ∧
      memoryScan (held [0x41]) 0x1000 1 (fun _ _ => true) pattern = .ok (true, trace) ∧
      trace.reported = [0x1000] ∧ ¬ LeftUnparsed pattern := by
  refine ⟨⟨[⟨.exact, [0x41], [], 0⟩], 1, 0⟩, ⟨[0x1000], [⟨0x1000, 1⟩]⟩, by decide, by decide, rfl, ?_⟩
  rintro ⟨⟨tokens, -⟩, -⟩
  cases tokens

end Refused

section Needle

/-- Somewhere the text has a unit of two digits under the mask byte `ff`, or without a
mask part. -/
inductive FixesByte : Option (List Char) → List Char → Prop where
  | here {masks rest : Option (List Char)} {text : List Char} {unit : ByteUnit}
      (digits : unit.Digits) (whole : takeMask masks = some (0xff, rest)) :
      FixesByte masks (unit.upper :: unit.lower :: text)
  | unit {masks rest : Option (List Char)} {text : List Char} {mask : Byte} {unit : ByteUnit}
      (valid : unit.Valid) (taken : takeMask masks = some (mask, rest))
      (later : FixesByte rest text) : FixesByte masks (unit.upper :: unit.lower :: text)
  | space {masks : Option (List Char)} {text : List Char} (going : masks ≠ some [])
      (later : FixesByte (masks.map List.tail) text) : FixesByte masks (' ' :: text)

theorem and_eq_ones_iff {left right : Byte} :
    left &&& right = 0xff ↔ left = 0xff ∧ right = 0xff := BitVec.and_eq_allOnes_iff

theorem isPatternChar_digit_iff {c : Char} (char : IsPatternChar c) :
    c ≠ '?' ↔ (hexDigits.lookup c).isSome := by
  constructor
  · exact char.resolve_left
  · rintro digit rfl
    exact absurd digit (by decide)

theorem ByteUnit.Valid.mask_eq_ones_iff {unit : ByteUnit} (valid : unit.Valid) :
    unit.mask = 0xff ↔ unit.Digits := by
  rw [ByteUnit.mask, and_eq_ones_iff, Digits, ← isPatternChar_digit_iff valid.1,
    ← isPatternChar_digit_iff valid.2]
  by_cases upper : unit.upper = '?'
  · simp [upper]
  · by_cases lower : unit.lower = '?'
    · simp [lower]
    · simp [upper, lower]

theorem going_of_takeMask {masks rest : Option (List Char)} {mask : Byte}
    (taken : takeMask masks = some (mask, rest)) : masks ≠ some [] := by
  rintro rfl
  cases taken

/-- The parser reads a whole byte exactly if the text fixes one. -/
theorem exists_whole_iff (masks : Option (List Char)) (text : List Char) :
    (∃ unit ∈ (readUnits masks text).1, unit.mask = 0xff) ↔ FixesByte masks text := by
  constructor
  · fun_induction readUnits masks text with
    | case1 text => simp
    | case2 masks going => simp
    | case3 masks text going ih => exact fun read => .space going (ih read)
    | case4 masks upper going other mask rest lower text taken valid later ih =>
      rintro ⟨unit, member, whole⟩
      rcases List.mem_cons.mp member with rfl | after
      · obtain ⟨rfl, digits⟩ := and_eq_ones_iff.mp whole
        exact @FixesByte.here _ _ _ ⟨upper, lower⟩ (valid.mask_eq_ones_iff.mp digits) taken
      · exact @FixesByte.unit _ _ _ _ ⟨upper, lower⟩ valid taken (ih ⟨unit, after, whole⟩)
    | case5 masks upper going other mask rest lower text taken invalid => simp
    | case6 masks upper text going other absent => simp
  · intro fixes
    induction fixes with
    | here digits whole =>
      rw [readUnits_unit (going_of_takeMask whole) whole digits.valid]
      refine ⟨_, .head _, and_eq_ones_iff.mpr ⟨rfl, ?_⟩⟩
      exact digits.valid.mask_eq_ones_iff.mpr digits
    | unit valid taken later ih =>
      obtain ⟨unit, member, whole⟩ := ih
      rw [readUnits_unit (going_of_takeMask taken) taken valid]
      exact ⟨unit, .tail _ member, whole⟩
    | space going later ih =>
      rw [readUnits_space going]
      exact ih

/-- Every scan of every region comes to an end without a fault. -/
def ScansDefined (pattern : MatchPattern) : Prop :=
  ∀ memory base len func,
    (∃ result, memoryScan memory base len func pattern = .ok result) ∧
    (∃ trace, memoryScanAsyn memory base len func pattern = .ok trace) ∧
    ∃ result, memoryScanOnce memory base (base + len) pattern = .ok result

theorem scansDefined_iff {pattern : MatchPattern} (formed : pattern.WellFormed) :
    ScansDefined pattern ↔ ∃ token ∈ pattern.tokens, token.type = .exact := by
  constructor
  · intro defined
    obtain ⟨⟨result, scanned⟩, -⟩ := defined (fun _ => 0) 0 0 (fun _ _ => true)
    cases longest : matchPatternGetLongestToken pattern .exact with
    | none =>
      rw [memoryScan, longest] at scanned
      cases scanned
    | some needle =>
      obtain ⟨origin, -⟩ := longest_foldl .exact pattern.tokens none
      exact ⟨needle, (origin needle longest).resolve_left (Option.some_ne_none needle).symm⟩
  · intro hasExact memory base len func
    obtain ⟨before, needle, after, layout⟩ := formed.layout hasExact
    obtain ⟨result, trace, scanned, -⟩ := layout.memoryScan_traced memory base len func
    obtain ⟨traceOnce, once, -⟩ := layout.memoryScanOnce_traced memory base len
    refine ⟨⟨_, scanned⟩, ⟨trace, ?_⟩, _, once⟩
    rw [layout.memoryScanAsyn_eq, scanned]
    rfl

/-- A token is exact exactly if it stands for whole bytes. -/
theorem MatchPattern.WellFormed.hasExact_iff {pattern : MatchPattern}
    (formed : pattern.WellFormed) :
    (∃ token ∈ pattern.tokens, token.type = .exact) ↔
      ∃ unit ∈ pattern.flatten, unit.mask = 0xff := by
  constructor
  · rintro ⟨token, member, kind⟩
    have whole := formed.tokens token member
    obtain ⟨byte, held⟩ := List.exists_mem_of_ne_nil _ whole.nonempty
    have inside : MaskedByte.mk byte 0xff ∈ token.units := by
      rw [MatchToken.units, kind]
      exact List.mem_map_of_mem held
    exact ⟨_, List.mem_flatMap.mpr ⟨token, member, inside⟩, rfl⟩
  · rintro ⟨unit, member, ones⟩
    obtain ⟨token, held, inside⟩ := List.mem_flatMap.mp member
    refine ⟨token, held, ?_⟩
    rw [← (formed.tokens token held).typeOfMask_eq unit inside, ones]
    rfl

/-- The scans for an accepted text are defined exactly if the text fixes a whole byte;
otherwise there is no needle. -/
theorem accepted_scans_defined_iff {text : List Char} {pattern : MatchPattern}
    (accepted : memoryScanNew text = .ok (true, pattern)) :
    ScansDefined pattern ↔ FixesByte (maskText text) (matchText text) := by
  rw [memoryScanNew_eq] at accepted
  rw [← exists_whole_iff]
  generalize readUnits (maskText text) (matchText text) = read at accepted
  obtain ⟨units, ended⟩ := read
  have same := Except.ok.inj accepted
  obtain rfl : ended = true := congrArg Prod.fst same
  obtain rfl : matchTokenCmp (pushUnits {} units) = pattern := congrArg Prod.snd same
  obtain ⟨formed, flatten, -⟩ := (Built.empty.pushUnits units).matchTokenCmp
  rw [scansDefined_iff formed, formed.hasExact_iff, flatten, List.nil_append]
  simp only [List.mem_map, exists_exists_and_eq_and, MaskedByte.stored_mask]

theorem accepted_scans_defined_digits : ∃ pattern,
    memoryScanNew "?? 41".toList = .ok (true, pattern) ∧ ScansDefined pattern := by
  have accepted : memoryScanNew "?? 41".toList = .ok (true,
      ⟨[⟨.wildcard, [0x42], [], 0⟩, ⟨.exact, [0x41], [], 1⟩], 2, 2⟩) := by decide
  refine ⟨_, accepted, (accepted_scans_defined_iff accepted).mpr ?_⟩
  rw [← exists_whole_iff]
  exact ⟨⟨0x41, 0xff⟩, by decide, rfl⟩

/-- `?? 4?` is accepted, and every scan for it reads the bytes of a null needle. -/
theorem accepted_without_needle : ∃ pattern,
    memoryScanNew "?? 4?".toList = .ok (true, pattern) ∧ pattern.byteLen = 2 ∧
      (∀ memory base len func,
        memoryScan memory base len func pattern = .error .nullNeedle ∧
          memoryScanAsyn memory base len func pattern = .error .nullNeedle ∧
          memoryScanOnce memory base (base + len) pattern = .error .nullNeedle) ∧
      ¬ ScansDefined pattern := by
  refine ⟨⟨[⟨.wildcard, [0x42], [], 0⟩, ⟨.mask, [0x42], [0xf0], 1⟩], 2, 2⟩, by decide, rfl,
    fun memory base len func => ⟨rfl, rfl, rfl⟩, fun defined => ?_⟩
  obtain ⟨⟨result, scanned⟩, -⟩ := defined (fun _ => 0) 0 0 (fun _ _ => true)
  cases scanned

end Needle

end QbdiTracer.MemoryScan
