import QbdiTracer.ScanResults
import Mathlib.Logic.Function.Basic

/-! The reported addresses against the full matches of the pattern. A flag that is
overwritten by each token, a search that goes on behind the whole needle after a
rejected candidate, and tests that know no region: each decides for which patterns
and memories the scan is right. -/

namespace QbdiTracer.MemoryScan

open GreedySearch

/-- A token that is compared at all. -/
def MatchToken.isChecked (token : MatchToken) : Bool := token.type ≠ .wildcard

section Tokens

variable {memory : Memory} {tokens : List MatchToken} {token : MatchToken}

theorem length_flatMap_units (formed : ∀ token ∈ tokens, token.WellFormed) :
    (tokens.flatMap MatchToken.units).length = tokensLength tokens := by
  rw [List.length_flatMap]
  unfold tokensLength
  congr 1
  refine List.map_congr_left fun token member => ?_
  exact (formed token member).length_units

theorem tokensLength_cons (token : MatchToken) (tokens : List MatchToken) :
    tokensLength (token :: tokens) = token.bytes.length + tokensLength tokens := by
  simp [tokensLength]

theorem flagAfter_checked (checked : token.isChecked = true) (data : ℤ) (pass : Bool) :
    flagAfter memory token data pass = decide (MatchesAt memory data token.units) := by
  have kind : token.type ≠ .wildcard := of_decide_eq_true checked
  simp [flagAfter, kind]

theorem flagAfter_unchecked (unchecked : token.isChecked = false) (data : ℤ) (pass : Bool) :
    flagAfter memory token data pass = pass ∧ MatchesAt memory data token.units := by
  have kind : token.type = .wildcard := not_not.mp (of_decide_eq_false unchecked)
  exact ⟨by simp [flagAfter, kind], token.matchesAt_wildcard kind memory data⟩

theorem matchesAt_tokens_cons (formed : token.WellFormed) (start : ℤ) :
    MatchesAt memory start ((token :: tokens).flatMap MatchToken.units) ↔
      MatchesAt memory start token.units ∧
        MatchesAt memory (start + token.bytes.length) (tokens.flatMap MatchToken.units) := by
  rw [List.flatMap_cons, matchesAt_append, formed.length_units]

/-- Wildcards match everywhere, and leave the flags alone. -/
theorem unchecked_tokens (formed : ∀ token ∈ tokens, token.WellFormed)
    (unchecked : tokens.countP MatchToken.isChecked = 0) (start : ℤ) :
    MatchesAt memory start (tokens.flatMap MatchToken.units) ∧
      ∀ pass, passAfter memory tokens start pass = pass := by
  induction tokens generalizing start with
  | nil => exact ⟨matchesAt_nil, fun pass => rfl⟩
  | cons token rest ih =>
    have none := List.countP_eq_zero.mp unchecked
    have wild : token.isChecked = false := Bool.eq_false_iff.mpr (none token List.mem_cons_self)
    obtain ⟨others, flags⟩ := ih (fun other member => formed other (List.mem_cons_of_mem _ member))
      (List.countP_eq_zero.mpr fun other member => none other (List.mem_cons_of_mem _ member))
      (start + token.bytes.length)
    refine ⟨(matchesAt_tokens_cons (formed token List.mem_cons_self) start).mpr
      ⟨(flagAfter_unchecked wild start true).2, others⟩, fun pass => ?_⟩
    rw [passAfter, (flagAfter_unchecked wild start pass).1, flags]

/-- With a single token to compare, `pass_before` speaks for all of them. -/
theorem matches_of_passBefore (formed : ∀ token ∈ tokens, token.WellFormed)
    (single : tokens.countP MatchToken.isChecked ≤ 1) {stop : ℤ}
    (passes : passBefore memory tokens stop true = true) :
    MatchesAt memory (stop - tokensLength tokens) (tokens.flatMap MatchToken.units) := by
  induction tokens with
  | nil => exact matchesAt_nil
  | cons token rest ih =>
    have restFormed : ∀ other ∈ rest, other.WellFormed :=
      fun other member => formed other (List.mem_cons_of_mem _ member)
    have place : stop - tokensLength (token :: rest) + token.bytes.length =
        stop - tokensLength rest := by
      rw [tokensLength_cons]
      push_cast
      omega
    rw [matchesAt_tokens_cons (formed token List.mem_cons_self), place]
    rw [passBefore] at passes
    cases checked : token.isChecked with
    | false =>
      obtain ⟨flag, wild⟩ := flagAfter_unchecked checked (stop - tokensLength (token :: rest))
        (passBefore memory rest stop true)
      rw [flag] at passes
      rw [List.countP_cons_of_neg (by simp [checked])] at single
      exact ⟨wild, ih restFormed single passes⟩
    | true =>
      rw [flagAfter_checked checked] at passes
      rw [List.countP_cons_of_pos checked] at single
      exact ⟨of_decide_eq_true passes, (unchecked_tokens restFormed (by omega) _).1⟩

theorem matches_of_passAfter (formed : ∀ token ∈ tokens, token.WellFormed)
    (single : tokens.countP MatchToken.isChecked ≤ 1) {start : ℤ} {pass : Bool}
    (passes : passAfter memory tokens start pass = true) :
    MatchesAt memory start (tokens.flatMap MatchToken.units) := by
  induction tokens generalizing start with
  | nil => exact matchesAt_nil
  | cons token rest ih =>
    have restFormed : ∀ other ∈ rest, other.WellFormed :=
      fun other member => formed other (List.mem_cons_of_mem _ member)
    rw [matchesAt_tokens_cons (formed token List.mem_cons_self)]
    rw [passAfter] at passes
    cases checked : token.isChecked with
    | false =>
      obtain ⟨flag, wild⟩ := flagAfter_unchecked checked start pass
      rw [flag] at passes
      rw [List.countP_cons_of_neg (by simp [checked])] at single
      exact ⟨wild, ih restFormed single passes⟩
    | true =>
      rw [List.countP_cons_of_pos checked] at single
      obtain ⟨others, flags⟩ := unchecked_tokens restFormed (by omega) (start + token.bytes.length)
      rw [flags, flagAfter_checked checked] at passes
      exact ⟨of_decide_eq_true passes, others⟩

/-- `pass_before` if the tokens from the left match, and one of them is compared
or the others pass. -/
theorem passBefore_of_leading {leading : List MatchToken}
    (formed : ∀ token ∈ leading, token.WellFormed) {stop : ℤ} {pass : Bool}
    (passes : passBefore memory tokens stop pass = true ∨ leading.any MatchToken.isChecked)
    (matched : MatchesAt memory (stop - tokensLength (leading ++ tokens))
      (leading.flatMap MatchToken.units)) :
    passBefore memory (leading ++ tokens) stop pass = true := by
  induction leading with
  | nil => exact passes.resolve_right (by simp)
  | cons token rest ih =>
    rw [matchesAt_tokens_cons (formed token List.mem_cons_self)] at matched
    rw [List.cons_append, passBefore]
    cases here : token.isChecked with
    | true =>
      rw [flagAfter_checked here]
      exact decide_eq_true matched.1
    | false =>
      rw [(flagAfter_unchecked here _ _).1]
      refine ih (fun other member => formed other (List.mem_cons_of_mem _ member))
        (by simpa [here] using passes) ?_
      have place : stop - tokensLength (token :: rest ++ tokens) + token.bytes.length =
          stop - tokensLength (rest ++ tokens) := by
        rw [List.cons_append, tokensLength_cons]
        push_cast
        omega
      rw [← place]
      exact matched.2

theorem passAfter_of_matches (formed : ∀ token ∈ tokens, token.WellFormed) {start : ℤ} {pass : Bool}
    (passes : pass = true ∨ tokens.any MatchToken.isChecked)
    (matched : MatchesAt memory start (tokens.flatMap MatchToken.units)) :
    passAfter memory tokens start pass = true := by
  induction tokens generalizing start pass with
  | nil => exact passes.resolve_right (by simp)
  | cons token rest ih =>
    obtain ⟨here, later⟩ := (matchesAt_tokens_cons (formed token List.mem_cons_self) start).mp matched
    rw [passAfter]
    refine ih (fun other member => formed other (List.mem_cons_of_mem _ member)) ?_ later
    cases checked : token.isChecked with
    | true =>
      rw [flagAfter_checked checked]
      exact .inl (decide_eq_true here)
    | false =>
      rw [(flagAfter_unchecked checked start pass).1]
      simpa [checked] using passes

/-- The tokens to the left of a compared one do not decide `pass_after`. -/
theorem passAfter_of_trailing (leading : List MatchToken) {trailing : List MatchToken}
    (formed : ∀ token ∈ trailing, token.WellFormed) (checked : trailing.any MatchToken.isChecked)
    {start : ℤ} (pass : Bool) (matched : MatchesAt memory (start + tokensLength leading)
      (trailing.flatMap MatchToken.units)) :
    passAfter memory (leading ++ trailing) start pass = true := by
  induction leading generalizing start pass with
  | nil =>
    rw [tokensLength, List.map_nil, List.sum_nil, Int.natCast_zero, Int.add_zero] at matched
    exact passAfter_of_matches formed (.inr checked) matched
  | cons token rest ih =>
    rw [List.cons_append, passAfter]
    apply ih _
    rw [tokensLength_cons, Int.natCast_add, ← Int.add_assoc] at matched
    exact matched

end Tokens

namespace Layout

variable {pattern : MatchPattern} {before after : List MatchToken} {needle : MatchToken}

theorem beforeFormed (layout : Layout pattern before needle after) :
    ∀ token ∈ before, token.WellFormed := by
  intro token member
  exact layout.formed.tokens token (by rw [layout.split]; exact List.mem_append_left _ member)

theorem afterFormed (layout : Layout pattern before needle after) :
    ∀ token ∈ after, token.WellFormed := by
  intro token member
  apply layout.formed.tokens token
  rw [layout.split]
  exact List.mem_append_right _ (List.mem_cons_of_mem _ member)

/-- The extent of a match is that of the tokens around the needle. -/
theorem span_eq (layout : Layout pattern before needle after) :
    pattern.span = tokensLength before + needle.bytes.length + tokensLength after := by
  rw [MatchPattern.span, MatchPattern.flatten, length_flatMap_units layout.formed.tokens,
    layout.split, tokensLength_append, tokensLength_cons, Nat.add_assoc]

/-- A full match around a needle at `cur`, token by token. -/
theorem matchesAt_iff (layout : Layout pattern before needle after) (memory : Memory) (cur : ℤ) :
    MatchesAt memory (cur - tokensLength before) pattern.flatten ↔
      MatchesAt memory (cur - tokensLength before) (before.flatMap MatchToken.units) ∧
      memcmp memory cur needle.bytes = true ∧
      MatchesAt memory (cur + needle.bytes.length) (after.flatMap MatchToken.units) := by
  have needleFormed := layout.formed.tokens needle layout.mem_needle
  rw [MatchPattern.flatten, layout.split, List.flatMap_append, matchesAt_append,
    length_flatMap_units layout.beforeFormed, matchesAt_tokens_cons needleFormed,
    memcmp_exact memory layout.exact, decide_eq_true_iff, Int.sub_add_cancel]

/-- A full match passes both tests. -/
theorem accepts_of_matches (layout : Layout pattern before needle after) {memory : Memory} {cur : ℤ}
    (matched : MatchesAt memory (cur - tokensLength before) pattern.flatten) :
    memcmp memory cur needle.bytes = true ∧ accepts memory before needle after cur = true := by
  obtain ⟨ahead, found, behind⟩ := (layout.matchesAt_iff memory cur).mp matched
  refine ⟨found, ?_⟩
  unfold accepts
  rw [Bool.and_eq_true]
  constructor
  · have leading : passBefore memory (before ++ []) cur true = true :=
      passBefore_of_leading layout.beforeFormed (.inl rfl) (by rw [List.append_nil]; exact ahead)
    rwa [List.append_nil] at leading
  · exact passAfter_of_matches layout.afterFormed (.inl rfl) behind

/-- Both tests together, when each side has at most one token to compare. -/
theorem matches_of_accepts (layout : Layout pattern before needle after) {memory : Memory} {cur : ℤ}
    (singleBefore : before.countP MatchToken.isChecked ≤ 1)
    (singleAfter : after.countP MatchToken.isChecked ≤ 1)
    (found : memcmp memory cur needle.bytes = true)
    (accepted : accepts memory before needle after cur = true) :
    MatchesAt memory (cur - tokensLength before) pattern.flatten := by
  unfold accepts at accepted
  rw [Bool.and_eq_true] at accepted
  refine (layout.matchesAt_iff memory cur).mpr ⟨?_, found, ?_⟩
  · exact matches_of_passBefore layout.beforeFormed singleBefore accepted.1
  · exact matches_of_passAfter layout.afterFormed singleAfter accepted.2

end Layout

/-- An address that one of the three scans reports. -/
def Reported (memory : Memory) (pattern : MatchPattern) (base : ℤ) (len : ℕ) (func : Callback)
    (address : ℤ) : Prop :=
  (∃ result trace, memoryScan memory base len func pattern = .ok (result, trace) ∧
    address ∈ trace.reported) ∨
  (∃ trace, memoryScanAsyn memory base len func pattern = .ok trace ∧ address ∈ trace.reported) ∨
  ∃ trace, memoryScanOnce memory base (base + len) pattern = .ok (some address, trace)

namespace Layout

variable {memory : Memory} {pattern : MatchPattern} {before after : List MatchToken}
  {needle : MatchToken} {base address : ℤ} {len : ℕ} {func : Callback}

/-- The scans report hits. -/
theorem mem_hits_of_reported (layout : Layout pattern before needle after)
    (reported : Reported memory pattern base len func address) :
    address ∈ hits memory before needle after base len := by
  obtain ⟨result, scan, scanned, traced⟩ := layout.memoryScan_traced memory base len func
  have calls : ∀ address ∈ scan.reported, address ∈ hits memory before needle after base len := by
    intro address member
    rw [traced.reported, List.nil_append] at member
    exact (callsOn_beginning _ _).subset member
  rcases reported with ⟨_, trace, same, member⟩ | ⟨trace, same, member⟩ | ⟨trace, same⟩
  · cases scanned.symm.trans same
    exact calls address member
  · rw [layout.memoryScanAsyn_eq memory base len func, scanned] at same
    cases same
    exact calls address member
  · obtain ⟨once, found, -⟩ := layout.memoryScanOnce_traced memory base len
    have first := congrArg Prod.fst (Except.ok.inj (found.symm.trans same))
    exact List.mem_of_head? first

/-- With a callback that goes on, `memory_scan` reports every hit. -/
theorem memoryScan_always (layout : Layout pattern before needle after) (memory : Memory) (base : ℤ)
    (len : ℕ) :
    ∃ result trace, memoryScan memory base len (fun _ _ => true) pattern = .ok (result, trace) ∧
      trace.reported = hits memory before needle after base len := by
  obtain ⟨result, trace, scanned, traced⟩ :=
    layout.memoryScan_traced memory base len fun _ _ => true
  refine ⟨result, trace, scanned, ?_⟩
  rw [traced.reported, callsOn_always]
  rfl

end Layout

/-- A memory that holds the values of the byte positions at `start`, and `fill`
before and after them. -/
def painted (units : List MaskedByte) (start : ℤ) (fill : Byte) : Memory := fun address =>
  if start ≤ address then (units[(address - start).toNat]?.map MaskedByte.value).getD fill else fill

theorem painted_matches (units : List MaskedByte) (start : ℤ) (fill : Byte) :
    MatchesAt (painted units start fill) start units := by
  intro i inside
  have place : (start + i - start).toNat = i := by omega
  have here : start ≤ start + (i : ℤ) := by omega
  rw [painted, if_pos here, place]
  simp [inside]

theorem painted_before {units : List MaskedByte} {start address : ℤ} {fill : Byte}
    (before : address < start) : painted units start fill address = fill := by
  have outside : ¬ start ≤ address := by omega
  simp [painted, outside]

/-- A byte outside the positions does not matter. -/
theorem matchesAt_update {memory : Memory} {start place : ℤ} {units : List MaskedByte}
    (outside : place < start ∨ start + units.length ≤ place) (byte : Byte) :
    MatchesAt (Function.update memory place byte) start units ↔ MatchesAt memory start units := by
  refine forall₂_congr fun i inside => ?_
  have other : start + (i : ℤ) ≠ place := by omega
  rw [Function.update_of_ne other]

theorem complement_differs {value mask : Byte} (same : ~~~value &&& mask = value &&& mask) :
    mask = 0 := by
  ext i inside
  have bit := congrArg (fun byte : Byte => byte.getLsbD i) same
  simp only [BitVec.getLsbD_and, BitVec.getLsbD_not, inside, decide_true, Bool.true_and] at bit
  rw [← BitVec.getLsbD_eq_getElem, ← BitVec.getLsbD_eq_getElem]
  cases high : value.getLsbD i <;> simp_all

/-- The first byte position of a compared token has a mask. -/
theorem MatchToken.WellFormed.first_unit {token : MatchToken} (formed : token.WellFormed)
    (checked : token.isChecked = true) :
    ∃ unit rest, token.units = unit :: rest ∧ unit.mask ≠ 0 := by
  obtain ⟨byte, bytes, split⟩ := List.exists_cons_of_ne_nil formed.nonempty
  unfold MatchToken.isChecked at checked
  unfold MatchToken.units
  cases kind : token.type with
  | wildcard => simp [kind] at checked
  | exact => exact ⟨⟨byte, 0xff⟩, bytes.map (⟨·, 0xff⟩), by rw [split]; rfl,
      (by decide : (0xff : Byte) ≠ 0)⟩
  | mask =>
    have masks := formed.masks
    rw [kind, if_pos rfl, split] at masks
    cases held : token.masks with
    | nil => simp [held] at masks
    | cons mask others =>
      refine ⟨⟨byte, mask⟩, List.zipWith MaskedByte.mk bytes others, by rw [split]; rfl, ?_⟩
      exact (formed.partly mask (by rw [held]; exact List.mem_cons_self)).1

/-- A memory in which exactly one compared token of the pattern fails to match. -/
theorem MatchPattern.WellFormed.spoiled {pattern : MatchPattern} (formed : pattern.WellFormed)
    {leading trailing : List MatchToken} {token : MatchToken}
    (split : pattern.tokens = leading ++ token :: trailing) (checked : token.isChecked = true) :
    ∃ memory, MatchesAt memory 0 (leading.flatMap MatchToken.units) ∧
      MatchesAt memory (tokensLength (leading ++ [token])) (trailing.flatMap MatchToken.units) ∧
      ¬ MatchesAt memory 0 pattern.flatten := by
  have members := formed.tokens
  rw [split] at members
  have leadingFormed : ∀ other ∈ leading, other.WellFormed :=
    fun other member => members other (List.mem_append_left _ member)
  have tokenFormed := members token (List.mem_append_right _ List.mem_cons_self)
  obtain ⟨unit, units, first, masked⟩ := tokenFormed.first_unit checked
  have length := tokenFormed.length_units
  have nonempty := List.length_pos_iff.mpr tokenFormed.nonempty
  let place : ℤ := tokensLength leading
  -- all tokens match in the painted memory; then the first byte of the token is changed
  have all := painted_matches pattern.flatten 0 0
  have parts : ∀ memory : Memory, MatchesAt memory 0 pattern.flatten ↔
      MatchesAt memory 0 (leading.flatMap MatchToken.units) ∧ MatchesAt memory place token.units ∧
        MatchesAt memory (tokensLength (leading ++ [token])) (trailing.flatMap MatchToken.units) := by
    intro memory
    have behind : place + token.bytes.length = (tokensLength (leading ++ [token]) : ℕ) := by
      rw [tokensLength_append, tokensLength_cons]
      simp only [tokensLength, List.map_nil, List.sum_nil, place]
      omega
    rw [MatchPattern.flatten, split, List.flatMap_append, matchesAt_append,
      length_flatMap_units leadingFormed, Int.zero_add, matchesAt_tokens_cons tokenFormed, behind]
  obtain ⟨ahead, -, behind⟩ := (parts _).mp all
  refine ⟨Function.update (painted pattern.flatten 0 0) place (~~~unit.value), ?_, ?_, ?_⟩
  · refine (matchesAt_update (.inr ?_) _).mpr ahead
    rw [length_flatMap_units leadingFormed]
    omega
  · refine (matchesAt_update (.inl ?_) _).mpr behind
    rw [tokensLength_append, tokensLength_cons]
    omega
  · rw [parts, first, matchesAt_cons]
    rintro ⟨-, ⟨same, -⟩, -⟩
    rw [Function.update_self] at same
    exact masked (complement_differs same)

/-- Two of the tokens on one side are compared. -/
theorem exists_two_checked {tokens : List MatchToken}
    (two : 1 < tokens.countP MatchToken.isChecked) :
    ∃ first left middle right last, tokens = first ++ left :: (middle ++ right :: last) ∧
      left.isChecked = true ∧ right.isChecked = true := by
  rw [List.countP_eq_length_filter] at two
  match found : tokens.filter MatchToken.isChecked with
  | [] => simp [found] at two
  | [_] => simp [found] at two
  | left :: right :: others =>
    obtain ⟨first, rest, split, -, leftChecked, later⟩ := List.filter_eq_cons_iff.mp found
    obtain ⟨middle, last, splitRest, -, rightChecked, -⟩ := List.filter_eq_cons_iff.mp later
    exact ⟨first, left, middle, right, last, by rw [split, splitRest], leftChecked, rightChecked⟩

/-- At most one token on each side of the needle is not a wildcard. -/
def MatchPattern.OneCheckedEachSide (pattern : MatchPattern) : Prop :=
  ∀ needle ∈ matchPatternGetLongestToken pattern .exact,
    (pattern.tokens.take needle.offset).countP MatchToken.isChecked ≤ 1 ∧
      (pattern.tokens.drop (needle.offset + 1)).countP MatchToken.isChecked ≤ 1

namespace Layout

variable {memory : Memory} {pattern : MatchPattern} {before after : List MatchToken}
  {needle : MatchToken}

theorem oneCheckedEachSide_iff (layout : Layout pattern before needle after) :
    pattern.OneCheckedEachSide ↔ before.countP MatchToken.isChecked ≤ 1 ∧
      after.countP MatchToken.isChecked ≤ 1 := by
  have takeBefore : pattern.tokens.take before.length = before := by simp [layout.split]
  have dropAfter : pattern.tokens.drop (before.length + 1) = after := by simp [layout.split]
  simp [MatchPattern.OneCheckedEachSide, layout.longest, layout.offset, takeBefore, dropAfter]

/-- The region that is just the needle makes it the only candidate. -/
theorem reported_at_needle (layout : Layout pattern before needle after) {cur : ℤ}
    (found : memcmp memory cur needle.bytes = true)
    (accepted : accepts memory before needle after cur = true) :
    Reported memory pattern cur needle.bytes.length (fun _ _ => true)
      (cur - tokensLength before) := by
  obtain ⟨result, trace, scanned, all⟩ :=
    layout.memoryScan_always memory cur needle.bytes.length
  refine .inl ⟨result, trace, scanned, ?_⟩
  rw [all, mem_hits_iff, Int.sub_add_cancel]
  refine ⟨?_, accepted⟩
  rcases candidates_cover layout.needle_pos (Int.le_refl cur) (Int.le_refl _) found with
    picked | ⟨earlier, picked, below, -⟩
  · exact picked
  · have above := (mem_candidates layout.needle_pos picked).1
    omega

/-- If only full matches are reported, a needle whose two sides pass their tests is part
of one. -/
theorem matches_of_passes (layout : Layout pattern before needle after)
    (sound : ∀ memory base len func address, Reported memory pattern base len func address →
      MatchesAt memory address pattern.flatten)
    (found : MatchesAt memory (tokensLength before) needle.units)
    (ahead : passBefore memory before (tokensLength before) true = true)
    (behind : passAfter memory after (tokensLength before + needle.bytes.length) true = true) :
    MatchesAt memory 0 pattern.flatten := by
  have compared : memcmp memory (tokensLength before) needle.bytes = true := by
    rw [memcmp_exact memory layout.exact]
    exact decide_eq_true found
  have accepted : accepts memory before needle after (tokensLength before) = true := by
    rw [accepts, ahead, behind]
    rfl
  have matched := sound _ _ _ _ _ (layout.reported_at_needle compared accepted)
  rwa [Int.sub_self] at matched

theorem oneChecked_before (layout : Layout pattern before needle after)
    (sound : ∀ memory base len func address, Reported memory pattern base len func address →
      MatchesAt memory address pattern.flatten) : before.countP MatchToken.isChecked ≤ 1 := by
  by_contra two
  obtain ⟨first, left, middle, right, last, sides, leftChecked, rightChecked⟩ :=
    exists_two_checked (Nat.lt_of_not_le two)
  -- the token `left` decides, so `right` may fail
  have sidesRight : before = (first ++ left :: middle) ++ right :: last := by
    rw [sides, List.append_assoc, List.cons_append]
  have split : pattern.tokens = (first ++ left :: middle) ++ right :: (last ++ needle :: after) := by
    rw [layout.split, sidesRight, List.append_assoc, List.cons_append]
  obtain ⟨memory, ahead, behind, spoiled⟩ := layout.formed.spoiled split rightChecked
  have formed := layout.beforeFormed
  rw [sidesRight] at formed
  have place : ((tokensLength ((first ++ left :: middle) ++ [right]) : ℕ) : ℤ) + tokensLength last =
      tokensLength before := by
    rw [sidesRight]
    simp only [tokensLength_append, tokensLength_cons]
    simp only [tokensLength, List.map_nil, List.sum_nil]
    omega
  have lastFormed : ∀ token ∈ last, token.WellFormed := fun token member =>
    formed token (List.mem_append_right _ (List.mem_cons_of_mem _ member))
  rw [List.flatMap_append, matchesAt_append, length_flatMap_units lastFormed, place,
    matchesAt_tokens_cons (layout.formed.tokens needle layout.mem_needle)] at behind
  have passes : passBefore memory before (tokensLength before) true = true := by
    have leading : ((first ++ left :: middle).any MatchToken.isChecked) = true :=
      List.any_eq_true.mpr ⟨left, by simp, leftChecked⟩
    have start : (tokensLength before : ℤ) - tokensLength before = 0 := Int.sub_self _
    rw [sidesRight] at start ⊢
    exact passBefore_of_leading (fun token member => formed token (List.mem_append_left _ member))
      (.inr leading) (by rw [start]; exact ahead)
  apply spoiled
  apply layout.matches_of_passes sound behind.2.1 passes
  exact passAfter_of_matches layout.afterFormed (.inl rfl) behind.2.2

theorem oneChecked_after (layout : Layout pattern before needle after)
    (sound : ∀ memory base len func address, Reported memory pattern base len func address →
      MatchesAt memory address pattern.flatten) : after.countP MatchToken.isChecked ≤ 1 := by
  by_contra two
  obtain ⟨first, left, middle, right, last, sides, leftChecked, rightChecked⟩ :=
    exists_two_checked (Nat.lt_of_not_le two)
  -- the token `right` decides, so `left` may fail
  have split : pattern.tokens = (before ++ needle :: first) ++ left :: (middle ++ right :: last) := by
    rw [layout.split, sides, List.append_assoc, List.cons_append]
  obtain ⟨memory, ahead, behind, spoiled⟩ := layout.formed.spoiled split leftChecked
  have formed := layout.afterFormed
  rw [sides] at formed
  rw [List.flatMap_append, matchesAt_append, length_flatMap_units layout.beforeFormed, Int.zero_add,
    matchesAt_tokens_cons (layout.formed.tokens needle layout.mem_needle)] at ahead
  have leading : passBefore memory (before ++ []) (tokensLength before) true = true :=
    passBefore_of_leading layout.beforeFormed (.inl rfl)
      (by rw [List.append_nil, Int.sub_self]; exact ahead.1)
  rw [List.append_nil] at leading
  apply spoiled
  apply layout.matches_of_passes sound ahead.2.1 leading
  have trailing : ((middle ++ right :: last).any MatchToken.isChecked) = true :=
    List.any_eq_true.mpr ⟨right, by simp, rightChecked⟩
  have sidesLeft : after = (first ++ [left]) ++ (middle ++ right :: last) := by
    rw [sides, List.append_assoc]
    rfl
  have place : (tokensLength before : ℤ) + needle.bytes.length + tokensLength (first ++ [left]) =
      tokensLength ((before ++ needle :: first) ++ [left]) := by
    simp only [tokensLength_append, tokensLength_cons]
    push_cast
    omega
  rw [sidesLeft]
  apply passAfter_of_trailing _ (fun token member => formed token _) trailing true
  · rw [place]
    exact behind
  · intro token member
    exact List.mem_append_right _ (List.mem_cons_of_mem _ member)

end Layout

/-- Every reported address is the start of a full match, in every memory and every
region, exactly for the patterns with at most one token to compare on each side of
the needle. -/
theorem reported_matches_iff {pattern : MatchPattern} (formed : pattern.WellFormed)
    (hasExact : ∃ token ∈ pattern.tokens, token.type = .exact) :
    (∀ memory base len func address, Reported memory pattern base len func address →
      MatchesAt memory address pattern.flatten) ↔ pattern.OneCheckedEachSide := by
  obtain ⟨before, needle, after, layout⟩ := formed.layout hasExact
  rw [layout.oneCheckedEachSide_iff]
  constructor
  · intro sound
    exact ⟨layout.oneChecked_before sound, layout.oneChecked_after sound⟩
  · rintro ⟨singleBefore, singleAfter⟩ memory base len func address reported
    obtain ⟨picked, accepted⟩ := mem_hits_iff.mp (layout.mem_hits_of_reported reported)
    obtain ⟨-, -, found⟩ := mem_candidates layout.needle_pos picked
    have matched := layout.matches_of_accepts singleBefore singleAfter found accepted
    rwa [Int.add_sub_cancel] at matched

theorem reported_matches_iff_overlapping :
    overlappingSignature.OneCheckedEachSide ∧
      Reported (held [0x41, 0x41, 0x00, 0x42]) overlappingSignature 0x1000 4 (fun _ _ => true)
        0x1000 ∧
      MatchesAt (held [0x41, 0x41, 0x00, 0x42]) 0x1000 overlappingSignature.flatten := by
  have single : overlappingSignature.OneCheckedEachSide := by
    rintro needle ⟨⟩
    decide
  have reported : Reported (held [0x41, 0x41, 0x00, 0x42]) overlappingSignature 0x1000 4
    (fun _ _ => true) 0x1000 := .inl ⟨_, _, rfl, by decide⟩
  exact ⟨single, reported,
    (reported_matches_iff overlappingSignature_formed ⟨_, .head _, rfl⟩).mpr single _ _ _ _ _ reported⟩

/-- The mask token fails at its address, and the exact one before it overwrites
its result. -/
theorem overwritten_flag_reported :
    memoryScanNew ['4', '1', ' ', '4', '?', ' ', '4', '3', ' ', '4', '4'] =
      .ok (true, maskedSignature) ∧
    Reported (held [0x41, 0x00, 0x43, 0x44]) maskedSignature 0x1000 4 (fun _ _ => true) 0x1000 ∧
    ¬ MatchesAt (held [0x41, 0x00, 0x43, 0x44]) 0x1000 maskedSignature.flatten :=
  ⟨by rfl, .inl ⟨_, _, rfl, by decide⟩, by decide⟩

end QbdiTracer.MemoryScan
