import QbdiTracer.ScanSpec
import Mathlib.Data.List.Chain

/-! The compiler of patterns, without the text: what the tokens are after a
sequence of byte units. -/

namespace QbdiTracer.MemoryScan

/-- The token type that a mask asks for. -/
def typeOfMask (mask : Byte) : MatchType :=
  if mask = 0xff then .exact else if mask = 0x00 then .wildcard else .mask

/-- A byte position as a token keeps it: the byte of a wildcard is 0x42. -/
def MaskedByte.stored (unit : MaskedByte) : MaskedByte :=
  if unit.mask = 0x00 then ⟨0x42, 0x00⟩ else unit

/-- The token with one more byte position. -/
def MatchToken.push (token : MatchToken) (unit : MaskedByte) : MatchToken :=
  { token with
    bytes := token.bytes ++ [unit.stored.value]
    masks := token.masks ++ (if token.type = .mask then [unit.mask] else []) }

section Push

variable {pattern : MatchPattern} {unit : MaskedByte}

/-- The last token grows if it has the type of the unit, else a new one is begun. -/
theorem pushUnit_tokens (pattern : MatchPattern) (unit : MaskedByte) :
    (∃ tokens last, pattern.tokens = tokens ++ [last] ∧ last.type = typeOfMask unit.mask ∧
      pushUnit pattern unit.value unit.mask =
        { pattern with tokens := tokens ++ [last.push unit] }) ∨
    ((∀ last ∈ pattern.tokens.getLast?, last.type ≠ typeOfMask unit.mask) ∧
      pushUnit pattern unit.value unit.mask = { pattern with
        tokens := pattern.tokens ++
          [MatchToken.push ⟨typeOfMask unit.mask, [], [], pattern.tokens.length⟩ unit]
        size := pattern.tokens.length + 1 }) := by
  have change : pushUnit pattern unit.value unit.mask =
      modifyLastToken (tokenOfType pattern (typeOfMask unit.mask)) fun token =>
        { token with
          bytes := token.bytes ++ [unit.stored.value]
          masks := token.masks ++
            (if typeOfMask unit.mask = .mask then [unit.mask] else []) } := by
    unfold pushUnit typeOfMask MaskedByte.stored
    by_cases whole : unit.mask = 0xff
    · simp [whole]
    · by_cases none : unit.mask = 0x00
      · simp [none]
      · simp only [if_neg whole, if_neg none, ↓reduceIte]
  rw [change]
  by_cases same : pattern.tokens.getLast?.any (·.type = typeOfMask unit.mask)
  · left
    cases held : pattern.tokens.getLast? with
    | none => simp [held] at same
    | some last =>
      have kind : last.type = typeOfMask unit.mask := by simpa [held] using same
      obtain ⟨tokens, split⟩ := List.getLast?_eq_some_iff.mp held
      refine ⟨tokens, last, split, kind, ?_⟩
      simp [tokenOfType, modifyLastToken, split, kind, MatchToken.push]
  · right
    refine ⟨?_, ?_⟩
    · intro last held kind
      exact same (by rw [held]; simpa using kind)
    · simp [tokenOfType, same, modifyLastToken, matchPatternPushToken, MatchToken.push]

theorem typeOfMask_eq_mask_iff {mask : Byte} :
    typeOfMask mask = .mask ↔ mask ≠ 0x00 ∧ mask ≠ 0xff := by
  unfold typeOfMask
  by_cases whole : mask = 0xff
  · simp [whole]
  · by_cases none : mask = 0x00
    · simp [none]
    · rw [if_neg whole, if_neg none]
      exact ⟨fun _ => ⟨none, whole⟩, fun _ => rfl⟩

theorem MatchToken.push_formed {token : MatchToken} (kind : token.type = typeOfMask unit.mask)
    (masks : token.masks.length = if token.type = .mask then token.bytes.length else 0)
    (partly : ∀ mask ∈ token.masks, mask ≠ 0x00 ∧ mask ≠ 0xff) : (token.push unit).WellFormed := by
  refine ⟨by simp [push], ?_, ?_⟩
  · unfold push
    by_cases masked : token.type = .mask
    · simp only [masked, ↓reduceIte] at masks ⊢
      simp [masks]
    · simp only [masked, ↓reduceIte] at masks ⊢
      simp [masks]
  · intro mask member
    unfold push at member
    rcases List.mem_append.mp member with earlier | last
    · exact partly mask earlier
    · by_cases masked : token.type = .mask
      · rw [if_pos masked, List.mem_singleton] at last
        subst last
        exact typeOfMask_eq_mask_iff.mp (kind.symm.trans masked)
      · simp [masked] at last

theorem MatchToken.push_units {token : MatchToken} (kind : token.type = typeOfMask unit.mask)
    (masks : token.masks.length = if token.type = .mask then token.bytes.length else 0) :
    (token.push unit).units = token.units ++ [unit.stored] := by
  unfold MatchToken.units push
  by_cases whole : unit.mask = 0xff
  · have exact : token.type = .exact := by simpa [typeOfMask, whole] using kind
    have same : unit.stored = ⟨unit.stored.value, 0xff⟩ := by
      rw [← whole, MaskedByte.stored, if_neg (by rw [whole]; decide)]
    simp only [exact, List.map_append, List.map_cons, List.map_nil]
    rw [← same]
  · by_cases none : unit.mask = 0x00
    · have wild : token.type = .wildcard := by simpa [typeOfMask, whole, none] using kind
      have same : unit.stored = ⟨unit.stored.value, 0x00⟩ := by
        simp [MaskedByte.stored, none]
      simp only [wild, List.map_append, List.map_cons, List.map_nil]
      rw [← same]
    · have masked : token.type = .mask := kind.trans (typeOfMask_eq_mask_iff.mpr ⟨none, whole⟩)
      have same : unit.stored = ⟨unit.stored.value, unit.mask⟩ := by
        rw [MaskedByte.stored, if_neg none]
      simp only [masked, ↓reduceIte] at masks ⊢
      rw [List.zipWith_append masks.symm, List.zipWith_cons_cons, List.zipWith_nil_left, ← same]

end Push

/-- What a pattern under construction is after the given byte units. -/
structure Built (pattern : MatchPattern) (units : List MaskedByte) : Prop where
  formed : pattern.WellFormed
  flatten : pattern.flatten = units.map MaskedByte.stored
  byteLen : pattern.byteLen = 0

theorem Built.empty : Built {} [] :=
  ⟨⟨nofun, rfl, nofun, .nil⟩, rfl, rfl⟩

section Built

variable {pattern : MatchPattern} {units : List MaskedByte} {unit : MaskedByte}

/-- The last token takes one more byte. -/
theorem Built.grow (built : Built pattern units) {tokens : List MatchToken} {last : MatchToken}
    (split : pattern.tokens = tokens ++ [last]) (kind : last.type = typeOfMask unit.mask) :
    Built { pattern with tokens := tokens ++ [last.push unit] } (units ++ [unit]) := by
  obtain ⟨formed, flatten, byteLen⟩ := built
  have lastFormed := formed.tokens last (by rw [split]; simp)
  rw [MatchPattern.flatten, split] at flatten
  refine ⟨⟨?_, ?_, ?_, ?_⟩, ?_, byteLen⟩
  · intro token member
    rcases List.mem_append.mp member with earlier | now
    · exact formed.tokens token (by rw [split]; exact List.mem_append_left _ earlier)
    · rw [List.mem_singleton.mp now]
      exact MatchToken.push_formed kind lastFormed.masks lastFormed.partly
  · simpa [split] using formed.size
  · intro i inside
    have before := formed.offset i (by simpa [split] using inside)
    simp only [split] at before
    simp only [List.getElem_append] at before ⊢
    split
    · rename_i early
      simpa [early] using before
    · rename_i late
      simpa [late, MatchToken.push] using before
  · have adjacent := formed.adjacent
    rw [split] at adjacent
    rw [List.isChain_append] at adjacent ⊢
    refine ⟨adjacent.1, .singleton _, ?_⟩
    intro left held right only
    cases only
    exact adjacent.2.2 left held last rfl
  · rw [MatchPattern.flatten]
    simp only [List.flatMap_append, List.flatMap_cons, List.flatMap_nil, List.append_nil] at flatten ⊢
    rw [MatchToken.push_units kind lastFormed.masks, ← List.append_assoc, flatten, List.map_append]
    rfl

/-- A token of another type is begun. -/
theorem Built.startToken (built : Built pattern units)
    (differs : ∀ last ∈ pattern.tokens.getLast?, last.type ≠ typeOfMask unit.mask) :
    Built { pattern with
      tokens := pattern.tokens ++
        [MatchToken.push ⟨typeOfMask unit.mask, [], [], pattern.tokens.length⟩ unit]
      size := pattern.tokens.length + 1 } (units ++ [unit]) := by
  obtain ⟨formed, flatten, byteLen⟩ := built
  rw [MatchPattern.flatten] at flatten
  refine ⟨⟨?_, ?_, ?_, ?_⟩, ?_, byteLen⟩
  · intro token member
    rcases List.mem_append.mp member with earlier | now
    · exact formed.tokens token earlier
    · rw [List.mem_singleton.mp now]
      exact MatchToken.push_formed rfl (by simp) nofun
  · simp
  · intro i inside
    simp only [List.getElem_append]
    split
    · exact formed.offset i _
    · rename_i late
      have last : i = pattern.tokens.length := by
        simp only [List.length_append, List.length_cons, List.length_nil] at inside
        omega
      subst last
      simp [MatchToken.push]
  · rw [List.isChain_append]
    refine ⟨formed.adjacent, .singleton _, ?_⟩
    intro left held right only
    cases only
    exact differs left held
  · have none : MatchToken.units ⟨typeOfMask unit.mask, [], [], pattern.tokens.length⟩ = [] := by
      unfold MatchToken.units
      split <;> rfl
    rw [MatchPattern.flatten]
    simp only [List.flatMap_append, List.flatMap_cons, List.flatMap_nil, List.append_nil]
    rw [MatchToken.push_units rfl (by simp), none, flatten, List.map_append]
    rfl

theorem Built.pushUnit (built : Built pattern units) (unit : MaskedByte) :
    Built (MemoryScan.pushUnit pattern unit.value unit.mask) (units ++ [unit]) := by
  rcases pushUnit_tokens pattern unit with ⟨tokens, last, split, kind, pushed⟩ | ⟨differs, pushed⟩
  · rw [pushed]
    exact built.grow split kind
  · rw [pushed]
    exact built.startToken differs

end Built

/-- The pattern after a sequence of byte units. -/
def pushUnits (pattern : MatchPattern) (units : List MaskedByte) : MatchPattern :=
  units.foldl (fun pattern unit => pushUnit pattern unit.value unit.mask) pattern

theorem Built.pushUnits {pattern : MatchPattern} {units : List MaskedByte}
    (built : Built pattern units) (more : List MaskedByte) :
    Built (MemoryScan.pushUnits pattern more) (units ++ more) := by
  induction more generalizing pattern units with
  | nil =>
    rw [List.append_nil]
    exact built
  | cons unit rest ih =>
    have pushed := ih (built.pushUnit unit)
    rw [List.append_assoc, List.singleton_append] at pushed
    exact pushed

/-- `match_token_cmp` adds up the bytes of all tokens. -/
theorem Built.matchTokenCmp {pattern : MatchPattern} {units : List MaskedByte}
    (built : Built pattern units) :
    (MemoryScan.matchTokenCmp pattern).WellFormed ∧
      (MemoryScan.matchTokenCmp pattern).flatten = units.map MaskedByte.stored ∧
      (MemoryScan.matchTokenCmp pattern).byteLen = units.length := by
  obtain ⟨formed, flatten, byteLen⟩ := built
  refine ⟨⟨formed.tokens, formed.size, formed.offset, formed.adjacent⟩, flatten, ?_⟩
  have total : ∀ (tokens : List MatchToken) (start : ℕ), (∀ token ∈ tokens, token.WellFormed) →
      tokens.foldl (fun byteLen item => byteLen + item.bytes.length) start =
        start + (tokens.flatMap MatchToken.units).length := by
    intro tokens
    induction tokens with
    | nil => simp
    | cons token rest ih =>
      intro start all
      rw [List.foldl_cons, ih _ fun other member => all other (List.mem_cons_of_mem _ member),
        List.flatMap_cons, List.length_append, (all token List.mem_cons_self).length_units]
      omega
  rw [MemoryScan.matchTokenCmp]
  simp only
  rw [total pattern.tokens _ formed.tokens, byteLen, ← MatchPattern.flatten, flatten,
    List.length_map, Nat.zero_add]

end QbdiTracer.MemoryScan
