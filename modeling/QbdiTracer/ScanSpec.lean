import QbdiTracer.Core.MemoryScan
import QbdiTracer.Library.GreedySearch
import Mathlib.Algebra.GroupWithZero.Nat

/-! What a scan looks for and what it tests: the byte positions of a pattern, and
the tests of one candidate by the tokens that decide them. -/

namespace QbdiTracer.MemoryScan

/-- One byte position of a pattern. -/
structure MaskedByte where
  value : Byte
  mask : Byte
  deriving DecidableEq

/-- The byte positions of a token: mask 0xff for an exact byte, 0x00 for a
wildcard. -/
def MatchToken.units (token : MatchToken) : List MaskedByte :=
  match token.type with
  | .exact => token.bytes.map (⟨·, 0xff⟩)
  | .wildcard => token.bytes.map (⟨·, 0x00⟩)
  | .mask => List.zipWith MaskedByte.mk token.bytes token.masks

/-- The byte positions of a pattern, over all tokens in order. -/
def MatchPattern.flatten (pattern : MatchPattern) : List MaskedByte :=
  pattern.tokens.flatMap MatchToken.units

/-- The number of byte positions, which is `byte_len` once a text is accepted. -/
def MatchPattern.span (pattern : MatchPattern) : ℕ := pattern.flatten.length

/-- The memory at an address agrees with the byte positions under their masks. -/
def MatchesAt (memory : Memory) (start : ℤ) (units : List MaskedByte) : Prop :=
  ∀ i (inside : i < units.length),
    memory (start + i) &&& units[i].mask = units[i].value &&& units[i].mask

instance (memory : Memory) (start : ℤ) (units : List MaskedByte) :
    Decidable (MatchesAt memory start units) :=
  inferInstanceAs (Decidable (∀ i (inside : i < units.length),
    memory (start + i) &&& units[i].mask = units[i].value &&& units[i].mask))

section Matches

variable {memory : Memory} {start : ℤ} {units rest : List MaskedByte}

theorem matchesAt_nil : MatchesAt memory start [] := nofun

theorem matchesAt_cons {unit : MaskedByte} :
    MatchesAt memory start (unit :: rest) ↔
      memory start &&& unit.mask = unit.value &&& unit.mask ∧ MatchesAt memory (start + 1) rest := by
  constructor
  · intro all
    have here := all 0 (Nat.zero_lt_succ _)
    rw [List.getElem_cons_zero, Int.natCast_zero, Int.add_zero] at here
    refine ⟨here, fun i inside => ?_⟩
    have next := all (i + 1) (by simpa using inside)
    rwa [List.getElem_cons_succ, Int.natCast_succ, Int.add_comm (i : ℤ) 1, ← Int.add_assoc] at next
  · rintro ⟨here, later⟩ i inside
    cases i with
    | zero => simpa using here
    | succ i =>
      have next := later i (by simpa using inside)
      rwa [List.getElem_cons_succ, Int.natCast_succ, Int.add_comm (i : ℤ) 1, ← Int.add_assoc]

theorem matchesAt_append :
    MatchesAt memory start (units ++ rest) ↔
      MatchesAt memory start units ∧ MatchesAt memory (start + units.length) rest := by
  induction units generalizing start with
  | nil => simp [matchesAt_nil]
  | cons unit units ih =>
    have shift : start + 1 + (units.length : ℤ) = start + ((unit :: units).length : ℕ) := by
      rw [List.length_cons]
      push_cast
      omega
    rw [List.cons_append, matchesAt_cons, matchesAt_cons, ih, and_assoc, shift]

end Matches

/-- What the compiler builds: every token has bytes, a mask byte for each of them
if it is a mask token and none otherwise. -/
structure MatchToken.WellFormed (token : MatchToken) : Prop where
  nonempty : token.bytes ≠ []
  masks : token.masks.length = if token.type = .mask then token.bytes.length else 0
  partly : ∀ mask ∈ token.masks, mask ≠ 0x00 ∧ mask ≠ 0xff

structure MatchPattern.WellFormed (pattern : MatchPattern) : Prop where
  tokens : ∀ token ∈ pattern.tokens, token.WellFormed
  size : pattern.size = pattern.tokens.length
  offset : ∀ i (inside : i < pattern.tokens.length), pattern.tokens[i].offset = i
  adjacent : pattern.tokens.IsChain fun left right => left.type ≠ right.type

instance (token : MatchToken) : Decidable token.WellFormed :=
  decidable_of_iff (token.bytes ≠ [] ∧
      token.masks.length = (if token.type = .mask then token.bytes.length else 0) ∧
      ∀ mask ∈ token.masks, mask ≠ 0x00 ∧ mask ≠ 0xff)
    ⟨fun ⟨nonempty, masks, partly⟩ => ⟨nonempty, masks, partly⟩,
      fun formed => ⟨formed.nonempty, formed.masks, formed.partly⟩⟩

theorem MatchToken.WellFormed.length_units {token : MatchToken} (formed : token.WellFormed) :
    token.units.length = token.bytes.length := by
  have masks := formed.masks
  unfold units
  cases kind : token.type with
  | exact => exact List.length_map ..
  | wildcard => exact List.length_map ..
  | mask =>
    rw [kind, if_pos rfl] at masks
    rw [List.length_zipWith, masks, Nat.min_self]

/-- A wildcard token matches everywhere. -/
theorem MatchToken.matchesAt_wildcard {token : MatchToken} (wild : token.type = .wildcard)
    (memory : Memory) (start : ℤ) : MatchesAt memory start token.units := by
  intro i inside
  simp only [units, wild] at inside ⊢
  simp

section Compare

variable (memory : Memory)

theorem memcmp_eq_true_iff {data : ℤ} {bytes : List Byte} :
    memcmp memory data bytes = true ↔
      ∀ i (inside : i < bytes.length), memory (data + i) = bytes[i] := by
  unfold memcmp readBytes
  rw [decide_eq_true_iff]
  constructor
  · intro same i inside
    have byte := List.getElem_of_eq same (by simpa using inside)
    simpa using byte
  · intro all
    refine List.ext_getElem (by simp) fun i _ inside => ?_
    simpa using all i inside

theorem memcmp_exact {token : MatchToken} (kind : token.type = .exact) (data : ℤ) :
    memcmp memory data token.bytes = decide (MatchesAt memory data token.units) := by
  have whole : ∀ byte : Byte, byte &&& 255#8 = byte := fun byte => BitVec.and_allOnes
  rw [Bool.eq_iff_iff, memcmp_eq_true_iff, decide_eq_true_iff]
  simp [MatchesAt, MatchToken.units, kind, whole]

theorem memcmpMaskLoop_eq (data : ℤ) (masks : List Byte) (i : ℕ) (bytes : List Byte)
    (fits : masks.length = i + bytes.length) :
    ∃ count, memcmpMaskLoop memory masks data i bytes =
      .ok (decide (MatchesAt memory (data + i)
        (List.zipWith MaskedByte.mk bytes (masks.drop i))), count) := by
  induction bytes generalizing i with
  | nil => exact ⟨i, by simp [memcmpMaskLoop, matchesAt_nil]⟩
  | cons byte rest ih =>
    have inside : i < masks.length := by
      rw [fits, List.length_cons]
      omega
    have next : MatchesAt memory (data + i) (List.zipWith MaskedByte.mk (byte :: rest)
        (masks.drop i)) ↔ byte &&& masks[i] = memory (data + i) &&& masks[i] ∧
          MatchesAt memory (data + (i + 1 : ℕ)) (List.zipWith MaskedByte.mk rest
            (masks.drop (i + 1))) := by
      rw [List.drop_eq_getElem_cons inside, List.zipWith_cons_cons, matchesAt_cons, Int.natCast_succ,
        ← Int.add_assoc]
      exact and_congr_left fun _ => eq_comm
    simp only [memcmpMaskLoop, List.getElem?_eq_getElem inside]
    by_cases same : byte &&& masks[i] = memory (data + i) &&& masks[i]
    · obtain ⟨count, later⟩ := ih (i + 1) (by rw [fits, List.length_cons]; omega)
      refine ⟨count, ?_⟩
      rw [if_neg (not_not.mpr same), later]
      simp only [next, same, true_and]
    · refine ⟨i + 1, ?_⟩
      rw [if_pos same]
      simp only [next, same, false_and, decide_false]

theorem memcmpMask_eq {token : MatchToken} (formed : token.WellFormed) (kind : token.type = .mask)
    (data : ℤ) :
    ∃ count, memcmpMask memory token data =
      .ok (decide (MatchesAt memory data token.units), count) := by
  have masks := formed.masks
  rw [kind, if_pos rfl] at masks
  obtain ⟨count, compared⟩ := memcmpMaskLoop_eq memory data token.masks 0 token.bytes (by omega)
  refine ⟨count, compared.trans ?_⟩
  simp [MatchToken.units, kind]

end Compare

/-- The flag after a token: a wildcard leaves it alone, any other token overwrites
it. -/
def flagAfter (memory : Memory) (token : MatchToken) (data : ℤ) (pass : Bool) : Bool :=
  if token.type = .wildcard then pass else decide (MatchesAt memory data token.units)

theorem compareToken_eq (memory : Memory) {token : MatchToken} (formed : token.WellFormed)
    (data : ℤ) (cursor : MatchCursor) :
    ∃ reads, compareToken memory token data cursor =
      .ok { cursor with pass := flagAfter memory token data cursor.pass, reads } := by
  unfold compareToken flagAfter
  cases kind : token.type with
  | wildcard => exact ⟨cursor.reads, by simp⟩
  | exact => exact ⟨_, by simp [memcmp_exact memory kind]; rfl⟩
  | mask =>
    obtain ⟨count, compared⟩ := memcmpMask_eq memory formed kind data
    exact ⟨_, by simp [compared, bind, Except.bind, pure, Except.pure]; rfl⟩

/-- The number of bytes of consecutive tokens. -/
def tokensLength (tokens : List MatchToken) : ℕ := (tokens.map fun token => token.bytes.length).sum

/-- `pass_before` for tokens that end at `stop`: the leftmost token that is not a
wildcard decides. -/
def passBefore (memory : Memory) : List MatchToken → ℤ → Bool → Bool
  | [], _, pass => pass
  | token :: rest, stop, pass =>
    flagAfter memory token (stop - tokensLength (token :: rest)) (passBefore memory rest stop pass)

/-- `pass_after` for tokens that begin at `start`: the rightmost token that is not
a wildcard decides. -/
def passAfter (memory : Memory) : List MatchToken → ℤ → Bool → Bool
  | [], _, pass => pass
  | token :: rest, start, pass =>
    passAfter memory rest (start + token.bytes.length) (flagAfter memory token start pass)

section Loops

variable (memory : Memory) {pattern : MatchPattern}

theorem tokensLength_append (left right : List MatchToken) :
    tokensLength (left ++ right) = tokensLength left + tokensLength right := by
  simp [tokensLength]

/-- The walk takes the last of the tokens first. -/
theorem passBefore_concat (tokens : List MatchToken) (token : MatchToken) (stop : ℤ) (pass : Bool) :
    passBefore memory (tokens ++ [token]) stop pass =
      passBefore memory tokens (stop - token.bytes.length)
        (flagAfter memory token (stop - token.bytes.length) pass) := by
  induction tokens with
  | nil => simp [passBefore, tokensLength]
  | cons first rest ih =>
    have place : stop - tokensLength (first :: (rest ++ [token])) =
        stop - token.bytes.length - tokensLength (first :: rest) := by
      rw [← List.cons_append, tokensLength_append]
      simp only [tokensLength, List.map_cons, List.map_nil, List.sum_cons, List.sum_nil]
      push_cast
      omega
    rw [List.cons_append, passBefore, passBefore, ih, place]

theorem matchBeforeLoop_eq (formed : pattern.WellFormed) (i : ℕ) (inside : i ≤ pattern.tokens.length)
    (cursor : MatchCursor) :
    ∃ reads, matchBeforeLoop memory pattern i cursor = .ok {
      data := cursor.data - tokensLength (pattern.tokens.take i)
      pass := passBefore memory (pattern.tokens.take i) cursor.data cursor.pass
      reads } := by
  induction i generalizing cursor with
  | zero => exact ⟨cursor.reads, by simp [matchBeforeLoop, tokensLength, passBefore]⟩
  | succ i ih =>
    have here : i < pattern.tokens.length := inside
    obtain ⟨seen, compared⟩ := compareToken_eq memory (formed.tokens _ (List.getElem_mem here))
      (cursor.data - pattern.tokens[i].bytes.length)
      { cursor with data := cursor.data - pattern.tokens[i].bytes.length }
    obtain ⟨reads, walked⟩ := ih (Nat.le_of_succ_le inside) {
      data := cursor.data - pattern.tokens[i].bytes.length
      pass := flagAfter memory pattern.tokens[i] (cursor.data - pattern.tokens[i].bytes.length)
        cursor.pass
      reads := seen }
    refine ⟨reads, ?_⟩
    simp only [matchBeforeLoop, List.getElem?_eq_getElem here, compared, bind, Except.bind]
    rw [walked, List.take_succ_eq_append_getElem here, passBefore_concat, tokensLength_append]
    simp only [tokensLength, List.map_cons, List.map_nil, List.sum_cons, List.sum_nil,
      Except.ok.injEq, MatchCursor.mk.injEq, and_true]
    push_cast
    omega

theorem matchAfterLoop_eq (formed : pattern.WellFormed) (count i : ℕ)
    (inside : i + count = pattern.tokens.length) (cursor : MatchCursor) :
    ∃ reads, matchAfterLoop memory pattern count i cursor = .ok {
      data := cursor.data + tokensLength (pattern.tokens.drop i)
      pass := passAfter memory (pattern.tokens.drop i) cursor.data cursor.pass
      reads } := by
  induction count generalizing i cursor with
  | zero =>
    refine ⟨cursor.reads, ?_⟩
    rw [List.drop_eq_nil_of_le (by omega)]
    simp [matchAfterLoop, tokensLength, passAfter]
  | succ count ih =>
    have here : i < pattern.tokens.length := by omega
    obtain ⟨seen, compared⟩ := compareToken_eq memory (formed.tokens _ (List.getElem_mem here))
      cursor.data cursor
    obtain ⟨reads, walked⟩ := ih (i + 1) (by omega) {
      data := cursor.data + pattern.tokens[i].bytes.length
      pass := flagAfter memory pattern.tokens[i] cursor.data cursor.pass
      reads := seen }
    refine ⟨reads, ?_⟩
    simp only [matchAfterLoop, List.getElem?_eq_getElem here, compared, bind, Except.bind]
    rw [walked, List.drop_eq_getElem_cons here, passAfter]
    simp only [tokensLength, List.map_cons, List.sum_cons, Except.ok.injEq, MatchCursor.mk.injEq,
      and_true]
    push_cast
    omega

end Loops

/-- A pattern around its needle, the first of the longest exact tokens. -/
structure Layout (pattern : MatchPattern) (before : List MatchToken) (needle : MatchToken)
    (after : List MatchToken) : Prop where
  formed : pattern.WellFormed
  longest : matchPatternGetLongestToken pattern .exact = some needle
  exact : needle.type = .exact
  split : pattern.tokens = before ++ needle :: after

section Longest

variable {pattern : MatchPattern}

theorem longest_foldl (type : MatchType) (tokens : List MatchToken) (longest : Option MatchToken) :
    let found := tokens.foldl (fun longest item =>
      if item.type = type ∧ longest.all (fun token => token.bytes.length < item.bytes.length) then
        some item
      else longest) longest
    (∀ needle ∈ found, longest = some needle ∨ needle ∈ tokens ∧ needle.type = type) ∧
      (found = none → longest = none ∧ ∀ token ∈ tokens, token.type ≠ type) := by
  induction tokens generalizing longest with
  | nil => exact ⟨fun needle found => .inl found, fun none => ⟨none, nofun⟩⟩
  | cons item rest ih =>
    obtain ⟨origin, absent⟩ := ih (if item.type = type ∧
      longest.all (fun token => token.bytes.length < item.bytes.length) then some item else longest)
    constructor
    · intro needle found
      rcases origin needle found with now | ⟨later, kind⟩
      · split at now
        · rename_i longer
          cases now
          exact .inr ⟨List.mem_cons_self, longer.1⟩
        · exact .inl now
      · exact .inr ⟨List.mem_cons_of_mem _ later, kind⟩
    · intro none
      obtain ⟨now, others⟩ := absent none
      split at now
      · cases now
      · rename_i shorter
        subst now
        refine ⟨rfl, fun token member => ?_⟩
        rcases List.mem_cons.mp member with rfl | later
        · exact fun kind => shorter ⟨kind, rfl⟩
        · exact others token later

/-- Every pattern with an exact token has a needle. -/
theorem MatchPattern.WellFormed.layout (formed : pattern.WellFormed)
    (hasExact : ∃ token ∈ pattern.tokens, token.type = .exact) :
    ∃ before needle after, Layout pattern before needle after := by
  obtain ⟨origin, absent⟩ := longest_foldl .exact pattern.tokens none
  cases longest : matchPatternGetLongestToken pattern .exact with
  | none =>
    obtain ⟨token, member, kind⟩ := hasExact
    exact absurd kind ((absent longest).2 token member)
  | some needle =>
    obtain ⟨member, kind⟩ := (origin needle longest).resolve_left nofun
    obtain ⟨before, after, split⟩ := List.append_of_mem member
    exact ⟨before, needle, after, formed, longest, kind, split⟩

end Longest

namespace Layout

variable {pattern : MatchPattern} {before after : List MatchToken} {needle : MatchToken}

theorem offset (layout : Layout pattern before needle after) : needle.offset = before.length := by
  have inside : before.length < pattern.tokens.length := by
    rw [layout.split, List.length_append, List.length_cons]
    omega
  have here := layout.formed.offset before.length inside
  simpa [layout.split] using here

theorem mem_needle (layout : Layout pattern before needle after) : needle ∈ pattern.tokens := by
  rw [layout.split]
  exact List.mem_append_right _ List.mem_cons_self

theorem needle_pos (layout : Layout pattern before needle after) : 0 < needle.bytes.length :=
  List.length_pos_iff.mpr (layout.formed.tokens needle layout.mem_needle).nonempty

end Layout

/-- The two tests of a candidate at `cur`. -/
def accepts (memory : Memory) (before : List MatchToken) (needle : MatchToken)
    (after : List MatchToken) (cur : ℤ) : Bool :=
  passBefore memory before cur true && passAfter memory after (cur + needle.bytes.length) true

/-- The memory read by the two tests. -/
def examineReads (memory : Memory) (pattern : MatchPattern) (needle : MatchToken) (cur : ℤ) :
    List Extent :=
  match examine memory pattern needle cur with
  | .ok (_, _, reads) => reads
  | .error _ => []

namespace Layout

variable {pattern : MatchPattern} {before after : List MatchToken} {needle : MatchToken}

theorem testBefore_eq (layout : Layout pattern before needle after) (memory : Memory) (cur : ℤ) :
    ∃ reads, testBefore memory pattern needle cur = .ok {
      data := cur - tokensLength before
      pass := passBefore memory before cur true
      reads } := by
  have takeBefore : pattern.tokens.take before.length = before := by simp [layout.split]
  have inside : before.length ≤ pattern.tokens.length := by simp [layout.split]
  unfold testBefore
  rw [layout.offset]
  split
  · rename_i some
    obtain ⟨reads, walked⟩ :=
      matchBeforeLoop_eq memory layout.formed before.length inside { data := cur }
    rw [takeBefore] at walked
    refine ⟨reads, ?_⟩
    rw [matchBefore, Nat.sub_add_cancel some]
    exact walked
  · rename_i none
    have empty : before = [] := List.length_eq_zero_iff.mp (by omega)
    exact ⟨[], by simp [empty, tokensLength, passBefore]⟩

theorem testAfter_eq (layout : Layout pattern before needle after) (memory : Memory) (cur : ℤ) :
    ∃ reads, testAfter memory pattern needle cur = .ok {
      data := cur + needle.bytes.length + tokensLength after
      pass := passAfter memory after (cur + needle.bytes.length) true
      reads } := by
  have total : pattern.tokens.length = before.length + 1 + after.length := by
    rw [layout.split, List.length_append, List.length_cons]
    omega
  have dropAfter : pattern.tokens.drop (before.length + 1) = after := by simp [layout.split]
  obtain ⟨reads, walked⟩ := matchAfterLoop_eq memory layout.formed
    (pattern.size - (before.length + 1)) (before.length + 1) (by rw [layout.formed.size]; omega)
    { data := cur + needle.bytes.length }
  rw [dropAfter] at walked
  refine ⟨reads, ?_⟩
  unfold testAfter
  rw [layout.offset, if_pos (by omega)]
  exact walked

/-- The tests of a candidate, in terms of the tokens around the needle. -/
theorem examine_eq (layout : Layout pattern before needle after) (memory : Memory) (cur : ℤ) :
    examine memory pattern needle cur = .ok (accepts memory before needle after cur,
      cur - tokensLength before, examineReads memory pattern needle cur) := by
  obtain ⟨readBefore, walkBefore⟩ := layout.testBefore_eq memory cur
  obtain ⟨readAfter, walkAfter⟩ := layout.testAfter_eq memory cur
  unfold accepts examineReads examine
  simp only [walkBefore, walkAfter, bind, Except.bind, pure, Except.pure]
  cases passBefore memory before cur true <;> simp

/-- A needle without other tokens is all that is compared. -/
theorem examineReads_alone (layout : Layout pattern [] needle []) (memory : Memory) (cur : ℤ) :
    examineReads memory pattern needle cur = [] := by
  have offset : needle.offset = 0 := layout.offset
  have size : pattern.size = 1 := by
    rw [layout.formed.size, layout.split]
    rfl
  simp [examineReads, examine, testBefore, testAfter, offset, matchAfter, size, matchAfterLoop,
    layout.split, bind, Except.bind, pure, Except.pure]

end Layout

/-! Concrete patterns and memories. -/

/-- `41 41 ?? 42`: the needle overlaps itself. -/
def overlappingSignature : MatchPattern :=
  ⟨[⟨.exact, [0x41, 0x41], [], 0⟩, ⟨.wildcard, [0x42], [], 1⟩, ⟨.exact, [0x42], [], 2⟩], 3, 4⟩

/-- `41 4? 43 44`: two tokens to compare before the needle. -/
def maskedSignature : MatchPattern :=
  ⟨[⟨.exact, [0x41], [], 0⟩, ⟨.mask, [0x42], [0xf0], 1⟩, ⟨.exact, [0x43, 0x44], [], 2⟩], 3, 4⟩

theorem overlappingSignature_formed : overlappingSignature.WellFormed :=
  ⟨by decide, rfl, by decide, by decide⟩

/-- The bytes from address `0x1000` on, and zeros around them. -/
def held (bytes : List Byte) : Memory := fun address =>
  if 0x1000 ≤ address then bytes.getD (address - 0x1000).toNat 0 else 0

end QbdiTracer.MemoryScan
