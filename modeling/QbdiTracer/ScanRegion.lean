import QbdiTracer.FullMatch

/-! The scans against the region they are given: which full matches inside it are
found, and what is read or reported outside it. -/

namespace QbdiTracer.MemoryScan

open GreedySearch

/-- A candidate that passes the tests of the tokens around it. -/
def Passes (memory : Memory) (pattern : MatchPattern) (needle : MatchToken) (cur : ℤ) : Prop :=
  ∃ address reads, examine memory pattern needle cur = .ok (true, address, reads)

/-- Every full match in the region is found: `memoryScanOnce` returns nothing
above it, and `memory_scan` reports it or a match that overlaps it. -/
def Complete (memory : Memory) (pattern : MatchPattern) (base : ℤ) (len : ℕ) : Prop :=
  ∀ address, base ≤ address → address + pattern.span ≤ base + len →
    MatchesAt memory address pattern.flatten →
    (∃ first trace, memoryScanOnce memory base (base + len) pattern = .ok (some first, trace) ∧
      first ≤ address) ∧
    ∃ result trace, memoryScan memory base len (fun _ _ => true) pattern = .ok (result, trace) ∧
      ∃ reported ∈ trace.reported, reported = address ∨
        reported < address + pattern.span ∧ address < reported + pattern.span

/-- A full match whose needle begins inside an earlier candidate that fails its
tests: the search goes on behind that candidate. -/
structure Hidden (memory : Memory) (pattern : MatchPattern) (base : ℤ) (len : ℕ)
    (needle : MatchToken) (position : ℤ) : Prop where
  above : base ≤ position - tokensLength (pattern.tokens.take needle.offset)
  below : position - tokensLength (pattern.tokens.take needle.offset) + pattern.span ≤ base + len
  matched : MatchesAt memory (position - tokensLength (pattern.tokens.take needle.offset))
    pattern.flatten
  inside : ∃ cur ∈ candidates memory needle.bytes base len, cur < position ∧
    position < cur + needle.bytes.length ∧ ¬ Passes memory pattern needle cur

/-- A hidden match has a candidate that passes before it, and one that overlaps
it. -/
def HiddenAreCovered (memory : Memory) (pattern : MatchPattern) (base : ℤ) (len : ℕ) : Prop :=
  ∀ needle ∈ matchPatternGetLongestToken pattern .exact, ∀ position,
    Hidden memory pattern base len needle position →
    (∃ cur ∈ candidates memory needle.bytes base len, Passes memory pattern needle cur ∧
      cur ≤ position) ∧
    ∃ cur ∈ candidates memory needle.bytes base len, Passes memory pattern needle cur ∧
      cur < position + pattern.span ∧ position < cur + pattern.span

namespace Layout

variable {memory : Memory} {pattern : MatchPattern} {before after : List MatchToken}
  {needle : MatchToken} {base cur : ℤ} {len : ℕ}

theorem passes_iff (layout : Layout pattern before needle after) :
    Passes memory pattern needle cur ↔ accepts memory before needle after cur = true := by
  unfold Passes
  rw [layout.examine_eq memory cur]
  constructor
  · rintro ⟨address, reads, same⟩
    exact congrArg Prod.fst (Except.ok.inj same)
  · intro accepted
    exact ⟨_, _, by rw [accepted]⟩

theorem lead_eq (layout : Layout pattern before needle after) :
    pattern.tokens.take needle.offset = before := by
  rw [layout.offset, layout.split, List.take_left]

/-- A candidate that passes is reported. -/
theorem mem_hits (layout : Layout pattern before needle after)
    (picked : cur ∈ candidates memory needle.bytes base len)
    (passes : Passes memory pattern needle cur) :
    cur - tokensLength before ∈ hits memory before needle after base len := by
  rw [mem_hits_iff, Int.sub_add_cancel]
  exact ⟨picked, layout.passes_iff.mp passes⟩

theorem passes_of_mem_hits (layout : Layout pattern before needle after) {address : ℤ}
    (member : address ∈ hits memory before needle after base len) :
    address + tokensLength before ∈ candidates memory needle.bytes base len ∧
      Passes memory pattern needle (address + tokensLength before) := by
  obtain ⟨picked, accepted⟩ := mem_hits_iff.mp member
  exact ⟨picked, layout.passes_iff.mpr accepted⟩

/-- A full match has a candidate that passes, where it is itself or hides it, or
it is hidden. -/
theorem found_or_hidden (layout : Layout pattern before needle after) {address : ℤ}
    (above : base ≤ address) (below : address + pattern.span ≤ base + len)
    (matched : MatchesAt memory address pattern.flatten) :
    (∃ cur ∈ candidates memory needle.bytes base len, Passes memory pattern needle cur ∧
      cur ≤ address + tokensLength before ∧
      address + tokensLength before < cur + needle.bytes.length) ∨
    Hidden memory pattern base len needle (address + tokensLength before) := by
  have positive := layout.needle_pos
  have span := layout.span_eq
  have start : address + (tokensLength before : ℤ) - tokensLength before = address := by omega
  have placed : MatchesAt memory (address + tokensLength before - tokensLength before)
      pattern.flatten := by
    rw [start]
    exact matched
  obtain ⟨found, accepted⟩ := layout.accepts_of_matches placed
  rcases candidates_cover positive (show base ≤ address + tokensLength before by omega)
    (show address + tokensLength before + (needle.bytes.length : ℤ) ≤ base + len by omega)
    found with picked | ⟨cur, picked, earlier, overlaps⟩
  · exact .inl ⟨_, picked, layout.passes_iff.mpr accepted, by omega, by omega⟩
  · by_cases passes : Passes memory pattern needle cur
    · exact .inl ⟨cur, picked, passes, by omega, overlaps⟩
    · refine .inr ⟨?_, ?_, ?_, cur, picked, earlier, overlaps, passes⟩
      · rw [layout.lead_eq, start]
        exact above
      · rw [layout.lead_eq, start]
        exact below
      · rw [layout.lead_eq, start]
        exact matched

/-- What a candidate that passes does for a match near it. -/
theorem once_below (layout : Layout pattern before needle after) {address : ℤ}
    (picked : cur ∈ candidates memory needle.bytes base len)
    (passes : Passes memory pattern needle cur) (below : cur ≤ address + tokensLength before) :
    ∃ first trace, memoryScanOnce memory base (base + len) pattern = .ok (some first, trace) ∧
      first ≤ address := by
  obtain ⟨first, head, least⟩ := head?_le (layout.hits_increasing memory base len)
    (layout.mem_hits picked passes)
  obtain ⟨trace, found, -⟩ := layout.memoryScanOnce_traced memory base len
  exact ⟨first, trace, head ▸ found, by omega⟩

end Layout

/-- What covers the hidden matches makes the scan of a region complete. -/
theorem HiddenAreCovered.complete {pattern : MatchPattern} (formed : pattern.WellFormed)
    (hasExact : ∃ token ∈ pattern.tokens, token.type = .exact) {memory : Memory} {base : ℤ}
    {len : ℕ} (covered : HiddenAreCovered memory pattern base len) :
    Complete memory pattern base len := by
  obtain ⟨before, needle, after, layout⟩ := formed.layout hasExact
  have span := layout.span_eq
  have positive := layout.needle_pos
  obtain ⟨result, trace, scanned, all⟩ := layout.memoryScan_always memory base len
  intro address above below matched
  have reports : ∀ cur ∈ candidates memory needle.bytes base len,
      Passes memory pattern needle cur → cur < address + tokensLength before + pattern.span →
      address + tokensLength before < cur + pattern.span →
      ∃ reported ∈ trace.reported, reported = address ∨
        reported < address + pattern.span ∧ address < reported + pattern.span := by
    intro cur picked passes left right
    exact ⟨_, all ▸ layout.mem_hits picked passes, .inr ⟨by omega, by omega⟩⟩
  rcases layout.found_or_hidden above below matched with
    ⟨cur, picked, passes, left, right⟩ | hidden
  · exact ⟨layout.once_below picked passes left, result, trace, scanned,
      reports cur picked passes (by omega) (by omega)⟩
  · obtain ⟨⟨cur, picked, passes, least⟩, near, nearPicked, nearPasses, left, right⟩ :=
      covered needle layout.longest _ hidden
    exact ⟨layout.once_below picked passes least, result, trace, scanned,
      reports near nearPicked nearPasses left right⟩

/-- The scan of a region is complete where no full match is hidden. -/
theorem complete_of_unhidden {pattern : MatchPattern} (formed : pattern.WellFormed)
    (hasExact : ∃ token ∈ pattern.tokens, token.type = .exact) {memory : Memory} {base : ℤ}
    {len : ℕ} (unhidden : ∀ needle ∈ matchPatternGetLongestToken pattern .exact, ∀ position,
      ¬ Hidden memory pattern base len needle position) :
    Complete memory pattern base len := by
  refine HiddenAreCovered.complete formed hasExact fun needle longest position hidden => ?_
  exact absurd hidden (unhidden needle longest position)

/-- The scan of a region is complete exactly when every hidden match is covered by
candidates that pass. -/
theorem complete_iff {pattern : MatchPattern} (formed : pattern.WellFormed)
    (hasExact : ∃ token ∈ pattern.tokens, token.type = .exact) (memory : Memory) (base : ℤ)
    (len : ℕ) :
    Complete memory pattern base len ↔ HiddenAreCovered memory pattern base len := by
  obtain ⟨before, needle, after, layout⟩ := formed.layout hasExact
  have span := layout.span_eq
  have positive := layout.needle_pos
  obtain ⟨result, trace, scanned, all⟩ := layout.memoryScan_always memory base len
  refine ⟨?_, fun covered => covered.complete formed hasExact⟩
  intro complete other longest position hidden
  cases layout.longest.symm.trans longest
  obtain ⟨above, below, matched, -⟩ := hidden
  rw [layout.lead_eq] at above below matched
  obtain ⟨⟨first, once, found, least⟩, _, _, same, reported, member, near⟩ :=
    complete _ above below matched
  cases scanned.symm.trans same
  constructor
  · obtain ⟨_, ended, -⟩ := layout.memoryScanOnce_traced memory base len
    have head := congrArg Prod.fst (Except.ok.inj (ended.symm.trans found))
    obtain ⟨picked, passes⟩ := layout.passes_of_mem_hits (List.mem_of_head? head)
    exact ⟨_, picked, passes, by omega⟩
  · rw [all] at member
    obtain ⟨picked, passes⟩ := layout.passes_of_mem_hits member
    exact ⟨_, picked, passes, by omega, by omega⟩

theorem complete_iff_overlapping :
    Complete (held [0x41, 0x41, 0x00, 0x42]) overlappingSignature 0x1000 4 := by
  apply (complete_iff overlappingSignature_formed ⟨_, .head _, rfl⟩ _ 0x1000 4).mpr
  rintro needle ⟨⟩ position ⟨-, below, -, cur, picked, earlier, -⟩
  have above := (mem_candidates (by decide) picked).1
  have span : overlappingSignature.span = 4 := rfl
  have lead : tokensLength (overlappingSignature.tokens.take 0) = 0 := rfl
  simp only [span, lead] at below
  omega

/-- The first candidate is rejected, and the match one byte further on begins inside it. -/
theorem overlapping_match_skipped :
    memoryScanNew ['4', '1', ' ', '4', '1', ' ', '?', '?', ' ', '4', '2'] =
      .ok (true, overlappingSignature) ∧
    MatchesAt (held [0x41, 0x41, 0x41, 0x00, 0x42]) 0x1001 overlappingSignature.flatten ∧
    ¬ Complete (held [0x41, 0x41, 0x41, 0x00, 0x42]) overlappingSignature 0x1000 5 := by
  refine ⟨by rfl, by decide, fun complete => ?_⟩
  obtain ⟨⟨first, trace, found, -⟩, -⟩ := complete 0x1001 (by decide) (by decide) (by decide)
  have nothing : memoryScanOnce (held [0x41, 0x41, 0x41, 0x00, 0x42]) 0x1000 (0x1000 + 5)
      overlappingSignature = .ok (none, ⟨[], [⟨0x1000, 5⟩, ⟨0x1003, 1⟩, ⟨0x1002, 3⟩]⟩) := by rfl
  cases nothing.symm.trans found

/-- No proper end of the bytes is also their beginning. -/
def Unbordered (bytes : List Byte) : Prop :=
  ∀ shift, 0 < shift → shift < bytes.length → bytes.drop shift ≠ bytes.take (bytes.length - shift)

/-- A needle that does not overlap itself hides nothing. -/
theorem complete_of_unbordered {pattern : MatchPattern} (formed : pattern.WellFormed)
    (hasExact : ∃ token ∈ pattern.tokens, token.type = .exact)
    (unbordered : ∀ needle ∈ matchPatternGetLongestToken pattern .exact, Unbordered needle.bytes)
    (memory : Memory) (base : ℤ) (len : ℕ) : Complete memory pattern base len := by
  refine complete_of_unhidden formed hasExact fun needle longest position hidden => ?_
  obtain ⟨before, other, after, layout⟩ := formed.layout hasExact
  cases layout.longest.symm.trans longest
  obtain ⟨-, -, matched, cur, picked, earlier, overlaps, -⟩ := hidden
  rw [layout.lead_eq] at matched
  obtain ⟨-, -, occurs⟩ := mem_candidates layout.needle_pos picked
  have found := (layout.accepts_of_matches matched).1
  rw [memcmp_eq_true_iff] at occurs found
  refine absurd ?_ (unbordered needle longest (position - cur).toNat (by omega) (by omega))
  refine List.ext_getElem (by simp) fun i first second => ?_
  rw [List.length_drop] at first
  rw [List.getElem_drop, List.getElem_take]
  have left := occurs ((position - cur).toNat + i) (by omega)
  have right := found i (by omega)
  have same : cur + (((position - cur).toNat + i : ℕ) : ℤ) = position + i := by omega
  rw [← left, ← right, same]

/-- Nothing is read outside the region, and no reported match reaches outside it. -/
def Confined (pattern : MatchPattern) (base : ℤ) (len : ℕ) (trace : ScanTrace) (reported : List ℤ) :
    Prop :=
  (∀ extent ∈ trace.reads, extent.Inside base (base + len)) ∧
    ∀ address ∈ reported, base ≤ address ∧ address + pattern.span ≤ base + len

/-- All three scans keep to the region, whatever the memory holds and the callback
answers. -/
def KeepsToRegion (pattern : MatchPattern) (base : ℤ) (len : ℕ) : Prop :=
  ∀ memory func,
    (∀ result trace, memoryScan memory base len func pattern = .ok (result, trace) →
      Confined pattern base len trace trace.reported) ∧
    (∀ trace, memoryScanAsyn memory base len func pattern = .ok trace →
      Confined pattern base len trace trace.reported) ∧
    ∀ first trace, memoryScanOnce memory base (base + len) pattern = .ok (first, trace) →
      Confined pattern base len trace first.toList

namespace Layout

variable {memory : Memory} {pattern : MatchPattern} {before after : List MatchToken}
  {needle : MatchToken} {base : ℤ} {len : ℕ}

/-- What keeps the scans to the region: only the needle is compared, or it does
not fit. -/
theorem confined (layout : Layout pattern before needle after)
    (alone : pattern.tokens.length = 1 ∨ len < needle.bytes.length) {trace : ScanTrace}
    {calls reported : List ℤ}
    (traced : Traced memory pattern needle base (base + len) { cur := base } trace calls)
    (hit : ∀ address ∈ reported, address ∈ hits memory before needle after base len) :
    Confined pattern base len trace reported := by
  have positive := layout.needle_pos
  have span := layout.span_eq
  have whole : (base + len - base).toNat = len := by omega
  have inside := traced.confined
  simp only [whole] at inside
  rcases alone with single | short
  · have sides : before = [] ∧ after = [] := by
      rw [layout.split, List.length_append, List.length_cons] at single
      exact ⟨List.length_eq_zero_iff.mp (by omega), List.length_eq_zero_iff.mp (by omega)⟩
    obtain ⟨rfl, rfl⟩ := sides
    refine ⟨inside (fun cur _ => layout.examineReads_alone memory cur) (List.forall_mem_nil _), ?_⟩
    intro address member
    obtain ⟨picked, -⟩ := mem_hits_iff.mp (hit address member)
    obtain ⟨above, below, -⟩ := mem_candidates positive picked
    simp only [tokensLength, List.map_nil, List.sum_nil] at above below span
    omega
  · have none : candidates memory needle.bytes base len = [] := by
      rw [candidates, Nat.sub_eq_zero_of_le (by omega)]
      rfl
    have unread := List.forall_mem_nil (α := ℤ) fun cur =>
      examineReads memory pattern needle cur = []
    rw [← none] at unread
    refine ⟨inside unread (List.forall_mem_nil _), ?_⟩
    intro address member
    have picked := (mem_hits_iff.mp (hit address member)).1
    rw [none] at picked
    cases picked

/-- A full match at `cur` that is a candidate has to lie in the region. -/
theorem extent_inside (layout : Layout pattern before needle after)
    (keeps : KeepsToRegion pattern base len) {cur : ℤ}
    (picked : cur ∈ candidates memory needle.bytes base len)
    (matched : MatchesAt memory (cur - tokensLength before) pattern.flatten) :
    base ≤ cur - tokensLength before ∧ cur - tokensLength before + pattern.span ≤ base + len := by
  obtain ⟨result, trace, scanned, all⟩ := layout.memoryScan_always memory base len
  have accepted := (layout.accepts_of_matches matched).2
  apply ((keeps memory fun _ _ => true).1 result trace scanned).2 _
  rw [all, mem_hits_iff, Int.sub_add_cancel]
  exact ⟨picked, accepted⟩

/-- A needle at the start of the region has the tokens before it outside. -/
theorem before_eq_nil (layout : Layout pattern before needle after)
    (keeps : KeepsToRegion pattern base len) (room : needle.bytes.length ≤ len) : before = [] := by
  let memory := painted pattern.flatten (base - tokensLength before) 0
  have matched : MatchesAt memory (base - tokensLength before) pattern.flatten :=
    painted_matches _ _ _
  have found := (layout.accepts_of_matches matched).1
  have picked : base ∈ candidates memory needle.bytes base len := by
    rcases candidates_cover layout.needle_pos (Int.le_refl base)
      (show base + (needle.bytes.length : ℤ) ≤ base + len by omega) found with
      here | ⟨earlier, picked, below, -⟩
    · exact here
    · have above := (mem_candidates layout.needle_pos picked).1
      omega
  have inside := (layout.extent_inside keeps picked matched).1
  cases before with
  | nil => rfl
  | cons token rest =>
    have nonempty := List.length_pos_iff.mpr
      (layout.beforeFormed token List.mem_cons_self).nonempty
    rw [tokensLength_cons] at inside
    omega

/-- A needle at the end of the region has the tokens after it outside. -/
theorem after_eq_nil (layout : Layout pattern [] needle after)
    (keeps : KeepsToRegion pattern base len) (room : needle.bytes.length ≤ len) : after = [] := by
  obtain ⟨byte, bytes, split⟩ := List.exists_cons_of_ne_nil
    (layout.formed.tokens needle layout.mem_needle).nonempty
  let cur : ℤ := base + len - needle.bytes.length
  -- the bytes before the needle keep it from occurring earlier
  let memory := painted pattern.flatten cur (~~~byte)
  have start : cur - (tokensLength [] : ℕ) = cur := Int.sub_zero cur
  have matched : MatchesAt memory (cur - (tokensLength [] : ℕ)) pattern.flatten := by
    rw [start]
    exact painted_matches _ _ _
  have found := (layout.accepts_of_matches matched).1
  have picked : cur ∈ candidates memory needle.bytes base len := by
    rcases candidates_cover layout.needle_pos (show base ≤ cur by omega)
      (show cur + (needle.bytes.length : ℤ) ≤ base + len by omega) found with
      here | ⟨earlier, picked, below, -⟩
    · exact here
    · have occurs := (mem_candidates layout.needle_pos picked).2.2
      have first := (memcmp_eq_true_iff memory).mp occurs 0 layout.needle_pos
      simp only [split, List.getElem_cons_zero, Int.natCast_zero, Int.add_zero] at first
      have filled : memory earlier = ~~~byte := painted_before below
      have whole : ~~~byte &&& 0xff#8 = byte &&& 0xff#8 := by rw [filled.symm.trans first]
      exact absurd (complement_differs whole) (by decide)
  have inside := (layout.extent_inside keeps picked matched).2
  rw [start, layout.span_eq] at inside
  cases after with
  | nil => rfl
  | cons token rest =>
    have nonempty := List.length_pos_iff.mpr (layout.afterFormed token List.mem_cons_self).nonempty
    rw [tokensLength_cons] at inside
    omega

end Layout

/-- The scans keep to a region exactly when the pattern is a single exact token, or
the needle does not fit into the region. -/
theorem keepsToRegion_iff {pattern : MatchPattern} (formed : pattern.WellFormed)
    (hasExact : ∃ token ∈ pattern.tokens, token.type = .exact) (base : ℤ) (len : ℕ) :
    KeepsToRegion pattern base len ↔ pattern.tokens.length = 1 ∨
      ∀ needle ∈ matchPatternGetLongestToken pattern .exact, len < needle.bytes.length := by
  obtain ⟨before, needle, after, layout⟩ := formed.layout hasExact
  have short : (∀ needle ∈ matchPatternGetLongestToken pattern .exact, len < needle.bytes.length) ↔
      len < needle.bytes.length := by simp [layout.longest]
  rw [short]
  constructor
  · intro keeps
    by_cases room : needle.bytes.length ≤ len
    · obtain rfl := layout.before_eq_nil keeps room
      obtain rfl := layout.after_eq_nil keeps room
      exact .inl (by rw [layout.split]; rfl)
    · exact .inr (Nat.lt_of_not_le room)
  · intro alone memory func
    obtain ⟨_, scan, scanned, traced⟩ := layout.memoryScan_traced memory base len func
    have scanConfined : Confined pattern base len scan scan.reported := by
      refine layout.confined alone traced fun address member => ?_
      rw [traced.reported, List.nil_append] at member
      exact (callsOn_beginning _ _).subset member
    refine ⟨?_, ?_, ?_⟩
    · intro result trace same
      cases scanned.symm.trans same
      exact scanConfined
    · intro trace same
      rw [layout.memoryScanAsyn_eq memory base len func, scanned] at same
      cases same
      exact scanConfined
    · intro first trace same
      obtain ⟨once, ended, traced⟩ := layout.memoryScanOnce_traced memory base len
      cases ended.symm.trans same
      refine layout.confined alone traced fun address member => ?_
      exact List.mem_of_head? (Option.mem_toList.mp member)

theorem keepsToRegion_iff_single :
    KeepsToRegion ⟨[⟨.exact, [0x41, 0x42], [], 0⟩], 1, 2⟩ 0x1000 3 :=
  (keepsToRegion_iff ⟨by decide, rfl, by decide, by decide⟩ ⟨_, .head _, rfl⟩ 0x1000 3).mpr (.inl rfl)

/-- The tokens before a needle at the start of the region are read below it. -/
theorem match_reported_below_region :
    Reported (held [0x41, 0x42, 0x43, 0x44]) maskedSignature 0x1002 2 (fun _ _ => true) 0x1000 ∧
    ¬ KeepsToRegion maskedSignature 0x1002 2 := by
  have scanned : memoryScan (held [0x41, 0x42, 0x43, 0x44]) 0x1002 2 (fun _ _ => true)
      maskedSignature = .ok (true, ⟨[0x1000], [⟨0x1002, 2⟩, ⟨0x1001, 1⟩, ⟨0x1000, 1⟩]⟩) := by rfl
  refine ⟨.inl ⟨_, _, scanned, by decide⟩, fun keeps => ?_⟩
  have inside := ((keeps (held [0x41, 0x42, 0x43, 0x44]) fun _ _ => true).1 _ _ scanned).2 0x1000
    (by decide)
  exact absurd inside.1 (by decide)

end QbdiTracer.MemoryScan
