import QbdiTracer.ScanSpec

/-! The three scan loops: each ends, and reports the accepted ones of the leftmost
non-overlapping occurrences of the needle. -/

namespace QbdiTracer.MemoryScan

open WhileLoop GreedySearch

/-- The leftmost non-overlapping occurrences of the needle in a region. -/
def candidates (memory : Memory) (needle : List Byte) (base : ℤ) (len : ℕ) : List ℤ :=
  greedy (fun cur => memcmp memory cur needle) needle.length base (len + 1 - needle.length)

section Search

variable {memory : Memory} {needle : List Byte} {cur position : ℤ} {len : ℕ}

theorem memmem_eq_first (positive : 0 < needle.length) (cur : ℤ) (len : ℕ) :
    memmem memory needle cur len =
      first (fun cur => memcmp memory cur needle) cur (len + 1 - needle.length) := by
  induction len generalizing cur with
  | zero =>
    rw [Nat.sub_eq_zero_of_le (by omega), memmem, if_neg (by omega)]
    rfl
  | succ len ih =>
    by_cases short : len + 1 < needle.length
    · rw [Nat.sub_eq_zero_of_le (by omega), memmem, if_pos short]
      rfl
    · have count : len + 1 + 1 - needle.length = len + 1 - needle.length + 1 := by omega
      rw [memmem, if_neg short, count, first, ih]

theorem candidates_none (positive : 0 < needle.length)
    (absent : memmem memory needle cur len = none) : candidates memory needle cur len = [] := by
  rw [memmem_eq_first positive] at absent
  exact first_eq_none absent

/-- The search goes on behind the occurrence it has found. -/
theorem candidates_some (positive : 0 < needle.length)
    (found : memmem memory needle cur len = some position) :
    cur ≤ position ∧ position + needle.length ≤ cur + len ∧
      candidates memory needle cur len = position :: candidates memory needle
        (position + needle.length) (cur + len - (position + needle.length)).toNat := by
  rw [memmem_eq_first positive] at found
  obtain ⟨above, below, -⟩ := first_eq_some found
  refine ⟨above, by omega, ?_⟩
  have rest : len + 1 - needle.length - (position - cur).toNat - needle.length =
      (cur + len - (position + needle.length)).toNat + 1 - needle.length := by omega
  rw [candidates, greedy_first positive found, rest]
  rfl

theorem candidates_empty (positive : 0 < needle.length) (cur : ℤ) :
    candidates memory needle cur 0 = [] := by
  rw [candidates, Nat.sub_eq_zero_of_le (by omega)]
  rfl

theorem mem_candidates (positive : 0 < needle.length)
    (member : position ∈ candidates memory needle cur len) :
    cur ≤ position ∧ position + needle.length ≤ cur + len ∧
      memcmp memory position needle = true := by
  obtain ⟨above, below, occurs⟩ := mem_greedy positive member
  exact ⟨above, by omega, occurs⟩

/-- An occurrence of the needle in the region is a candidate, or overlaps an
earlier candidate. -/
theorem candidates_cover (positive : 0 < needle.length) (above : cur ≤ position)
    (below : position + needle.length ≤ cur + len) (occurs : memcmp memory position needle = true) :
    position ∈ candidates memory needle cur len ∨
      ∃ earlier ∈ candidates memory needle cur len,
        earlier < position ∧ position < earlier + needle.length :=
  greedy_covers positive above (by omega) occurs

end Search

/-- The matches a scan comes to, by the places where they begin. -/
def hits (memory : Memory) (before : List MatchToken) (needle : MatchToken)
    (after : List MatchToken) (base : ℤ) (len : ℕ) : List ℤ :=
  ((candidates memory needle.bytes base len).filter (accepts memory before needle after)).map
    (· - tokensLength before)

/-- The calls of a callback that is offered a sequence of addresses after the
calls `past`: up to the first one it answers with false. -/
def callsOn (func : Callback) : List ℤ → List ℤ → List ℤ
  | _, [] => []
  | past, address :: rest =>
    address :: if func past address then callsOn func (past ++ [address]) rest else []

def Extent.Inside (base stop : ℤ) (extent : Extent) : Prop :=
  base ≤ extent.start ∧ extent.start + extent.len ≤ stop

section Rounds

variable {memory : Memory} {pattern : MatchPattern} {before after : List MatchToken}
  {needle : MatchToken} {base stop : ℤ} {state : ScanState} {cur : ℤ}

/-- A trace that goes on from a state: the further calls, and the reads. -/
structure Traced (memory : Memory) (pattern : MatchPattern) (needle : MatchToken) (base stop : ℤ)
    (state : ScanState) (trace : ScanTrace) (calls : List ℤ) : Prop where
  reported : trace.reported = state.reported ++ calls
  confined : (∀ cur ∈ candidates memory needle.bytes state.cur (stop - state.cur).toNat,
      examineReads memory pattern needle cur = []) →
    (∀ extent ∈ state.reads, extent.Inside base stop) →
    ∀ extent ∈ trace.reads, extent.Inside base stop

theorem Traced.refl (state : ScanState) :
    Traced memory pattern needle base stop state state.toScanTrace [] :=
  ⟨(List.append_nil _).symm, fun _ inside => inside⟩

theorem inside_haystack (above : base ≤ state.cur) (below : state.cur ≤ stop)
    (inside : ∀ extent ∈ state.reads, extent.Inside base stop) :
    ∀ extent ∈ state.reads ++ [⟨state.cur, (stop - state.cur).toNat⟩], extent.Inside base stop := by
  intro extent member
  rcases List.mem_append.mp member with earlier | last
  · exact inside extent earlier
  · cases List.mem_singleton.mp last
    refine ⟨above, ?_⟩
    simp only
    omega

/-- A search that finds nothing. -/
theorem Traced.searched (above : base ≤ state.cur) (below : state.cur ≤ stop) :
    Traced memory pattern needle base stop state
      { state.toScanTrace with
        reads := state.reads ++ [⟨state.cur, (stop - state.cur).toNat⟩] } [] :=
  ⟨(List.append_nil _).symm, fun _ inside => inside_haystack above below inside⟩

/-- The state behind a candidate, after the calls made for it. -/
def ScanState.behind (memory : Memory) (pattern : MatchPattern) (needle : MatchToken) (stop : ℤ)
    (state : ScanState) (cur : ℤ) (calls : List ℤ) : ScanState where
  cur := cur + needle.bytes.length
  reported := state.reported ++ calls
  reads := state.reads ++ [⟨state.cur, (stop - state.cur).toNat⟩] ++
    examineReads memory pattern needle cur

theorem Traced.behind {trace : ScanTrace} {calls later : List ℤ} (above : base ≤ state.cur)
    (below : state.cur ≤ stop) (positive : 0 < needle.bytes.length)
    (found : memmem memory needle.bytes state.cur (stop - state.cur).toNat = some cur)
    (traced : Traced memory pattern needle base stop
      (state.behind memory pattern needle stop cur calls) trace later) :
    Traced memory pattern needle base stop state trace (calls ++ later) := by
  obtain ⟨-, -, split⟩ := candidates_some positive found
  refine ⟨?_, fun quiet inside => ?_⟩
  · rw [traced.reported, ScanState.behind, List.append_assoc]
  · have room : state.cur + (stop - state.cur).toNat = stop := by omega
    rw [split, room] at quiet
    refine traced.confined (fun later member => quiet later (List.mem_cons_of_mem _ member)) ?_
    rw [ScanState.behind, quiet cur List.mem_cons_self, List.append_nil]
    exact inside_haystack above below inside

/-- The places a scan of a region can stand at. -/
def ScanState.Within (base stop : ℤ) (state : ScanState) : Prop :=
  base ≤ state.cur ∧ state.cur ≤ stop

/-- How much of the region is left. -/
def ScanState.rest (stop : ℤ) (state : ScanState) : ℕ := (stop - state.cur).toNat

/-- The hits still ahead of a state. -/
def ScanState.ahead (memory : Memory) (before : List MatchToken) (needle : MatchToken)
    (after : List MatchToken) (stop : ℤ) (state : ScanState) : List ℤ :=
  hits memory before needle after state.cur (stop - state.cur).toNat

theorem ScanState.behind_within (pattern : MatchPattern) (positive : 0 < needle.bytes.length)
    (within : state.Within base stop)
    (found : memmem memory needle.bytes state.cur (stop - state.cur).toNat = some cur)
    (calls : List ℤ) :
    (state.behind memory pattern needle stop cur calls).Within base stop ∧
      (state.behind memory pattern needle stop cur calls).rest stop < state.rest stop := by
  obtain ⟨above, below⟩ := within
  obtain ⟨ahead, inside, -⟩ := candidates_some positive found
  refine ⟨⟨?_, ?_⟩, ?_⟩
  · simp only [ScanState.behind]
    omega
  · simp only [ScanState.behind]
    omega
  · simp only [ScanState.behind, ScanState.rest]
    omega

/-- What the search of one round comes to: the region is used up, the needle does
not occur any more, or a candidate is tested. -/
inductive Search (memory : Memory) (pattern : MatchPattern) (before : List MatchToken)
    (needle : MatchToken) (after : List MatchToken) (stop : ℤ) (state : ScanState) : Prop where
  | finished (ended : ¬ state.cur < stop)
      (none : state.ahead memory before needle after stop = [])
  | absent (goes : state.cur < stop)
      (missing : memmem memory needle.bytes state.cur (stop - state.cur).toNat = none)
      (none : state.ahead memory before needle after stop = [])
  | tested (cur : ℤ) (goes : state.cur < stop)
      (found : memmem memory needle.bytes state.cur (stop - state.cur).toNat = some cur)
      (tests : examine memory pattern needle cur = .ok (accepts memory before needle after cur,
        cur - tokensLength before, examineReads memory pattern needle cur))
      (more : ∀ calls, state.ahead memory before needle after stop =
        (if accepts memory before needle after cur then [cur - tokensLength before] else []) ++
          (state.behind memory pattern needle stop cur calls).ahead memory before needle after stop)

theorem Layout.search (layout : Layout pattern before needle after) (memory : Memory)
    (within : state.Within base stop) :
    Search memory pattern before needle after stop state := by
  have positive := layout.needle_pos
  obtain ⟨above, below⟩ := within
  by_cases goes : state.cur < stop
  · cases found : memmem memory needle.bytes state.cur (stop - state.cur).toNat with
    | none =>
      refine .absent goes found ?_
      rw [ScanState.ahead, hits, candidates_none positive found]
      rfl
    | some cur =>
      refine .tested cur goes found (layout.examine_eq memory cur) fun calls => ?_
      obtain ⟨-, -, split⟩ := candidates_some positive found
      have room : state.cur + (stop - state.cur).toNat = stop := by omega
      rw [ScanState.ahead, hits, split, room]
      by_cases accepted : accepts memory before needle after cur = true
      · simp [ScanState.ahead, ScanState.behind, hits, accepted]
      · simp [ScanState.ahead, ScanState.behind, hits, accepted]
  · refine .finished goes ?_
    have ended : (stop - state.cur).toNat = 0 := by omega
    rw [ScanState.ahead, ended, hits, candidates_empty positive]
    rfl

namespace Layout

/-- A round of `memory_scan` ends the loop with the calls due, or leaves the rest
of them to the rounds behind the candidate. -/
theorem memoryScanRound_step (layout : Layout pattern before needle after) (func : Callback)
    (within : state.Within base stop) :
    (∃ result trace, memoryScanRound memory stop func pattern needle state =
        .ok (.leave (result, trace)) ∧
      Traced memory pattern needle base stop state trace
        (callsOn func state.reported (state.ahead memory before needle after stop))) ∨
    ∃ next, memoryScanRound memory stop func pattern needle state = .ok (.again next) ∧
      next.Within base stop ∧ next.rest stop < state.rest stop ∧ ∀ trace,
        Traced memory pattern needle base stop next trace
          (callsOn func next.reported (next.ahead memory before needle after stop)) →
        Traced memory pattern needle base stop state trace
          (callsOn func state.reported (state.ahead memory before needle after stop)) := by
  have positive := layout.needle_pos
  have region := within
  obtain ⟨above, below⟩ := within
  cases layout.search memory region with
  | finished ended none =>
    refine .inl ⟨true, state.toScanTrace, by simp only [memoryScanRound, ended]; rfl, ?_⟩
    rw [none]
    exact .refl state
  | absent goes missing none =>
    refine .inl ⟨false, _, by simp only [memoryScanRound, goes, missing]; rfl, ?_⟩
    rw [none]
    exact .searched above below
  | tested cur goes found tests more =>
    cases verdict : accepts memory before needle after cur with
    | false =>
      obtain ⟨kept, lower⟩ := state.behind_within pattern positive region found []
      refine .inr ⟨state.behind memory pattern needle stop cur [], ?_, kept, lower, ?_⟩
      · simp [memoryScanRound, goes, found, tests, verdict, ScanState.behind, bind, Except.bind,
          pure, Except.pure]
      · intro trace traced
        have calls := traced.behind above below positive found
        rw [more [], verdict]
        simpa [ScanState.behind] using calls
    | true =>
      let address := cur - tokensLength before
      cases answer : func state.reported address with
      | false =>
        refine .inl ⟨true, (state.behind memory pattern needle stop cur [address]).toScanTrace,
          ?_, ?_⟩
        · simp [memoryScanRound, goes, found, tests, verdict, answer, address, ScanState.behind,
            bind, Except.bind, pure, Except.pure]
        · have last : Traced memory pattern needle base stop
              (state.behind memory pattern needle stop cur [address]) _ [] := .refl _
          rw [more [address], verdict]
          simpa [callsOn, answer, address] using last.behind above below positive found
      | true =>
        obtain ⟨kept, lower⟩ := state.behind_within pattern positive region found [address]
        refine .inr ⟨state.behind memory pattern needle stop cur [address], ?_, kept, lower, ?_⟩
        · simp [memoryScanRound, goes, found, tests, verdict, answer, address, ScanState.behind,
            bind, Except.bind, pure, Except.pure]
        · intro trace traced
          have calls := traced.behind above below positive found
          rw [more [address], verdict]
          simpa [callsOn, answer, address, ScanState.behind] using calls

/-- The rounds of `memory_scan_asyn` are those of `memory_scan`, without its
result. -/
theorem memoryScanAsynRound_eq (memory : Memory) (stop : ℤ) (args : Args) (needle : MatchToken)
    (state : ScanState) :
    memoryScanAsynRound memory stop args needle state =
      (memoryScanRound memory stop args.func args.pattern needle state).map
        (Round.map Prod.snd) := by
  by_cases goes : state.cur < stop
  · cases found : memmem memory needle.bytes state.cur (stop - state.cur).toNat with
    | none => simp only [memoryScanAsynRound, memoryScanRound, goes, found]; rfl
    | some cur =>
      cases tests : examine memory args.pattern needle cur with
      | error fault => simp only [memoryScanAsynRound, memoryScanRound, goes, found, tests]; rfl
      | ok tested =>
        obtain ⟨matched, address, reads⟩ := tested
        cases matched <;> cases answer : args.func state.reported address <;>
          simp [memoryScanAsynRound, memoryScanRound, goes, found, tests, answer, bind, Except.bind,
            Except.map, pure, Except.pure, Round.map]
  · simp only [memoryScanAsynRound, memoryScanRound, goes]
    rfl

theorem memoryScanOnceRound_step (layout : Layout pattern before needle after)
    (within : state.Within base stop) :
    (∃ trace, memoryScanOnceRound memory stop pattern needle state =
        .ok (.leave ((state.ahead memory before needle after stop).head?, trace)) ∧
      Traced memory pattern needle base stop state trace []) ∨
    ∃ next, memoryScanOnceRound memory stop pattern needle state = .ok (.again next) ∧
      next.Within base stop ∧ next.rest stop < state.rest stop ∧
      state.ahead memory before needle after stop = next.ahead memory before needle after stop ∧
      ∀ trace, Traced memory pattern needle base stop next trace [] →
        Traced memory pattern needle base stop state trace [] := by
  have positive := layout.needle_pos
  have region := within
  obtain ⟨above, below⟩ := within
  cases layout.search memory region with
  | finished ended none =>
    refine .inl ⟨state.toScanTrace, ?_, .refl state⟩
    rw [none]
    simp only [memoryScanOnceRound, ended]
    rfl
  | absent goes missing none =>
    refine .inl ⟨_, ?_, .searched above below⟩
    rw [none]
    simp only [memoryScanOnceRound, goes, missing]
    rfl
  | tested cur goes found tests more =>
    have back : ∀ trace, Traced memory pattern needle base stop
        (state.behind memory pattern needle stop cur []) trace [] →
        Traced memory pattern needle base stop state trace [] := by
      intro trace traced
      exact traced.behind above below positive found
    cases verdict : accepts memory before needle after cur with
    | false =>
      obtain ⟨kept, lower⟩ := state.behind_within pattern positive region found []
      refine .inr ⟨state.behind memory pattern needle stop cur [], ?_, kept, lower, ?_, back⟩
      · simp [memoryScanOnceRound, goes, found, tests, verdict, ScanState.behind, bind, Except.bind,
          pure, Except.pure]
      · rw [more [], verdict]
        rfl
    | true =>
      refine .inl ⟨(state.behind memory pattern needle stop cur []).toScanTrace, ?_,
        back _ (.refl _)⟩
      rw [more [], verdict]
      simp [memoryScanOnceRound, goes, found, tests, verdict, ScanState.behind, bind, Except.bind,
        pure, Except.pure]

end Layout

end Rounds

theorem copyTokens_eq (pattern : MatchPattern) : copyTokens pattern = pattern := by
  have pushes : ∀ {Item Copy : Type} (copy : Item → Copy) (items : List Item) (done : List Copy),
      items.foldl (fun copied item => copied ++ [copy item]) done = done ++ items.map copy := by
    intro Item Copy copy items done
    induction items generalizing done with
    | nil => simp
    | cons item rest ih => simp [ih]
  have token : ∀ item : MatchToken, copyToken item = item := by
    intro item
    have bytes : ∀ items : List Byte, items.foldl (fun copied item => copied ++ [item]) [] = items :=
      fun items => (pushes id items []).trans (by simp)
    unfold copyToken
    rw [bytes, bytes]
  have same : copyToken = id := funext token
  unfold copyTokens
  rw [pushes copyToken, same, List.map_id, List.nil_append]

namespace Layout

variable {pattern : MatchPattern} {before after : List MatchToken} {needle : MatchToken}

/-- `memory_scan` ends, having offered the callback its hits. -/
theorem memoryScan_traced (layout : Layout pattern before needle after) (memory : Memory) (base : ℤ)
    (len : ℕ) (func : Callback) :
    ∃ result trace, memoryScan memory base len func pattern = .ok (result, trace) ∧
      Traced memory pattern needle base (base + len) { cur := base } trace
        (callsOn func [] (hits memory before needle after base len)) := by
  have looped : ∀ state fuel, state.Within base (base + len) → state.rest (base + len) < fuel →
      ∃ outcome, iterate (fun state => .ofExcept
          (memoryScanRound memory (base + len) func pattern needle state)) fuel state =
          some outcome ∧
        ∃ result trace, outcome = .ok (result, trace) ∧
          Traced memory pattern needle base (base + len) state trace (callsOn func state.reported
            (state.ahead memory before needle after (base + len))) := by
    intro state fuel within enough
    refine iterate_total (ScanState.Within base (base + len)) (ScanState.rest (base + len))
      (fun state (outcome : Except ScanFault (Bool × ScanTrace)) => ∃ result trace,
        outcome = .ok (result, trace) ∧ Traced memory pattern needle base (base + len) state trace
          (callsOn func state.reported
            (state.ahead memory before needle after (base + len)))) ?_ within enough
    intro state within
    rcases layout.memoryScanRound_step func within with
      ⟨result, trace, left, traced⟩ | ⟨next, goes, kept, lower, back⟩
    · exact .inl ⟨_, by rw [left]; rfl, result, trace, rfl, traced⟩
    · refine .inr ⟨next, by rw [goes]; rfl, kept, lower, ?_⟩
      rintro outcome ⟨result, trace, same, traced⟩
      exact ⟨result, trace, same, back trace traced⟩
  obtain ⟨_, ended, result, trace, rfl, traced⟩ := looped { cur := base } (len + 1)
    ⟨Int.le_refl _, by simp only; omega⟩ (by simp only [ScanState.rest]; omega)
  have whole : (base + len - base).toNat = len := by omega
  refine ⟨result, trace, by simp only [memoryScan, layout.longest, ended]; rfl, ?_⟩
  simpa [ScanState.ahead, whole] using traced

/-- `memory_scan_asyn` on the copy of the pattern makes the same calls. -/
theorem memoryScanAsyn_eq (layout : Layout pattern before needle after) (memory : Memory) (base : ℤ)
    (len : ℕ) (func : Callback) :
    memoryScanAsyn memory base len func pattern =
      (memoryScan memory base len func pattern).map Prod.snd := by
  unfold memoryScanAsyn memoryScanThread memoryScan
  rw [copyTokens_eq]
  simp only [layout.longest]
  rw [iterate_map (Except.map Prod.snd) fun state => by
    rw [memoryScanAsynRound_eq, Round.ofExcept_map]]
  cases iterate (fun state => .ofExcept
    (memoryScanRound memory (base + len) func pattern needle state)) (len + 1) { cur := base } <;> rfl

/-- `memoryScanOnce` ends with the first of the hits. -/
theorem memoryScanOnce_traced (layout : Layout pattern before needle after) (memory : Memory)
    (base : ℤ) (len : ℕ) :
    ∃ trace, memoryScanOnce memory base (base + len) pattern =
        .ok ((hits memory before needle after base len).head?, trace) ∧
      Traced memory pattern needle base (base + len) { cur := base } trace [] := by
  have looped : ∀ state fuel, state.Within base (base + len) → state.rest (base + len) < fuel →
      ∃ outcome, iterate (fun state => .ofExcept
          (memoryScanOnceRound memory (base + len) pattern needle state)) fuel state =
          some outcome ∧
        ∃ trace, outcome = .ok ((state.ahead memory before needle after (base + len)).head?, trace) ∧
          Traced memory pattern needle base (base + len) state trace [] := by
    intro state fuel within enough
    refine iterate_total (ScanState.Within base (base + len)) (ScanState.rest (base + len))
      (fun state (outcome : Except ScanFault (Option ℤ × ScanTrace)) => ∃ trace,
        outcome = .ok ((state.ahead memory before needle after (base + len)).head?, trace) ∧
        Traced memory pattern needle base (base + len) state trace []) ?_ within enough
    intro state within
    rcases layout.memoryScanOnceRound_step within with
      ⟨trace, left, traced⟩ | ⟨next, goes, kept, lower, same, back⟩
    · exact .inl ⟨_, by rw [left]; rfl, trace, rfl, traced⟩
    · refine .inr ⟨next, by rw [goes]; rfl, kept, lower, ?_⟩
      rintro outcome ⟨trace, first, traced⟩
      exact ⟨trace, by rw [first, same], back trace traced⟩
  obtain ⟨_, ended, trace, rfl, traced⟩ := looped { cur := base } (len + 1)
    ⟨Int.le_refl _, by simp only; omega⟩ (by simp only [ScanState.rest]; omega)
  have whole : (base + len - base).toNat = len := by omega
  refine ⟨trace, ?_, traced⟩
  simp only [memoryScanOnce, layout.longest, whole, ended]
  simp only [ScanState.ahead, whole]
  rfl

end Layout

end QbdiTracer.MemoryScan
