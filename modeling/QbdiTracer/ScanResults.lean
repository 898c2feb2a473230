import QbdiTracer.ScanLoops

/-! What the scans report: the three loops against each other, against the full
matches of the pattern, and against the region. -/

namespace QbdiTracer.MemoryScan

open WhileLoop GreedySearch

section Calls

variable {func : Callback}

theorem callsOn_beginning (past addresses : List ℤ) : callsOn func past addresses <+: addresses := by
  induction addresses generalizing past with
  | nil => exact List.prefix_refl _
  | cons address rest ih =>
    rw [callsOn, List.prefix_cons_inj]
    split
    · exact ih _
    · exact List.nil_prefix

theorem callsOn_head? (func : Callback) (past addresses : List ℤ) :
    (callsOn func past addresses).head? = addresses.head? := by
  cases addresses <;> rfl

/-- No call follows one that was answered with false. -/
theorem callsOn_stops {past addresses earlier rest : List ℤ} {address : ℤ}
    (calls : callsOn func past addresses = earlier ++ address :: rest)
    (answer : func (past ++ earlier) address = false) : rest = [] := by
  induction addresses generalizing past earlier with
  | nil => simp [callsOn] at calls
  | cons first others ih =>
    rw [callsOn] at calls
    cases earlier with
    | nil =>
      obtain ⟨rfl, tail⟩ := List.cons.inj calls
      rw [List.append_nil] at answer
      simpa [answer] using tail.symm
    | cons head earlier =>
      obtain ⟨rfl, tail⟩ := List.cons.inj calls
      split at tail
      · exact ih tail (by simpa using answer)
      · simp at tail

theorem callsOn_always (past addresses : List ℤ) :
    callsOn (fun _ _ => true) past addresses = addresses := by
  induction addresses generalizing past with
  | nil => rfl
  | cons address rest ih => simp [callsOn, ih]

end Calls

section Hits

variable {memory : Memory} {pattern : MatchPattern} {before after : List MatchToken}
  {needle : MatchToken} {base : ℤ} {len : ℕ}

theorem Layout.hits_increasing (layout : Layout pattern before needle after) (memory : Memory)
    (base : ℤ) (len : ℕ) : (hits memory before needle after base len).Pairwise (· < ·) := by
  have positive := layout.needle_pos
  refine List.pairwise_map.mpr (List.Pairwise.filter _ ?_)
  apply (greedy_pairwise positive base (len + 1 - needle.bytes.length)).imp
  intro left right apart
  omega

theorem mem_hits_iff {address : ℤ} :
    address ∈ hits memory before needle after base len ↔
      address + tokensLength before ∈ candidates memory needle.bytes base len ∧
        accepts memory before needle after (address + tokensLength before) = true := by
  unfold hits
  simp only [List.mem_map, List.mem_filter]
  constructor
  · rintro ⟨cur, picked, rfl⟩
    simpa using picked
  · intro picked
    exact ⟨_, picked, by omega⟩

theorem head?_le {addresses : List ℤ} {address : ℤ} (increasing : addresses.Pairwise (· < ·))
    (member : address ∈ addresses) : ∃ first, addresses.head? = some first ∧ first ≤ address := by
  cases addresses with
  | nil => cases member
  | cons first rest =>
    refine ⟨first, rfl, ?_⟩
    rcases List.mem_cons.mp member with rfl | later
    · exact Int.le_refl _
    · exact Int.le_of_lt ((List.pairwise_cons.mp increasing).1 address later)

end Hits

/-- On every pattern with an exact token the three loops end and agree: the same
calls of the callback from `memory_scan` and from the thread on the copied
pattern, in increasing order and up to the first one answered with false, and
`memoryScanOnce` returns the first of them. -/
theorem scans_agree {pattern : MatchPattern} (formed : pattern.WellFormed)
    (hasExact : ∃ token ∈ pattern.tokens, token.type = .exact) (memory : Memory) (base : ℤ)
    (len : ℕ) (func : Callback) :
    ∃ result scan thread first once,
      memoryScan memory base len func pattern = .ok (result, scan) ∧
      memoryScanAsyn memory base len func pattern = .ok thread ∧
      memoryScanOnce memory base (base + len) pattern = .ok (first, once) ∧
      thread.reported = scan.reported ∧ scan.reported.Pairwise (· < ·) ∧
      (∀ earlier address rest, scan.reported = earlier ++ address :: rest →
        func earlier address = false → rest = []) ∧
      first = scan.reported.head? ∧ (first = none ↔ scan.reported = []) := by
  obtain ⟨before, needle, after, layout⟩ := formed.layout hasExact
  obtain ⟨result, scan, scanned, traced⟩ := layout.memoryScan_traced memory base len func
  obtain ⟨once, found, -⟩ := layout.memoryScanOnce_traced memory base len
  have calls : scan.reported = callsOn func [] (hits memory before needle after base len) :=
    traced.reported
  refine ⟨result, scan, scan, _, once, scanned, ?_, found, rfl, ?_, ?_, ?_, ?_⟩
  · rw [layout.memoryScanAsyn_eq memory base len func, scanned]
    rfl
  · rw [calls]
    exact (layout.hits_increasing memory base len).sublist (callsOn_beginning _ _).sublist
  · intro earlier address rest split answer
    rw [calls] at split
    exact callsOn_stops split answer
  · rw [calls, callsOn_head?]
  · rw [calls, ← callsOn_head? func [], List.head?_eq_none_iff]

theorem scans_agree_overlapping :
    ∃ result scan thread first once,
      memoryScan (held [0x41, 0x41, 0x00, 0x42]) 0x1000 4 (fun _ _ => true) overlappingSignature =
        .ok (result, scan) ∧
      memoryScanAsyn (held [0x41, 0x41, 0x00, 0x42]) 0x1000 4 (fun _ _ => true)
        overlappingSignature =
        .ok thread ∧
      memoryScanOnce (held [0x41, 0x41, 0x00, 0x42]) 0x1000 0x1004 overlappingSignature =
        .ok (first, once) ∧
      thread.reported = scan.reported ∧ first = scan.reported.head? := by
  obtain ⟨result, scan, thread, first, once, scanned, threaded, found, same, -, -, head, -⟩ :=
    scans_agree overlappingSignature_formed ⟨_, .head _, rfl⟩ (held [0x41, 0x41, 0x00, 0x42]) 0x1000
      4 fun _ _ => true
  exact ⟨result, scan, thread, first, once, scanned, threaded, found, same, head⟩

end QbdiTracer.MemoryScan
