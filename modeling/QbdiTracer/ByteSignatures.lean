import QbdiTracer.PatternOutcomes
import QbdiTracer.ScanRegion

/-! From the text of a byte signature to the addresses that the scans report: a pattern of
whole bytes is searched for like a string. -/

namespace QbdiTracer.MemoryScan

open GreedySearch

/-- The bytes stand in the memory from this address on. -/
def StandsAt (memory : Memory) (bytes : List Byte) (address : ℤ) : Prop :=
  ∀ i (inside : i < bytes.length), memory (address + i) = bytes[i]

/-- The occurrences in a region that a search from the left comes to, going on behind each: they
do not overlap, and every other occurrence overlaps one of them from the right. -/
structure FoundFromLeft (memory : Memory) (bytes : List Byte) (base : ℤ) (len : ℕ)
    (found : List ℤ) : Prop where
  stands : ∀ address ∈ found, base ≤ address ∧ address + bytes.length ≤ base + len ∧
    StandsAt memory bytes address
  apart : found.Pairwise fun left right : ℤ => left + bytes.length ≤ right
  others : ∀ address, base ≤ address → address + bytes.length ≤ base + len →
    StandsAt memory bytes address →
    ∃ earlier ∈ found, earlier ≤ address ∧ address < earlier + bytes.length

section Found

variable {memory : Memory} {bytes : List Byte} {base : ℤ} {len : ℕ} {found : List ℤ}

theorem foundFromLeft_iff_leftmost : FoundFromLeft memory bytes base len found ↔
    Leftmost (fun address => memcmp memory address bytes) bytes.length base
      (base + len + 1 - bytes.length) found := by
  constructor
  · rintro ⟨stands, apart, others⟩
    refine ⟨fun address member => ?_, apart, fun address above below occurs => ?_⟩
    · obtain ⟨above, below, here⟩ := stands address member
      exact ⟨above, by omega, (memcmp_eq_true_iff memory).mpr here⟩
    · exact others address above (by omega) ((memcmp_eq_true_iff memory).mp occurs)
  · rintro ⟨occurs, apart, covers⟩
    refine ⟨fun address member => ?_, apart, fun address above below here => ?_⟩
    · obtain ⟨above, below, same⟩ := occurs address member
      exact ⟨above, by omega, (memcmp_eq_true_iff memory).mp same⟩
    · exact covers address above (by omega) ((memcmp_eq_true_iff memory).mpr here)

/-- The candidates of the scans are these occurrences, and no other list is. -/
theorem foundFromLeft_iff (positive : 0 < bytes.length) :
    FoundFromLeft memory bytes base len found ↔ found = candidates memory bytes base len := by
  have leftmost : FoundFromLeft memory bytes base len (candidates memory bytes base len) := by
    have greedy := @leftmost_greedy (fun address => memcmp memory address bytes) _ positive base
      (len + 1 - bytes.length)
    refine foundFromLeft_iff_leftmost.mpr ⟨fun address member => ?_, greedy.apart,
      fun address above below => greedy.covers address above (by omega)⟩
    obtain ⟨above, below, occurs⟩ := greedy.occurs address member
    exact ⟨above, by omega, occurs⟩
  constructor
  · intro other
    exact (foundFromLeft_iff_leftmost.mp other).unique (foundFromLeft_iff_leftmost.mp leftmost)
  · rintro rfl
    exact leftmost

end Found

/-! The pattern that a text of whole bytes is compiled to. -/

section Compile

variable {text : List Char} {units : List ByteUnit}

theorem Spells.not_mem (spells : Spells text units) (digits : ∀ unit ∈ units, unit.Digits)
    {c : Char} (space : c ≠ ' ') (noDigit : hexDigits.lookup c = none) : c ∉ text := by
  induction spells with
  | nil => exact List.not_mem_nil
  | space rest ih =>
    intro member
    rcases List.mem_cons.mp member with rfl | later
    · exact space rfl
    · exact ih digits later
  | unit unit valid rest ih =>
    have own := digits unit List.mem_cons_self
    intro member
    rcases List.mem_cons.mp member with rfl | member
    · rw [ByteUnit.Digits, noDigit] at own
      cases own.1
    · rcases List.mem_cons.mp member with rfl | later
      · rw [ByteUnit.Digits, noDigit] at own
        cases own.2
      · exact ih (fun other held => digits other (List.mem_cons_of_mem _ held)) later

/-- The bytes that the units spell. -/
def bytesOf (units : List ByteUnit) : List Byte := units.map ByteUnit.value

theorem masked_digits (digits : ∀ unit ∈ units, unit.Digits) :
    units.map ByteUnit.masked = (bytesOf units).map fun byte => ⟨byte, 0xff⟩ := by
  rw [bytesOf, List.map_map]
  refine List.map_congr_left fun unit member => ?_
  have own := digits unit member
  rw [ByteUnit.masked, own.valid.mask_eq_ones_iff.mpr own]
  rfl

/-- Whole bytes make one token. -/
theorem splitBy_ones {bytes : List Byte} (nonempty : bytes ≠ []) :
    (bytes.map fun byte => MaskedByte.mk byte 0xff).splitBy sameType =
      [bytes.map fun byte => ⟨byte, 0xff⟩] := by
  apply List.splitBy_of_isChain
  · rwa [ne_eq, List.map_eq_nil_iff]
  · apply List.Pairwise.isChain
    refine List.pairwise_of_forall_mem_list ?_
    intro left leftIn right rightIn
    obtain ⟨_, -, rfl⟩ := List.mem_map.mp leftIn
    obtain ⟨_, -, rfl⟩ := List.mem_map.mp rightIn
    rfl

/-- A pattern of one exact token, which the scans search for alone. -/
theorem Compiled.layout {pattern : MatchPattern} (compiled : Compiled pattern units)
    (formed : pattern.WellFormed) (digits : ∀ unit ∈ units, unit.Digits)
    (some : units ≠ []) :
    ∃ needle, Layout pattern [] needle [] ∧ needle.bytes = bytesOf units := by
  have nonempty : bytesOf units ≠ [] := by rwa [bytesOf, ne_eq, List.map_eq_nil_iff]
  have runs := compiled.runs
  rw [masked_digits digits, splitBy_ones nonempty] at runs
  obtain ⟨token, alone, spelled⟩ := List.map_eq_singleton_iff.mp runs
  have member : token ∈ pattern.tokens := alone ▸ List.mem_singleton_self token
  have kinds := (formed.tokens token member).typeOfMask_eq
  have exact : token.type = .exact := by
    obtain ⟨byte, held⟩ := List.exists_mem_of_ne_nil _ nonempty
    have unit := kinds ⟨byte, 0xff⟩ (spelled ▸ List.mem_map_of_mem held)
    exact unit.symm
  obtain ⟨before, needle, after, layout⟩ := formed.layout ⟨token, member, exact⟩
  have split := layout.split
  rw [alone] at split
  obtain ⟨rfl, rfl, rfl⟩ : before = [] ∧ needle = token ∧ after = [] := by
    cases before with
    | nil =>
      obtain ⟨same, none⟩ := List.cons.inj split
      exact ⟨rfl, same.symm, none.symm⟩
    | cons head rest => simp at split
  refine ⟨needle, layout, ?_⟩
  rw [MatchToken.units, exact] at spelled
  have values := congrArg (List.map MaskedByte.value) spelled
  simpa [Function.comp_def] using values

end Compile

section Signatures

variable {text : List Char} {units : List ByteUnit}

/-- A text of whole bytes in hexadecimal, with spaces anywhere between them, is accepted, and the
three scans of any region report the occurrences of those bytes that a search from the left comes
to, up to the one that the callback answers with false, and read nothing outside the region. -/
theorem signature_scans (spells : Spells text units) (digits : ∀ unit ∈ units, unit.Digits)
    (some : units ≠ []) (memory : Memory) (base : ℤ) (len : ℕ) (func : Callback) :
    ∃ pattern found result scan once, memoryScanNew text = .ok (true, pattern) ∧
      (∀ list, FoundFromLeft memory (bytesOf units) base len list ↔ list = found) ∧
      memoryScan memory base len func pattern = .ok (result, scan) ∧
      memoryScanAsyn memory base len func pattern = .ok scan ∧
      memoryScanOnce memory base (base + len) pattern = .ok (found.head?, once) ∧
      scan.reported = callsOn func [] found ∧
      ∀ extent ∈ scan.reads ++ once.reads, extent.Inside base (base + len) := by
  have noNul := spells.not_mem digits (show nul ≠ ' ' by decide) (by decide)
  have noColon := spells.not_mem digits (show ':' ≠ ' ' by decide) (by decide)
  obtain ⟨accepted, pattern, parsed, formed⟩ := memoryScanNew_formed text
  have compiled := spells.compiled
  have plain := parsed.symm.trans (memoryScanNew_plain noNul noColon)
  rw [spells.readUnits_eq] at plain compiled
  obtain ⟨rfl, rfl⟩ := Prod.mk.inj (Except.ok.inj plain)
  obtain ⟨needle, layout, bytes⟩ := compiled.layout formed digits some
  obtain ⟨result, scan, scanned, traced⟩ := layout.memoryScan_traced memory base len func
  obtain ⟨once, first, tracedOnce⟩ := layout.memoryScanOnce_traced memory base len
  have positive := layout.needle_pos
  have all : hits memory [] needle [] base len = candidates memory needle.bytes base len := by
    simp [hits, accepts, passBefore, passAfter, tokensLength]
  have quiet : ∀ cur ∈ candidates memory needle.bytes base (base + len - base).toNat,
      examineReads memory _ needle cur = [] := fun cur _ => layout.examineReads_alone memory cur
  have start : ∀ extent ∈ ({ cur := base } : ScanState).reads, extent.Inside base (base + len) :=
    fun _ member => absurd member List.not_mem_nil
  rw [all] at traced first
  refine ⟨_, candidates memory needle.bytes base len, result, scan, once, parsed, fun list => ?_,
    scanned, ?_, first, traced.reported, fun extent member => ?_⟩
  · rw [← bytes]
    exact foundFromLeft_iff positive
  · exact (layout.memoryScanAsyn_eq memory base len func).trans
      (congrArg (Except.map Prod.snd) scanned)
  · rcases List.mem_append.mp member with inScan | inOnce
    · exact traced.confined quiet start extent inScan
    · exact tracedOnce.confined quiet start extent inOnce

/-- `4141` in four times that byte: the occurrence in between is passed over. -/
theorem signature_scans_overlapping :
    ∃ pattern found result scan once, memoryScanNew "41 41".toList = .ok (true, pattern) ∧
      (∀ list, FoundFromLeft (held [0x41, 0x41, 0x41, 0x41]) (bytesOf [⟨'4', '1'⟩, ⟨'4', '1'⟩]) 0x1000 4
        list ↔ list = found) ∧
      memoryScan (held [0x41, 0x41, 0x41, 0x41]) 0x1000 4 (fun _ _ => true) pattern =
        .ok (result, scan) ∧
      memoryScanAsyn (held [0x41, 0x41, 0x41, 0x41]) 0x1000 4 (fun _ _ => true) pattern = .ok scan ∧
      memoryScanOnce (held [0x41, 0x41, 0x41, 0x41]) 0x1000 0x1004 pattern = .ok (found.head?, once) ∧
      scan.reported = callsOn (fun _ _ => true) [] found ∧
      ∀ extent ∈ scan.reads ++ once.reads, extent.Inside 0x1000 0x1004 :=
  signature_scans (.unit ⟨'4', '1'⟩ (by decide) <| .space <| .unit ⟨'4', '1'⟩ (by decide) .nil)
    (by decide) (List.cons_ne_nil _ _) (held [0x41, 0x41, 0x41, 0x41]) 0x1000 4 fun _ _ => true

end Signatures

end QbdiTracer.MemoryScan
