import QbdiTracer.Library.Consecutive
import QbdiTracer.Window

/-! Which records the window hands to the logger, in closed form: the lines of a
stream depend only on its recorded instructions, two neighbours at a time. -/

namespace QbdiTracer

open Consecutive

variable {arch : Arch}

/-- What a recorded instruction writes, given the recorded one before it. -/
def stepWrites (last : Option (Observation arch)) (seen : Observation arch) : List Nat :=
  match last with
  | none => if seen.attaches then [] else [seen.seq]
  | some prev =>
    let repeated := prev.pc = seen.pc
    (if prev.attaches then prev.seq :: if repeated then [seen.seq] else [] else []) ++
      if seen.attaches then [] else (if repeated then [prev.seq] else []) ++ [seen.seq]

/-- What a list of recorded instructions writes. -/
def writesOf (recorded : List (Observation arch)) : List Nat := outputs stepWrites none recorded

theorem writesOf_concat (recorded : List (Observation arch)) (seen : Observation arch) :
    writesOf (recorded ++ [seen]) = writesOf recorded ++ stepWrites recorded.getLast? seen := by
  simp [writesOf, outputs_concat]

/-- `slot` is the record of `last`. A call that its own instruction did not
attach sits at an address outside the record filter. -/
structure Describes (records : Word arch → Bool) (last : Observation arch) (slot : Slot arch) :
    Prop where
  seq : slot.seq = last.seq
  pc : slot.pc = last.pc
  own : last.attaches = true → slot.call = some ⟨last.pc, last.path⟩
  foreign : last.attaches = false → ∀ call ∈ slot.call, records call.site = false

namespace Window

/-- The rule for invariants of a window and the stream it has seen. -/
theorem observeAll_history (property : List (Observation arch) → Window arch → Prop)
    (keeps : ∀ history window seen, property history window →
      property (history ++ [seen]) (window.observe seen))
    {window : Window arch} (initial : property [] window) (stream : List (Observation arch)) :
    property stream (window.observeAll stream) := by
  induction stream using List.reverseRecOn with
  | nil => exact initial
  | append_singleton history seen ih =>
    rw [observeAll, List.foldl_append]
    exact keeps _ _ _ ih

end Window

theorem Describes.slot {records : Word arch → Bool} (seen : Observation arch) :
    Describes records seen seen.slot where
  seq := rfl
  pc := rfl
  own attaches := by simp [Observation.slot, attaches]
  foreign plain := by simp [Observation.slot, plain]

theorem Describes.attachSvc {records : Word arch → Bool} {last : Observation arch}
    {slot : Slot arch} {site : Word arch} (described : Describes records last slot)
    (outside : records site = false) : Describes records last (Window.attachSvc site slot) where
  seq := described.seq
  pc := described.pc
  own attaches := by simp [Window.attachSvc, described.own attaches]
  foreign plain := by
    cases call : slot.call with
    | none => simp [Window.attachSvc, call, outside]
    | some attached => simpa [Window.attachSvc, call] using described.foreign plain attached call

theorem rel_attachSvc {records : Word arch → Bool} {last : Option (Observation arch)}
    {cur : Option (Slot arch)} {site : Word arch}
    (described : Option.Rel (Describes records) last cur) (outside : records site = false) :
    Option.Rel (Describes records) last (cur.map (Window.attachSvc site)) := by
  cases described with
  | none => exact .none
  | some related => exact .some (related.attachSvc outside)

/-- The recorded instructions of a stream, with the filter their flag comes from. -/
def Filtered (records : Word arch → Bool) (stream : List (Observation arch)) : Prop :=
  ∀ seen ∈ stream, seen.recorded = records seen.pc

section Writes

variable {records : Word arch → Bool} {last : Option (Observation arch)} {cur : Option (Slot arch)}
  {seen : Observation arch}

theorem writtenRecords_argsEvents (now : Nat) (slot : Slot arch) :
    writtenRecords (slot.argsEvents now) = [] := by
  cases call : slot.call <;> simp [Slot.argsEvents, call]

theorem writtenRecords_writes (site : Word arch) (now : Nat) (slot : Slot arch) :
    writtenRecords (slot.writes site now) = if slot.pc = site then [slot.seq] else [] := by
  simp only [Slot.writes]
  split <;> simp

theorem writtenRecords_finish {prev : Observation arch} {slot : Slot arch}
    (related : Describes records prev slot) (prevRecorded : records prev.pc = true)
    (recorded : records seen.pc = true) :
    writtenRecords (finishEvents seen (some slot)) =
      if prev.attaches then prev.seq :: if prev.pc = seen.pc then [seen.seq] else [] else [] := by
  cases attaches : prev.attaches with
  | true =>
    simp [finishEvents, related.own attaches, writtenRecords_writes, related.pc, related.seq,
      Observation.slot, @eq_comm _ seen.pc]
  | false =>
    cases call : slot.call with
    | none => simp [finishEvents, call]
    | some attached =>
      -- the site of a foreign call fails the filter, both records pass it
      have outside := related.foreign attaches attached call
      have notPrev : slot.pc ≠ attached.site := by
        rw [related.pc]; rintro same; simp [← same, prevRecorded] at outside
      have notSeen : seen.slot.pc ≠ attached.site := by
        rintro same; simp [← same, Observation.slot, recorded] at outside
      simp [finishEvents, call, writtenRecords_writes, notPrev, notSeen]

/-- One observed instruction writes what `stepWrites` says. -/
theorem writtenRecords_step (described : Option.Rel (Describes records) last cur)
    (lastRecorded : ∀ prev ∈ last, records prev.pc = true) (recorded : records seen.pc = true) :
    writtenRecords (finishEvents seen cur ++ ownEvents seen cur) = stepWrites last seen := by
  cases described with
  | none => cases attaches : seen.attaches <;> simp [finishEvents, ownEvents, stepWrites, attaches]
  | @some prev slot related =>
    rw [writtenRecords_append, writtenRecords_finish related (lastRecorded prev rfl) recorded]
    cases attaches : seen.attaches <;>
      simp [ownEvents, stepWrites, attaches, writtenRecords_writes, related.pc, related.seq]

end Writes

/-- The recorded part of a stream. -/
def recordedOf (stream : List (Observation arch)) : List (Observation arch) :=
  stream.filter (·.recorded)

theorem recordedOf_concat (history : List (Observation arch)) (seen : Observation arch) :
    recordedOf (history ++ [seen]) =
      if seen.recorded then recordedOf history ++ [seen] else recordedOf history := by
  cases recorded : seen.recorded <;> simp [recordedOf, recorded]

/-- The current slot is the record of the latest recorded instruction, and the
lines written so far are those of the recorded instructions. -/
structure Window.Summary (records : Word arch → Bool) (recorded : List (Observation arch))
    (window : Window arch) : Prop where
  current : Option.Rel (Describes records) recorded.getLast? window.cur
  written : writtenRecords window.log = writesOf recorded

theorem Window.observe_summary {records : Word arch → Bool} {history : List (Observation arch)}
    {window : Window arch} {seen : Observation arch}
    (filtered : Filtered records (history ++ [seen]))
    (summary : Summary records (recordedOf history) window) :
    Summary records (recordedOf (history ++ [seen])) (window.observe seen) := by
  have seenFlag : seen.recorded = records seen.pc := filtered seen (by simp)
  rw [recordedOf_concat]
  cases recorded : seen.recorded with
  | true =>
    have passes : records seen.pc = true := by rw [← seenFlag, recorded]
    have lastRecorded : ∀ prev ∈ (recordedOf history).getLast?, records prev.pc = true := by
      intro prev present
      have member := List.mem_filter.mp (List.mem_of_getLast? present)
      rw [← filtered prev (by simp [member.1]), member.2]
    constructor
    · simpa [observe, recorded] using Option.Rel.some (Describes.slot seen)
    · have step := writtenRecords_step summary.current lastRecorded passes
      rw [writtenRecords_append] at step
      simp [observe, recorded, writesOf_concat, summary.written, writtenRecords_argsEvents, step]
  | false =>
    have outside : records seen.pc = false := by rw [← seenFlag, recorded]
    cases fires : seen.svc with
    | false => simpa [observe, recorded, fires] using summary
    | true =>
      have attached := rel_attachSvc summary.current outside
      constructor
      · simpa [observe, recorded, fires] using attached
      · simpa [observe, recorded, fires] using summary.written

theorem Window.observeAll_summary {records : Word arch → Bool} {stream : List (Observation arch)}
    (filtered : Filtered records stream) :
    Summary records (recordedOf stream) (({} : Window arch).observeAll stream) := by
  refine observeAll_history (fun history window => Filtered records history →
    Summary records (recordedOf history) window) ?_ (fun _ => ⟨.none, rfl⟩) stream filtered
  intro history window seen summary whole
  exact observe_summary whole (summary fun other member => whole other (by simp [member]))

/-- The record that waits for the next recorded instruction. -/
def pendingOf (recorded : List (Observation arch)) : List Nat :=
  match recorded.getLast? with
  | none => []
  | some last => if last.attaches then [last.seq] else []

/-- Two neighbouring records do not disturb each other: at one address, only a
record without a call followed by one with a call is harmless. -/
def Separate (prev seen : Observation arch) : Prop :=
  prev.pc = seen.pc → prev.attaches = false ∧ seen.attaches = true

theorem stepWrites_separate {prev seen : Observation arch} (separate : Separate prev seen) :
    stepWrites (some prev) seen ++ (if seen.attaches then [seen.seq] else []) =
      (if prev.attaches then [prev.seq] else []) ++ [seen.seq] := by
  by_cases repeated : prev.pc = seen.pc
  · obtain ⟨plain, attaches⟩ := separate repeated
    simp [stepWrites, plain, attaches]
  · cases carries : prev.attaches <;> cases attaches : seen.attaches <;>
      simp [stepWrites, repeated, carries, attaches]

/-- Separate neighbours are written in order, each once, the pending one last. -/
theorem outputs_separate {first : Observation arch} {rest : List (Observation arch)}
    (chain : (first :: rest).IsChain Separate) :
    outputs stepWrites (some first) rest ++ pendingOf (first :: rest) =
      (if first.attaches then [first.seq] else []) ++ rest.map (·.seq) := by
  induction rest generalizing first with
  | nil => simp [pendingOf]
  | cons seen rest ih =>
    rw [List.isChain_cons_cons] at chain
    have tail := ih chain.2
    have same : pendingOf (first :: seen :: rest) = pendingOf (seen :: rest) := by
      simp [pendingOf, List.getLast?_cons_cons]
    calc outputs stepWrites (some first) (seen :: rest) ++ pendingOf (first :: seen :: rest)
        = stepWrites (some first) seen ++
            (outputs stepWrites (some seen) rest ++ pendingOf (seen :: rest)) := by
          rw [same, outputs_cons, List.append_assoc]
      _ = stepWrites (some first) seen ++ (if seen.attaches then [seen.seq] else []) ++
            rest.map (·.seq) := by rw [tail, List.append_assoc]
      _ = (if first.attaches then [first.seq] else []) ++ (seen :: rest).map (·.seq) := by
          rw [stepWrites_separate chain.1, List.append_assoc]; rfl

theorem writesOf_pendingOf {recorded : List (Observation arch)}
    (chain : recorded.IsChain Separate) :
    writesOf recorded ++ pendingOf recorded = recorded.map (·.seq) := by
  cases recorded with
  | nil => rfl
  | cons first rest =>
    rw [writesOf, outputs_cons, List.append_assoc, outputs_separate chain]
    cases attaches : first.attaches <;> simp [stepWrites, attaches]

theorem mem_stepWrites {last : Option (Observation arch)} {seen : Observation arch} {record : Nat}
    (written : record ∈ stepWrites last seen) :
    record = seen.seq ∨ ∃ prev ∈ last, record = prev.seq := by
  cases last with
  | none =>
    cases attaches : seen.attaches <;> simp_all [stepWrites]
  | some prev =>
    have among : record = prev.seq ∨ record = seen.seq := by
      simp only [stepWrites] at written
      grind
    simpa [or_comm] using among

/-- Only recorded instructions are written. -/
theorem writesOf_subset (recorded : List (Observation arch)) :
    writesOf recorded ⊆ recorded.map (·.seq) := by
  induction recorded using List.reverseRecOn with
  | nil => simp [writesOf]
  | append_singleton recorded seen ih =>
    intro record written
    rw [writesOf_concat, List.mem_append] at written
    rcases written with earlier | now
    · simpa using .inl (List.mem_map.mp (ih earlier))
    · rcases mem_stepWrites now with rfl | ⟨prev, present, rfl⟩
      · simp
      · simpa using .inl ⟨prev, List.mem_of_getLast? present, rfl⟩

theorem writes_plain {last : Option (Observation arch)} {seen : Observation arch}
    (plain : seen.attaches = false) : seen.seq ∈ stepWrites last seen := by
  cases last <;> simp [stepWrites, plain]

/-- Every recorded instruction but the latest has been written. -/
theorem writesOf_earlier (earlier : List (Observation arch)) (seen : Observation arch) :
    ∀ prev ∈ earlier, prev.seq ∈ writesOf (earlier ++ [seen]) := by
  induction earlier using List.reverseRecOn generalizing seen with
  | nil => simp
  | append_singleton earlier last ih =>
    intro prev member
    rw [writesOf_concat, List.mem_append]
    rw [List.mem_append, List.mem_singleton] at member
    rcases member with before | rfl
    · exact .inl (ih last prev before)
    · cases attaches : prev.attaches with
      | false =>
        left
        rw [writesOf_concat, List.mem_append]
        exact .inr (writes_plain attaches)
      | true => right; simp [stepWrites, attaches]

/-- The latest one has been written at once, or early, by the call before it at
the same address. -/
theorem writesOf_latest {earlier : List (Observation arch)} {seen : Observation arch}
    (fresh : seen.seq ∉ earlier.map (·.seq)) :
    seen.seq ∈ writesOf (earlier ++ [seen]) ↔
      seen.attaches = false ∨
        ∃ prev ∈ earlier.getLast?, prev.attaches = true ∧ prev.pc = seen.pc := by
  have notBefore : seen.seq ∉ writesOf earlier := fun written =>
    fresh (writesOf_subset earlier written)
  rw [writesOf_concat, List.mem_append]
  cases ending : earlier.getLast? with
  | none => cases attaches : seen.attaches <;> simp [notBefore, stepWrites, attaches]
  | some prev =>
    have other : seen.seq ≠ prev.seq := by
      rintro same
      exact fresh (List.mem_map.mpr ⟨prev, List.mem_of_getLast? ending, same.symm⟩)
    cases attaches : seen.attaches with
    | false => simp [writes_plain attaches]
    | true =>
      cases carries : prev.attaches <;> by_cases repeated : prev.pc = seen.pc <;>
        simp [notBefore, stepWrites, attaches, carries, repeated, other]

theorem allWritten_iff {recorded : List (Observation arch)}
    (distinct : (recorded.map (·.seq)).Nodup) :
    (∀ seen ∈ recorded, seen.seq ∈ writesOf recorded) ↔
      ∀ last ∈ recorded.getLast?, last.attaches = false ∨
        ∃ prev ∈ recorded.dropLast.getLast?, prev.attaches = true ∧ prev.pc = last.pc := by
  cases recorded using List.reverseRecOn with
  | nil => simp
  | append_singleton earlier last =>
    have fresh : last.seq ∉ earlier.map (·.seq) := by
      rw [List.map_append, List.nodup_append] at distinct
      intro member
      exact distinct.2.2 _ member last.seq (by simp) rfl
    have latest := writesOf_latest fresh
    have before := writesOf_earlier earlier last
    rw [List.dropLast_concat, List.getLast?_concat]
    simp only [Option.mem_some_iff, forall_eq', List.mem_append, List.mem_singleton, ← latest]
    constructor
    · intro all
      exact all last (.inr rfl)
    · rintro done seen (earlierOne | rfl)
      · exact before seen earlierOne
      · exact done

end QbdiTracer
