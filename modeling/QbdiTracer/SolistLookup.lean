import QbdiTracer.Core.Solist
import QbdiTracer.Library.FlowRun
import Mathlib.Data.List.Find

/-! The walk of `get_so_info` over the linker's memory: when it returns, and that its
answers over the life of a process are those of a search in the list of libraries. -/

namespace QbdiTracer

open WhileLoop LinkedChains

variable {arch : Arch}

namespace LinkerProcess

variable {process : LinkerProcess arch} {head main sonext word : Word arch} {next fuel : ℕ}
  {items : List (Word arch)}

/-- The field `next` of a `soinfo`. -/
def follow (process : LinkerProcess arch) (next : ℕ) (so : Word arch) :
    Except SolistFault (Word arch) :=
  process.read (wordAt so next)

theorem iterate_walkRound (process : LinkerProcess arch) (next fuel : ℕ) (past : List (Word arch))
    (sonext : Word arch) :
    iterate (fun state => .ofExcept (process.walkRound next state)) fuel ⟨past, sonext⟩ =
      walk (process.follow next) 0 fuel (past, sonext) := by
  induction fuel generalizing past sonext with
  | zero => rfl
  | succ fuel ih =>
    by_cases null : sonext = 0
    · rw [null, walk_ended]
      exact iterate_leave (by simp [walkRound, Round.ofExcept]) fuel
    · cases leads : process.follow next sonext with
      | error fault =>
        rw [walk_broken null leads]
        have breaks : process.walkRound next ⟨past, sonext⟩ = .error fault := by
          rw [walkRound, if_neg null, ← follow, leads]
          rfl
        exact iterate_leave (congrArg Round.ofExcept breaks) fuel
      | ok following =>
        rw [walk_link null leads, ← ih]
        have goes : process.walkRound next ⟨past, sonext⟩ =
            .ok (.again ⟨past ++ [sonext], following⟩) := by
          rw [walkRound, if_neg null, ← follow, leads]
          rfl
        exact iterate_again (congrArg Round.ofExcept goes) fuel

/-- The list that the field `next` strings together, from a head that may be null. -/
inductive Strung (process : LinkerProcess arch) (next : ℕ) (head : Word arch) :
    List (Word arch) → Prop where
  | intro {sonext : Word arch} {rest : List (Word arch)}
      (first : process.follow next head = .ok sonext)
      (tail : Chain (process.follow next) 0 sonext rest) : Strung process next head (head :: rest)

theorem Strung.unique {others : List (Word arch)} (left : process.Strung next head items)
    (right : process.Strung next head others) : items = others := by
  obtain ⟨first, tail⟩ := left
  obtain ⟨other, rest⟩ := right
  cases first.symm.trans other
  rw [tail.unique rest]

theorem Strung.collect (strung : process.Strung next head items) (enough : items.length ≤ fuel) :
    process.collect fuel head next = .ok items := by
  obtain ⟨first, tail⟩ := strung
  rw [follow] at first
  have walked : walk (process.follow next) 0 fuel ([head], _) = _ :=
    tail.walk (Nat.lt_of_succ_le enough)
  rw [LinkerProcess.collect, first]
  simp only [bind, Except.bind, iterate_walkRound, walked]
  rfl

theorem collect_iff : (∃ fuel, process.collect fuel head next = .ok items) ↔
    process.Strung next head items := by
  constructor
  · rintro ⟨fuel, done⟩
    cases first : process.read (wordAt head next) with
    | error fault =>
      rw [LinkerProcess.collect, first] at done
      cases done
    | ok sonext =>
      rw [LinkerProcess.collect, first] at done
      simp only [bind, Except.bind, iterate_walkRound] at done
      cases walked : walk (process.follow next) 0 fuel ([head], sonext) with
      | none =>
        rw [walked] at done
        cases done
      | some result =>
        rw [walked] at done
        obtain ⟨rest, rfl, chain⟩ := chain_of_walk (walked.trans (congrArg some done))
        exact .intro first chain
  · intro strung
    exact ⟨items.length, strung.collect (Nat.le_refl _)⟩

section FindNext

theorem read_ok (mapped : process.load head = some word) : process.read head = .ok word := by
  rw [read, mapped]

theorem findNext_passed {before : List ℕ} (rest : List ℕ)
    (others : ∀ i ∈ before, ∃ word, process.read (wordAt head i) = .ok word ∧ word ≠ main) :
    process.findNext head main (before ++ rest) = process.findNext head main rest := by
  induction before with
  | nil => rfl
  | cons i before ih =>
    obtain ⟨word, held, differs⟩ := others i List.mem_cons_self
    have later := ih fun j member => others j (List.mem_cons_of_mem _ member)
    rw [List.cons_append, findNext, held]
    simp only [bind, Except.bind, differs, ↓reduceIte]
    exact later

/-- The field is found if no word before it holds the address of the program's `soinfo`. -/
theorem findNext_first {count : ℕ} (inside : next < count)
    (others : ∀ i < next, ∃ word, process.read (wordAt head i) = .ok word ∧ word ≠ main)
    (field : process.read (wordAt head next) = .ok main) :
    process.findNext head main (List.range count) = .ok next := by
  obtain ⟨more, rfl⟩ := Nat.exists_eq_add_of_lt inside
  have split : List.range (next + more + 1) =
      List.range next ++ next :: (List.range more).map (next + 1 + ·) := by
    rw [Nat.add_assoc, List.range_add, List.range_succ_eq_map, List.map_cons, List.map_map]
    congr 2
    apply List.map_congr_left
    intro i _
    simp only [Function.comp]
    omega
  rw [split, findNext_passed _ fun i member => others i (List.mem_range.mp member), findNext, field]
  simp [bind, Except.bind, pure, Except.pure]

end FindNext

/-- The linker's functions are there, and these are the first `soinfo` and the program's as the
walk takes them: the statics where they are set. -/
structure Starts (process : LinkerProcess arch) (statics : SolistStatics arch)
    (head main : Word arch) (getRealpath : Word arch → Option String) : Prop where
  head : ∃ answer, process.solistGetHead = some answer ∧
    head = if statics.solistHead = 0 then answer else statics.solistHead
  main : ∃ answer, process.solistGetSomain = some answer ∧
    main = if statics.somain = 0 then answer else statics.somain
  realpath : process.getRealpath = some getRealpath
  toHandle : process.hasSoinfoToHandle = true

variable {statics after : SolistStatics arch} {getRealpath : Word arch → Option String}
  {name : String}

theorem Starts.getSoInfo (starts : process.Starts statics head main getRealpath) (fuel : ℕ)
    (name : String) :
    process.getSoInfo fuel statics name = (do
      let next ← process.findNext head main (List.range (1024 / arch.wordBytes))
      let linkerSolist ← process.collect fuel head next
      return ((linkerSolist.find? (isNamed getRealpath name)).getD 0, ⟨head, main⟩)) := by
  obtain ⟨answer, asked, rfl⟩ := starts.head
  obtain ⟨program, askedMain, rfl⟩ := starts.main
  simp only [LinkerProcess.getSoInfo, asked, askedMain, starts.realpath, starts.toHandle,
    Bool.not_true, Bool.false_eq_true, ↓reduceIte]

/-- `get_so_info` returns exactly when the words of the head can be searched and the field found
strings a list together that ends, and then with the first item whose path has the name. -/
theorem getSoInfo_returns_iff (starts : process.Starts statics head main getRealpath)
    (name : String) (result : Word arch × SolistStatics arch) :
    (∃ fuel, process.getSoInfo fuel statics name = .ok result) ↔
      ∃ next items, process.findNext head main (List.range (1024 / arch.wordBytes)) = .ok next ∧
        process.Strung next head items ∧
        result = ((items.find? (isNamed getRealpath name)).getD 0, ⟨head, main⟩) := by
  constructor
  · rintro ⟨fuel, done⟩
    rw [starts.getSoInfo] at done
    obtain ⟨next, field, rest⟩ := FlowRun.bind_ok done
    obtain ⟨items, collected, found⟩ := FlowRun.bind_ok rest
    cases found
    exact ⟨next, items, field, collect_iff.mp ⟨fuel, collected⟩, rfl⟩
  · rintro ⟨next, items, field, strung, rfl⟩
    obtain ⟨fuel, collected⟩ := collect_iff.mpr strung
    refine ⟨fuel, ?_⟩
    rw [starts.getSoInfo, field]
    simp only [bind, Except.bind, collected]
    rfl

/-- A process whose memory and paths are these. -/
def ofWords (words : List (Word .aarch64 × Word .aarch64))
    (paths : List (Word .aarch64 × String)) : LinkerProcess .aarch64 where
  load address := words.lookup address
  solistGetHead := some 0x1000
  solistGetSomain := some 0x2000
  hasSoinfoToHandle := true
  getRealpath := some fun so => paths.lookup so

/-- Two `soinfo`s, of which the second is its own next one. -/
def cyclic : LinkerProcess .aarch64 := ofWords [(0x1000, 0x2000), (0x2000, 0x2000)] []

theorem cyclic_not_strung (items : List (Word .aarch64)) : ¬ cyclic.Strung 0 0x1000 items := by
  rintro ⟨first, tail⟩
  cases first
  have loops : cyclic.follow 0 0x2000 = .ok 0x2000 := rfl
  exact not_chain_of_loop (by decide) loops tail

/-- The walk along them does not return. -/
theorem getSoInfo_returns_cyclic :
    ¬ ∃ result, ∃ fuel, cyclic.getSoInfo fuel {} "libc.so" = .ok result := by
  have starts : cyclic.Starts {} 0x1000 0x2000 fun so => ([] : List (_ × String)).lookup so :=
    ⟨⟨_, rfl, rfl⟩, ⟨_, rfl, rfl⟩, rfl, rfl⟩
  rintro ⟨result, returned⟩
  obtain ⟨next, items, field, strung, -⟩ :=
    (getSoInfo_returns_iff starts "libc.so" result).mp returned
  cases field
  exact cyclic_not_strung items strung

/-- Calls one after the other, each on the process as it is then: the statics stay. -/
def lookUpAll (fuel : ℕ) : SolistStatics arch → List (LinkerProcess arch × String) →
    Except SolistFault (List (Word arch))
  | _, [] => .ok []
  | statics, (process, name) :: rest => do
    let (found, after) ← process.getSoInfo fuel statics name
    let later ← lookUpAll fuel after rest
    return found :: later

end LinkerProcess

/-- A `soinfo` of the linker's list, and where it lies. -/
structure SolistEntry (arch : Arch) where
  address : Word arch
  so : Soinfo arch

/-- The list at one time: the linker's own `soinfo`, that of the program, and the others. -/
structure Solist (arch : Arch) where
  head : SolistEntry arch
  main : SolistEntry arch
  others : List (SolistEntry arch)

namespace Solist

open LinkerProcess

def entries (solist : Solist arch) : List (SolistEntry arch) :=
  solist.head :: solist.main :: solist.others

def soinfos (solist : Solist arch) : List (Soinfo arch) := solist.entries.map SolistEntry.so

/-- The list lies in the memory of the process: the word `next` of each `soinfo` has the
address of the one behind it, and no word before it in the first has that of the program's. -/
structure LiesIn (solist : Solist arch) (process : LinkerProcess arch) (next : ℕ) : Prop where
  inside : next < 1024 / arch.wordBytes
  earlier : ∀ i < next, ∃ word, process.load (wordAt solist.head.address i) = some word ∧
    word ≠ solist.main.address
  linked : Chain (process.follow next) 0 solist.head.address
    (solist.entries.map SolistEntry.address)
  head : process.solistGetHead = some solist.head.address
  main : process.solistGetSomain = some solist.main.address
  toHandle : process.hasSoinfoToHandle = true
  realpath : ∃ getRealpath, process.getRealpath = some getRealpath ∧
    ∀ entry ∈ solist.entries, getRealpath entry.address = some entry.so.realpath

/-- What the search in the list of libraries finds, by its address. -/
inductive Answers (solist : Solist arch) (name : String) : Word arch → Prop where
  | found {entry : SolistEntry arch} (member : entry ∈ solist.entries)
      (nonnull : entry.address ≠ 0)
      (named : Linker.getSoInfo solist.soinfos name = some entry.so) :
      Answers solist name entry.address
  | absent (unnamed : Linker.getSoInfo solist.soinfos name = none) : Answers solist name 0

/-- The statics have not been set, or were set from a list that began in the same way. -/
structure Remembered (solist : Solist arch) (statics : SolistStatics arch) : Prop where
  head : statics.solistHead = 0 ∨ statics.solistHead = solist.head.address
  main : statics.somain = 0 ∨ statics.somain = solist.main.address

section Calls

variable {solist : Solist arch} {process : LinkerProcess arch} {next fuel : ℕ}
  {statics : SolistStatics arch}

theorem LiesIn.strung (lies : solist.LiesIn process next) :
    process.Strung next solist.head.address (solist.entries.map SolistEntry.address) := by
  obtain ⟨-, -, sonext, first, tail⟩ := lies.linked.of_cons
  exact .intro first tail

theorem nonnull_of_chain {follow : Word arch → Except SolistFault (Word arch)}
    {start address : Word arch} {addresses : List (Word arch)}
    (chain : Chain follow 0 start addresses) (member : address ∈ addresses) : address ≠ 0 := by
  induction chain with
  | ended => cases member
  | link going _ _ ih =>
    rcases List.mem_cons.mp member with rfl | later
    · exact going
    · exact ih later

theorem LiesIn.findNext (lies : solist.LiesIn process next) :
    process.findNext solist.head.address solist.main.address
      (List.range (1024 / arch.wordBytes)) = .ok next := by
  apply findNext_first lies.inside
  · intro i below
    obtain ⟨word, held, differs⟩ := lies.earlier i below
    exact ⟨word, read_ok held, differs⟩
  · obtain ⟨-, -, sonext, first, tail⟩ := lies.linked.of_cons
    rw [follow, tail.of_cons.1] at first
    exact first

theorem Remembered.starts (remembered : solist.Remembered statics)
    (lies : solist.LiesIn process next) {getRealpath : Word arch → Option String}
    (realpath : process.getRealpath = some getRealpath) :
    process.Starts statics solist.head.address solist.main.address getRealpath := by
  refine ⟨⟨_, lies.head, ?_⟩, ⟨_, lies.main, ?_⟩, realpath, lies.toHandle⟩
  · rcases remembered.head with unset | set
    · rw [if_pos unset]
    · rw [set, ite_self]
  · rcases remembered.main with unset | set
    · rw [if_pos unset]
    · rw [set, ite_self]

/-- The search over the addresses is the search over the libraries. -/
theorem answers_find {getRealpath : Word arch → Option String} (name : String)
    (nonnull : ∀ entry ∈ solist.entries, entry.address ≠ 0)
    (paths : ∀ entry ∈ solist.entries, getRealpath entry.address = some entry.so.realpath) :
    solist.Answers name (((solist.entries.map SolistEntry.address).find?
      (isNamed getRealpath name)).getD 0) := by
  have same : ∀ entry ∈ solist.entries,
      (isNamed getRealpath name ∘ SolistEntry.address) entry =
        strstr entry.so.realpath.toList name.toList := by
    intro entry member
    simp only [Function.comp, isNamed, paths entry member]
  have search : Linker.getSoInfo solist.soinfos name =
      (solist.entries.find? (isNamed getRealpath name ∘ SolistEntry.address)).map SolistEntry.so := by
    rw [Linker.getSoInfo, soinfos, List.find?_map]
    congr 1
    exact List.find?_congr fun entry member => (same entry member).symm
  rw [List.find?_map]
  cases found : solist.entries.find? (isNamed getRealpath name ∘ SolistEntry.address) with
  | none =>
    rw [Option.map_none, Option.getD_none]
    refine .absent ?_
    rw [search, found, Option.map_none]
  | some entry =>
    rw [Option.map_some, Option.getD_some]
    have member := List.mem_of_find?_eq_some found
    refine .found member (nonnull entry member) ?_
    rw [search, found, Option.map_some]

/-- One call: the answer, and the statics for the next one. -/
theorem LiesIn.getSoInfo (lies : solist.LiesIn process next)
    (remembered : solist.Remembered statics) (enough : solist.entries.length ≤ fuel)
    (name : String) :
    ∃ word, process.getSoInfo fuel statics name =
        .ok (word, ⟨solist.head.address, solist.main.address⟩) ∧ solist.Answers name word := by
  obtain ⟨getRealpath, realpath, paths⟩ := lies.realpath
  have starts := remembered.starts lies realpath
  have addresses : (solist.entries.map SolistEntry.address).length ≤ fuel := by
    rwa [List.length_map]
  have collected := lies.strung.collect addresses
  have nonnull : ∀ entry ∈ solist.entries, entry.address ≠ 0 := fun entry member =>
    nonnull_of_chain lies.linked (List.mem_map_of_mem member)
  refine ⟨_, ?_, answers_find name nonnull paths⟩
  rw [starts.getSoInfo, lies.findNext]
  simp only [bind, Except.bind, collected]
  rfl

end Calls

end Solist

/-- A call of `get_so_info`, and the list that the linker has at that time. -/
structure SolistCall (arch : Arch) where
  process : LinkerProcess arch
  name : String
  solist : Solist arch
  next : ℕ

section History

variable {head main : Word arch} {fuel : ℕ} {calls : List (SolistCall arch)}
  {statics : SolistStatics arch}

/-- The call finds its list in memory, beginning with these two. -/
structure SolistCall.Ready (head main : Word arch) (fuel : ℕ) (call : SolistCall arch) : Prop where
  lies : call.solist.LiesIn call.process call.next
  head : call.solist.head.address = head
  main : call.solist.main.address = main
  enough : call.solist.entries.length ≤ fuel

theorem lookUpAll_from (ready : ∀ call ∈ calls, call.Ready head main fuel)
    (remembered : ∀ call ∈ calls, call.solist.Remembered statics) :
    ∃ words, LinkerProcess.lookUpAll fuel statics (calls.map fun call => (call.process, call.name)) =
        .ok words ∧
      List.Forall₂ (fun call word => call.solist.Answers call.name word) calls words := by
  induction calls generalizing statics with
  | nil => exact ⟨[], rfl, .nil⟩
  | cons call rest ih =>
    have here := ready call List.mem_cons_self
    obtain ⟨word, first, answers⟩ := here.lies.getSoInfo (remembered call List.mem_cons_self)
      here.enough call.name
    rw [here.head, here.main] at first
    have kept : ∀ later ∈ rest, later.solist.Remembered ⟨head, main⟩ := by
      intro later member
      have next := ready later (List.mem_cons_of_mem _ member)
      exact ⟨.inr next.head.symm, .inr next.main.symm⟩
    obtain ⟨words, others, rests⟩ := ih (fun later member =>
      ready later (List.mem_cons_of_mem _ member)) kept
    refine ⟨word :: words, ?_, .cons answers rests⟩
    rw [List.map_cons, LinkerProcess.lookUpAll, first]
    simp only [bind, Except.bind, others]
    rfl

/-- Over the life of a process, in which libraries come and go behind the first two, every call
answers what the search in the list of that time does. -/
theorem lookUpAll_answers (ready : ∀ call ∈ calls, call.Ready head main fuel) :
    ∃ words, LinkerProcess.lookUpAll fuel {} (calls.map fun call => (call.process, call.name)) =
        .ok words ∧
      List.Forall₂ (fun call word => call.solist.Answers call.name word) calls words :=
  lookUpAll_from ready fun _ _ => ⟨.inl rfl, .inl rfl⟩

/-- The linker's list before and after a library is loaded. -/
def loadedBehind (others : List (SolistEntry .aarch64)) : Solist .aarch64 :=
  ⟨⟨0x1000, { realpath := "/system/bin/linker64" }⟩, ⟨0x2000, { realpath := "/data/app" }⟩, others⟩

def aloneCall : SolistCall .aarch64 where
  process := .ofWords [(0x1000, 7), (0x1008, 0x2000), (0x2008, 0)]
    [(0x1000, "/system/bin/linker64"), (0x2000, "/data/app")]
  name := "libz.so"
  solist := loadedBehind []
  next := 1

def loadedCall : SolistCall .aarch64 where
  process := .ofWords [(0x1000, 7), (0x1008, 0x2000), (0x2008, 0x3000), (0x3008, 0)]
    [(0x1000, "/system/bin/linker64"), (0x2000, "/data/app"), (0x3000, "/system/lib64/libz.so")]
  name := "libz.so"
  solist := loadedBehind [⟨0x3000, { realpath := "/system/lib64/libz.so" }⟩]
  next := 1

theorem lookUpAll_answers_loaded :
    ∃ words, LinkerProcess.lookUpAll 3 {}
        ([aloneCall, loadedCall].map fun call => (call.process, call.name)) = .ok words ∧
      List.Forall₂ (fun call word => call.solist.Answers call.name word) [aloneCall, loadedCall]
        words := by
  have alone : aloneCall.Ready 0x1000 0x2000 3 := by
    refine ⟨⟨by decide, fun i below => ?_, ?_, rfl, rfl, rfl, _, rfl, ?_⟩, rfl, rfl, by decide⟩
    · obtain rfl : i = 0 := Nat.lt_one_iff.mp below
      exact ⟨7, rfl, by decide⟩
    · exact .link (by decide) rfl (.link (by decide) rfl .ended)
    · exact List.forall_mem_cons.mpr ⟨rfl, List.forall_mem_cons.mpr ⟨rfl, List.forall_mem_nil _⟩⟩
  have loaded : loadedCall.Ready 0x1000 0x2000 3 := by
    refine ⟨⟨by decide, fun i below => ?_, ?_, rfl, rfl, rfl, _, rfl, ?_⟩, rfl, rfl, by decide⟩
    · obtain rfl : i = 0 := Nat.lt_one_iff.mp below
      exact ⟨7, rfl, by decide⟩
    · exact .link (by decide) rfl (.link (by decide) rfl (.link (by decide) rfl .ended))
    · exact List.forall_mem_cons.mpr ⟨rfl, List.forall_mem_cons.mpr ⟨rfl,
        List.forall_mem_cons.mpr ⟨rfl, List.forall_mem_nil _⟩⟩⟩
  have ready : ∀ call ∈ [aloneCall, loadedCall], call.Ready 0x1000 0x2000 3 :=
    List.forall_mem_cons.mpr ⟨alone, List.forall_mem_cons.mpr ⟨loaded, List.forall_mem_nil _⟩⟩
  exact lookUpAll_answers ready

end History

end QbdiTracer
