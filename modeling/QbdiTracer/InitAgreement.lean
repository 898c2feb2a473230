import QbdiTracer.InitCalls
import QbdiTracer.LoadedLibraries

/-! The three overloads of `init` on one library: the module range and the target that
each derives from `get_library_range`. -/

namespace QbdiTracer

variable {arch : Arch}

namespace LoadedLibrary

/-- The library fills a part of the address space. -/
structure Placed (library : LoadedLibrary arch) : Prop where
  nonempty : 0 < library.librarySize
  noWrap : library.loadBias.toNat + library.librarySize.toNat < 2 ^ arch.wordBits

variable {library : LoadedLibrary arch}

theorem Placed.stop_toNat (placed : library.Placed) :
    (library.loadBias + library.librarySize).toNat =
      library.loadBias.toNat + library.librarySize.toNat := by
  rw [BitVec.toNat_add, Nat.mod_eq_of_lt placed.noWrap]

theorem Placed.ordered (placed : library.Placed) :
    library.loadBias < library.loadBias + library.librarySize := by
  have size : 0 < library.librarySize.toNat := by simpa using BitVec.lt_def.mp placed.nonempty
  rw [BitVec.lt_def, placed.stop_toNat]
  omega

theorem Placed.bounds_eq (placed : library.Placed) :
    library.bounds = ⟨library.loadBias, library.loadBias + library.librarySize⟩ := by
  simp only [bounds, getLibraryRange, Range.ofBounds, dif_pos placed.ordered]

theorem bounds_base (library : LoadedLibrary arch) : library.bounds.base = library.loadBias := by
  simp only [bounds, getLibraryRange, Range.ofBounds]
  split <;> rfl

/-- Another library has this range only if both its parts are those of this one. -/
theorem Placed.bounds_eq_iff (placed : library.Placed) {other : LoadedLibrary arch} :
    other.bounds = ⟨library.loadBias, library.loadBias + library.librarySize⟩ ↔
      other.loadBias = library.loadBias ∧ other.librarySize = library.librarySize := by
  have ordered := placed.ordered
  constructor
  · intro same
    have base : other.loadBias = library.loadBias := by
      rw [← other.bounds_base, same]
    have stop : other.bounds.stop = library.loadBias + library.librarySize := by rw [same]
    refine ⟨base, ?_⟩
    simp only [bounds, getLibraryRange, Range.ofBounds, base] at stop
    split at stop
    · exact (BitVec.add_right_inj _).mp stop
    · exact absurd (stop ▸ ordered) (BitVec.lt_irrefl _)
  · rintro ⟨base, size⟩
    simp only [bounds, getLibraryRange, Range.ofBounds, base, size, dif_pos ordered]

theorem Placed.size_eq (placed : library.Placed) :
    library.getLibraryRange.size = library.librarySize := by
  simp only [getLibraryRange, Range.ofBounds, dif_pos placed.ordered, Range.size]
  rw [BitVec.add_comm, BitVec.add_sub_cancel]

/-- The address lies in the library. -/
def Holds (library : LoadedLibrary arch) (address : Word arch) : Prop :=
  library.loadBias ≤ address ∧ address < library.loadBias + library.librarySize

instance (library : LoadedLibrary arch) (address : Word arch) : Decidable (library.Holds address) :=
  inferInstanceAs (Decidable (_ ∧ _))

end LoadedLibrary

namespace LoadedLibraries

/-- If xDL finds a library over the address, the path of that one leads to a range around the
address, and to the range of this library if the address is in it. -/
def LeadsBack (libraries : LoadedLibraries arch) (library : LoadedLibrary arch)
    (address : Word arch) : Prop :=
  ∀ opened start size,
    XdlHandle.openByAddr (libraries.phdrs.map libraries.handle) address = some opened →
    libraries.LeadsTo opened.pathname start size →
      (start ≤ address ∧ address < start + size) ∧
        (library.Holds address → start = library.loadBias ∧ size = library.librarySize)

theorem leadsBack_iff {libraries : LoadedLibraries arch} (library : LoadedLibrary arch) (fuel : ℕ)
    (supported : Soinfo.supportsSdk libraries.sdk = true) (address : Word arch) :
    libraries.LeadsBack library address ↔
      ∀ other, libraries.findLibraryAt fuel address = some other → other.Holds address ∧
        (library.Holds address →
          other.loadBias = library.loadBias ∧ other.librarySize = library.librarySize) := by
  constructor
  · intro back other found
    obtain ⟨opened, opens, named⟩ := Option.bind_eq_some_iff.mp found
    exact back opened _ _ opens ((leadsTo_iff supported).mpr ⟨other, named, rfl, rfl⟩)
  · intro back opened start size opens leads
    obtain ⟨other, named, rfl, rfl⟩ := (@leadsTo_iff arch libraries fuel _ supported _ _).mp leads
    exact back other (Option.bind_eq_some_iff.mpr ⟨opened, opens, named⟩)

end LoadedLibraries

namespace InstructionTracerManager

/-- The tracer, its info manager and its logger are set up for a module range, and the
tracer for a target. -/
structure SetUp (tracer : InstructionTracerManager arch) (range : ModuleRange arch)
    (target : Word arch) : Prop where
  moduleRange : tracer.moduleRange = range
  manager : tracer.NewFor range
  target : tracer.targetTraceAddress = target

variable {loader : Loader arch} {tracer : InstructionTracerManager arch} {name symbol : String}
  {library : LoadedLibrary arch}

theorem initSymbol_eq (found : loader.findLibrary name = some library)
    (resolved : library.findSymbol symbol ≠ 0) :
    (tracer.initSymbol loader name symbol).2 = true ∧
      (tracer.initSymbol loader name symbol).1.SetUp
        ⟨library.bounds.base, library.bounds.base + library.bounds.stop⟩
        (library.findSymbol symbol) := by
  simp only [initSymbol, found, if_neg resolved]
  exact ⟨trivial, rfl, ⟨_, name, rfl, rfl, rfl⟩, rfl⟩

theorem initOffset_eq {offset : Word arch} (found : loader.findLibrary name = some library)
    (inside : ¬ library.getLibraryRange.size < offset) :
    (tracer.initOffset loader name offset).2 = true ∧
      (tracer.initOffset loader name offset).1.SetUp library.bounds
        (library.bounds.base + offset) := by
  simp only [initOffset, found, if_neg inside]
  exact ⟨trivial, rfl, ⟨_, name, rfl, rfl, rfl⟩, rfl⟩

theorem initAddress_eq {address : Word arch} {located : LoadedLibrary arch}
    (found : loader.findLibraryAt address = some located) :
    (tracer.initAddress loader address).2 = true ∧
      (tracer.initAddress loader address).1.SetUp located.bounds address := by
  have target : (allocFixStack loader { tracer with targetTraceAddress := address }
      ).targetTraceAddress = address :=
    congrArg TracingState.targetTraceAddress (allocFixStack_tracingState ..)
  simp only [initAddress, found]
  exact ⟨trivial, rfl, ⟨_, _, rfl, rfl, rfl⟩, target⟩

/-- The overloads agree on a library: a symbol of it, the offset of an address in it and
the address itself set the tracer up alike, and no argument gets a target outside it. -/
structure InitsAgree (loader : Loader arch) (tracer : InstructionTracerManager arch)
    (name : String) (library : LoadedLibrary arch) (symbol : String) (offset address : Word arch) :
    Prop where
  bySymbol : (tracer.initSymbol loader name symbol).2 = true →
    (tracer.initSymbol loader name symbol).1.SetUp
      ⟨library.loadBias, library.loadBias + library.librarySize⟩ (library.findSymbol symbol)
  byOffset : library.Holds address →
    (tracer.initOffset loader name (address - library.loadBias)).2 = true →
    (tracer.initOffset loader name (address - library.loadBias)).1.SetUp
      ⟨library.loadBias, library.loadBias + library.librarySize⟩ address
  byAddress : library.Holds address → (tracer.initAddress loader address).2 = true →
    (tracer.initAddress loader address).1.SetUp
      ⟨library.loadBias, library.loadBias + library.librarySize⟩ address
  symbolTarget : (tracer.initSymbol loader name symbol).2 = true →
    library.Holds (tracer.initSymbol loader name symbol).1.targetTraceAddress
  offsetTarget : (tracer.initOffset loader name offset).2 = true →
    library.Holds (tracer.initOffset loader name offset).1.targetTraceAddress
  addressTarget : (tracer.initAddress loader address).2 = true →
    ∃ located, loader.findLibraryAt address = some located ∧
      located.Holds (tracer.initAddress loader address).1.targetTraceAddress

/-- A symbol without an address is refused. -/
theorem initSymbol_result (found : loader.findLibrary name = some library) :
    (tracer.initSymbol loader name symbol).2 = library.resolves symbol := by
  have result := (InitCall.bySymbol loader name symbol).apply_result tracer
  simpa only [InitCall.apply, InitCall.succeeds, found, Option.any_some] using result

theorem initOffset_result {offset : Word arch} (found : loader.findLibrary name = some library) :
    (tracer.initOffset loader name offset).2 = !decide (library.getLibraryRange.size < offset) := by
  have result := (InitCall.byOffset loader name offset).apply_result tracer
  simpa only [InitCall.apply, InitCall.succeeds, found, Option.any_some] using result

/-- The end that `init(name, symbol)` computes is right only for a library at zero, where the
target may still lie behind the library. -/
theorem initSymbol_agrees_iff (symbol : String) (tracer : InstructionTracerManager arch)
    (placed : library.Placed) (found : loader.findLibrary name = some library) :
    ((tracer.initSymbol loader name symbol).2 = true →
        (tracer.initSymbol loader name symbol).1.SetUp
            ⟨library.loadBias, library.loadBias + library.librarySize⟩
            (library.findSymbol symbol) ∧
          library.Holds (tracer.initSymbol loader name symbol).1.targetTraceAddress) ↔
      (library.resolves symbol = true →
        library.loadBias = 0 ∧ library.findSymbol symbol < library.librarySize) := by
  rw [initSymbol_result found]
  apply imp_congr_right
  intro resolved
  have setUp : (tracer.initSymbol loader name symbol).1.SetUp _ _ :=
    (initSymbol_eq found (of_decide_eq_true resolved)).2
  rw [setUp.target]
  rw [placed.bounds_eq] at setUp
  constructor
  · rintro ⟨wanted, holds⟩
    have ends : library.loadBias + (library.loadBias + library.librarySize) =
        library.loadBias + library.librarySize :=
      congrArg ModuleRange.stop (setUp.moduleRange.symm.trans wanted.moduleRange)
    have zero : library.loadBias = 0 := by simpa using ends
    have below := holds.2
    rw [zero, BitVec.ofNat_eq_ofNat, BitVec.zero_add] at below
    exact ⟨zero, below⟩
  · rintro ⟨zero, below⟩
    refine ⟨by simpa [zero] using setUp, ?_, ?_⟩
    · simp [zero, BitVec.le_def]
    · simpa [zero] using below

/-- The library holds the target for every offset below its size. -/
theorem initOffset_target_iff (tracer : InstructionTracerManager arch) (placed : library.Placed)
    (found : loader.findLibrary name = some library) (offset : Word arch) :
    ((tracer.initOffset loader name offset).2 = true →
        library.Holds (tracer.initOffset loader name offset).1.targetTraceAddress) ↔
      offset ≠ library.librarySize := by
  rw [initOffset_result found, placed.size_eq, Bool.not_eq_true', decide_eq_false_iff_not]
  have target : ¬ library.librarySize < offset →
      (tracer.initOffset loader name offset).1.targetTraceAddress = library.loadBias + offset := by
    intro inside
    rw [← placed.size_eq] at inside
    rw [(initOffset_eq found inside).2.target, placed.bounds_eq]
  have noWrap := placed.noWrap
  constructor
  · rintro holds rfl
    have outside := (holds (BitVec.lt_irrefl _)).2
    rw [target (BitVec.lt_irrefl _)] at outside
    exact BitVec.lt_irrefl _ outside
  · intro differs inside
    have below : offset.toNat < library.librarySize.toNat := by
      rw [BitVec.not_lt, BitVec.le_def] at inside
      exact lt_of_le_of_ne inside fun same => differs (BitVec.eq_of_toNat_eq same)
    have sum : (library.loadBias + offset).toNat = library.loadBias.toNat + offset.toNat := by
      rw [BitVec.toNat_add, Nat.mod_eq_of_lt (by omega)]
    rw [target inside, LoadedLibrary.Holds, BitVec.le_def, BitVec.lt_def, sum, placed.stop_toNat]
    omega

/-- The offset of an address in the library passes the check, and comes back to it. -/
theorem initOffset_setUp (placed : library.Placed)
    (found : loader.findLibrary name = some library) {address : Word arch}
    (holds : library.Holds address) :
    (tracer.initOffset loader name (address - library.loadBias)).1.SetUp
      ⟨library.loadBias, library.loadBias + library.librarySize⟩ address := by
  have lower := BitVec.le_def.mp holds.1
  have upper := BitVec.lt_def.mp holds.2
  rw [placed.stop_toNat] at upper
  have inside : ¬ library.getLibraryRange.size < address - library.loadBias := by
    rw [placed.size_eq, BitVec.not_lt, BitVec.le_def, BitVec.toNat_sub_of_le holds.1]
    omega
  have setUp : (tracer.initOffset loader name (address - library.loadBias)).1.SetUp _ _ :=
    (initOffset_eq found inside).2
  have back : library.loadBias + (address - library.loadBias) = address := by
    rw [BitVec.add_comm, BitVec.sub_add_cancel]
  simpa only [placed.bounds_eq, back] using setUp

/-- The range by address is right exactly for a library with both parts of this one. -/
theorem initAddress_setUp_iff (tracer : InstructionTracerManager arch) (placed : library.Placed)
    {address : Word arch} {other : LoadedLibrary arch}
    (found : loader.findLibraryAt address = some other) :
    (tracer.initAddress loader address).1.SetUp
        ⟨library.loadBias, library.loadBias + library.librarySize⟩ address ↔
      other.loadBias = library.loadBias ∧ other.librarySize = library.librarySize := by
  have setUp : (tracer.initAddress loader address).1.SetUp _ _ := (initAddress_eq found).2
  rw [← placed.bounds_eq_iff]
  constructor
  · intro wanted
    exact setUp.moduleRange.symm.trans wanted.moduleRange
  · intro same
    rwa [same] at setUp

theorem initAddress_result (loader : Loader arch) (tracer : InstructionTracerManager arch)
    (address : Word arch) :
    (tracer.initAddress loader address).2 = (loader.findLibraryAt address).isSome :=
  (InitCall.byAddress loader address).apply_result tracer

/-- Both parts of the agreement by address, at the library that is found there. -/
theorem initAddress_agrees_iff (loader : Loader arch) (tracer : InstructionTracerManager arch)
    (placed : library.Placed) (address : Word arch) :
    ((library.Holds address → (tracer.initAddress loader address).2 = true →
          (tracer.initAddress loader address).1.SetUp
            ⟨library.loadBias, library.loadBias + library.librarySize⟩ address) ∧
        ((tracer.initAddress loader address).2 = true →
          ∃ located, loader.findLibraryAt address = some located ∧
            located.Holds (tracer.initAddress loader address).1.targetTraceAddress)) ↔
      ∀ other, loader.findLibraryAt address = some other → other.Holds address ∧
        (library.Holds address →
          other.loadBias = library.loadBias ∧ other.librarySize = library.librarySize) := by
  rw [initAddress_result]
  cases found : loader.findLibraryAt address with
  | none => simp
  | some other =>
    have target := (@initAddress_eq arch loader tracer address other found).2.target
    have setUp := initAddress_setUp_iff tracer placed found
    simp only [Option.isSome_some, forall_const, setUp, target, Option.some.injEq, exists_eq_left',
      forall_eq']
    exact and_comm

/-- The overloads agree exactly if no symbol is found, except in a library at zero, if the offset
is not the size, and if the lookup by address leads back to the library. -/
theorem inits_agree_iff {libraries : LoadedLibraries arch} {fuel : ℕ}
    (found : libraries.findLibrary fuel name = some library) (placed : library.Placed)
    (mmapStack : Word arch) (dispatchManager : InstructionDispatchManager arch)
    (offset address : Word arch) :
    InitsAgree (libraries.loader fuel mmapStack dispatchManager) tracer name library symbol offset
        address ↔
      (library.resolves symbol = true →
          library.loadBias = 0 ∧ library.findSymbol symbol < library.librarySize) ∧
        offset ≠ library.librarySize ∧ libraries.LeadsBack library address := by
  have named : (libraries.loader fuel mmapStack dispatchManager).findLibrary name = some library :=
    found
  have supported := LoadedLibraries.supported_of_size found placed.nonempty
  have bySymbol := initSymbol_agrees_iff symbol tracer placed named
  have byOffset := initOffset_target_iff tracer placed named offset
  have byAddress := initAddress_agrees_iff (libraries.loader fuel mmapStack dispatchManager) tracer
    placed address
  have back := LoadedLibraries.leadsBack_iff library fuel supported address
  rw [← bySymbol, ← byOffset]
  constructor
  · intro agree
    refine ⟨fun done => ⟨agree.bySymbol done, agree.symbolTarget done⟩, agree.offsetTarget, ?_⟩
    exact back.mpr (byAddress.mp ⟨agree.byAddress, agree.addressTarget⟩)
  · rintro ⟨symbols, offsets, leads⟩
    obtain ⟨range, target⟩ := byAddress.mpr (back.mp leads)
    exact ⟨fun done => (symbols done).1, fun holds _ => initOffset_setUp placed named holds, range,
      fun done => (symbols done).2, offsets, target⟩

end InstructionTracerManager

namespace LoadedLibraries

def libtest : Soinfo .aarch64 where
  realpath := "/data/libtest.so"
  loadBias := 0x1000
  size := 0x1000

/-- A library in a directory that is named after the other one. -/
def libhelper : Soinfo .aarch64 where
  realpath := "/vendor/libtest.so.d/libhelper.so"
  loadBias := 0x8000
  size := 0x3000

/-- Both libraries, each of one segment that begins with the function `target`. -/
def testAndHelper (solist : List (Soinfo .aarch64)) : LoadedLibraries .aarch64 where
  auxv _ := none
  phdrs := [libtest, libhelper]
  solist
  sdk := 34
  image so := ⟨[(0, so.size)], none, some [⟨"target", 0, 8, 1, 2⟩]⟩
  ifunc _ := 0
  freedText _ := ""

/-- What is found by the name of the library, with the size of the first `soinfo` that has it. -/
def named (solist : List (Soinfo .aarch64)) (size : Word .aarch64) : LoadedLibrary .aarch64 :=
  Library.loaded ⟨"libtest.so", libtest⟩ size ((testAndHelper solist).findSymbol 1 libtest)
    ((testAndHelper solist).symbolByAddress 1)

def testLoader (solist : List (Soinfo .aarch64)) : Loader .aarch64 :=
  (testAndHelper solist).loader 1 0x70000000 Loader.target.dispatchManager

end LoadedLibraries

namespace InstructionTracerManager

open LoadedLibraries

/-- A symbol that the library does not have, and an offset and an address in it. -/
theorem inits_agree_iff_offset :
    InitsAgree (testLoader [libtest, libhelper]) {} "libtest.so"
      (named [libtest, libhelper] 0x1000) "absent" 8 0x1008 := by
  have found : (testAndHelper [libtest, libhelper]).findLibrary 1 "libtest.so" =
      some (named [libtest, libhelper] 0x1000) := rfl
  refine (inits_agree_iff found ⟨by decide, by decide⟩ _ _ 8 0x1008).mpr ⟨by decide, by decide, ?_⟩
  rintro opened start size opens ⟨handler, so, first, known, rfl, rfl⟩
  cases opens
  cases first
  cases known
  exact ⟨by decide, fun _ => ⟨rfl, rfl⟩⟩

/-- A symbol sets the end of the range past the library, the offset of the end of the library is
accepted, and the path of a library may lead to another size than its name. -/
theorem inits_disagree :
    ¬ InitsAgree (testLoader [libtest, libhelper]) {} "libtest.so"
        (named [libtest, libhelper] 0x1000) "target" 8 0x1008 ∧
      ¬ InitsAgree (testLoader [libtest, libhelper]) {} "libtest.so"
        (named [libtest, libhelper] 0x1000) "absent" 0x1000 0x1008 ∧
      ¬ InitsAgree (testLoader [libhelper, libtest]) {} "libtest.so"
        (named [libhelper, libtest] 0x3000) "absent" 8 0x1008 := by
  refine ⟨fun agree => ?_, fun agree => ?_, fun agree => ?_⟩
  · have range := (agree.bySymbol rfl).moduleRange
    revert range
    decide
  · have outside := (agree.offsetTarget rfl).2
    revert outside
    decide
  · have range := (agree.byAddress (by decide) rfl).moduleRange
    revert range
    decide

end InstructionTracerManager

end QbdiTracer
