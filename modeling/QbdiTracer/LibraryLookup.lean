import QbdiTracer.Core.Xdl
import QbdiTracer.InitAgreement
import QbdiTracer.Monitors

/-! The two lookups behind `get_library_range`: xDL matches the end of a path and gives
the load bias, the linker's list is searched for the name anywhere in a path and gives the
size. -/

namespace QbdiTracer

variable {arch : Arch}

namespace Xdl

variable {filename path : List Char}

theorem endsWith_iff : endsWith path filename = true ↔ filename <:+ path := by
  simp [endsWith]

/-- A path that xDL accepts contains the name, unless the name has directories that the
path lacks. -/
theorem infix_of_matchesName (accepted : matchesName filename path = true)
    (absolute : isAbsolute filename = true → isAbsolute path = true) : filename <:+: path := by
  simp only [matchesName] at accepted
  split at accepted
  · rw [beq_iff_eq] at accepted
    rw [accepted]
  · split at accepted
    · rename_i slash
      rw [if_pos (absolute slash), beq_iff_eq] at accepted
      rw [accepted]
    · split at accepted
      · exact (endsWith_iff.mp accepted).isInfix
      · rw [beq_iff_eq] at accepted
        rw [accepted]

/-- A relative path that xDL accepts for an absolute name does not contain it. -/
theorem isAbsolute_of_infix (accepted : matchesName filename path = true)
    (contained : filename <:+: path) (slash : isAbsolute filename = true) :
    isAbsolute path = true := by
  by_contra relative
  have bracket : ¬ (filename.head? == some '[') = true := by
    rw [isAbsolute, beq_iff_eq] at slash
    rw [slash]
    decide
  rw [matchesName, if_neg bracket, if_pos slash, if_neg relative, endsWith_iff] at accepted
  have same := accepted.eq_of_length_le contained.length_le
  exact relative (same ▸ slash)

end Xdl

namespace Library

/-- The library takes up a part of the address space. -/
structure Real (so : Soinfo arch) : Prop where
  nonempty : 0 < so.size
  noWrap : so.loadBias.toNat + so.size.toNat < 2 ^ arch.wordBits

theorem Real.placed {so : Soinfo arch} (real : Real so) (name : String)
    (findSymbol : String → Word arch) (symbolByAddress : Word arch → String) :
    (loaded ⟨name, so⟩ so.size findSymbol symbolByAddress).Placed :=
  ⟨real.nonempty, real.noWrap⟩

/-- Both lookups came upon one library, and the range is the range of that library. -/
structure RangeOfOne (library : Library arch) (so : Soinfo arch) (solist : List (Soinfo arch))
    (sdk : ℤ) : Prop where
  same : library.handler = so
  range : (library.getLibraryRange solist sdk).map (fun range => (range.start, range.stop)) =
    .ok (so.loadBias, so.loadBias + so.size)

/-- No library before this one in the list has the name in its path. -/
def FirstNamed (solist : List (Soinfo arch)) (name : String) (so : Soinfo arch) : Prop :=
  ∃ before after, solist = before ++ so :: after ∧
    ∀ other ∈ before, ¬ name.toList <:+: other.realpath.toList

section Lookups

variable {auxv : String → Option (Soinfo arch)} {phdrs solist : List (Soinfo arch)} {sdk : ℤ}
  {name : String} {library : Library arch} {so : Soinfo arch}

theorem getSoInfo_iff : Linker.getSoInfo solist name = some so ↔
    name.toList <:+: so.realpath.toList ∧ FirstNamed solist name so := by
  simp only [Linker.getSoInfo, List.find?_eq_some_iff_append, strstr_iff, FirstNamed,
    Bool.not_eq_true', ← Bool.not_eq_true]

/-- The handle is on the first library that xDL accepts. -/
theorem findLibrary_some (listed : auxv name = none)
    (found : findLibrary auxv phdrs name = some library) :
    library.libraryName = name ∧ library.handler ∈ phdrs ∧
      Xdl.matchesName name.toList library.handler.realpath.toList = true := by
  simp only [findLibrary, Xdl.find, listed, Option.none_or, Option.map_eq_some_iff] at found
  obtain ⟨handler, first, rfl⟩ := found
  have accepted := List.find?_some first
  refine ⟨rfl, List.mem_of_find?_eq_some first, ?_⟩
  simp only [Xdl.findIterateCb] at accepted
  split at accepted
  · cases accepted
  · exact accepted

theorem getLibraryRange_of_some (sdk : ℤ)
    (known : Linker.getSoInfo solist library.libraryName = some so) :
    library.getLibraryRange solist sdk =
      .ok (.ofBounds library.getLoadBias (library.getLoadBias + so.getLibrarySize sdk)) := by
  simp only [getLibraryRange, getLibrarySize, known]
  rfl

theorem ofBounds_start (start stop : Word arch) : (Range.ofBounds start stop).start = start := by
  simp only [Range.ofBounds]
  split <;> rfl

/-- On a level without a layout the size is zero, and the range is empty. -/
theorem ofBounds_stop_iff (sdk : ℤ) (real : Real so) :
    (Range.ofBounds so.loadBias (so.loadBias + so.getLibrarySize sdk)).stop =
        so.loadBias + so.size ↔ Soinfo.supportsSdk sdk = true := by
  have below : so.loadBias < so.loadBias + so.size :=
    (real.placed "" (fun _ => 0) fun _ => "").ordered
  cases supported : Soinfo.supportsSdk sdk with
  | true =>
    simp only [Soinfo.getLibrarySize, Soinfo.getField, supported, ↓reduceIte, Range.ofBounds,
      dif_pos below]
  | false =>
    have empty : ¬ so.loadBias < so.loadBias + 0 := by simp
    simp only [Soinfo.getLibrarySize, Soinfo.getField, supported, Bool.false_eq_true, ↓reduceIte,
      Range.ofBounds, dif_neg empty, iff_false]
    intro same
    rw [← same] at below
    exact BitVec.lt_irrefl _ below

/-- The range is that of one library exactly if the device has a supported level, the name
is not absolute for a relative path, and no library before the one that xDL found has the
name in its path. -/
theorem rangeOfOne_iff (real : ∀ so ∈ phdrs, Real so) (listed : auxv name = none)
    (found : findLibrary auxv phdrs name = some library)
    (known : Linker.getSoInfo solist name = some so) :
    RangeOfOne library so solist sdk ↔
      Soinfo.supportsSdk sdk = true ∧
        (Xdl.isAbsolute name.toList = true →
          Xdl.isAbsolute library.handler.realpath.toList = true) ∧
        FirstNamed solist name library.handler := by
  obtain ⟨rfl, member, accepted⟩ := findLibrary_some listed found
  have whole := ofBounds_stop_iff sdk (real library.handler member)
  have range := getLibraryRange_of_some sdk known
  constructor
  · rintro ⟨rfl, bounds⟩
    obtain ⟨contained, first⟩ := getSoInfo_iff.mp known
    refine ⟨whole.mp ?_, Xdl.isAbsolute_of_infix accepted contained, first⟩
    rw [range] at bounds
    exact congrArg Prod.snd (Except.ok.inj bounds)
  · rintro ⟨supported, absolute, first⟩
    have contained := Xdl.infix_of_matchesName accepted absolute
    cases known.symm.trans (getSoInfo_iff.mpr ⟨contained, first⟩)
    refine ⟨rfl, ?_⟩
    rw [range]
    exact congrArg Except.ok (Prod.ext (ofBounds_start ..) (whole.mpr supported))

end Lookups

/-- A library in a directory that is named after another library. -/
def helper : Soinfo .aarch64 where
  realpath := "/data/libtest.so.d/libhelper.so"
  loadBias := 0x8000
  size := 0x3000

def target : Soinfo .aarch64 where
  realpath := "/data/libtest.so"
  loadBias := 0x1000
  size := 0x1000

theorem helper_target_real : ∀ so ∈ [target, helper], Real so := by
  intro so member
  simp only [List.mem_cons, List.not_mem_nil, or_false] at member
  rcases member with rfl | rfl
  · exact ⟨by decide, by decide⟩
  · exact ⟨by decide, by decide⟩

/-- The library with the name stands first in the linker's list. -/
theorem rangeOfOne_iff_first :
    RangeOfOne ⟨"libtest.so", target⟩ target [target, helper] 34 := by
  have found : findLibrary (fun _ => none) [target, helper] "libtest.so" =
      some ⟨"libtest.so", target⟩ := rfl
  have known : Linker.getSoInfo [target, helper] "libtest.so" = some target := rfl
  exact (rangeOfOne_iff helper_target_real rfl found known).mpr
    ⟨rfl, by decide, [], [helper], rfl, by simp⟩

/-- The linker's list has the other library first: the range starts at one library and
has the size of the other. -/
theorem range_of_two :
    findLibrary (fun _ => none) [target, helper] "libtest.so" = some ⟨"libtest.so", target⟩ ∧
      Linker.getSoInfo [helper, target] "libtest.so" = some helper ∧
      ¬ RangeOfOne ⟨"libtest.so", target⟩ helper [helper, target] 34 := by
  refine ⟨rfl, rfl, fun one => ?_⟩
  have bias := congrArg Soinfo.loadBias one.same
  revert bias
  decide

end Library

namespace LoadedLibraries

/-- The library lies over the address. -/
def Over (so : Soinfo arch) (address : Word arch) : Prop :=
  so.loadBias ≤ address ∧ address < so.loadBias + so.size

/-- No path of a library stands for another one, and each library is a place of its own around its
segments. -/
structure Orderly (libraries : LoadedLibraries arch) : Prop where
  auxv : ∀ so ∈ libraries.phdrs, libraries.auxv so.realpath = none
  accepted : ∀ so ∈ libraries.phdrs, ∀ other ∈ libraries.phdrs,
    Xdl.findIterateCb so.realpath other = true → other = so
  contained : ∀ so ∈ libraries.phdrs, ∀ other ∈ libraries.solist,
    so.realpath.toList <:+: other.realpath.toList → other = so
  real : ∀ so ∈ libraries.phdrs, Library.Real so
  spans : ∀ so ∈ libraries.phdrs, ∀ segment ∈ (libraries.image so).segments,
    segment.1.toNat + segment.2.toNat ≤ so.size.toNat
  apart : ∀ so ∈ libraries.phdrs, ∀ other ∈ libraries.phdrs, ∀ address,
    Over so address → Over other address → other = so

variable {libraries : LoadedLibraries arch} {so : Soinfo arch}

/-- A path leads to its own library. -/
theorem Orderly.eq_of_leadsTo (orderly : libraries.Orderly) (member : so ∈ libraries.phdrs)
    {start size : Word arch} (leads : libraries.LeadsTo so.realpath start size) :
    start = so.loadBias ∧ size = so.size := by
  obtain ⟨opened, known, opens, knows, rfl, rfl⟩ := leads
  rw [Xdl.find, orderly.auxv so member, Option.none_or] at opens
  have handler := orderly.accepted so member opened (List.mem_of_find?_eq_some opens)
    (List.find?_some opens)
  have listed := orderly.contained so member known (List.mem_of_find?_eq_some knows)
    (Library.getSoInfo_iff.mp knows).1
  exact ⟨by rw [handler], by rw [listed]⟩

/-- A library lies over every address in its segments. -/
theorem Orderly.over_of_elfIsMatch (orderly : libraries.Orderly) (member : so ∈ libraries.phdrs)
    {address : Word arch} (hit : (libraries.handle so).elfIsMatch address = true) :
    Over so address := by
  have noWrap := (orderly.real so member).noWrap
  rw [XdlHandle.elfIsMatch] at hit
  split at hit
  · cases hit
  · rename_i lower
    have bias : so.loadBias ≤ address := BitVec.not_lt.mp lower
    obtain ⟨segment, listed, covers⟩ := List.any_eq_true.mp hit
    have room := orderly.spans so member segment listed
    simp only [Bool.and_eq_true, decide_eq_true_eq] at covers
    have above := BitVec.lt_def.mp covers.2
    have offset : (address - so.loadBias).toNat = address.toNat - so.loadBias.toNat :=
      BitVec.toNat_sub_of_le bias
    have stop : (segment.1 + segment.2).toNat ≤ segment.1.toNat + segment.2.toNat := by
      rw [BitVec.toNat_add]
      exact Nat.mod_le _ _
    refine ⟨bias, ?_⟩
    rw [BitVec.lt_def, BitVec.toNat_add, Nat.mod_eq_of_lt noWrap]
    change (address - so.loadBias).toNat < _ at above
    omega

/-- In an orderly process the lookup by address leads back to every library. -/
theorem Orderly.leadsBack (orderly : libraries.Orderly) (member : so ∈ libraries.phdrs)
    {library : LoadedLibrary arch} (bias : library.loadBias = so.loadBias)
    (size : library.librarySize = so.size) (address : Word arch) :
    libraries.LeadsBack library address := by
  intro opened start size' opens leads
  rw [XdlHandle.openByAddr] at opens
  split at opens
  · cases opens
  · rw [List.find?_map, Option.map_eq_some_iff] at opens
    obtain ⟨other, first, rfl⟩ := opens
    have listed := List.mem_of_find?_eq_some first
    have hit := List.find?_some first
    simp only [Function.comp_apply, Bool.and_eq_true] at hit
    obtain ⟨rfl, rfl⟩ := orderly.eq_of_leadsTo listed leads
    have lies := orderly.over_of_elfIsMatch listed hit.2
    refine ⟨lies, fun holds => ?_⟩
    have here : Over so address := by
      rw [LoadedLibrary.Holds, bias, size] at holds
      exact holds
    rw [orderly.apart so member other listed address here lies, bias, size]
    exact ⟨rfl, rfl⟩

theorem apart_libtest_libhelper {address : Word .aarch64} (lies : Over libtest address) :
    ¬ Over libhelper address := by
  intro other
  have below : address.toNat < 0x2000 := BitVec.lt_def.mp lies.2
  have above : 0x8000 ≤ address.toNat := BitVec.le_def.mp other.1
  omega

theorem testAndHelper_orderly : (testAndHelper [libtest, libhelper]).Orderly := by
  have members : ∀ so ∈ (testAndHelper [libtest, libhelper]).phdrs, so = libtest ∨ so = libhelper := by
    simp [testAndHelper]
  constructor
  case auxv => exact fun _ _ => rfl
  case accepted =>
    intro so member other member'
    rcases members so member with rfl | rfl <;> rcases members other member' with rfl | rfl
    all_goals simp +decide
  case contained =>
    intro so member other member'
    rcases members so member with rfl | rfl <;> rcases members other member' with rfl | rfl
    all_goals simp +decide
  case real =>
    intro so member
    rcases members so member with rfl | rfl
    · exact ⟨by decide, by decide⟩
    · exact ⟨by decide, by decide⟩
  case spans =>
    intro so member segment listed
    cases List.mem_singleton.mp listed
    simp
  case apart =>
    intro so member other member' address lies lies'
    rcases members so member with rfl | rfl <;> rcases members other member' with rfl | rfl
    · rfl
    · exact absurd lies' (apart_libtest_libhelper lies)
    · exact absurd lies (apart_libtest_libhelper lies')
    · rfl

end LoadedLibraries

end QbdiTracer
