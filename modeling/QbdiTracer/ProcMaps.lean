import QbdiTracer.Core.Memory
import Mathlib.Data.List.Forall2

/-! The maps of a process as the kernel prints them, and what `getMemoryMap` reads back. -/

namespace QbdiTracer

open CText Memory

variable {arch : Arch}

/-- A mapping, with the fields of its line in `/proc/<pid>/maps`. The kernel prints a
newline in a name as an escape. -/
structure Mapping (arch : Arch) where
  start : Word arch
  stop : Word arch
  read : Bool
  write : Bool
  exec : Bool
  shared : Bool
  offset : Nat
  major : Nat
  minor : Nat
  inode : Nat
  name : List Char
  ordered : start < stop
  noNewline : '\n' ∉ name
  noNul : nul ∉ name
  noSpace : name.head? ≠ some ' '

namespace Mapping

/-- A permission, or a hyphen in its place. -/
def letter (given : Bool) (c : Char) : Char := if given then c else '-'

/-- The columns before the name. -/
def columns (mapping : Mapping arch) : List Char :=
  printed 16 8 mapping.start.toNat ++ '-' :: (printed 16 8 mapping.stop.toNat ++ ' ' ::
    letter mapping.read 'r' :: letter mapping.write 'w' :: letter mapping.exec 'x' ::
    (if mapping.shared then 's' else 'p') :: ' ' :: (printed 16 8 mapping.offset ++ ' ' ::
    (printed 16 2 mapping.major ++ ':' :: (printed 16 2 mapping.minor ++ ' ' ::
    (printed 10 0 mapping.inode ++ [' '])))))

/-- The column that names are padded to. It is the kernel's: under a 64-bit one the lines of a
32-bit process are padded as for `aarch64`. -/
def nameColumn (arch : Arch) : Nat := 25 + arch.wordBytes * 6 - 1

/-- The line without its newline: a name stands behind the padding and one more space. Each
character is a byte. -/
def text (mapping : Mapping arch) : List Char :=
  mapping.columns ++ if mapping.name = [] then []
    else List.replicate (nameColumn arch - mapping.columns.length) ' ' ++ ' ' :: mapping.name

def line (mapping : Mapping arch) : List Char := mapping.text ++ ['\n']

def permission (mapping : Mapping arch) : Permission :=
  (if mapping.read then .pfRead else 0) ||| (if mapping.write then .pfWrite else 0) |||
    (if mapping.exec then .pfExec else 0)

/-- What follows the last slash; nothing if there is none. -/
def baseName (name : List Char) : List Char :=
  if '/' ∈ name then (name.reverse.takeWhile (· ≠ '/')).reverse else []

/-- The entry that a line should be read back as. -/
def entry (mapping : Mapping arch) (fullPath : Bool) : MemoryMap arch where
  range := ⟨mapping.start, mapping.stop, BitVec.le_of_lt mapping.ordered⟩
  permission := mapping.permission
  name := if fullPath then mapping.name else baseName mapping.name

end Mapping

/-- The contents of the file. -/
def mapsText (mappings : List (Mapping arch)) : List Char := mappings.flatMap Mapping.line

section Names

theorem strrchr_eq_none {c : Char} {name : List Char} (absent : c ∉ name) :
    strrchr c name = none := by
  induction name with
  | nil => rfl
  | cons first rest ih =>
    rw [List.mem_cons, not_or] at absent
    rw [strrchr, ih absent.2, if_neg (Ne.symm absent.1)]
    rfl

theorem strrchr_append {c : Char} {last : List Char} (absent : c ∉ last) (before : List Char) :
    strrchr c (before ++ c :: last) = some (c :: last) := by
  induction before with
  | nil =>
    rw [List.nil_append, strrchr, strrchr_eq_none absent, if_pos rfl]
    rfl
  | cons first rest ih =>
    rw [List.cons_append, strrchr, ih]
    rfl

theorem strrchr_baseName (name : List Char) :
    ((strrchr '/' name).map List.tail).getD [] = Mapping.baseName name := by
  unfold Mapping.baseName
  by_cases slash : '/' ∈ name
  · obtain ⟨last, before, split, absent⟩ :=
      List.eq_append_cons_of_mem (List.mem_reverse.mpr slash)
    have whole : name = before.reverse ++ '/' :: last.reverse := by
      rw [← List.reverse_reverse name, split]
      simp
    have behind : name.reverse.takeWhile (· ≠ '/') = last := by
      rw [split, List.takeWhile_append_of_pos]
      · simp
      · intro c member
        rw [decide_eq_true_eq]
        rintro rfl
        exact absent member
    rw [if_pos slash, behind, whole,
      strrchr_append (fun member => absent (List.mem_reverse.mp member))]
    rfl
  · rw [if_neg slash, strrchr_eq_none slash]
    rfl

end Names

section Lines

variable (mapping : Mapping arch)

namespace Mapping

/-- The name behind the white space that it may begin with. -/
def shownName : List Char := mapping.name.dropWhile isspace

/-- The entry that a line which fits the buffer is read back as. -/
def shownEntry (fullPath : Bool) : MemoryMap arch :=
  { mapping.entry fullPath with
    name := if fullPath then mapping.shownName else baseName mapping.shownName }

/-- The end of the line, from the space behind the inode on. -/
def nameField : List Char :=
  ' ' :: if mapping.name = [] then []
    else List.replicate (nameColumn arch - mapping.columns.length) ' ' ++ ' ' :: mapping.name

theorem dropWhile_nameField : mapping.nameField.dropWhile isspace = mapping.shownName := by
  have space : isspace ' ' = true := by decide
  have spaces : ∀ c ∈ List.replicate (nameColumn arch - mapping.columns.length) ' ',
      isspace c = true := by
    intro c member
    rw [List.eq_of_mem_replicate member]
    exact space
  rw [nameField, shownName, List.dropWhile_cons_of_pos space]
  by_cases empty : mapping.name = []
  · rw [if_pos empty, empty]
  · rw [if_neg empty, List.dropWhile_append_of_pos spaces, List.dropWhile_cons_of_pos space]

theorem text_eq (stale : List Char) : mapping.text ++ nul :: stale =
    printed 16 8 mapping.start.toNat ++ '-' :: (printed 16 8 mapping.stop.toNat ++ ' ' ::
      letter mapping.read 'r' :: letter mapping.write 'w' :: letter mapping.exec 'x' ::
      (if mapping.shared then 's' else 'p') :: ' ' :: (printed 16 8 mapping.offset ++ ' ' ::
      (printed 16 2 mapping.major ++ ':' :: (printed 16 2 mapping.minor ++ ' ' ::
      (printed 10 0 mapping.inode ++ (mapping.nameField ++ nul :: stale)))))) := by
  simp [text, columns, nameField]

theorem not_mem_printed {c : Char} (low : c ≤ '/') {base : Nat} (small : base = 16 ∨ base = 10)
    (pad n : Nat) : c ∉ printed base pad n := by
  intro member
  have digit := @isDigit_printed base (by omega) (by omega) pad n c member
  rw [not_isDigit_of_le low] at digit
  cases digit

/-- Apart from the name a line has spaces, hyphens, digits and letters only. -/
theorem not_mem_text {c : Char} (low : c ≤ '/') (noBlank : c ≠ ' ') (noHyphen : c ≠ '-')
    (noName : c ∉ mapping.name) : c ∉ mapping.text := by
  have letters : ∀ given l, '/' < l → c ≠ letter given l := by
    intro given l high
    unfold letter
    split
    · rintro rfl
      exact Char.not_le.mpr high low
    · exact noHyphen
  have sharing : c ≠ if mapping.shared then 's' else 'p' := by
    split <;> rintro rfl <;> exact absurd low (by decide)
  have colon : c ≠ ':' := by
    rintro rfl
    exact absurd low (by decide)
  have hex := fun pad n => not_mem_printed low (.inl rfl : (16 : Nat) = 16 ∨ (16 : Nat) = 10) pad n
  have decimal := fun pad n =>
    not_mem_printed low (.inr rfl : (10 : Nat) = 16 ∨ (10 : Nat) = 10) pad n
  have columns : c ∉ mapping.columns := by
    simp [Mapping.columns, noBlank, noHyphen, sharing, colon, hex, decimal,
      letters _ 'r' (by decide), letters _ 'w' (by decide), letters _ 'x' (by decide)]
  rw [text, List.mem_append, not_or]
  refine ⟨columns, ?_⟩
  split
  · exact List.not_mem_nil
  · simp [noBlank, noName, List.mem_replicate]

theorem noNul_text : nul ∉ mapping.text :=
  mapping.not_mem_text (by decide) (by decide) (by decide) mapping.noNul

theorem noNewline_text : '\n' ∉ mapping.text :=
  mapping.not_mem_text (by decide) (by decide) (by decide) mapping.noNewline

end Mapping

theorem range_read {start stop : Word arch} (ordered : start < stop) :
    ((Range.ofBounds 0 0).setStart start).setEnd stop = ⟨start, stop, BitVec.le_of_lt ordered⟩ := by
  have above : ¬ stop < start := BitVec.not_lt.mpr (BitVec.le_of_lt ordered)
  simp [Range.setEnd, Range.setStart, above]

theorem permission_read (read write exec : Bool) :
    addPermission (addPermission (addPermission .pfNone .pfRead (Mapping.letter read 'r') 'r')
        .pfWrite (Mapping.letter write 'w') 'w') .pfExec (Mapping.letter exec 'x') 'x' =
      (if read then Permission.pfRead else 0) ||| (if write then .pfWrite else 0) |||
        (if exec then .pfExec else 0) := by
  cases read <;> cases write <;> cases exec <;> decide

/-- A line in the buffer is read up to its NUL, whatever stands behind that. -/
theorem readMap_text (fullPath : Bool) (stale : List Char) :
    readMap fullPath (mapping.text ++ nul :: stale) = .ok (mapping.shownEntry fullPath, false) := by
  have small : ∀ value : Word arch, ¬ 2 ^ arch.wordBits ≤ value.toNat := fun value =>
    Nat.not_le.mpr value.isLt
  have letter : isspace (Mapping.letter mapping.read 'r') = false := by
    cases mapping.read <;> decide
  have inode : ∃ value, Cursor.strtoul arch.wordBits 10
      ⟨printed 10 0 mapping.inode ++ (mapping.nameField ++ nul :: stale), stale.length, false⟩ =
      .ok (value, ⟨mapping.nameField ++ nul :: stale, stale.length, false⟩) := by
    have longer : ∀ before : List Char, stale.length ≤ (before ++ nul :: stale).length := by
      intro before
      rw [List.length_append, List.length_cons]
      omega
    exact ⟨_, Cursor.strtoul_printed arch.wordBits (.inr rfl) 0 mapping.inode (by decide)
      (by decide) (longer _)⟩
  obtain ⟨value, inode⟩ := inode
  have noNul : ∀ c ∈ mapping.shownName, decide (c ≠ nul) = true := by
    intro c member
    rw [decide_eq_true_eq]
    rintro rfl
    exact mapping.noNul ((List.dropWhile_sublist _).subset member)
  have taken : mapping.shownName.takeWhile (fun c => decide (c ≠ nul)) = mapping.shownName :=
    List.takeWhile_eq_self_iff.mpr noNul
  rw [readMap, Cursor.start_eq mapping.noNul_text, mapping.text_eq]
  simp (disch := first | assumption | decide | (simp; omega)) only [Cursor.strtoul_printed,
    Cursor.scan_blank, Cursor.scan_blank_printed, Cursor.look_cons, Cursor.advance_cons, bind,
    Except.bind, pure, Except.pure, small, if_false, inode, Cursor.scan_text,
    mapping.dropWhile_nameField, taken, BitVec.ofNat_toNat, BitVec.setWidth_eq, strrchr_baseName,
    range_read mapping.ordered, permission_read]
  rfl

end Lines

section Loop

variable {mapping : Mapping arch} {mappings : List (Mapping arch)} {fullPath overrun : Bool}
  {line file filled left rest text : List Char} {maps : List (MemoryMap arch)}

theorem readMaps_end : readMaps fullPath line [] maps overrun = .ok (maps, overrun) := by
  rw [readMaps]
  split
  · rfl
  · rename_i got
    cases got

theorem readMaps_step (got : fgets bufferSize line file = some (filled, left)) :
    readMaps fullPath line file maps overrun =
      (readMap fullPath (cutLine filled)).bind fun (m, past) =>
        readMaps fullPath (cutLine filled) left (maps ++ [m]) (overrun || past) := by
  rw [readMaps]
  split
  · rename_i none
    rw [got] at none
    cases none
  · rename_i same
    rw [got] at same
    cases same
    rfl

/-- A line that fits the buffer is one entry. -/
theorem readMaps_short (fits : mapping.text.length < bufferSize - 1) :
    ∃ next, readMaps fullPath line (mapping.line ++ rest) maps overrun =
      readMaps fullPath next rest (maps ++ [mapping.shownEntry fullPath]) overrun := by
  have got := @fgets_short mapping.text rest line bufferSize mapping.noNewline_text fits
  have cut := @cutLine_eq mapping.text (nul :: line.drop (mapping.text.length + 2))
    mapping.noNewline_text mapping.noNul_text
  have whole : mapping.line ++ rest = mapping.text ++ '\n' :: rest := by simp [Mapping.line]
  refine ⟨mapping.text ++ nul :: nul :: line.drop (mapping.text.length + 2), ?_⟩
  rw [whole, readMaps_step got, cut, readMap_text]
  simp only [Except.bind, Bool.or_false]

/-- If all lines fit, every mapping is one entry. -/
theorem readMaps_mapsText (fits : ∀ m ∈ mappings, m.text.length < bufferSize - 1) :
    readMaps fullPath line (mapsText mappings) maps overrun =
      .ok (maps ++ mappings.map (·.shownEntry fullPath), overrun) := by
  induction mappings generalizing line maps with
  | nil =>
    rw [mapsText, List.flatMap_nil, readMaps_end, List.map_nil, List.append_nil]
  | cons mapping rest ih =>
    rw [List.forall_mem_cons] at fits
    obtain ⟨next, first⟩ :=
      @readMaps_short _ mapping fullPath overrun line (mapsText rest) maps fits.1
    rw [mapsText, List.flatMap_cons, ← mapsText, first, ih fits.2, List.map_cons, List.append_assoc,
      List.singleton_append]

/-- What is read from the file at once is one entry. -/
theorem readMaps_again {result : List (MemoryMap arch) × Bool}
    (got : fgets bufferSize line file = some (filled, left))
    (done : readMaps fullPath line file maps overrun = .ok result) :
    ∃ next m past, readMaps fullPath next left (maps ++ [m]) past = .ok result := by
  rw [readMaps_step got] at done
  cases read : (readMap fullPath (cutLine filled) : Except ReadFault (MemoryMap arch × Bool)) with
  | error failure =>
    rw [read] at done
    cases done
  | ok found =>
    rw [read] at done
    exact ⟨_, _, _, done⟩

/-- A line is one entry at least, and two if it does not fit. -/
theorem readMaps_pieces {result : List (MemoryMap arch) × Bool} (noNewline : '\n' ∉ text)
    (done : readMaps fullPath line (text ++ '\n' :: rest) maps overrun = .ok result) :
    ∃ next longer past, readMaps fullPath next rest longer past = .ok result ∧
      maps.length + 1 ≤ longer.length ∧
      (bufferSize - 1 ≤ text.length → maps.length + 2 ≤ longer.length) := by
  induction size : text.length using Nat.strongRecOn generalizing text line maps overrun with
  | ind size ih =>
    subst size
    rcases Nat.lt_or_ge text.length (bufferSize - 1) with fits | long
    · obtain ⟨next, m, past, later⟩ := readMaps_again (fgets_short noNewline fits) done
      have one : (maps ++ [m]).length = maps.length + 1 := List.length_append
      exact ⟨next, maps ++ [m], past, later, by omega, by omega⟩
    · -- the rest of the line is read again
      have got := @fgets_long text ('\n' :: rest) line bufferSize noNewline (by decide) long
      obtain ⟨next, m, past, later⟩ := readMaps_again got done
      have one : (maps ++ [m]).length = maps.length + 1 := List.length_append
      have positive : 0 < bufferSize - 1 := by decide
      have shorter : (text.drop (bufferSize - 1)).length < text.length := by
        rw [List.length_drop]
        omega
      obtain ⟨last, longer, after, ended, more, -⟩ := ih _ shorter
        (fun inside => noNewline (List.mem_of_mem_drop inside)) later rfl
      exact ⟨last, longer, after, ended, by omega, by omega⟩

/-- There are more entries than mappings if a line does not fit. -/
theorem readMaps_count {result : List (MemoryMap arch) × Bool}
    (done : readMaps fullPath line (mapsText mappings) maps overrun = .ok result) :
    maps.length + mappings.length ≤ result.1.length ∧
      ((∃ m ∈ mappings, bufferSize - 1 ≤ m.text.length) →
        maps.length + mappings.length < result.1.length) := by
  induction mappings generalizing line maps overrun with
  | nil =>
    rw [mapsText, List.flatMap_nil, readMaps_end] at done
    cases done
    simp
  | cons mapping rest ih =>
    have whole : mapsText (mapping :: rest) = mapping.text ++ '\n' :: mapsText rest := by
      simp [mapsText, Mapping.line]
    rw [whole] at done
    obtain ⟨next, longer, past, later, one, two⟩ := readMaps_pieces mapping.noNewline_text done
    obtain ⟨least, more⟩ := ih later
    rw [List.length_cons]
    refine ⟨by omega, ?_⟩
    rintro ⟨m, member, long⟩
    rcases List.mem_cons.mp member with rfl | behind
    · have own := two long
      omega
    · have others := more ⟨m, behind, long⟩
      omega

end Loop

/-- `getMemoryMap` gives each mapping as one entry, with or without the path, and reads nothing
behind the end of a line. -/
def ReadsBack (files : List Char → Option (List Char)) (pid : BitVec 32)
    (mappings : List (Mapping arch)) : Prop :=
  ∀ fullPath, getMemoryMap files pid fullPath = .ok (mappings.map (·.entry fullPath), false)

/-- The line fits the buffer with its newline and a NUL, and the name does not begin with
white space. -/
def Mapping.Readable (mapping : Mapping arch) : Prop :=
  mapping.text.length < bufferSize - 1 ∧ ∀ c ∈ mapping.name.head?, isspace c = false

section Results

variable {mapping : Mapping arch} {mappings : List (Mapping arch)}
  {files : List Char → Option (List Char)} {pid : BitVec 32}

instance (mapping : Mapping arch) : Decidable mapping.Readable :=
  @instDecidableAnd _ _ _ (Option.decidableForallMem mapping.name.head?)

theorem Mapping.name_length_le (mapping : Mapping arch) :
    mapping.name.length ≤ mapping.text.length := by
  rw [text]
  split
  · rename_i empty
    rw [empty]
    exact Nat.zero_le _
  · simp only [List.length_append, List.length_cons]
    omega

theorem Mapping.shownName_eq_iff :
    mapping.shownName = mapping.name ↔ ∀ c ∈ mapping.name.head?, isspace c = false := by
  unfold Mapping.shownName
  cases mapping.name with
  | nil => simp
  | cons c rest =>
    simp only [List.head?_cons, Option.mem_def, Option.some.injEq, forall_eq']
    constructor
    · intro same
      rw [Bool.eq_false_iff]
      intro space
      rw [List.dropWhile_cons_of_pos space] at same
      have shorter := (List.dropWhile_sublist (p := isspace) (l := rest)).length_le
      rw [same, List.length_cons] at shorter
      omega
    · intro other
      rw [List.dropWhile_cons_of_neg (by rw [other]; decide)]

theorem getMemoryMap_of_fits (present : files (mapsPath pid) = some (mapsText mappings))
    (fits : ∀ m ∈ mappings, m.text.length < bufferSize - 1) (fullPath : Bool) :
    getMemoryMap files pid fullPath = .ok (mappings.map (·.shownEntry fullPath), false) := by
  rw [getMemoryMap, present]
  exact readMaps_mapsText fits

theorem not_readsBack_of_long (present : files (mapsPath pid) = some (mapsText mappings))
    (long : ∃ m ∈ mappings, bufferSize - 1 ≤ m.text.length) : ¬ ReadsBack files pid mappings := by
  intro back
  have done := back true
  rw [getMemoryMap, present] at done
  have more := (readMaps_count done).2 long
  rw [List.length_map, List.length_nil, Nat.zero_add] at more
  exact Nat.lt_irrefl _ more

/-- `getMemoryMap` reads the maps back exactly if every line fits the buffer and no name
begins with white space. -/
theorem readsBack_iff (present : files (mapsPath pid) = some (mapsText mappings)) :
    ReadsBack files pid mappings ↔ ∀ mapping ∈ mappings, mapping.Readable := by
  constructor
  · intro back
    have fits : ∀ m ∈ mappings, m.text.length < bufferSize - 1 := by
      intro m member
      by_contra long
      exact not_readsBack_of_long present ⟨m, member, Nat.not_lt.mp long⟩ back
    have done := (getMemoryMap_of_fits present fits true).symm.trans (back true)
    have entries := List.map_inj_left.mp (congrArg Prod.fst (Except.ok.inj done))
    intro m member
    exact ⟨fits m member, Mapping.shownName_eq_iff.mp (congrArg MemoryMap.name (entries m member))⟩
  · intro readable fullPath
    rw [getMemoryMap_of_fits present (fun m member => (readable m member).1)]
    have entries : mappings.map (·.shownEntry fullPath) = mappings.map (·.entry fullPath) := by
      refine List.map_congr_left fun m member => ?_
      rw [Mapping.shownEntry, Mapping.shownName_eq_iff.mpr (readable m member).2]
      rfl
    rw [entries]

/-- A shared library, and memory without a name. -/
def libraryMaps : List (Mapping .aarch64) :=
  [⟨0x7000, 0x9000, true, false, true, false, 0x1000, 0xfe, 3, 1207, "/system/lib64/libc.so".toList,
      by decide, by decide, by decide, by decide⟩,
    ⟨0x9000, 0xa000, true, true, false, false, 0, 0, 0, 0, [], by decide, by decide, by decide,
      by decide⟩]

theorem readsBack_iff_library : ReadsBack (fun _ => some (mapsText libraryMaps)) 1 libraryMaps :=
  (readsBack_iff rfl).mpr (by decide)

theorem not_mem_path {c : Char} (noSlash : c ≠ '/') (other : c ≠ 'a') (count : Nat) :
    c ∉ '/' :: List.replicate count 'a' := by
  rw [List.mem_cons, not_or]
  exact ⟨noSlash, fun member => other (List.eq_of_mem_replicate member)⟩

/-- A mapping whose path has 256 characters. -/
def longPath : Mapping .aarch64 :=
  ⟨0x7000, 0x9000, true, false, true, false, 0x1000, 0xfe, 3, 1207, '/' :: List.replicate 255 'a',
    by decide, not_mem_path (by decide) (by decide) 255, not_mem_path (by decide) (by decide) 255,
    fun same => absurd (Option.some.inj same) (by decide)⟩

/-- A mapping whose name begins with a tab. -/
def tabName : Mapping .aarch64 :=
  ⟨0x7000, 0x9000, true, false, true, false, 0, 0, 0, 0, "\tname".toList, by decide, by decide,
    by decide, by decide⟩

/-- The long line is read in two pieces, and the name loses its tab. -/
theorem maps_not_read_back :
    ¬ ReadsBack (fun _ => some (mapsText [longPath])) 1 [longPath] ∧
      ¬ ReadsBack (fun _ => some (mapsText [tabName])) 1 [tabName] := by
  constructor
  · refine not_readsBack_of_long rfl ⟨longPath, List.mem_singleton_self _, ?_⟩
    refine Nat.le_trans ?_ longPath.name_length_le
    rw [longPath, List.length_cons, List.length_replicate]
    decide
  · intro back
    have fits : ∀ m ∈ [tabName], m.text.length < bufferSize - 1 := by decide
    have done := (getMemoryMap_of_fits rfl fits true).symm.trans (back true)
    have entries : [tabName].map (·.shownEntry true) = [tabName].map (·.entry true) :=
      congrArg Prod.fst (Except.ok.inj done)
    have names := congrArg MemoryMap.name (List.head_eq_of_cons_eq entries)
    exact absurd names (by decide)

end Results

end QbdiTracer
