import QbdiTracer.Library.WhileLoop
import Mathlib.Data.Int.Notation
import Mathlib.Data.Nat.Notation

/-! `core/memory_scan.cpp`: the compiler of byte patterns and the three scan
loops. An address (`uint8_t *`) is an integer, so that pointers do not wrap around. The traces
keep the calls of the callback and the memory that was read. -/

namespace QbdiTracer.MemoryScan

open WhileLoop

abbrev Byte := BitVec 8

abbrev Memory := ℤ → Byte

inductive MatchType where
  | exact
  | wildcard
  | mask
  deriving DecidableEq, Repr

structure MatchToken where
  type : MatchType
  bytes : List Byte := []
  masks : List Byte := []
  offset : ℕ
  deriving DecidableEq

structure MatchPattern where
  tokens : List MatchToken := []
  size : ℕ := 0
  byteLen : ℕ := 0
  deriving DecidableEq

/-- The ways the C++ code can leave its defined behaviour, and a loop that is
still running when the model gives up. -/
inductive ScanFault where
  /-- A null `needle` is dereferenced. -/
  | nullNeedle
  /-- `std::vector::at` throws. -/
  | outOfRange
  /-- A character past the terminating NUL, or behind a null pointer, is read. -/
  | pastEnd
  | unfinished
  deriving DecidableEq, Repr

/-! The compiler. -/

def nul : Char := Char.ofNat 0

/-- `std::string::find`. -/
def find (string delimiter : List Char) : Option ℕ :=
  (List.range (string.length + 1)).find? fun pos => delimiter.isPrefixOf (string.drop pos)

/-- The cuts of `string_split`, at most `cuts` of them; an empty remainder is
dropped. -/
def stringSplitLoop (delimiter : List Char) :
    ℕ → List Char → Option ℕ → List (List Char) → List (List Char)
  | cuts + 1, remainder, some pos, strList =>
    let rest := remainder.drop (pos + delimiter.length)
    stringSplitLoop delimiter cuts rest (find rest delimiter) (strList ++ [remainder.take pos])
  | _, remainder, _, strList => if remainder.length ≠ 0 then strList ++ [remainder] else strList

/-- For `max_tokens` at least 1, which the counter tests after decrementing. -/
def stringSplit (string delimiter : List Char) (maxTokens : ℕ) : List (List Char) :=
  match find string delimiter with
  | some pos => stringSplitLoop delimiter (maxTokens - 1) string (some pos) []
  | none => [string]

/-- The lower half of `ascii_table_data`; the upper 128 entries are zero. -/
def asciiTableData : List ℕ :=
  [0x004, 0x004, 0x004, 0x004, 0x004, 0x004, 0x004, 0x004,
   0x004, 0x104, 0x104, 0x004, 0x104, 0x104, 0x004, 0x004,
   0x004, 0x004, 0x004, 0x004, 0x004, 0x004, 0x004, 0x004,
   0x004, 0x004, 0x004, 0x004, 0x004, 0x004, 0x004, 0x004,
   0x140, 0x0d0, 0x0d0, 0x0d0, 0x0d0, 0x0d0, 0x0d0, 0x0d0,
   0x0d0, 0x0d0, 0x0d0, 0x0d0, 0x0d0, 0x0d0, 0x0d0, 0x0d0,
   0x459, 0x459, 0x459, 0x459, 0x459, 0x459, 0x459, 0x459,
   0x459, 0x459, 0x0d0, 0x0d0, 0x0d0, 0x0d0, 0x0d0, 0x0d0,
   0x0d0, 0x653, 0x653, 0x653, 0x653, 0x653, 0x653, 0x253,
   0x253, 0x253, 0x253, 0x253, 0x253, 0x253, 0x253, 0x253,
   0x253, 0x253, 0x253, 0x253, 0x253, 0x253, 0x253, 0x253,
   0x253, 0x253, 0x253, 0x0d0, 0x0d0, 0x0d0, 0x0d0, 0x0d0,
   0x0d0, 0x473, 0x473, 0x473, 0x473, 0x473, 0x473, 0x073,
   0x073, 0x073, 0x073, 0x073, 0x073, 0x073, 0x073, 0x073,
   0x073, 0x073, 0x073, 0x073, 0x073, 0x073, 0x073, 0x073,
   0x073, 0x073, 0x073, 0x0d0, 0x0d0, 0x0d0, 0x0d0, 0x004]

/-- `g_ascii_table[c] & G_ASCII_DIGIT`. -/
def asciiIsDigit (c : Char) : Bool := asciiTableData.getD c.toNat 0 &&& 1 <<< 3 ≠ 0

/-- `none` is the result -1. -/
def asciiDigitValue (c : Char) : Option ℕ :=
  if asciiIsDigit c then some (c.toNat - '0'.toNat) else none

def asciiXdigitValue (c : Char) : Option ℕ :=
  if 'A' ≤ c ∧ c ≤ 'F' then some (c.toNat - 'A'.toNat + 10)
  else if 'a' ≤ c ∧ c ≤ 'f' then some (c.toNat - 'a'.toNat + 10)
  else asciiDigitValue c

def matchPatternPushToken (self : MatchPattern) (type : MatchType) : MatchPattern :=
  let tokens := self.tokens ++ [{ type, offset := self.tokens.length }]
  { self with tokens, size := tokens.length }

/-- `token`, the last one pushed, if it has the type; else a new one. -/
def tokenOfType (pattern : MatchPattern) (type : MatchType) : MatchPattern :=
  if pattern.tokens.getLast?.any (·.type = type) then pattern
  else matchPatternPushToken pattern type

def modifyLastToken (pattern : MatchPattern) (change : MatchToken → MatchToken) : MatchPattern :=
  { pattern with tokens := pattern.tokens.dropLast ++ (pattern.tokens.getLast?.map change).toList }

/-- One byte unit enters the pattern. A wildcard byte is stored as 0x42. -/
def pushUnit (pattern : MatchPattern) (value mask : Byte) : MatchPattern :=
  if mask = 0xff then
    modifyLastToken (tokenOfType pattern .exact) fun token =>
      { token with bytes := token.bytes ++ [value] }
  else if mask = 0x00 then
    modifyLastToken (tokenOfType pattern .wildcard) fun token =>
      { token with bytes := token.bytes ++ [0x42] }
  else
    modifyLastToken (tokenOfType pattern .mask) fun token =>
      { token with bytes := token.bytes ++ [value], masks := token.masks ++ [mask] }

def matchTokenCmp (pattern : MatchPattern) : MatchPattern :=
  let total := pattern.tokens.foldl (fun byteLen item => byteLen + item.bytes.length) pattern.byteLen
  { pattern with byteLen := total }

/-- Where a `const char *` stands in its text: what is left up to the NUL, or
`none` for a null pointer and for a pointer past the NUL. -/
abbrev TextCursor := Option (List Char)

namespace TextCursor

def read (cursor : TextCursor) (offset : ℕ) : Except ScanFault Char :=
  match cursor with
  | none => .error .pastEnd
  | some rest => if offset ≤ rest.length then .ok (rest.getD offset nul) else .error .pastEnd

def advance : TextCursor → TextCursor
  | some (_ :: rest) => some rest
  | _ => none

/-- `while (mh[0] == ' ') mh++`. -/
def skipSpaces : TextCursor → Except ScanFault TextCursor
  | none => .error .pastEnd
  | some rest => .ok (some (rest.dropWhile (· = ' ')))

end TextCursor

/-- The variables of the parse loop; `token` is the last token of the pattern. -/
structure ParseState where
  ch : TextCursor
  mh : TextCursor
  pattern : MatchPattern

/-- `(upper << 4) | lower`. -/
def joinNibbles (upper lower : ℕ) : Byte := BitVec.ofNat 8 (upper <<< 4 ||| lower)

/-- The loop condition fails. -/
def atEnd (hasMask : Bool) (state : ParseState) : Except ScanFault Bool := do
  let ch ← state.ch.read 0
  if ch = nul then return true
  else if hasMask then
    let mh ← state.mh.read 0
    return mh = nul
  else return false

/-- The byte at `mh` behind any spaces, and where it starts; `none` is
`parse_error`. -/
def readMask (mh : TextCursor) : Except ScanFault (Option (Byte × TextCursor)) := do
  let skipped ← mh.skipSpaces
  match asciiXdigitValue (← skipped.read 0) with
  | none => return none
  | some upper =>
    match asciiXdigitValue (← skipped.read 1) with
    | none => return none
    | some lower => return some (joinNibbles upper lower, skipped)

/-- A nibble with `wild` in the place of a `?`. -/
def readNibble (wild : ℕ) (c : Char) : Option ℕ :=
  if c = '?' then some wild else asciiXdigitValue c

/-- The loop body from the mask on; `none` is `parse_error`. -/
def parseUnit (hasMask : Bool) (state : ParseState) : Except ScanFault (Option ParseState) := do
  match ← (if hasMask then readMask state.mh else .ok (some (0xff, state.mh))) with
  | none => return none
  | some (mask, mh) =>
    let c0 ← state.ch.read 0
    match readNibble 4 c0 with
    | none => return none
    | some upper =>
      let mask := if c0 = '?' then mask &&& 0x0f else mask
      let c1 ← state.ch.read 1
      match readNibble 2 c1 with
      | none => return none
      | some lower =>
        let mask := if c1 = '?' then mask &&& 0xf0 else mask
        return some {
          ch := state.ch.advance.advance
          mh := TextCursor.advance (TextCursor.advance mh)
          pattern := pushUnit state.pattern (joinNibbles upper lower) mask }

/-- One round of the parse loop. The result tells whether `parse_error` was
avoided; the pattern is the one left in `pattern_`. -/
def parseRound (hasMask : Bool) (state : ParseState) :
    Except ScanFault (Round ParseState (Bool × MatchPattern)) := do
  if ← atEnd hasMask state then return .leave (true, matchTokenCmp state.pattern)
  else if (← state.ch.read 0) = ' ' then
    -- `continue` moves the mask cursor too
    return .again { state with ch := state.ch.advance, mh := state.mh.advance }
  else
    match ← parseUnit hasMask state with
    | none => return .leave (false, state.pattern)
    | some next => return .again next

def matchPatternNewFromString (pattern : MatchPattern) (str : List Char) :
    Except ScanFault (Bool × MatchPattern) :=
  match stringSplit str [':'] 2 with
  | [] => .error .outOfRange
  | matchStr :: others =>
    let maskStr := others.headD []
    let hasMask := maskStr.length ≠ 0
    let start : ParseState := {
      ch := some matchStr
      mh := if hasMask then some maskStr else none
      pattern }
    (iterate (fun state => .ofExcept (parseRound hasMask state)) (matchStr.length + 1) start).getD
      (.error .unfinished)

/-- The constructor: the pattern that stays, and whether the text was accepted. -/
def memoryScanNew (patternStr : List Char) : Except ScanFault (Bool × MatchPattern) :=
  matchPatternNewFromString { tokens := [], size := 0, byteLen := 0 } patternStr

/-! The scan. -/

/-- A stretch of memory that is read. -/
structure Extent where
  start : ℤ
  len : ℕ
  deriving DecidableEq

/-- The decision of the callback, which may depend on its earlier calls. -/
abbrev Callback := List ℤ → ℤ → Bool

def readBytes (memory : Memory) (data : ℤ) (len : ℕ) : List Byte :=
  (List.range len).map fun i : ℕ => memory (data + i)

/-- `memcmp(data, bytes, len) == 0`. -/
def memcmp (memory : Memory) (data : ℤ) (bytes : List Byte) : Bool :=
  readBytes memory data bytes.length = bytes

/-- `memmem`: the first occurrence inside the haystack. -/
def memmem (memory : Memory) (needle : List Byte) : ℤ → ℕ → Option ℤ
  | haystack, 0 => if needle.length = 0 then some haystack else none
  | haystack, len + 1 =>
    if len + 1 < needle.length then none
    else if memcmp memory haystack needle then some haystack
    else memmem memory needle (haystack + 1) len

/-- The loop of `memcmp_mask` from index `i` on: the result and how many bytes
were read. -/
def memcmpMaskLoop (memory : Memory) (masks : List Byte) (maskData : ℤ) :
    ℕ → List Byte → Except ScanFault (Bool × ℕ)
  | i, [] => .ok (true, i)
  | i, byte :: rest =>
    match masks[i]? with
    | none => .error .outOfRange
    | some mask =>
      if byte &&& mask ≠ memory (maskData + i) &&& mask then .ok (false, i + 1)
      else memcmpMaskLoop memory masks maskData (i + 1) rest

def memcmpMask (memory : Memory) (matchToken : MatchToken) (maskData : ℤ) :
    Except ScanFault (Bool × ℕ) :=
  memcmpMaskLoop memory matchToken.masks maskData 0 matchToken.bytes

/-- `data` and `pass_before` or `pass_after`, with the memory read so far. -/
structure MatchCursor where
  data : ℤ
  pass : Bool := true
  reads : List Extent := []

/-- Compare one token at `data`. The flag is overwritten, not accumulated. -/
def compareToken (memory : Memory) (needle : MatchToken) (data : ℤ) (cursor : MatchCursor) :
    Except ScanFault MatchCursor :=
  match needle.type with
  | .wildcard => .ok cursor
  | .mask => do
    let (pass, count) ← memcmpMask memory needle data
    return { cursor with pass, reads := cursor.reads ++ [⟨data, count⟩] }
  | .exact =>
    .ok { cursor with
      pass := memcmp memory data needle.bytes
      reads := cursor.reads ++ [⟨data, needle.bytes.length⟩] }

/-- The loop of `match_before` over the first `count` tokens, from the last. -/
def matchBeforeLoop (memory : Memory) (pattern : MatchPattern) :
    ℕ → MatchCursor → Except ScanFault MatchCursor
  | 0, cursor => .ok cursor
  | i + 1, cursor =>
    match pattern.tokens[i]? with
    | none => .error .outOfRange
    | some needle => do
      let data := cursor.data - needle.bytes.length
      let compared ← compareToken memory needle data { cursor with data }
      matchBeforeLoop memory pattern i compared

def matchBefore (memory : Memory) (index : ℕ) (data : ℤ) (pattern : MatchPattern) :
    Except ScanFault MatchCursor :=
  matchBeforeLoop memory pattern (index + 1) { data }

/-- The loop of `match_after` over `count` tokens from index `i` on. -/
def matchAfterLoop (memory : Memory) (pattern : MatchPattern) :
    ℕ → ℕ → MatchCursor → Except ScanFault MatchCursor
  | 0, _, cursor => .ok cursor
  | count + 1, i, cursor =>
    match pattern.tokens[i]? with
    | none => .error .outOfRange
    | some needle => do
      let compared ← compareToken memory needle cursor.data cursor
      matchAfterLoop memory pattern count (i + 1)
        { compared with data := cursor.data + needle.bytes.length }

def matchAfter (memory : Memory) (index : ℕ) (data : ℤ) (pattern : MatchPattern) :
    Except ScanFault MatchCursor :=
  matchAfterLoop memory pattern (pattern.size - index) index { data }

/-- The first of the longest tokens of the type. -/
def matchPatternGetLongestToken (self : MatchPattern) (type : MatchType) : Option MatchToken :=
  self.tokens.foldl (fun longest item =>
    if item.type = type ∧ longest.all (fun token => token.bytes.length < item.bytes.length) then
      some item
    else longest) none

/-- The test of the tokens before a needle found at `cur`. -/
def testBefore (memory : Memory) (pattern : MatchPattern) (needle : MatchToken) (cur : ℤ) :
    Except ScanFault MatchCursor :=
  if 0 < needle.offset then matchBefore memory (needle.offset - 1) cur pattern
  else .ok { data := cur }

/-- The test of the tokens after it. -/
def testAfter (memory : Memory) (pattern : MatchPattern) (needle : MatchToken) (cur : ℤ) :
    Except ScanFault MatchCursor :=
  let tempAfter := cur + needle.bytes.length
  if needle.offset < pattern.tokens.length then
    matchAfter memory (needle.offset + 1) tempAfter pattern
  else .ok { data := tempAfter }

/-- What the scan loops do with a needle found at `cur`, up to the callback: the
result of the two tests, `temp_before`, and the memory read. -/
def examine (memory : Memory) (pattern : MatchPattern) (needle : MatchToken) (cur : ℤ) :
    Except ScanFault (Bool × ℤ × List Extent) := do
  let before ← testBefore memory pattern needle cur
  if !before.pass then return (false, before.data, before.reads)
  let after ← testAfter memory pattern needle cur
  return (after.pass, before.data, before.reads ++ after.reads)

/-- The calls of the callback and the memory read. -/
structure ScanTrace where
  reported : List ℤ := []
  reads : List Extent := []
  deriving DecidableEq

structure ScanState extends ScanTrace where
  cur : ℤ

/-- One round of `memory_scan`. -/
def memoryScanRound (memory : Memory) (endAddress : ℤ) (func : Callback)
    (pattern : MatchPattern) (needle : MatchToken) (state : ScanState) :
    Except ScanFault (Round ScanState (Bool × ScanTrace)) := do
  if state.cur < endAddress then
    let len := (endAddress - state.cur).toNat
    let searched := state.reads ++ [⟨state.cur, len⟩]
    match memmem memory needle.bytes state.cur len with
    | none => return .leave (false, { state.toScanTrace with reads := searched })
    | some cur =>
      let (matched, tempBefore, reads) ← examine memory pattern needle cur
      let reads := searched ++ reads
      if !matched then
        return .again { state with cur := cur + needle.bytes.length, reads }
      let reported := state.reported ++ [tempBefore]
      if !func state.reported tempBefore then return .leave (true, { reported, reads })
      return .again { cur := cur + needle.bytes.length, reported, reads }
  else return .leave (true, state.toScanTrace)

def memoryScan (memory : Memory) (base : ℤ) (len : ℕ) (func : Callback)
    (pattern : MatchPattern) : Except ScanFault (Bool × ScanTrace) :=
  match matchPatternGetLongestToken pattern .exact with
  | none => .error .nullNeedle
  | some needle =>
    (iterate (fun state => .ofExcept (memoryScanRound memory (base + len) func pattern needle state))
      (len + 1) { cur := base }).getD (.error .unfinished)

/-- `Args`, the record handed to the scan thread. -/
structure Args where
  base : ℤ
  len : ℕ
  func : Callback
  pattern : MatchPattern

/-- One round of `memory_scan_asyn`, whose result is always `nullptr`. -/
def memoryScanAsynRound (memory : Memory) (endAddress : ℤ) (args : Args)
    (needle : MatchToken) (state : ScanState) :
    Except ScanFault (Round ScanState ScanTrace) := do
  if state.cur < endAddress then
    let len := (endAddress - state.cur).toNat
    let searched := state.reads ++ [⟨state.cur, len⟩]
    match memmem memory needle.bytes state.cur len with
    | none => return .leave { state.toScanTrace with reads := searched }
    | some cur =>
      let (matched, tempBefore, reads) ← examine memory args.pattern needle cur
      let reads := searched ++ reads
      if !matched then
        return .again { state with cur := cur + needle.bytes.length, reads }
      let reported := state.reported ++ [tempBefore]
      if !args.func state.reported tempBefore then return .leave { reported, reads }
      return .again { cur := cur + needle.bytes.length, reported, reads }
  else return .leave state.toScanTrace

/-- The thread `memory_scan_asyn`. -/
def memoryScanThread (memory : Memory) (args : Args) : Except ScanFault ScanTrace :=
  match matchPatternGetLongestToken args.pattern .exact with
  | none => .error .nullNeedle
  | some needle =>
    (iterate (fun state =>
        .ofExcept (memoryScanAsynRound memory (args.base + args.len) args needle state))
      (args.len + 1) { cur := args.base }).getD (.error .unfinished)

/-- The copy of one token, byte by byte. -/
def copyToken (item : MatchToken) : MatchToken where
  offset := item.offset
  type := item.type
  bytes := item.bytes.foldl (fun bytes byte => bytes ++ [byte]) []
  masks := item.masks.foldl (fun masks mask => masks ++ [mask]) []

/-- The copy of the pattern that `memoryScanAsyn` hands to the thread. -/
def copyTokens (pattern : MatchPattern) : MatchPattern where
  byteLen := pattern.byteLen
  size := pattern.size
  tokens := pattern.tokens.foldl (fun tokens item => tokens ++ [copyToken item]) []

def memoryScanAsyn (memory : Memory) (base : ℤ) (len : ℕ) (func : Callback)
    (pattern : MatchPattern) : Except ScanFault ScanTrace :=
  memoryScanThread memory { base, len, func, pattern := copyTokens pattern }

/-- One round of `memoryScanOnce`. -/
def memoryScanOnceRound (memory : Memory) (endAddress : ℤ) (pattern : MatchPattern)
    (needle : MatchToken) (state : ScanState) :
    Except ScanFault (Round ScanState (Option ℤ × ScanTrace)) := do
  if state.cur < endAddress then
    let len := (endAddress - state.cur).toNat
    let searched := state.reads ++ [⟨state.cur, len⟩]
    match memmem memory needle.bytes state.cur len with
    | none => return .leave (none, { state.toScanTrace with reads := searched })
    | some cur =>
      let (matched, tempBefore, reads) ← examine memory pattern needle cur
      let reads := searched ++ reads
      if !matched then
        return .again { state with cur := cur + needle.bytes.length, reads }
      return .leave (some tempBefore, { state.toScanTrace with reads })
  else return .leave (none, state.toScanTrace)

/-- `none` is `nullptr`: page 0 is taken to be unmapped, so that no match lies there. -/
def memoryScanOnce (memory : Memory) (base endAddress : ℤ) (pattern : MatchPattern) :
    Except ScanFault (Option ℤ × ScanTrace) :=
  match matchPatternGetLongestToken pattern .exact with
  | none => .error .nullNeedle
  | some needle =>
    (iterate (fun state => .ofExcept (memoryScanOnceRound memory endAddress pattern needle state))
      ((endAddress - base).toNat + 1) { cur := base }).getD (.error .unfinished)

end QbdiTracer.MemoryScan
