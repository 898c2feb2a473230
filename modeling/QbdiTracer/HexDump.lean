import QbdiTracer.Machine

/-! `trace/hex_dump.cpp`: a buffer of bytes printed in lines of sixteen. One line
buffer is filled again for every line. -/

namespace QbdiTracer

variable {arch : Arch}

/-- The ways `Dump` can leave the characters of its line buffer. -/
inductive DumpFault where
  /-- A write at or past the terminating NUL. -/
  | pastTerminator
  deriving DecidableEq, Repr

/-- `kBitsPerIntPtrT / 4`, the digits of an address. -/
def Arch.addressDigits (arch : Arch) : Nat := arch.wordBits / 4

/-- `sizeof(out) - 1`. -/
def Arch.dumpColumns (arch : Arch) : Nat :=
  arch.addressDigits + -- offset
    1 + -- colon
    16 * 3 + -- 16 hex digits and space
    2 + -- white space
    16 -- 16 characters

/-- `gHexDigit[value]`. -/
def gHexDigit (value : Nat) : Char :=
  ['0', '1', '2', '3', '4', '5', '6', '7', '8', '9', 'a', 'b', 'c', 'd', 'e', 'f'].getD value '\x00'

/-- The character a byte is shown as. -/
def printableChar (byte : BitVec 8) : Char :=
  if 0x20 ≤ byte.toNat ∧ byte.toNat < 0x7f then Char.ofNat byte.toNat else '.'

/-- `out[position] = c`, on the characters in front of the terminating NUL. -/
def storeChar (out : List Char) (position : Nat) (c : Char) : Except DumpFault (List Char) :=
  if position < out.length then .ok (out.set position c) else .error .pastTerminator

/-- `os << out`: the characters up to the first NUL. -/
def printedLine (out : List Char) : List Char := out.takeWhile (· ≠ '\x00')

/-- The loop that prints `line_offset`, for the digits that are left. -/
def writeOffset : Nat → Word arch → Nat → List Char → Except DumpFault (List Char)
  | 0, _, _, out => .ok out
  | digits + 1, lineOffset, hex, out => do
    let out ← storeChar out hex (gHexDigit (lineOffset >>> (arch.wordBits - 4)).toNat)
    writeOffset digits (lineOffset <<< 4) (hex + 1) out

/-- The line buffer with the pointers `hex`, `asc` and `addr`. -/
structure DumpCursor (arch : Arch) where
  out : List Char
  hex : Nat
  asc : Nat
  addr : Word arch

namespace DumpCursor

/-- The body of the loop over the bytes of a line. -/
def writeByte (process : Process arch) (cursor : DumpCursor arch) :
    Except DumpFault (DumpCursor arch) := do
  let byte := process.memory cursor.addr
  let out ← storeChar cursor.out cursor.hex (gHexDigit (byte >>> 4).toNat)
  let out ← storeChar out (cursor.hex + 1) (gHexDigit (byte &&& 0x0f).toNat)
  let out ← storeChar out cursor.asc (printableChar byte)
  return { out, hex := cursor.hex + 3, asc := cursor.asc + 1, addr := cursor.addr + 1 }

/-- The body of the loop that erases the cells behind the last byte. -/
def eraseCell (cursor : DumpCursor arch) : Except DumpFault (DumpCursor arch) := do
  let out ← storeChar cursor.out cursor.hex ' '
  let out ← storeChar out (cursor.hex + 1) ' '
  let out ← storeChar out cursor.asc ' '
  return { cursor with out, hex := cursor.hex + 3, asc := cursor.asc + 1 }

/-- A loop over a number of cells. -/
def forCells (body : DumpCursor arch → Except DumpFault (DumpCursor arch)) :
    Nat → DumpCursor arch → Except DumpFault (DumpCursor arch)
  | 0, cursor => .ok cursor
  | cells + 1, cursor => do
    let next ← body cursor
    forCells body cells next

end DumpCursor

/-- One round of the outer loop up to `os << out`: the buffer and `addr` after it. -/
def dumpLine (process : Process arch) (out : List Char) (addr offset : Word arch)
    (count gap : Nat) : Except DumpFault (List Char × Word arch) := do
  let lineOffset := offset &&& ~~~0x0f#_
  let out ← writeOffset arch.addressDigits lineOffset 0 out
  let hex := arch.addressDigits + 2
  let asc := arch.addressDigits + 1 + 16 * 3 + 2
  -- only on the first line
  let hex := if gap ≠ 0 then hex + gap * 3 else hex
  let asc := if gap ≠ 0 then asc + gap else asc
  let written ← DumpCursor.forCells (DumpCursor.writeByte process) count { out, hex, asc, addr }
  let erased ← DumpCursor.forCells DumpCursor.eraseCell (16 - (count + gap)) written
  return (erased.out, erased.addr)

/-- The outer loop; `os` is what has been printed. -/
def dumpLoop (process : Process arch) (os out : List Char) (addr offset : Word arch)
    (byteCount : Nat) (gap : Fin 16) : Except DumpFault (List Char) :=
  if _done : byteCount = 0 then .ok os
  else
    let count := min byteCount (16 - gap)
    match dumpLine process out addr offset count gap with
    | .error fault => .error fault
    | .ok (out, addr) =>
      let os := os ++ printedLine out
      let rest := byteCount - count
      dumpLoop process (if 0 < rest then os ++ ['\n'] else os) out addr
        (offset + BitVec.ofNat _ count) rest 0
termination_by byteCount
decreasing_by have := gap.isLt; omega

/-- `offset & 0x0f`. -/
def dumpGap (offset : Word arch) : Fin 16 :=
  ⟨(offset &&& 0x0f#_).toNat, by
    have low : (offset &&& 0x0f#_).toNat ≤ 15 := by
      cases arch <;> exact Nat.and_le_right
    omega⟩

/-- `HexDump::Dump`. -/
def hexDump (process : Process arch) (address byteCount : Word arch) :
    Except DumpFault (List Char) :=
  if byteCount = 0 then .ok []
  else if address = 0 then .ok "00000000:".toList
  else
    let out := (List.replicate arch.dumpColumns ' ').set arch.addressDigits ':'
    dumpLoop process [] out address address byteCount.toNat (dumpGap address)

end QbdiTracer
