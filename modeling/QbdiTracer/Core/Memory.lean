import QbdiTracer.Common
import QbdiTracer.Core.Range
import QbdiTracer.Library.CText

/-! `core/memory.cpp`: the maps of a process, read line by line from `/proc/<pid>/maps`
through a buffer of 256 characters. -/

namespace QbdiTracer

open CText

variable {arch : Arch}

/-- The values of `Permission`, which are combined with `|`. -/
abbrev Permission := BitVec 32

namespace Permission

def pfNone : Permission := 0
def pfRead : Permission := 1
def pfWrite : Permission := 2
def pfExec : Permission := 4

end Permission

structure MemoryMap (arch : Arch) where
  range : Range arch.wordBits
  permission : Permission
  name : List Char

namespace Memory

def bufferSize : Nat := 256

/-- `permission |= flag` if the character is the one expected. -/
def addPermission (permission flag : Permission) (c expected : Char) : Permission :=
  if c = expected then permission ||| flag else permission

/-- The body of the loop behind `fgets`, on a line without its newline. The second result
tells whether a character behind the NUL of the line was read. -/
def readMap (fullPath : Bool) (line : List Char) : Except ReadFault (MemoryMap arch × Bool) := do
  let ptr := Cursor.start line
  -- the range
  let (start, ptr) ← ptr.strtoul arch.wordBits 16
  let (stop, ptr) ← ptr.advance.strtoul arch.wordBits 16
  let (_, ptr) ← ptr.scan isspace
  -- the permission, and one character more
  let (r, ptr) ← ptr.look
  let (w, ptr) ← ptr.advance.look
  let (x, ptr) ← ptr.advance.look
  let (_, ptr) ← ptr.advance.advance.scan isspace
  -- the file offset
  let (_, ptr) ← ptr.strtoul arch.wordBits 16
  let (_, ptr) ← ptr.scan isspace
  -- the device id
  let (_, ptr) ← ptr.strtoul arch.wordBits 16
  let (_, ptr) ← ptr.advance.strtoul arch.wordBits 16
  let (_, ptr) ← ptr.scan isspace
  -- the inode
  let (_, ptr) ← ptr.strtoul arch.wordBits 10
  let (_, ptr) ← ptr.scan isspace
  let (name, ptr) ← ptr.scan (· ≠ nul)
  return ({
    range := ((Range.ofBounds 0 0).setStart start).setEnd stop
    permission := addPermission (addPermission (addPermission .pfNone .pfRead r 'r') .pfWrite w 'w')
      .pfExec x 'x'
    name := if fullPath then name else ((strrchr '/' name).map List.tail).getD [] }, ptr.overrun)

/-- The loop through the lines. -/
def readMaps (fullPath : Bool) (line file : List Char) (maps : List (MemoryMap arch))
    (overrun : Bool) : Except ReadFault (List (MemoryMap arch) × Bool) :=
  match _ : fgets bufferSize line file with
  | none => .ok (maps, overrun)
  | some (filled, left) => do
    let (m, past) ← readMap fullPath (cutLine filled)
    readMaps fullPath (cutLine filled) left (maps ++ [m]) (overrun || past)
termination_by file.length
decreasing_by exact fgets_shorter (show 1 < bufferSize by decide) ‹_›

/-- `"/proc/%llu/maps"`; a `pid_t` is widened with its sign. -/
def mapsPath (pid : BitVec 32) : List Char :=
  "/proc/".toList ++ (toDec (pid.signExtend 64)).toList ++ "/maps".toList

/-- `getMemoryMap(pid, full_path)`, where `files` has the contents of the files that can be
opened. The buffer begins with the path, and zeros behind it. -/
def getMemoryMap (files : List Char → Option (List Char)) (pid : BitVec 32) (fullPath : Bool) :
    Except ReadFault (List (MemoryMap arch) × Bool) :=
  match files (mapsPath pid) with
  | none => .ok ([], false)
  | some mapfile =>
    readMaps fullPath (mapsPath pid ++ List.replicate (bufferSize - (mapsPath pid).length) nul)
      mapfile [] false

end Memory

end QbdiTracer
