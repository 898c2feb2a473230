import QbdiTracer.Core.Linker
import QbdiTracer.Library.LinkedChains

/-! `get_so_info` of `core/linker.cpp` on the words of the linker's memory: it looks for
the place of the field `next` in the first `soinfo`, and follows that field. -/

namespace QbdiTracer

open WhileLoop

variable {arch : Arch}

/-- What the walk can come to besides an answer. -/
inductive SolistFault where
  /-- A word is read where nothing is mapped. -/
  | unmapped
  /-- The loop is not left within the rounds it was given. -/
  | unfinished
  deriving DecidableEq, Repr

/-- The process as `linker.cpp` reaches it: the words of its memory, and the four functions
of the linker, `none` where the symbol was not found. -/
structure LinkerProcess (arch : Arch) where
  load : Word arch → Option (Word arch)
  solistGetHead : Option (Word arch)
  solistGetSomain : Option (Word arch)
  hasSoinfoToHandle : Bool
  getRealpath : Option (Word arch → Option String)

/-- The two statics of `get_so_info`. -/
structure SolistStatics (arch : Arch) where
  solistHead : Word arch := 0
  somain : Word arch := 0

namespace LinkerProcess

def read (process : LinkerProcess arch) (address : Word arch) : Except SolistFault (Word arch) :=
  match process.load address with
  | none => .error .unmapped
  | some word => .ok word

/-- The address of the `i`-th word of a `soinfo`. -/
def wordAt (so : Word arch) (i : ℕ) : Word arch := so + BitVec.ofNat _ (i * arch.wordBytes)

/-- The first of these words of the head that holds `somain`, else the first word of all. -/
def findNext (process : LinkerProcess arch) (solistHead somain : Word arch) :
    List ℕ → Except SolistFault ℕ
  | [] => .ok 0
  | i :: rest => do
    let word ← process.read (wordAt solistHead i)
    if word = somain then return i
    process.findNext solistHead somain rest

/-- `linker_solist` and `sonext`. -/
structure Walk (arch : Arch) where
  linkerSolist : List (Word arch)
  sonext : Word arch

/-- One round of `while (sonext)`, where `next` is the place of the field. -/
def walkRound (process : LinkerProcess arch) (next : ℕ) (state : Walk arch) :
    Except SolistFault (Round (Walk arch) (List (Word arch))) :=
  if state.sonext = 0 then .ok (.leave state.linkerSolist)
  else do
    let sonext ← process.read (wordAt state.sonext next)
    return .again ⟨state.linkerSolist ++ [state.sonext], sonext⟩

/-- The list from the head on. The head itself is not compared with null. -/
def collect (process : LinkerProcess arch) (fuel : ℕ) (solistHead : Word arch) (next : ℕ) :
    Except SolistFault (List (Word arch)) := do
  let sonext ← process.read (wordAt solistHead next)
  (iterate (fun state => .ofExcept (process.walkRound next state)) fuel
    ⟨[solistHead], sonext⟩).getD (.error .unfinished)

/-- The test of the last loop; a null path is passed over. -/
def isNamed (getRealpath : Word arch → Option String) (libraryName : String) (item : Word arch) :
    Bool :=
  match getRealpath item with
  | none => false
  | some path => strstr path.toList libraryName.toList

/-- `get_so_info`, with the statics after the call; 0 is `nullptr`. -/
def getSoInfo (process : LinkerProcess arch) (fuel : ℕ) (statics : SolistStatics arch)
    (libraryName : String) : Except SolistFault (Word arch × SolistStatics arch) :=
  match process.solistGetHead, process.solistGetSomain, process.getRealpath with
  | some head, some main, some getRealpath =>
    if !process.hasSoinfoToHandle then .ok (0, statics)
    else do
      let solistHead := if statics.solistHead = 0 then head else statics.solistHead
      let somain := if statics.somain = 0 then main else statics.somain
      let next ← process.findNext solistHead somain (List.range (1024 / arch.wordBytes))
      let linkerSolist ← process.collect fuel solistHead next
      return ((linkerSolist.find? (isNamed getRealpath libraryName)).getD 0, ⟨solistHead, somain⟩)
  | _, _, _ => .ok (0, statics)

end LinkerProcess

end QbdiTracer
