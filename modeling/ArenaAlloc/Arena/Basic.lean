import ArenaAlloc.Alignment
import ArenaAlloc.FreeList
import ArenaAlloc.Memory.Mapping
import ArenaAlloc.Reply
import ArenaAlloc.Settings

/-! An arena over one contiguous mapping, its creation and its figures. -/
namespace ArenaAlloc

structure Arena where
  /-- The storage; none after a teardown. -/
  mapping : Option Mapping
  /-- The high-water mark: no byte from here on is in use. -/
  used : Nat := 0
  freeList : FreeList := {}
  live : LiveTable := {}
  /-- The generation of the next block. Only an issue changes it. -/
  nextGeneration : UInt64 := 0
  alignment : Alignment := .unaligned
  settings : Settings
deriving DecidableEq

namespace Arena

def create (k : Kernel) (s : Settings) : Except Fault (Arena × List Event) := do
  s.validate
  let m ← Mapping.create k s.effectiveInitial
  return ({ mapping := some m, settings := s }, [.created m.capacity])

def createGuarded (k : Kernel) (s : Settings) : Option (Except Fault (Arena × List Event)) :=
  match s.validate with
  | .error f => some (.error f)
  | .ok () =>
    (Mapping.createGuarded k s.effectiveInitial).map <| Except.map fun m =>
      ({ mapping := some m, settings := s }, [.created m.capacity])

def capacity (a : Arena) : Nat :=
  match a.mapping with
  | some m => m.capacity
  | none => 0

def usage (a : Arena) : Usage where
  capacity := a.capacity
  used := a.used
  liveBlocks := a.live.size
  freeSpans := a.freeList.length
  freeBytes := a.freeList.totalBytes
  largestFreeSpan := a.freeList.largest
  segments := if a.mapping.isSome then 1 else 0

def usageGuarded (a : Arena) : Option Usage := do
  let freeBytes ← a.freeList.totalBytesGuarded
  return { a.usage with freeBytes }

def describe (a : Arena) : String :=
  Text.record "Arena"
    [("capacity", toString a.capacity), ("used", toString a.used),
      ("live_blocks", toString a.live.size), ("free_spans", toString a.freeList.length),
      ("align", a.alignment.text)]

/-- An alignment directive for the allocations to come. -/
def direct (a : Arena) (d : Directive) : Arena := { a with alignment := a.alignment.after d }

/-- Forgets all blocks and keeps the storage. -/
def reset (a : Arena) : Reply Arena Unit where
  state := { a with used := 0, freeList := {}, live := {} }
  result := ()
  events := [.reset a.capacity]

/-- Gives the storage back; the next allocation maps storage again. -/
def teardown (a : Arena) : Reply Arena Unit :=
  match a.mapping with
  | none => { state := a, result := () }
  | some m =>
    { state := { a with
        mapping := none
        used := 0
        freeList := {}
        live := {}
        alignment := .unaligned }
      result := ()
      events := [.tornDown m.capacity] }

end Arena

end ArenaAlloc
