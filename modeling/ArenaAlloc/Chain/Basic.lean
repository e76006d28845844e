import ArenaAlloc.Alignment
import ArenaAlloc.Chain.Segment
import ArenaAlloc.Plain
import ArenaAlloc.Reply
import ArenaAlloc.Settings

/-! An arena over a chain of segments that never move: creation, figures, bulk release and payloads.
A block is given back only together with all others. -/
namespace ArenaAlloc

/-- Where a block of a chain lies. -/
structure Placement where
  segment : Nat
  offset : Nat
  len : Nat
deriving DecidableEq

structure Chain where
  segments : List Segment
  /-- Index of the only segment that new blocks come from. -/
  current : Nat := 0
  alignment : Alignment := .unaligned
  /-- Blocks handed out since the last reset or teardown. -/
  allocations : Nat := 0
  settings : Settings
deriving DecidableEq

namespace Chain

def create (k : Kernel) (s : Settings) : Except Fault (Chain × List Event) := do
  s.validate
  let first ← Segment.create k s.segment
  return ({ segments := [first], settings := s }, [.chainCreated s.segment])

def createGuarded (k : Kernel) (s : Settings) : Option (Except Fault (Chain × List Event)) :=
  match s.validate with
  | .error f => some (.error f)
  | .ok () =>
    (Mapping.createGuarded k s.segment).map <| Except.map fun m =>
      ({ segments := [{ mapping := m }], settings := s }, [.chainCreated s.segment])

def capacity (c : Chain) : Nat := Word.total (c.segments.map Segment.capacity)

def used (c : Chain) : Nat := Word.total (c.segments.map Segment.used)

def usage (c : Chain) : Usage where
  capacity := c.capacity
  used := c.used
  liveBlocks := c.allocations
  segments := c.segments.length

def usageGuarded (c : Chain) : Option Usage := do
  let capacity ← Word.totalGuarded (c.segments.map Segment.capacity)
  let used ← Word.totalGuarded (c.segments.map Segment.used)
  return { c.usage with capacity, used }

def describe (c : Chain) : String :=
  Text.record "SegmentedArena"
    [("segments", toString c.segments.length), ("current", toString c.current),
      ("capacity", toString c.capacity), ("used", toString c.used), ("align", c.alignment.text)]

/-- An alignment directive for the allocations to come. -/
def direct (c : Chain) (d : Directive) : Chain := { c with alignment := c.alignment.after d }

/-- Forgets all blocks. Only the first segment stays, rewound. -/
def reset (c : Chain) : Reply Chain Unit where
  state :=
    { c with
      segments := (c.segments.take 1).map (·.rewind c.settings.zeroOnFree)
      current := 0
      allocations := 0 }
  result := ()
  events := [.chainReset]

def resetGuarded (c : Chain) : Option (Reply Chain Unit) := do
  let segments ← (c.segments.take 1).mapM (·.rewindGuarded c.settings.zeroOnFree)
  return {
    state := { c with segments, current := 0, allocations := 0 }
    result := ()
    events := [.chainReset] }

/-- Gives all segments back; the next allocation starts a new one. -/
def teardown (c : Chain) : Reply Chain Unit :=
  if c.segments.isEmpty then { state := c, result := () }
  else
    { state := { c with segments := [], current := 0, allocations := 0, alignment := .unaligned }
      result := ()
      events := [.chainTornDown c.segments.length] }

def read (c : Chain) (p : Placement) : List UInt8 :=
  match c.segments[p.segment]? with
  | some s => s.mapping.read p.offset p.len
  | none => []

/-- Stores bytes in a block from its byte `start` on. What would not fit is left out. -/
def write (c : Chain) (p : Placement) (start : Nat) (data : List UInt8) : Chain :=
  let store (s : Segment) : Segment :=
    { s with mapping := s.mapping.write (p.offset + start) (data.take (p.len - start)) }
  { c with segments := c.segments.modify p.segment store }

def readValue (c : Chain) (l : Layout) (p : Placement) : List Int := l.decode (c.read p)

/-- Address of the first payload byte. -/
def address (c : Chain) (p : Placement) : Nat :=
  match c.segments[p.segment]? with
  | some s => s.mapping.base + p.offset
  | none => p.offset

end Chain

end ArenaAlloc
