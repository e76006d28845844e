import ArenaAlloc.Memory.Mapping

/-! One segment of a chain: a mapping that never grows, filled from the front. -/
namespace ArenaAlloc

structure Segment where
  mapping : Mapping
  /-- Bytes handed out, padding included. -/
  used : Nat := 0
deriving DecidableEq

namespace Segment

def create (k : Kernel) (capacity : Nat) : Except Fault Segment :=
  (Mapping.create k capacity).map fun m => { mapping := m }

def capacity (s : Segment) : Nat := s.mapping.capacity

/-- Bytes in front of the next aligned address. -/
def padding (s : Segment) (align : Nat) : Nat := Word.padding (s.mapping.base + s.used) align

/-- Hands out the next bytes and tells their offset; none if padding and payload do not fit. -/
def bump? (s : Segment) (size align : Nat) : Option (Nat × Segment) :=
  let padding := s.padding align
  if padding + size ≤ s.capacity - s.used then
    some (s.used + padding, { s with used := s.used + (padding + size) })
  else none

/-- The sum of padding and size is looked after. An address is formed for what is handed out. -/
def bumpGuarded? (s : Segment) (size align : Nat) : Option (Option (Nat × Segment)) := do
  let top ← Word.add? s.mapping.base s.used
  let padding ← Word.paddingGuarded top align
  match Word.add? padding size with
  | none => return none
  | some needed =>
    let room ← Word.sub? s.capacity s.used
    if needed ≤ room then
      let offset ← Word.add? s.used padding
      let used ← Word.add? s.used needed
      let _ ← Word.add? s.mapping.base offset
      return some (offset, { s with used })
    else return none

/-- Makes all of the segment available again; what was handed out is overwritten if asked for. -/
def rewind (s : Segment) (zero : Bool) : Segment where
  mapping := if zero then s.mapping.zero 0 s.used else s.mapping
  used := 0

def rewindGuarded (s : Segment) (zero : Bool) : Option Segment :=
  if zero then (s.mapping.zeroGuarded 0 s.used).map fun m => { mapping := m, used := 0 }
  else some { s with used := 0 }

end Segment

end ArenaAlloc
