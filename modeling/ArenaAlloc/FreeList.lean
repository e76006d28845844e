import ArenaAlloc.Slots
import ArenaAlloc.Block

/-! Released spans, in the order of their release, and the search for the tightest of them. -/
namespace ArenaAlloc

/-- Tombstones that a list may keep however few its spans are. -/
def tombstoneAllowance : Nat := 32

/-- A span chosen for a request, and the bytes that aligning its start costs. -/
structure Fit where
  slot : Nat
  span : Span
  padding : Nat
deriving DecidableEq

namespace Fit

/-- Offset of the payload. -/
def start (f : Fit) : Nat := f.span.offset + f.padding

/-- The fit of a request into one entry, if it is large enough. Empty spans are never used. -/
def of? (size align : Nat) (entry : Nat × Span) : Option Fit :=
  let padding := entry.2.padding align
  if entry.2.size ≠ 0 ∧ padding + size ≤ entry.2.size then some ⟨entry.1, entry.2, padding⟩
  else none

/-- The sum of padding and size is looked after, so only the padding is guarded. -/
def ofGuarded? (size align : Nat) (entry : Nat × Span) : Option (Option Fit) :=
  if entry.2.size = 0 then some none
  else (Word.paddingGuarded entry.2.offset align).map fun padding =>
    (Word.add? padding size).bind fun needed =>
      if needed ≤ entry.2.size then some ⟨entry.1, entry.2, padding⟩ else none

/-- The tighter of two fits; of equals the one found before. -/
def tighter : Option Fit → Fit → Option Fit
  | none, f => some f
  | some best, f => if f.span.size < best.span.size then some f else some best

end Fit

structure FreeList where
  slots : Slots Span := {}
deriving DecidableEq

namespace FreeList

def length (l : FreeList) : Nat := l.slots.live

def isEmpty (l : FreeList) : Bool := l.slots.live == 0

/-- The spans in scan order. -/
def spans (l : FreeList) : List Span := l.slots.toList

def insert (l : FreeList) (s : Span) : FreeList := ⟨l.slots.push s⟩

/-- An empty span is taken for a tombstone, so none is ever inserted. -/
def insertGuarded (l : FreeList) (s : Span) : Option FreeList := do
  ensure (s.size ≠ 0)
  let (slots, _) ← l.slots.pushGuarded s
  return ⟨slots⟩

/-- Whether an offset lies in a released span. -/
def covers (l : FreeList) (offset : Nat) : Bool := l.spans.any (·.contains offset)

def coversGuarded (l : FreeList) (offset : Nat) : Option Bool :=
  l.spans.anyM (·.containsGuarded offset)

def totalBytes (l : FreeList) : Nat := Word.total (l.spans.map Span.size)

def totalBytesGuarded (l : FreeList) : Option Nat := Word.totalGuarded (l.spans.map Span.size)

def largest (l : FreeList) : Nat := (l.spans.map Span.size).foldl max 0

/-- The smallest span that holds the request, the first of them in scan order. -/
def bestFit? (l : FreeList) (size align : Nat) : Option Fit :=
  (l.slots.entries.filterMap (Fit.of? size align)).foldl Fit.tighter none

def bestFitGuarded? (l : FreeList) (size align : Nat) : Option (Option Fit) :=
  (l.slots.entries.mapM (Fit.ofGuarded? size align)).map fun fits =>
    (fits.filterMap id).foldl Fit.tighter none

/-- Compacts once the tombstones outnumber both the allowance and the spans. -/
def tidy (s : Slots Span) : Slots Span :=
  if s.tombstones > max tombstoneAllowance s.live then s.compact else s

def tidyGuarded (s : Slots Span) : Option (Slots Span) :=
  s.tombstonesGuarded.map fun tombstones =>
    if tombstones > max tombstoneAllowance s.live then s.compact else s

/-- Takes padding and payload off the front of the chosen span: the rest stays in its slot. -/
def carve (l : FreeList) (f : Fit) (size : Nat) : FreeList :=
  if f.padding + size = f.span.size then ⟨tidy (l.slots.erase f.slot)⟩
  else ⟨l.slots.set f.slot (f.span.drop (f.padding + size))⟩

/-- Tells the offset of the payload, and what is left of the list. -/
def carveGuarded (l : FreeList) (f : Fit) (size : Nat) : Option (Nat × FreeList) := do
  let consumed ← Word.add? f.padding size
  ensure (consumed ≤ f.span.size)
  let rest ←
    if consumed = f.span.size then (l.slots.eraseGuarded f.slot).bind tidyGuarded
    else do
      let offset ← Word.add? f.span.offset consumed
      let left ← Word.sub? f.span.size consumed
      pure (l.slots.set f.slot ⟨offset, left⟩)
  let start ← Word.add? f.span.offset f.padding
  return (start, ⟨rest⟩)

end FreeList

end ArenaAlloc
