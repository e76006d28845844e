import ArenaAlloc.Text
import ArenaAlloc.Word

/-! Ranges of bytes, the handles to blocks, and the table of the blocks that are live. -/
namespace ArenaAlloc

/-- A range of bytes, by its first offset and its size. -/
structure Span where
  offset : Nat
  size : Nat
deriving DecidableEq

namespace Span

def stop (s : Span) : Nat := s.offset + s.size

def stopGuarded (s : Span) : Option Nat := Word.add? s.offset s.size

def contains (s : Span) (offset : Nat) : Bool := s.offset ≤ offset && offset < s.stop

def containsGuarded (s : Span) (offset : Nat) : Option Bool :=
  if s.offset ≤ offset then s.stopGuarded.map (offset < ·) else some false

/-- Bytes of the span in front of its first aligned offset. -/
def padding (s : Span) (align : Nat) : Nat := Word.padding s.offset align

/-- What is left once the first `n` bytes are taken. -/
def drop (s : Span) (n : Nat) : Span := ⟨s.offset + n, s.size - n⟩

def describe (s : Span) : String :=
  Text.record "FreeSpan" [("offset", toString s.offset), ("size", toString s.size)]

end Span

/-- The handle to a block: where its payload lies, and under which generation it was issued. -/
structure Block where
  /-- Offset of the payload. -/
  offset : Nat
  /-- Bytes of the payload. -/
  len : Nat
  /-- Alignment bytes in front of the payload. They belong to the block. -/
  padding : Nat
  /-- Offsets are issued again, generations are not. -/
  generation : UInt64
deriving DecidableEq

namespace Block

def isEmpty (b : Block) : Bool := b.len == 0

def stop (b : Block) : Nat := b.offset + b.len

def stopGuarded (b : Block) : Option Nat := Word.add? b.offset b.len

/-- All bytes that the block occupies. -/
def extent (b : Block) : Span := ⟨b.offset - b.padding, b.padding + b.len⟩

def extentGuarded (b : Block) : Option Span := do
  let start ← Word.sub? b.offset b.padding
  let size ← Word.add? b.padding b.len
  return ⟨start, size⟩

def describe (b : Block) : String :=
  Text.record "Block"
    [("offset", toString b.offset), ("len", toString b.len), ("padding", toString b.padding),
      ("generation", toString b.generation)]

end Block

/-- The blocks that were issued and not released, by payload offset. -/
structure LiveTable where
  blocks : List Block := []
deriving DecidableEq

namespace LiveTable

def size (t : LiveTable) : Nat := t.blocks.length

def find? (t : LiveTable) (offset : Nat) : Option Block := t.blocks.find? (·.offset == offset)

def erase (t : LiveTable) (offset : Nat) : LiveTable := ⟨t.blocks.filter (·.offset != offset)⟩

/-- A block takes the place of one at the same offset. -/
def insert (t : LiveTable) (b : Block) : LiveTable := ⟨b :: (t.erase b.offset).blocks⟩

end LiveTable

end ArenaAlloc
