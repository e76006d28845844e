/-! Plain values: integers of a width, fixed arrays of them, and their bytes, the least significant
one first. -/
namespace ArenaAlloc

inductive Width where
  | w8 | w16 | w32 | w64 | w128
deriving DecidableEq

namespace Width

def bytes : Width → Nat
  | w8 => 1
  | w16 => 2
  | w32 => 4
  | w64 => 8
  | w128 => 16

/-- One more than the greatest unsigned integer of the width. -/
def modulus (w : Width) : Nat := Nat.pow 256 w.bytes

end Width

/-- Bit patterns, such as those of floats, are unsigned. -/
structure Scalar where
  signed : Bool
  width : Width
deriving DecidableEq

/-- The integers that a scalar can hold. -/
def Scalar.Holds (s : Scalar) (x : Int) : Prop :=
  if s.signed then -(s.width.modulus : Int) ≤ 2 * x ∧ 2 * x < s.width.modulus
  else 0 ≤ x ∧ x < s.width.modulus

/-- The low `n` bytes of a number. -/
def littleEndian : Nat → Nat → List UInt8
  | 0, _ => []
  | n + 1, x => UInt8.ofNat (x % 256) :: littleEndian n (x / 256)

def ofLittleEndian : List UInt8 → Nat
  | [] => 0
  | b :: bs => b.toNat + 256 * ofLittleEndian bs

namespace Scalar

/-- Negative integers are stored as their two's complement. -/
def encode (s : Scalar) (x : Int) : List UInt8 :=
  littleEndian s.width.bytes (x % (s.width.modulus : Int)).toNat

def decode (s : Scalar) (bytes : List UInt8) : Int :=
  let n : Int := ofLittleEndian bytes
  if s.signed then n.bmod s.width.modulus else n

end Scalar

/-- `count` scalars in a row. -/
structure Layout where
  elem : Scalar
  count : Nat
deriving DecidableEq

namespace Layout

/-- A single scalar. -/
def scalar (signed : Bool) (width : Width) : Layout := ⟨⟨signed, width⟩, 1⟩

/-- The layout of a value without content. -/
def empty : Layout := ⟨⟨false, .w8⟩, 0⟩

def size (l : Layout) : Nat := l.count * l.elem.width.bytes

/-- Bytes to which an address of such a value is aligned. -/
def alignment (l : Layout) : Nat := l.elem.width.bytes

def Holds (l : Layout) (v : List Int) : Prop := v.length = l.count ∧ ∀ x ∈ v, l.elem.Holds x

def encode (l : Layout) (v : List Int) : List UInt8 := v.flatMap l.elem.encode

/-- The first `n` scalars stored in `bytes`. -/
def decodeElems (s : Scalar) : Nat → List UInt8 → List Int
  | 0, _ => []
  | n + 1, bytes =>
    s.decode (bytes.take s.width.bytes) :: decodeElems s n (bytes.drop s.width.bytes)

def decode (l : Layout) (bytes : List UInt8) : List Int := decodeElems l.elem l.count bytes

end Layout

end ArenaAlloc
