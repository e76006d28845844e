/-! Byte memory in which all that was never written reads as zero. -/
namespace ArenaAlloc

/-- The bytes up to the last one written. -/
structure Bytes where
  written : Array UInt8 := #[]
deriving DecidableEq

namespace Bytes

def get (m : Bytes) (i : Nat) : UInt8 := m.written[i]?.getD 0

def set (m : Bytes) (i : Nat) (v : UInt8) : Bytes :=
  if i < m.written.size then ⟨m.written.setIfInBounds i v⟩
  else ⟨(m.written ++ Array.replicate (i - m.written.size) 0).push v⟩

/-- Stores a list of bytes from `start` on. -/
def write (m : Bytes) (start : Nat) : List UInt8 → Bytes
  | [] => m
  | v :: vs => (m.set start v).write (start + 1) vs

def read (m : Bytes) (start len : Nat) : List UInt8 := (List.range' start len).map m.get

def zero (m : Bytes) (start len : Nat) : Bytes := m.write start (List.replicate len 0)

/-- Only the first `n` bytes; the rest is zero again. -/
def take (m : Bytes) (n : Nat) : Bytes := ⟨m.written.extract 0 n⟩

theorem get_set (m : Bytes) (i j : Nat) (v : UInt8) :
    (m.set i v).get j = if j = i then v else m.get j := by
  unfold set get
  split
  · grind
  · grind

theorem get_write (m : Bytes) (start i : Nat) (vs : List UInt8) :
    (m.write start vs).get i =
      if start ≤ i ∧ i < start + vs.length then vs.getD (i - start) 0 else m.get i := by
  induction vs generalizing m start with
  | nil =>
    have h : ¬ (start ≤ i ∧ i < start + ([] : List UInt8).length) := by
      rw [List.length_nil]
      omega
    rw [if_neg h, write]
  | cons v vs ih => simp only [write, ih, get_set]; grind

theorem length_read (m : Bytes) (start len : Nat) : (m.read start len).length = len := by
  simp [read]

theorem get_take (m : Bytes) (n i : Nat) : (m.take n).get i = if i < n then m.get i else 0 := by
  unfold take get
  grind

end Bytes

end ArenaAlloc
