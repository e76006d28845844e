/-! Machine words as natural numbers below an explicit limit, and their alignment. Operations come
in two forms, side by side here and in the modules above: the plain one on natural numbers, and the
guarded one, which goes the same way on words, one step after another, and has no outcome once a sum
is no word, a difference lies below zero or an assertion fails. -/
namespace ArenaAlloc

/-- An assertion of the program. -/
def ensure (p : Prop) [Decidable p] : Option Unit := if p then some () else none

namespace Word

/-- One more than the greatest word. -/
abbrev limit : Nat := 0x1_0000_0000_0000_0000

/-- Bytes in a word. -/
abbrev bytes : Nat := 8

/-- The sum of several sizes: `List.sum` at the addition and the zero of `Nat` itself. -/
abbrev total (xs : List Nat) : Nat := @List.sum Nat instAddNat Zero.ofOfNat0 xs

/-- The sum, unless it is no word. -/
def add? (x y : Nat) : Option Nat := if x + y < limit then some (x + y) else none

/-- The difference, unless it lies below zero. -/
def sub? (x y : Nat) : Option Nat := if y ≤ x then some (x - y) else none

def totalGuarded (xs : List Nat) : Option Nat := xs.foldlM add? 0

/-- `x` with every bit of `mask` cleared. -/
def clear (x mask : Nat) : Nat := x - (x &&& mask)

/-- For a power of two `a`, the least multiple of `a` from `x` on; otherwise what the mask gives. -/
def roundUp (x a : Nat) : Nat := clear (x + (a - 1)) (a - 1)

/-- `roundUp`, unless the sum under the mask is no word. -/
def roundUp? (x a : Nat) : Option Nat := (add? x (a - 1)).map (clear · (a - 1))

/-- Bytes from `x` to the next aligned address. -/
def padding (x a : Nat) : Nat := roundUp x a - x

/-- The sum with all of `a` comes first. -/
def roundUpGuarded (x a : Nat) : Option Nat := do
  let sum ← add? x a
  let under ← sub? sum 1
  let mask ← sub? a 1
  return clear under mask

/-- Only the difference is guarded: the sum is looked after. -/
def roundUpGuarded? (x a : Nat) : Option (Option Nat) :=
  (sub? a 1).map fun mask => (add? x mask).map (clear · mask)

def paddingGuarded (x a : Nat) : Option Nat := do
  let sum ← add? x a
  let under ← sub? sum 1
  let mask ← sub? a 1
  sub? (clear under mask) x

theorem le_roundUp (x a : Nat) : x ≤ roundUp x a := by
  have : x + (a - 1) &&& a - 1 ≤ a - 1 := Nat.and_le_right
  unfold roundUp clear
  omega

theorem add_padding (x a : Nat) : x + padding x a = roundUp x a := by
  have := le_roundUp x a
  unfold padding
  omega

theorem padding_one (x : Nat) : padding x 1 = 0 := by simp [padding, roundUp, clear]

end Word

end ArenaAlloc
