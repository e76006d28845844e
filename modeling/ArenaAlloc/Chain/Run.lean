import ArenaAlloc.Chain.Allocate

/-! The operations that change a chain, as data, and runs of them. -/
namespace ArenaAlloc.Chain

/-- An operation whose handles are of type `β`. -/
inductive Op (β : Type) where
  | alloc (size : Nat)
  | allocValue (layout : Layout) (value : List Int)
  | write (p : β) (start : Nat) (data : List UInt8)
  | direct (d : Directive)
  | reset
  | teardown

/-- Looks up the handle of an operation. -/
def Op.resolve {β γ : Type} (find? : β → Option γ) : Op β → Option (Op γ)
  | .alloc n => some (.alloc n)
  | .allocValue l v => some (.allocValue l v)
  | .write p start data => (find? p).map fun q => .write q start data
  | .direct d => some (.direct d)
  | .reset => some .reset
  | .teardown => some .teardown

/-- Whether the operation asks for a block. -/
def Op.allocates {β : Type} : Op β → Bool
  | .alloc _ | .allocValue _ _ => true
  | _ => false

/-- Whether the operation gives all blocks back. -/
def Op.releases {β : Type} : Op β → Bool
  | .reset | .teardown => true
  | _ => false

/-- One operation; an allocation answers with its block. -/
def step (k : Kernel) (c : Chain) : Op Placement → Reply Chain (Except Fault (Option Placement))
  | .alloc n => (c.alloc k n).map (Except.map some)
  | .allocValue l v => (c.allocValue k l v).map (Except.map some)
  | .write p start data => { state := c.write p start data, result := .ok none }
  | .direct d => { state := c.direct d, result := .ok none }
  | .reset => c.reset.map fun _ => .ok none
  | .teardown => c.teardown.map fun _ => .ok none

/-- Holders write to their blocks without help of the chain, and a teardown computes nothing. -/
def stepGuarded (k : Kernel) (c : Chain) :
    Op Placement → Option (Reply Chain (Except Fault (Option Placement)))
  | .alloc n => (c.allocAtGuarded k n 1).map fun r => r.map (Except.map some)
  | .allocValue l v => (c.allocValueGuarded k l v).map fun r => r.map (Except.map some)
  | .reset => c.resetGuarded.map fun r => r.map fun _ => .ok none
  | op => some (c.step k op)

/-- The state after a list of operations, each with what the system decided during it. -/
def run (c : Chain) (ops : List (Kernel × Op Placement)) : Chain :=
  ops.foldl (fun c o => (c.step o.1 o.2).state) c

end ArenaAlloc.Chain
