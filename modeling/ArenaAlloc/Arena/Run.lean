import ArenaAlloc.Arena.Allocate
import ArenaAlloc.Arena.Release

/-! The operations that change an arena, as data, and runs of them. -/
namespace ArenaAlloc.Arena

/-- An operation whose handles are of type `β`. -/
inductive Op (β : Type) where
  | alloc (size : Nat)
  | allocAligned (size : Nat)
  | allocValue (layout : Layout) (value : List Int)
  | free (b : β)
  | write (b : β) (start : Nat) (data : List UInt8)
  | direct (d : Directive)
  | reset
  | teardown

/-- Looks up the handle of an operation. -/
def Op.resolve {β γ : Type} (find? : β → Option γ) : Op β → Option (Op γ)
  | .alloc n => some (.alloc n)
  | .allocAligned n => some (.allocAligned n)
  | .allocValue l v => some (.allocValue l v)
  | .free b => (find? b).map .free
  | .write b start data => (find? b).map fun c => .write c start data
  | .direct d => some (.direct d)
  | .reset => some .reset
  | .teardown => some .teardown

/-- Whether the operation asks for a block. -/
def Op.allocates {β : Type} : Op β → Bool
  | .alloc _ | .allocAligned _ | .allocValue _ _ => true
  | _ => false

/-- One operation; an allocation answers with its block. -/
def step (k : Kernel) (a : Arena) : Op Block → Reply Arena (Except Fault (Option Block))
  | .alloc n => (a.alloc k n).map (Except.map some)
  | .allocAligned n => (a.allocAligned k n).map (Except.map some)
  | .allocValue l v => (a.allocValue k l v).map (Except.map some)
  | .free b => (a.free b).map (Except.map fun _ => none)
  | .write b start data =>
    match a.write b start data with
    | .ok a' => { state := a', result := .ok none }
    | .error f => .fail a f
  | .direct d => { state := a.direct d, result := .ok none }
  | .reset => a.reset.map fun _ => .ok none
  | .teardown => a.teardown.map fun _ => .ok none

def stepGuarded (k : Kernel) (a : Arena) :
    Op Block → Option (Reply Arena (Except Fault (Option Block)))
  | .alloc n => (a.allocGuarded k n).map fun r => r.map (Except.map some)
  | .allocAligned n => (a.allocAlignedGuarded k n).map fun r => r.map (Except.map some)
  | .allocValue l v => (a.allocValueGuarded k l v).map fun r => r.map (Except.map some)
  | .free b => (a.freeGuarded b).map fun r => r.map (Except.map fun _ => none)
  | .write b start data => (a.writeGuarded b start data).map fun
    | .ok a' => { state := a', result := .ok none }
    | .error f => .fail a f
  | op => some (a.step k op)

/-- The state after a list of operations, each with what the system decided during it. -/
def run (a : Arena) (ops : List (Kernel × Op Block)) : Arena :=
  ops.foldl (fun a o => (a.step o.1 o.2).state) a

end ArenaAlloc.Arena
