import ArenaAlloc.Word

/-! The sticky alignment state of an arena and the directives that change it. -/
namespace ArenaAlloc

inductive Alignment where
  | unaligned
  /-- Align the next allocation only. -/
  | next
  /-- Align every allocation until told otherwise. -/
  | always
deriving DecidableEq

inductive Directive where
  | next
  | always
  | off
  /-- Stop `always`, and leave a pending `next` alone. -/
  | persistentOff
deriving DecidableEq

namespace Alignment

def after : Alignment → Directive → Alignment
  | _, .next => .next
  | _, .always => .always
  | _, .off => .unaligned
  | .always, .persistentOff => .unaligned
  | m, .persistentOff => m

/-- Whether the allocation at hand is aligned. -/
def aligns (m : Alignment) : Bool := m != .unaligned

/-- The state once an allocation has taken its alignment. -/
def spend : Alignment → Alignment
  | .next => .unaligned
  | m => m

/-- The boundary, in bytes, on which a block starts. -/
def boundary (aligned : Bool) : Nat := if aligned then Word.bytes else 1

def text : Alignment → String
  | .unaligned => "Unaligned"
  | .next => "AlignNext"
  | .always => "AlignUntilDisabled"

end Alignment

end ArenaAlloc
