import ArenaAlloc.Text

/-! What can go wrong in an arena, and how it is told. -/
namespace ArenaAlloc

inductive Fault where
  /-- The system refused to map the backing memory. -/
  | allocationFailed (requested : Nat)
  /-- The capacity to reserve is no word. -/
  | capacityOverflow (requested : Nat)
  | zeroSizedRequest
  /-- The handle names no live block of this arena. -/
  | invalidBlock (offset len : Nat)
  /-- The live block at this offset has another length than the handle. -/
  | sizeMismatch (offset expected actual : Nat)
  /-- The handle's memory was released, or issued again, before. -/
  | doubleFree (offset : Nat)
  | invalidConfig (reason : String)
deriving DecidableEq

namespace Fault

def message : Fault → String
  | allocationFailed n => "backing memory allocation failed: " ++ toString n ++ " bytes"
  | capacityOverflow n => "capacity overflow while reserving " ++ toString n ++ " bytes"
  | zeroSizedRequest => "zero sized allocation requested"
  | invalidBlock o n =>
    "block at offset " ++ toString o ++ " (" ++ toString n ++ " bytes) is not owned by this arena"
  | sizeMismatch o e n =>
    "block at offset " ++ toString o ++ " was issued with " ++ toString e ++
      " bytes, released with " ++ toString n
  | doubleFree o => "block at offset " ++ toString o ++ " released twice"
  | invalidConfig r => "invalid arena configuration: " ++ r

/-- A stable category, for labels and filters. -/
def code : Fault → String
  | allocationFailed _ => "ARENA:ALLOC:FAILED"
  | capacityOverflow _ => "ARENA:ALLOC:OVERFLOW"
  | zeroSizedRequest => "ARENA:ALLOC:ZERO"
  | invalidBlock _ _ => "ARENA:FREE:INVALID"
  | sizeMismatch _ _ _ => "ARENA:FREE:SIZE"
  | doubleFree _ => "ARENA:FREE:DOUBLE"
  | invalidConfig _ => "ARENA:CONFIG:INVALID"

/-- Whether a handle was misused, as against a request that cannot be met. -/
def isConsistencyViolation : Fault → Bool
  | invalidBlock _ _ | sizeMismatch _ _ _ | doubleFree _ => true
  | _ => false

def name : Fault → String
  | allocationFailed _ => "AllocationFailed"
  | capacityOverflow _ => "CapacityOverflow"
  | zeroSizedRequest => "ZeroSizedRequest"
  | invalidBlock _ _ => "InvalidBlock"
  | sizeMismatch _ _ _ => "SizeMismatch"
  | doubleFree _ => "DoubleFree"
  | invalidConfig _ => "InvalidConfig"

def fields : Fault → List (String × String)
  | allocationFailed n | capacityOverflow n => [("requested", toString n)]
  | zeroSizedRequest => []
  | invalidBlock o n => [("offset", toString o), ("len", toString n)]
  | sizeMismatch o e n =>
    [("offset", toString o), ("expected", toString e), ("actual", toString n)]
  | doubleFree o => [("offset", toString o)]
  | invalidConfig r => [("reason", Text.quoted r)]

def describe (f : Fault) : String := Text.record f.name f.fields

end Fault

end ArenaAlloc
