import ArenaAlloc.Fault
import ArenaAlloc.Memory.Bytes
import ArenaAlloc.Word

/-! Memory as the system hands it out, in whole pages that read as zero, and one contiguous piece of
it, of which an arena uses the first `capacity` bytes. -/
namespace ArenaAlloc

/-- Bytes of a page. Pages of this size are an assumption on the platform, and all statements about
addresses and lengths rest on it. -/
def pageSize : Nat := 4096

/-- Mappings of this length or more are refused by every system: they do not fit into the addresses
that the platform gives to a program. Like `pageSize` this is assumed throughout, also by statements
that do not mention it. -/
def mappingLimit : Nat := 0x8000_0000_0000

/-- What the system decides on its own during one operation. That a fresh mapping holds nothing but
zeros is no decision: it is part of `Mapping.create`. -/
structure Kernel where
  /-- Number of the page at which a fresh mapping starts; zero if none is granted. -/
  page : Nat
  /-- Whether a mapping can grow where it is. -/
  canExtend : Bool
deriving DecidableEq

structure Mapping where
  /-- Number of the page at which it starts. -/
  page : Nat
  capacity : Nat
  /-- Length in bytes, always whole pages. -/
  mapped : Nat
  bytes : Bytes := {}
deriving DecidableEq

namespace Mapping

/-- Address of the first byte. -/
def base (m : Mapping) : Nat := m.page * pageSize

/-- Length of the mapping that a capacity needs, unless it is too long for any system. -/
def lengthFor (capacity : Nat) : Except Fault Nat :=
  match Word.roundUp? capacity pageSize with
  | none => .error (.capacityOverflow capacity)
  | some n => if n < mappingLimit then .ok n else .error (.allocationFailed capacity)

/-- A fresh mapping of a known length, if the system grants one. -/
def fresh (k : Kernel) (capacity mapped : Nat) (bytes : Bytes) : Except Fault Mapping :=
  if k.page = 0 then .error (.allocationFailed capacity)
  else .ok { page := k.page, capacity, mapped, bytes }

/-- The system hands out whole pages, so it must be asked for some. -/
def requestGuarded (k : Kernel) (capacity mapped : Nat) (bytes : Bytes) :
    Option (Except Fault Mapping) := do
  ensure (mapped ≠ 0 ∧ mapped % pageSize = 0)
  return if mapped < mappingLimit then fresh k capacity mapped bytes
    else .error (.allocationFailed capacity)

def create (k : Kernel) (capacity : Nat) : Except Fault Mapping :=
  (lengthFor capacity).bind fun n => fresh k capacity n {}

def createGuarded (k : Kernel) (capacity : Nat) : Option (Except Fault Mapping) := do
  ensure (0 < capacity)
  match ← Word.roundUpGuarded? capacity pageSize with
  | none => return .error (.capacityOverflow capacity)
  | some n => requestGuarded k capacity n {}

/-- Raises the capacity and keeps at least the first `used` bytes. Slack pages are used up first,
then the mapping is extended where it is, and only then it moves. -/
def grow (k : Kernel) (m : Mapping) (capacity used : Nat) : Except Fault Mapping :=
  if capacity ≤ m.capacity then .ok m
  else if capacity ≤ m.mapped then .ok { m with capacity }
  else (lengthFor capacity).bind fun n =>
    if k.canExtend then .ok { m with capacity, mapped := n }
    else fresh k capacity n (m.bytes.take used)

def growGuarded (k : Kernel) (m : Mapping) (capacity used : Nat) :
    Option (Except Fault Mapping) := do
  ensure (used ≤ m.capacity)
  if capacity ≤ m.capacity then return .ok m
  else if capacity ≤ m.mapped then return .ok { m with capacity }
  else
    match ← Word.roundUpGuarded? capacity pageSize with
    | none => return .error (.capacityOverflow capacity)
    | some n =>
      if n < mappingLimit ∧ k.canExtend = true then return .ok { m with capacity, mapped := n }
      else requestGuarded k capacity n (m.bytes.take used)

def read (m : Mapping) (start len : Nat) : List UInt8 := m.bytes.read start len

def write (m : Mapping) (start : Nat) (data : List UInt8) : Mapping :=
  { m with bytes := m.bytes.write start data }

def zero (m : Mapping) (start len : Nat) : Mapping :=
  { m with bytes := m.bytes.zero start len }

/-- What is borrowed of the bytes lies within the capacity. -/
def borrowGuarded (m : Mapping) (start len : Nat) : Option Unit := do
  let stop ← Word.add? start len
  ensure (stop ≤ m.capacity)

def zeroGuarded (m : Mapping) (start len : Nat) : Option Mapping :=
  (m.borrowGuarded start len).map fun _ => m.zero start len

end Mapping

end ArenaAlloc
