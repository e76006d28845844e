import ArenaAlloc.Fault

/-! What an arena reports about its work, what an operation leaves behind, and what sessions that
drive arenas by commands share. -/
namespace ArenaAlloc

/-- One report of an arena about its work. -/
inductive Event where
  | created (capacity : Nat)
  /-- A free span of size `span` served a request of size `size`. -/
  | reused (offset size span : Nat)
  | grew (oldCapacity newCapacity : Nat)
  /-- Storage was mapped again after a teardown. -/
  | recreated (capacity : Nat)
  | rejectedFree (offset len : Nat) (fault : Fault)
  /-- A released extent at the high-water mark lowered it to `used`. -/
  | retracted (offset len used : Nat)
  /-- A released extent joined the free list, which now has `spans` entries. -/
  | released (offset len spans : Nat)
  | reset (capacity : Nat)
  | tornDown (capacity : Nat)
  | chainCreated (segmentCapacity : Nat)
  | segmentStarted (index capacity : Nat) (dedicated : Bool)
  | chainReset
  | chainTornDown (segments : Nat)
deriving DecidableEq

namespace Event

/-- Severity and message. -/
def headline : Event → String
  | created _ => "DEBUG Created arena"
  | reused _ _ _ => "TRACE Reused free span"
  | grew _ _ => "DEBUG Grew arena"
  | recreated _ => "DEBUG Recreated arena storage"
  | rejectedFree _ _ _ => "WARN Rejected free"
  | retracted _ _ _ => "TRACE Retracted high-water mark"
  | released _ _ _ => "TRACE Released block"
  | reset _ => "DEBUG Reset arena"
  | tornDown _ => "DEBUG Tearing down arena"
  | chainCreated _ => "DEBUG Created segmented arena"
  | segmentStarted _ _ _ => "DEBUG Started new segment"
  | chainReset => "DEBUG Reset segmented arena"
  | chainTornDown _ => "DEBUG Tearing down segmented arena"

def fields : Event → List (String × String)
  | created c | recreated c | reset c | tornDown c => [("capacity", toString c)]
  | reused o n s => [("offset", toString o), ("size", toString n), ("span", toString s)]
  | grew o n => [("old_capacity", toString o), ("new_capacity", toString n)]
  | rejectedFree o n f => [("offset", toString o), ("len", toString n), ("error", f.message)]
  | retracted o n u => [("offset", toString o), ("len", toString n), ("used", toString u)]
  | released o n s => [("offset", toString o), ("len", toString n), ("spans", toString s)]
  | chainCreated c => [("segment_capacity", toString c)]
  | segmentStarted i c d =>
    [("index", toString i), ("capacity", toString c), ("dedicated", toString d)]
  | chainReset => []
  | chainTornDown n => [("segments", toString n)]

/-- One line of the log. -/
def line (e : Event) : String :=
  " ".intercalate (e.headline :: e.fields.map fun f => f.1 ++ "=" ++ f.2)

end Event

/-- The state after an operation, with its result and its events. -/
structure Reply (σ α : Type) where
  state : σ
  result : α
  events : List Event := []

namespace Reply

variable {σ α β : Type}

def map (f : α → β) (r : Reply σ α) : Reply σ β := { r with result := f r.result }

/-- An operation that fails and changes nothing. -/
def fail (state : σ) (f : Fault) : Reply σ (Except Fault α) := { state, result := .error f }

end Reply

namespace Session

/-- Why a command has no answer. A missing arena counts before a missing handle. -/
inductive Refusal where
  | noArena
  | noBlock
  | fault (f : Fault)
deriving DecidableEq

/-- A result of an arena as the answer of a session. -/
def answer {α : Type} : Except Fault α → Except Refusal α
  | .ok x => .ok x
  | .error f => .error (.fault f)

/-- Handles by number, one for every allocation asked for. Those that failed have none. -/
abbrev Handles (η : Type) := Array (Option η)

def Handles.find? {η : Type} (hs : Handles η) (i : Nat) : Option η := hs[i]?.join

/-- The sum of all bytes, each weighted with its position counted from one, in 32 bits. -/
def digest (bytes : List UInt8) : UInt32 :=
  (bytes.foldl (fun p b => (p.1 + 1, p.2 + p.1 * b.toUInt32)) ((1 : UInt32), (0 : UInt32))).2

end Session

end ArenaAlloc
