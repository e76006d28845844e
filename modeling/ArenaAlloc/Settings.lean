import ArenaAlloc.Fault
import ArenaAlloc.Word

/-! What an arena is told at its creation, and the figures that it tells. -/
namespace ArenaAlloc

/-- Capacity used when none is given. -/
def defaultCapacity : Nat := 4096

/-- The tunables shared by both kinds of arena. -/
structure Settings where
  /-- Bytes a contiguous arena starts with; zero stands for the default. -/
  initial : Nat := defaultCapacity
  /-- Bytes of a regular segment of a chain. -/
  segment : Nat := defaultCapacity
  /-- Whether released bytes are overwritten with zeros. -/
  zeroOnFree : Bool := true
deriving DecidableEq

namespace Settings

def effectiveInitial (s : Settings) : Nat := if s.initial = 0 then defaultCapacity else s.initial

/-- Segments must hold something. -/
def validate (s : Settings) : Except Fault Unit :=
  if s.segment = 0 then .error (.invalidConfig "segment capacity must be greater than zero")
  else .ok ()

def describe (s : Settings) : String :=
  Text.record "ArenaConfig"
    [("initial_capacity", toString s.initial), ("segment_capacity", toString s.segment),
      ("zero_on_free", toString s.zeroOnFree)]

theorem effectiveInitial_pos (s : Settings) : 0 < s.effectiveInitial := by
  unfold effectiveInitial defaultCapacity
  split <;> omega

end Settings

/-- The figures of an arena at one moment. -/
structure Usage where
  capacity : Nat := 0
  used : Nat := 0
  liveBlocks : Nat := 0
  freeSpans : Nat := 0
  freeBytes : Nat := 0
  largestFreeSpan : Nat := 0
  segments : Nat := 0
deriving DecidableEq

namespace Usage

def remaining (u : Usage) : Nat := u.capacity - u.used

def remainingGuarded (u : Usage) : Option Nat := Word.sub? u.capacity u.used

/-- Near one when the free bytes are scattered over many small spans; zero without free bytes. -/
def fragmentation (u : Usage) : Float :=
  if u.freeBytes = 0 then 0.0 else 1.0 - Float.ofNat u.largestFreeSpan / Float.ofNat u.freeBytes

def describe (u : Usage) : String :=
  Text.record "ArenaStats"
    [("capacity", toString u.capacity), ("used", toString u.used),
      ("live_blocks", toString u.liveBlocks), ("free_spans", toString u.freeSpans),
      ("free_bytes", toString u.freeBytes), ("largest_free_span", toString u.largestFreeSpan),
      ("segments", toString u.segments)]

end Usage

end ArenaAlloc
