import ArenaAlloc.Text
import ArenaAlloc.Word

/-! Cells addressed by index. An erased cell stays as a tombstone, so that no other index moves. -/
namespace ArenaAlloc

structure Slots (α : Type) where
  cells : List (Option α) := []
  /-- Number of cells that hold an item. -/
  live : Nat := 0
deriving DecidableEq

namespace Slots

variable {α : Type}

/-- The index that the next item gets. -/
def nextIndex (s : Slots α) : Nat := s.cells.length

def push (s : Slots α) (x : α) : Slots α := ⟨s.cells ++ [some x], s.live + 1⟩

/-- An item is pushed and its index told. -/
def pushGuarded (s : Slots α) (x : α) : Option (Slots α × Nat) := do
  let live ← Word.add? s.live 1
  let cells := s.cells ++ [some x]
  let index ← Word.sub? cells.length 1
  return (⟨cells, live⟩, index)

/-- The item at an index; tombstones and indexes out of range have none. -/
def get? (s : Slots α) (i : Nat) : Option α := s.cells[i]?.join

/-- Overwrites a live cell; a tombstone cannot be revived. -/
def set (s : Slots α) (i : Nat) (x : α) : Slots α :=
  match s.get? i with
  | some _ => { s with cells := s.cells.set i (some x) }
  | none => s

/-- Turns a live cell into a tombstone. With the last item all cells go. -/
def erase (s : Slots α) (i : Nat) : Slots α :=
  match s.get? i with
  | some _ => if s.live - 1 = 0 then ⟨[], 0⟩ else ⟨s.cells.set i none, s.live - 1⟩
  | none => s

def eraseGuarded (s : Slots α) (i : Nat) : Option (Slots α) :=
  match s.get? i with
  | none => some s
  | some _ => (Word.sub? s.live 1).map fun live =>
    if live = 0 then ⟨[], 0⟩ else ⟨s.cells.set i none, live⟩

def tombstones (s : Slots α) : Nat := s.cells.length - s.live

def tombstonesGuarded (s : Slots α) : Option Nat := Word.sub? s.cells.length s.live

/-- Drops the tombstones. Order stays, indexes do not. -/
def compact (s : Slots α) : Slots α := { s with cells := s.cells.filter Option.isSome }

/-- The items among the cells, counted from index `i`. -/
def entriesFrom : Nat → List (Option α) → List (Nat × α)
  | _, [] => []
  | i, none :: cs => entriesFrom (i + 1) cs
  | i, some x :: cs => (i, x) :: entriesFrom (i + 1) cs

/-- The items with their indexes, in order. -/
def entries (s : Slots α) : List (Nat × α) := entriesFrom 0 s.cells

/-- The items in order. -/
def toList (s : Slots α) : List α := s.entries.map Prod.snd

def describe [ToString α] (s : Slots α) : String :=
  Text.record "SlotVec"
    [("slots", Text.items (s.cells.map fun c => Text.item? (c.map toString))),
      ("live", toString s.live)]

theorem entriesFrom_map_snd (i : Nat) (cs : List (Option α)) :
    (entriesFrom i cs).map Prod.snd = cs.filterMap id := by
  induction cs generalizing i with
  | nil => rfl
  | cons c cs ih => cases c <;> simp [entriesFrom, ih]

theorem toList_eq_filterMap (s : Slots α) : s.toList = s.cells.filterMap id :=
  entriesFrom_map_snd 0 s.cells

theorem toList_push (s : Slots α) (x : α) : (s.push x).toList = s.toList ++ [x] := by
  simp [toList_eq_filterMap, push]

theorem toList_compact (s : Slots α) : s.compact.toList = s.toList := by
  simp only [toList_eq_filterMap, compact]
  induction s.cells with
  | nil => rfl
  | cons c cs ih => cases c <;> simpa using ih

end Slots

end ArenaAlloc
