import Mathlib.Data.List.Basic
import ArenaAlloc.Proofs.Chain.Issue
import ArenaAlloc.Proofs.Tiling

/-! A chain with books on the blocks it handed out. One step of the books is one of a few moves, so
that what every move keeps, every run keeps. -/
namespace ArenaAlloc.Chain

/-- Where a block lies, and the bytes skipped in front of it. -/
structure Spot where
  place : Placement
  padding : Nat
deriving DecidableEq

namespace Spot

def size (s : Spot) : Nat := s.padding + s.place.len

/-- All bytes that the block occupies in its segment. -/
def extent (s : Spot) : Span := ⟨s.place.offset - s.padding, s.size⟩

/-- Two blocks in different segments, or in ranges of one that do not meet. -/
def Apart (s t : Spot) : Prop := s.place.segment ≠ t.place.segment ∨ s.extent.Apart t.extent

end Spot

/-- Bytes of which those from `start` on are replaced, as far as the data goes. -/
def splice (bytes : List UInt8) (start : Nat) (data : List UInt8) : List UInt8 :=
  bytes.mapIdx fun i v => if start ≤ i then data[i - start]?.getD v else v

/-- A block in the hands of its holder. -/
structure Loan extends Spot where
  /-- The address at which it was handed out. -/
  address : Nat
  /-- The bytes it was handed out with, and over them what was written through it since. -/
  content : List UInt8
deriving DecidableEq

def Loan.store (l : Loan) (start : Nat) (data : List UInt8) : Loan :=
  { l with content := splice l.content start data }

/-- The bytes handed out of a segment, none if there is no such segment. -/
def usedAt (c : Chain) (i : Nat) : Nat := (c.segments[i]?.map Segment.used).getD 0

/-- The loan of a block that was issued between two states. -/
def lend (before after : Chain) (p : Placement) : Loan where
  place := p
  padding := p.offset - before.usedAt p.segment
  address := after.address p
  content := after.read p

structure Ledger where
  chain : Chain
  /-- The blocks handed out since the last reset or teardown. -/
  held : List Loan := []
  /-- What the chain reported since its creation. -/
  log : List Event := []

namespace Ledger

/-- The blocks held after an operation that ended as told. -/
def heldAfter (s : Ledger) (r : Reply Chain (Except Fault (Option Placement))) :
    Op Nat → List Loan
  | .write i start data => s.held.modify i (·.store start data)
  | .reset | .teardown => []
  | _ =>
    match r.result with
    | .ok (some p) => s.held ++ [lend s.chain r.state p]
    | _ => s.held

/-- One operation. Holders write through their own blocks only, which go by number. -/
def step (k : Kernel) (s : Ledger) (op : Op Nat) : Ledger :=
  match op.resolve fun i => s.held[i]?.map (·.place) with
  | none => s
  | some op' =>
    { chain := (s.chain.step k op').state
      held := s.heldAfter (s.chain.step k op') op
      log := s.log ++ (s.chain.step k op').events }

def run (s : Ledger) (ops : List (Kernel × Op Nat)) : Ledger :=
  ops.foldl (fun s o => s.step o.1 o.2) s

def spots (s : Ledger) : List Spot := s.held.map Loan.toSpot

/-- The moves that an operation comes down to. -/
inductive Moves (k : Kernel) (s : Ledger) (op : Op Nat) : Ledger → Prop
  /-- At most the alignment state changes. -/
  | stayed (m : Alignment) : op.releases = false →
      Moves k s op { s with chain := { s.chain with alignment := m } }
  | issued {p : Placement} {size align : Nat} {m : Alignment} {c : Chain} {data : List UInt8}
      {events : List Event} : op.align? s.chain.alignment = some align → 0 < size →
      Issues k { s.chain with alignment := m } size align p c events →
      Moves k s op
        { chain := c.write p 0 data
          held := s.held ++ [lend s.chain (c.write p 0 data) p]
          log := s.log ++ events }
  | wrote {i start : Nat} {data : List UInt8} {l : Loan} : op = .write i start data →
      s.held[i]? = some l →
      Moves k s op
        { s with
          chain := s.chain.write l.place start data
          held := s.held.modify i (·.store start data) }
  | reset : op = .reset →
      Moves k s op { chain := s.chain.reset.state, held := [], log := s.log ++ [.chainReset] }
  /-- There is nothing to give back. -/
  | vacant : op = .teardown → s.chain.segments = [] → Moves k s op { s with held := [] }
  | tornDown : op = .teardown → s.chain.segments ≠ [] →
      Moves k s op
        { chain :=
            { s.chain with segments := [], current := 0, allocations := 0, alignment := .unaligned }
          held := []
          log := s.log ++ [.chainTornDown s.chain.segments.length] }

variable {k : Kernel} {s s' : Ledger} {op : Op Nat}

theorem resolve_allocates (ho : op.allocates = true) (find? : Nat → Option Placement) :
    ∃ op', op.resolve find? = some op' ∧ op'.allocates = true ∧
      ∀ m, op'.align? m = op.align? m := by
  cases op with
  | alloc n => exact ⟨_, rfl, rfl, fun _ => rfl⟩
  | allocValue l v => exact ⟨_, rfl, rfl, fun _ => rfl⟩
  | write | direct | reset | teardown => contradiction

theorem moves_of_allocates (k : Kernel) (s : Ledger) (ho : op.allocates = true) :
    Moves k s op (s.step k op) := by
  obtain ⟨op', hop, ho', halign⟩ := resolve_allocates ho fun i => s.held[i]?.map (·.place)
  have hheld : ∀ r : Reply Chain (Except Fault (Option Placement)), s.heldAfter r op =
      match r.result with
      | .ok (some p) => s.held ++ [lend s.chain r.state p]
      | _ => s.held := by
    intro r
    cases op with
    | alloc | allocValue => rfl
    | write | direct | reset | teardown => contradiction
  have hkeeps : op.releases = false := by
    cases op with
    | alloc | allocValue => rfl
    | write | direct | reset | teardown => contradiction
  simp only [step, hop, hheld]
  rcases step_issues k s.chain ho' with
    ⟨p, size, align, m, c, data, hr, ha, hn, hi, hstate⟩ | ⟨f, m, hr, hstate, hevents⟩
  · simp only [hr, hstate]
    exact .issued ((halign _).symm.trans ha) hn hi
  · simp only [hr, hstate, hevents, List.append_nil]
    exact .stayed m hkeeps

theorem step_moves (k : Kernel) (s : Ledger) (op : Op Nat) : Moves k s op (s.step k op) := by
  by_cases ho : op.allocates = true
  · exact moves_of_allocates k s ho
  cases op with
  | alloc | allocValue => exact (ho rfl).elim
  | write i start data =>
    cases hi : s.held[i]? with
    | none =>
      simp only [step, Op.resolve, hi, Option.map_none]
      exact .stayed s.chain.alignment rfl
    | some l =>
      simp only [step, Op.resolve, hi, Option.map_some, Chain.step, List.append_nil]
      exact .wrote rfl hi
  | direct d =>
    simp only [step, Op.resolve, Chain.step, heldAfter, List.append_nil]
    exact .stayed (s.chain.alignment.after d) rfl
  | reset => exact .reset rfl
  | teardown =>
    simp only [step, Op.resolve, Chain.step, heldAfter, Reply.map, teardown]
    by_cases hempty : s.chain.segments = []
    · rw [if_pos (List.isEmpty_iff.mpr hempty)]
      simp only [List.append_nil]
      exact .vacant rfl hempty
    · rw [if_neg (mt List.isEmpty_iff.mp hempty)]
      exact .tornDown rfl hempty

end Ledger

end ArenaAlloc.Chain
