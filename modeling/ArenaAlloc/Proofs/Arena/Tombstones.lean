import ArenaAlloc.Proofs.Arena.Layout

/-! How many cells the search for a fit goes through: tombstones are counted only when a span goes
whole, and that is enough to keep them few. -/
namespace ArenaAlloc

namespace FreeList

variable {l : FreeList} {f : Fit} {size align : Nat}

/-- The tombstones outnumber the allowance or the spans, but never both. -/
structure Packed (l : FreeList) : Prop where
  counted : l.slots.Counted
  few : l.slots.tombstones ≤ max tombstoneAllowance l.length

theorem packed_nil : Packed {} := ⟨Slots.counted_nil, Nat.zero_le _⟩

theorem packed_tidy {s : Slots Span} (hc : s.Counted) : Packed ⟨tidy s⟩ := by
  refine ⟨counted_tidy hc, ?_⟩
  change (tidy s).tombstones ≤ max tombstoneAllowance (tidy s).live
  simp only [tidy]
  split
  · rw [Slots.tombstones_compact hc]
    exact Nat.zero_le _
  · rename_i hfew
    exact Nat.le_of_not_lt hfew

theorem Packed.insert (h : l.Packed) (s : Span) : (l.insert s).Packed := by
  refine ⟨Slots.counted_push h.counted, ?_⟩
  have hfew := h.few
  have hlength : (l.insert s).length = l.length + 1 := rfl
  have hslots : (l.insert s).slots.tombstones = l.slots.tombstones := Slots.tombstones_push _ _
  omega

/-- A split keeps the cells as they are. An exact fit leaves one tombstone more and one span less,
which is when they are counted. -/
theorem Packed.carve (h : l.Packed) (hf : l.Suits size align f) : (l.carve f size).Packed := by
  by_cases hexact : f.padding + size = f.span.size
  · rw [FreeList.carve, if_pos hexact]
    exact packed_tidy (Slots.counted_erase h.counted hf.held)
  · refine ⟨counted_carve h.counted hf, ?_⟩
    rw [FreeList.carve, if_neg hexact, length]
    simp only [Slots.tombstones_set, Slots.live_set]
    exact h.few

theorem Packed.step (h : l.Packed) (op : Op) : (l.step op).Packed := by
  cases op with
  | insert s => exact h.insert s
  | clear => exact packed_nil
  | take size align =>
    simp only [FreeList.step]
    split
    · exact h
    · rename_i f hf
      exact h.carve (suits_of_bestFit? hf)

theorem Packed.run (h : l.Packed) (ops : List Op) : (l.run ops).Packed := by
  induction ops generalizing l with
  | nil => exact h
  | cons op ops ih => exact ih (h.step op)

/-- The cells that a search goes through: each holds a span or is a tombstone. -/
structure Scans (l : FreeList) : Prop where
  spans : l.length = l.spans.length
  cells : l.slots.cells.length = l.length + l.slots.tombstones
  tombstones : l.slots.tombstones ≤ max 32 l.length
  many : 32 ≤ l.length → l.slots.cells.length ≤ 2 * l.length
  few : l.length < 32 → l.slots.cells.length ≤ l.length + 32

theorem Packed.scans (h : l.Packed) : l.Scans := by
  have hfew : l.slots.tombstones ≤ max 32 l.length := h.few
  have hcells : l.slots.cells.length = l.length + l.slots.tombstones := by
    have hlive : l.length ≤ l.slots.cells.length := h.counted.live_le
    simp only [Slots.tombstones]
    change _ = l.length + (_ - l.length)
    omega
  refine ⟨h.counted, hcells, hfew, ?_, ?_⟩
  · intro hmany
    omega
  · intro hless
    omega

end FreeList

namespace Arena

variable {k : Kernel} {a a' : Arena} {e : Effect}

theorem packed_takes (h : a.freeList.Packed) (ht : Takes k a e a') : a'.freeList.Packed := by
  cases ht with
  | reuse _ hf => exact h.carve (FreeList.suits_of_bestFit? hf)
  | release => exact h.insert _
  | extend | write | retract => exact h
  | reset => exact FreeList.packed_nil
  | teardown hm =>
    simp only [teardown, hm]
    exact FreeList.packed_nil

theorem Created.packed (h : a.Created) : a.freeList.Packed := by
  obtain ⟨k, m, s, -, rfl⟩ := h.eq
  exact FreeList.packed_nil

theorem Reachable.packed (h : a.Reachable) : a.freeList.Packed :=
  h.keeps Created.packed (fun _ hp => hp) packed_takes

/-- Tombstones never outnumber both the allowance and the spans, so that a search goes through no
more than twice the cells that hold a span, or through the allowance besides. -/
theorem tombstones_bounded :
    (∀ ops, (FreeList.run {} ops).Scans) ∧ ∀ a : Arena, a.Reachable → a.freeList.Scans := by
  constructor
  · intro ops
    exact (FreeList.packed_nil.run ops).scans
  · intro a h
    exact h.packed.scans

/-- So many equal spans, of which some are taken whole. -/
def hoarded (inserted taken : Nat) : List FreeList.Op :=
  List.replicate inserted (.insert ⟨0, 8⟩) ++ List.replicate taken (.take 8 1)

/-- Of three blocks two are released, and the space of one is issued again. -/
def pitted : Arena :=
  blank.run (granted [.alloc 8, .alloc 8, .alloc 8, .free ⟨0, 8, 0, 0⟩, .free ⟨8, 8, 0, 1⟩,
    .alloc 8])

/-- Either bound is reached, and one span fewer has the cells compacted. -/
theorem hoarded_bounded :
    (FreeList.run {} (hoarded 64 32)).slots.cells.length = 2 * 32 ∧
    (FreeList.run {} (hoarded 34 32)).slots.cells.length = 2 + 32 ∧
    (FreeList.run {} (hoarded 34 33)).slots.cells.length = 1 ∧
    (FreeList.run {} (hoarded 64 32)).Scans ∧ (FreeList.run {} (hoarded 34 32)).Scans ∧
    pitted.Reachable ∧ pitted.freeList.slots.tombstones = 1 ∧ pitted.freeList.Scans := by
  obtain ⟨hlists, harenas⟩ := tombstones_bounded
  have h : pitted.Reachable := ⟨blank, _, created_blank, rfl⟩
  exact ⟨by decide +kernel, by decide +kernel, by decide +kernel, hlists _, hlists _, h, by decide,
    harenas _ h⟩

end Arena

end ArenaAlloc
