import ArenaAlloc.Proofs.Arena.History

/-! The layout of reachable arenas: nothing below the high-water mark is lost or shared. -/
namespace ArenaAlloc.Arena

variable {a : Arena}

theorem total_extents (a : Arena) :
    Word.total (a.extents.map Span.size) =
      a.usage.freeBytes + Word.total (a.live.blocks.map fun b => b.padding + b.len) := by
  rw [extents, List.map_append, Word.total, List.sum_append_nat, List.map_map, Nat.add_comm]
  rfl

theorem Sound.empty_of_unmapped (hs : a.Sound) (hm : a.mapping = none) :
    a.used = 0 ∧ a.live.blocks = [] ∧ a.freeList.spans = [] := by
  have hused : a.used = 0 := by
    have hroom := hs.room
    have hnone := capacity_of_unmapped hm
    omega
  have hextents : a.extents = [] := by
    refine List.eq_nil_iff_forall_not_mem.mpr fun s hmem => ?_
    have := (hs.tiled.cover s.offset).mp ⟨s, hmem, hs.tiled.contains_offset hmem⟩
    omega
  obtain ⟨hlive, hspans⟩ := List.append_eq_nil_iff.mp hextents
  exact ⟨hused, List.map_eq_nil_iff.mp hlive, hspans⟩

/-- Live blocks, padding included, and free spans hold every byte below the mark exactly once. -/
theorem reachable_layout (h : a.Reachable) :
    Tiles a.extents a.used ∧
    (∀ b ∈ a.live.blocks, b.padding ≤ b.offset ∧ a.live.find? b.offset = some b) ∧
    a.used ≤ a.capacity ∧
    a.usage.freeBytes + Word.total (a.live.blocks.map fun b => b.padding + b.len) = a.used ∧
    (a.mapping = none → a.used = 0 ∧ a.live.blocks = [] ∧ a.freeList.spans = []) := by
  have hs := h.sound
  refine ⟨hs.tiled, ?_, hs.room, ?_, hs.empty_of_unmapped⟩
  · intro b hb
    exact ⟨(hs.payload b hb).2, hs.find?_iff.mpr hb⟩
  · rw [← total_extents]
    exact hs.tiled.total_size

/-- A new arena under the default settings. -/
def blank : Arena where
  mapping := some { page := 1, capacity := defaultCapacity, mapped := defaultCapacity }
  settings := {}

theorem created_blank : blank.Created := ⟨⟨1, true⟩, {}, [.created defaultCapacity], rfl⟩

/-- Operations on a system that grants what it can. -/
def granted (ops : List (Op Block)) : List (Kernel × Op Block) := ops.map (Prod.mk ⟨1, true⟩)

/-- The middle one of three blocks is released, and a smaller one issued from its span. -/
def recycled : Arena :=
  blank.run (granted [.alloc 3, .allocAligned 8, .alloc 4, .free ⟨8, 8, 5, 1⟩, .alloc 2])

theorem recycled_layout :
    recycled.Reachable ∧ Tiles [⟨3, 2⟩, ⟨16, 4⟩, ⟨0, 3⟩, ⟨5, 11⟩] 20 ∧ 20 ≤ recycled.capacity := by
  have h : recycled.Reachable := ⟨blank, _, created_blank, rfl⟩
  obtain ⟨htiles, -, hroom, -, -⟩ := reachable_layout h
  exact ⟨h, htiles, hroom⟩

end ArenaAlloc.Arena
