import ArenaAlloc.Proofs.Arena.Effect
import ArenaAlloc.Proofs.SpanList
import ArenaAlloc.Proofs.Tiling

/-! What every arena keeps: live blocks and free spans share out the bytes below the high-water
mark, which lie in storage. -/
namespace ArenaAlloc

namespace Block

variable {b : Block} {i : Nat}

theorem stop_extent (h : b.padding ≤ b.offset) : b.extent.stop = b.stop := by
  simp only [extent, Span.stop, stop]
  omega

theorem extent_contains (hi : i < b.len) (h : b.padding ≤ b.offset) :
    b.extent.contains (b.offset + i) = true := by
  apply Span.contains_iff.mpr
  simp only [extent, Span.stop]
  omega

end Block

namespace Arena

/-- The ranges that live blocks, padding included, and free spans occupy. -/
def extents (a : Arena) : List Span := a.live.blocks.map Block.extent ++ a.freeList.spans

structure Sound (a : Arena) : Prop where
  counted : a.freeList.slots.Counted
  payload : ∀ b ∈ a.live.blocks, 0 < b.len ∧ b.padding ≤ b.offset
  tiled : Tiles a.extents a.used
  room : a.used ≤ a.capacity

variable {k : Kernel} {a a' : Arena} {b c : Block} {e : Effect} {es : List Effect}

namespace Sound

theorem contains_offset (hs : a.Sound) (hb : b ∈ a.live.blocks) :
    b.extent.contains b.offset = true :=
  Block.extent_contains (hs.payload b hb).1 (hs.payload b hb).2

theorem extent_mem (hb : b ∈ a.live.blocks) : b.extent ∈ a.extents :=
  List.mem_append_left _ (List.mem_map_of_mem hb)

theorem stop_le_used (hs : a.Sound) (hb : b ∈ a.live.blocks) : b.stop ≤ a.used := by
  rw [← Block.stop_extent (hs.payload b hb).2]
  exact hs.tiled.stop_le (extent_mem hb)

theorem pairwise_apart (hs : a.Sound) :
    a.live.blocks.Pairwise fun b c => b.extent.Apart c.extent :=
  List.pairwise_map.mp (List.pairwise_append.mp hs.tiled.apart).1

theorem apart (hs : a.Sound) (hb : b ∈ a.live.blocks) (hc : c ∈ a.live.blocks) (hne : b ≠ c) :
    b.extent.Apart c.extent := by
  have : Std.Symm fun b c : Block => b.extent.Apart c.extent := ⟨fun _ _ h => h.symm⟩
  exact hs.pairwise_apart.forall hb hc hne

theorem keyed (hs : a.Sound) : a.live.Keyed := by
  refine hs.pairwise_apart.imp_of_mem fun {b c} hb hc hbc ho => ?_
  have hout := hbc.not_contains (hs.contains_offset hb)
  rw [ho, hs.contains_offset hc] at hout
  contradiction

theorem find?_iff (hs : a.Sound) : a.live.find? b.offset = some b ↔ b ∈ a.live.blocks :=
  hs.keyed.find?_eq_some_iff.trans (and_iff_left rfl)

theorem verify_iff (hs : a.Sound) : a.verify b = .ok () ↔ b ∈ a.live.blocks :=
  verify_eq_ok_iff.trans hs.find?_iff

/-- Whatever is in use lies in storage. -/
theorem mapping_of_mem (hs : a.Sound) (hb : b ∈ a.live.blocks) : ∃ m, a.mapping = some m := by
  cases hm : a.mapping with
  | some m => exact ⟨m, rfl⟩
  | none =>
    have hlen := (hs.payload b hb).1
    have hstop := hs.stop_le_used hb
    have hroom := hs.room
    have hnone := capacity_of_unmapped hm
    simp only [Block.stop] at hstop
    omega

theorem storage_of_mem (hs : a.Sound) (hb : b ∈ a.live.blocks) :
    ∃ m, a.mapping = some m ∧ a.storage b = .ok m := by
  obtain ⟨m, hm⟩ := hs.mapping_of_mem hb
  exact ⟨m, hm, storage_eq_ok_iff.mpr ⟨hs.verify_iff.mpr hb, hm⟩⟩

theorem freeList (hs : a.Sound) : a.freeList.Sound :=
  ⟨hs.counted, fun _ h => hs.tiled.nonempty _ (List.mem_append_right _ h)⟩

theorem align (hs : a.Sound) (m : Alignment) : { a with alignment := m }.Sound :=
  ⟨hs.counted, hs.payload, hs.tiled, hs.room⟩

end Sound

theorem capacity_of_scrub (h : a'.mapping = a.scrub b) : a'.capacity = a.capacity := by
  simp only [capacity, h, scrub]
  cases a.mapping <;> cases a.settings.zeroOnFree <;> rfl

theorem extent_fitted (f : Fit) (size : Nat) :
    (a.fitted f size).extent = ⟨f.span.offset, f.padding + size⟩ := by
  simp [Block.extent, fitted, Fit.start]

theorem extent_fresh (size align : Nat) :
    (a.fresh size align).extent = ⟨a.used, Word.padding a.used align + size⟩ := by
  simp [Block.extent, fresh]

/-- The extents once a free span is told apart from all others. -/
theorem tiles_around {size align : Nat} {f : Fit} (hs : a.Sound)
    (hf : a.freeList.Suits size align f) :
    Tiles (f.span :: (a.live.blocks.map Block.extent ++
      (a.freeList.slots.ahead f.slot ++ a.freeList.slots.behind f.slot))) a.used :=
  hs.tiled.perm (((FreeList.perm_spans hf).append_left _).trans List.perm_middle)

theorem fitted_offset_ne {size align : Nat} {f : Fit} (hs : a.Sound) (hn : 0 < size)
    (hf : a.freeList.Suits size align f) (hc : c ∈ a.live.blocks) :
    c.offset ≠ (a.fitted f size).offset := by
  intro ho
  have hin : f.span.contains c.offset = true := by
    have henough := hf.enough
    apply Span.contains_iff.mpr
    simp only [ho, fitted, Fit.start, Span.stop]
    omega
  have hout := (tiles_around hs hf).not_contains_of_cons hin
    (List.mem_append_left _ (List.mem_map_of_mem hc))
  rw [hs.contains_offset hc] at hout
  contradiction

theorem fresh_offset_ne (hs : a.Sound) (size align : Nat) (hc : c ∈ a.live.blocks) :
    c.offset ≠ (a.fresh size align).offset := by
  have hlen := (hs.payload c hc).1
  have hstop := hs.stop_le_used hc
  simp only [Block.stop] at hstop
  simp only [fresh]
  omega

theorem blocks_reuse {size align : Nat} {f : Fit} (hs : a.Sound) (hn : 0 < size)
    (hf : a.freeList.Suits size align f) :
    (a.live.insert (a.fitted f size)).blocks = a.fitted f size :: a.live.blocks :=
  LiveTable.blocks_insert fun _ hc => fitted_offset_ne hs hn hf hc

theorem blocks_extend (hs : a.Sound) (size align : Nat) :
    (a.live.insert (a.fresh size align)).blocks = a.fresh size align :: a.live.blocks :=
  LiveTable.blocks_insert fun _ hc => fresh_offset_ne hs size align hc

theorem sound_reuse {size align : Nat} {f : Fit} (hs : a.Sound) (hn : 0 < size)
    (hf : a.freeList.Suits size align f) :
    ({ a with freeList := a.freeList.carve f size }.record (a.fitted f size)).Sound := by
  have hblocks := blocks_reuse hs hn hf
  refine ⟨FreeList.counted_carve hs.counted hf, ?_, ?_, hs.room⟩
  · intro c hc
    simp only [record, hblocks, List.mem_cons] at hc
    rcases hc with rfl | hc
    · exact ⟨hn, Nat.le_add_left _ _⟩
    · exact hs.payload c hc
  · have ht := tiles_around hs hf
    simp only [extents, record, hblocks, List.map_cons, extent_fitted, List.cons_append]
    by_cases he : f.padding + size = f.span.size
    · rw [FreeList.spans_carve_exact hs.counted hf he, he]
      exact ht
    · have henough := hf.enough
      rw [FreeList.spans_carve_split hf he]
      refine (ht.split (k := f.padding + size) (by omega) (by omega)).perm (.cons _ ?_)
      rw [← List.append_assoc, ← List.append_assoc]
      exact List.perm_middle.symm

theorem sound_extend {m : Mapping} {size align : Nat} (hs : a.Sound) (hn : 0 < size)
    (hm : a.Room k (a.fresh size align).extent.size m) :
    ({ a with mapping := some m, used := (a.fresh size align).stop }.record
      (a.fresh size align)).Sound := by
  have hblocks := blocks_extend hs size align
  have hstop : (a.fresh size align).stop = a.used + (a.fresh size align).extent.size := by
    rw [extent_fresh]
    exact Nat.add_assoc _ _ _
  refine ⟨hs.counted, ?_, ?_, ?_⟩
  · intro c hc
    simp only [record, hblocks, List.mem_cons] at hc
    rcases hc with rfl | hc
    · exact ⟨hn, Nat.le_add_left _ _⟩
    · exact hs.payload c hc
  · simp only [extents, record, hblocks, List.map_cons, List.cons_append, hstop, extent_fresh]
    exact hs.tiled.push (Nat.add_pos_right _ hn)
  · simp only [record, capacity, hstop]
    exact hm.used_add_le hs.room

/-- The extents once a live block is told apart from all others. -/
theorem tiles_without (hs : a.Sound) (hb : b ∈ a.live.blocks) :
    Tiles (b.extent :: ((a.live.erase b.offset).blocks.map Block.extent ++ a.freeList.spans))
      a.used :=
  hs.tiled.perm (((hs.keyed.perm_erase hb).map Block.extent).append_right _)

theorem payload_erase (hs : a.Sound) (o : Nat) :
    ∀ c ∈ (a.live.erase o).blocks, 0 < c.len ∧ c.padding ≤ c.offset := by
  intro c hc
  exact hs.payload c (LiveTable.mem_erase.mp hc).1

theorem sound_takes (hs : a.Sound) (h : Takes k a e a') : a'.Sound := by
  cases h with
  | reuse hn hf => exact sound_reuse hs hn (FreeList.suits_of_bestFit? hf)
  | extend hn hf hm => exact sound_extend hs hn hm
  | write hb hm =>
    have hroom := hs.room.trans_eq (capacity_of_mapped hm)
    exact ⟨hs.counted, hs.payload, hs.tiled, hroom⟩
  | retract hb hu =>
    have hb := hs.find?_iff.mp hb
    have hstop := Block.stop_extent (hs.payload _ hb).2
    refine ⟨hs.counted, payload_erase hs _, (tiles_without hs hb).pop (hstop.trans hu), ?_⟩
    rw [capacity_of_scrub rfl]
    exact (Nat.le_add_right _ _).trans ((hs.tiled.stop_le (Sound.extent_mem hb)).trans hs.room)
  | release hb hu =>
    have hb := hs.find?_iff.mp hb
    refine ⟨Slots.counted_push hs.counted, payload_erase hs _, ?_, ?_⟩
    · refine (tiles_without hs hb).perm ?_
      rw [extents, FreeList.spans_insert, ← List.append_assoc]
      exact (List.perm_append_singleton _ _).symm
    · rw [capacity_of_scrub rfl]
      exact hs.room
  | reset => exact ⟨Slots.counted_nil, by simp [reset], Tiles.nil, Nat.zero_le _⟩
  | teardown hm =>
    simp only [teardown, hm]
    exact ⟨Slots.counted_nil, by simp, Tiles.nil, Nat.zero_le _⟩

theorem sound_takesAll (hs : a.Sound) (h : TakesAll k a es a') : a'.Sound := by
  induction es generalizing a with
  | nil =>
    obtain rfl : a' = a := h
    exact hs
  | cons e es ih =>
    obtain ⟨c, hc, h⟩ := h
    exact ih (sound_takes hs hc) h

end Arena

end ArenaAlloc
