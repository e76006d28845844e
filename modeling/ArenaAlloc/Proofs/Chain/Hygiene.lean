import ArenaAlloc.Proofs.Chain.Loans

/-! Zeroing in a chain. Blocks lie below the marks of their segments, and a reset scrubs the one
segment that it keeps up to its mark, so past the marks there is nothing but zeros. -/
namespace ArenaAlloc

namespace Segment

variable {g : Segment}

/-- All bytes from the mark on are zero. -/
def Clean (g : Segment) : Prop := ∀ i, g.used ≤ i → g.mapping.bytes.get i = 0

theorem clean_of_create {k : Kernel} {m : Mapping} {capacity : Nat}
    (h : Mapping.create k capacity = .ok m) (used : Nat) : Clean { mapping := m, used } := by
  obtain ⟨n, -, -, rfl⟩ := Mapping.create_eq_ok h
  intro i _
  rfl

theorem Clean.mono (h : g.Clean) {used : Nat} (hu : g.used ≤ used) : Clean { g with used } := by
  intro i hi
  exact h i (Nat.le_trans hu hi)

/-- A rewound segment is zero below its old mark because it is scrubbed there, and behind it because
it was before. -/
theorem Clean.rewind (h : g.Clean) : (g.rewind true).Clean := by
  intro i _
  simp only [Segment.rewind, if_true, Mapping.get_zero]
  split
  · rfl
  · exact h i (by omega)

theorem Clean.write (h : g.Clean) {offset start len : Nat} {data : List UInt8}
    (hin : offset + len ≤ g.used) :
    Clean { g with mapping := g.mapping.write (offset + start) (data.take (len - start)) } := by
  intro i hi
  have hout : offset + len ≤ i := Nat.le_trans hin hi
  exact (Mapping.get_write_outside g.mapping offset start data (Or.inr hout)).trans (h i hi)

end Segment

namespace Chain

variable {k : Kernel} {c c' : Chain} {p : Placement} {size align start n : Nat} {data : List UInt8}
  {events : List Event}

def Clean (c : Chain) : Prop := ∀ g ∈ c.segments, g.Clean

theorem Clean.realign (h : c.Clean) (m : Alignment) : Clean { c with alignment := m } := h

theorem clean_issues (h : c.Clean) (hi : Issues k c size align p c' events) : c'.Clean := by
  intro g hg
  cases hi with
  | @bumped s _ hs _ =>
    rcases List.mem_or_eq_of_mem_set hg with hg | rfl
    · exact h g hg
    · exact (h s (List.mem_of_getElem? hs)).mono (Nat.le_add_right _ _)
  | @started m _ hm =>
    rcases List.mem_append.mp hg with hg | hg
    · exact h g hg
    · obtain rfl := List.mem_singleton.mp hg
      exact Segment.clean_of_create hm size

theorem clean_write (h : c.Clean)
    (hp : ∀ g, c.segments[p.segment]? = some g → p.offset + p.len ≤ g.used) :
    (c.write p start data).Clean := by
  intro g' hg'
  obtain ⟨i, hi⟩ := List.mem_iff_getElem?.mp hg'
  rw [segment_write] at hi
  obtain ⟨g, hg, rfl⟩ := Option.map_eq_some_iff.mp hi
  have hclean := h g (List.mem_of_getElem? hg)
  by_cases hsegment : p.segment = i
  · subst hsegment
    rw [if_pos rfl]
    exact hclean.write (hp g hg)
  · rw [if_neg hsegment]
    exact hclean

theorem clean_reset (h : c.Clean) (hz : c.settings.zeroOnFree = true) : c.reset.state.Clean := by
  intro g hg
  simp only [reset, hz] at hg
  obtain ⟨g₀, hg₀, rfl⟩ := List.mem_map.mp hg
  exact (h g₀ (List.mem_of_mem_take hg₀)).rewind

/-- A block starts out as the bytes behind the mark of its segment. -/
theorem read_issues (h : c.Clean) (hi : Issues k c size align p c' events) :
    c'.read p = List.replicate size 0 := by
  cases hi with
  | @bumped s _ hs _ =>
    have hlt := (List.getElem?_eq_some_iff.mp hs).1
    have hclean := h s (List.mem_of_getElem? hs)
    simp only [read, List.getElem?_set_self hlt]
    apply Mapping.map_range'_eq_replicate
    intro i _
    exact hclean _ (by omega)
  | @started m _ hm =>
    have hclean := Segment.clean_of_create hm 0
    simp only [read, List.getElem?_concat_length]
    apply Mapping.map_range'_eq_replicate
    intro i _
    exact hclean _ (Nat.zero_le _)

theorem read_alloc (h : c.Clean) (hp : (c.alloc k n).result = .ok p) :
    (c.alloc k n).state.read p = List.replicate n 0 := by
  rcases allocAt_issues k c n inPage_one with ⟨q, hq, -, hi⟩ | ⟨f, m, hf⟩
  · obtain rfl : q = p := Except.ok.inj (hq.symm.trans hp)
    exact read_issues (h.realign _) hi
  · rw [alloc, hf] at hp
    contradiction

namespace Ledger

variable {s s' : Ledger} {op : Op Nat} {l : Loan}

theorem settings_moves (hm : Moves k s op s') : s'.chain.settings = s.chain.settings := by
  cases hm with
  | issued _ _ hi => exact hi.settings
  | stayed | wrote | reset | vacant | tornDown => rfl

theorem stop_le_used (hs : s.Sound) (hl : l ∈ s.held) {g : Segment}
    (hg : s.chain.segments[l.place.segment]? = some g) :
    l.place.offset + l.place.len ≤ g.used := by
  obtain ⟨-, hpadding, g₀, hg₀, hstop⟩ := hs.held_within hl
  obtain rfl : g₀ = g := Option.some.inj (hg₀.symm.trans hg)
  simp only [Spot.extent, Spot.size, Span.stop] at hstop
  omega

theorem clean_moves (hs : s.Sound) (hz : s.chain.settings.zeroOnFree = true) (h : s.chain.Clean)
    (hm : Moves k s op s') : s'.chain.Clean := by
  cases hm with
  | stayed => exact h
  | @issued _ _ _ m _ _ _ _ _ hi =>
    obtain ⟨hlen, -, g, hg, hused, -⟩ := hi.spot
    apply clean_write (clean_issues (h.realign m) hi)
    intro g' hg'
    obtain rfl : g = g' := Option.some.inj (hg.symm.trans hg')
    omega
  | wrote _ hi => exact clean_write h fun g hg => stop_le_used hs (List.mem_of_getElem? hi) hg
  | reset => exact clean_reset h hz
  | vacant => exact h
  | tornDown =>
    intro g hg
    contradiction

theorem clean_of_created (h : c.Created) : c.Clean := by
  obtain ⟨k, m, settings, hm, -, rfl⟩ := h.eq
  intro g hg
  obtain rfl := List.mem_singleton.mp hg
  exact Segment.clean_of_create hm 0

theorem Reachable.clean (h : s.Reachable) (hz : s.chain.settings.zeroOnFree = true) :
    s.chain.Clean := by
  obtain ⟨c, ops, hc, rfl⟩ := h
  have hrun := run_rec
    (P := fun s => s.Sound ∧ (s.chain.settings.zeroOnFree = true → s.chain.Clean))
    (fun {k s op s'} h hm => ?_) ⟨sound_of_created hc, fun _ => clean_of_created hc⟩ ops
  · exact hrun.2 hz
  · refine ⟨sound_moves h.1 hm, ?_⟩
    intro hz'
    rw [settings_moves hm] at hz'
    exact clean_moves h.1 hz' (h.2 hz') hm

/-- Where a reset zeroes, all bytes past the mark of a segment are zero after any run, and a new
block reads as zeros however often its bytes were handed out and written to before. -/
theorem past_mark_zero (h : s.Reachable) (hz : s.chain.settings.zeroOnFree = true) :
    (∀ g ∈ s.chain.segments, ∀ i, g.used ≤ i → g.mapping.bytes.get i = 0) ∧
    ∀ k n p, (s.chain.alloc k n).result = .ok p →
      (s.chain.alloc k n).state.read p = List.replicate n 0 := by
  have hclean := h.clean hz
  refine ⟨hclean, ?_⟩
  intro k n p hp
  exact read_alloc hclean hp

/-- The first segment is filled up, partly written, and kept through two resets. -/
def rewound : Ledger :=
  run { chain := blank }
    (granted [.alloc 3, .direct .next, .alloc 4000, .write 0 0 [1, 2, 3], .write 1 7 [9],
      .alloc 200, .reset, .alloc 50, .write 0 49 [8], .reset, .alloc 10])

theorem rewound_past_mark_zero :
    rewound.Reachable ∧ rewound.chain.segments.map Segment.used = [10] ∧
    (∀ g ∈ rewound.chain.segments, g.mapping.bytes.get 49 = 0) ∧
    (rewound.chain.alloc ⟨1, true⟩ 4086).result = .ok ⟨0, 10, 4086⟩ ∧
    (rewound.chain.alloc ⟨1, true⟩ 4086).state.read ⟨0, 10, 4086⟩ = List.replicate 4086 0 := by
  have h : rewound.Reachable := ⟨blank, _, created_blank, rfl⟩
  obtain ⟨hzero, halloc⟩ := past_mark_zero h rfl
  have hmarks : rewound.chain.segments.map Segment.used = [10] := rfl
  have hresult : (rewound.chain.alloc ⟨1, true⟩ 4086).result = .ok ⟨0, 10, 4086⟩ := rfl
  refine ⟨h, hmarks, ?_, hresult, halloc _ _ _ hresult⟩
  intro g hg
  have hused : g.used ∈ [10] := hmarks ▸ List.mem_map_of_mem hg
  obtain hten := List.mem_singleton.mp hused
  exact hzero g hg 49 (by omega)

end Ledger

end Chain

end ArenaAlloc
