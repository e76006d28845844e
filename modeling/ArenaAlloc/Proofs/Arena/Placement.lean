import ArenaAlloc.Proofs.Arena.Denial

/-! Where a new block lies: at the front of the smallest free span that holds it, the first of them
in scan order, and at the high-water mark if there is none. -/
namespace ArenaAlloc.Arena

/-- The block is carved from the front of the span `s`, between the spans `pre` and `post`. -/
structure Carved (a : Arena) (aligned : Bool) (n : Nat) (pre : List Span) (s : Span)
    (post : List Span) (b : Block) (a' : Arena) : Prop where
  spans : a.freeList.spans = pre ++ s :: post
  holds : demand aligned n s.offset ≤ s.size
  smaller : ∀ t ∈ pre, demand aligned n t.offset ≤ t.size → s.size < t.size
  smallest : ∀ t ∈ post, demand aligned n t.offset ≤ t.size → s.size ≤ t.size
  padding : b.padding = Alignment.gap aligned s.offset
  offset : b.offset = s.offset + b.padding
  len : b.len = n
  rest : a'.freeList.spans =
    if demand aligned n s.offset = s.size then pre ++ post
    else pre ++
      ⟨s.offset + demand aligned n s.offset, s.size - demand aligned n s.offset⟩ :: post
  used : a'.used = a.used
  capacity : a'.capacity = a.capacity

/-- The block takes up the bytes from the old mark to the new one. -/
structure Bumped (a : Arena) (aligned : Bool) (n : Nat) (b : Block) (a' : Arena) : Prop where
  padding : b.padding = Alignment.gap aligned a.used
  offset : b.offset = a.used + b.padding
  len : b.len = n
  freeList : a'.freeList = a.freeList
  used : a'.used = a.used + (b.padding + n)

/-- The block lies where a best fit puts it. -/
structure BestFit (a : Arena) (aligned : Bool) (n : Nat) (b : Block) (a' : Arena) : Prop where
  carved : (∃ s ∈ a.freeList.spans, demand aligned n s.offset ≤ s.size) →
    ∃ pre s post, a.Carved aligned n pre s post b a'
  bumped : (∀ s ∈ a.freeList.spans, s.size < demand aligned n s.offset) → a.Bumped aligned n b a'

variable {k : Kernel} {a : Arena} {b : Block} {f : Fit} {aligned : Bool} {n : Nat} {s : Span}

theorem BestFit.of_realign {m : Alignment} {a' : Arena}
    (h : ({ a with alignment := m } : Arena).BestFit aligned n b a') :
    a.BestFit aligned n b a' := by
  constructor
  · intro hspan
    obtain ⟨pre, s, post, hc⟩ := h.carved hspan
    exact ⟨pre, s, post, hc.spans, hc.holds, hc.smaller, hc.smallest, hc.padding, hc.offset, hc.len,
      hc.rest, hc.used, hc.capacity⟩
  · intro hfull
    obtain ⟨hpadding, hoffset, hlen, hlist, hused⟩ := h.bumped hfull
    exact ⟨hpadding, hoffset, hlen, hlist, hused⟩

theorem holds_iff_demand :
    s.Holds n (Alignment.boundary aligned) ↔ demand aligned n s.offset ≤ s.size := by
  simp only [Span.Holds, Span.padding, padding_boundary_add]

theorem carved_fitted (hs : a.Sound)
    (hf : a.freeList.bestFit? n (Alignment.boundary aligned) = some f) :
    a.Carved aligned n (a.freeList.slots.ahead f.slot) f.span (a.freeList.slots.behind f.slot)
      (a.fitted f n) ({ a with freeList := a.freeList.carve f n }.record (a.fitted f n)) := by
  obtain ⟨hspans, hholds, hsmaller, hsmallest⟩ := FreeList.bestFit?_least hs.freeList hf
  have hsuits := FreeList.suits_of_bestFit? hf
  have hpadding : f.padding = Alignment.gap aligned f.span.offset := by
    rw [hsuits.padding, Span.padding, Alignment.padding_boundary]
  have hdemand : f.padding + n = demand aligned n f.span.offset := by rw [hpadding, demand]
  simp only [holds_iff_demand] at hholds hsmaller hsmallest
  refine ⟨hspans, hholds, hsmaller, hsmallest, hpadding, rfl, rfl, ?_, rfl, rfl⟩
  rw [← hdemand]
  split
  · rename_i hexact
    exact FreeList.spans_carve_exact hs.counted hsuits hexact
  · rename_i hpart
    exact FreeList.spans_carve_split hsuits hpart

theorem bestFit_of_place (hs : a.Sound) (hn : 0 < n)
    (hb : (a.place k n (Alignment.boundary aligned)).result = .ok b) :
    a.BestFit aligned n b (a.place k n (Alignment.boundary aligned)).state := by
  have hnone : a.freeList.bestFit? n (Alignment.boundary aligned) = none ↔ a.Full aligned n :=
    bestFit?_eq_none_iff_full hn
  rcases place_eq_ok hn hb with ⟨f, hf, rfl, hstate⟩ | ⟨hf, rfl, m, -, hstate⟩
  · have hcarved := carved_fitted hs hf
    rw [hstate]
    constructor
    · intro _
      exact ⟨_, _, _, hcarved⟩
    · intro hfull
      rw [hnone.mpr hfull] at hf
      cases hf
  · rw [hstate]
    constructor
    · rintro ⟨s, hmem, hholds⟩
      have hlt := hnone.mp hf s hmem
      omega
    · intro _
      refine ⟨Alignment.padding_boundary aligned a.used, rfl, rfl, rfl, ?_⟩
      simp only [record, fresh, Block.stop]
      omega

/-- Every block that is issued lies where a best fit puts it: in the free span of least size that
holds it with its padding, of equals in the first one, of which the rest stays in place, and past
the mark only if there is no such span. -/
theorem issued_best_fit (h : a.Reachable) (k : Kernel) (n : Nat) :
    (∀ b, (a.alloc k n).result = .ok b →
      (a.alignment = .unaligned → a.BestFit false n b (a.alloc k n).state) ∧
      (a.alignment = .next ∨ a.alignment = .always → a.BestFit true n b (a.alloc k n).state)) ∧
    ∀ b, (a.allocAligned k n).result = .ok b → a.BestFit true n b (a.allocAligned k n).state := by
  have hs := h.sound
  constructor
  · intro b hb
    have hfit : a.BestFit a.alignment.aligns n b (a.alloc k n).state := by
      by_cases hn : n = 0
      · simp [alloc, hn, Reply.fail] at hb
      · simp only [alloc, if_neg hn] at hb ⊢
        exact (bestFit_of_place (hs.align _) (Nat.pos_of_ne_zero hn) hb).of_realign
    constructor
    · intro hm
      rw [hm] at hfit
      exact hfit
    · rintro (hm | hm) <;> rw [hm] at hfit <;> exact hfit
  · intro b hb
    by_cases hn : n = 0
    · simp [allocAligned, hn, Reply.fail] at hb
    · simp only [allocAligned, if_neg hn] at hb ⊢
      exact bestFit_of_place hs (Nat.pos_of_ne_zero hn) hb

/-- Three spans are free. The first is the smallest, but not with the padding that its start needs,
and the other two are equally large. -/
def tied : Arena :=
  blank.run (granted [.alloc 3, .alloc 13, .alloc 8, .alloc 13, .alloc 6, .alloc 12, .alloc 1,
    .free ⟨43, 12, 0, 5⟩, .free ⟨3, 13, 0, 1⟩, .free ⟨24, 13, 0, 3⟩])

theorem tied_best_fit :
    tied.freeList.spans = [⟨43, 12⟩, ⟨3, 13⟩, ⟨24, 13⟩] ∧
    tied.BestFit true 8 ⟨8, 8, 5, 7⟩ (tied.allocAligned ⟨1, true⟩ 8).state ∧
    (tied.direct .next).BestFit true 8 ⟨8, 8, 5, 7⟩
      ((tied.direct .next).alloc ⟨1, true⟩ 8).state ∧
    (tied.allocAligned ⟨1, true⟩ 8).state.freeList.spans = [⟨43, 12⟩, ⟨24, 13⟩] ∧
    tied.BestFit false 9 ⟨43, 9, 0, 7⟩ (tied.alloc ⟨1, true⟩ 9).state ∧
    (tied.alloc ⟨1, true⟩ 9).state.freeList.spans = [⟨52, 3⟩, ⟨3, 13⟩, ⟨24, 13⟩] ∧
    tied.Bumped false 14 ⟨56, 14, 0, 7⟩ (tied.alloc ⟨1, true⟩ 14).state := by
  have h : tied.Reachable := ⟨blank, _, created_blank, rfl⟩
  have hspans : tied.freeList.spans = [⟨43, 12⟩, ⟨3, 13⟩, ⟨24, 13⟩] := by decide
  have hfull : ∀ s ∈ tied.freeList.spans, s.size < demand false 14 s.offset := by
    rw [hspans]
    decide
  have hnext : (tied.direct .next).Reachable := h.step ⟨1, true⟩ (.direct .next)
  obtain ⟨-, haligned⟩ := issued_best_fit h ⟨1, true⟩ 8
  obtain ⟨hpending, -⟩ := issued_best_fit hnext ⟨1, true⟩ 8
  obtain ⟨hsmall, -⟩ := issued_best_fit h ⟨1, true⟩ 9
  obtain ⟨hlarge, -⟩ := issued_best_fit h ⟨1, true⟩ 14
  exact ⟨hspans, haligned _ rfl, (hpending _ rfl).2 (Or.inl rfl), by decide,
    (hsmall _ rfl).1 rfl, by decide, ((hlarge _ rfl).1 rfl).bumped hfull⟩

end ArenaAlloc.Arena
