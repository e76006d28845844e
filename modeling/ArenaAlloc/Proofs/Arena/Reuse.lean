import ArenaAlloc.Proofs.Arena.Liveness
import ArenaAlloc.Proofs.Arena.Request
import ArenaAlloc.Proofs.Guarded.Arena

/-! A block that is released and asked for again comes back to its place: at the mark, if the
release lowered it, and else in the free span that the release left behind all others. -/
namespace ArenaAlloc

/-- A span that comes last is found again for a request that fills it up and goes into no other, and
taking it leaves the list as it was. -/
theorem FreeList.carve_insert {l : FreeList} {s : Span} {f : Fit} {size align : Nat}
    (hl : (l.insert s).Sound) (hn : 0 < size) (hnone : l.bestFit? size align = none)
    (hexact : s.padding align + size = s.size)
    (hf : (l.insert s).bestFit? size align = some f) :
    f.span = s ∧ f.padding = s.padding align ∧ ((l.insert s).carve f size).spans = l.spans := by
  have hsuits := suits_of_bestFit? hf
  obtain ⟨hspans, hholds, -, -⟩ := bestFit?_least hl hf
  rw [spans_insert] at hspans
  rcases Arena.split_concat hspans with ⟨hbehind, hspan⟩ | ⟨rest, -, hold⟩
  · have hpadding := hsuits.padding
    rw [← hspan] at hpadding
    refine ⟨hspan.symm, hpadding, ?_⟩
    rw [hbehind] at hspans
    rw [spans_carve_exact hl.counted hsuits (by rw [hpadding, hexact, hspan]), hbehind,
      List.append_nil]
    exact (List.append_inj_left' hspans rfl).symm
  · have hlt := (bestFit?_eq_none_iff hn).mp hnone f.span (by simp [hold])
    simp only [Span.Holds] at hholds
    omega

namespace Arena

/-- The run issued the block for an operation that asked for this alignment. -/
def IssuedAs (a₀ : Arena) (ops : List (Kernel × Op Block)) (b : Block) (aligned : Bool) : Prop :=
  ∃ front k op back n, ops = front ++ (k, op) :: back ∧
    ((a₀.run front).step k op).result = .ok (some b) ∧
    op.request? (a₀.run front).alignment = some (n, aligned)

/-- What a release of the block leaves, whatever the alignment state. -/
structure Vacated (a : Arena) (b : Block) (c : Arena) : Prop where
  live : c.live = a.live.erase b.offset
  next : c.nextGeneration = a.nextGeneration
  storage : c.mapping.map Mapping.capacity = a.mapping.map Mapping.capacity
  place : b.stop = a.used ∧ c.used = b.extent.offset ∧ c.freeList = a.freeList ∨
    b.stop ≠ a.used ∧ c.used = a.used ∧ c.freeList = a.freeList.insert b.extent

/-- The block was issued again where it was, and nothing else is different. -/
structure Reissued (a : Arena) (b b' : Block) (c : Arena) : Prop where
  block : b' = { b with generation := a.nextGeneration }
  used : c.used = a.used
  capacity : c.capacity = a.capacity
  spans : c.freeList.spans = a.freeList.spans
  live : c.live.blocks = b' :: (a.live.erase b.offset).blocks
  extents : (c.live.blocks.map Block.extent).Perm (a.live.blocks.map Block.extent)

variable {k : Kernel} {a a₀ c d : Arena} {b b' : Block} {op : Op Block}
  {ops : List (Kernel × Op Block)} {aligned : Bool}

theorem IssuedAs.padding (h : IssuedAs a₀ ops b aligned) :
    b.padding = Alignment.gap aligned b.extent.offset := by
  obtain ⟨front, k, op, back, n, -, hb, hreq⟩ := h
  exact (supplies_of_request hreq hb).padding.2.2

theorem step_of_issued (h : .issued b ∈ a.history ops) :
    ∃ front k op back, ops = front ++ (k, op) :: back ∧
      ((a.run front).step k op).result = .ok (some b) := by
  induction ops generalizing a with
  | nil => cases h
  | cons o ops ih =>
    rw [history, List.mem_append] at h
    rcases h with h | h
    · exact ⟨[], o.1, o.2, ops, rfl, result_of_issued h⟩
    · obtain ⟨front, k, op, back, rfl, hb⟩ := ih h
      exact ⟨o :: front, k, op, back, rfl, hb⟩

theorem issuedAs_of_live (hc : a₀.Created) (hb : b ∈ (a₀.run ops).live.blocks) :
    ∃ aligned, IssuedAs a₀ ops b aligned := by
  obtain ⟨pre, post, hes, -⟩ := (mem_live_iff_alive hc ops).mp hb
  have hissued : .issued b ∈ a₀.history ops := by simp [hes]
  obtain ⟨front, k, op, back, hops, hresult⟩ := step_of_issued hissued
  obtain ⟨n, aligned, hreq, -, -⟩ := supplies_step hresult
  exact ⟨aligned, front, k, op, back, n, hops, hresult, hreq⟩

theorem vacated_free (hs : a.Sound) (hb : b ∈ a.live.blocks) : a.Vacated b (a.free b).state := by
  rw [free_of_verify (hs.verify_iff.mpr hb), release]
  split
  · rename_i hu
    exact ⟨rfl, rfl, map_capacity_scrub a b, Or.inl ⟨hu, rfl, rfl⟩⟩
  · rename_i hu
    exact ⟨rfl, rfl, map_capacity_scrub a b, Or.inr ⟨hu, rfl, rfl⟩⟩

theorem Vacated.realign (h : a.Vacated b c) (m : Alignment) :
    a.Vacated b { c with alignment := m } :=
  ⟨h.live, h.next, h.storage, h.place⟩

theorem foldl_direct (a : Arena) (ds : List Directive) :
    ds.foldl direct a = { a with alignment := ds.foldl Alignment.after a.alignment } := by
  induction ds generalizing a with
  | nil => rfl
  | cons d ds ih => exact ih (a.direct d)

theorem Vacated.directed (h : a.Vacated b c) (ds : List Directive) :
    a.Vacated b (ds.foldl direct c) := by
  rw [foldl_direct]
  exact h.realign _

namespace Vacated

/-- At the lowered mark the request needs just the bytes that were given up. -/
theorem need_eq (hp : b.padding = Alignment.gap aligned b.extent.offset)
    (hu : c.used = b.extent.offset) :
    c.need aligned b.len = b.extent.size := by
  rw [need, demand, hu, ← hp]
  rfl

theorem room (h : a.Vacated b c) (hs : a.Sound) (hb : b ∈ a.live.blocks)
    (hu : c.used = b.extent.offset) : b.extent.size ≤ c.capacity - c.used := by
  have hstop : b.extent.stop ≤ a.used := hs.tiled.stop_le (Sound.extent_mem hb)
  have hroom := hs.room
  have hcapacity := capacity_congr h.storage
  simp only [Span.stop] at hstop
  omega

theorem bestFit?_ne_none (hpos : 0 < b.len)
    (hp : b.padding = Alignment.gap aligned b.extent.offset)
    (hlist : c.freeList = a.freeList.insert b.extent) :
    c.freeList.bestFit? b.len (Alignment.boundary aligned) ≠ none := by
  intro hnone
  rw [bestFit?_eq_none_iff_full hpos, Full, hlist, FreeList.spans_insert] at hnone
  have hlt := hnone b.extent (List.mem_append_right _ (List.mem_singleton_self _))
  rw [demand, ← hp] at hlt
  simp only [Block.extent] at hlt
  omega

theorem can_place (h : a.Vacated b c) (hs : a.Sound) (hbound : a.Bounded)
    (hb : b ∈ a.live.blocks)
    (hp : b.padding = Alignment.gap aligned b.extent.offset)
    (hfull : a.Full aligned b.len) :
    ∃ b', (c.place k b.len (Alignment.boundary aligned)).result = .ok b' := by
  have hpos := (hs.payload b hb).1
  rcases h.place with ⟨-, hu, hlist⟩ | ⟨-, hu, hlist⟩
  · have hnone : c.freeList.bestFit? b.len (Alignment.boundary aligned) = none := by
      rw [hlist]
      exact (bestFit?_eq_none_iff_full hpos).mpr hfull
    have hneed := need_eq hp hu
    have hroom := h.room hs hb hu
    have hlimit := hbound.capacity_lt
    have hcapacity := capacity_congr h.storage
    refine ⟨_, place_eq_ok_of_room hnone ?_ ?_⟩
    · rw [hneed]
      simp only [mappingLimit, Word.limit] at hlimit ⊢
      omega
    · rw [hneed]
      exact hroom
  · obtain ⟨f, hf⟩ := Option.ne_none_iff_exists'.mp (bestFit?_ne_none hpos hp hlist)
    exact ⟨_, place_eq_ok_of_fit hf⟩

/-- The two ways in which a release makes room are the two ways in which a request takes it up. -/
theorem reissued (h : a.Vacated b c) (hs : a.Sound) (hs' : c.Sound) (hb : b ∈ a.live.blocks)
    (hp : b.padding = Alignment.gap aligned b.extent.offset) (hfull : a.Full aligned b.len)
    (hsup : Supplies k c b.len aligned b' d) : a.Reissued b b' d := by
  obtain ⟨hpos, hle⟩ := hs.payload b hb
  have hoffset : b.extent.offset + b.padding = b.offset := Nat.sub_add_cancel hle
  have hblocks := hsup.blocks hs' hpos
  have hcapacity := capacity_congr h.storage
  have hnone := (bestFit?_eq_none_iff_full hpos).mpr hfull
  have hstart : b.padding = b.extent.padding (Alignment.boundary aligned) :=
    hp.trans (Alignment.padding_boundary aligned _).symm
  rw [h.live] at hblocks
  have hparts : b' = { b with generation := a.nextGeneration } ∧ d.used = a.used ∧
      d.capacity = a.capacity ∧ d.freeList.spans = a.freeList.spans := by
    cases hsup with
    | @carved f _ hf hlist hused _ hstorage =>
      rcases h.place with ⟨-, -, hsame⟩ | ⟨-, hu, hinsert⟩
      · rw [hsame, hnone] at hf
        cases hf
      · have hexact : b.extent.padding (Alignment.boundary aligned) + b.len = b.extent.size := by
          rw [← hstart]
          rfl
        have hl := hs'.freeList
        rw [hinsert] at hl hf hlist
        obtain ⟨hspan, hpadding, hspans⟩ := FreeList.carve_insert hl hpos hnone hexact hf
        refine ⟨?_, hused.trans hu, ?_, ?_⟩
        · simp only [fitted, Fit.start, hspan, hpadding, h.next, ← hstart, hoffset]
        · rw [capacity_congr hstorage, hcapacity]
        · rw [hlist, hspans]
    | @laid m _ hf hroom hlist hused _ hstorage =>
      rcases h.place with ⟨hu, hmark, hsame⟩ | ⟨-, -, hinsert⟩
      · have hneed := need_eq hp hmark
        have hfits := h.room hs hb hmark
        have hstop := Block.stop_extent hle
        refine ⟨?_, ?_, ?_, ?_⟩
        · rw [Span.padding] at hstart
          simp only [fresh, hmark, h.next, ← hstart, hoffset]
        · rw [hused, hneed, hmark, ← hu, ← hstop]
          rfl
        · -- There is room already, so that storage does not grow.
          cases hroom with
          | spare hm =>
            rw [capacity_of_map hstorage, ← hcapacity, capacity_of_mapped hm]
          | grown _ hshort | recreated _ hshort => omega
        · rw [hlist, hsame]
      · exact (bestFit?_ne_none hpos hp hinsert hf).elim
  obtain ⟨hblock, hused, hsize, hspans⟩ := hparts
  refine ⟨hblock, hused, hsize, hspans, hblocks, ?_⟩
  have hextent : b'.extent = b.extent := by rw [hblock]; rfl
  rw [hblocks, List.map_cons, hextent]
  exact ((hs.keyed.perm_erase hb).map Block.extent).symm

end Vacated

/-- If no free span holds a request like the one that a live block was issued for, then releasing
the block and making that request again, with any directives in between, gives back the block at its
place. All that is different is its generation. -/
theorem released_place_reissued (hc : a₀.Created) (ops : List (Kernel × Op Block))
    (hb : b ∈ (a₀.run ops).live.blocks) :
    (∃ aligned, IssuedAs a₀ ops b aligned) ∧
    ∀ aligned, IssuedAs a₀ ops b aligned → (a₀.run ops).Full aligned b.len →
      ((a₀.run ops).free b).result = .ok () ∧
      ∀ (ds : List Directive) (k : Kernel) (op : Op Block),
        op.request? (ds.foldl direct ((a₀.run ops).free b).state).alignment =
          some (b.len, aligned) →
        ∃ b', ((ds.foldl direct ((a₀.run ops).free b).state).step k op).result = .ok (some b') ∧
          (a₀.run ops).Reissued b b'
            ((ds.foldl direct ((a₀.run ops).free b).state).step k op).state := by
  have hs := sound_run hc.sound ops
  have hbound : (a₀.run ops).Bounded := Reachable.bounded ⟨a₀, ops, hc, rfl⟩
  refine ⟨issuedAs_of_live hc hb, ?_⟩
  intro aligned hissued hfull
  refine ⟨(accepts_of_mem hs hb).free, ?_⟩
  intro ds k op hreq
  have hpadding := hissued.padding
  have hvacated := (vacated_free hs hb).directed ds
  have hsound : (ds.foldl direct ((a₀.run ops).free b).state).Sound := by
    rw [foldl_direct]
    exact (sound_step hs k (.free b)).align _
  obtain ⟨b', hb'⟩ := step_eq_ok_of_place hsound hreq (hs.payload b hb).1
    fun m => (hvacated.realign m).can_place hs hbound hb hpadding hfull
  have hsup := supplies_of_request hreq hb'
  exact ⟨b', hb', hvacated.reissued hs hsound hb hpadding hfull hsup⟩

/-- A free span of three bytes, a block with padding in front of it, and a block at the mark. -/
def perforatedRun : List (Kernel × Op Block) :=
  granted [.alloc 3, .allocAligned 8, .alloc 4, .free ⟨0, 3, 0, 0⟩]

def perforated : Arena := blank.run perforatedRun

theorem perforated_reissued :
    perforated.Reissued ⟨8, 8, 5, 1⟩ ⟨8, 8, 5, 3⟩
      (((perforated.free ⟨8, 8, 5, 1⟩).state.direct .next).step ⟨0, false⟩ (.alloc 8)).state ∧
    perforated.Reissued ⟨16, 4, 0, 2⟩ ⟨16, 4, 0, 3⟩
      ((perforated.free ⟨16, 4, 0, 2⟩).state.step ⟨0, false⟩ (.alloc 4)).state := by
  have hmiddle : IssuedAs blank perforatedRun ⟨8, 8, 5, 1⟩ true :=
    ⟨granted [.alloc 3], ⟨1, true⟩, .allocAligned 8, granted [.alloc 4, .free ⟨0, 3, 0, 0⟩], 8,
      rfl, rfl, rfl⟩
  have hlast : IssuedAs blank perforatedRun ⟨16, 4, 0, 2⟩ false :=
    ⟨granted [.alloc 3, .allocAligned 8], ⟨1, true⟩, .alloc 4, granted [.free ⟨0, 3, 0, 0⟩], 4,
      rfl, rfl, rfl⟩
  have hfull : ∀ s ∈ (blank.run perforatedRun).freeList.spans, s = ⟨0, 3⟩ := by decide
  obtain ⟨-, haligned⟩ :=
    released_place_reissued created_blank perforatedRun (b := ⟨8, 8, 5, 1⟩) (by decide)
  obtain ⟨-, hbumped⟩ :=
    released_place_reissued created_blank perforatedRun (b := ⟨16, 4, 0, 2⟩) (by decide)
  obtain ⟨-, hfirst⟩ := haligned true hmiddle fun s hs => by rw [hfull s hs]; decide
  obtain ⟨-, hsecond⟩ := hbumped false hlast fun s hs => by rw [hfull s hs]; decide
  obtain ⟨b, hb, hagain⟩ := hfirst [.next] ⟨0, false⟩ (.alloc 8) rfl
  obtain ⟨c, hc, hback⟩ := hsecond [] ⟨0, false⟩ (.alloc 4) rfl
  cases hb
  cases hc
  exact ⟨hagain, hback⟩

end Arena

end ArenaAlloc
