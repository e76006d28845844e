import ArenaAlloc.Proofs.Arena.Request

/-! Blocks that are released in the reverse order of their issue. They pile up at the mark, so that
each release lowers it, nothing goes to the free list, and no byte stays behind. -/
namespace ArenaAlloc

/-- The first block of a table without its offset, which no other block has. -/
theorem LiveTable.Keyed.blocks_erase_cons {t : LiveTable} {b : Block} {bs : List Block}
    (h : t.Keyed) (hb : t.blocks = b :: bs) : (t.erase b.offset).blocks = bs := by
  rw [Keyed, hb, List.pairwise_cons] at h
  have hkept : bs.filter (fun c => c.offset != b.offset) = bs := by
    apply List.filter_eq_self.mpr
    intro c hc
    exact bne_iff_ne.mpr (h.1 c hc).symm
  simp [erase, hb, hkept]

namespace Arena

/-- A run of requests that are met and of releases, each of the youngest block that the run still
holds, with directives anywhere. It ends with the blocks `held`, the youngest first. -/
inductive Bracketed (a : Arena) : List (Kernel × Op Block) → List Block → Prop
  | nil : Bracketed a [] []
  | request {ops : List (Kernel × Op Block)} {held : List Block} {k : Kernel} {op : Op Block}
      {b : Block} : Bracketed a ops held → ((a.run ops).step k op).result = .ok (some b) →
      Bracketed a (ops ++ [(k, op)]) (b :: held)
  | free {ops : List (Kernel × Op Block)} {held : List Block} {k : Kernel} {b : Block} :
      Bracketed a ops (b :: held) → Bracketed a (ops ++ [(k, .free b)]) held
  | direct {ops : List (Kernel × Op Block)} {held : List Block} {k : Kernel} {d : Directive} :
      Bracketed a ops held → Bracketed a (ops ++ [(k, .direct d)]) held

/-- Each block ends where the one before it in the list starts, the first one at `top` and the last
one starts at `base`. -/
def Stacked (base : Nat) : List Block → Nat → Prop
  | [], top => top = base
  | b :: held, top => b.extent.stop = top ∧ Stacked base held b.extent.offset

/-- All that `c` has and `a` has not is a pile of blocks at the mark. -/
structure Piled (a c : Arena) (held : List Block) : Prop where
  freeList : c.freeList = a.freeList
  live : c.live.blocks = held ++ a.live.blocks
  mark : Stacked a.used held c.used

variable {k : Kernel} {a c : Arena} {b : Block} {op : Op Block} {held : List Block}
  {ops pre post : List (Kernel × Op Block)} {base top : Nat}

theorem Stacked.top_eq (h : Stacked base held top) :
    top = base + Word.total (held.map fun b => b.padding + b.len) := by
  induction held generalizing top with
  | nil => exact h
  | cons b held ih =>
    obtain ⟨hstop, hrest⟩ := h
    have hbelow := ih hrest
    simp only [Block.extent, Span.stop] at hstop hbelow
    simp only [Word.total, List.map_cons, List.sum_cons] at hbelow ⊢
    omega

namespace Piled

theorem refl (a : Arena) : Piled a a [] := ⟨rfl, rfl, rfl⟩

/-- Without free spans the block is laid at the mark, on top of the pile. -/
theorem request (h : Piled a c held) (hs : c.Sound) (he : a.freeList.spans = [])
    (hb : (c.step k op).result = .ok (some b)) : Piled a (c.step k op).state (b :: held) := by
  obtain ⟨n, aligned, -, hn, hsup⟩ := supplies_step hb
  have hblocks := hsup.blocks hs hn
  generalize (c.step k op).state = d at hsup hblocks ⊢
  cases hsup with
  | carved hf =>
    have hnone : c.freeList.bestFit? n (Alignment.boundary aligned) = none := by
      rw [FreeList.bestFit?_eq_none_iff hn, h.freeList, he]
      exact fun s hs => absurd hs List.not_mem_nil
    rw [hnone] at hf
    cases hf
  | laid _ _ hlist hused _ =>
    refine ⟨hlist.trans h.freeList, ?_, ?_, ?_⟩
    · rw [hblocks, h.live]
      rfl
    · rw [extent_fresh_eq, hused]
      rfl
    · rw [extent_fresh_eq]
      exact h.mark

theorem mem_live (h : Piled a c (b :: held)) : b ∈ c.live.blocks := by
  rw [h.live]
  exact List.mem_cons_self

theorem stop_eq (h : Piled a c (b :: held)) (hs : c.Sound) : b.stop = c.used := by
  rw [← Block.stop_extent (hs.payload b h.mem_live).2]
  exact h.mark.1

/-- The block on top of the pile ends at the mark, and its release lowers the mark. -/
theorem free_eq (h : Piled a c (b :: held)) (hs : c.Sound) :
    c.free b =
      { state := { c with
          live := c.live.erase b.offset, mapping := c.scrub b, used := b.extent.offset }
        result := .ok ()
        events := [.retracted b.extent.offset b.extent.size b.extent.offset] } := by
  rw [free_of_verify (hs.verify_iff.mpr h.mem_live), release]
  exact if_pos (h.stop_eq hs)

theorem free (h : Piled a c (b :: held)) (hs : c.Sound) :
    Piled a (c.step k (.free b)).state held := by
  change Piled a (c.free b).state held
  rw [h.free_eq hs]
  exact ⟨h.freeList, hs.keyed.blocks_erase_cons h.live, h.mark.2⟩

end Piled

theorem piled_of_bracketed (hs : a.Sound) (he : a.freeList.spans = [])
    (h : Bracketed a ops held) : Piled a (a.run ops) held := by
  induction h with
  | nil => exact .refl a
  | @request ops held k op b _ hb ih =>
    rw [run_append]
    exact ih.request (sound_run hs ops) he hb
  | @free ops held k b _ ih =>
    rw [run_append]
    exact ih.free (sound_run hs ops)
  | direct _ ih =>
    rw [run_append]
    exact ⟨ih.freeList, ih.live, ih.mark⟩

theorem not_issued_of_free {c : Block} : (a.step k (.free b)).result ≠ .ok (some c) := by
  intro h
  obtain ⟨_, _, hreq, -⟩ := supplies_step h
  cases hreq

/-- The last operation of a run, and what was held before it. -/
theorem Bracketed.last (h : Bracketed a (ops ++ [(k, op)]) held) :
    (∃ b rest, held = b :: rest ∧ Bracketed a ops rest ∧
      ((a.run ops).step k op).result = .ok (some b)) ∨
    (∃ b, op = .free b ∧ Bracketed a ops (b :: held)) ∨
    ∃ d, op = .direct d ∧ Bracketed a ops held := by
  generalize hops : ops ++ [(k, op)] = all at h
  cases h with
  | nil => simp at hops
  | @request _ rest _ _ b hb hr =>
    obtain ⟨rfl, ho⟩ := List.append_inj' hops rfl
    cases ho
    exact Or.inl ⟨b, rest, rfl, hb, hr⟩
  | @free _ _ _ b hb =>
    obtain ⟨rfl, ho⟩ := List.append_inj' hops rfl
    cases ho
    exact Or.inr (Or.inl ⟨b, rfl, hb⟩)
  | @direct _ _ _ d hb =>
    obtain ⟨rfl, ho⟩ := List.append_inj' hops rfl
    cases ho
    exact Or.inr (Or.inr ⟨d, rfl, hb⟩)

theorem Bracketed.front (h : Bracketed a (pre ++ post) held) : ∃ held', Bracketed a pre held' := by
  induction post using List.reverseRecOn generalizing held with
  | nil => exact ⟨held, by simpa using h⟩
  | append_singleton post o ih =>
    rw [← List.append_assoc] at h
    rcases h.last with ⟨_, _, -, hb, -⟩ | ⟨_, -, hb⟩ | ⟨_, -, hb⟩ <;> exact ih hb

theorem Bracketed.held_of_free (h : Bracketed a (ops ++ [(k, .free b)]) held) :
    Bracketed a ops (b :: held) := by
  rcases h.last with ⟨_, _, -, -, hr⟩ | ⟨b', ho, hb⟩ | ⟨_, ho, -⟩
  · exact (not_issued_of_free hr).elim
  · obtain rfl := Op.free.inj ho
    exact hb
  · cases ho

/-- From an arena without free spans on, blocks that are released in the reverse order of their
issue leave no free span at any time. Every release lowers the mark, which tells what is still held,
and when nothing is, the mark and the table are what they were. -/
theorem brackets_restore (h : a.Reachable) (he : a.freeList.spans = [])
    (hb : Bracketed a ops held) :
    (∀ pre post, ops = pre ++ post → (a.run pre).freeList.spans = [] ∧
      ∃ held', Bracketed a pre held' ∧
        (a.run pre).used = a.used + Word.total (held'.map fun b => b.padding + b.len)) ∧
    (∀ pre k b post, ops = pre ++ (k, .free b) :: post →
      ((a.run pre).free b).result = .ok () ∧
      ((a.run pre).free b).events =
        [.retracted b.extent.offset b.extent.size b.extent.offset] ∧
      b.stop = (a.run pre).used ∧ ((a.run pre).free b).state.used = b.extent.offset) ∧
    (a.run ops).used = a.used + Word.total (held.map fun b => b.padding + b.len) ∧
    (held = [] → (a.run ops).used = a.used ∧ (a.run ops).live = a.live) := by
  have hs := h.sound
  have hpiled := piled_of_bracketed hs he hb
  refine ⟨?_, ?_, hpiled.mark.top_eq, ?_⟩
  · rintro pre post rfl
    obtain ⟨held', hfront⟩ := hb.front
    have hpre := piled_of_bracketed hs he hfront
    refine ⟨?_, held', hfront, hpre.mark.top_eq⟩
    rw [hpre.freeList]
    exact he
  · rintro pre k b post rfl
    rw [List.append_cons] at hb
    obtain ⟨held', hfront⟩ := hb.front
    have hpre := piled_of_bracketed hs he hfront.held_of_free
    have hsound := sound_run hs pre
    rw [hpre.free_eq hsound]
    exact ⟨rfl, rfl, hpre.stop_eq hsound, rfl⟩
  · rintro rfl
    exact ⟨hpiled.mark, congrArg LiveTable.mk hpiled.live⟩

/-- Three bytes are in use, which is where a pile starts. -/
def footed : Arena := blank.run (granted [.alloc 3])

/-- Two blocks, of which the second one needs padding and the storage to grow, and after the release
of that one a third, also with padding. -/
def nested : List (Kernel × Op Block) :=
  granted [.alloc 2, .direct .next, .alloc 5000, .free ⟨8, 5000, 3, 2⟩, .allocAligned 9,
    .free ⟨8, 9, 3, 3⟩, .free ⟨3, 2, 0, 1⟩]

theorem nested_restored :
    (footed.run nested).used = 3 ∧ (footed.run nested).live = footed.live ∧
    (∀ pre post, nested = pre ++ post → (footed.run pre).freeList.spans = []) ∧
    ((footed.run (granted [.alloc 2, .direct .next, .alloc 5000])).free ⟨8, 5000, 3, 2⟩).events =
      [.retracted 5 5003 5] := by
  have h : footed.Reachable := ⟨blank, _, created_blank, rfl⟩
  have hfirst : Bracketed footed (granted [.alloc 2]) [⟨3, 2, 0, 1⟩] := .request .nil rfl
  have hpending : Bracketed footed (granted [.alloc 2, .direct .next]) [⟨3, 2, 0, 1⟩] :=
    .direct hfirst
  have hgrown : Bracketed footed (granted [.alloc 2, .direct .next, .alloc 5000])
      [⟨8, 5000, 3, 2⟩, ⟨3, 2, 0, 1⟩] := .request hpending rfl
  have hpadded : Bracketed footed (granted [.alloc 2, .direct .next, .alloc 5000,
      .free ⟨8, 5000, 3, 2⟩, .allocAligned 9]) [⟨8, 9, 3, 3⟩, ⟨3, 2, 0, 1⟩] :=
    .request (.free hgrown) rfl
  have hempty : Bracketed footed nested [] := .free (.free hpadded)
  obtain ⟨hpre, hfree, -, hrestored⟩ := brackets_restore h rfl hempty
  obtain ⟨hused, hlive⟩ := hrestored rfl
  obtain ⟨-, hevents, -⟩ :=
    hfree (granted [.alloc 2, .direct .next, .alloc 5000]) ⟨1, true⟩ ⟨8, 5000, 3, 2⟩
      (granted [.allocAligned 9, .free ⟨8, 9, 3, 3⟩, .free ⟨3, 2, 0, 1⟩]) rfl
  refine ⟨hused, hlive, ?_, hevents⟩
  intro pre post hsplit
  exact (hpre pre post hsplit).1

end Arena

end ArenaAlloc
