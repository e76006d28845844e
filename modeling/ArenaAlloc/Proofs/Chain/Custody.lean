import ArenaAlloc.Proofs.Chain.Loans
import ArenaAlloc.Proofs.Encoding

/-! What the holders of blocks can rely on while nothing is given back: segments that are no longer
current stay as full as they are, and no block moves. -/
namespace ArenaAlloc.Chain

/-- Where a block was handed out. -/
def Loan.home (l : Loan) : Spot × Nat := (l.toSpot, l.address)

variable {k : Kernel} {c : Chain} {p : Placement} {l : Layout} {v : List Int} {i : Nat}

theorem splice_all {bytes data : List UInt8} (h : data.length = bytes.length) :
    splice bytes 0 data = data := by
  refine List.ext_getElem? fun i => ?_
  simp only [splice, List.getElem?_mapIdx, Nat.zero_le, if_true, Nat.sub_zero]
  by_cases hi : i < data.length
  · rw [List.getElem?_eq_getElem hi, List.getElem?_eq_getElem (h ▸ hi)]
    rfl
  · rw [List.getElem?_eq_none (by omega), List.getElem?_eq_none (by omega)]
    rfl

theorem length_read {g : Segment} (h : c.segments[p.segment]? = some g) :
    (c.read p).length = p.len := by
  simp only [read, h]
  exact Bytes.length_read _ _ _

/-- A block that was asked for with a value reads as that value. -/
theorem read_allocValue (hv : v.length = l.count)
    (h : (c.step k (.allocValue l v)).result = .ok (some p)) :
    (c.step k (.allocValue l v)).state.read p = l.encode v := by
  rcases allocAt_issues k c l.size (inPage_alignment l) with
    ⟨q, hq, -, hi⟩ | ⟨f, m, hf⟩
  · have hvalue : c.allocValue k l v = { c.allocAt k l.size l.alignment with
        state := (c.allocAt k l.size l.alignment).state.write q 0 (l.encode v) } := by
      simp only [allocValue, hq]
    obtain rfl : q = p := by simpa [step, hvalue, Reply.map, hq, Except.map] using h
    obtain ⟨hlen, -, g, hg, -⟩ := hi.spot
    simp only [step, hvalue, Reply.map]
    rw [read_write_self, splice_all]
    rw [length_read hg, hlen, Layout.length_encode hv]
  · simp [step, allocValue, hf, Reply.map, Reply.fail, Except.map] at h

namespace Ledger

variable {s s' : Ledger} {op : Op Nat} {ops : List (Kernel × Op Nat)}

theorem usedAt_moves (hm : Moves k s op s') (hr : op.releases = false)
    (hi : i ≠ s'.chain.current) : s'.chain.usedAt i = s.chain.usedAt i := by
  cases hm with
  | stayed => rfl
  | issued _ _ hissue => exact (usedAt_write _ _ _ _ _).trans (hissue.frozen hi)
  | wrote => exact usedAt_write _ _ _ _ _
  | reset ho | vacant ho _ | tornDown ho _ =>
    subst ho
    contradiction

theorem current_le_moves (h : s.Sound) (hm : Moves k s op s') (hr : op.releases = false) :
    s.chain.current ≤ s'.chain.current := by
  cases hm with
  | stayed | wrote => exact Nat.le_refl _
  | issued _ _ hissue => exact (hissue.last h.laid.last).2.2
  | reset ho | vacant ho _ | tornDown ho _ =>
    subst ho
    contradiction

theorem homes_moves (hm : Moves k s op s') (hr : op.releases = false) :
    s.held.map Loan.home <+: s'.held.map Loan.home := by
  cases hm with
  | stayed => exact List.prefix_refl _
  | issued =>
    rw [List.map_append]
    exact List.prefix_append _ _
  | @wrote i start data _ _ _ =>
    have hhomes : (s.held.modify i (·.store start data)).map Loan.home = s.held.map Loan.home :=
      map_modify (f := Loan.home) (u := (·.store start data)) (fun _ => rfl) _ _
    exact hhomes ▸ List.prefix_refl _
  | reset ho | vacant ho _ | tornDown ho _ =>
    subst ho
    contradiction

/-- The current segment never comes before those that were current earlier. -/
theorem kept_run (h : s.Sound) (hr : ∀ o ∈ ops, o.2.releases = false) :
    s.held.map Loan.home <+: (s.run ops).held.map Loan.home ∧
      ∀ i < s.chain.current, (s.run ops).chain.usedAt i = s.chain.usedAt i := by
  induction ops generalizing s with
  | nil => exact ⟨List.prefix_refl _, fun _ _ => rfl⟩
  | cons o ops ih =>
    have hm := step_moves o.1 s o.2
    have ho := hr o List.mem_cons_self
    have hcurrent := current_le_moves h hm ho
    obtain ⟨hhomes, hused⟩ :=
      ih (sound_moves h hm) fun o' ho' => hr o' (List.mem_cons_of_mem _ ho')
    refine ⟨(homes_moves hm ho).trans hhomes, fun i hi => ?_⟩
    exact (hused i (by omega)).trans (usedAt_moves hm ho (by omega))

/-- A new block starts at the first address past the mark that has the alignment asked for. -/
theorem padding_moves {l : Loan} {align : Nat} (hm : Moves k s op s')
    (ha : op.align? s.chain.alignment = some align) (hl : s'.held = s.held ++ [l]) :
    align ∣ l.address ∧ l.padding < align ∧
      IsLeast {p | align ∣ s.chain.usedAt l.place.segment + p} l.padding := by
  cases hm with
  | @issued p size align' m c data events ha' hn hi =>
    obtain rfl : align' = align := Option.some.inj (ha'.symm.trans ha)
    obtain rfl : lend s.chain (c.write p 0 data) p = l := by simpa using hl
    have hpage := inPage_align? ha
    have haddress := hi.aligned hpage
    have hpadding : (lend s.chain (c.write p 0 data) p).padding =
        Word.padding (s.chain.usedAt p.segment) align' := hi.padding hpage
    rw [hpadding]
    obtain ⟨j, -, rfl⟩ := hpage
    refine ⟨?_, Word.padding_lt _ j, Word.isLeast_padding _ j⟩
    rw [lend, address_write]
    exact haddress
  | stayed | vacant | reset | tornDown =>
    have hlen := congrArg List.length hl
    simp at hlen
  | wrote =>
    have hlen := congrArg List.length hl
    simp at hlen

theorem releases_of_allocates (h : op.allocates = true) : op.releases = false := by
  cases op with
  | alloc | allocValue => rfl
  | write | direct | reset | teardown => contradiction

/-- Blocks on loan lie apart below the marks of their segments and never move. Each holds what its
holder wrote last, the figures count them all, and only the current segment ever fills up. A new one
starts as soon after the mark as the alignment of its request allows. -/
theorem reachable_loans (h : s.Reachable) :
    s.chain.current = s.chain.segments.length - 1 ∧
    (∀ k op i, op.allocates = true → i ≠ (s.step k op).chain.current →
      (s.step k op).chain.usedAt i = s.chain.usedAt i) ∧
    (∀ ops, (∀ o ∈ ops, o.2.releases = false) →
      s.held.map Loan.home <+: (s.run ops).held.map Loan.home ∧
      ∀ i < s.chain.current, (s.run ops).chain.usedAt i = s.chain.usedAt i) ∧
    s.spots.Pairwise Spot.Apart ∧
    (∀ k op align l, op.align? s.chain.alignment = some align →
      (s.step k op).held = s.held ++ [l] →
      align ∣ l.address ∧ l.padding < align ∧
        IsLeast {p | align ∣ s.chain.usedAt l.place.segment + p} l.padding) ∧
    (∀ g ∈ s.chain.segments, g.used ≤ g.capacity) ∧
    (∀ l ∈ s.held, l.toSpot.Within s.chain ∧ l.Faithful s.chain) ∧
    (∀ k l v p, v.length = l.count → (s.chain.step k (.allocValue l v)).result = .ok (some p) →
      (s.chain.step k (.allocValue l v)).state.read p = l.encode v) ∧
    s.chain.used = Word.total (s.spots.map Spot.size) ∧
    s.chain.usage.liveBlocks = s.held.length := by
  have hs := h.sound
  refine ⟨hs.laid.last, ?_, fun ops hr => kept_run hs hr, hs.laid.apart, ?_, hs.laid.room, ?_, ?_,
    hs.laid.sum, ?_⟩
  · intro k op i ho hi
    exact usedAt_moves (step_moves k s op) (releases_of_allocates ho) hi
  · intro k op align l ha hl
    exact padding_moves (step_moves k s op) ha hl
  · intro l hl
    exact ⟨hs.held_within hl, hs.faithful l hl⟩
  · intro k l v p hv hp
    exact read_allocValue hv hp
  · exact hs.laid.count.trans (List.length_map _)

/-- Blocks before, in and after a segment that a large one has to itself, and a write to one. -/
def shared : Ledger :=
  run { chain := blank }
    (granted [.alloc 3, .direct .next, .alloc 8, .write 0 1 [7], .alloc 5000, .alloc 100])

theorem shared_loans :
    shared.Reachable ∧ shared.chain.current = 2 ∧ shared.chain.used = 5116 ∧
    shared.chain.usage.liveBlocks = 4 ∧
    shared.spots = [⟨⟨0, 0, 3⟩, 0⟩, ⟨⟨0, 8, 8⟩, 5⟩, ⟨⟨1, 0, 5000⟩, 0⟩, ⟨⟨2, 0, 100⟩, 0⟩] ∧
    shared.chain.read ⟨0, 0, 3⟩ = [0, 7, 0] ∧
    ∃ l, (shared.step ⟨1, true⟩ (.allocValue (.scalar false .w64) [1])).held = shared.held ++ [l] ∧
      l.toSpot = ⟨⟨2, 104, 8⟩, 4⟩ ∧ 8 ∣ l.address ∧ IsLeast {p | 8 ∣ 100 + p} l.padding := by
  have h : shared.Reachable := ⟨blank, _, created_blank, rfl⟩
  obtain ⟨hcurrent, -, -, -, hplaced, -, hheld, -, hused, hcount⟩ := reachable_loans h
  have hfirst : shared.held[0]?.map (fun l => (l.place, l.content)) =
      some (⟨0, 0, 3⟩, [0, 7, 0]) := by decide
  obtain ⟨l, hl, hloan⟩ := Option.map_eq_some_iff.mp hfirst
  obtain ⟨hplace, hcontent⟩ := Prod.mk.inj hloan
  have hread := (hheld l (List.mem_of_getElem? hl)).2.2
  rw [hplace, hcontent] at hread
  obtain ⟨haddress, -, hleast⟩ :=
    hplaced ⟨1, true⟩ (.allocValue (.scalar false .w64) [1]) 8 _ rfl rfl
  exact ⟨h, hcurrent, hused, hcount, rfl, hread, _, rfl, rfl, haddress, hleast⟩

end Ledger

end ArenaAlloc.Chain
