import ArenaAlloc.Proofs.Arena.Denial

/-! What an operation asks for, as a length and an alignment, and the two places at which a request
is met. -/
namespace ArenaAlloc.Arena

/-- Length of the block that an operation asks for, and whether it is to be aligned: always by name,
and else whenever the state is not `unaligned`. -/
def Op.request? {β : Type} (m : Alignment) : Op β → Option (Nat × Bool)
  | .alloc n => some (n, m ≠ .unaligned)
  | .allocAligned n => some (n, true)
  | .allocValue l _ => some (l.size, m ≠ .unaligned)
  | _ => none

/-- A request for `n` bytes was met, by the free span that the search chose or past the mark. -/
inductive Supplies (k : Kernel) (a : Arena) (n : Nat) (aligned : Bool) : Block → Arena → Prop
  | carved {f : Fit} {c : Arena} :
      a.freeList.bestFit? n (Alignment.boundary aligned) = some f →
      c.freeList = a.freeList.carve f n → c.used = a.used →
      c.live = a.live.insert (a.fitted f n) →
      c.mapping.map Mapping.capacity = a.mapping.map Mapping.capacity →
      Supplies k a n aligned (a.fitted f n) c
  | laid {m : Mapping} {c : Arena} :
      a.freeList.bestFit? n (Alignment.boundary aligned) = none →
      a.Room k (a.need aligned n) m →
      c.freeList = a.freeList → c.used = a.used + a.need aligned n →
      c.live = a.live.insert (a.fresh n (Alignment.boundary aligned)) →
      c.mapping.map Mapping.capacity = some m.capacity →
      Supplies k a n aligned (a.fresh n (Alignment.boundary aligned)) c

variable {k : Kernel} {a a' c : Arena} {b : Block} {op : Op Block} {m : Alignment} {n : Nat}
  {aligned : Bool}

theorem capacity_eq_getD (a : Arena) : a.capacity = (a.mapping.map Mapping.capacity).getD 0 := by
  simp only [capacity]
  cases a.mapping <;> rfl

theorem capacity_congr (h : c.mapping.map Mapping.capacity = a.mapping.map Mapping.capacity) :
    c.capacity = a.capacity := by
  rw [capacity_eq_getD, h, ← capacity_eq_getD]

theorem capacity_of_map (h : a.mapping.map Mapping.capacity = some n) : a.capacity = n := by
  rw [capacity_eq_getD, h]
  rfl

theorem map_capacity_scrub (a : Arena) (b : Block) :
    (a.scrub b).map Mapping.capacity = a.mapping.map Mapping.capacity := by
  simp only [scrub]
  split
  · cases a.mapping <;> rfl
  · rfl

theorem write_eq_ok {start : Nat} {data : List UInt8} (h : a.write b start data = .ok a') :
    ∃ m, a' = { a with mapping := m } ∧
      m.map Mapping.capacity = a.mapping.map Mapping.capacity := by
  obtain ⟨m, hm, rfl⟩ := Mapping.map_eq_ok h
  obtain ⟨-, hmapping⟩ := storage_eq_ok_iff.mp hm
  refine ⟨_, rfl, ?_⟩
  rw [hmapping]
  rfl

theorem allocValue_eq_ok {l : Layout} {v : List Int} (h : (a.allocValue k l v).result = .ok b) :
    (a.alloc k l.size).result = .ok b ∧
      ∃ m, (a.allocValue k l v).state = { (a.alloc k l.size).state with mapping := m } ∧
        m.map Mapping.capacity = (a.alloc k l.size).state.mapping.map Mapping.capacity := by
  simp only [allocValue] at h ⊢
  cases halloc : (a.alloc k l.size).result with
  | error f =>
    simp only [halloc] at h
    contradiction
  | ok b' =>
    simp only [halloc] at h ⊢
    cases hwrite : (a.alloc k l.size).state.write b' 0 (l.encode v) with
    | error f =>
      simp only [hwrite] at h
      contradiction
    | ok a' =>
      simp only [hwrite] at h ⊢
      obtain ⟨m, rfl, hm⟩ := write_eq_ok hwrite
      exact ⟨h, m, rfl, hm⟩

theorem Room.realign {needed : Nat} {r : Mapping}
    (h : ({ a with alignment := m } : Arena).Room k needed r) : a.Room k needed r := by
  cases h with
  | spare hm hroom => exact .spare hm hroom
  | grown hm hfull hword hg => exact .grown hm hfull hword hg
  | recreated hm hfull hword hc => exact .recreated hm hfull hword hc

namespace Supplies

theorem realign (h : Supplies k { a with alignment := m } n aligned b c) :
    Supplies k a n aligned b c := by
  cases h with
  | carved hf hlist hused hlive hcapacity => exact .carved hf hlist hused hlive hcapacity
  | laid hf hroom hlist hused hlive hcapacity =>
    exact .laid hf hroom.realign hlist hused hlive hcapacity

theorem store {r : Option Mapping} (h : Supplies k a n aligned b c)
    (hr : r.map Mapping.capacity = c.mapping.map Mapping.capacity) :
    Supplies k a n aligned b { c with mapping := r } := by
  cases h with
  | carved hf hlist hused hlive hcapacity =>
    exact .carved hf hlist hused hlive (hr.trans hcapacity)
  | laid hf hroom hlist hused hlive hcapacity =>
    exact .laid hf hroom hlist hused hlive (hr.trans hcapacity)

/-- Padding is what brings the start of the extent to the boundary, wherever the extent lies. -/
theorem padding (h : Supplies k a n aligned b c) :
    b.len = n ∧ b.padding ≤ b.offset ∧
      b.padding = Alignment.gap aligned b.extent.offset := by
  rw [← Alignment.padding_boundary]
  cases h with
  | carved hf =>
    refine ⟨rfl, Nat.le_add_left _ _, ?_⟩
    rw [extent_fitted]
    exact (FreeList.suits_of_bestFit? hf).padding
  | laid hf =>
    refine ⟨rfl, Nat.le_add_left _ _, ?_⟩
    rw [extent_fresh]
    rfl

theorem blocks (h : Supplies k a n aligned b c) (hs : a.Sound) (hn : 0 < n) :
    c.live.blocks = b :: a.live.blocks := by
  cases h with
  | carved hf _ _ hlive =>
    rw [hlive]
    exact blocks_reuse hs hn (FreeList.suits_of_bestFit? hf)
  | laid _ _ _ _ hlive =>
    rw [hlive]
    exact blocks_extend hs n _

end Supplies

theorem extent_fresh_eq (a : Arena) (aligned : Bool) (n : Nat) :
    (a.fresh n (Alignment.boundary aligned)).extent = ⟨a.used, a.need aligned n⟩ := by
  rw [extent_fresh, padding_boundary_add, need]

theorem supplies_place (hn : 0 < n)
    (h : (a.place k n (Alignment.boundary aligned)).result = .ok b) :
    Supplies k a n aligned b (a.place k n (Alignment.boundary aligned)).state := by
  rcases place_eq_ok hn h with ⟨f, hf, rfl, hstate⟩ | ⟨hf, rfl, m, hroom, hstate⟩
  · rw [hstate]
    exact .carved hf rfl rfl rfl rfl
  · rw [extent_fresh_eq] at hroom
    rw [hstate]
    refine .laid hf hroom rfl ?_ rfl rfl
    rw [need, ← padding_boundary_add]
    exact Nat.add_assoc _ _ _

theorem supplies_alloc (h : (a.alloc k n).result = .ok b) :
    0 < n ∧ Supplies k a n (a.alignment ≠ .unaligned) b (a.alloc k n).state := by
  by_cases hn : n = 0
  · simp [alloc, hn, Reply.fail] at h
  · simp only [alloc, if_neg hn, Alignment.aligns_eq] at h ⊢
    have hpos := Nat.pos_of_ne_zero hn
    exact ⟨hpos, (supplies_place hpos h).realign⟩

theorem supplies_allocAligned (h : (a.allocAligned k n).result = .ok b) :
    0 < n ∧ Supplies k a n true b (a.allocAligned k n).state := by
  by_cases hn : n = 0
  · simp [allocAligned, hn, Reply.fail] at h
  · simp only [allocAligned, if_neg hn] at h ⊢
    have hpos := Nat.pos_of_ne_zero hn
    exact ⟨hpos, supplies_place hpos h⟩

theorem eq_ok_of_map {x : Reply Arena (Except Fault Block)}
    (h : (x.map (Except.map some)).result = .ok (some b)) : x.result = .ok b := by
  obtain ⟨b', hb', heq⟩ := Mapping.map_eq_ok h
  obtain rfl := Option.some.inj heq
  exact hb'

/-- Whatever operation a block comes from, it is one of the requested length and alignment. -/
theorem supplies_step (h : (a.step k op).result = .ok (some b)) :
    ∃ n aligned, op.request? a.alignment = some (n, aligned) ∧ 0 < n ∧
      Supplies k a n aligned b (a.step k op).state := by
  cases op with
  | alloc n =>
    obtain ⟨hn, hsup⟩ := supplies_alloc (eq_ok_of_map h)
    exact ⟨n, _, rfl, hn, hsup⟩
  | allocAligned n =>
    obtain ⟨hn, hsup⟩ := supplies_allocAligned (eq_ok_of_map h)
    exact ⟨n, _, rfl, hn, hsup⟩
  | allocValue l v =>
    obtain ⟨halloc, m, hstate, hm⟩ := allocValue_eq_ok (eq_ok_of_map h)
    obtain ⟨hn, hsup⟩ := supplies_alloc halloc
    refine ⟨l.size, _, rfl, hn, ?_⟩
    have hstored := hsup.store hm
    rw [← hstate] at hstored
    exact hstored
  | free c =>
    obtain ⟨-, -, hnone⟩ := Mapping.map_eq_ok h
    cases hnone
  | write c start data =>
    simp only [step] at h
    split at h <;> cases h
  | direct | reset | teardown => cases h

theorem supplies_of_request (hreq : op.request? a.alignment = some (n, aligned))
    (h : (a.step k op).result = .ok (some b)) : Supplies k a n aligned b (a.step k op).state := by
  obtain ⟨n', aligned', hreq', -, hsup⟩ := supplies_step h
  obtain ⟨rfl, rfl⟩ : n = n' ∧ aligned = aligned' := by simpa [hreq] using hreq'
  exact hsup

theorem place_eq_ok_of_fit {f : Fit} {align : Nat} (hf : a.freeList.bestFit? n align = some f) :
    (a.place k n align).result = .ok (a.fitted f n) := by
  simp only [place, hf]
  rfl

theorem place_eq_ok_of_room (hf : a.freeList.bestFit? n (Alignment.boundary aligned) = none)
    (hword : a.need aligned n < Word.limit) (hroom : a.need aligned n ≤ a.capacity - a.used) :
    (a.place k n (Alignment.boundary aligned)).result =
      .ok (a.fresh n (Alignment.boundary aligned)) := by
  have hmade : a.makeRoom k (a.need aligned n) = .ok (a, []) := if_pos hroom
  have hlt : ¬ Word.limit ≤ a.need aligned n := Nat.not_le_of_lt hword
  rw [need, ← padding_boundary_add] at hmade hlt
  simp only [place, hf, extend, if_neg hlt, hmade]
  rfl

theorem allocValue_of_alloc {l : Layout} (hs : a.Sound) (h : (a.alloc k l.size).result = .ok b)
    (v : List Int) : (a.allocValue k l v).result = .ok b := by
  obtain ⟨m, ⟨b', hr, ht⟩ | ⟨f, hr, -⟩⟩ := alloc_takes k a l.size
  · obtain rfl : b' = b := Except.ok.inj (hr.symm.trans h)
    obtain ⟨c, hvalue, -⟩ := allocValue_takes hs hr ht v
    rw [hvalue]
    exact hr
  · rw [hr] at h
    cases h

/-- A request is met wherever there is a place for it under each alignment state. -/
theorem step_eq_ok_of_place (hs : a.Sound) (hreq : op.request? a.alignment = some (n, aligned))
    (hn : 0 < n)
    (hp : ∀ m, ∃ b,
      (place k { a with alignment := m } n (Alignment.boundary aligned)).result = .ok b) :
    ∃ b, (a.step k op).result = .ok (some b) := by
  have halloc : ∀ {n}, 0 < n → (∀ m, ∃ b, (place k { a with alignment := m } n
      (Alignment.boundary (a.alignment ≠ .unaligned))).result = .ok b) →
      ∃ b, (a.alloc k n).result = .ok b := by
    intro n hn hp
    simp only [alloc, if_neg (Nat.ne_of_gt hn), Alignment.aligns_eq]
    exact hp _
  cases op with
  | alloc n' =>
    cases hreq
    obtain ⟨b, hb⟩ := halloc hn hp
    exact ⟨b, congrArg (Except.map some) hb⟩
  | allocAligned n' =>
    cases hreq
    obtain ⟨b, hb⟩ := hp a.alignment
    have haligned : (a.allocAligned k n).result = .ok b := by
      simp only [allocAligned, if_neg (Nat.ne_of_gt hn)]
      exact hb
    exact ⟨b, congrArg (Except.map some) haligned⟩
  | allocValue l v =>
    cases hreq
    obtain ⟨b, hb⟩ := halloc hn hp
    exact ⟨b, congrArg (Except.map some) (allocValue_of_alloc hs hb v)⟩
  | free | write | direct | reset | teardown => cases hreq

theorem result_of_issued (h : .issued b ∈ a.effects k op) :
    (a.step k op).result = .ok (some b) := by
  simp only [effects, Effect.told] at h
  split at h <;> simp_all

/-- Without a block for an answer, storage stays as large as it is, unless it is given back. -/
theorem map_capacity_step (hs : a.Sound) (hr : ∀ b, (a.step k op).result ≠ .ok (some b))
    (ht : op ≠ .teardown) :
    (a.step k op).state.mapping.map Mapping.capacity = a.mapping.map Mapping.capacity := by
  by_cases ho : op.allocates = true
  · obtain ⟨m, hreq⟩ := requests hs k ho
    cases hreq with
    | issued he =>
      have hmem : Effect.issued _ ∈ a.effects k op := he ▸ List.mem_cons_self
      exact (hr _ (result_of_issued hmem)).elim
    | failed _ hstate => rw [hstate]
  cases op with
  | alloc | allocAligned | allocValue => exact (ho rfl).elim
  | free b =>
    change (a.free b).state.mapping.map _ = _
    cases hv : a.verify b with
    | error f => rw [(free_of_verify_error hv).2]
    | ok =>
      rw [free_of_verify hv, release]
      split <;> exact map_capacity_scrub a b
  | write b start data =>
    simp only [step]
    cases hw : a.write b start data with
    | error f => rfl
    | ok c =>
      obtain ⟨m, rfl, hm⟩ := write_eq_ok hw
      exact hm
  | direct | reset => rfl
  | teardown => exact (ht rfl).elim

end ArenaAlloc.Arena
