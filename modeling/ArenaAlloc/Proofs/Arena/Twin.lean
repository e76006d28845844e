import ArenaAlloc.Proofs.Arena.Request

/-! Two arenas with one layout, where the first issued `d` blocks more than the second. They
answer alike up to generations: where storage lies, how much of it there is and what it holds
has no say. -/
namespace ArenaAlloc

namespace Block

/-- The block as it would be if `d` more issues had come before it. -/
def later (d : UInt64) (b : Block) : Block := { b with generation := b.generation + d }

/-- With `d` more issues before it the generation is still a word. -/
def Early (d : UInt64) (b : Block) : Prop := b.generation.toNat + d.toNat < Word.limit

variable {d : UInt64} {b c : Block}

theorem later_inj : b.later d = c.later d ↔ b = c := by
  obtain ⟨o, n, p, g⟩ := b
  obtain ⟨o', n', p', g'⟩ := c
  simp [later]

theorem toNat_later (h : b.Early d) :
    (b.later d).generation.toNat = b.generation.toNat + d.toNat := by
  simp only [later, UInt64.toNat_add]
  exact Nat.mod_eq_of_lt h

/-- Without a wrap the later blocks are in the order of the earlier ones. -/
theorem later_lt_iff (hb : b.Early d) (hc : c.Early d) :
    (b.later d).generation < (c.later d).generation ↔ b.generation < c.generation := by
  rw [UInt64.lt_iff_toNat_lt, UInt64.lt_iff_toNat_lt, toNat_later hb, toNat_later hc]
  omega

end Block

namespace LiveTable

def later (d : UInt64) (t : LiveTable) : LiveTable := ⟨t.blocks.map (Block.later d)⟩

variable {d : UInt64} {b : Block}

theorem find?_later (t : LiveTable) (o : Nat) :
    (t.later d).find? o = (t.find? o).map (Block.later d) :=
  List.find?_map

theorem erase_later (t : LiveTable) (o : Nat) : (t.later d).erase o = (t.erase o).later d :=
  congrArg LiveTable.mk List.filter_map

theorem insert_later (t : LiveTable) (b : Block) :
    (t.later d).insert (b.later d) = (t.insert b).later d := by
  rw [insert, erase_later]
  rfl

theorem size_later (t : LiveTable) : (t.later d).size = t.size := List.length_map _

end LiveTable

namespace Arena

def Op.later (d : UInt64) : Op Block → Op Block
  | .free b => .free (b.later d)
  | .write b start data => .write (b.later d) start data
  | op => op

/-- The first arena issued `d` blocks more, and all else that has a say in placing is equal. -/
structure Twin (d : UInt64) (a c : Arena) : Prop where
  used : a.used = c.used
  spans : a.freeList.spans = c.freeList.spans
  live : a.live = c.live.later d
  alignment : a.alignment = c.alignment
  next : a.nextGeneration = c.nextGeneration + d

/-- Two answers to a request for a block. Both yield one, at the same place. -/
def Grants (d : UInt64) (x y : Reply Arena (Except Fault Block)) : Prop :=
  ∃ b, x.result = .ok (b.later d) ∧ y.result = .ok b ∧ Twin d x.state y.state

/-- Two answers to an operation that differ in generations only. -/
structure Agrees (d : UInt64) (x y : Reply Arena (Except Fault (Option Block))) : Prop where
  result : x.result = y.result.map (Option.map (Block.later d))
  state : Twin d x.state y.state

variable {k k' : Kernel} {a c a' c' : Arena} {b : Block} {op : Op Block} {d : UInt64}
  {size align n : Nat}

theorem Grants.agrees {x y : Reply Arena (Except Fault Block)} (h : Grants d x y) :
    Agrees d (x.map (Except.map some)) (y.map (Except.map some)) := by
  obtain ⟨b, hx, hy, htwin⟩ := h
  refine ⟨?_, htwin⟩
  simp only [Reply.map, hx, hy]
  rfl

theorem ok_of_map {x : Reply Arena (Except Fault Block)}
    (h : ∃ b, (x.map (Except.map some)).result = .ok (some b)) : ∃ b, x.result = .ok b := by
  obtain ⟨b, hb⟩ := h
  exact ⟨b, eq_ok_of_map hb⟩

namespace Twin

theorem realign (h : Twin d a c) {m m' : Alignment} (hm : m = m') :
    Twin d { a with alignment := m } { c with alignment := m' } :=
  ⟨h.used, h.spans, h.live, hm, h.next⟩

theorem store (h : Twin d a c) (m m' : Option Mapping) :
    Twin d { a with mapping := m } { c with mapping := m' } :=
  ⟨h.used, h.spans, h.live, h.alignment, h.next⟩

theorem record (h : Twin d a c) (b : Block) : Twin d (a.record (b.later d)) (c.record b) where
  used := h.used
  spans := h.spans
  live := by
    simp only [Arena.record, h.live]
    exact LiveTable.insert_later _ _
  alignment := h.alignment
  next := by
    simp only [Arena.record, h.next]
    ac_rfl

/-- The spans are the same, so both searches find the same one or none at all. -/
theorem grants_place (h : Twin d a c) (hs : a.Sound) (hs' : c.Sound) (hn : 0 < size)
    (ha : ∃ b, (a.place k size align).result = .ok b)
    (hc : ∃ b, (c.place k' size align).result = .ok b) :
    Grants d (a.place k size align) (c.place k' size align) := by
  obtain ⟨b, hb⟩ := ha
  obtain ⟨b', hb'⟩ := hc
  have hnone : a.freeList.bestFit? size align = none ↔ c.freeList.bestFit? size align = none := by
    rw [FreeList.tightest_of_no_fit hs.freeList, FreeList.tightest_of_no_fit hs'.freeList, h.spans]
  obtain ⟨f, hf, rfl, hstate⟩ | ⟨hf, rfl, m, -, hstate⟩ := place_eq_ok hn hb
  · obtain ⟨g, hg, rfl, hstate'⟩ | ⟨hg, -⟩ := place_eq_ok hn hb'
    · obtain ⟨hspan, hpadding, hcarve⟩ :=
        FreeList.carve_of_spans_eq hs.freeList hs'.freeList h.spans hf hg
      have hfitted : a.fitted f size = (c.fitted g size).later d := by
        simp only [fitted, Fit.start, Block.later, hspan, hpadding, h.next]
      have hcarved : Twin d { a with freeList := a.freeList.carve f size }
          { c with freeList := c.freeList.carve g size } :=
        ⟨h.used, hcarve, h.live, h.alignment, h.next⟩
      refine ⟨c.fitted g size, hfitted ▸ hb, hb', ?_⟩
      rw [hstate, hstate', hfitted]
      exact hcarved.record _
    · rw [hnone.mpr hg] at hf
      contradiction
  · obtain ⟨g, hg, -⟩ | ⟨hg, rfl, m', -, hstate'⟩ := place_eq_ok hn hb'
    · rw [hnone.mp hf] at hg
      contradiction
    · have hfresh : a.fresh size align = (c.fresh size align).later d := by
        simp only [fresh, Block.later, h.used, h.next]
      have hraised : Twin d { a with mapping := some m, used := (c.fresh size align).stop }
          { c with mapping := some m', used := (c.fresh size align).stop } :=
        ⟨rfl, h.spans, h.live, h.alignment, h.next⟩
      refine ⟨c.fresh size align, hfresh ▸ hb, hb', ?_⟩
      rw [hstate, hstate', hfresh]
      exact hraised.record _

theorem grants_alloc (h : Twin d a c) (hs : a.Sound) (hs' : c.Sound)
    (ha : ∃ b, (a.alloc k n).result = .ok b) (hc : ∃ b, (c.alloc k' n).result = .ok b) :
    Grants d (a.alloc k n) (c.alloc k' n) := by
  simp only [alloc] at ha hc ⊢
  by_cases hn : n = 0
  · simp [hn, Reply.fail] at ha
  · rw [if_neg hn] at ha hc ⊢
    rw [if_neg hn]
    rw [h.alignment] at ha ⊢
    exact (h.realign rfl).grants_place (hs.align _) (hs'.align _) (Nat.pos_of_ne_zero hn) ha hc

theorem grants_allocAligned (h : Twin d a c) (hs : a.Sound) (hs' : c.Sound)
    (ha : ∃ b, (a.allocAligned k n).result = .ok b)
    (hc : ∃ b, (c.allocAligned k' n).result = .ok b) :
    Grants d (a.allocAligned k n) (c.allocAligned k' n) := by
  simp only [allocAligned] at ha hc ⊢
  by_cases hn : n = 0
  · simp [hn, Reply.fail] at ha
  · rw [if_neg hn] at ha hc ⊢
    rw [if_neg hn]
    exact h.grants_place hs hs' (Nat.pos_of_ne_zero hn) ha hc

theorem grants_allocValue {l : Layout} {v : List Int} (h : Twin d a c) (hs : a.Sound)
    (hs' : c.Sound) (ha : ∃ b, (a.allocValue k l v).result = .ok b)
    (hc : ∃ b, (c.allocValue k' l v).result = .ok b) :
    Grants d (a.allocValue k l v) (c.allocValue k' l v) := by
  obtain ⟨b, hb⟩ := ha
  obtain ⟨b', hb'⟩ := hc
  obtain ⟨halloc, m, hstate, -⟩ := allocValue_eq_ok hb
  obtain ⟨halloc', m', hstate', -⟩ := allocValue_eq_ok hb'
  obtain ⟨e, he, he', htwin⟩ := h.grants_alloc hs hs' ⟨b, halloc⟩ ⟨b', halloc'⟩
  obtain rfl : b = e.later d := Except.ok.inj (halloc.symm.trans he)
  obtain rfl : b' = e := Except.ok.inj (halloc'.symm.trans he')
  refine ⟨b', hb, hb', ?_⟩
  rw [hstate, hstate']
  exact htwin.store m m'

theorem find?_later (h : Twin d a c) (b : Block) :
    a.live.find? (b.later d).offset = (c.live.find? b.offset).map (Block.later d) := by
  rw [h.live]
  exact LiveTable.find?_later _ _

theorem verify_later (h : Twin d a c) (b : Block) : a.verify (b.later d) = c.verify b := by
  simp only [verify, h.find?_later]
  cases c.live.find? b.offset with
  | none => rfl
  | some l =>
    have hgeneration : (l.later d).generation ≠ (b.later d).generation ↔
        l.generation ≠ b.generation := not_congr (UInt64.add_left_inj d)
    simp only [Option.map_some, hgeneration, Block.later_inj]
    rfl

/-- What counts for a double free are the spans, which are the same, and which of two generations is
the younger one, which stays so as long as none of them wraps. -/
theorem wasReleased_later (h : Twin d a c) (hb : b.Early d)
    (hlive : ∀ l ∈ c.live.blocks, l.Early d) : a.wasReleased (b.later d) = c.wasReleased b := by
  have hcovers : a.freeList.covers b.offset = c.freeList.covers b.offset := by
    simp only [FreeList.covers, h.spans]
  simp only [wasReleased, h.find?_later, h.used]
  rw [show (b.later d).offset = b.offset from rfl, hcovers]
  congr 1
  cases hl : c.live.find? b.offset with
  | none => rfl
  | some l =>
    have hearly := hlive l (LiveTable.mem_of_find? hl).1
    simp only [Option.map_some, Option.any_some, Block.later_lt_iff hb hearly]

theorem twin_release (h : Twin d a c) (b : Block) :
    Twin d (a.release (b.later d)).state (c.release b).state := by
  have hlive : a.live.erase (b.later d).offset = (c.live.erase b.offset).later d := by
    rw [h.live]
    exact LiveTable.erase_later _ _
  have hstop : (b.later d).stop = a.used ↔ b.stop = c.used := by
    rw [h.used]
    rfl
  simp only [release, hstop]
  split
  · exact ⟨rfl, h.spans, hlive, h.alignment, h.next⟩
  · refine ⟨h.used, ?_, hlive, h.alignment, h.next⟩
    rw [FreeList.spans_insert, FreeList.spans_insert, h.spans]
    rfl

theorem agrees_free (h : Twin d a c) (hb : b.Early d) (hlive : ∀ l ∈ c.live.blocks, l.Early d) :
    Agrees d (a.step k (.free (b.later d))) (c.step k' (.free b)) := by
  simp only [step]
  cases hv : c.verify b with
  | error f =>
    have hv' : a.verify (b.later d) = .error f := (h.verify_later b).trans hv
    have hrefusal : a.refusal (b.later d) f = c.refusal b f := by
      cases f <;> simp only [refusal, h.wasReleased_later hb hlive]
    obtain ⟨hr, ha⟩ := free_of_verify_error hv'
    obtain ⟨hr', hc⟩ := free_of_verify_error hv
    simp only [Reply.map, hr, ha, hr', hc, hrefusal]
    exact ⟨rfl, h⟩
  | ok =>
    have hv' : a.verify (b.later d) = .ok () := (h.verify_later b).trans hv
    rw [free_of_verify hv', free_of_verify hv]
    refine ⟨?_, h.twin_release b⟩
    simp only [Reply.map, release_result]
    rfl

theorem agrees_write {start : Nat} {data : List UInt8} (h : Twin d a c) (hs : a.Sound)
    (hs' : c.Sound) :
    Agrees d (a.step k (.write (b.later d) start data)) (c.step k' (.write b start data)) := by
  have hverify := h.verify_later b
  cases hv : c.verify b with
  | error f =>
    rw [hv] at hverify
    simp only [step, write, storage_of_verify_error hv, storage_of_verify_error hverify]
    exact ⟨rfl, h⟩
  | ok =>
    rw [hv] at hverify
    obtain ⟨a', ha, -⟩ := write_takes hs (hs.verify_iff.mp hverify) k start data
    obtain ⟨c', hc, -⟩ := write_takes hs' (hs'.verify_iff.mp hv) k' start data
    simp only [step, ha, hc]
    obtain ⟨m, rfl, -⟩ := write_eq_ok ha
    obtain ⟨m', rfl, -⟩ := write_eq_ok hc
    exact ⟨rfl, h.store m m'⟩

/-- One operation, teardown excepted: what that one does depends on whether there is storage. -/
theorem agrees_step (h : Twin d a c) (hs : a.Sound) (hs' : c.Sound) (ht : op ≠ .teardown)
    (hb : ∀ b, op = .free b → b.Early d) (hlive : ∀ l ∈ c.live.blocks, l.Early d)
    (ha : op.allocates = true → ∃ b, (a.step k (op.later d)).result = .ok (some b))
    (hc : op.allocates = true → ∃ b, (c.step k' op).result = .ok (some b)) :
    Agrees d (a.step k (op.later d)) (c.step k' op) := by
  cases op with
  | alloc n => exact (h.grants_alloc hs hs' (ok_of_map (ha rfl)) (ok_of_map (hc rfl))).agrees
  | allocAligned n =>
    exact (h.grants_allocAligned hs hs' (ok_of_map (ha rfl)) (ok_of_map (hc rfl))).agrees
  | allocValue l v =>
    exact (h.grants_allocValue hs hs' (ok_of_map (ha rfl)) (ok_of_map (hc rfl))).agrees
  | free b => exact h.agrees_free (hb b rfl) hlive
  | write b start data => exact h.agrees_write hs hs'
  | direct d' => exact ⟨rfl, h.realign (congrArg (·.after d') h.alignment)⟩
  | reset => exact ⟨rfl, rfl, rfl, rfl, h.alignment, h.next⟩
  | teardown => contradiction

end Twin

end Arena

end ArenaAlloc
