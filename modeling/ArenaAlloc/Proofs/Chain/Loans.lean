import ArenaAlloc.Proofs.Chain.Ledger

/-! The books and the chain agree: blocks on loan lie apart in their segments, stay where they are,
and hold what their holders wrote. -/
namespace ArenaAlloc.Chain

/-- The block lies below the mark of its segment. -/
def Spot.Within (s : Spot) (c : Chain) : Prop :=
  0 < s.place.len ∧ s.padding ≤ s.place.offset ∧
    ∃ g, c.segments[s.place.segment]? = some g ∧ s.extent.stop ≤ g.used

/-- The figures of a chain, as they follow from the blocks that lie in it. -/
structure Laid (c : Chain) (spots : List Spot) : Prop where
  last : c.current = c.segments.length - 1
  room : ∀ g ∈ c.segments, g.used ≤ g.capacity
  within : ∀ s ∈ spots, s.Within c
  apart : spots.Pairwise Spot.Apart
  sum : c.used = Word.total (spots.map Spot.size)
  count : c.allocations = spots.length

/-- The block is where it was handed out, and holds what it should. -/
def Loan.Faithful (l : Loan) (c : Chain) : Prop :=
  c.address l.place = l.address ∧ c.read l.place = l.content

/-- Right after its creation. -/
def Created (c : Chain) : Prop := ∃ k s events, create k s = .ok (c, events)

variable {k : Kernel} {c c' : Chain} {p q : Placement} {s t : Spot} {spots : List Spot} {l : Loan}
  {g : Segment} {size align start i j : Nat} {data : List UInt8} {events : List Event}

theorem Created.eq (h : c.Created) :
    ∃ k m s, Mapping.create k s.segment = .ok m ∧ 0 < s.segment ∧
      c = { segments := [{ mapping := m }], settings := s } := by
  obtain ⟨k, s, events, h⟩ := h
  obtain ⟨u, hv, h⟩ := Mapping.bind_eq_ok h
  obtain ⟨g, hg, h⟩ := Mapping.bind_eq_ok h
  obtain ⟨m, hm, rfl⟩ := Mapping.map_eq_ok hg
  cases h
  refine ⟨k, m, s, hm, Nat.pos_of_ne_zero fun hz => ?_, rfl⟩
  simp [Settings.validate, hz] at hv

/-- A new chain under the default settings. -/
def blank : Chain where
  segments := [{ mapping := { page := 32, capacity := defaultCapacity, mapped := defaultCapacity } }]
  settings := {}

theorem created_blank : blank.Created :=
  ⟨⟨32, true⟩, {}, [.chainCreated defaultCapacity], rfl⟩

/-- Operations on a system that grants what it can, far from what it granted before. -/
def granted (ops : List (Op Nat)) : List (Kernel × Op Nat) :=
  ops.mapIdx fun i o => (⟨32 * (i + 2), true⟩, o)

theorem Spot.Apart.symm (h : s.Apart t) : t.Apart s := h.imp Ne.symm Span.Apart.symm

theorem Laid.apart_of_ne (h : Laid c spots) (hs : spots[i]? = some s) (ht : spots[j]? = some t)
    (hne : i ≠ j) : s.Apart t := by
  obtain ⟨hi, rfl⟩ := List.getElem?_eq_some_iff.mp hs
  obtain ⟨hj, rfl⟩ := List.getElem?_eq_some_iff.mp ht
  have hall := List.pairwise_iff_getElem.mp h.apart
  rcases Nat.lt_or_gt_of_ne hne with hlt | hgt
  · exact hall i j hi hj hlt
  · exact (hall j i hj hi hgt).symm

theorem map_modify {α β : Type} {f : α → β} {u : α → α} (h : ∀ a, f (u a) = f a) (xs : List α)
    (i : Nat) : (xs.modify i u).map f = xs.map f := by
  refine List.ext_getElem? fun j => ?_
  simp only [List.getElem?_map, List.getElem?_modify]
  cases xs[j]? with
  | none => rfl
  | some a =>
    simp only [Option.map_eq_map, Option.map_some]
    split
    · rw [h]
    · rfl

theorem usedAt_eq (h : c.segments[i]? = some g) : c.usedAt i = g.used := by
  simp only [usedAt, h, Option.map_some, Option.getD_some]

theorem usedAt_length (c : Chain) : c.usedAt c.segments.length = 0 := by
  simp only [usedAt, List.getElem?_eq_none (Nat.le_refl _), Option.map_none, Option.getD_none]

/-- Segments stay, with what is mapped for them, and their marks do not come down. -/
theorem Issues.keeps (h : Issues k c size align p c' events) (hg : c.segments[i]? = some g) :
    ∃ g', c'.segments[i]? = some g' ∧ g'.mapping = g.mapping ∧ g.used ≤ g'.used := by
  cases h with
  | @bumped s _ hs _ =>
    rw [List.getElem?_set]
    split
    · rename_i hi
      subst hi
      obtain rfl : s = g := Option.some.inj (hs.symm.trans hg)
      rw [if_pos (List.getElem?_eq_some_iff.mp hg).1]
      exact ⟨_, rfl, rfl, Nat.le_add_right _ _⟩
    · exact ⟨g, hg, rfl, Nat.le_refl _⟩
  | started =>
    rw [List.getElem?_append_left (List.getElem?_eq_some_iff.mp hg).1]
    exact ⟨g, hg, rfl, Nat.le_refl _⟩

/-- The new block, with its padding, takes up the bytes from the mark of its segment to the next. -/
theorem Issues.spot (h : Issues k c size align p c' events) :
    p.len = size ∧ c.usedAt p.segment ≤ p.offset ∧
      ∃ g, c'.segments[p.segment]? = some g ∧ g.used = p.offset + size ∧
        c'.used = c.used + (p.offset - c.usedAt p.segment + size) := by
  cases h with
  | @bumped s _ hs _ =>
    have hsum := Word.total_map_set hs Segment.used
      { s with used := s.used + (s.padding align + size) }
    have hmark := usedAt_eq hs
    refine ⟨rfl, ?_, _, List.getElem?_set_self (List.getElem?_eq_some_iff.mp hs).1, ?_, ?_⟩
    · rw [hmark]
      exact Nat.le_add_right _ _
    · exact (Nat.add_assoc _ _ _).symm
    · simp only [used, hmark]
      dsimp only at hsum
      omega
  | started =>
    have hmark := usedAt_length c
    refine ⟨rfl, Nat.le_of_eq hmark, _, List.getElem?_concat_length, (Nat.zero_add _).symm, ?_⟩
    simp only [used, Word.total, List.map_append, List.sum_append_nat, List.map_cons,
      List.map_nil, List.sum_cons, List.sum_nil, hmark]
    omega

theorem Issues.aligned (h : Issues k c size align p c' events) (ha : InPage align) :
    align ∣ c'.address p := by
  have hbase := ha.dvd_base
  obtain ⟨j, -, rfl⟩ := ha
  cases h with
  | @bumped g _ hg _ =>
    have haddress : g.mapping.base + (g.used + g.padding (2 ^ j)) =
        Word.roundUp (g.mapping.base + g.used) (2 ^ j) := by
      rw [← Nat.add_assoc]
      exact Word.add_padding _ _
    have hnew := List.getElem?_set_self (List.getElem?_eq_some_iff.mp hg).1
      (a := { g with used := g.used + (g.padding (2 ^ j) + size) })
    simp only [address, hnew, haddress]
    exact Word.dvd_roundUp _ _
  | @started m =>
    simp only [address, List.getElem?_concat_length, Nat.add_zero]
    exact hbase m

theorem Issues.padding (h : Issues k c size align p c' events) (ha : InPage align) :
    p.offset - c.usedAt p.segment = Word.padding (c.usedAt p.segment) align := by
  cases h with
  | @bumped g _ hg _ =>
    rw [usedAt_eq hg, padding_eq g ha]
    exact Nat.add_sub_cancel_left _ _
  | started =>
    obtain ⟨j, -, rfl⟩ := ha
    rw [usedAt_length, Word.padding_eq_zero (Nat.dvd_zero _)]
    rfl

theorem Issues.allocations (h : Issues k c size align p c' events) :
    c'.allocations = c.allocations + 1 := by
  cases h <;> rfl

theorem Issues.settings (h : Issues k c size align p c' events) : c'.settings = c.settings := by
  cases h <;> rfl

/-- The block comes from the last segment, and that is the current one. -/
theorem Issues.last (h : Issues k c size align p c' events)
    (hl : c.current = c.segments.length - 1) :
    c'.current = c'.segments.length - 1 ∧ p.segment = c'.current ∧ c.current ≤ c'.current := by
  cases h with
  | bumped =>
    rw [List.length_set]
    exact ⟨hl, rfl, Nat.le_refl _⟩
  | started =>
    rw [List.length_append, List.length_singleton]
    exact ⟨rfl, rfl, by dsimp only; omega⟩

theorem Issues.room (h : Issues k c size align p c' events)
    (hr : ∀ g ∈ c.segments, g.used ≤ g.capacity) : ∀ g ∈ c'.segments, g.used ≤ g.capacity := by
  intro g hg
  cases h with
  | @bumped s _ hs hroom =>
    rcases List.mem_or_eq_of_mem_set hg with hg | rfl
    · exact hr g hg
    · have hle := hr s (List.mem_of_getElem? hs)
      simp only [Segment.capacity] at hle hroom ⊢
      omega
  | @started m _ hm =>
    rcases List.mem_append.mp hg with hg | hg
    · exact hr g hg
    · obtain rfl := List.mem_singleton.mp hg
      obtain ⟨n, -, -, rfl⟩ := Mapping.create_eq_ok hm
      exact Nat.le_max_left _ _

/-- Segments other than the one that is current afterwards are left alone. -/
theorem Issues.frozen (h : Issues k c size align p c' events) (hi : i ≠ c'.current) :
    c'.usedAt i = c.usedAt i := by
  cases h with
  | bumped =>
    simp only [usedAt]
    rw [List.getElem?_set_ne hi.symm]
  | @started m =>
    simp only [usedAt]
    rcases Nat.lt_or_gt_of_ne hi with hlt | hgt
    · rw [List.getElem?_append_left hlt]
    · have hout : (c.segments ++ [Segment.mk m size]).length ≤ i := by
        rw [List.length_append]
        exact hgt
      rw [List.getElem?_eq_none hout, List.getElem?_eq_none (Nat.le_of_lt hgt)]

theorem Spot.Within.mono (h : s.Within c)
    (hk : ∀ g, c.segments[s.place.segment]? = some g →
      ∃ g', c'.segments[s.place.segment]? = some g' ∧ g.used ≤ g'.used) : s.Within c' := by
  obtain ⟨hlen, hpadding, g, hg, hstop⟩ := h
  obtain ⟨g', hg', hused⟩ := hk g hg
  exact ⟨hlen, hpadding, g', hg', Nat.le_trans hstop hused⟩

theorem Laid.realign (h : Laid c spots) (m : Alignment) : Laid { c with alignment := m } spots :=
  ⟨h.last, h.room, h.within, h.apart, h.sum, h.count⟩

/-- Blocks lie in segments. -/
theorem Laid.eq_nil (h : Laid c spots) (hc : c.segments = []) : spots = [] := by
  refine List.eq_nil_iff_forall_not_mem.mpr fun s hs => ?_
  obtain ⟨-, -, g, hg, -⟩ := h.within s hs
  simp [hc] at hg

theorem laid_issues (h : Laid c spots) (hn : 0 < size)
    (hi : Issues k c size align p c' events) :
    Laid c' (spots ++ [⟨p, p.offset - c.usedAt p.segment⟩]) := by
  obtain ⟨hlen, hmark, g, hg, hused, hsum⟩ := hi.spot
  refine ⟨(hi.last h.last).1, hi.room h.room, ?_, ?_, ?_, ?_⟩
  · intro s hs
    rcases List.mem_append.mp hs with hs | hs
    · refine (h.within s hs).mono fun g hg => ?_
      obtain ⟨g', hg', -, hle⟩ := hi.keeps hg
      exact ⟨g', hg', hle⟩
    · obtain rfl := List.mem_singleton.mp hs
      refine ⟨hlen ▸ hn, Nat.sub_le _ _, g, hg, ?_⟩
      simp only [Spot.extent, Spot.size, Span.stop, hlen]
      omega
  · -- Old blocks end at the old mark, and there the new one starts.
    refine List.pairwise_append.mpr ⟨h.apart, List.pairwise_singleton _ _, fun s hs t ht => ?_⟩
    obtain rfl := List.mem_singleton.mp ht
    obtain ⟨-, -, g₀, hg₀, hstop⟩ := h.within s hs
    by_cases hsegment : s.place.segment = p.segment
    · refine Or.inr (Or.inl ?_)
      rw [hsegment] at hg₀
      have hold := usedAt_eq hg₀
      simp only [Spot.extent] at hstop ⊢
      omega
    · exact Or.inl hsegment
  · rw [List.map_append, List.map_singleton, Word.total, List.sum_append_nat, List.sum_singleton,
      ← Word.total, ← h.sum, hsum, Spot.size, hlen]
  · rw [hi.allocations, h.count, List.length_append, List.length_singleton]

theorem segment_write (c : Chain) (p : Placement) (start : Nat) (data : List UInt8) (i : Nat) :
    (c.write p start data).segments[i]? = c.segments[i]?.map fun g =>
      if p.segment = i then
        { g with mapping := g.mapping.write (p.offset + start) (data.take (p.len - start)) }
      else g := by
  simp only [write, List.getElem?_modify, Option.map_eq_map]

/-- A write changes nothing of a segment but its bytes. -/
theorem map_write {α : Type} {f : Segment → α}
    (hf : ∀ g bytes, f { g with mapping := { g.mapping with bytes } } = f g) (c : Chain)
    (p : Placement) (start : Nat) (data : List UInt8) :
    (c.write p start data).segments.map f = c.segments.map f := by
  simp only [write]
  rw [map_modify]
  exact fun g => hf g _

theorem forall_write {P : Segment → Prop}
    (hP : ∀ g bytes, P { g with mapping := { g.mapping with bytes } } ↔ P g) (c : Chain)
    (p : Placement) (start : Nat) (data : List UInt8) :
    (∀ g ∈ (c.write p start data).segments, P g) ↔ ∀ g ∈ c.segments, P g := by
  have hmap := map_write (fun g bytes => propext (hP g bytes)) c p start data
  have hall : ∀ segments : List Segment, (∀ g ∈ segments, P g) ↔ ∀ q ∈ segments.map P, q :=
    fun _ => (List.forall_mem_map (f := P) (P := fun q => q)).symm
  rw [hall, hall, hmap]

theorem usedAt_write (c : Chain) (p : Placement) (start : Nat) (data : List UInt8) (i : Nat) :
    (c.write p start data).usedAt i = c.usedAt i := by
  simp only [usedAt, ← List.getElem?_map]
  rw [map_write fun _ _ => rfl]

theorem laid_write (h : Laid c spots) (p : Placement) (start : Nat) (data : List UInt8) :
    Laid (c.write p start data) spots where
  last := by
    simp only [write, List.length_modify]
    exact h.last
  room := (forall_write (fun _ _ => Iff.rfl) c p start data).mpr h.room
  within s hs := by
    refine (h.within s hs).mono fun g hg => ?_
    rw [segment_write, hg]
    refine ⟨_, rfl, ?_⟩
    split <;> exact Nat.le_refl _
  apart := h.apart
  sum := (congrArg Word.total (map_write (fun _ _ => rfl) c p start data)).trans h.sum
  count := h.count

theorem laid_reset (c : Chain) : Laid c.reset.state [] where
  last := by
    simp only [reset, List.length_map, List.length_take]
    omega
  room g hg := by
    obtain ⟨g₀, -, rfl⟩ := List.mem_map.mp hg
    exact Nat.zero_le _
  within := by simp
  apart := .nil
  sum := by
    simp only [reset, used]
    cases c.segments <;> rfl
  count := rfl

theorem address_write (c : Chain) (p q : Placement) (start : Nat) (data : List UInt8) :
    (c.write p start data).address q = c.address q := by
  simp only [address, segment_write]
  cases c.segments[q.segment]? with
  | none => rfl
  | some g =>
    simp only [Option.map_some]
    split <;> rfl

/-- The block reads as before with the data laid over it. -/
theorem read_write_self (c : Chain) (p : Placement) (start : Nat) (data : List UInt8) :
    (c.write p start data).read p = splice (c.read p) start data := by
  simp only [read, segment_write]
  cases c.segments[p.segment]? with
  | none => rfl
  | some g =>
    simp only [Option.map_some, if_true, Mapping.read, Bytes.read, splice]
    refine List.ext_getElem? fun i => ?_
    simp only [List.getElem?_mapIdx, List.getElem?_map]
    by_cases hi : i < p.len
    · simp only [List.getElem?_range' hi, Option.map_some, Nat.one_mul,
        Mapping.get_write_within g.mapping p.offset start data hi]
    · rw [List.getElem?_eq_none (by simpa using hi)]
      rfl

theorem read_write_of_apart (hp : s.padding ≤ s.place.offset) (ht : t.padding ≤ t.place.offset)
    (h : s.Apart t) (start : Nat) (data : List UInt8) :
    (c.write s.place start data).read t.place = c.read t.place := by
  simp only [read, segment_write]
  cases c.segments[t.place.segment]? with
  | none => rfl
  | some g =>
    simp only [Option.map_some]
    split
    · rename_i hsegment
      have hout : s.extent.Apart t.extent := h.resolve_left (not_not_intro hsegment)
      simp only [Mapping.read, Bytes.read]
      refine List.map_congr_left fun i hi => ?_
      obtain ⟨hle, hlt⟩ := List.mem_range'_1.mp hi
      apply Mapping.get_write_outside
      simp only [Spot.extent, Spot.size, Span.Apart, Span.stop] at hout
      omega
    · rfl

namespace Ledger

variable {s s' : Ledger} {op : Op Nat} {ops : List (Kernel × Op Nat)}

structure Sound (s : Ledger) : Prop where
  laid : Laid s.chain s.spots
  faithful : ∀ l ∈ s.held, l.Faithful s.chain

/-- A chain right after its creation, or after any run from there. -/
def Reachable (s : Ledger) : Prop :=
  ∃ (c : Chain) (ops : _), c.Created ∧ s = run { chain := c } ops

theorem Sound.held_within (h : s.Sound) (hl : l ∈ s.held) : l.toSpot.Within s.chain :=
  h.laid.within _ (List.mem_map_of_mem hl)

theorem spots_modify (held : List Loan) (i start : Nat) (data : List UInt8) :
    (held.modify i (·.store start data)).map Loan.toSpot = held.map Loan.toSpot := by
  rw [map_modify]
  exact fun _ => rfl

theorem faithful_issues (h : s.Sound) {m : Alignment}
    (hi : Issues k { s.chain with alignment := m } size align p c events) (hn : 0 < size)
    (hl : l ∈ s.held ++ [lend s.chain (c.write p 0 data) p]) :
    l.Faithful (c.write p 0 data) := by
  have hlaid := laid_issues (h.laid.realign m) hn hi
  rcases List.mem_append.mp hl with hl | hl
  · obtain ⟨hlen, hpadding, g, hg, hstop⟩ := h.held_within hl
    obtain ⟨g', hg', hmapping, -⟩ := hi.keeps hg
    obtain ⟨haddress, hread⟩ := h.faithful l hl
    have hapart := (List.pairwise_append.mp hlaid.apart).2.2 _ (List.mem_map_of_mem hl) _
      (List.mem_singleton_self _)
    constructor
    · rw [address_write, ← haddress]
      simp only [address, hg, hg', Mapping.base, hmapping]
    · rw [← hread, read_write_of_apart (Nat.sub_le _ _) hpadding hapart.symm]
      simp only [read, hg, hg', hmapping]
  · obtain rfl := List.mem_singleton.mp hl
    exact ⟨rfl, rfl⟩

theorem faithful_write (h : s.Sound) (hi : s.held[i]? = some l) {r : Loan}
    (hr : r ∈ s.held.modify i (·.store start data)) :
    r.Faithful (s.chain.write l.place start data) := by
  obtain ⟨j, hj⟩ := List.mem_iff_getElem?.mp hr
  rw [List.getElem?_modify] at hj
  obtain ⟨r₀, hr₀, rfl⟩ := Option.map_eq_some_iff.mp hj
  have hmem := List.mem_of_getElem? hr₀
  obtain ⟨haddress, hread⟩ := h.faithful r₀ hmem
  by_cases hij : i = j
  · subst hij
    obtain rfl : r₀ = l := Option.some.inj (hr₀.symm.trans hi)
    rw [if_pos rfl]
    refine ⟨(address_write _ _ _ _ _).trans haddress, (read_write_self _ _ _ _).trans ?_⟩
    rw [hread]
    rfl
  · rw [if_neg hij]
    have hapart : l.toSpot.Apart r₀.toSpot := by
      refine h.laid.apart_of_ne (i := i) (j := j) ?_ ?_ hij
      · rw [spots, List.getElem?_map, hi, Option.map_some]
      · rw [spots, List.getElem?_map, hr₀, Option.map_some]
    have hl := (h.held_within (List.mem_of_getElem? hi)).2.1
    exact ⟨(address_write _ _ _ _ _).trans haddress,
      (read_write_of_apart hl (h.held_within hmem).2.1 hapart start data).trans hread⟩

theorem sound_moves (h : s.Sound) (hm : Moves k s op s') : s'.Sound := by
  cases hm with
  | stayed m => exact ⟨h.laid.realign m, h.faithful⟩
  | @issued p _ _ m _ _ _ _ hn hi =>
    refine ⟨?_, fun l hl => faithful_issues h hi hn hl⟩
    rw [spots, List.map_append]
    exact laid_write (laid_issues (h.laid.realign m) hn hi) p 0 _
  | wrote _ hi =>
    refine ⟨?_, fun r hr => faithful_write h hi hr⟩
    rw [spots, spots_modify]
    exact laid_write h.laid _ _ _
  | reset => exact ⟨laid_reset s.chain, by simp⟩
  | vacant _ hempty =>
    refine ⟨?_, by simp⟩
    have hnone := h.laid
    rwa [h.laid.eq_nil hempty] at hnone
  | tornDown => exact ⟨⟨rfl, by simp, by simp [spots], .nil, rfl, rfl⟩, by simp⟩

/-- The one induction over runs: what holds at the start, and is kept by every move, holds at the
end. -/
theorem run_rec {P : Ledger → Prop}
    (hmoves : ∀ {k s op s'}, P s → Moves k s op s' → P s') (h : P s)
    (ops : List (Kernel × Op Nat)) : P (s.run ops) := by
  induction ops generalizing s with
  | nil => exact h
  | cons o ops ih => exact ih (hmoves h (step_moves o.1 s o.2))

theorem sound_of_created (h : c.Created) : Sound { chain := c } := by
  obtain ⟨k, m, settings, -, -, rfl⟩ := h.eq
  exact ⟨⟨rfl, by simp, by simp [spots], .nil, rfl, rfl⟩, by simp⟩

theorem Reachable.sound (h : s.Reachable) : s.Sound := by
  obtain ⟨c, ops, hc, rfl⟩ := h
  exact run_rec sound_moves (sound_of_created hc) ops

end Ledger

end ArenaAlloc.Chain
