import Mathlib.Algebra.Order.Group.Nat
import ArenaAlloc.Proofs.Chain.Loans
import ArenaAlloc.Proofs.Guarded.Arena

/-! In a reachable state no guard of a chain is ever met. Its guards look at addresses and at sums
over all segments, so where the system puts the segments has a part in it. -/
namespace ArenaAlloc

namespace Chain

variable {k : Kernel} {c c' : Chain} {p : Placement} {g : Segment} {m : Mapping} {l : Layout}
  {v : List Int} {spots : List Spot} {size align : Nat} {events : List Event}

/-- Storage is of a length that the system grants. -/
def Bounded (c : Chain) : Prop := ∀ g ∈ c.segments, g.mapping.Bounded

/-- Storage lies where the system puts it, and there is no more of it than it has addresses. -/
structure Placed (c : Chain) : Prop where
  below : ∀ g ∈ c.segments, g.mapping.base + g.mapping.mapped ≤ mappingLimit
  total : Word.total (c.segments.map (·.mapping.mapped)) < Word.limit

theorem bounded_issues (hb : c.Bounded) (hi : Issues k c size align p c' events) : c'.Bounded := by
  intro g hg
  cases hi with
  | bumped _ hs _ =>
    rcases List.mem_or_eq_of_mem_set hg with hg | rfl
    · exact hb g hg
    · have hbounded := hb _ (List.mem_of_getElem? hs)
      exact hbounded
  | started _ hm =>
    rcases List.mem_append.mp hg with hg | hg
    · exact hb g hg
    · obtain rfl := List.mem_singleton.mp hg
      exact Mapping.bounded_of_create hm

theorem bounded_write (hb : c.Bounded) (p : Placement) (start : Nat) (data : List UInt8) :
    (c.write p start data).Bounded :=
  (forall_write (fun _ _ => ⟨fun h => ⟨h.held, h.below⟩, fun h => ⟨h.held, h.below⟩⟩) c p start
    data).mpr hb

theorem bounded_reset (hb : c.Bounded) : c.reset.state.Bounded := by
  intro g hg
  obtain ⟨g₀, hg₀, rfl⟩ := List.mem_map.mp hg
  have hbounded := hb g₀ (List.mem_of_mem_take hg₀)
  simp only [Segment.rewind]
  split <;> exact ⟨hbounded.held, hbounded.below⟩

theorem Created.bounded (h : c.Created) : c.Bounded := by
  obtain ⟨k, m, s, hm, -, rfl⟩ := h.eq
  intro g hg
  obtain rfl := List.mem_singleton.mp hg
  exact Mapping.bounded_of_create hm

theorem Ledger.bounded_moves {s s' : Ledger} {op : Op Nat} (hb : s.chain.Bounded)
    (hm : Moves k s op s') : s'.chain.Bounded := by
  cases hm with
  | stayed | vacant => exact hb
  | @issued p _ _ m _ data _ _ _ hi =>
    exact bounded_write (bounded_issues (c := { s.chain with alignment := m }) hb hi) p 0 data
  | wrote => exact bounded_write hb _ _ _
  | reset => exact bounded_reset hb
  | tornDown => exact fun _ hg => absurd hg List.not_mem_nil

theorem Ledger.Reachable.bounded {s : Ledger} (h : s.Reachable) : s.chain.Bounded := by
  obtain ⟨c, ops, hc, rfl⟩ := h
  exact run_rec (P := fun s => s.chain.Bounded) bounded_moves hc.bounded ops

theorem used_le_capacity (hl : Laid c spots) : c.used ≤ c.capacity := List.sum_le_sum hl.room

theorem capacity_lt (hb : c.Bounded) (hp : c.Placed) : c.capacity < Word.limit :=
  Nat.lt_of_le_of_lt (List.sum_le_sum fun g hg => (hb g hg).held) hp.total

/-- Every block takes up a byte at least, so there are no more blocks than bytes. -/
theorem allocations_lt (hl : Laid c spots) (hb : c.Bounded) (hp : c.Placed) :
    c.allocations < Word.limit := by
  have hpos : ∀ n ∈ spots.map Spot.size, 0 < n :=
    List.forall_mem_map.mpr fun s hs => Nat.add_pos_right _ (hl.within s hs).1
  have hcount : (spots.map Spot.size).length ≤ Word.total (spots.map Spot.size) :=
    List.length_le_sum_of_one_le _ hpos
  have hroom := used_le_capacity hl
  have hlt := capacity_lt hb hp
  rw [List.length_map, ← hl.count, ← hl.sum] at hcount
  omega

end Chain

namespace Segment

variable {g : Segment} {size align : Nat}

/-- A segment of which all bytes have addresses. -/
structure Sound (g : Segment) : Prop where
  bounded : g.mapping.Bounded
  room : g.used ≤ g.capacity
  below : g.mapping.base + g.mapping.mapped ≤ mappingLimit

theorem bumpGuarded?_eq (hg : g.Sound) (ha : Chain.InPage align) :
    g.bumpGuarded? size align = some (g.bump? size align) := by
  obtain ⟨hpos, hle⟩ := ha.bounds
  have hheld := hg.bounded.held
  have hroom := hg.room
  have hbelow := hg.below
  simp only [capacity] at hroom
  have htop : g.mapping.base + g.used < Word.limit := Word.lt_limit (by omega)
  have halign : g.mapping.base + g.used + align < Word.limit := Word.lt_limit (by omega)
  have hpadding : Word.paddingGuarded (g.mapping.base + g.used) align = some (g.padding align) :=
    Word.paddingGuarded_eq hpos halign
  simp only [bumpGuarded?, bump?, Word.add?_of_lt htop, hpadding, Option.bind_eq_bind,
    Option.bind_some, Word.sub?_of_le hg.room]
  generalize g.padding align = padding
  by_cases hword : padding + size < Word.limit
  · rw [Word.add?_of_lt hword]
    dsimp only
    split
    · rename_i hfits
      simp only [capacity] at hfits
      rw [Word.add?_of_lt (Word.lt_limit (by omega)), Option.bind_some,
        Word.add?_of_lt (Word.lt_limit (by omega)), Option.bind_some,
        Word.add?_of_lt (Word.lt_limit (by omega))]
      rfl
    · rfl
  · have hfull : ¬ padding + size ≤ g.capacity - g.used := by
      simp only [capacity]
      intro hfits
      exact hword (Word.lt_limit (by omega))
    rw [Word.add?, if_neg hword, if_neg hfull]
    rfl

theorem rewindGuarded_eq (hg : g.Sound) (zero : Bool) :
    g.rewindGuarded zero = some (g.rewind zero) := by
  have hfits : 0 + g.used ≤ g.mapping.capacity := (Nat.zero_add _).trans_le hg.room
  simp only [rewindGuarded, rewind, Mapping.zeroGuarded_eq hg.bounded hfits, Option.map_some]
  split <;> rfl

end Segment

namespace Chain

variable {k : Kernel} {c c' : Chain} {p : Placement} {g : Segment} {m : Mapping} {l : Layout}
  {v : List Int} {spots : List Spot} {size align : Nat} {events : List Event}

theorem segment_sound (hl : Laid c spots) (hb : c.Bounded) (hp : c.Placed) (hg : g ∈ c.segments) :
    g.Sound :=
  ⟨hb g hg, hl.room g hg, hp.below g hg⟩

theorem createGuarded_eq (k : Kernel) (s : Settings) : createGuarded k s = some (create k s) := by
  by_cases hz : s.segment = 0
  · simp only [createGuarded, create, Settings.validate, hz, if_true]
    rfl
  · simp only [createGuarded, create, Settings.validate, hz, if_false,
      Mapping.createGuarded_eq (Nat.pos_of_ne_zero hz), Option.map_some, Segment.create]
    cases Mapping.create k s.segment <;> rfl

theorem bumpGuarded?_eq (hl : Laid c spots) (hb : c.Bounded) (hp : c.Placed) (ha : InPage align) :
    c.bumpGuarded? size align = some (c.bump? size align) := by
  simp only [bumpGuarded?, bump?]
  split
  · rfl
  · cases hg : c.segments[c.current]? with
    | none => rfl
    | some g =>
      exact Segment.bumpGuarded?_eq (segment_sound hl hb hp (List.mem_of_getElem? hg)) ha

theorem startGuarded_eq (hn : 0 < size) (ha : InPage align)
    (hnew : ∀ m, Mapping.create k (max size c.settings.segment) = .ok m →
      m.base + m.mapped ≤ mappingLimit) :
    c.startGuarded k size align = some (c.start k size align) := by
  have hpos := Nat.lt_of_lt_of_le hn (Nat.le_max_left size c.settings.segment)
  simp only [startGuarded, Mapping.createGuarded_eq hpos, Option.bind_eq_bind, Option.bind_some]
  unfold start Segment.create
  cases hm : Mapping.create k (max size c.settings.segment) with
  | error f => rfl
  | ok m =>
    have hsound : Segment.Sound { mapping := m } :=
      ⟨Mapping.bounded_of_create hm, Nat.zero_le _, hnew m hm⟩
    simp only [Except.map, Segment.bumpGuarded?_eq hsound ha, Option.bind_some]
    cases Segment.bump? { mapping := m } size align <;> rfl

/-- A new segment lies where the state afterwards has it. -/
theorem below_of_start (ha : InPage align) (hbump : c.bump? size align = none)
    (hafter : (c.place k size align).state.Placed)
    (hm : Mapping.create k (max size c.settings.segment) = .ok m) :
    m.base + m.mapped ≤ mappingLimit := by
  simp only [place, hbump, start_eq ha, hm, Except.map] at hafter
  exact hafter.below { mapping := m, used := size }
    (List.mem_append_right _ (List.mem_singleton_self _))

theorem count_lt (hl : Laid c spots) (hb : c.Bounded) (hn : 0 < size) (ha : InPage align)
    (hafter : (c.place k size align).state.Placed)
    (hok : (c.place k size align).result = .ok p) : c.allocations + 1 < Word.limit := by
  rcases place_issues k c size ha with ⟨q, -, hi⟩ | ⟨f, hf⟩
  · rw [← hi.allocations]
    exact allocations_lt (laid_issues hl hn hi) (bounded_issues hb hi) hafter
  · rw [hf] at hok
    cases hok

theorem placeGuarded_eq (hl : Laid c spots) (hb : c.Bounded) (hp : c.Placed) (hn : 0 < size)
    (ha : InPage align) (hafter : (c.place k size align).state.Placed) :
    c.placeGuarded k size align = some (c.place k size align) := by
  have hcount : ∀ p, (c.place k size align).result = .ok p → c.allocations + 1 < Word.limit :=
    fun _ hok => count_lt hl hb hn ha hafter hok
  simp only [placeGuarded, bumpGuarded?_eq hl hb hp ha, Option.bind_eq_bind, Option.bind_some]
  cases hbump : c.bump? size align with
  | some r =>
    simp only [place, hbump] at hcount ⊢
    rw [Word.add?_of_lt (hcount _ rfl)]
    rfl
  | none =>
    have hnew := fun m => below_of_start (k := k) (m := m) ha hbump hafter
    simp only [startGuarded_eq hn ha hnew, Option.bind_some]
    simp only [place, hbump] at hcount ⊢
    cases hstart : c.start k size align with
    | error f => rfl
    | ok r =>
      simp only [hstart] at hcount ⊢
      have hindex : 1 ≤ (c.segments ++ [r.2]).length := by simp
      have hlength : (c.segments ++ [r.2]).length - 1 = c.segments.length := by simp
      rw [Word.sub?_of_le hindex, Option.bind_some, Word.add?_of_lt (hcount _ rfl), hlength]
      rfl

theorem allocAtGuarded_eq (hl : Laid c spots) (hb : c.Bounded) (hp : c.Placed) (ha : InPage align)
    (hafter : (c.allocAt k size align).state.Placed) :
    c.allocAtGuarded k size align = some (c.allocAt k size align) := by
  by_cases hn : size = 0
  · simp only [allocAtGuarded, allocAt, if_pos hn]
  · simp only [allocAtGuarded, allocAt, if_neg hn] at hafter ⊢
    exact placeGuarded_eq (c := { c with alignment := c.alignment.spend }) (hl.realign _) hb
      ⟨hp.below, hp.total⟩ (Nat.pos_of_ne_zero hn) (ha.max (inPage_boundary _)) hafter

theorem placed_of_write {start : Nat} {data : List UInt8} (h : (c.write p start data).Placed) :
    c.Placed := by
  constructor
  · exact (forall_write (fun _ _ => Iff.rfl) c p start data).mp h.below
  · have htotal := h.total
    rwa [map_write fun _ _ => rfl] at htotal

/-- Of two powers of two the greater is a multiple of the other. -/
theorem dvd_asked (ha : InPage align) (m : Alignment) : align ∣ asked m align := by
  obtain ⟨j, -, rfl⟩ := ha
  simp only [asked]
  split
  · exact Nat.dvd_refl _
  rcases Nat.le_total j 3 with hj | hj
  · rw [Nat.max_eq_right (Nat.pow_le_pow_right (by decide) hj : 2 ^ j ≤ 2 ^ 3)]
    exact Nat.pow_dvd_pow 2 hj
  · rw [Nat.max_eq_left (Nat.pow_le_pow_right (by decide) hj : 2 ^ 3 ≤ 2 ^ j)]

theorem allocValueGuarded_eq (hl : Laid c spots) (hb : c.Bounded) (hp : c.Placed)
    (hafter : (c.allocValue k l v).state.Placed) :
    c.allocValueGuarded k l v = some (c.allocValue k l v) := by
  have halign := inPage_alignment l
  rcases allocAt_issues k c l.size halign with ⟨p, hok, -, hi⟩ | ⟨f, m, hf⟩
  · have hvalue : c.allocValue k l v = { c.allocAt k l.size l.alignment with
        state := (c.allocAt k l.size l.alignment).state.write p 0 (l.encode v) } := by
      simp only [allocValue, hok]
    rw [hvalue] at hafter ⊢
    have haddress := Nat.dvd_trans (dvd_asked halign _) (hi.aligned (inPage_asked halign _))
    simp only [allocValueGuarded, allocAtGuarded_eq hl hb hp halign (placed_of_write hafter), hok,
      ensure_of (Nat.mod_eq_zero_of_dvd haddress), ensure_of hi.spot.1, Option.bind_eq_bind,
      Option.bind_some]
    rfl
  · have hfail : c.allocValue k l v = c.allocAt k l.size l.alignment := by
      simp only [allocValue, hf, Reply.fail]
    rw [hfail] at hafter ⊢
    simp only [allocValueGuarded, allocAtGuarded_eq hl hb hp halign hafter, hf, Reply.fail,
      Option.bind_eq_bind, Option.bind_some]
    rfl

theorem resetGuarded_eq (hl : Laid c spots) (hb : c.Bounded) (hp : c.Placed) :
    c.resetGuarded = some c.reset := by
  have hrewind : ∀ g ∈ c.segments.take 1, g.rewindGuarded c.settings.zeroOnFree =
      some (g.rewind c.settings.zeroOnFree) := fun g hg =>
    Segment.rewindGuarded_eq (segment_sound hl hb hp (List.mem_of_mem_take hg)) _
  rw [resetGuarded, mapM_eq_some hrewind]
  rfl

theorem stepGuarded_eq (hl : Laid c spots) (hb : c.Bounded) (hp : c.Placed) {op : Op Placement}
    (hafter : (c.step k op).state.Placed) : c.stepGuarded k op = some (c.step k op) := by
  cases op with
  | alloc n =>
    have hstate : (c.step k (.alloc n)).state = (c.allocAt k n 1).state := rfl
    rw [hstate] at hafter
    simp only [stepGuarded, step, alloc, allocAtGuarded_eq hl hb hp inPage_one hafter,
      Option.map_some]
  | allocValue l v =>
    have hstate : (c.step k (.allocValue l v)).state = (c.allocValue k l v).state := rfl
    rw [hstate] at hafter
    simp only [stepGuarded, step, allocValueGuarded_eq hl hb hp hafter, Option.map_some]
  | reset => simp only [stepGuarded, step, resetGuarded_eq hl hb hp, Option.map_some]
  | write | direct | teardown => rfl

theorem usageGuarded_eq (hl : Laid c spots) (hb : c.Bounded) (hp : c.Placed) :
    c.usageGuarded = some c.usage := by
  have hcapacity := capacity_lt hb hp
  have hused := Nat.lt_of_le_of_lt (used_le_capacity hl) hcapacity
  simp only [capacity, used] at hcapacity hused
  rw [usageGuarded, Word.totalGuarded_eq hcapacity, Word.totalGuarded_eq hused]
  rfl

end Chain

end ArenaAlloc
