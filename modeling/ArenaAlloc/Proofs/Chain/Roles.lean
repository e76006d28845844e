import ArenaAlloc.Proofs.Chain.Loans

/-! What the segments of a chain serve for. Those of the regular size serve ordinary blocks, larger
ones a single block each. The first segment can leave this order: a reset keeps it whatever it was
mapped for. -/
namespace ArenaAlloc

theorem Segment.capacity_rewind (g : Segment) (zero : Bool) :
    (g.rewind zero).capacity = g.capacity := by
  simp only [rewind, capacity]
  split <;> rfl

namespace Chain

inductive Role where
  | regular
  /-- Mapped for one block, which fills it. -/
  | dedicated
  /-- Larger than the regular size, but no longer in the hands of one block. -/
  | inflated
deriving DecidableEq

namespace Role

/-- The role of the first segment after one more event. -/
def after : Role → Event → Role
  | _, .segmentStarted 0 _ oversized => if oversized then dedicated else regular
  | _, .chainTornDown _ => regular
  | dedicated, .chainReset => inflated
  | r, _ => r

/-- The role of the first segment, as it follows from all events since the creation. -/
def first (log : List Event) : Role := log.foldl after regular

theorem first_concat (log : List Event) (e : Event) : first (log ++ [e]) = (first log).after e := by
  rw [first, List.foldl_append]
  rfl

theorem after_started (r : Role) {i : Nat} (hi : 0 < i) (n : Nat) (b : Bool) :
    r.after (.segmentStarted i n b) = r := by
  cases i with
  | zero => contradiction
  | succ i => cases r <;> rfl

end Role

variable {k : Kernel} {c c' : Chain} {p : Placement} {g g' : Segment} {i size align : Nat}
  {events : List Event} {r : Role}

namespace Ledger

variable {s s' : Ledger} {op : Op Nat} {l : Loan}

/-- The blocks on loan that lie in one segment. -/
def spotsIn (s : Ledger) (i : Nat) : List Spot := s.spots.filter (·.place.segment = i)

/-- A segment of this capacity, and the blocks in it, are as the role says. -/
def Plays (s : Ledger) (i capacity : Nat) : Role → Prop
  | .regular => capacity = s.chain.settings.segment
  | .dedicated => s.chain.settings.segment < capacity ∧ s.spotsIn i = [⟨⟨i, 0, capacity⟩, 0⟩]
  | .inflated => s.chain.settings.segment < capacity ∧
      ∀ b ∈ s.spotsIn i, b.place.len ≤ s.chain.settings.segment

/-- The first segment plays the role that the events tell, all others are regular or dedicated. -/
structure Cast (s : Ledger) : Prop where
  first : ∀ g, s.chain.segments[0]? = some g → s.Plays 0 g.capacity (Role.first s.log)
  rest : ∀ i g, 0 < i → s.chain.segments[i]? = some g →
    s.Plays i g.capacity .regular ∨ s.Plays i g.capacity .dedicated
  vacant : s.chain.segments = [] → Role.first s.log = .regular

theorem Plays.congr (h : s.Plays i size r) (hset : s'.chain.settings = s.chain.settings)
    (hin : s'.spotsIn i = s.spotsIn i) : s'.Plays i size r := by
  cases r with
  | regular => exact h.trans (by rw [hset])
  | dedicated => exact ⟨hset ▸ h.1, hin.trans h.2⟩
  | inflated => exact ⟨hset ▸ h.1, fun b hb => hset ▸ h.2 b (hin ▸ hb)⟩

/-- An inflated segment holds small blocks only, so none of them fills it. -/
theorem Plays.neither (h : s.Plays i size .inflated) :
    ¬ (s.Plays i size .regular ∨ s.Plays i size .dedicated) := by
  rintro (hregular | ⟨-, hall⟩)
  · exact absurd hregular (Nat.ne_of_gt h.1)
  · have hsmall := h.2 _ (hall ▸ List.mem_singleton_self _)
    exact absurd h.1 (Nat.not_lt_of_le hsmall)

theorem spotsIn_of_ne {b : Spot} (hs : s'.spots = s.spots ++ [b]) (hi : b.place.segment ≠ i) :
    s'.spotsIn i = s.spotsIn i := by
  simp only [spotsIn, hs, List.filter_append, List.filter_singleton, hi, decide_false, cond_false,
    List.append_nil]

theorem spotsIn_of_eq {b : Spot} (hs : s'.spots = s.spots ++ [b]) (hi : b.place.segment = i) :
    s'.spotsIn i = s.spotsIn i ++ [b] := by
  simp only [spotsIn, hs, List.filter_append, List.filter_singleton, hi, decide_true, cond_true]

/-- Where no segment comes or goes, it is enough that each keeps its role. -/
theorem Cast.of_plays (h : s.Cast) (hlog : s'.log = s.log)
    (hcapacity : ∀ i : Nat, s'.chain.segments[i]?.map Segment.capacity =
      s.chain.segments[i]?.map Segment.capacity)
    (hplays : ∀ (i : Nat) g r, s.chain.segments[i]? = some g → s.Plays i g.capacity r →
      s'.Plays i g.capacity r) : s'.Cast := by
  have hback : ∀ {i : Nat} {g' : Segment}, s'.chain.segments[i]? = some g' →
      ∃ g, s.chain.segments[i]? = some g ∧ g.capacity = g'.capacity := by
    intro i g' hg'
    have hmap := hcapacity i
    rw [hg'] at hmap
    exact Option.map_eq_some_iff.mp hmap.symm
  constructor
  · intro g' hg'
    obtain ⟨g, hg, hcap⟩ := hback hg'
    rw [hlog, ← hcap]
    exact hplays _ _ _ hg (h.first g hg)
  · intro i g' hi hg'
    obtain ⟨g, hg, hcap⟩ := hback hg'
    rw [← hcap]
    exact (h.rest i g hi hg).imp (hplays _ _ _ hg) (hplays _ _ _ hg)
  · intro hnil
    rw [hlog]
    refine h.vacant (List.eq_nil_iff_forall_not_mem.mpr fun g hg => ?_)
    obtain ⟨i, hi⟩ := List.mem_iff_getElem?.mp hg
    have hmap := hcapacity i
    simp [hi, hnil] at hmap

/-- Filling up the current segment leaves it its role: a dedicated one has no room for another
block. -/
theorem plays_bumped {b : Spot} (h : s.Plays i g.capacity r) (hlaid : Laid s.chain s.spots)
    (hg : s.chain.segments[i]? = some g) (hset : s'.chain.settings = s.chain.settings)
    (hs : s'.spots = s.spots ++ [b]) (hsmall : b.place.len ≤ s.chain.settings.segment)
    (hroom : b.place.segment = i → g.used < g.capacity) : s'.Plays i g.capacity r := by
  by_cases hi : b.place.segment = i
  · cases r with
    | regular => exact h.trans (by rw [hset])
    | dedicated =>
      have hmem : ⟨⟨i, 0, g.capacity⟩, 0⟩ ∈ s.spotsIn i := h.2 ▸ List.mem_singleton_self _
      obtain ⟨-, -, g₀, hg₀, hstop⟩ := hlaid.within _ (List.mem_filter.mp hmem).1
      obtain rfl : g₀ = g := Option.some.inj (hg₀.symm.trans hg)
      have hfull : g₀.capacity ≤ g₀.used := by
        simpa only [Spot.extent, Spot.size, Span.stop, Nat.zero_add, Nat.sub_zero] using hstop
      exact absurd (hroom hi) (Nat.not_lt_of_le hfull)
    | inflated =>
      refine ⟨hset ▸ h.1, fun b' hb' => ?_⟩
      rw [spotsIn_of_eq hs hi] at hb'
      rw [hset]
      rcases List.mem_append.mp hb' with hb' | hb'
      · exact h.2 b' hb'
      · exact List.mem_singleton.mp hb' ▸ hsmall
  · exact h.congr hset (spotsIn_of_ne hs hi)

/-- No block lies behind the last segment. -/
theorem spotsIn_length (h : Laid s.chain s.spots) : s.spotsIn s.chain.segments.length = [] := by
  refine List.filter_eq_nil_iff.mpr fun b hb => ?_
  obtain ⟨-, -, g, hg, -⟩ := h.within b hb
  have hlt := (List.getElem?_eq_some_iff.mp hg).1
  simpa using Nat.ne_of_lt hlt

/-- A new segment is regular, or dedicated to the oversized block that it starts with. -/
theorem plays_started (hlaid : Laid s.chain s.spots) (hset : s'.chain.settings = s.chain.settings)
    (hs : s'.spots = s.spots ++ [⟨⟨s.chain.segments.length, 0, size⟩, 0⟩]) :
    s'.Plays s.chain.segments.length (max size s.chain.settings.segment)
      (if s.chain.settings.segment < size then .dedicated else .regular) := by
  split
  · rename_i hsize
    rw [Nat.max_eq_left (Nat.le_of_lt hsize)]
    refine ⟨hset ▸ hsize, ?_⟩
    rw [spotsIn_of_eq hs rfl, spotsIn_length hlaid, List.nil_append]
  · rename_i hsize
    exact (Nat.max_eq_right (Nat.le_of_not_lt hsize)).trans (by rw [hset])

theorem cast_started {m : Mapping} (h : s.Cast) (hlaid : Laid s.chain s.spots)
    (hset : s'.chain.settings = s.chain.settings)
    (hsegments : s'.chain.segments = s.chain.segments ++ [{ mapping := m, used := size }])
    (hm : m.capacity = max size s.chain.settings.segment)
    (hs : s'.spots = s.spots ++ [⟨⟨s.chain.segments.length, 0, size⟩, 0⟩])
    (hlog : s'.log = s.log ++ [.segmentStarted s.chain.segments.length m.capacity
      (s.chain.settings.segment < size)]) : s'.Cast := by
  have hnew : s'.Plays s.chain.segments.length m.capacity
      (if s.chain.settings.segment < size then .dedicated else .regular) :=
    hm ▸ plays_started hlaid hset hs
  have hold : ∀ (i : Nat) g r, s.chain.segments[i]? = some g → s.Plays i g.capacity r →
      s'.Plays i g.capacity r := fun i g r hg hplays =>
    hplays.congr hset (spotsIn_of_ne hs (Nat.ne_of_gt (List.getElem?_eq_some_iff.mp hg).1))
  have hlast : ∀ {i : Nat} {g : Segment}, s'.chain.segments[i]? = some g →
      s.chain.segments[i]? = some g ∨ i = s.chain.segments.length ∧ g.capacity = m.capacity := by
    intro i g hg
    rw [hsegments] at hg
    rcases Nat.lt_or_ge i s.chain.segments.length with hi | hi
    · rw [List.getElem?_append_left hi] at hg
      exact Or.inl hg
    · obtain ⟨hlt, rfl⟩ := List.getElem?_eq_some_iff.mp hg
      rw [List.length_append, List.length_singleton] at hlt
      obtain rfl : i = s.chain.segments.length := by omega
      exact Or.inr ⟨rfl, by rw [List.getElem_concat_length rfl]; rfl⟩
  constructor
  · intro g hg
    rw [hlog, Role.first_concat]
    rcases hlast hg with hg | ⟨hlength, hcap⟩
    · rw [Role.after_started _ (List.length_pos_of_mem (List.mem_of_getElem? hg))]
      exact hold _ _ _ hg (h.first g hg)
    · rw [← hlength] at hnew ⊢
      rw [hcap]
      simpa only [Role.after, decide_eq_true_eq] using hnew
  · intro i g hi hg
    rcases hlast hg with hg | ⟨rfl, hcap⟩
    · exact (h.rest i g hi hg).imp (hold _ _ _ hg) (hold _ _ _ hg)
    · rw [hcap]
      split at hnew
      · exact Or.inr hnew
      · exact Or.inl hnew
  · intro hnil
    simp [hsegments] at hnil

theorem cast_write (h : s.Cast) {start : Nat} {data : List UInt8}
    (hchain : s'.chain = s.chain.write p start data) (hspots : s'.spots = s.spots)
    (hlog : s'.log = s.log) : s'.Cast := by
  refine h.of_plays hlog (fun i => ?_) fun i g r _ hp => ?_
  · rw [hchain, ← List.getElem?_map, ← List.getElem?_map, map_write fun _ _ => rfl]
  · exact hp.congr (by rw [hchain]; rfl) (by rw [spotsIn, hspots, spotsIn])

theorem cast_issues (h : s.Cast) (hlaid : Laid s.chain s.spots) (hn : 0 < size) {m : Alignment}
    (hi : Issues k { s.chain with alignment := m } size align p s'.chain events)
    (hs : s'.spots = s.spots ++ [⟨p, p.offset - s.chain.usedAt p.segment⟩])
    (hlog : s'.log = s.log ++ events) : s'.Cast := by
  have hset := hi.settings
  generalize hc : s'.chain = c at hi
  cases hi with
  | @bumped g₀ hsize hg₀ hroom =>
    refine h.of_plays (by rw [hlog, List.append_nil]) (fun i => ?_) fun i g r hg hp => ?_
    · rw [hc, List.getElem?_set]
      split
      · rename_i hcurrent
        subst hcurrent
        rw [if_pos (List.getElem?_eq_some_iff.mp hg₀).1, hg₀]
        rfl
      · rfl
    · refine plays_bumped hp hlaid hg hset hs hsize fun hcurrent => ?_
      subst hcurrent
      obtain rfl : g₀ = g := Option.some.inj (hg₀.symm.trans hg)
      omega
  | @started m' _ hm =>
    obtain ⟨n, -, -, rfl⟩ := Mapping.create_eq_ok hm
    have hspots : s'.spots = s.spots ++ [⟨⟨s.chain.segments.length, 0, size⟩, 0⟩] := by
      rw [hs, usedAt_length]
      rfl
    exact cast_started h hlaid hset (by rw [hc]) rfl hspots hlog

theorem plays_reset (h : s.Plays i size r) (hset : s'.chain.settings = s.chain.settings)
    (hs : s'.spots = []) : s'.Plays i size (r.after .chainReset) := by
  have hnone : ∀ b ∈ s'.spotsIn i, b.place.len ≤ s'.chain.settings.segment := by
    simp [spotsIn, hs]
  cases r with
  | regular => exact h.trans (by rw [hset])
  | dedicated => exact ⟨hset ▸ h.1, hnone⟩
  | inflated => exact ⟨hset ▸ h.1, hnone⟩

theorem cast_reset (h : s.Cast) (hchain : s'.chain = s.chain.reset.state) (hs : s'.spots = [])
    (hlog : s'.log = s.log ++ [.chainReset]) : s'.Cast := by
  have hset : s'.chain.settings = s.chain.settings := by rw [hchain]; rfl
  have hsegments : s'.chain.segments =
      (s.chain.segments.take 1).map (·.rewind s.chain.settings.zeroOnFree) := by
    rw [hchain]
    rfl
  constructor
  · intro g' hg'
    rw [hsegments, List.getElem?_map, List.getElem?_take_of_lt Nat.zero_lt_one] at hg'
    obtain ⟨g, hg, rfl⟩ := Option.map_eq_some_iff.mp hg'
    rw [hlog, Role.first_concat, Segment.capacity_rewind]
    exact plays_reset (h.first g hg) hset hs
  · intro i g hi hg
    have hlt := (List.getElem?_eq_some_iff.mp hg).1
    rw [hsegments, List.length_map, List.length_take] at hlt
    omega
  · intro hnil
    have hvacant : s.chain.segments = [] := by
      rw [hsegments] at hnil
      simpa using hnil
    rw [hlog, Role.first_concat, h.vacant hvacant]
    rfl

theorem cast_moves (h : s.Cast) (hsound : s.Sound) (hm : Moves k s op s') : s'.Cast := by
  cases hm with
  | stayed m => exact h.of_plays rfl (fun _ => rfl) fun _ _ _ _ hp => hp.congr rfl rfl
  | @issued p _ _ m c data events _ hn hi =>
    have hissued : Cast ⟨c, s.held ++ [lend s.chain (c.write p 0 data) p], s.log ++ events⟩ :=
      cast_issues h hsound.laid hn hi List.map_append rfl
    exact cast_write hissued rfl rfl rfl
  | wrote => exact cast_write h rfl (spots_modify _ _ _ _) rfl
  | reset => exact cast_reset h rfl rfl rfl
  | vacant _ hempty => exact ⟨by simp [hempty], by simp [hempty], fun _ => h.vacant hempty⟩
  | tornDown =>
    refine ⟨by simp, by simp, fun _ => ?_⟩
    rw [Role.first_concat]
    cases Role.first s.log <;> rfl

theorem cast_of_created (h : c.Created) : Cast { chain := c } := by
  obtain ⟨k, m, settings, hm, -, rfl⟩ := h.eq
  obtain ⟨n, -, -, rfl⟩ := Mapping.create_eq_ok hm
  refine ⟨fun g hg => ?_, fun i g hi hg => ?_, fun _ => rfl⟩
  · obtain rfl := Option.some.inj hg
    exact rfl
  · have hlt := (List.getElem?_eq_some_iff.mp hg).1
    simp only [List.length_singleton] at hlt
    omega

theorem Reachable.cast (h : s.Reachable) : s.Cast := by
  obtain ⟨c, ops, hc, rfl⟩ := h
  have hrun := run_rec (P := fun s => s.Sound ∧ s.Cast)
    (fun h hm => ⟨sound_moves h.1 hm, cast_moves h.2 h.1 hm⟩)
    ⟨sound_of_created hc, cast_of_created hc⟩ ops
  exact hrun.2

theorem Cast.plays (h : s.Cast) (hg : s.chain.segments[i]? = some g) :
    s.Plays i g.capacity .regular ∨ s.Plays i g.capacity .dedicated ∨
      i = 0 ∧ Role.first s.log = .inflated := by
  rcases Nat.eq_zero_or_pos i with rfl | hi
  · have hfirst := h.first g hg
    cases hrole : Role.first s.log with
    | regular => exact Or.inl (hrole ▸ hfirst)
    | dedicated => exact Or.inr (Or.inl (hrole ▸ hfirst))
    | inflated => exact Or.inr (Or.inr ⟨rfl, rfl⟩)
  · exact (h.rest i g hi hg).imp_right Or.inl

/-- The first segment is inflated just when it exists and is neither regular nor dedicated. -/
theorem Cast.inflated_iff (h : s.Cast) : Role.first s.log = .inflated ↔
    ∃ g, s.chain.segments[0]? = some g ∧
      ¬ (s.Plays 0 g.capacity .regular ∨ s.Plays 0 g.capacity .dedicated) := by
  constructor
  · intro hrole
    cases hg : s.chain.segments[0]? with
    | none =>
      have hvacant := h.vacant (List.eq_nil_of_length_eq_zero
        (Nat.le_zero.mp (List.getElem?_eq_none_iff.mp hg)))
      exact absurd (hvacant.symm.trans hrole) (by decide)
    | some g => exact ⟨g, rfl, Plays.neither (hrole ▸ h.first g hg)⟩
  · rintro ⟨g, hg, hneither⟩
    rcases h.plays hg with hregular | hdedicated | ⟨-, hrole⟩
    · exact absurd (Or.inl hregular) hneither
    · exact absurd (Or.inr hdedicated) hneither
    · exact hrole

theorem small_of_plays (hl : l ∈ s.held)
    (hsmall : l.place.len ≤ s.chain.settings.segment)
    (h : s.Plays l.place.segment g.capacity .regular ∨
      s.Plays l.place.segment g.capacity .dedicated) :
    g.capacity = s.chain.settings.segment := by
  rcases h with hregular | ⟨hlarge, hall⟩
  · exact hregular
  · have hmem : l.toSpot ∈ s.spotsIn l.place.segment :=
      List.mem_filter.mpr ⟨List.mem_map_of_mem hl, decide_eq_true rfl⟩
    rw [hall, List.mem_singleton] at hmem
    have hlen : l.place.len = g.capacity := congrArg (fun b : Spot => b.place.len) hmem
    omega

/-- A reset keeps the first segment, so the chain shrinks to the regular size only if that one is
regular. -/
theorem Cast.capacity_reset_iff (h : s.Cast) :
    s.chain.reset.state.capacity ≤ s.chain.settings.segment ↔ Role.first s.log = .regular := by
  cases hsegments : s.chain.segments with
  | nil => simp only [h.vacant hsegments, Chain.capacity, Chain.reset, hsegments, List.take_nil,
      List.map_nil, List.sum_nil, Nat.zero_le]
  | cons g gs =>
    have hcapacity : s.chain.reset.state.capacity = g.capacity := by
      simp only [Chain.capacity, Chain.reset, hsegments, List.take_succ_cons, List.take_zero,
        List.map_cons, List.map_nil, List.sum_cons, List.sum_nil,
        Segment.capacity_rewind, Nat.add_zero]
    have hplays := h.first g (by rw [hsegments]; rfl)
    rw [hcapacity]
    cases hrole : Role.first s.log with
    | regular =>
      rw [hrole] at hplays
      exact iff_of_true (Nat.le_of_eq hplays) rfl
    | dedicated | inflated =>
      rw [hrole] at hplays
      exact iff_of_false (Nat.not_le_of_lt hplays.1) (by simp)

/-- Every segment is regular or holds just the block that it was mapped for, unless a reset has kept
a segment mapped for an oversized block as the first one: it then serves small blocks. -/
theorem regular_or_dedicated_iff (h : s.Reachable) :
    ((∀ i g, s.chain.segments[i]? = some g →
        s.Plays i g.capacity .regular ∨ s.Plays i g.capacity .dedicated) ↔
      Role.first s.log ≠ .inflated) ∧
    (∀ i g, 0 < i → s.chain.segments[i]? = some g →
      s.Plays i g.capacity .regular ∨ s.Plays i g.capacity .dedicated) ∧
    (∀ l ∈ s.held, l.place.len ≤ s.chain.settings.segment →
      ∀ g, s.chain.segments[l.place.segment]? = some g →
        g.capacity = s.chain.settings.segment ∨
          l.place.segment = 0 ∧ Role.first s.log = .inflated) ∧
    ∀ k, (s.step k .reset).chain.capacity ≤ s.chain.settings.segment ↔
      Role.first s.log = .regular := by
  have hcast := h.cast
  refine ⟨⟨?_, ?_⟩, hcast.rest, ?_, ?_⟩
  · intro hall hrole
    obtain ⟨g, hg, hneither⟩ := hcast.inflated_iff.mp hrole
    exact hneither (hall 0 g hg)
  · intro hrole i g hg
    rcases hcast.plays hg with hregular | hdedicated | ⟨-, hinflated⟩
    · exact Or.inl hregular
    · exact Or.inr hdedicated
    · exact absurd hinflated hrole
  · intro l hl hsmall g hg
    rcases hcast.plays hg with hregular | hdedicated | hinflated
    · exact Or.inl (small_of_plays hl hsmall (Or.inl hregular))
    · exact Or.inl (small_of_plays hl hsmall (Or.inr hdedicated))
    · exact Or.inr hinflated
  · intro k
    exact hcast.capacity_reset_iff

/-- After a teardown the next block decides on the first segment, and a reset keeps that. -/
def outgrown : Ledger :=
  run { chain := blank } (granted [.teardown, .alloc 10000, .reset, .alloc 8])

theorem outgrown_inflated :
    outgrown.Reachable ∧ Role.first outgrown.log = .inflated ∧
    ¬ (∀ i g, outgrown.chain.segments[i]? = some g →
      outgrown.Plays i g.capacity .regular ∨ outgrown.Plays i g.capacity .dedicated) ∧
    ∀ k, ¬ (outgrown.step k .reset).chain.capacity ≤ 4096 := by
  have h : outgrown.Reachable := ⟨blank, _, created_blank, rfl⟩
  have hrole : Role.first outgrown.log = .inflated := by decide
  obtain ⟨hall, -, -, hreset⟩ := regular_or_dedicated_iff h
  refine ⟨h, hrole, fun hplays => hall.mp hplays hrole, fun k hle => ?_⟩
  exact absurd (hrole.symm.trans ((hreset k).mp hle)) nofun

theorem not_every_segment_regular_or_dedicated :
    (¬ ∀ s : Ledger, s.Reachable → ∀ i g, s.chain.segments[i]? = some g →
      s.Plays i g.capacity .regular ∨ s.Plays i g.capacity .dedicated) ∧
    (¬ ∀ s : Ledger, s.Reachable → ∀ l ∈ s.held, l.place.len ≤ s.chain.settings.segment →
      ∀ g, s.chain.segments[l.place.segment]? = some g →
        g.capacity = s.chain.settings.segment) ∧
    ¬ ∀ s : Ledger, s.Reachable → ∀ k,
      (s.step k .reset).chain.capacity ≤ s.chain.settings.segment := by
  have h : outgrown.Reachable := ⟨blank, _, created_blank, rfl⟩
  have hfirst : outgrown.chain.segments[0]?.map Segment.capacity = some 10000 := rfl
  obtain ⟨g, hg, hcapacity⟩ := Option.map_eq_some_iff.mp hfirst
  refine ⟨fun hall => ?_, fun hall => ?_, fun hall => ?_⟩
  · rcases hall outgrown h 0 g hg with hregular | ⟨-, hblocks⟩
    · exact absurd (hcapacity.symm.trans hregular) (by decide)
    · rw [hcapacity] at hblocks
      exact absurd hblocks (by decide)
  · have hloan : outgrown.held[0]?.map (·.place) = some ⟨0, 0, 8⟩ := rfl
    obtain ⟨l, hl, hplace⟩ := Option.map_eq_some_iff.mp hloan
    have hsmall := hall outgrown h l (List.mem_of_getElem? hl) (by rw [hplace]; decide) g
      (by rw [hplace]; exact hg)
    exact absurd (hcapacity.symm.trans hsmall) (by decide)
  · exact absurd (hall outgrown h ⟨1, true⟩) (by decide)

end Ledger

end Chain

end ArenaAlloc
