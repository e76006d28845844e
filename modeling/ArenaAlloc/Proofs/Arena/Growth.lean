import ArenaAlloc.Proofs.Arena.Hygiene
import ArenaAlloc.Proofs.Arena.Request
import ArenaAlloc.Proofs.Guarded.Arena

/-! How storage grows until it is given back: every growth at least doubles it, and none takes it
past three times the greatest mark. -/
namespace ArenaAlloc

theorem Mapping.Grown.capacity_eq {k : Kernel} {m m' : Mapping} {capacity used : Nat}
    (h : Grown k m capacity used m') (hc : m.capacity < capacity) : m'.capacity = capacity := by
  cases h with
  | enough hle => omega
  | slack | extended | moved => rfl

namespace Arena

/-- What the operation asks for goes into no free span, nor into the storage past the mark. -/
def Outgrown (a : Arena) (op : Op Block) : Prop :=
  ∃ n aligned, op.request? a.alignment = some (n, aligned) ∧
    a.Full aligned n ∧ a.capacity - a.used < a.need aligned n

/-- Storage was mapped just now, at the creation or by an operation that found none. -/
inductive JustMapped : Arena → Prop
  | created {a : Arena} : a.Created → JustMapped a
  | recreated {a : Arena} {k : Kernel} {op : Op Block} : a.Reachable → a.mapping = none →
      (a.step k op).state.mapping ≠ none → JustMapped (a.step k op).state

/-- Number of operations of a run that change the capacity. -/
def growths (a : Arena) : List (Kernel × Op Block) → Nat
  | [] => 0
  | o :: ops =>
    (if (a.step o.1 o.2).state.capacity = a.capacity then 0 else 1) +
      (a.step o.1 o.2).state.growths ops

/-- The greatest mark of a run, from its start to its end. -/
def peak (a : Arena) : List (Kernel × Op Block) → Nat
  | [] => a.used
  | o :: ops => max a.used ((a.step o.1 o.2).state.peak ops)

variable {k : Kernel} {a : Arena} {op : Op Block} {ops : List (Kernel × Op Block)} {i p : Nat}

/-- The need exceeds what is left, so that twice the capacity and the need stay below three times
the new mark. -/
theorem capacity_step (hs : a.Sound) (hc : 0 < a.capacity) (ht : op ≠ .teardown) :
    (a.step k op).state.capacity = a.capacity ∨
    a.Outgrown op ∧ 2 * a.capacity ≤ (a.step k op).state.capacity ∧
      (a.step k op).state.capacity ≤ 3 * (a.step k op).state.used := by
  by_cases hr : ∃ b, (a.step k op).result = .ok (some b)
  · obtain ⟨b, hb⟩ := hr
    obtain ⟨n, aligned, hreq, hn, hsup⟩ := supplies_step hb
    have hroom := hs.room
    generalize (a.step k op).state = c at hsup ⊢
    cases hsup with
    | carved _ _ _ _ hcapacity => exact Or.inl (capacity_congr hcapacity)
    | @laid m _ hf hr _ hused _ hcapacity =>
      have hlaid : c.capacity = m.capacity := capacity_of_map hcapacity
      cases hr with
      | spare hm _ =>
        left
        rw [hlaid, capacity_of_mapped hm]
      | grown hm hshort _ hg =>
        right
        have hfull : a.Full aligned n := (bestFit?_eq_none_iff_full hn).mp hf
        have hold := capacity_of_mapped hm
        have hnew := hg.capacity_eq (by omega)
        refine ⟨⟨n, aligned, hreq, hfull, hshort⟩, ?_, ?_⟩ <;> omega
      | recreated hm =>
        have hnone := capacity_of_unmapped hm
        omega
  · left
    exact capacity_congr (map_capacity_step hs (fun b hb => hr ⟨b, hb⟩) ht)

theorem capacity_le_step (hs : a.Sound) (hc : 0 < a.capacity) (ht : op ≠ .teardown) :
    a.capacity ≤ (a.step k op).state.capacity := by
  rcases capacity_step (k := k) hs hc ht with hsame | ⟨-, hdouble, -⟩ <;> omega

theorem capacity_le_run (hs : a.Sound) (hc : 0 < a.capacity) (ht : ∀ o ∈ ops, o.2 ≠ .teardown) :
    a.capacity ≤ (a.run ops).capacity := by
  induction ops generalizing a with
  | nil => exact Nat.le_refl _
  | cons o ops ih =>
    rw [List.forall_mem_cons] at ht
    have hstep := capacity_le_step (k := o.1) hs hc ht.1
    have hrest := ih (sound_step hs o.1 o.2) (Nat.lt_of_lt_of_le hc hstep) ht.2
    exact Nat.le_trans hstep hrest

/-- Every growth adds a factor of two. -/
theorem two_pow_growths_le (hs : a.Sound) (hc : 0 < a.capacity)
    (ht : ∀ o ∈ ops, o.2 ≠ .teardown) :
    2 ^ a.growths ops * a.capacity ≤ (a.run ops).capacity := by
  induction ops generalizing a with
  | nil => simp [growths, run]
  | cons o ops ih =>
    rw [List.forall_mem_cons] at ht
    have hstep := capacity_le_step (k := o.1) hs hc ht.1
    have hrest := ih (sound_step hs o.1 o.2) (Nat.lt_of_lt_of_le hc hstep) ht.2
    refine Nat.le_trans ?_ hrest
    rw [growths]
    split
    · rename_i hsame
      rw [Nat.zero_add, hsame]
    · rename_i hchanged
      obtain ⟨-, hdouble, -⟩ := (capacity_step (k := o.1) hs hc ht.1).resolve_left hchanged
      rw [Nat.add_comm, Nat.pow_succ, Nat.mul_assoc]
      exact Nat.mul_le_mul_left _ hdouble

theorem used_le_peak (a : Arena) (ops : List (Kernel × Op Block)) : a.used ≤ a.peak ops := by
  cases ops with
  | nil => exact Nat.le_refl _
  | cons o ops => exact Nat.le_max_left _ _

/-- Below any bound on the marks of the run, a growth stays below three times that bound. -/
theorem capacity_run_le (hs : a.Sound) (hc : 0 < a.capacity) (ht : ∀ o ∈ ops, o.2 ≠ .teardown)
    (hp : a.peak ops ≤ p) (h : a.capacity ≤ max i (3 * p)) :
    (a.run ops).capacity ≤ max i (3 * p) := by
  induction ops generalizing a with
  | nil => exact h
  | cons o ops ih =>
    rw [List.forall_mem_cons] at ht
    have hstep := capacity_le_step (k := o.1) hs hc ht.1
    have hpeak : (a.step o.1 o.2).state.peak ops ≤ p := Nat.le_trans (Nat.le_max_right _ _) hp
    have hbound : (a.step o.1 o.2).state.capacity ≤ max i (3 * p) := by
      rcases capacity_step (k := o.1) hs hc ht.1 with hsame | ⟨-, -, hmark⟩
      · rw [hsame]
        exact h
      · have hused := used_le_peak (a.step o.1 o.2).state ops
        omega
    exact ih (sound_step hs o.1 o.2) (Nat.lt_of_lt_of_le hc hstep) ht.2 hpeak hbound

theorem Created.capacity_eq (h : a.Created) : a.capacity = a.settings.effectiveInitial := by
  obtain ⟨k, m, s, hm, rfl⟩ := h.eq
  obtain ⟨n, -, -, rfl⟩ := Mapping.create_eq_ok hm
  rfl

/-- Only a request maps storage anew, and then its whole need lies below the mark. -/
theorem recreated_capacity (hs : a.Sound) (hm : a.mapping = none)
    (hne : (a.step k op).state.mapping ≠ none) :
    (a.step k op).state.capacity =
      max (a.step k op).state.used (a.step k op).state.settings.effectiveInitial := by
  have hset := settings_step hs k op
  by_cases hr : ∃ b, (a.step k op).result = .ok (some b)
  · obtain ⟨b, hb⟩ := hr
    obtain ⟨n, aligned, hreq, hn, hsup⟩ := supplies_step hb
    have hnone := capacity_of_unmapped hm
    obtain ⟨hzero, -, -⟩ := hs.empty_of_unmapped hm
    generalize (a.step k op).state = c at *
    cases hsup with
    | carved _ _ _ _ hcapacity => simp [hm, hne] at hcapacity
    | laid _ hr _ hused _ hcapacity =>
      rw [capacity_of_map hcapacity, hset, hused]
      cases hr with
      | spare hm' | grown hm' => simp [hm] at hm'
      | recreated _ _ _ hcreate =>
        obtain ⟨_, -, -, rfl⟩ := Mapping.create_eq_ok hcreate
        rw [hnone, hzero, Nat.mul_zero]
  · have ht : op ≠ .teardown := by
      rintro rfl
      simp [step, Reply.map, teardown, hm] at hne
    have hsame := map_capacity_step (k := k) hs (fun b hb => hr ⟨b, hb⟩) ht
    simp [hm, hne] at hsame

theorem JustMapped.reachable (h : a.JustMapped) : a.Reachable := by
  cases h with
  | created hc => exact ⟨_, [], hc, rfl⟩
  | recreated hr => exact hr.step _ _

theorem JustMapped.capacity_bounds (h : a.JustMapped) :
    0 < a.capacity ∧ a.capacity ≤ max a.settings.effectiveInitial (3 * a.used) := by
  have hpos := a.settings.effectiveInitial_pos
  have hcapacity : a.capacity = max a.used a.settings.effectiveInitial ∨
      a.capacity = a.settings.effectiveInitial := by
    cases h with
    | created hc => exact Or.inr hc.capacity_eq
    | recreated hr hm hne => exact Or.inl (recreated_capacity hr.sound hm hne)
  omega

/-- From the mapping of storage until it is given back, its capacity never falls, it changes only
for a request that fits nowhere, it doubles with each change, and it stays within three times the
greatest mark or the initial capacity. What no system maps bounds the number of changes. -/
theorem growth_geometric (h : a.JustMapped) (ht : ∀ o ∈ ops, o.2 ≠ .teardown) :
    (∀ pre post, ops = pre ++ post → (a.run pre).capacity ≤ (a.run ops).capacity) ∧
    (∀ pre o post, ops = pre ++ o :: post →
      ((a.run pre).step o.1 o.2).state.capacity ≠ (a.run pre).capacity →
      (a.run pre).Outgrown o.2) ∧
    2 ^ a.growths ops * a.capacity ≤ (a.run ops).capacity ∧
    (a.run ops).capacity ≤ max a.settings.effectiveInitial (3 * a.peak ops) ∧
    a.growths ops < 47 := by
  have hs := h.reachable.sound
  obtain ⟨hpos, hstart⟩ := h.capacity_bounds
  have hgrown := two_pow_growths_le hs hpos ht
  refine ⟨?_, ?_, hgrown, ?_, ?_⟩
  · rintro pre post rfl
    rw [List.forall_mem_append] at ht
    have hfront := capacity_le_run hs hpos ht.1
    rw [run_append]
    exact capacity_le_run (sound_run hs pre) (by omega) ht.2
  · rintro pre o post rfl hchanged
    rw [List.forall_mem_append, List.forall_mem_cons] at ht
    have hfront := capacity_le_run hs hpos ht.1
    exact ((capacity_step (sound_run hs pre) (by omega) ht.2.1).resolve_left hchanged).1
  · have hused := used_le_peak a ops
    exact capacity_run_le hs hpos ht (Nat.le_refl _) (by omega)
  · have hlimit : (a.run ops).capacity < 2 ^ 47 := (h.reachable.run ops).bounded.capacity_lt
    have hpow : 2 ^ a.growths ops ≤ 2 ^ a.growths ops * a.capacity := Nat.le_mul_of_pos_right _ hpos
    have hlt : 2 ^ a.growths ops < 2 ^ 47 := Nat.lt_of_le_of_lt (Nat.le_trans hpow hgrown) hlimit
    exact (Nat.pow_lt_pow_iff_right (by decide)).mp hlt

/-- Storage that a request of 5000 bytes mapped anew. -/
def remapped : Arena := blank.run (granted [.alloc 100, .teardown, .alloc 5000])

/-- Two requests outgrow it, on both sides of a release and a reset. A third one is refused. -/
def outgrowing : List (Kernel × Op Block) :=
  granted [.alloc 8, .free ⟨5000, 8, 0, 2⟩, .reset, .alloc 10000, .alloc 9] ++
    [(⟨0, false⟩, .alloc 50000)]

theorem remapped_growth :
    remapped.capacity = 5000 ∧ remapped.growths outgrowing = 2 ∧
    remapped.peak outgrowing = 10009 ∧ (remapped.run outgrowing).capacity = 20025 ∧
    2 ^ 2 * 5000 ≤ (remapped.run outgrowing).capacity ∧
    (remapped.run outgrowing).capacity ≤ max 4096 (3 * 10009) := by
  have hbefore : (blank.run (granted [.alloc 100, .teardown])).Reachable :=
    ⟨blank, _, created_blank, rfl⟩
  have h : remapped.JustMapped :=
    @JustMapped.recreated _ ⟨1, true⟩ (.alloc 5000) hbefore rfl (by decide)
  have ht : ∀ o ∈ outgrowing, o.2 ≠ .teardown := by
    simp [outgrowing, granted]
  obtain ⟨-, -, hgrown, hbound, -⟩ := growth_geometric h ht
  have hcapacity : remapped.capacity = 5000 := by decide
  have hgrowths : remapped.growths outgrowing = 2 := by decide
  have hpeak : remapped.peak outgrowing = 10009 := by decide
  rw [hcapacity, hgrowths] at hgrown
  rw [hpeak] at hbound
  exact ⟨hcapacity, hgrowths, hpeak, by decide, hgrown, hbound⟩

end Arena

end ArenaAlloc
