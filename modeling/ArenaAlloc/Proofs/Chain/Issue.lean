import ArenaAlloc.Chain.Run
import ArenaAlloc.Proofs.Mapping

/-! How a chain serves a request: from the current segment, from the front of a new one, or not at
all. -/
namespace ArenaAlloc.Chain

/-- Powers of two up to the page. What starts on a page is aligned to every one of them. -/
def InPage (align : Nat) : Prop := ∃ j ≤ 12, align = 2 ^ j

/-- The alignment of a request that calls for `align` itself: a word at least, unless the state just
before it is `unaligned`. -/
def asked (m : Alignment) (align : Nat) : Nat := if m = .unaligned then align else max align 8

/-- The alignment of the block that an operation asks for. -/
def Op.align? {β : Type} (m : Alignment) : Op β → Option Nat
  | .alloc _ => some (asked m 1)
  | .allocValue l _ => some (asked m l.alignment)
  | _ => none

/-- The two ways in which a chain issues a block, with the events it reports. -/
inductive Issues (k : Kernel) (c : Chain) (size align : Nat) :
    Placement → Chain → List Event → Prop
  | bumped {s : Segment} : size ≤ c.settings.segment → c.segments[c.current]? = some s →
      s.padding align + size ≤ s.capacity - s.used →
      Issues k c size align ⟨c.current, s.used + s.padding align, size⟩
        { c with
          segments := c.segments.set c.current { s with used := s.used + (s.padding align + size) }
          allocations := c.allocations + 1 } []
  | started {m : Mapping} : c.bump? size align = none →
      Mapping.create k (max size c.settings.segment) = .ok m →
      Issues k c size align ⟨c.segments.length, 0, size⟩
        { c with
          segments := c.segments ++ [{ mapping := m, used := size }]
          current := c.segments.length
          allocations := c.allocations + 1 }
        [.segmentStarted c.segments.length m.capacity (c.settings.segment < size)]

variable {k : Kernel} {c : Chain} {op : Op Placement} {size align : Nat}

theorem inPage_one : InPage 1 := ⟨0, by decide, rfl⟩

theorem InPage.bounds (ha : InPage align) : 0 < align ∧ align ≤ pageSize := by
  obtain ⟨j, hj, rfl⟩ := ha
  exact ⟨Nat.two_pow_pos j, Nat.pow_le_pow_right (by decide) hj⟩

theorem inPage_alignment (l : Layout) : InPage l.alignment := by
  simp only [Layout.alignment]
  cases l.elem.width with
  | w8 => exact ⟨0, by decide, rfl⟩
  | w16 => exact ⟨1, by decide, rfl⟩
  | w32 => exact ⟨2, by decide, rfl⟩
  | w64 => exact ⟨3, by decide, rfl⟩
  | w128 => exact ⟨4, by decide, rfl⟩

theorem InPage.max (ha : InPage align) {other : Nat} (ho : InPage other) :
    InPage (max align other) := by
  rcases Nat.le_total align other with h | h
  · rwa [Nat.max_eq_right h]
  · rwa [Nat.max_eq_left h]

theorem inPage_boundary (b : Bool) : InPage (Alignment.boundary b) := by
  cases b with
  | false => exact inPage_one
  | true => exact ⟨3, by decide, rfl⟩

theorem max_boundary (ha : InPage align) (m : Alignment) :
    max align (Alignment.boundary m.aligns) = asked m align := by
  cases m with
  | unaligned => exact Nat.max_eq_left ha.bounds.1
  | next | always => rfl

theorem inPage_asked (ha : InPage align) (m : Alignment) : InPage (asked m align) := by
  rw [← max_boundary ha]
  exact ha.max (inPage_boundary _)

theorem inPage_align? {β : Type} {op : Op β} {m : Alignment} (h : op.align? m = some align) :
    InPage align := by
  cases op with
  | alloc n =>
    cases h
    exact inPage_asked inPage_one m
  | allocValue l v =>
    cases h
    exact inPage_asked (inPage_alignment l) m
  | write | direct | reset | teardown => cases h

theorem InPage.dvd_base (ha : InPage align) (r : Mapping) : align ∣ r.base := by
  obtain ⟨j, hj, rfl⟩ := ha
  have hpage : 2 ^ j ∣ pageSize := Nat.pow_dvd_pow 2 hj
  exact Nat.dvd_mul_left_of_dvd hpage r.page

/-- Mappings start on a page, so an address is aligned just when its offset is. -/
theorem padding_eq (g : Segment) (ha : InPage align) :
    g.padding align = Word.padding g.used align := by
  have hbase := ha.dvd_base g.mapping
  obtain ⟨j, -, rfl⟩ := ha
  exact Word.padding_add hbase g.used

/-- The front of a new segment needs no padding. -/
theorem padding_front (m : Mapping) (ha : InPage align) :
    Segment.padding { mapping := m } align = 0 := by
  rw [padding_eq _ ha]
  obtain ⟨j, -, rfl⟩ := ha
  exact Word.padding_eq_zero (Nat.dvd_zero _)

/-- The first block of a new segment always fits. -/
theorem bump?_fresh (ha : InPage align) {g : Segment}
    (h : Segment.create k (max size c.settings.segment) = .ok g) :
    g.bump? size align = some (0, { g with used := size }) := by
  obtain ⟨m, hm, rfl⟩ := Mapping.map_eq_ok h
  obtain ⟨n, -, -, rfl⟩ := Mapping.create_eq_ok hm
  have hroom : size ≤ max size c.settings.segment := Nat.le_max_left _ _
  simp only [Segment.bump?, padding_front _ ha, Segment.capacity, Nat.zero_add, Nat.sub_zero,
    if_pos hroom]

theorem start_eq (ha : InPage align) :
    c.start k size align =
      (Mapping.create k (max size c.settings.segment)).map fun m =>
        (0, { mapping := m, used := size }) := by
  unfold start
  cases hm : Mapping.create k (max size c.settings.segment) with
  | error f =>
    rw [Segment.create, hm]
    rfl
  | ok m =>
    have hg : Segment.create k (max size c.settings.segment) = .ok { mapping := m } := by
      rw [Segment.create, hm]
      rfl
    have hbump := bump?_fresh ha hg
    simp only [hg, hbump, Except.map]

theorem place_issues (k : Kernel) (c : Chain) (size : Nat) (ha : InPage align) :
    (∃ p, (c.place k size align).result = .ok p ∧
      Issues k c size align p (c.place k size align).state (c.place k size align).events) ∨
    ∃ f, c.place k size align = .fail c f := by
  simp only [place]
  split
  · rename_i offset s hbump
    simp only [bump?] at hbump
    split at hbump
    · cases hbump
    rename_i hsize
    obtain ⟨s₀, hs₀, hbump⟩ := Option.bind_eq_some_iff.mp hbump
    simp only [Segment.bump?] at hbump
    split at hbump
    · rename_i hroom
      cases hbump
      exact Or.inl ⟨_, rfl, .bumped (Nat.le_of_not_lt hsize) hs₀ hroom⟩
    · cases hbump
  · rename_i hbump
    rw [start_eq ha]
    cases hm : Mapping.create k (max size c.settings.segment) with
    | error f => exact Or.inr ⟨f, rfl⟩
    | ok m => exact Or.inl ⟨_, rfl, .started hbump hm⟩

theorem allocAt_issues (k : Kernel) (c : Chain) (size : Nat) (ha : InPage align) :
    (∃ p, (c.allocAt k size align).result = .ok p ∧ 0 < size ∧
      Issues k { c with alignment := c.alignment.spend } size (asked c.alignment align) p
        (c.allocAt k size align).state (c.allocAt k size align).events) ∨
    ∃ f m, c.allocAt k size align = .fail { c with alignment := m } f := by
  by_cases hn : size = 0
  · simp only [allocAt, if_pos hn]
    exact Or.inr ⟨_, c.alignment, rfl⟩
  · simp only [allocAt, if_neg hn, max_boundary ha]
    rcases place_issues k _ size (inPage_asked ha _) with ⟨p, hp, hi⟩ | ⟨f, hf⟩
    · exact Or.inl ⟨p, hp, Nat.pos_of_ne_zero hn, hi⟩
    · exact Or.inr ⟨f, _, hf⟩

theorem write_nil (c : Chain) (p : Placement) (start : Nat) : c.write p start [] = c := by
  have hsame : (fun s : Segment => { s with
      mapping := s.mapping.write (p.offset + start) (([] : List UInt8).take (p.len - start)) }) =
      id := by
    funext s
    rw [List.take_nil]
    rfl
  simp only [write, hsame, List.modify_id]

/-- An operation that asks for a block gets one, and stores in it what came with the request, or
changes the alignment state at most. -/
theorem step_issues (k : Kernel) (c : Chain) (ho : op.allocates = true) :
    (∃ p size align m c' data, (c.step k op).result = .ok (some p) ∧
      op.align? c.alignment = some align ∧ 0 < size ∧
      Issues k { c with alignment := m } size align p c' (c.step k op).events ∧
      (c.step k op).state = c'.write p 0 data) ∨
    (∃ f m, (c.step k op).result = .error f ∧ (c.step k op).state = { c with alignment := m } ∧
      (c.step k op).events = []) := by
  cases op with
  | alloc n =>
    rcases allocAt_issues k c n inPage_one with
      ⟨p, hp, hn, hi⟩ | ⟨f, m, hf⟩
    · refine Or.inl ⟨p, n, _, _, _, [], congrArg (Except.map some) hp, rfl, hn, hi, ?_⟩
      rw [write_nil]
      rfl
    · refine Or.inr ⟨f, m, ?_⟩
      simp only [step, alloc, hf, Reply.map, Reply.fail, Except.map, and_self]
  | allocValue l v =>
    rcases allocAt_issues k c l.size (inPage_alignment l) with
      ⟨p, hp, hn, hi⟩ | ⟨f, m, hf⟩
    · have hvalue : c.allocValue k l v = { c.allocAt k l.size l.alignment with
          state := (c.allocAt k l.size l.alignment).state.write p 0 (l.encode v) } := by
        simp only [allocValue, hp]
      have hresult : (c.step k (.allocValue l v)).result = .ok (some p) := by
        simp only [step, hvalue, Reply.map, hp, Except.map]
      have hevents : (c.step k (.allocValue l v)).events =
          (c.allocAt k l.size l.alignment).events := congrArg Reply.events hvalue
      rw [← hevents] at hi
      exact Or.inl ⟨p, _, _, _, _, l.encode v, hresult, rfl, hn, hi, congrArg Reply.state hvalue⟩
    · refine Or.inr ⟨f, m, ?_⟩
      simp only [step, allocValue, hf, Reply.map, Reply.fail, Except.map, and_self]
  | write | direct | reset | teardown => contradiction

end ArenaAlloc.Chain
