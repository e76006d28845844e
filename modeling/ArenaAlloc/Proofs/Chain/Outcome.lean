import ArenaAlloc.Proofs.Chain.Hygiene

/-! The exact outcome of a request to a chain. It depends on offsets only, not on addresses: the
current segment serves it if it fits there behind its padding, and otherwise a new segment does. -/
namespace ArenaAlloc.Chain

/-- The current segment `g` has room for the request at `o`, the first aligned offset that is not
handed out yet. An oversized request never fits. -/
def Fits (c : Chain) (size align : Nat) (g : Segment) (o : Nat) : Prop :=
  size ≤ c.settings.segment ∧ c.segments[c.current]? = some g ∧
    IsLeast {m | align ∣ m ∧ g.used ≤ m} o ∧ o + size ≤ g.capacity

/-- How a chain answers a request for `size` bytes that then hold `content`. -/
structure Served (c : Chain) (size align : Nat) (content : List UInt8)
    (r : Reply Chain (Except Fault Placement)) : Prop where
  fits : ∀ g o, c.Fits size align g o →
    r.result = .ok ⟨c.current, o, size⟩ ∧
      r.state = Chain.write
        { c with
          segments := c.segments.set c.current { g with used := o + size }
          alignment := c.alignment.spend
          allocations := c.allocations + 1 } ⟨c.current, o, size⟩ 0 content
  starts : (∀ g o, ¬ c.Fits size align g o) →
    (∀ f, ¬ Mapping.TooLong (max size c.settings.segment) f) →
    r.result = .ok ⟨c.segments.length, 0, size⟩ ∧
      ∃ m : Mapping, m.capacity = max size c.settings.segment ∧ m.bytes = {} ∧
        r.state = Chain.write
          { c with
            segments := c.segments ++ [{ mapping := m, used := size }]
            current := c.segments.length
            alignment := c.alignment.spend
            allocations := c.allocations + 1 } ⟨c.segments.length, 0, size⟩ 0 content
  fails : ∀ f, r.result = .error f ↔
    (∀ g o, ¬ c.Fits size align g o) ∧ Mapping.TooLong (max size c.settings.segment) f
  regular : size ≤ c.settings.segment → ∃ p, r.result = .ok p
  /-- Only the alignment state is spent in vain. -/
  kept : ∀ f, r.result = .error f → r.state = { c with alignment := c.alignment.spend }

variable {k : Kernel} {c : Chain} {g g' : Segment} {size align o : Nat} {content : List UInt8}
  {r : Reply Chain (Except Fault Placement)}

theorem bump?_segment (g : Segment) (ha : InPage align) (hn : 0 < size) :
    g.bump? size align =
      if Word.roundUp g.used align + size ≤ g.capacity then
        some (Word.roundUp g.used align, { g with used := Word.roundUp g.used align + size })
      else none := by
  have hsum := Word.add_padding g.used align
  simp only [Segment.bump?, padding_eq g ha, ← Nat.add_assoc, hsum]
  have hroom : Word.padding g.used align + size ≤ g.capacity - g.used ↔
      Word.roundUp g.used align + size ≤ g.capacity := by omega
  simp only [hroom]

theorem fits_iff (ha : InPage align) :
    c.Fits size align g o ↔ size ≤ c.settings.segment ∧ c.segments[c.current]? = some g ∧
      o = Word.roundUp g.used align ∧ o + size ≤ g.capacity := by
  obtain ⟨j, -, rfl⟩ := ha
  have hleast := Word.isLeast_roundUp g.used j
  constructor
  · rintro ⟨hsize, hg, ho, hroom⟩
    exact ⟨hsize, hg, ho.unique hleast, hroom⟩
  · rintro ⟨hsize, hg, rfl, hroom⟩
    exact ⟨hsize, hg, hleast, hroom⟩

/-- The chain aligns addresses, but hands out the least aligned offset. -/
theorem bump?_eq_some_iff (ha : InPage align) (hn : 0 < size) :
    c.bump? size align = some (o, g') ↔
      ∃ g, c.Fits size align g o ∧ g' = { g with used := o + size } := by
  simp only [fits_iff ha, bump?]
  split
  · rename_i hlarge
    constructor
    · intro h
      cases h
    · rintro ⟨g, ⟨hsize, -⟩, -⟩
      omega
  · rename_i hsmall
    rw [Option.bind_eq_some_iff]
    constructor
    · rintro ⟨g, hg, hbump⟩
      rw [bump?_segment g ha hn] at hbump
      split at hbump
      · rename_i hroom
        cases hbump
        exact ⟨g, ⟨Nat.le_of_not_lt hsmall, hg, rfl, hroom⟩, rfl⟩
      · cases hbump
    · rintro ⟨g, ⟨-, hg, rfl, hroom⟩, rfl⟩
      exact ⟨g, hg, by rw [bump?_segment g ha hn, if_pos hroom]⟩

theorem Fits.unique {g₁ : Segment} {o₁ : Nat} (h : c.Fits size align g o)
    (h₁ : c.Fits size align g₁ o₁) : g₁ = g ∧ o₁ = o := by
  obtain ⟨-, hg, ho, -⟩ := h
  obtain ⟨-, hg₁, ho₁, -⟩ := h₁
  obtain rfl : g₁ = g := Option.some.inj (hg₁.symm.trans hg)
  exact ⟨rfl, ho₁.unique ho⟩

theorem not_error {p : Placement} (h : r.result = .ok p) (f : Fault) : r.result ≠ .error f := by
  intro herror
  rw [h] at herror
  cases herror

theorem served_bumped (hfits : c.Fits size align g o)
    (hresult : r.result = .ok ⟨c.current, o, size⟩)
    (hstate : r.state = { c with
      segments := c.segments.set c.current { g with used := o + size }
      alignment := c.alignment.spend
      allocations := c.allocations + 1 }) : c.Served size align [] r := by
  constructor
  case fits =>
    intro g₁ o₁ hfits₁
    obtain ⟨rfl, rfl⟩ := hfits.unique hfits₁
    rw [write_nil]
    exact ⟨hresult, hstate⟩
  case starts =>
    intro hnone _
    exact absurd hfits (hnone g o)
  case fails =>
    intro f
    exact iff_of_false (not_error hresult f) fun h => h.1 g o hfits
  case regular =>
    intro _
    exact ⟨_, hresult⟩
  case kept =>
    intro f herror
    exact absurd herror (not_error hresult f)

theorem served_started {m : Mapping} (hk : k.page ≠ 0) (hnone : ∀ g o, ¬ c.Fits size align g o)
    (hm : Mapping.create k (max size c.settings.segment) = .ok m)
    (hresult : r.result = .ok ⟨c.segments.length, 0, size⟩)
    (hstate : r.state = { c with
      segments := c.segments ++ [{ mapping := m, used := size }]
      current := c.segments.length
      alignment := c.alignment.spend
      allocations := c.allocations + 1 }) : c.Served size align [] r := by
  constructor
  case fits =>
    intro g o hfits
    exact absurd hfits (hnone g o)
  case starts =>
    intro _ _
    obtain ⟨n, -, -, rfl⟩ := Mapping.create_eq_ok hm
    exact ⟨hresult, _, rfl, rfl, hstate.trans (write_nil _ _ _).symm⟩
  case fails =>
    intro f
    refine iff_of_false (not_error hresult f) fun h => ?_
    rw [(Mapping.create_error_iff hk).mpr h.2] at hm
    cases hm
  case regular =>
    intro _
    exact ⟨_, hresult⟩
  case kept =>
    intro f herror
    exact absurd herror (not_error hresult f)

theorem served_failed {f : Fault} (hk : k.page ≠ 0)
    (hshort : ∀ f, ¬ Mapping.TooLong c.settings.segment f)
    (hnone : ∀ g o, ¬ c.Fits size align g o)
    (hm : Mapping.create k (max size c.settings.segment) = .error f)
    (hresult : r.result = .error f) (hstate : r.state = { c with alignment := c.alignment.spend }) :
    c.Served size align [] r := by
  have hlong := (Mapping.create_error_iff hk).mp hm
  constructor
  case fits =>
    intro g o hfits
    exact absurd hfits (hnone g o)
  case starts =>
    intro _ hmapped
    exact absurd hlong (hmapped f)
  case fails =>
    intro f'
    rw [and_iff_right hnone, ← Mapping.create_error_iff hk, hm, hresult]
    simp only [Except.error.injEq]
  case regular =>
    intro hsize
    rw [Nat.max_eq_right hsize] at hlong
    exact absurd hlong (hshort f)
  case kept =>
    intro _ _
    exact hstate

theorem served_place (hk : k.page ≠ 0)
    (hshort : ∀ f, ¬ Mapping.TooLong c.settings.segment f) (ha : InPage align) (hn : 0 < size) :
    c.Served size align [] (place k { c with alignment := c.alignment.spend } size align) := by
  have hbumps : ∀ o g', bump? { c with alignment := c.alignment.spend } size align = some (o, g') ↔
      ∃ g, c.Fits size align g o ∧ g' = { g with used := o + size } :=
    fun _ _ => bump?_eq_some_iff ha hn
  cases hb : bump? { c with alignment := c.alignment.spend } size align with
  | some og =>
    obtain ⟨g, hfits, hg'⟩ := (hbumps og.1 og.2).mp hb
    simp only [place, hb, hg']
    exact served_bumped hfits rfl rfl
  | none =>
    have hnone : ∀ g o, ¬ c.Fits size align g o := by
      intro g o hfits
      have hsome := (hbumps o _).mpr ⟨g, hfits, rfl⟩
      rw [hb] at hsome
      cases hsome
    simp only [place, hb, start_eq ha]
    cases hm : Mapping.create k (max size c.settings.segment) with
    | error f => exact served_failed hk hshort hnone hm rfl rfl
    | ok m => exact served_started hk hnone hm rfl rfl

theorem served_allocAt (hk : k.page ≠ 0)
    (hshort : ∀ f, ¬ Mapping.TooLong c.settings.segment f) (ha : InPage align) (hn : 0 < size) :
    c.Served size (asked c.alignment align) [] (c.allocAt k size align) := by
  simp only [allocAt, if_neg (Nat.ne_of_gt hn), max_boundary ha]
  exact served_place hk hshort (inPage_asked ha _) hn

/-- A value that comes with the request is stored once there is a block for it. -/
theorem Served.store (h : c.Served size align [] r) (content : List UInt8) :
    c.Served size align content
      (match r.result with
      | .error _ => r
      | .ok p => { r with state := r.state.write p 0 content }) := by
  obtain ⟨state, result, events⟩ := r
  cases result with
  | error f =>
    constructor
    case fits =>
      intro g o hfits
      obtain ⟨hok, -⟩ := h.fits g o hfits
      cases hok
    case starts =>
      intro hnone hmapped
      obtain ⟨hok, -⟩ := h.starts hnone hmapped
      cases hok
    case fails => exact h.fails
    case regular => exact h.regular
    case kept => exact h.kept
  | ok p =>
    constructor
    case fits =>
      intro g o hfits
      obtain ⟨hok, hstate⟩ := h.fits g o hfits
      obtain rfl := Except.ok.inj hok
      rw [write_nil] at hstate
      exact ⟨rfl, congrArg (write · _ 0 content) hstate⟩
    case starts =>
      intro hnone hmapped
      obtain ⟨hok, m, hcapacity, hbytes, hstate⟩ := h.starts hnone hmapped
      obtain rfl := Except.ok.inj hok
      rw [write_nil] at hstate
      exact ⟨rfl, m, hcapacity, hbytes, congrArg (write · _ 0 content) hstate⟩
    case fails => exact h.fails
    case regular => exact h.regular
    case kept =>
      intro f herror
      cases herror

theorem served_allocValue (hk : k.page ≠ 0)
    (hshort : ∀ f, ¬ Mapping.TooLong c.settings.segment f) (l : Layout) (v : List Int)
    (hn : 0 < l.size) :
    c.Served l.size (asked c.alignment l.alignment) (l.encode v) (c.allocValue k l v) :=
  (served_allocAt hk hshort (inPage_alignment l) hn).store (l.encode v)

namespace Ledger

variable {s : Ledger}

/-- The first segment was mapped at the creation, so that regular segments can be mapped. -/
theorem Reachable.regular (h : s.Reachable) :
    ∀ f, ¬ Mapping.TooLong s.chain.settings.segment f := by
  obtain ⟨c, ops, hc, rfl⟩ := h
  refine run_rec (P := fun s => ∀ f, ¬ Mapping.TooLong s.chain.settings.segment f)
    (fun {k s op s'} h hm => ?_) ?_ ops
  · rw [settings_moves hm]
    exact h
  · obtain ⟨k, m, settings, hm, -, rfl⟩ := hc.eq
    obtain ⟨n, hn, -⟩ := Mapping.create_eq_ok hm
    intro f hlong
    rw [Mapping.lengthFor_error_iff.mpr hlong] at hn
    cases hn

/-- On a system that refuses only what is too long for it, the state of the chain decides where a
block goes, or that there is none. A regular request always gets one, and the first block of a new
segment always fits. -/
theorem outcome_decided (h : s.Reachable) (hk : k.page ≠ 0) :
    (∀ size align, 0 < size → InPage align →
      s.chain.Served size (asked s.chain.alignment align) [] (s.chain.allocAt k size align)) ∧
    (∀ n, 0 < n → s.chain.Served n (asked s.chain.alignment 1) [] (s.chain.alloc k n)) ∧
    (∀ (l : Layout) v, 0 < l.size →
      s.chain.Served l.size (asked s.chain.alignment l.alignment) (l.encode v)
        (s.chain.allocValue k l v)) ∧
    ∀ size align g, InPage align →
      Segment.create k (max size s.chain.settings.segment) = .ok g →
      g.bump? size align = some (0, { g with used := size }) := by
  have hshort := h.regular
  refine ⟨?_, ?_, ?_, ?_⟩
  · intro size align hn ha
    exact served_allocAt hk hshort ha hn
  · intro n hn
    exact served_allocAt hk hshort inPage_one hn
  · intro l v hn
    exact served_allocValue hk hshort l v hn
  · intro size align g ha hg
    exact bump?_fresh ha hg

/-- Eleven bytes remain, and an aligned block has to skip three of them. -/
def brimming : Ledger :=
  run { chain := blank } (granted [.alloc 4085, .direct .next])

theorem brimming_outcome :
    brimming.Reachable ∧ brimming.chain.segments.map Segment.used = [4085] ∧
    (brimming.chain.alloc ⟨1, true⟩ 8).result = .ok ⟨0, 4088, 8⟩ ∧
    (brimming.chain.alloc ⟨1, true⟩ 9).result = .ok ⟨1, 0, 9⟩ ∧
    (brimming.chain.alloc ⟨1, true⟩ 0x8000_0000_0000).result =
      .error (.allocationFailed 0x8000_0000_0000) ∧
    (brimming.chain.alloc ⟨1, true⟩ 0xFFFF_FFFF_FFFF_FFFF).result =
      .error (.capacityOverflow 0xFFFF_FFFF_FFFF_FFFF) := by
  have h : brimming.Reachable := ⟨blank, _, created_blank, rfl⟩
  obtain ⟨-, halloc, -, -⟩ := outcome_decided (k := ⟨1, true⟩) h (by decide)
  have hfits : brimming.chain.Fits 8 8 ⟨⟨32, 4096, 4096, {}⟩, 4085⟩ 4088 :=
    ⟨by decide, rfl, Word.isLeast_roundUp 4085 3, by decide⟩
  have hnone : ∀ n, 8 < n → ∀ g o, ¬ brimming.chain.Fits n 8 g o := by
    rintro n hn g o ⟨-, hg, ⟨⟨hdvd, hle⟩, -⟩, hroom⟩
    obtain rfl : (⟨⟨32, 4096, 4096, {}⟩, 4085⟩ : Segment) = g := Option.some.inj hg
    dsimp only [Segment.capacity] at hle hroom
    omega
  refine ⟨h, rfl, ?_, ?_, ?_, ?_⟩
  · exact ((halloc 8 (by decide)).fits _ _ hfits).1
  · exact ((halloc 9 (by decide)).starts (hnone 9 (by decide)) h.regular).1
  · exact ((halloc _ (by decide)).fails _).mpr
      ⟨hnone _ (by decide), .refused (by decide) (by decide)⟩
  · exact ((halloc _ (by decide)).fails _).mpr ⟨hnone _ (by decide), .noWord (by decide)⟩

end Ledger

end ArenaAlloc.Chain
