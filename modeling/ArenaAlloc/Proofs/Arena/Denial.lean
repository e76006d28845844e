import ArenaAlloc.Proofs.Arena.Layout

/-! When an arena has no block to give, with which fault, and that a denied request leaves no trace
but a spent alignment. -/
namespace ArenaAlloc

/-- Bytes that bring an offset to the next multiple of eight, if that is asked for. -/
def Alignment.gap (aligned : Bool) (o : Nat) : Nat := if aligned then (8 - o % 8) % 8 else 0

theorem Alignment.padding_boundary (aligned : Bool) (o : Nat) :
    Word.padding o (boundary aligned) = gap aligned o := by
  cases aligned with
  | false => exact Word.padding_one o
  | true =>
    have hdvd : 2 ^ 3 ∣ o + Word.padding o (2 ^ 3) := by
      rw [Word.add_padding]
      exact Word.dvd_roundUp o 3
    have hlt := Word.padding_lt o 3
    have hboundary : boundary true = 2 ^ 3 := rfl
    rw [hboundary]
    simp only [gap, if_true]
    omega

theorem Alignment.aligns_eq (m : Alignment) : m.aligns = decide (m ≠ .unaligned) := by
  cases m <;> rfl

namespace Arena

/-- Bytes that a request for `n` bytes takes up from `o` on, with the padding in front of them. -/
def demand (aligned : Bool) (n o : Nat) : Nat := Alignment.gap aligned o + n

/-- Bytes past the mark that a request takes up, padding included. -/
def need (a : Arena) (aligned : Bool) (n : Nat) : Nat := demand aligned n a.used

/-- No free span holds the request. -/
def Full (a : Arena) (aligned : Bool) (n : Nat) : Prop :=
  ∀ s ∈ a.freeList.spans, s.size < demand aligned n s.offset

/-- The capacity that storage is to have when it has no room for `needed` more bytes. -/
def wanted (a : Arena) (needed : Nat) : Nat :=
  match a.mapping with
  | some _ => 2 * a.capacity + needed
  | none => max needed a.settings.effectiveInitial

/-- Bytes of all pages that are mapped. -/
def mapped (a : Arena) : Nat :=
  match a.mapping with
  | some m => m.mapped
  | none => 0

/-- Neither a free span nor the storage behind the mark has room for the request. -/
structure Starved (a : Arena) (aligned : Bool) (size : Nat) : Prop where
  pos : 0 < size
  full : a.Full aligned size
  word : a.need aligned size < Word.limit
  short : a.capacity - a.used < a.need aligned size

/-- The faults of a request, each with the reason for it. At most one of them applies. -/
inductive Denied (a : Arena) (aligned : Bool) (size : Nat) : Fault → Prop
  | empty : size = 0 → Denied a aligned size .zeroSizedRequest
  | oversized : 0 < size → a.Full aligned size → Word.limit ≤ a.need aligned size →
      Denied a aligned size (.capacityOverflow size)
  | undoubled : a.Starved aligned size → Word.limit ≤ 2 * a.capacity + a.need aligned size →
      Denied a aligned size (.capacityOverflow (a.need aligned size))
  | unmapped {f : Fault} : a.Starved aligned size →
      2 * a.capacity + a.need aligned size < Word.limit →
      a.mapped < a.wanted (a.need aligned size) →
      Mapping.TooLong (a.wanted (a.need aligned size)) f → Denied a aligned size f

variable {k : Kernel} {a : Arena} {f : Fault} {aligned : Bool} {size needed : Nat}

theorem padding_boundary_add (aligned : Bool) (o n : Nat) :
    Word.padding o (Alignment.boundary aligned) + n = demand aligned n o := by
  rw [Alignment.padding_boundary, demand]

theorem bestFit?_eq_none_iff_full (hn : 0 < size) :
    a.freeList.bestFit? size (Alignment.boundary aligned) = none ↔ a.Full aligned size := by
  rw [FreeList.bestFit?_eq_none_iff hn]
  simp only [Full, Span.padding, padding_boundary_add]

theorem map_eq_error_iff {ε α β : Type} {x : Except ε α} {g : α → β} {e : ε} :
    x.map g = .error e ↔ x = .error e := by
  cases x <;> simp [Except.map]

theorem Starved.realign (h : a.Starved aligned size) (m : Alignment) :
    ({ a with alignment := m } : Arena).Starved aligned size :=
  ⟨h.pos, h.full, h.word, h.short⟩

theorem Denied.realign (h : a.Denied aligned size f) (m : Alignment) :
    ({ a with alignment := m } : Arena).Denied aligned size f := by
  cases h with
  | empty hn => exact .empty hn
  | oversized hn hfull hword => exact .oversized hn hfull hword
  | undoubled hs hdouble => exact .undoubled (hs.realign m) hdouble
  | unmapped hs hdouble hmapped hlong => exact .unmapped (hs.realign m) hdouble hmapped hlong

/-- More storage is refused when its capacity is no word or its pages cannot be mapped. -/
theorem makeRoom_error_iff (hk : k.page ≠ 0) (hn : 0 < needed) :
    a.makeRoom k needed = .error f ↔
      a.capacity - a.used < needed ∧
      (Word.limit ≤ 2 * a.capacity + needed ∧ f = .capacityOverflow needed ∨
        2 * a.capacity + needed < Word.limit ∧ a.mapped < a.wanted needed ∧
          Mapping.TooLong (a.wanted needed) f) := by
  simp only [makeRoom]
  split
  · rename_i hroom
    constructor
    · intro h
      cases h
    · intro h
      omega
  rename_i hfull
  rw [and_iff_right (by omega)]
  split
  · rename_i hword
    constructor
    · intro h
      cases h
      exact Or.inl ⟨hword, rfl⟩
    · rintro (⟨-, rfl⟩ | ⟨hlt, -⟩)
      · rfl
      · omega
  rename_i hword
  rw [or_iff_right (by omega), and_iff_right (by omega)]
  cases hm : a.mapping with
  | some m =>
    have hcapacity := capacity_of_mapped hm
    simp only [map_eq_error_iff, Mapping.grow_error_iff hk, wanted, mapped, hm]
    exact and_iff_right (by omega)
  | none =>
    have hcapacity := capacity_of_unmapped hm
    simp only [map_eq_error_iff, Mapping.create_error_iff hk, wanted, mapped, hm, hcapacity,
      Nat.mul_zero, Nat.zero_add]
    exact (and_iff_right (Nat.lt_of_lt_of_le hn (Nat.le_max_left _ _))).symm

theorem extend_error_iff :
    (a.extend k size (Alignment.boundary aligned)).result = .error f ↔
      Word.limit ≤ a.need aligned size ∧ f = .capacityOverflow size ∨
      a.need aligned size < Word.limit ∧ a.makeRoom k (a.need aligned size) = .error f := by
  simp only [extend, need, padding_boundary_add]
  split
  · rename_i hword
    rw [or_iff_left (by omega), and_iff_right hword]
    exact ⟨fun h => (Except.error.inj h).symm, fun h => congrArg Except.error h.symm⟩
  rename_i hword
  rw [or_iff_right (by omega), and_iff_right (by omega)]
  split
  · rename_i g hg
    simp only [Reply.fail, hg, Except.error.injEq]
  · rename_i a' events hroom
    rw [hroom]
    constructor
    · intro h
      cases h
    · intro h
      cases h

theorem place_error_iff (hk : k.page ≠ 0) (hn : 0 < size) :
    (a.place k size (Alignment.boundary aligned)).result = .error f ↔
      a.Denied aligned size f := by
  simp only [place]
  split
  · rename_i fit hfit
    refine iff_of_false (fun h => by cases h) fun h => ?_
    have hfull : a.Full aligned size := by
      cases h with
      | empty hz => omega
      | oversized _ hf _ => exact hf
      | undoubled hs _ => exact hs.full
      | unmapped hs _ _ _ => exact hs.full
    rw [(bestFit?_eq_none_iff_full hn).mpr hfull] at hfit
    cases hfit
  · rename_i hfit
    have hfull : a.Full aligned size := (bestFit?_eq_none_iff_full hn).mp hfit
    have hneed : 0 < a.need aligned size := Nat.add_pos_right _ hn
    rw [extend_error_iff, makeRoom_error_iff hk hneed]
    constructor
    · rintro (⟨hword, rfl⟩ | ⟨hword, hshort, ⟨hdouble, rfl⟩ | ⟨hdouble, hmapped, hlong⟩⟩)
      · exact .oversized hn hfull hword
      · exact .undoubled ⟨hn, hfull, hword, hshort⟩ hdouble
      · exact .unmapped ⟨hn, hfull, hword, hshort⟩ hdouble hmapped hlong
    · intro h
      cases h with
      | empty hz => omega
      | oversized _ _ hword => exact Or.inl ⟨hword, rfl⟩
      | undoubled hs hdouble => exact Or.inr ⟨hs.word, hs.short, Or.inl ⟨hdouble, rfl⟩⟩
      | unmapped hs hdouble hmapped hlong =>
        exact Or.inr ⟨hs.word, hs.short, Or.inr ⟨hdouble, hmapped, hlong⟩⟩

theorem denied_zero_iff : a.Denied aligned 0 f ↔ f = .zeroSizedRequest := by
  constructor
  · intro h
    cases h with
    | empty => rfl
    | oversized hn _ _ => exact (Nat.lt_irrefl 0 hn).elim
    | undoubled hs _ => exact (Nat.lt_irrefl 0 hs.pos).elim
    | unmapped hs _ _ _ => exact (Nat.lt_irrefl 0 hs.pos).elim
  · rintro rfl
    exact .empty rfl

theorem alloc_error_iff (hk : k.page ≠ 0) :
    (a.alloc k size).result = .error f ↔ a.Denied a.alignment.aligns size f := by
  by_cases hn : size = 0
  · subst hn
    rw [denied_zero_iff]
    exact ⟨fun h => (Except.error.inj h).symm, fun h => congrArg Except.error h.symm⟩
  · simp only [alloc, if_neg hn]
    rw [place_error_iff hk (Nat.pos_of_ne_zero hn)]
    exact ⟨fun h => h.realign a.alignment, fun h => h.realign _⟩

theorem allocAligned_error_iff (hk : k.page ≠ 0) :
    (a.allocAligned k size).result = .error f ↔ a.Denied true size f := by
  by_cases hn : size = 0
  · subst hn
    rw [denied_zero_iff]
    exact ⟨fun h => (Except.error.inj h).symm, fun h => congrArg Except.error h.symm⟩
  · simp only [allocAligned, if_neg hn]
    exact place_error_iff hk (Nat.pos_of_ne_zero hn)

theorem place_state_of_error (hn : 0 < size)
    (h : (a.place k size (Alignment.boundary aligned)).result = .error f) :
    (a.place k size (Alignment.boundary aligned)).state = a := by
  obtain ⟨b, hb, -⟩ | ⟨g, -, hstate⟩ := place_takes (k := k) (a := a) hn aligned
  · rw [hb] at h
    cases h
  · exact hstate

theorem alloc_state_of_error (h : (a.alloc k size).result = .error f) :
    (a.alloc k size).state =
      { a with
        alignment := if 0 < size ∧ a.alignment = .next then .unaligned else a.alignment } := by
  by_cases hn : size = 0
  · subst hn
    rfl
  · have hpos := Nat.pos_of_ne_zero hn
    have hspend : a.alignment.spend =
        if 0 < size ∧ a.alignment = .next then .unaligned else a.alignment := by
      cases a.alignment <;> simp [Alignment.spend, hpos]
    simp only [alloc, if_neg hn] at h ⊢
    rw [place_state_of_error hpos h, hspend]

theorem allocAligned_state_of_error (h : (a.allocAligned k size).result = .error f) :
    (a.allocAligned k size).state = a := by
  by_cases hn : size = 0
  · subst hn
    rfl
  · simp only [allocAligned, if_neg hn] at h ⊢
    exact place_state_of_error (Nat.pos_of_ne_zero hn) h

/-- On a system that maps whatever is not too long, a request fails just for the reasons listed, and
a failure changes nothing but a pending alignment of a request that is not empty. This holds of every
arena, whether or not a run leads to it. -/
theorem fails_iff_denied (a : Arena) (hk : k.page ≠ 0) (size : Nat) :
    (a.alignment = .unaligned →
      ∀ f, (a.alloc k size).result = .error f ↔ a.Denied false size f) ∧
    (a.alignment = .next ∨ a.alignment = .always →
      ∀ f, (a.alloc k size).result = .error f ↔ a.Denied true size f) ∧
    (∀ f, (a.allocAligned k size).result = .error f ↔ a.Denied true size f) ∧
    (∀ f, (a.alloc k size).result = .error f → (a.alloc k size).state =
      { a with
        alignment := if 0 < size ∧ a.alignment = .next then .unaligned else a.alignment }) ∧
    (∀ f, (a.allocAligned k size).result = .error f → (a.allocAligned k size).state = a) := by
  refine ⟨?_, ?_, fun _ => allocAligned_error_iff hk, fun _ => alloc_state_of_error,
    fun _ => allocAligned_state_of_error⟩
  · intro hm f
    rw [alloc_error_iff hk, hm]
    rfl
  · rintro (hm | hm) f <;> rw [alloc_error_iff hk, hm] <;> rfl

/-- Three bytes are in use, and the next block is to be aligned. -/
def pending : Arena := blank.run (granted [.alloc 3, .direct .next])

/-- Requests that fail by one byte each: in turn the padded size, the doubled capacity and its pages
are no word, and the pages are too many, with padding and then without. -/
theorem pending_denied :
    (pending.alloc ⟨1, true⟩ 0xFFFF_FFFF_FFFF_FFFB).result =
      .error (.capacityOverflow 0xFFFF_FFFF_FFFF_FFFB) ∧
    (pending.alloc ⟨1, true⟩ 0xFFFF_FFFF_FFFF_FFFB).state =
      { pending with alignment := .unaligned } ∧
    (pending.allocAligned ⟨1, true⟩ 0xFFFF_FFFF_FFFF_DFFB).result =
      .error (.capacityOverflow 0xFFFF_FFFF_FFFF_E000) ∧
    (pending.allocAligned ⟨1, true⟩ 0xFFFF_FFFF_FFFF_CFFC).result =
      .error (.capacityOverflow 0xFFFF_FFFF_FFFF_F001) ∧
    (pending.allocAligned ⟨1, true⟩ 0x7FFF_FFFF_CFFC).result =
      .error (.allocationFailed 0x7FFF_FFFF_F001) ∧
    (pending.allocAligned ⟨1, true⟩ 0x7FFF_FFFF_CFFC).state = pending ∧
    ((pending.direct .off).alloc ⟨1, true⟩ 0x7FFF_FFFF_D001).result =
      .error (.allocationFailed 0x7FFF_FFFF_F001) := by
  have hfull : ∀ aligned size, pending.Full aligned size := by
    intro aligned size s hs
    have hspans : pending.freeList.spans = [] := rfl
    rw [hspans] at hs
    cases hs
  have hstarved : ∀ size, 0 < size → pending.need true size < Word.limit →
      pending.capacity - pending.used < pending.need true size → pending.Starved true size :=
    fun size hpos hword hshort => ⟨hpos, hfull true size, hword, hshort⟩
  have hdenied (size : Nat) := fails_iff_denied (k := ⟨1, true⟩) pending (by decide) size
  obtain ⟨-, hnext, -, hspent, -⟩ := hdenied 0xFFFF_FFFF_FFFF_FFFB
  have hpadded := (hnext (Or.inl rfl) _).mpr (.oversized (by decide) (hfull _ _) (by decide))
  obtain ⟨-, -, haligned, -, hkept⟩ := hdenied 0x7FFF_FFFF_CFFC
  have hpages := (haligned (.allocationFailed 0x7FFF_FFFF_F001)).mpr
    (.unmapped (hstarved _ (by decide) (by decide) (by decide)) (by decide) (by decide)
      (.refused (by decide) (by decide)))
  refine ⟨hpadded, hspent _ hpadded, ?_, ?_, hpages, hkept _ hpages, ?_⟩
  · obtain ⟨-, -, haligned, -, -⟩ := hdenied 0xFFFF_FFFF_FFFF_DFFB
    exact (haligned _).mpr
      (.undoubled (hstarved _ (by decide) (by decide) (by decide)) (by decide))
  · obtain ⟨-, -, haligned, -, -⟩ := hdenied 0xFFFF_FFFF_FFFF_CFFC
    exact (haligned _).mpr
      (.unmapped (hstarved _ (by decide) (by decide) (by decide)) (by decide) (by decide)
        (.noWord (by decide)))
  · obtain ⟨hplain, -⟩ := fails_iff_denied (k := ⟨1, true⟩) (pending.direct .off) (by decide)
      0x7FFF_FFFF_D001
    exact (hplain rfl _).mpr
      (.unmapped ⟨by decide, hfull false _, by decide, by decide⟩ (by decide) (by decide)
        (.refused (by decide) (by decide)))

end Arena

end ArenaAlloc
