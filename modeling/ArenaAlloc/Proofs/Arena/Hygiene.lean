import ArenaAlloc.Proofs.Arena.Contents

/-! Zeroing of released bytes. Writes go to payloads and a release scrubs what it takes back, so
nothing shows outside the live payloads and every block starts out as zeros. A reset scrubs nothing:
the bytes stay until the storage itself goes. -/
namespace ArenaAlloc.Arena

/-- The offset lies in the payload of a live block. -/
def Held (a : Arena) (i : Nat) : Prop := ∃ b ∈ a.live.blocks, b.offset ≤ i ∧ i < b.stop

/-- All that is not in a live payload reads as zero. -/
def Clean (a : Arena) : Prop := ∀ i, ¬ a.Held i → a.byte i = 0

/-- No reset since the storage at hand was mapped: at the start, or when there was none. -/
def Unreset (a₀ : Arena) (ops : List (Kernel × Op Block)) : Prop :=
  ∃ front back, ops = front ++ back ∧ (front = [] ∨ (a₀.run front).mapping = none) ∧
    ∀ o ∈ back, o.2 ≠ .reset

variable {k : Kernel} {a a₀ a' : Arena} {b : Block} {e : Effect} {es : List Effect} {op : Op Block}
  {ops : List (Kernel × Op Block)} {i n : Nat}

theorem byte_of_unmapped (h : a.mapping = none) (i : Nat) : a.byte i = 0 := by
  simp only [byte, h]

theorem clean_of_unmapped (h : a.mapping = none) : a.Clean := fun i _ => byte_of_unmapped h i

theorem Held.contains (hs : a.Sound) (hb : b ∈ a.live.blocks) (hi : b.offset ≤ i ∧ i < b.stop) :
    b.extent.contains i = true := by
  have hin := Block.extent_contains (b := b) (i := i - b.offset)
    (by simp only [Block.stop] at hi; omega) (hs.payload b hb).2
  rwa [Nat.add_sub_cancel' hi.1] at hin

/-- Room is made of the bytes that are there and of zeros. -/
theorem Room.byte_or_zero {needed : Nat} {m : Mapping} (h : a.Room k needed m) (i : Nat) :
    m.bytes.get i = a.byte i ∨ m.bytes.get i = 0 := by
  cases h with
  | spare hm hroom => exact Or.inl (byte_eq hm i).symm
  | grown hm hfull hword hg =>
    rw [byte_eq hm]
    exact hg.byte_or_zero i
  | recreated hm hfull hword hc =>
    obtain ⟨n, -, -, rfl⟩ := Mapping.create_eq_ok hc
    exact Or.inr rfl

theorem byte_issued (ht : Takes k a (.issued b) a') (i : Nat) :
    a'.byte i = a.byte i ∨ a'.byte i = 0 := by
  cases ht with
  | reuse hn hf => exact Or.inl rfl
  | extend hn hf hm => exact hm.byte_or_zero i

theorem settings_takes (ht : Takes k a e a') : a'.settings = a.settings := by
  cases ht with
  | reuse | extend | write | retract | release | reset => rfl
  | teardown hm => simp only [teardown, hm]

theorem byte_scrubbed (h : a'.mapping = a.scrub b) (hz : a.settings.zeroOnFree = true)
    (hi : b.extent.contains i = true) : a'.byte i = 0 := by
  have hin := Span.contains_iff.mp hi
  simp only [scrub, hz, if_true] at h
  cases hm : a.mapping with
  | none =>
    rw [hm] at h
    exact byte_of_unmapped h i
  | some m =>
    rw [hm] at h
    rw [byte_eq h, Mapping.get_zero]
    exact if_pos hin

theorem scrub_of_freed (ht : Takes k a (.freed b) a') : a'.mapping = a.scrub b := by
  cases ht with
  | retract hb hu | release hb hu => rfl

/-- What a write changes is held by the block it goes to. -/
theorem byte_wrote {start : Nat} {data : List UInt8} (ht : Takes k a (.wrote b start data) a')
    (hi : ¬ (b.offset ≤ i ∧ i < b.stop)) : a'.byte i = a.byte i := by
  cases ht with
  | @write _ _ _ m hb hm =>
    simp only [Block.stop] at hi
    rw [byte_eq hm]
    exact Mapping.get_write_outside m b.offset start data (by omega)

/-- Every effect but a reset keeps the storage clean, since a release scrubs the bytes that it takes
out of a payload, and no other effect brings in anything but zeros. -/
theorem clean_takes (hs : a.Sound) (hz : a.settings.zeroOnFree = true) (h : a.Clean)
    (ht : Takes k a e a') (he : e ≠ .cleared) : a'.Clean := by
  intro i hi
  have hkept : ∀ c ∈ a.live.blocks, e ≠ .freed c → ¬ (c.offset ≤ i ∧ i < c.stop) := by
    intro c hc hf hin
    exact hi ⟨c, (mem_live_takes hs ht).mpr (Or.inr ⟨hc, hf, he⟩), hin⟩
  have hfree : (∀ c, e ≠ .freed c) → ¬ a.Held i := by
    rintro hf ⟨c, hc, hin⟩
    exact hkept c hc (hf c) hin
  cases e with
  | issued b =>
    rcases byte_issued ht i with hsame | hzero
    · exact hsame.trans (h i (hfree (by simp)))
    · exact hzero
  | wrote b start data =>
    have hb : b ∈ a.live.blocks := by
      cases ht with
      | write hb hm => exact hs.find?_iff.mp hb
    rw [byte_wrote ht (hkept b hb (by simp))]
    exact h i (hfree (by simp))
  | freed b =>
    have hmapping := scrub_of_freed ht
    by_cases hin : b.extent.contains i = true
    · exact byte_scrubbed hmapping hz hin
    · rw [byte_of_scrub hmapping (by simpa using hin)]
      apply h
      rintro ⟨c, hc, hcontains⟩
      have hne : b ≠ c := by
        rintro rfl
        exact hin (Held.contains hs hc hcontains)
      exact hkept c hc (by simpa using hne) hcontains
  | cleared => exact (he rfl).elim

theorem clean_takesAll (hs : a.Sound) (hz : a.settings.zeroOnFree = true) (h : a.Clean)
    (ht : TakesAll k a es a') (he : .cleared ∉ es) : a'.Clean := by
  induction es generalizing a with
  | nil =>
    obtain rfl : a' = a := ht
    exact h
  | cons e es ih =>
    obtain ⟨c, hstep, ht⟩ := ht
    rw [List.mem_cons, not_or] at he
    have hset := settings_takes hstep
    exact ih (sound_takes hs hstep) (hset ▸ hz) (clean_takes hs hz h hstep (Ne.symm he.1)) ht he.2

theorem settings_takesAll (ht : TakesAll k a es a') : a'.settings = a.settings := by
  induction es generalizing a with
  | nil => exact congrArg settings ht
  | cons e es ih =>
    obtain ⟨c, hstep, ht⟩ := ht
    exact (ih ht).trans (settings_takes hstep)

theorem settings_step (hs : a.Sound) (k : Kernel) (op : Op Block) :
    (a.step k op).state.settings = a.settings := by
  obtain ⟨m, ht⟩ := step_takes hs k op
  have hset := settings_takesAll ht
  exact hset

theorem settings_run (hs : a.Sound) (ops : List (Kernel × Op Block)) :
    (a.run ops).settings = a.settings := by
  induction ops generalizing a with
  | nil => rfl
  | cons o ops ih => exact (ih (sound_step hs o.1 o.2)).trans (settings_step hs o.1 o.2)

theorem not_cleared_effects (a : Arena) (k : Kernel) (hr : op ≠ .reset) (ht : op ≠ .teardown) :
    .cleared ∉ a.effects k op := by
  rw [effects]
  generalize (a.step k op).result = r
  cases op with
  | reset => exact (hr rfl).elim
  | teardown => exact (ht rfl).elim
  | alloc | allocAligned | allocValue =>
    rcases r with f | _ | b <;> simp [Effect.told]
  | free | write | direct =>
    rcases r with f | r <;> simp [Effect.told]

theorem clean_step (hs : a.Sound) (hz : a.settings.zeroOnFree = true) (h : a.Clean) (k : Kernel)
    (hr : op ≠ .reset) : (a.step k op).state.Clean := by
  by_cases ht : op = .teardown
  · subst ht
    apply clean_of_unmapped
    change a.teardown.state.mapping = none
    cases hm : a.mapping with
    | none => simp only [teardown, hm]
    | some m => simp only [teardown, hm]
  · obtain ⟨m, htakes⟩ := step_takes hs k op
    exact clean_takesAll (hs.align m) hz h htakes (not_cleared_effects a k hr ht)

theorem clean_run (hs : a.Sound) (hz : a.settings.zeroOnFree = true) (h : a.Clean)
    (hr : ∀ o ∈ ops, o.2 ≠ .reset) : (a.run ops).Clean := by
  induction ops generalizing a with
  | nil => exact h
  | cons o ops ih =>
    have hset := settings_step hs o.1 o.2
    refine ih (sound_step hs o.1 o.2) (hset ▸ hz) ?_ ?_
    · exact clean_step hs hz h o.1 (hr o List.mem_cons_self)
    · intro p hp
      exact hr p (List.mem_cons_of_mem _ hp)

theorem Created.clean (hc : a.Created) : a.Clean := by
  obtain ⟨k, m, s, hm, rfl⟩ := hc.eq
  obtain ⟨n, -, -, rfl⟩ := Mapping.create_eq_ok hm
  intro i _
  rfl

theorem clean_of_unreset (hc : a₀.Created) (hz : a₀.settings.zeroOnFree = true)
    (hr : Unreset a₀ ops) : (a₀.run ops).Clean := by
  obtain ⟨front, back, rfl, hstart, hback⟩ := hr
  have hs := sound_run hc.sound front
  have hset := settings_run hc.sound front
  rw [run_append]
  apply clean_run hs (hset ▸ hz) _ hback
  rcases hstart with rfl | hnone
  · exact hc.clean
  · exact clean_of_unmapped hnone

/-- The bytes of a new block lay in no payload before. -/
theorem read_issued (hs : a.Sound) (h : a.Clean) (ht : Takes k a (.issued b) a') :
    a'.read b = .ok (List.replicate b.len 0) := by
  have hs' := sound_takes hs ht
  have hb := mem_of_issued ht
  have hzero : ∀ i < b.len, a'.byte (b.offset + i) = 0 := by
    intro i hi
    have hfree : ¬ a.Held (b.offset + i) := by
      rintro ⟨c, hc, hin⟩
      have hlive : c ∈ a'.live.blocks := (mem_live_takes hs ht).mpr (Or.inr ⟨hc, by simp, by simp⟩)
      have hne : c ≠ b := by
        rintro rfl
        exact not_live_of_issued hs ht hc
      have hout := not_contains_payload hs' hb hlive hne hi
      rw [Held.contains hs' hlive hin] at hout
      contradiction
    rcases byte_issued ht (b.offset + i) with hsame | hz
    · exact hsame.trans (h _ hfree)
    · exact hz
  rw [read_live hs' hb, payload, Mapping.map_range'_eq_replicate hzero]

theorem read_alloc (hs : a.Sound) (h : a.Clean) (hb : (a.alloc k n).result = .ok b) :
    (a.alloc k n).state.read b = .ok (List.replicate n 0) := by
  obtain ⟨m, ⟨c, hc, ht⟩ | ⟨f, hf, -⟩⟩ := alloc_takes k a n
  · obtain rfl : c = b := Except.ok.inj (hc.symm.trans hb)
    rw [read_issued (hs.align m) h ht, len_of_alloc hb]
  · rw [hf] at hb
    contradiction

theorem read_allocAligned (hs : a.Sound) (h : a.Clean) (hb : (a.allocAligned k n).result = .ok b) :
    (a.allocAligned k n).state.read b = .ok (List.replicate n 0) := by
  obtain ⟨c, hc, ht⟩ | ⟨f, hf, -⟩ := allocAligned_takes k a n
  · obtain rfl : c = b := Except.ok.inj (hc.symm.trans hb)
    rw [read_issued hs h ht, len_of_allocAligned hb]
  · rw [hf] at hb
    contradiction

/-- Where releases zero and no reset has come over the storage at hand, only live payloads can hold
anything but zeros, and a new block reads as zeros wherever its bytes come from. -/
theorem unreset_storage_zero (hc : a₀.Created) (hz : a₀.settings.zeroOnFree = true)
    (hr : Unreset a₀ ops) :
    (∀ m, (a₀.run ops).mapping = some m →
      ∀ i < m.capacity, ¬ (a₀.run ops).Held i → m.bytes.get i = 0) ∧
    (∀ k n b, ((a₀.run ops).alloc k n).result = .ok b →
      ((a₀.run ops).alloc k n).state.read b = .ok (List.replicate n 0)) ∧
    ∀ k n b, ((a₀.run ops).allocAligned k n).result = .ok b →
      ((a₀.run ops).allocAligned k n).state.read b = .ok (List.replicate n 0) := by
  have hs := sound_run hc.sound ops
  have hclean := clean_of_unreset hc hz hr
  refine ⟨?_, ?_, ?_⟩
  · intro m hm i _ hi
    rw [← byte_eq hm]
    exact hclean i hi
  · intro k n b hb
    exact read_alloc hs hclean hb
  · intro k n b hb
    exact read_allocAligned hs hclean hb

/-- A reset leaves what was written where the next block finds it. -/
example : (blank.run (granted [.alloc 4, .write ⟨0, 4, 0, 0⟩ 0 [9], .reset, .alloc 4])).read
    ⟨0, 4, 0, 1⟩ = .ok [9, 0, 0, 0] := rfl

/-- Bytes left behind by a reset go with the storage. In the new one a block with padding in front
of it is written and released between two others. -/
def laundered : List (Kernel × Op Block) :=
  granted [.alloc 4, .write ⟨0, 4, 0, 0⟩ 0 [1, 2, 3, 4], .reset, .teardown] ++
    granted [.alloc 3, .allocAligned 8, .alloc 4, .write ⟨8, 8, 5, 2⟩ 0 [5, 6, 7],
      .free ⟨8, 8, 5, 2⟩]

theorem laundered_storage_zero :
    Unreset blank laundered ∧ ¬ (blank.run laundered).Held 8 ∧
    (∀ m, (blank.run laundered).mapping = some m → m.bytes.get 8 = 0) ∧
    ((blank.run laundered).alloc ⟨1, true⟩ 13).result = .ok ⟨3, 13, 0, 4⟩ ∧
    ((blank.run laundered).alloc ⟨1, true⟩ 13).state.read ⟨3, 13, 0, 4⟩ =
      .ok (List.replicate 13 0) := by
  have hr : Unreset blank laundered := ⟨_, _, rfl, Or.inr rfl, by simp [granted]⟩
  have hfree : ¬ (blank.run laundered).Held 8 := by
    have hlive : (blank.run laundered).live.blocks = [⟨16, 4, 0, 3⟩, ⟨0, 3, 0, 1⟩] := rfl
    rintro ⟨b, hb, hin⟩
    simp only [hlive, List.mem_cons, List.not_mem_nil, or_false] at hb
    rcases hb with rfl | rfl <;> simp [Block.stop] at hin
  obtain ⟨hzero, halloc, -⟩ := unreset_storage_zero created_blank rfl hr
  have hresult : ((blank.run laundered).alloc ⟨1, true⟩ 13).result = .ok ⟨3, 13, 0, 4⟩ := rfl
  have hroom : ∀ m, (blank.run laundered).mapping = some m → 8 < m.capacity := by
    intro m hm
    cases hm
    decide
  exact ⟨hr, hfree, fun m hm => hzero m hm 8 (hroom m hm) hfree, hresult, halloc _ _ _ hresult⟩

end ArenaAlloc.Arena
