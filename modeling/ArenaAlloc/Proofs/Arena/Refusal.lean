import ArenaAlloc.Proofs.Arena.Liveness

/-! Which fault a handle meets once its block is gone. For every use but a release it is a handle of
no block. A release is told as a double one if a free span now holds its offset, or a younger block
starts there. -/
namespace ArenaAlloc.Arena

/-- A free span holds the offset, or a live block starts there. -/
def Regained (a : Arena) (o : Nat) : Prop :=
  (∃ s ∈ a.freeList.spans, s.offset ≤ o ∧ o < s.offset + s.size) ∨ ∃ l ∈ a.live.blocks, l.offset = o

instance (a : Arena) (o : Nat) : Decidable (a.Regained o) := inferInstanceAs (Decidable (_ ∨ _))

/-- Every use of the handle but a release ends as if no block belonged to it. -/
structure Unknown (a : Arena) (h : Block) : Prop where
  read : a.read h = .error (.invalidBlock h.offset h.len)
  write : ∀ start data, a.write h start data = .error (.invalidBlock h.offset h.len)
  address : a.address h = .error (.invalidBlock h.offset h.len)
  value : ∀ l, a.readValue l h = .error (.invalidBlock h.offset h.len)

/-- What is alive in the history is live, and its offset was not issued again. -/
def Sole (es : List Effect) (a : Arena) : Prop :=
  ∀ l pre post, es = pre ++ .issued l :: post → .freed l ∉ post → .cleared ∉ post →
    l ∈ a.live.blocks ∧ ∀ b, .issued b ∈ post → l.offset ≠ b.offset

variable {k : Kernel} {a a₀ a' : Arena} {b h l : Block} {e : Effect} {es pre post : List Effect}
  {ops : List (Kernel × Op Block)}

theorem sole_takes (hs : a.Sound) (h : Sole es a) (ht : Takes k a e a') : Sole (es ++ [e]) a' := by
  intro l pre post hes hfreed hcleared
  rcases split_concat hes with ⟨rfl, rfl⟩ | ⟨rest, rfl, hfront⟩
  · exact ⟨mem_of_issued ht, by simp⟩
  · simp only [List.mem_append, List.mem_singleton, not_or] at hfreed hcleared
    obtain ⟨hlive, hother⟩ := h l pre rest hfront hfreed.1 hcleared.1
    refine ⟨(mem_live_takes hs ht).mpr
      (Or.inr ⟨hlive, Ne.symm hfreed.2, Ne.symm hcleared.2⟩), ?_⟩
    intro b hb
    rcases List.mem_append.mp hb with hb | hb
    · exact hother b hb
    · obtain rfl := List.mem_singleton.mp hb
      exact offset_ne_of_issued hs ht hlive

theorem sole_run (hc : a₀.Created) (ops : List (Kernel × Op Block)) :
    Sole (a₀.history ops) (a₀.run ops) := by
  have hstart : Sole [] a₀ := by
    intro l pre post hes
    simp at hes
  refine run_rec (fun _ h => h) ?_ hc.sound hstart ops
  intro k es a e a' hs h ht
  exact sole_takes hs h ht

/-- Generations follow the order of issues while their number is a word. -/
theorem generation_lt (hc : a₀.Created) (hn : (issued (a₀.history ops)).length < Word.limit)
    (hh : a₀.history ops = pre ++ .issued l :: post) (hi : .issued h ∈ pre) :
    h.generation < l.generation := by
  have hpast := (numbered_run hc ops).past
  obtain ⟨n, hlt, hget⟩ := List.mem_iff_getElem.mp (mem_issued.mpr hi)
  have hissued : issued (a₀.history ops) = issued pre ++ l :: issued post := by
    rw [hh, issued_append, issued_cons_issued]
  have hold : (issued (a₀.history ops))[n]? = some h := by
    rw [hissued, List.getElem?_append_left hlt, List.getElem?_eq_getElem hlt, hget]
  have hnew : (issued (a₀.history ops))[(issued pre).length]? = some l := by
    rw [hissued, List.getElem?_append_right (Nat.le_refl _), Nat.sub_self]
    rfl
  have hlen : (issued pre).length < (issued (a₀.history ops)).length := by
    rw [hissued, List.length_append, List.length_cons]
    omega
  have hlimit : Word.limit = 2 ^ 64 := rfl
  rw [hpast n h hold, hpast _ l hnew, UInt64.lt_iff_toNat_lt, UInt64.toNat_ofNat',
    UInt64.toNat_ofNat', Nat.mod_eq_of_lt (by omega), Nat.mod_eq_of_lt (by omega)]
  exact hlt

theorem older_than_live (hc : a₀.Created) (hn : (issued (a₀.history ops)).length < Word.limit)
    (hi : .issued h ∈ a₀.history ops) (hdead : ¬ Alive h (a₀.history ops))
    (hl : l ∈ (a₀.run ops).live.blocks) (ho : l.offset = h.offset) :
    h.generation < l.generation := by
  have halive := (mem_live_iff_alive hc ops).mp hl
  obtain ⟨pre, post, hh, hfreed, hcleared⟩ := halive
  rw [hh] at hi
  rcases List.mem_append.mp hi with hi | hi
  · exact generation_lt hc hn hh hi
  rcases List.mem_cons.mp hi with hi | hi
  · obtain rfl := Effect.issued.inj hi
    exact (hdead ⟨pre, post, hh, hfreed, hcleared⟩).elim
  · exact ((sole_run hc ops l pre post hh hfreed hcleared).2 h hi ho).elim

theorem verify_of_older (hy : ∀ l ∈ a.live.blocks, l.offset = h.offset →
    h.generation < l.generation) : a.verify h = .error (.invalidBlock h.offset h.len) := by
  simp only [verify, invalid]
  cases hf : a.live.find? h.offset with
  | none => rfl
  | some l =>
    obtain ⟨hl, ho⟩ := LiveTable.mem_of_find? hf
    have hne : l.generation ≠ h.generation := (UInt64.ne_of_lt (hy l hl ho)).symm
    exact if_pos hne

theorem unknown_of_verify (hv : a.verify h = .error (.invalidBlock h.offset h.len)) :
    a.Unknown h := by
  have hstorage := storage_of_verify_error hv
  have hread : a.read h = .error (.invalidBlock h.offset h.len) := by
    simp only [read, hstorage, Except.map]
  refine ⟨hread, ?_, ?_, ?_⟩
  · intro start data
    simp only [write, hstorage, Except.map]
  · simp only [address, hstorage, Except.map]
  · intro l
    simp only [readValue, hread]

theorem covers_iff (a : Arena) (o : Nat) :
    a.freeList.covers o = true ↔ ∃ s ∈ a.freeList.spans, s.offset ≤ o ∧ o < s.offset + s.size := by
  simp only [FreeList.covers, List.any_eq_true, Span.contains_iff, Span.stop]

/-- Free spans lie below the mark, so the test against it does not matter. -/
theorem wasReleased_iff (hs : a.Sound) (hy : ∀ l ∈ a.live.blocks, l.offset = h.offset →
    h.generation < l.generation) : a.wasReleased h = true ↔ a.Regained h.offset := by
  simp only [wasReleased, Bool.or_eq_true, Bool.and_eq_true, decide_eq_true_eq, covers_iff,
    Option.any_eq_true, Regained]
  constructor
  · rintro (⟨-, hspan⟩ | ⟨l, hf, -⟩)
    · exact Or.inl hspan
    · exact Or.inr ⟨l, LiveTable.mem_of_find? hf⟩
  · rintro (⟨s, hmem, hin⟩ | ⟨l, hl, ho⟩)
    · have hstop : s.stop ≤ a.used := hs.tiled.stop_le (List.mem_append_right _ hmem)
      simp only [Span.stop] at hstop
      exact Or.inl ⟨by omega, s, hmem, hin⟩
    · exact Or.inr ⟨l, hs.keyed.find?_eq_some_iff.mpr ⟨hl, ho⟩, hy l hl ho⟩

theorem free_of_older (hs : a.Sound) (hy : ∀ l ∈ a.live.blocks, l.offset = h.offset →
    h.generation < l.generation) :
    (a.Regained h.offset → (a.free h).result = .error (.doubleFree h.offset)) ∧
      (¬ a.Regained h.offset → (a.free h).result = .error (.invalidBlock h.offset h.len)) := by
  have hresult := (free_of_verify_error (verify_of_older hy)).1
  have hiff := wasReleased_iff hs hy
  constructor
  · intro hr
    rw [hresult, refusal, if_pos (hiff.mpr hr)]
  · intro hr
    rw [hresult, refusal, if_neg (mt hiff.mp hr)]

theorem regained_after_free (hs : a.Sound) (hb : b ∈ a.live.blocks) :
    (a.free b).state.Regained b.offset ↔ b.stop ≠ a.used := by
  have hpos := (hs.payload b hb).1
  have hpad := (hs.payload b hb).2
  have hgone : ∀ l ∈ (a.live.erase b.offset).blocks, l.offset ≠ b.offset :=
    fun l hl => (LiveTable.mem_erase.mp hl).2
  rw [free_of_verify (hs.verify_iff.mpr hb)]
  simp only [release]
  split
  · rename_i hu
    refine iff_of_false ?_ (not_not_intro hu)
    rintro (⟨s, hmem, hin⟩ | ⟨l, hl, ho⟩)
    · -- What is still free lies below the lowered mark, and so below the payload.
      have htiles : Tiles _ b.extent.offset :=
        (tiles_without hs hb).pop ((Block.stop_extent hpad).trans hu)
      have hstop : s.stop ≤ b.extent.offset := htiles.stop_le (List.mem_append_right _ hmem)
      simp only [Span.stop, Block.extent] at hstop
      omega
    · exact hgone l hl ho
  · rename_i hu
    refine iff_of_true (Or.inl ⟨b.extent, ?_, ?_⟩) hu
    · rw [FreeList.spans_insert]
      exact List.mem_append_right _ (List.mem_singleton_self _)
    · simp only [Block.extent]
      omega

theorem free_twice (hs : a.Sound) (hb : b ∈ a.live.blocks) :
    (b.stop ≠ a.used → ((a.free b).state.free b).result = .error (.doubleFree b.offset)) ∧
      (b.stop = a.used →
        ((a.free b).state.free b).result = .error (.invalidBlock b.offset b.len)) := by
  have htakes := release_takes ⟨0, false⟩ (hs.find?_iff.mpr hb)
  rw [← free_of_verify (hs.verify_iff.mpr hb)] at htakes
  have hs' : (a.free b).state.Sound := sound_takes hs htakes
  have hgone : ∀ l ∈ (a.free b).state.live.blocks, l.offset = b.offset →
      b.generation < l.generation := by
    intro l hl ho
    obtain ⟨hl, hne, -⟩ := ((mem_live_takes hs htakes).mp hl).resolve_left (by simp)
    exact (hne (congrArg Effect.freed (hs.keyed.eq_of_offset_eq hl hb ho).symm)).elim
  obtain ⟨hdouble, hinvalid⟩ := free_of_older hs' hgone
  have hiff := regained_after_free hs hb
  exact ⟨fun hu => hdouble (hiff.mpr hu), fun hu => hinvalid (mt hiff.mp (not_not_intro hu))⟩

/-- A handle that outlived its block is told to be released twice just when a free span holds its
offset or a live block starts there, and else to be no block of the arena. For all other uses it is
no block of the arena. Of two releases in a row the second is told as such unless the first lowered
the mark. -/
theorem stale_release_classified (hc : a₀.Created) (ops : List (Kernel × Op Block))
    (hn : (issued (a₀.history ops)).length < Word.limit) :
    (∀ h, .issued h ∈ a₀.history ops → ¬ Alive h (a₀.history ops) →
      (((a₀.run ops).free h).result = .error (.doubleFree h.offset) ↔
        (a₀.run ops).Regained h.offset) ∧
      (((a₀.run ops).free h).result = .error (.invalidBlock h.offset h.len) ↔
        ¬ (a₀.run ops).Regained h.offset) ∧
      (a₀.run ops).Unknown h) ∧
    ∀ b ∈ (a₀.run ops).live.blocks, ((a₀.run ops).free b).result = .ok () ∧
      (b.stop ≠ (a₀.run ops).used →
        (((a₀.run ops).free b).state.free b).result = .error (.doubleFree b.offset)) ∧
      (b.stop = (a₀.run ops).used →
        (((a₀.run ops).free b).state.free b).result = .error (.invalidBlock b.offset b.len)) := by
  have hs := sound_run hc.sound ops
  refine ⟨?_, ?_⟩
  · intro h hi hdead
    have hy : ∀ l ∈ (a₀.run ops).live.blocks, l.offset = h.offset →
        h.generation < l.generation := fun l hl ho => older_than_live hc hn hi hdead hl ho
    obtain ⟨hdouble, hinvalid⟩ := free_of_older hs hy
    refine ⟨⟨?_, hdouble⟩, ⟨?_, hinvalid⟩, unknown_of_verify (verify_of_older hy)⟩
    · intro hr
      by_contra hno
      rw [hinvalid hno] at hr
      cases hr
    · intro hr hyes
      rw [hdouble hyes] at hr
      cases hr
  · intro b hb
    refine ⟨?_, free_twice hs hb⟩
    exact (accepts_of_mem hs hb).free

/-- A block with padding in front of it is released between two others, and then requests follow. -/
def outlived (ops : List (Op Block)) : List (Kernel × Op Block) :=
  granted ([.alloc 3, .allocAligned 8, .alloc 4, .free ⟨8, 8, 5, 1⟩] ++ ops)

/-- The old place lies in a free span, within a larger block, or where a new block starts. -/
theorem outlived_classified :
    ((blank.run (outlived [])).free ⟨8, 8, 5, 1⟩).result = .error (.doubleFree 8) ∧
    ((blank.run (outlived [.alloc 10])).free ⟨8, 8, 5, 1⟩).result = .error (.invalidBlock 8 8) ∧
    ((blank.run (outlived [.alloc 5, .alloc 3])).free ⟨8, 8, 5, 1⟩).result =
      .error (.doubleFree 8) ∧
    (blank.run (outlived [.alloc 5, .alloc 3])).Unknown ⟨8, 8, 5, 1⟩ ∧
    (((blank.run (outlived [])).free ⟨0, 3, 0, 0⟩).state.free ⟨0, 3, 0, 0⟩).result =
      .error (.doubleFree 0) ∧
    (((blank.run (outlived [])).free ⟨16, 4, 0, 2⟩).state.free ⟨16, 4, 0, 2⟩).result =
      .error (.invalidBlock 16 4) := by
  have hdead : ∀ ops, ⟨8, 8, 5, 1⟩ ∉ (blank.run (outlived ops)).live.blocks →
      ¬ Alive ⟨8, 8, 5, 1⟩ (blank.history (outlived ops)) :=
    fun ops hgone => mt (mem_live_iff_alive created_blank _).mpr hgone
  obtain ⟨hspan, htwice⟩ := stale_release_classified created_blank (outlived []) (by decide)
  obtain ⟨hwithin, -⟩ :=
    stale_release_classified created_blank (outlived [.alloc 10]) (by decide)
  obtain ⟨hstart, -⟩ :=
    stale_release_classified created_blank (outlived [.alloc 5, .alloc 3]) (by decide)
  refine ⟨?_, ?_, ?_, ?_, ?_, ?_⟩
  · exact (hspan _ (by decide) (hdead _ (by decide))).1.mpr (by decide)
  · exact (hwithin _ (by decide) (hdead _ (by decide))).2.1.mpr (by decide)
  · exact (hstart _ (by decide) (hdead _ (by decide))).1.mpr (by decide)
  · exact (hstart _ (by decide) (hdead _ (by decide))).2.2
  · exact (htwice ⟨0, 3, 0, 0⟩ (by decide)).2.1 (by decide)
  · exact (htwice ⟨16, 4, 0, 2⟩ (by decide)).2.2 (by decide)

end ArenaAlloc.Arena
