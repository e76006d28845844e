import ArenaAlloc.Proofs.FreeList
import ArenaAlloc.Proofs.Word

/-! Free spans kept in a plain list, which a free list comes down to: slots, tombstones and
compaction never show. -/
namespace ArenaAlloc

/-- The request goes into the span, padding in front of it included. -/
def Span.Holds (s : Span) (size align : Nat) : Prop := s.padding align + size ≤ s.size

instance (s : Span) (size align : Nat) : Decidable (s.Holds size align) :=
  inferInstanceAs (Decidable (_ ≤ _))

/-- Under an alignment by a power of two, the request fits behind some multiple of it. -/
theorem Span.holds_two_pow_iff {s : Span} {size j : Nat} :
    s.Holds size (2 ^ j) ↔ ∃ p, 2 ^ j ∣ s.offset + p ∧ p + size ≤ s.size := by
  have hleast := Word.isLeast_padding s.offset j
  constructor
  · intro h
    exact ⟨_, hleast.1, h⟩
  · rintro ⟨p, hdvd, hle⟩
    exact Nat.le_trans (Nat.add_le_add_right (hleast.2 hdvd) size) hle

/-- What can be done to a free list. What a search finds is carved at once. -/
inductive FreeList.Op where
  | insert (s : Span)
  | clear
  | take (size align : Nat)

namespace SpanList

/-- The least size of a span that holds the request. -/
def leastSize? (ss : List Span) (size align : Nat) : Option Nat :=
  ((ss.filter fun s => s.Holds size align).map Span.size).min?

/-- Position of the first of the smallest spans that hold the request. -/
def tightest? (ss : List Span) (size align : Nat) : Option Nat :=
  (leastSize? ss size align).bind fun n =>
    ss.findIdx? fun s => s.Holds size align ∧ s.size = n

/-- Takes padding and payload off the front of one span. It goes if they fill it, and else its tail
takes its place. -/
def cut (ss : List Span) (i size align : Nat) : List Span :=
  match ss[i]? with
  | none => ss
  | some s =>
    if s.padding align + size = s.size then ss.eraseIdx i
    else ss.set i (s.drop (s.padding align + size))

def step (ss : List Span) : FreeList.Op → List Span
  | .insert s => ss ++ [s]
  | .clear => []
  | .take size align =>
    match tightest? ss size align with
    | none => ss
    | some i => cut ss i size align

def run (ss : List Span) (ops : List FreeList.Op) : List Span := ops.foldl step ss

variable {ss pre post : List Span} {s : Span} {size align : Nat}

theorem leastSize?_split (hs : s.Holds size align)
    (hpre : ∀ t ∈ pre, t.Holds size align → s.size < t.size)
    (hpost : ∀ t ∈ post, t.Holds size align → s.size ≤ t.size) :
    leastSize? (pre ++ s :: post) size align = some s.size := by
  apply List.min?_eq_some_iff.mpr
  constructor
  · apply List.mem_map_of_mem
    simp [hs]
  · intro n hn
    obtain ⟨t, ht, rfl⟩ := List.mem_map.mp hn
    simp only [List.mem_filter, List.mem_append, List.mem_cons, decide_eq_true_eq] at ht
    obtain ⟨ht | rfl | ht, hholds⟩ := ht
    · exact Nat.le_of_lt (hpre t ht hholds)
    · exact Nat.le_refl _
    · exact hpost t ht hholds

theorem tightest?_split (hs : s.Holds size align)
    (hpre : ∀ t ∈ pre, t.Holds size align → s.size < t.size)
    (hpost : ∀ t ∈ post, t.Holds size align → s.size ≤ t.size) :
    tightest? (pre ++ s :: post) size align = some pre.length := by
  have hnone : pre.findIdx? (fun t => t.Holds size align ∧ t.size = s.size) = none := by
    apply List.findIdx?_eq_none_iff.mpr
    intro t ht
    have hlt := hpre t ht
    simp only [decide_eq_false_iff_not, not_and]
    intro hholds hsize
    have := hlt hholds
    omega
  rw [tightest?, leastSize?_split hs hpre hpost, Option.bind_some, List.findIdx?_append, hnone,
    List.findIdx?_cons]
  simp [hs]

theorem tightest?_eq_none_iff :
    tightest? ss size align = none ↔ ∀ s ∈ ss, ¬ s.Holds size align := by
  constructor
  · intro h s hs hholds
    cases hleast : leastSize? ss size align with
    | none =>
      have hempty := List.map_eq_nil_iff.mp (List.min?_eq_none_iff.mp hleast)
      have hmem : s ∈ ss.filter fun s => s.Holds size align := by simp [hs, hholds]
      rw [hempty] at hmem
      contradiction
    | some n =>
      rw [tightest?, hleast, Option.bind_some, List.findIdx?_eq_none_iff] at h
      obtain ⟨hmem, -⟩ := List.min?_eq_some_iff.mp hleast
      obtain ⟨t, ht, rfl⟩ := List.mem_map.mp hmem
      simp only [List.mem_filter, decide_eq_true_eq] at ht
      simpa [ht.2] using h t ht.1
  · intro h
    have hempty : ss.filter (fun s => s.Holds size align) = [] := by
      apply List.filter_eq_nil_iff.mpr
      intro s hs
      simpa using h s hs
    rw [tightest?, leastSize?, hempty]
    rfl

theorem getElem?_length (pre : List Span) (s : Span) (post : List Span) :
    (pre ++ s :: post)[pre.length]? = some s := by
  simp

theorem cut_split (pre : List Span) (s : Span) (post : List Span) (size align : Nat) :
    cut (pre ++ s :: post) pre.length size align =
      if s.padding align + size = s.size then pre ++ post
      else pre ++ s.drop (s.padding align + size) :: post := by
  simp only [cut, getElem?_length]
  split
  · rw [List.eraseIdx_append_of_length_le (Nat.le_refl _), Nat.sub_self, List.eraseIdx_cons_zero]
  · rw [List.set_append_right _ _ (Nat.le_refl _), Nat.sub_self, List.set_cons_zero]

end SpanList

namespace FreeList

/-- What all free lists keep that arise from spans with something in them. -/
structure Sound (l : FreeList) : Prop where
  counted : l.slots.Counted
  nonempty : ∀ s ∈ l.spans, 0 < s.size

def step (l : FreeList) : Op → FreeList
  | .insert s => l.insert s
  | .clear => {}
  | .take size align =>
    match l.bestFit? size align with
    | none => l
    | some f => l.carve f size

def run (l : FreeList) (ops : List Op) : FreeList := ops.foldl step l

variable {l : FreeList} {f : Fit} {s : Span} {op : Op} {ops : List Op} {size align : Nat}

theorem fit_of_holds {i : Nat} (hn : 0 < s.size) (h : s.Holds size align) :
    Fit.of? size align (i, s) = some ⟨i, s, s.padding align⟩ :=
  if_pos ⟨Nat.ne_of_gt hn, h⟩

/-- The chosen span is smaller than all in front of it that hold the request, and no larger than
those behind it. -/
theorem bestFit?_least (hl : l.Sound) (h : l.bestFit? size align = some f) :
    l.spans = l.slots.ahead f.slot ++ f.span :: l.slots.behind f.slot ∧ f.span.Holds size align ∧
      (∀ t ∈ l.slots.ahead f.slot, t.Holds size align → f.span.size < t.size) ∧
      ∀ t ∈ l.slots.behind f.slot, t.Holds size align → f.span.size ≤ t.size := by
  have hsuits := suits_of_bestFit? h
  have hsplit : l.spans = l.slots.ahead f.slot ++ f.span :: l.slots.behind f.slot :=
    Slots.toList_split hsuits.held
  obtain ⟨front, ⟨i, s⟩, back, hentries, hf, hfront, hback⟩ := bestFit?_split h
  obtain ⟨hentry, -⟩ := Fit.of?_eq_some hf
  obtain ⟨rfl, rfl⟩ := Prod.mk.inj hentry
  obtain ⟨hahead, hbehind⟩ := Slots.ahead_behind_of_split hentries
  have hpos : ∀ t ∈ l.slots.ahead f.slot ++ f.span :: l.slots.behind f.slot, 0 < t.size := by
    rw [← hsplit]
    exact hl.nonempty
  refine ⟨hsplit, ?_, ?_, ?_⟩
  · have henough := hsuits.enough
    rw [hsuits.padding] at henough
    exact henough
  · intro t ht hholds
    have hn := hpos t (List.mem_append_left _ ht)
    rw [hahead] at ht
    obtain ⟨e, he, rfl⟩ := List.mem_map.mp ht
    exact hfront e he _ (fit_of_holds hn hholds)
  · intro t ht hholds
    have hn := hpos t (List.mem_append_right _ (List.mem_cons_of_mem _ ht))
    rw [hbehind] at ht
    obtain ⟨e, he, rfl⟩ := List.mem_map.mp ht
    exact hback e he _ (fit_of_holds hn hholds)

/-- The chosen span and where it stands among all spans. -/
theorem tightest_of_bestFit? (hl : l.Sound) (h : l.bestFit? size align = some f) :
    SpanList.tightest? l.spans size align = some (l.slots.ahead f.slot).length ∧
      l.spans = l.slots.ahead f.slot ++ f.span :: l.slots.behind f.slot := by
  obtain ⟨hsplit, hholds, hahead, hbehind⟩ := bestFit?_least hl h
  refine ⟨?_, hsplit⟩
  rw [hsplit]
  exact SpanList.tightest?_split hholds hahead hbehind

theorem tightest_of_no_fit (hl : l.Sound) :
    l.bestFit? size align = none ↔ SpanList.tightest? l.spans size align = none := by
  rw [SpanList.tightest?_eq_none_iff]
  constructor
  · intro h s hs hholds
    obtain ⟨e, he, rfl⟩ := List.mem_map.mp hs
    rw [bestFit?, Fit.foldl_tighter_eq_none_iff, List.filterMap_eq_nil_iff] at h
    have hnone := h.2 e he
    rw [fit_of_holds (hl.nonempty _ hs) hholds] at hnone
    contradiction
  · intro h
    cases hf : l.bestFit? size align with
    | none => rfl
    | some f =>
      obtain ⟨-, hsplit⟩ := tightest_of_bestFit? hl hf
      have hsuits := suits_of_bestFit? hf
      have henough := hsuits.enough
      rw [hsuits.padding] at henough
      exact (h f.span (by simp [hsplit]) henough).elim

theorem spans_carve (hl : l.Sound) (h : l.bestFit? size align = some f) :
    (l.carve f size).spans =
      SpanList.cut l.spans (l.slots.ahead f.slot).length size align := by
  have hsuits := suits_of_bestFit? h
  rw [(tightest_of_bestFit? hl h).2, SpanList.cut_split, ← hsuits.padding]
  split
  · rename_i hexact
    exact spans_carve_exact hl.counted hsuits hexact
  · rename_i hsplit
    exact spans_carve_split hsuits hsplit

theorem spans_step (hl : l.Sound) (op : Op) : (l.step op).spans = SpanList.step l.spans op := by
  cases op with
  | insert s => exact spans_insert s
  | clear => rfl
  | take size align =>
    simp only [step, SpanList.step]
    cases hf : l.bestFit? size align with
    | none => rw [(tightest_of_no_fit hl).mp hf]
    | some f =>
      rw [(tightest_of_bestFit? hl hf).1]
      exact spans_carve hl hf

/-- The spans tell which one is chosen and what is left of it, wherever they are kept. -/
theorem carve_of_spans_eq {l' : FreeList} {g : Fit} (hl : l.Sound) (hl' : l'.Sound)
    (heq : l.spans = l'.spans) (hf : l.bestFit? size align = some f)
    (hg : l'.bestFit? size align = some g) :
    f.span = g.span ∧ f.padding = g.padding ∧ (l.carve f size).spans = (l'.carve g size).spans := by
  obtain ⟨hpos, hsplit⟩ := tightest_of_bestFit? hl hf
  obtain ⟨hpos', hsplit'⟩ := tightest_of_bestFit? hl' hg
  rw [heq, hpos'] at hpos
  have hlen : (l'.slots.ahead g.slot).length = (l.slots.ahead f.slot).length :=
    Option.some.inj hpos
  have hspan : f.span = g.span := by
    have hat := SpanList.getElem?_length (l.slots.ahead f.slot) f.span (l.slots.behind f.slot)
    have hat' := SpanList.getElem?_length (l'.slots.ahead g.slot) g.span (l'.slots.behind g.slot)
    rw [← hsplit, heq, ← hlen] at hat
    rw [← hsplit'] at hat'
    exact Option.some.inj (hat.symm.trans hat')
  refine ⟨hspan, ?_, ?_⟩
  · rw [(suits_of_bestFit? hf).padding, (suits_of_bestFit? hg).padding, hspan]
  · rw [spans_carve hl hf, spans_carve hl' hg, heq, hlen]

theorem sound_carve (hl : l.Sound) (h : l.bestFit? size align = some f) :
    (l.carve f size).Sound := by
  have hsuits := suits_of_bestFit? h
  have hsplit := (tightest_of_bestFit? hl h).2
  refine ⟨counted_carve hl.counted hsuits, ?_⟩
  intro t ht
  by_cases hexact : f.padding + size = f.span.size
  · rw [spans_carve_exact hl.counted hsuits hexact] at ht
    apply hl.nonempty t
    simp only [hsplit, List.mem_append, List.mem_cons] at ht ⊢
    tauto
  · rw [spans_carve_split hsuits hexact] at ht
    simp only [List.mem_append, List.mem_cons] at ht
    rcases ht with ht | rfl | ht
    · exact hl.nonempty t (by simp [hsplit, ht])
    · have henough := hsuits.enough
      simp only [Span.drop]
      omega
    · exact hl.nonempty t (by simp [hsplit, ht])

theorem sound_step (hl : l.Sound) (ho : ∀ s, op = .insert s → 0 < s.size) : (l.step op).Sound := by
  cases op with
  | insert s =>
    refine ⟨Slots.counted_push hl.counted, ?_⟩
    intro t ht
    rw [step, spans_insert] at ht
    rcases List.mem_append.mp ht with ht | ht
    · exact hl.nonempty t ht
    · obtain rfl := List.mem_singleton.mp ht
      exact ho t rfl
  | clear =>
    refine ⟨Slots.counted_nil, ?_⟩
    intro t ht
    contradiction
  | take size align =>
    simp only [step]
    split
    · exact hl
    · rename_i f hf
      exact sound_carve hl hf

theorem run_spans (hl : l.Sound) (ho : ∀ s, .insert s ∈ ops → 0 < s.size) :
    (l.run ops).Sound ∧ (l.run ops).spans = SpanList.run l.spans ops := by
  induction ops generalizing l with
  | nil => exact ⟨hl, rfl⟩
  | cons op ops ih =>
    have hstep : (l.step op).Sound := by
      apply sound_step hl
      rintro s rfl
      exact ho s List.mem_cons_self
    obtain ⟨hsound, hspans⟩ := ih hstep fun s hs => ho s (List.mem_cons_of_mem _ hs)
    refine ⟨hsound, hspans.trans ?_⟩
    rw [spans_step hl]
    rfl

theorem largest_eq_max (l : FreeList) : l.largest = (l.spans.map Span.size).max?.getD 0 := by
  rw [largest]
  cases l.spans.map Span.size with
  | nil => rfl
  | cons n sizes => rw [List.max?_cons', List.foldl_cons, Nat.zero_max, Option.getD_some]

/-- Whatever can be asked of the free list, the answer is that of the plain list. -/
structure Mirrors (l : FreeList) (ss : List Span) : Prop where
  spans : l.spans = ss
  length : l.length = ss.length
  isEmpty : l.isEmpty = ss.isEmpty
  totalBytes : l.totalBytes = Word.total (ss.map Span.size)
  largest : l.largest = (ss.map Span.size).max?.getD 0
  covers : ∀ o, l.covers o = true ↔ ∃ s ∈ ss, s.offset ≤ o ∧ o < s.offset + s.size
  missed : ∀ size align, l.bestFit? size align = none ↔ SpanList.tightest? ss size align = none
  found : ∀ size align f, l.bestFit? size align = some f →
    l.slots.get? f.slot = some f.span ∧ f.padding = f.span.padding align ∧
      ∃ i, SpanList.tightest? ss size align = some i ∧ ss[i]? = some f.span
  padded : ∀ size j f, l.bestFit? size (2 ^ j) = some f →
    IsLeast {p | 2 ^ j ∣ f.span.offset + p} f.padding
  unheld : ∀ size j, l.bestFit? size (2 ^ j) = none ↔
    ∀ s ∈ ss, ∀ p, 2 ^ j ∣ s.offset + p → s.size < p + size

theorem Sound.mirrors (hl : l.Sound) : l.Mirrors l.spans where
  spans := rfl
  length := hl.counted
  isEmpty := by
    have hcount : l.slots.live = l.spans.length := hl.counted
    rw [FreeList.isEmpty, hcount]
    cases l.spans <;> rfl
  totalBytes := rfl
  largest := l.largest_eq_max
  covers o := by
    simp only [FreeList.covers, List.any_eq_true, Span.contains, Bool.and_eq_true,
      decide_eq_true_eq]
    rfl
  missed _ _ := tightest_of_no_fit hl
  found size align f hf := by
    obtain ⟨htightest, hsplit⟩ := tightest_of_bestFit? hl hf
    have hsuits := suits_of_bestFit? hf
    refine ⟨hsuits.held, hsuits.padding, _, htightest, ?_⟩
    rw [hsplit]
    exact SpanList.getElem?_length _ _ _
  padded size j f hf := by
    rw [(suits_of_bestFit? hf).padding]
    exact Word.isLeast_padding f.span.offset j
  unheld size j := by
    rw [tightest_of_no_fit hl, SpanList.tightest?_eq_none_iff]
    simp only [Span.holds_two_pow_iff, not_exists, not_and, Nat.not_le]

/-- A free list is a plain list: new spans go to its end, a search finds the first of the smallest
spans that hold the request, and what is taken from that one leaves all others in their order. -/
theorem run_mirrors_list (ops : List Op) (ho : ∀ s, .insert s ∈ ops → 0 < s.size) :
    (run {} ops).Mirrors (SpanList.run [] ops) := by
  have hempty : Sound {} := ⟨Slots.counted_nil, fun _ hs => (List.not_mem_nil hs).elim⟩
  obtain ⟨hsound, hspans⟩ := run_spans hempty ho
  have hmirrors := hsound.mirrors
  rw [hspans] at hmirrors
  exact hmirrors

/-- The first of three spans goes, the last one loses its front, and a fourth one follows. -/
def whittled : List Op :=
  [.insert ⟨0, 8⟩, .insert ⟨13, 20⟩, .insert ⟨40, 16⟩, .take 8 1, .take 12 8, .insert ⟨64, 16⟩]

theorem whittled_mirrors :
    (run {} whittled).spans = SpanList.run [] whittled ∧
    SpanList.run [] whittled = [⟨13, 20⟩, ⟨52, 4⟩, ⟨64, 16⟩] ∧
    (run {} whittled).length = 3 ∧ (run {} whittled).slots.cells.length = 4 ∧
    (run {} whittled).bestFit? 9 8 = some ⟨3, ⟨64, 16⟩, 0⟩ ∧
    SpanList.tightest? (SpanList.run [] whittled) 9 8 = some 2 := by
  have hlist : SpanList.run [] whittled = [⟨13, 20⟩, ⟨52, 4⟩, ⟨64, 16⟩] := by decide
  have ho : ∀ s, .insert s ∈ whittled → 0 < s.size := by
    intro s hs
    simp only [whittled, List.mem_cons, Op.insert.injEq, reduceCtorEq, false_or, or_false,
      List.not_mem_nil] at hs
    rcases hs with rfl | rfl | rfl | rfl <;> decide
  have hmirrors := run_mirrors_list whittled ho
  have hlength := hmirrors.length
  rw [hlist] at hlength
  exact ⟨hmirrors.spans, hlist, hlength, by decide, by decide, by decide⟩

end FreeList

end ArenaAlloc
