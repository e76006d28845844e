import ArenaAlloc.Proofs.Arena.Contents

/-! What has no say in the answers of an arena: the bytes in storage, where storage lies and how it
came to grow, and whether released bytes are overwritten. Without these an arena is its outline, and
the outline answers as the arena does. -/
namespace ArenaAlloc

/-- The system that grants what it can, and extends storage where it is. -/
def ample : Kernel := ⟨1, true⟩

namespace Mapping

/-- The sizes of a mapping, as an empty one at a fixed place. -/
def outline (m : Mapping) : Mapping := { m with page := ample.page, bytes := {} }

variable {k : Kernel}

theorem map_map {ε α β γ : Type} (x : Except ε α) (f : α → β) (g : β → γ) :
    (x.map f).map g = x.map (g ∘ f) := by
  cases x <;> rfl

theorem create_outline (hk : k.page ≠ 0) (capacity : Nat) :
    (create k capacity).map outline = create ample capacity := by
  simp only [create]
  cases lengthFor capacity with
  | error f => rfl
  | ok n =>
    simp only [Except.bind, fresh_of_granted hk]
    rfl

/-- Extended or moved, storage has the same sizes afterwards. -/
theorem grow_outline (hk : k.page ≠ 0) (m : Mapping) (capacity used : Nat) :
    (m.grow k capacity used).map outline = m.outline.grow ample capacity used := by
  have hcapacity : m.outline.capacity = m.capacity := rfl
  have hmapped : m.outline.mapped = m.mapped := rfl
  simp only [grow, hcapacity, hmapped]
  split
  · rfl
  split
  · rfl
  cases lengthFor capacity with
  | error f => rfl
  | ok n =>
    simp only [Except.bind, fresh_of_granted hk]
    split <;> rfl

end Mapping

namespace Arena

/-- All that decides on the answers of an arena. -/
def outline (a : Arena) : Arena :=
  { a with
    mapping := a.mapping.map Mapping.outline
    settings := { a.settings with zeroOnFree := false } }

/-- The operation without what it writes. -/
def Op.outline : Op Block → Op Block
  | .allocValue l _ => .allocValue l []
  | .write b _ _ => .write b 0 []
  | op => op

end Arena

def Reply.outline {α : Type} (r : Reply Arena α) : Reply Arena α :=
  { r with state := r.state.outline }

namespace Arena

variable {k k' : Kernel} {a c : Arena} {b : Block} {op op' : Op Block} {size align n : Nat}

theorem capacity_outline (a : Arena) : a.outline.capacity = a.capacity := by
  simp only [capacity, outline]
  cases a.mapping <;> rfl

theorem makeRoom_outline (hk : k.page ≠ 0) (a : Arena) (needed : Nat) :
    (a.makeRoom k needed).map (Prod.map outline id) = a.outline.makeRoom ample needed := by
  have hused : a.outline.used = a.used := rfl
  have hinitial : a.outline.settings.effectiveInitial = a.settings.effectiveInitial := rfl
  simp only [makeRoom, capacity_outline, hused, hinitial]
  split
  · rfl
  split
  · rfl
  cases hm : a.mapping with
  | some m =>
    have hm' : a.outline.mapping = some m.outline := congrArg (Option.map Mapping.outline) hm
    simp only [hm', ← Mapping.grow_outline hk, Mapping.map_map]
    rfl
  | none =>
    have hm' : a.outline.mapping = none := congrArg (Option.map Mapping.outline) hm
    simp only [hm', ← Mapping.create_outline hk, Mapping.map_map]
    rfl

theorem extend_outline (hk : k.page ≠ 0) (a : Arena) (size align : Nat) :
    (a.extend k size align).outline = a.outline.extend ample size align := by
  have hused : a.outline.used = a.used := rfl
  simp only [extend, hused, ← makeRoom_outline hk]
  split
  · rfl
  cases a.makeRoom k (Word.padding a.used align + size) with
  | error f => rfl
  | ok r => rfl

theorem place_outline (hk : k.page ≠ 0) (a : Arena) (size align : Nat) :
    (a.place k size align).outline = a.outline.place ample size align := by
  have hlist : a.outline.freeList = a.freeList := rfl
  simp only [place, hlist]
  cases a.freeList.bestFit? size align with
  | some f => rfl
  | none => exact extend_outline hk a size align

theorem alloc_outline (hk : k.page ≠ 0) (a : Arena) (n : Nat) :
    (a.alloc k n).outline = a.outline.alloc ample n := by
  simp only [alloc]
  split
  · rfl
  · exact place_outline hk _ _ _

theorem allocAligned_outline (hk : k.page ≠ 0) (a : Arena) (n : Nat) :
    (a.allocAligned k n).outline = a.outline.allocAligned ample n := by
  simp only [allocAligned]
  split
  · rfl
  · exact place_outline hk _ _ _

theorem storage_outline (a : Arena) (b : Block) :
    a.outline.storage b = (a.storage b).map Mapping.outline := by
  have hverify : a.outline.verify b = a.verify b := rfl
  simp only [storage, hverify]
  cases a.verify b with
  | error f => rfl
  | ok =>
    simp only [outline]
    cases a.mapping <;> rfl

theorem write_outline (a : Arena) (b : Block) (start : Nat) (data : List UInt8) :
    (a.write b start data).map outline = a.outline.write b 0 [] := by
  simp only [write, storage_outline, Mapping.map_map]
  cases a.storage b with
  | error f => rfl
  | ok m => simp only [Except.map, Function.comp_apply, List.take_nil]; rfl

theorem allocValue_outline (hk : k.page ≠ 0) (a : Arena) (l : Layout) (v : List Int) :
    (a.allocValue k l v).outline = a.outline.allocValue ample l [] := by
  simp only [allocValue, ← alloc_outline hk]
  generalize a.alloc k l.size = r
  obtain ⟨c, result, events⟩ := r
  cases result with
  | error f => rfl
  | ok b =>
    have hwrite : (c.write b 0 (l.encode v)).map outline = c.outline.write b 0 (l.encode []) :=
      write_outline c b 0 (l.encode v)
    simp only [Reply.outline, ← hwrite]
    cases c.write b 0 (l.encode v) <;> rfl

theorem release_outline (a : Arena) (b : Block) :
    (a.release b).outline = a.outline.release b := by
  have hscrub : (a.scrub b).map Mapping.outline = a.outline.scrub b := by
    simp only [scrub, outline]
    cases a.mapping <;> cases a.settings.zeroOnFree <;> rfl
  have hused : a.outline.used = a.used := rfl
  simp only [release, hused]
  split
  · simp only [Reply.outline, ← hscrub]
    rfl
  · simp only [Reply.outline, ← hscrub]
    rfl

theorem free_outline (a : Arena) (b : Block) : (a.free b).outline = a.outline.free b := by
  have hverify : a.outline.verify b = a.verify b := rfl
  simp only [free, hverify]
  cases a.verify b with
  | error f => rfl
  | ok => exact release_outline a b

theorem teardown_outline (a : Arena) : a.teardown.outline = a.outline.teardown := by
  cases hm : a.mapping with
  | none =>
    have hm' : a.outline.mapping = none := congrArg (Option.map Mapping.outline) hm
    simp only [teardown, hm, hm']
    rfl
  | some m =>
    have hm' : a.outline.mapping = some m.outline := congrArg (Option.map Mapping.outline) hm
    simp only [teardown, hm, hm']
    rfl

/-- One operation in full, and what it comes to in outline. -/
theorem step_outline (hk : k.page ≠ 0) (a : Arena) (op : Op Block) :
    (a.step k op).outline = a.outline.step ample op.outline := by
  cases op with
  | alloc n => exact congrArg (Reply.map (Except.map some)) (alloc_outline hk a n)
  | allocAligned n => exact congrArg (Reply.map (Except.map some)) (allocAligned_outline hk a n)
  | allocValue l v => exact congrArg (Reply.map (Except.map some)) (allocValue_outline hk a l v)
  | free b => exact congrArg (Reply.map (Except.map fun _ => none)) (free_outline a b)
  | write b start data =>
    have hwrite := write_outline a b start data
    simp only [step, Op.outline, ← hwrite]
    cases a.write b start data <;> rfl
  | direct d => rfl
  | reset =>
    simp only [step, Op.outline, reset, capacity_outline]
    rfl
  | teardown =>
    simp only [step, Op.outline, ← teardown_outline]
    rfl

/-- What can be told of an arena from outside. -/
structure Figures where
  capacity : Nat
  used : Nat
  spans : List Span
  live : List Block
  alignment : Alignment
deriving DecidableEq

def figures (a : Arena) : Figures where
  capacity := a.capacity
  used := a.used
  spans := a.freeList.spans
  live := a.live.blocks
  alignment := a.alignment

/-- The answers of a run, each with the figures after it. -/
def report (a : Arena) : List (Kernel × Op Block) → List (Except Fault (Option Block) × Figures)
  | [] => []
  | o :: ops =>
    ((a.step o.1 o.2).result, (a.step o.1 o.2).state.figures) :: (a.step o.1 o.2).state.report ops

/-- The same operation but for what it writes, on two systems that grant what they can, each in its
own way. -/
def Matches (o o' : Kernel × Op Block) : Prop :=
  o.1.page ≠ 0 ∧ o'.1.page ≠ 0 ∧ o.2.outline = o'.2.outline

variable {ops ops' : List (Kernel × Op Block)} {o o' : Kernel × Op Block}

theorem figures_outline (a : Arena) : a.outline.figures = a.figures := by
  simp only [figures, capacity_outline]
  rfl

theorem step_matches (h : a.outline = c.outline) (ho : Matches o o') :
    (a.step o.1 o.2).result = (c.step o'.1 o'.2).result ∧
      (a.step o.1 o.2).state.outline = (c.step o'.1 o'.2).state.outline := by
  obtain ⟨hk, hk', hop⟩ := ho
  have hstep : (a.step o.1 o.2).outline = (c.step o'.1 o'.2).outline := by
    rw [step_outline hk, step_outline hk', h, hop]
  obtain ⟨hstate, hresult, -⟩ := Reply.mk.inj hstep
  exact ⟨hresult, hstate⟩

theorem report_matches (h : a.outline = c.outline) (hops : List.Forall₂ Matches ops ops') :
    a.report ops = c.report ops' := by
  induction hops generalizing a c with
  | nil => rfl
  | @cons o o' ops ops' ho _ ih =>
    obtain ⟨hresult, hstate⟩ := step_matches h ho
    have hfigures : (a.step o.1 o.2).state.figures = (c.step o'.1 o'.2).state.figures := by
      rw [← figures_outline, hstate, figures_outline]
    rw [report, report, hresult, hfigures, ih hstate]

/-- With the same data the runs also have the same history. -/
theorem history_matches (h : a.outline = c.outline) (hops : List.Forall₂ Matches ops ops')
    (hsame : ops.map Prod.snd = ops'.map Prod.snd) : a.history ops = c.history ops' := by
  induction hops generalizing a c with
  | nil => rfl
  | @cons o o' ops ops' ho _ ih =>
    obtain ⟨hop, hsame⟩ := List.cons.inj hsame
    obtain ⟨hresult, hstate⟩ := step_matches h ho
    have hstored : a.mapping.isSome = c.mapping.isSome := by
      have hmapping := congrArg (fun a : Arena => a.mapping.isSome) h
      simpa only [outline, Option.isSome_map] using hmapping
    have heffects : a.effects o.1 o.2 = c.effects o'.1 o'.2 := by
      rw [effects, effects, hstored, hresult, hop]
    rw [history, history, heffects, ih hstate hsame]

theorem outline_of_created (ha : a.Created) (hc : c.Created)
    (hset : { a.settings with zeroOnFree := false } = { c.settings with zeroOnFree := false }) :
    a.outline = c.outline := by
  obtain ⟨k, m, s, hm, rfl⟩ := ha.eq
  obtain ⟨k', m', s', hm', rfl⟩ := hc.eq
  have hinitial := congrArg Settings.effectiveInitial hset
  change s.effectiveInitial = s'.effectiveInitial at hinitial
  obtain ⟨-, -, hk, -⟩ := Mapping.create_eq_ok hm
  obtain ⟨-, -, hk', -⟩ := Mapping.create_eq_ok hm'
  have hsizes := Mapping.create_outline hk s.effectiveInitial
  rw [hm, hinitial, ← Mapping.create_outline hk', hm'] at hsizes
  have houtline : m.outline = m'.outline := Except.ok.inj hsizes
  simp only [outline, Option.map_some, houtline, hset]

/-- The block is alive, and `v` is the last byte that was stored at its position `i` since its
issue. -/
def Written (es : List Effect) (b : Block) (i : Nat) (v : UInt8) : Prop :=
  ∃ pre post, es = pre ++ .issued b :: post ∧ .freed b ∉ post ∧ .cleared ∉ post ∧
    lastStored b i post = some v

/-- The live blocks, and the bytes written to them, are as the history tells. -/
structure Recorded (es : List Effect) (a : Arena) : Prop where
  live : ∀ b, b ∈ a.live.blocks ↔ Alive b es
  bytes : ∀ b i v, i < b.len → Written es b i v → a.byte (b.offset + i) = v

variable {a₀ c₀ a' : Arena} {es : List Effect} {e : Effect} {i : Nat} {v : UInt8}

theorem Written.alive (h : Written es b i v) : Alive b es := by
  obtain ⟨pre, post, hes, hfreed, hcleared, -⟩ := h
  exact ⟨pre, post, hes, hfreed, hcleared⟩

/-- The last effect stored the byte, or left alone what was stored before. -/
theorem written_concat (h : Written (es ++ [e]) b i v) :
    Alive b es ∧ e ≠ .freed b ∧ e ≠ .cleared ∧
      (e.stored? b i = some v ∨ e.stored? b i = none ∧ Written es b i v) := by
  obtain ⟨pre, post, hes, hfreed, hcleared, hlast⟩ := h
  rcases split_concat hes with ⟨rfl, -⟩ | ⟨rest, rfl, rfl⟩
  · cases hlast
  · simp only [List.mem_append, List.mem_singleton, not_or] at hfreed hcleared
    rw [lastStored_append, lastStored_singleton] at hlast
    refine ⟨⟨pre, rest, rfl, hfreed.1, hcleared.1⟩, Ne.symm hfreed.2, Ne.symm hcleared.2, ?_⟩
    cases hstored : e.stored? b i with
    | some w =>
      rw [hstored] at hlast
      exact Or.inl hlast
    | none =>
      rw [hstored] at hlast
      exact Or.inr ⟨rfl, pre, rest, rfl, hfreed.1, hcleared.1, hlast⟩

theorem recorded_takes (hs : a.Sound) (h : Recorded es a) (ht : Takes k a e a') :
    Recorded (es ++ [e]) a' := by
  refine ⟨fun b => alive_takes hs (h.live b) ht, ?_⟩
  intro b i v hi hw
  obtain ⟨halive, hf, hc, hstored⟩ := written_concat hw
  rw [byte_takes hs ((h.live b).mpr halive) ht hf hc hi]
  rcases hstored with hsome | ⟨hnone, hbefore⟩
  · rw [hsome]
    rfl
  · rw [hnone]
    exact h.bytes b i v hi hbefore

theorem recorded_run (hc : a₀.Created) (ops : List (Kernel × Op Block)) :
    Recorded (a₀.history ops) (a₀.run ops) := by
  have hstart : Recorded [] a₀ := by
    refine ⟨fun _ => live_iff_alive_of_created hc, ?_⟩
    intro b i v hi hw
    exact (not_alive_nil hw.alive).elim
  exact run_rec (P := Recorded) (fun _ h => ⟨h.live, h.bytes⟩) recorded_takes hc.sound hstart ops

theorem read_of_written (hc : a₀.Created) (ops : List (Kernel × Op Block)) (hi : i < b.len)
    (h : Written (a₀.history ops) b i v) :
    ((a₀.run ops).read b).map (·[i]?) = .ok (some v) := by
  have hrecorded := recorded_run hc ops
  have hlive := (hrecorded.live b).mpr h.alive
  have hbyte := hrecorded.bytes b i v hi h
  rw [read_live (sound_run hc.sound ops) hlive]
  simp only [Except.map, payload, List.getElem?_map, List.getElem?_range' hi, Nat.one_mul,
    Option.map_some, hbyte]

/-- Neither the bytes written, nor whether released bytes are overwritten, nor the way storage grows
decides on anything that an arena answers, on its figures or on its live blocks. With the same data
written, what was written reads the same too. -/
theorem contents_never_decide (ha : a₀.Created) (hc : c₀.Created)
    (hset : { a₀.settings with zeroOnFree := false } = { c₀.settings with zeroOnFree := false })
    (hops : List.Forall₂ Matches ops ops') :
    a₀.report ops = c₀.report ops' ∧
    (ops.map Prod.snd = ops'.map Prod.snd →
      ∀ b i v, i < b.len → Written (a₀.history ops) b i v →
        ((a₀.run ops).read b).map (·[i]?) = .ok (some v) ∧
        ((c₀.run ops').read b).map (·[i]?) = .ok (some v)) := by
  have houtline := outline_of_created ha hc hset
  refine ⟨report_matches houtline hops, ?_⟩
  intro hsame b i v hi hw
  refine ⟨read_of_written ha ops hi hw, ?_⟩
  rw [history_matches houtline hops hsame] at hw
  exact read_of_written hc ops' hi hw

/-- A new arena that overwrites nothing. -/
def forgetful : Arena := { blank with settings := { zeroOnFree := false } }

/-- A value and some bytes, storage that grows, and a block issued where another was released. -/
def scribbled (k : Kernel) (data : List UInt8) : List (Kernel × Op Block) :=
  [.allocValue (.scalar false .w16) [0x0201], .alloc 8, .write ⟨2, 8, 0, 1⟩ 2 data, .alloc 6000,
    .free ⟨2, 8, 0, 1⟩, .alloc 5, .write ⟨2, 5, 0, 3⟩ 1 data].map (Prod.mk k)

theorem matches_scribbled {data data' : List UInt8} (hk : k.page ≠ 0) (hk' : k'.page ≠ 0) :
    List.Forall₂ Matches (scribbled k data) (scribbled k' data') := by
  simp [scribbled, Matches, Op.outline, hk, hk']

/-- Bytes that were not written since the issue may tell whether released bytes are overwritten. -/
theorem scribbled_unobserved :
    blank.report (scribbled ⟨1, true⟩ [7, 8]) = forgetful.report (scribbled ⟨9, false⟩ [1]) ∧
    ((blank.run (scribbled ⟨1, true⟩ [7, 8])).read ⟨2, 5, 0, 3⟩).map (·[2]?) = .ok (some 8) ∧
    ((forgetful.run (scribbled ⟨9, false⟩ [7, 8])).read ⟨2, 5, 0, 3⟩).map (·[2]?) =
      .ok (some 8) ∧
    ((blank.run (scribbled ⟨1, true⟩ [7, 8])).read ⟨2, 5, 0, 3⟩).map (·[3]?) = .ok (some 0) ∧
    ((forgetful.run (scribbled ⟨9, false⟩ [7, 8])).read ⟨2, 5, 0, 3⟩).map (·[3]?) =
      .ok (some 8) := by
  have hforgetful : forgetful.Created :=
    ⟨⟨1, true⟩, { zeroOnFree := false }, [.created defaultCapacity], rfl⟩
  have hwritten : Written (blank.history (scribbled ⟨1, true⟩ [7, 8])) ⟨2, 5, 0, 3⟩ 2 8 :=
    ⟨[.issued ⟨0, 2, 0, 0⟩, .wrote ⟨0, 2, 0, 0⟩ 0 [1, 2], .issued ⟨2, 8, 0, 1⟩,
      .wrote ⟨2, 8, 0, 1⟩ 2 [7, 8], .issued ⟨10, 6000, 0, 2⟩, .freed ⟨2, 8, 0, 1⟩],
      [.wrote ⟨2, 5, 0, 3⟩ 1 [7, 8]], by decide, by simp, by simp, rfl⟩
  have hgranted : ∀ data, List.Forall₂ Matches (scribbled ⟨1, true⟩ [7, 8])
      (scribbled ⟨9, false⟩ data) := fun _ => matches_scribbled (by decide) (by decide)
  obtain ⟨hreport, -⟩ := contents_never_decide created_blank hforgetful rfl (hgranted [1])
  obtain ⟨-, hbytes⟩ := contents_never_decide created_blank hforgetful rfl (hgranted [7, 8])
  obtain ⟨hread, hread'⟩ := hbytes rfl ⟨2, 5, 0, 3⟩ 2 8 (by decide) hwritten
  exact ⟨hreport, hread, hread', rfl, rfl⟩

end Arena

end ArenaAlloc
