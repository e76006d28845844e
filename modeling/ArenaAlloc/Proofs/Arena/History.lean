import ArenaAlloc.Proofs.Arena.Sound

/-! Operations and runs as lists of effects, so that what every effect keeps, every run keeps. -/
namespace ArenaAlloc.Arena

/-- The request for a block in an operation, without a value to store in it. -/
def Op.bare : Op Block → Op Block
  | .allocValue l _ => .alloc l.size
  | op => op

variable {k : Kernel} {a a' : Arena} {b : Block} {e : Effect} {es : List Effect} {op : Op Block}

theorem mem_of_issued (h : Takes k a (.issued b) a') : b ∈ a'.live.blocks := by
  cases h <;> exact List.mem_cons_self

theorem write_takes (hs : a.Sound) (hb : b ∈ a.live.blocks) (k : Kernel) (start : Nat)
    (data : List UInt8) :
    ∃ a', a.write b start data = .ok a' ∧ Takes k a (.wrote b start data) a' := by
  obtain ⟨m, hm, hstorage⟩ := hs.storage_of_mem hb
  have hwrite : a.write b start data = .ok { a with
      mapping := some (m.write (b.offset + start) (data.take (b.len - start))) } := by
    simp only [write, hstorage, Except.map]
  exact ⟨_, hwrite, .write (hs.find?_iff.mpr hb) hm⟩

theorem release_takes (k : Kernel) (hb : a.live.find? b.offset = some b) :
    Takes k a (.freed b) (a.release b).state := by
  simp only [release]
  split
  · rename_i hu
    exact .retract hb hu
  · rename_i hu
    exact .release hb hu

theorem alloc_takes (k : Kernel) (a : Arena) (n : Nat) :
    ∃ m, (∃ b, (a.alloc k n).result = .ok b ∧
        Takes k { a with alignment := m } (.issued b) (a.alloc k n).state) ∨
      (∃ f, (a.alloc k n).result = .error f ∧ (a.alloc k n).state = { a with alignment := m }) := by
  by_cases hn : n = 0
  · simp only [alloc, if_pos hn]
    exact ⟨a.alignment, Or.inr ⟨_, rfl, rfl⟩⟩
  · simp only [alloc, if_neg hn]
    exact ⟨_, place_takes (Nat.pos_of_ne_zero hn) _⟩

theorem allocAligned_takes (k : Kernel) (a : Arena) (n : Nat) :
    (∃ b, (a.allocAligned k n).result = .ok b ∧
        Takes k a (.issued b) (a.allocAligned k n).state) ∨
      (∃ f, (a.allocAligned k n).result = .error f ∧ (a.allocAligned k n).state = a) := by
  by_cases hn : n = 0
  · simp only [allocAligned, if_pos hn]
    exact Or.inr ⟨_, rfl, rfl⟩
  · simp only [allocAligned, if_neg hn]
    exact place_takes (Nat.pos_of_ne_zero hn) _

theorem teardown_takes (k : Kernel) (a : Arena) :
    TakesAll k a (if a.mapping.isSome then [.cleared] else []) a.teardown.state := by
  cases hm : a.mapping with
  | none =>
    simp only [teardown, hm]
    rfl
  | some m => exact ⟨_, .teardown hm, rfl⟩

/-- What an operation that asks for a block did: it issued one, stored a value there at most, or
changed nothing but the alignment state. -/
inductive Requests (k : Kernel) (a : Arena) (op : Op Block) (m : Alignment) : Prop
  | issued {b : Block} {es : List Effect} : a.effects k op = .issued b :: es →
      Takes k { a with alignment := m } (.issued b) (a.step k op.bare).state →
      TakesAll k (a.step k op.bare).state es (a.step k op).state →
      (∀ e ∈ es, ∃ start data, e = .wrote b start data) → Requests k a op m
  | failed : a.effects k op = [] → (a.step k op).state = { a with alignment := m } →
      Requests k a op m

theorem effects_of_result {r : Except Fault (Option Block)} (h : (a.step k op).result = r) :
    a.effects k op = Effect.told a.mapping.isSome op r := by
  simp only [effects, h]

theorem requests_alloc (k : Kernel) (a : Arena) (n : Nat) : ∃ m, Requests k a (.alloc n) m := by
  obtain ⟨m, ⟨b, hr, ht⟩ | ⟨f, hr, ha⟩⟩ := alloc_takes k a n
  · have hresult : (a.step k (.alloc n)).result = .ok (some b) := congrArg (Except.map some) hr
    exact ⟨m, .issued (effects_of_result hresult) ht rfl (by simp)⟩
  · have hresult : (a.step k (.alloc n)).result = .error f := congrArg (Except.map some) hr
    exact ⟨m, .failed (effects_of_result hresult) ha⟩

theorem requests_allocAligned (k : Kernel) (a : Arena) (n : Nat) :
    ∃ m, Requests k a (.allocAligned n) m := by
  obtain ⟨b, hr, ht⟩ | ⟨f, hr, ha⟩ := allocAligned_takes k a n
  · have hresult : (a.step k (.allocAligned n)).result = .ok (some b) :=
      congrArg (Except.map some) hr
    exact ⟨a.alignment, .issued (effects_of_result hresult) ht rfl (by simp)⟩
  · have hresult : (a.step k (.allocAligned n)).result = .error f := congrArg (Except.map some) hr
    exact ⟨a.alignment, .failed (effects_of_result hresult) ha⟩

/-- The new block is live, so that storing the value cannot fail. -/
theorem allocValue_takes {l : Layout} {m : Alignment} (hs : a.Sound)
    (hr : (a.alloc k l.size).result = .ok b)
    (ht : Takes k { a with alignment := m } (.issued b) (a.alloc k l.size).state) (v : List Int) :
    ∃ c, a.allocValue k l v = { a.alloc k l.size with state := c } ∧
      Takes k (a.alloc k l.size).state (.wrote b 0 (l.encode v)) c := by
  obtain ⟨c, hw, hc⟩ :=
    write_takes (sound_takes (hs.align m) ht) (mem_of_issued ht) k 0 (l.encode v)
  refine ⟨c, ?_, hc⟩
  simp only [allocValue, hr, hw]

theorem requests_allocValue (hs : a.Sound) (k : Kernel) (l : Layout) (v : List Int) :
    ∃ m, Requests k a (.allocValue l v) m := by
  obtain ⟨m, ⟨b, hr, ht⟩ | ⟨f, hr, ha⟩⟩ := alloc_takes k a l.size
  · obtain ⟨c, hvalue, hc⟩ := allocValue_takes hs hr ht v
    have hresult : (a.step k (.allocValue l v)).result = .ok (some b) := by
      simp only [step, hvalue, Reply.map, hr, Except.map]
    have hstate : (a.step k (.allocValue l v)).state = c := congrArg Reply.state hvalue
    exact ⟨m, .issued (effects_of_result hresult) ht ⟨c, hc, hstate⟩ (by simp)⟩
  · have hvalue : a.allocValue k l v = a.alloc k l.size := by simp only [allocValue, hr]
    have hresult : (a.step k (.allocValue l v)).result = .error f := by
      simp only [step, hvalue, Reply.map, hr, Except.map]
    have hstate : (a.step k (.allocValue l v)).state = { a with alignment := m } :=
      (congrArg Reply.state hvalue).trans ha
    exact ⟨m, .failed (effects_of_result hresult) hstate⟩

theorem requests (hs : a.Sound) (k : Kernel) (ho : op.allocates = true) :
    ∃ m, Requests k a op m := by
  cases op with
  | alloc n => exact requests_alloc k a n
  | allocAligned n => exact requests_allocAligned k a n
  | allocValue l v => exact requests_allocValue hs k l v
  | free | write | direct | reset | teardown => contradiction

theorem Requests.takesAll {m : Alignment} (h : Requests k a op m) :
    TakesAll k { a with alignment := m } (a.effects k op) (a.step k op).state := by
  cases h with
  | issued he ht hes _ =>
    rw [he]
    exact ⟨_, ht, hes⟩
  | failed he ha =>
    rw [he]
    exact ha

/-- Beside its effects an operation may change the alignment state, and nothing else. -/
theorem step_takes (hs : a.Sound) (k : Kernel) (op : Op Block) :
    ∃ m, TakesAll k { a with alignment := m } (a.effects k op) (a.step k op).state := by
  by_cases ho : op.allocates = true
  · obtain ⟨m, h⟩ := requests hs k ho
    exact ⟨m, h.takesAll⟩
  cases op with
  | alloc | allocAligned | allocValue => exact (ho rfl).elim
  | free b =>
    refine ⟨a.alignment, ?_⟩
    rw [effects, step, Reply.map]
    cases hv : a.verify b with
    | ok =>
      rw [free_of_verify hv, release_result]
      exact ⟨_, release_takes k (verify_eq_ok_iff.mp hv), rfl⟩
    | error f =>
      obtain ⟨hr, ha⟩ := free_of_verify_error hv
      rw [hr, ha]
      rfl
  | write b start data =>
    refine ⟨a.alignment, ?_⟩
    rw [effects, step]
    cases hw : a.write b start data with
    | error f => exact rfl
    | ok c =>
      obtain ⟨m, hm, rfl⟩ := Mapping.map_eq_ok hw
      obtain ⟨hv, hm⟩ := storage_eq_ok_iff.mp hm
      exact ⟨_, .write (verify_eq_ok_iff.mp hv) hm, rfl⟩
  | direct d => exact ⟨a.alignment.after d, rfl⟩
  | reset => exact ⟨a.alignment, _, .reset, rfl⟩
  | teardown => exact ⟨a.alignment, teardown_takes k a⟩

theorem sound_step (hs : a.Sound) (k : Kernel) (op : Op Block) : (a.step k op).state.Sound := by
  obtain ⟨m, ht⟩ := step_takes hs k op
  exact sound_takesAll (hs.align m) ht

theorem sound_run (hs : a.Sound) (ops : List (Kernel × Op Block)) : (a.run ops).Sound := by
  induction ops generalizing a with
  | nil => exact hs
  | cons o ops ih => exact ih (sound_step hs o.1 o.2)

theorem run_append (a : Arena) (ops more : List (Kernel × Op Block)) :
    a.run (ops ++ more) = (a.run ops).run more :=
  List.foldl_append

theorem history_append (a : Arena) (ops more : List (Kernel × Op Block)) :
    a.history (ops ++ more) = a.history ops ++ (a.run ops).history more := by
  induction ops generalizing a with
  | nil => rfl
  | cons o ops ih =>
    rw [List.cons_append, history, history, ih, List.append_assoc]
    rfl

/-- The one induction over runs: what holds at the start, and is kept by every effect and by any
change of the alignment state, holds at the end of a run and of its history. -/
theorem run_rec {P : List Effect → Arena → Prop}
    (halign : ∀ {es a} m, P es a → P es { a with alignment := m })
    (htakes : ∀ {k es a e a'}, a.Sound → P es a → Takes k a e a' → P (es ++ [e]) a')
    (hs : a.Sound) (h : P es a) (ops : List (Kernel × Op Block)) :
    P (es ++ a.history ops) (a.run ops) := by
  have hall : ∀ {k es a es' a'}, a.Sound → P es a → TakesAll k a es' a' → P (es ++ es') a' := by
    intro k es a es' a' hs h ht
    induction es' generalizing es a with
    | nil =>
      obtain rfl : a' = a := ht
      simpa using h
    | cons e es' ih =>
      obtain ⟨c, hc, ht⟩ := ht
      have := ih (sound_takes hs hc) (htakes hs h hc) ht
      rwa [List.append_assoc, List.singleton_append] at this
  induction ops generalizing a es with
  | nil =>
    rw [history, List.append_nil]
    exact h
  | cons o ops ih =>
    obtain ⟨m, ht⟩ := step_takes hs o.1 o.2
    have := ih (sound_step hs o.1 o.2) (hall (hs.align m) (halign m h) ht)
    rwa [List.append_assoc] at this

/-- An arena right after its creation. -/
def Created (a : Arena) : Prop := ∃ k s events, create k s = .ok (a, events)

/-- An arena after any run from its creation. -/
def Reachable (a : Arena) : Prop := ∃ (a₀ : Arena) (ops : _), a₀.Created ∧ a = a₀.run ops

theorem Created.eq (h : a.Created) :
    ∃ k m s, Mapping.create k s.effectiveInitial = .ok m ∧
      a = { mapping := some m, settings := s } := by
  obtain ⟨k, s, events, h⟩ := h
  obtain ⟨_, -, h⟩ := Mapping.bind_eq_ok h
  obtain ⟨m, hm, h⟩ := Mapping.bind_eq_ok h
  cases h
  exact ⟨k, m, s, hm, rfl⟩

theorem Created.sound (h : a.Created) : a.Sound := by
  obtain ⟨k, m, s, -, rfl⟩ := h.eq
  exact ⟨Slots.counted_nil, by simp, Tiles.nil, Nat.zero_le _⟩

theorem Reachable.sound (h : a.Reachable) : a.Sound := by
  obtain ⟨a₀, ops, hc, rfl⟩ := h
  exact sound_run hc.sound ops

/-- What a new arena has, and alignment states and effects keep, every reachable arena has. -/
theorem Reachable.keeps {P : Arena → Prop} (hnew : ∀ {a}, a.Created → P a)
    (halign : ∀ {a} m, P a → P { a with alignment := m })
    (htakes : ∀ {k a e a'}, P a → Takes k a e a' → P a') (h : a.Reachable) : P a := by
  obtain ⟨a₀, ops, hc, rfl⟩ := h
  exact @run_rec a₀ [] (fun _ a => P a) halign (fun _ hp ht => htakes hp ht) hc.sound (hnew hc) ops

theorem Reachable.step (h : a.Reachable) (k : Kernel) (op : Op Block) :
    (a.step k op).state.Reachable := by
  obtain ⟨a₀, ops, hc, rfl⟩ := h
  exact ⟨a₀, ops ++ [(k, op)], hc, by rw [run_append]; rfl⟩

theorem Reachable.run (h : a.Reachable) (ops : List (Kernel × Op Block)) :
    (a.run ops).Reachable := by
  obtain ⟨a₀, front, hc, rfl⟩ := h
  exact ⟨a₀, front ++ ops, hc, (run_append _ _ _).symm⟩

end ArenaAlloc.Arena
